import Mathlib.Data.List.Forall2
import Zicsr.Proofs.Text.Split

/-
  Texts with blanks around them.

  Padding is what trimming takes away: every text pads its trimmed self
  (`padded_trim`), and a padded text is trimmed like the text inside it
  (`Padded.trim_eq`). A list of texts may be written with commas between them and
  blanks around each (`Listed`); splitting at the commas and trimming the pieces
  gives back the texts, trimmed (`Listed.map_trim_split`), and every text is
  written so for the pieces it splits into (`listed_split`).
-/

namespace Zicsr.Text

instance (t : Text) : Decidable (AllBlank t) :=
  decidable_of_iff (t.all isBlank = true) List.all_eq_true

/-! ## Blanks at the ends -/

theorem trimEnd_append_of_allBlank {b : Text} (hb : AllBlank b) (a : Text) :
    trimEnd (a ++ b) = trimEnd a := by
  induction a with
  | nil => rw [List.nil_append, trimEnd_eq_nil_iff.mpr hb, trimEnd_nil]
  | cons c a ih => rw [List.cons_append, trimEnd_cons, trimEnd_cons, ih]

theorem trimStart_append_of_allBlank {a : Text} (ha : AllBlank a) (b : Text) :
    trimStart (a ++ b) = trimStart b := by
  induction a with
  | nil => rfl
  | cons c a ih =>
    obtain ⟨hc, hrest⟩ := List.forall_mem_cons.mp ha
    rw [List.cons_append, trimStart_cons, if_pos hc, ih hrest]

theorem trim_append_of_allBlank {b : Text} (hb : AllBlank b) (a : Text) :
    trim (a ++ b) = trim a := by
  rw [← trimStart_trimEnd, trimEnd_append_of_allBlank hb, trimStart_trimEnd]

theorem exists_eq_trimEnd_append (t : Text) : ∃ r, AllBlank r ∧ t = trimEnd t ++ r := by
  induction t with
  | nil => exact ⟨[], by simp [AllBlank], rfl⟩
  | cons c t ih =>
    obtain ⟨r, hr, ht⟩ := ih
    rw [trimEnd_cons]
    by_cases h : trimEnd t = [] ∧ isBlank c = true
    · rw [if_pos h]
      exact ⟨c :: t, List.forall_mem_cons.mpr ⟨h.2, trimEnd_eq_nil_iff.mp h.1⟩, rfl⟩
    · rw [if_neg h]
      exact ⟨r, hr, by rw [List.cons_append, ← ht]⟩

theorem exists_eq_append_trimStart (t : Text) : ∃ l, AllBlank l ∧ t = l ++ trimStart t := by
  induction t with
  | nil => exact ⟨[], by simp [AllBlank], rfl⟩
  | cons c t ih =>
    obtain ⟨l, hl, ht⟩ := ih
    cases hc : isBlank c with
    | true =>
      rw [trimStart_cons, if_pos hc]
      exact ⟨c :: l, List.forall_mem_cons.mpr ⟨hc, hl⟩, by rw [List.cons_append, ← ht]⟩
    | false =>
      rw [trimStart_cons_of_not_blank hc]
      exact ⟨[], by simp [AllBlank], rfl⟩

theorem trimStart_trim (t : Text) : trimStart (trim t) = trim t := by
  rw [trim, trimStart_trimEnd, trim_trimStart, ← trim]

theorem eq_nil_of_trim_append {a b : Text} (h : trim (a ++ b) = a ++ b) (hb : AllBlank b) :
    b = [] := by
  have hend : a ++ b = trimEnd a := by
    calc a ++ b = trimEnd (trim (a ++ b)) := by rw [trim, trimEnd_trimEnd, ← trim, h]
      _ = trimEnd (a ++ b) := by rw [h]
      _ = trimEnd a := trimEnd_append_of_allBlank hb a
  obtain ⟨r, -, ha⟩ := exists_eq_trimEnd_append a
  -- So all of `a` and `b` is what stays of `a`.
  have hlen := congrArg List.length hend
  have hlen' := congrArg List.length ha
  rw [List.length_append] at hlen hlen'
  exact List.eq_nil_of_length_eq_zero (by omega)

/-- A trimmed text does not start with a blank, nor does a text that it begins with. -/
theorem trimStart_of_trim_append {a b : Text} (h : trim (a ++ b) = a ++ b) : trimStart a = a := by
  cases a with
  | nil => rfl
  | cons c a =>
    cases hc : isBlank c with
    | false => exact trimStart_cons_of_not_blank hc a
    | true =>
      have hstart : trimStart (c :: (a ++ b)) = c :: (a ++ b) := by
        rw [← List.cons_append, ← h, trimStart_trim]
      rw [trimStart_cons, if_pos hc] at hstart
      -- Then less than the whole text would be left.
      have hlen : (trimStart (a ++ b)).length ≤ (a ++ b).length :=
        (List.dropWhile_suffix isBlank).length_le
      rw [hstart, List.length_cons] at hlen
      omega

/-! ## Padded texts -/

/-- Whether the second text is the first with blanks around it. -/
def Padded (o t : Text) : Prop := ∃ l r, AllBlank l ∧ AllBlank r ∧ t = l ++ o ++ r

theorem padded_self (t : Text) : Padded t t := ⟨[], [], by decide, by decide, by simp⟩

theorem padded_trim (t : Text) : Padded (trim t) t := by
  obtain ⟨l, hl, ht⟩ := exists_eq_append_trimStart t
  obtain ⟨r, hr, hs⟩ := exists_eq_trimEnd_append (trimStart t)
  refine ⟨l, r, hl, hr, ?_⟩
  rw [trim, List.append_assoc, ← hs, ← ht]

namespace Padded

variable {o t : Text}

theorem trim_eq (h : Padded o t) : trim t = trim o := by
  obtain ⟨l, r, hl, hr, rfl⟩ := h
  rw [trim_append_of_allBlank hr, trim, trimStart_append_of_allBlank hl, ← trim]

theorem not_mem (h : Padded o t) {c : Char} (hc : isBlank c = false) (ho : c ∉ o) : c ∉ t := by
  obtain ⟨l, r, hl, hr, rfl⟩ := h
  have hno : ∀ {b : Text}, AllBlank b → c ∉ b := fun hb hm => by
    have hblank := hb c hm
    simp [hc] at hblank
  simp [hno hl, hno hr, ho]

end Padded

/-! ## Lists of texts -/

/-- Whether the text lists the texts: with commas between them, and blanks around
each. -/
def Listed (ops : List Text) (t : Text) : Prop :=
  ∃ pieces, List.Forall₂ Padded ops pieces ∧ t = List.intercalate [','] pieces

theorem intercalate_split (s : Char) (t : Text) : List.intercalate [s] (split (· == s) t) = t := by
  rw [split_eq_splitOnP, ← List.splitOn_eq_splitOnP, List.intercalate_splitOn]

theorem split_intercalate {s : Char} {ts : List Text} (hts : ∀ t ∈ ts, s ∉ t) (hne : ts ≠ []) :
    split (· == s) (List.intercalate [s] ts) = ts := by
  rw [split_eq_splitOnP, ← List.splitOn_eq_splitOnP, List.splitOn_intercalate s hts hne]

theorem listed_intercalate (ops : List Text) : Listed ops (List.intercalate [','] ops) :=
  ⟨ops, List.forall₂_same.mpr fun o _ => padded_self o, rfl⟩

/-- Every text lists the trimmed pieces between its commas. -/
theorem listed_split (t : Text) : Listed ((split (· == ',') t).map trim) t := by
  refine ⟨split (· == ',') t, ?_, (intercalate_split ',' t).symm⟩
  rw [List.forall₂_map_left_iff]
  exact List.forall₂_same.mpr fun piece _ => padded_trim piece

theorem exists_of_mem_forall₂ {R : Text → Text → Prop} {ts us : List Text}
    (h : List.Forall₂ R ts us) {u : Text} (hu : u ∈ us) : ∃ t ∈ ts, R t u := by
  induction h with
  | nil => exact absurd hu List.not_mem_nil
  | @cons t v ts us hrel _ ih =>
    rcases List.mem_cons.mp hu with rfl | hu
    · exact ⟨t, List.mem_cons_self, hrel⟩
    · obtain ⟨s, hs, hrel'⟩ := ih hu
      exact ⟨s, List.mem_cons_of_mem t hs, hrel'⟩

theorem map_trim_of_forall₂ {ops pieces : List Text} (h : List.Forall₂ Padded ops pieces) :
    pieces.map trim = ops.map trim := by
  induction h with
  | nil => rfl
  | cons hpad _ ih => rw [List.map_cons, List.map_cons, hpad.trim_eq, ih]

namespace Listed

variable {ops : List Text} {t : Text}

theorem not_mem (h : Listed ops t) {c : Char} (hc : isBlank c = false) (hcomma : c ≠ ',')
    (hops : ∀ o ∈ ops, c ∉ o) : c ∉ t := by
  obtain ⟨pieces, hpieces, rfl⟩ := h
  intro hm
  rcases mem_intercalate hm with hm | ⟨piece, hpiece, hm⟩
  · exact hcomma (List.mem_singleton.mp hm)
  · obtain ⟨o, ho, hpad⟩ := exists_of_mem_forall₂ hpieces hpiece
    exact hpad.not_mem hc (hops o ho) hm

theorem map_trim_split (h : Listed ops t) (hne : ops ≠ []) (hops : ∀ o ∈ ops, ',' ∉ o) :
    (split (· == ',') t).map trim = ops.map trim := by
  obtain ⟨pieces, hpieces, rfl⟩ := h
  have hcomma : ∀ piece ∈ pieces, ',' ∉ piece := fun piece hpiece => by
    obtain ⟨o, ho, hpad⟩ := exists_of_mem_forall₂ hpieces hpiece
    exact hpad.not_mem (by decide) (hops o ho)
  have hnil : pieces ≠ [] := by
    intro heq
    subst heq
    exact hne (List.forall₂_nil_right_iff.mp hpieces)
  rw [split_intercalate hcomma hnil, map_trim_of_forall₂ hpieces]

theorem comma_mem (h : Listed ops t) (h2 : 2 ≤ ops.length) : ',' ∈ t := by
  obtain ⟨pieces, hpieces, rfl⟩ := h
  rw [hpieces.length_eq] at h2
  match pieces, h2 with
  | piece :: piece' :: pieces, _ => simp [List.intercalate_cons_cons]

end Listed

end Zicsr.Text
