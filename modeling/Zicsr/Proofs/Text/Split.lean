import Zicsr.Proofs.Text.Trim

/-
  Cutting, and putting the pieces together again.

  A joined text splits into the texts that were joined, as long as none of them
  holds the separator; with a blank after each separator this is so up to
  trimming (`map_trim_split_intercalate`). Blanks at the ends of the whole text
  only ever end up at the ends of its pieces, so pieces that are trimmed anyway
  do not see them (`map_trim_split_trim`).
-/

namespace Zicsr.Text

variable {p : Char → Bool}

/-! ## Cutting at every separator -/

theorem split_eq_splitOnP (p : Char → Bool) (t : Text) : split p t = t.splitOnP p := by
  induction t with
  | nil => rfl
  | cons c t ih => rw [List.splitOnP_cons_eq_if_modifyHead, split, ih]

theorem forall_beq_of_not_mem {t : Text} {s : Char} (h : s ∉ t) : ∀ c ∈ t, (c == s) = false := by
  intro c hc
  rw [beq_eq_false_iff_ne]
  intro heq
  subst heq
  exact h hc

theorem split_of_forall_not {t : Text} (h : ∀ c ∈ t, p c = false) : split p t = [t] := by
  rw [split_eq_splitOnP, List.splitOnP_eq_singleton h]

theorem split_append_cons {a : Text} {c : Char} (ha : ∀ d ∈ a, p d = false) (hc : p c = true)
    (b : Text) : split p (a ++ c :: b) = a :: split p b := by
  rw [split_eq_splitOnP, List.splitOnP_append_cons_of_forall_mem ha c hc, split_eq_splitOnP]

theorem split_append_separator {c : Char} (hc : p c = true) (a b : Text) :
    split p (a ++ c :: b) = split p a ++ split p b := by
  induction a with
  | nil => simp only [List.nil_append, split, hc, if_true, List.cons_append]
  | cons d a ih =>
    rw [List.cons_append, split, split, ih]
    cases p d with
    | true => rfl
    | false =>
      -- The character joins the first piece, which is one of `a`.
      cases h : split p a with
      | nil => exact absurd h (split_ne_nil p a)
      | cons piece more => rfl

theorem not_of_mem_split {t piece : Text} (hm : piece ∈ split p t) : ∀ c ∈ piece, p c = false := by
  induction t generalizing piece with
  | nil =>
    rw [List.mem_singleton.mp hm]
    exact fun c hc => absurd hc List.not_mem_nil
  | cons d t ih =>
    rw [split] at hm
    cases hd : p d with
    | true =>
      rw [hd, if_pos rfl] at hm
      rcases List.mem_cons.mp hm with rfl | hm
      · exact fun c hc => absurd hc List.not_mem_nil
      · exact ih hm
    | false =>
      rw [hd, if_neg (by decide)] at hm
      cases h : split p t with
      | nil => exact absurd h (split_ne_nil p t)
      | cons first more =>
        rw [h, List.modifyHead_cons] at hm
        rcases List.mem_cons.mp hm with rfl | hm
        · exact List.forall_mem_cons.mpr ⟨hd, ih (h ▸ List.mem_cons_self)⟩
        · exact ih (h ▸ List.mem_cons_of_mem first hm)

theorem length_split (p : Char → Bool) (t : Text) : (split p t).length = t.countP p + 1 := by
  induction t with
  | nil => rfl
  | cons c t ih =>
    rw [split, List.countP_cons]
    cases p c with
    | true => rw [if_pos rfl, if_pos rfl, List.length_cons, ih]
    | false => rw [if_neg (by decide), if_neg (by decide), List.length_modifyHead, ih]

theorem split_cons_of_not {c : Char} (h : p c = false) (t : Text) :
    split p (c :: t) = (split p t).modifyHead (c :: ·) := by
  rw [split, if_neg (by simp [h])]

theorem exists_split_eq_cons (p : Char → Bool) (t : Text) :
    ∃ piece more, split p t = piece :: more := by
  cases h : split p t with
  | nil => exact absurd h (split_ne_nil p t)
  | cons piece more => exact ⟨piece, more, rfl⟩

section Blanks

-- Separators are not blank.
variable (hp : ∀ c, p c = true → isBlank c = false)

include hp

theorem not_of_isBlank {c : Char} (hc : isBlank c = true) : p c = false := by
  cases h : p c with
  | false => rfl
  | true => simp [hp c h] at hc

theorem split_of_allBlank {t : Text} (h : AllBlank t) : split p t = [t] :=
  split_of_forall_not (fun c hc => not_of_isBlank hp (h c hc))

theorem map_trimEnd_split_trimEnd (t : Text) :
    (split p (trimEnd t)).map trimEnd = (split p t).map trimEnd := by
  induction t with
  | nil => rfl
  | cons c t ih =>
    rw [trimEnd_cons]
    by_cases h : trimEnd t = [] ∧ isBlank c = true
    · -- The whole text is blank: one piece on both sides.
      have ht : AllBlank (c :: t) :=
        List.forall_mem_cons.mpr ⟨h.2, trimEnd_eq_nil_iff.mp h.1⟩
      rw [if_pos h, split_of_allBlank hp ht, List.map_singleton, trimEnd_eq_nil_iff.mpr ht]
      rfl
    · rw [if_neg h]
      cases hc : p c with
      | true => simp only [split, hc, if_true, List.map_cons, ih]
      | false =>
        -- The character joins the first piece on both sides.
        obtain ⟨x, xs, hx⟩ := exists_split_eq_cons p (trimEnd t)
        obtain ⟨y, ys, hy⟩ := exists_split_eq_cons p t
        rw [hx, hy, List.map_cons, List.map_cons] at ih
        obtain ⟨hxy, hxs⟩ := List.cons.inj ih
        rw [split_cons_of_not hc, split_cons_of_not hc, hx, hy]
        simp [trimEnd_cons, hxy, hxs]

theorem map_trimStart_split_trimStart (t : Text) :
    (split p (trimStart t)).map trimStart = (split p t).map trimStart := by
  induction t with
  | nil => rfl
  | cons c t ih =>
    rw [trimStart_cons]
    cases hc : isBlank c with
    | false => rfl
    | true =>
      -- The blank joins the first piece, and is trimmed from it.
      obtain ⟨y, ys, hy⟩ := exists_split_eq_cons p t
      rw [if_pos rfl, ih, split_cons_of_not (not_of_isBlank hp hc), hy]
      simp [trimStart_cons, hc]

/-- Trimming a text before it is split is no different from trimming its pieces
alone. -/
theorem map_trim_split_trim (t : Text) : (split p (trim t)).map trim = (split p t).map trim := by
  have hend : ∀ s, (split p (trimEnd s)).map trim = (split p s).map trim := fun s => by
    have h := congrArg (List.map trimStart) (map_trimEnd_split_trimEnd hp s)
    simpa [List.map_map, Function.comp_def, trimStart_trimEnd] using h
  have hstart : (split p (trimStart t)).map trim = (split p t).map trim := by
    have h := congrArg (List.map trimEnd) (map_trimStart_split_trimStart hp t)
    simp only [List.map_map] at h
    exact h
  rw [trim, hend, hstart]

end Blanks

theorem mem_intercalate {sep : Text} {ts : List Text} {c : Char}
    (h : c ∈ List.intercalate sep ts) : c ∈ sep ∨ ∃ t ∈ ts, c ∈ t := by
  induction ts with
  | nil => exact absurd h List.not_mem_nil
  | cons t ts ih =>
    by_cases hnil : ts = []
    · subst hnil
      rw [List.intercalate_singleton] at h
      exact .inr ⟨t, List.mem_cons_self, h⟩
    · rw [List.intercalate_cons_of_ne_nil hnil, List.mem_append, List.mem_append] at h
      rcases h with (h | h) | h
      · exact .inr ⟨t, List.mem_cons_self, h⟩
      · exact .inl h
      · rcases ih h with h | ⟨s, hs, h⟩
        · exact .inl h
        · exact .inr ⟨s, List.mem_cons_of_mem t hs, h⟩

theorem map_trim_split_intercalate {s b : Char} (hb : isBlank b = true) (hsb : (b == s) = false)
    {ts : List Text} (hne : ts ≠ []) (hts : ∀ t ∈ ts, s ∉ t) :
    (split (· == s) (List.intercalate [s, b] ts)).map trim = ts.map trim := by
  induction ts with
  | nil => exact absurd rfl hne
  | cons t ts ih =>
    obtain ⟨ht, hrest⟩ := List.forall_mem_cons.mp hts
    have hnot : ∀ c ∈ t, (c == s) = false := forall_beq_of_not_mem ht
    by_cases hnil : ts = []
    · subst hnil
      rw [List.intercalate_singleton, split_of_forall_not hnot]
    · -- The blank goes to the first piece of the rest, which is trimmed as if it were not there.
      have hjoin : List.intercalate [s, b] (t :: ts) =
          t ++ s :: (b :: List.intercalate [s, b] ts) := by
        rw [List.intercalate_cons_of_ne_nil hnil]; simp
      obtain ⟨y, ys, hy⟩ := exists_split_eq_cons (· == s) (List.intercalate [s, b] ts)
      have ih := ih hnil hrest
      rw [hy] at ih
      rw [hjoin, split_append_cons hnot (by simp), split_cons_of_not (p := (· == s)) hsb, hy,
        List.map_cons, List.map_cons, ← ih]
      simp [trim, trimStart_cons, hb]

/-! ## Cutting at the first separator -/

theorem cutAt?_append_cons {a : Text} {c : Char} (ha : ∀ d ∈ a, p d = false) (hc : p c = true)
    (b : Text) : cutAt? p (a ++ c :: b) = some (a, b) := by
  have hnot : ∀ d ∈ a, (!p d) = true := fun d hd => by simp [ha d hd]
  unfold cutAt?
  rw [List.dropWhile_append_of_pos hnot, List.takeWhile_append_of_pos hnot]
  simp [hc]

theorem cutAt?_of_forall_not {t : Text} (h : ∀ c ∈ t, p c = false) : cutAt? p t = none := by
  unfold cutAt?
  have hnil : t.dropWhile (fun c => !p c) = [] := by
    induction t with
    | nil => rfl
    | cons c t ih =>
      obtain ⟨hc, ht⟩ := List.forall_mem_cons.mp h
      rw [List.dropWhile_cons, if_pos (by simp [hc]), ih ht]
  rw [hnil]

theorem cutAt?_cons (c : Char) (t : Text) :
    cutAt? p (c :: t) =
      if p c then some ([], t) else (cutAt? p t).map (fun (a, b) => (c :: a, b)) := by
  unfold cutAt?
  rw [List.dropWhile_cons, List.takeWhile_cons]
  cases p c with
  | true => rfl
  | false => cases t.dropWhile (fun c => !p c) <;> rfl

theorem cutAt?_eq_some_iff {t a b : Text} :
    cutAt? p t = some (a, b) ↔ (∀ d ∈ a, p d = false) ∧ ∃ c, p c = true ∧ t = a ++ c :: b := by
  constructor
  · intro h
    induction t generalizing a with
    | nil => cases h
    | cons c t ih =>
      rw [cutAt?_cons] at h
      cases hc : p c with
      | true =>
        rw [hc, if_pos rfl] at h
        cases h
        exact ⟨by simp, c, hc, rfl⟩
      | false =>
        rw [hc, if_neg (by decide)] at h
        obtain ⟨⟨a', b'⟩, hcut, heq⟩ := Option.map_eq_some_iff.mp h
        cases heq
        obtain ⟨ha, d, hd, rfl⟩ := ih hcut
        exact ⟨List.forall_mem_cons.mpr ⟨hc, ha⟩, d, hd, rfl⟩
  · intro h
    obtain ⟨ha, c, hc, rfl⟩ := h
    exact cutAt?_append_cons ha hc b

theorem cutAt?_eq_none_iff {t : Text} : cutAt? p t = none ↔ ∀ c ∈ t, p c = false := by
  refine ⟨fun h => ?_, cutAt?_of_forall_not⟩
  induction t with
  | nil => simp
  | cons c t ih =>
    rw [cutAt?_cons] at h
    cases hc : p c with
    | true => simp [hc] at h
    | false =>
      rw [hc, if_neg (by decide), Option.map_eq_none_iff] at h
      exact List.forall_mem_cons.mpr ⟨hc, ih h⟩

theorem dropEnd?_append_singleton (c : Char) (t : Text) : dropEnd? c (t ++ [c]) = some t := by
  simp [dropEnd?]

theorem dropEnd?_eq_some_iff {c : Char} {t u : Text} : dropEnd? c t = some u ↔ t = u ++ [c] := by
  constructor
  · intro h
    unfold dropEnd? at h
    split at h
    · next hlast =>
      obtain ⟨v, rfl⟩ := List.getLast?_eq_some_iff.mp hlast
      rw [List.dropLast_concat] at h
      rw [Option.some.inj h]
    · cases h
  · intro h
    rw [h, dropEnd?_append_singleton]

/-! ## Lines -/

theorem dropReturn_of_not_mem {t : Text} (h : '\r' ∉ t) : dropReturn t = t := by
  have hlast : t.getLast? ≠ some '\r' := fun hl => h (List.mem_of_getLast? hl)
  simp [dropReturn, dropEnd?, hlast]

theorem closeLines_cons {more : List Text} (hne : more ≠ []) (piece : Text) :
    closeLines (piece :: more) = dropReturn piece :: closeLines more := by
  cases more with
  | nil => exact absurd rfl hne
  | cons next more => rfl

theorem closeLines_append {ps : List Text} (hne : ps ≠ []) (ts : List Text) :
    closeLines (ts ++ ps) = ts.map dropReturn ++ closeLines ps := by
  induction ts with
  | nil => rfl
  | cons t ts ih =>
    rw [List.cons_append, closeLines_cons (List.append_ne_nil_of_right_ne_nil ts hne), ih,
      List.map_cons, List.cons_append]

/-- A newline ends a line, so every piece before it is one. -/
theorem lines_append_newline (a b : Text) :
    lines (a ++ '\n' :: b) = (split (· == '\n') a).map dropReturn ++ lines b := by
  rw [lines, split_append_separator (by decide), closeLines_append (split_ne_nil _ b), ← lines]

theorem closeLines_of_forall {ts : List Text} (h : ∀ t ∈ ts, t ≠ [] ∧ '\r' ∉ t) :
    closeLines ts = ts := by
  induction ts with
  | nil => rfl
  | cons t ts ih =>
    obtain ⟨ht, hrest⟩ := List.forall_mem_cons.mp h
    cases ts with
    | nil => simp [closeLines, ht.1]
    | cons t' ts => rw [closeLines, dropReturn_of_not_mem ht.2, ih hrest]; simp

/-- Texts joined by newlines are the lines of the joined text, if each is a line
that says something and holds no line end itself. -/
theorem lines_intercalate {ts : List Text} (h : ∀ t ∈ ts, t ≠ [] ∧ '\n' ∉ t ∧ '\r' ∉ t) :
    lines (List.intercalate ['\n'] ts) = ts := by
  by_cases hnil : ts = []
  · subst hnil; rfl
  · have hsplit : split (· == '\n') (List.intercalate ['\n'] ts) = ts := by
      rw [split_eq_splitOnP, ← List.splitOn_eq_splitOnP]
      exact List.splitOn_intercalate '\n' (fun t ht => (h t ht).2.1) hnil
    rw [lines, hsplit, closeLines_of_forall (fun t ht => ⟨(h t ht).1, (h t ht).2.2⟩)]

/-- Lines that are written one after the other are read back, if none holds a
line end itself. -/
theorem lines_unlines {ts : List Text} (h : ∀ t ∈ ts, '\n' ∉ t ∧ '\r' ∉ t) :
    lines (unlines ts) = ts := by
  induction ts with
  | nil => rfl
  | cons t ts ih =>
    obtain ⟨⟨hnewline, hreturn⟩, hrest⟩ := List.forall_mem_cons.mp h
    have hsplit : split (· == '\n') t = [t] := split_of_forall_not (forall_beq_of_not_mem hnewline)
    have hcons : unlines (t :: ts) = t ++ '\n' :: unlines ts := by
      simp [unlines]
    rw [hcons, lines_append_newline, hsplit, List.map_singleton, dropReturn_of_not_mem hreturn,
      ih hrest, List.singleton_append]

end Zicsr.Text
