import Zicsr.Text.Split

/-
  Trimming.

  `trimEnd` is a right-to-left fold in disguise (`trimEnd_cons`): a character
  stays unless it is blank and nothing stays after it. From this one equation
  come that the two ends can be trimmed in either order, that trimming again
  changes nothing, and that a text which is not all blank shields whatever stands
  before it.
-/

namespace Zicsr.Text

def AllBlank (t : Text) : Prop := ∀ c ∈ t, isBlank c = true

def NoBlank (t : Text) : Prop := ∀ c ∈ t, isBlank c = false

@[simp] theorem trimEnd_nil : trimEnd [] = [] := rfl

/-! ## The end of a text -/

theorem trimEnd_cons (c : Char) (t : Text) :
    trimEnd (c :: t) = if trimEnd t = [] ∧ isBlank c = true then [] else c :: trimEnd t := by
  unfold trimEnd
  rw [List.reverse_cons, List.dropWhile_append]
  by_cases ht : t.reverse.dropWhile isBlank = []
  · cases hc : isBlank c <;> simp [ht, hc]
  · simp [ht]

theorem trimEnd_cons_of_not_blank {c : Char} (h : isBlank c = false) (t : Text) :
    trimEnd (c :: t) = c :: trimEnd t := by
  rw [trimEnd_cons, if_neg (by simp [h])]

theorem trimEnd_eq_nil_iff {t : Text} : trimEnd t = [] ↔ AllBlank t := by
  induction t with
  | nil => simp [AllBlank]
  | cons c t ih =>
    rw [trimEnd_cons]
    by_cases h : trimEnd t = [] ∧ isBlank c = true
    · have ht := ih.mp h.1
      simpa [h, AllBlank] using ht
    · rw [if_neg h]
      simp only [AllBlank, List.forall_mem_cons] at ih ⊢
      grind

theorem trimEnd_append {b : Text} (h : ¬ AllBlank b) (a : Text) :
    trimEnd (a ++ b) = a ++ trimEnd b := by
  -- Something stays of `b`, so by induction from the right all of `a` stays.
  have hb : trimEnd b ≠ [] := fun hb => h (trimEnd_eq_nil_iff.mp hb)
  induction a with
  | nil => rfl
  | cons c a ih => rw [List.cons_append, trimEnd_cons, ih, if_neg (by simp [hb]), List.cons_append]

/-- No blank of what stands before a text is taken with those at its end. -/
theorem trimEnd_append_of_noBlank {a : Text} (h : NoBlank a) (b : Text) :
    trimEnd (a ++ b) = a ++ trimEnd b := by
  induction a with
  | nil => rfl
  | cons c a ih =>
    obtain ⟨hc, ha⟩ := List.forall_mem_cons.mp h
    rw [List.cons_append, trimEnd_cons_of_not_blank hc, ih ha, List.cons_append]

theorem trimEnd_of_noBlank {t : Text} (h : NoBlank t) : trimEnd t = t := by
  have ht := trimEnd_append_of_noBlank h []
  rwa [trimEnd_nil, List.append_nil] at ht

theorem trimEnd_trimEnd (t : Text) : trimEnd (trimEnd t) = trimEnd t := by
  induction t with
  | nil => rfl
  | cons c t ih =>
    rw [trimEnd_cons]
    by_cases h : trimEnd t = [] ∧ isBlank c = true
    · rw [if_pos h, trimEnd_nil]
    · rw [if_neg h, trimEnd_cons, ih, if_neg h]

/-! ## The start of a text -/

theorem trimStart_cons (c : Char) (t : Text) :
    trimStart (c :: t) = if isBlank c then trimStart t else c :: t := by
  unfold trimStart
  rw [List.dropWhile_cons]

theorem trimStart_cons_of_not_blank {c : Char} (h : isBlank c = false) (t : Text) :
    trimStart (c :: t) = c :: t := by
  rw [trimStart_cons, if_neg (by simp [h])]

theorem trimStart_append_cons {c : Char} (h : isBlank c = false) (a b : Text) :
    trimStart (a ++ c :: b) = trimStart a ++ c :: b := by
  induction a with
  | nil => exact trimStart_cons_of_not_blank h b
  | cons d a ih =>
    rw [List.cons_append, trimStart_cons, trimStart_cons, ih]
    split <;> rfl

theorem trimStart_of_noBlank {t : Text} (h : NoBlank t) : trimStart t = t := by
  cases t with
  | nil => rfl
  | cons c t => exact trimStart_cons_of_not_blank (h c List.mem_cons_self) t

theorem trimStart_trimStart (t : Text) : trimStart (trimStart t) = trimStart t := by
  induction t with
  | nil => rfl
  | cons c t ih =>
    cases hc : isBlank c with
    | true => rw [trimStart_cons, if_pos hc, ih]
    | false => rw [trimStart_cons_of_not_blank hc, trimStart_cons_of_not_blank hc]

theorem trimStart_eq_nil_iff {t : Text} : trimStart t = [] ↔ AllBlank t := by
  induction t with
  | nil => simp [AllBlank, trimStart]
  | cons c t ih =>
    rw [trimStart_cons]
    cases hc : isBlank c <;> simp_all [AllBlank]

/-! ## Both ends -/

/-- The two ends of a text can be trimmed in either order. -/
theorem trimStart_trimEnd (t : Text) : trimStart (trimEnd t) = trim t := by
  unfold trim
  induction t with
  | nil => rfl
  | cons c t ih =>
    cases hc : isBlank c with
    | true =>
      rw [trimStart_cons, if_pos hc, trimEnd_cons]
      by_cases ht : trimEnd t = []
      · -- The text is blank throughout, and nothing is left of it from either end.
        have hs : trimStart t = [] := trimStart_eq_nil_iff.mpr (trimEnd_eq_nil_iff.mp ht)
        rw [if_pos ⟨ht, hc⟩, hs]; rfl
      · rw [if_neg (by simp [ht]), trimStart_cons, if_pos hc, ih]
    | false =>
      rw [trimStart_cons_of_not_blank hc, trimEnd_cons_of_not_blank hc,
        trimStart_cons_of_not_blank hc]

@[simp] theorem trim_trimEnd (t : Text) : trim (trimEnd t) = trim t := by
  calc trim (trimEnd t) = trimStart (trimEnd (trimEnd t)) := (trimStart_trimEnd (trimEnd t)).symm
    _ = trimStart (trimEnd t) := by rw [trimEnd_trimEnd]
    _ = trim t := trimStart_trimEnd t

@[simp] theorem trim_trimStart (t : Text) : trim (trimStart t) = trim t := by
  unfold trim
  rw [trimStart_trimStart]

@[simp] theorem trim_trim (t : Text) : trim (trim t) = trim t := by
  calc trim (trim t) = trim (trimStart t) := trim_trimEnd (trimStart t)
    _ = trim t := trim_trimStart t

theorem trim_of_noBlank {t : Text} (h : NoBlank t) : trim t = t := by
  rw [trim, trimStart_of_noBlank h, trimEnd_of_noBlank h]

theorem trim_eq_nil_iff {t : Text} : trim t = [] ↔ AllBlank t := by
  rw [← trimStart_trimEnd, trimStart_eq_nil_iff, ← trimEnd_eq_nil_iff, trimEnd_trimEnd,
    trimEnd_eq_nil_iff]

theorem trim_cons_of_not_blank {c : Char} (h : isBlank c = false) (t : Text) :
    trim (c :: t) = c :: trimEnd t := by
  rw [trim, trimStart_cons_of_not_blank h, trimEnd_cons_of_not_blank h]

theorem trim_append_of_noBlank {a : Text} (h : NoBlank a) (hne : a ≠ []) (b : Text) :
    trim (a ++ b) = a ++ trimEnd b := by
  obtain ⟨c, a, rfl⟩ := List.exists_cons_of_ne_nil hne
  obtain ⟨hc, ha⟩ := List.forall_mem_cons.mp h
  rw [List.cons_append, trim_cons_of_not_blank hc, trimEnd_append_of_noBlank ha, List.cons_append]

theorem not_allBlank_of_mem {t : Text} {c : Char} (hm : c ∈ t) (h : isBlank c = false) :
    ¬ AllBlank t := fun ht => by
  have hc := ht c hm
  simp [h] at hc

theorem trimEnd_subset (t : Text) : trimEnd t ⊆ t := by
  intro c hc
  rw [trimEnd, List.mem_reverse] at hc
  exact List.mem_reverse.mp (List.dropWhile_subset _ hc)

end Zicsr.Text
