import Zicsr.Proofs.Text.Trim

/-
  The case of letters.

  Only the letters from `A` to `Z` have a small form of their own
  (`toNat_toLower`), and small forms are letters. So what is no letter, a mark or a
  blank say, stands in a text exactly where it stands in its small form
  (`toLower_eq_iff`), and a text is trimmed at the same places in either case
  (`lower_trim`).
-/

namespace Zicsr.Text

theorem toNat_toLower (c : Char) :
    c.toLower.toNat = if 65 ≤ c.toNat ∧ c.toNat ≤ 90 then c.toNat + 32 else c.toNat := by
  have hrange : (c.val ≥ 'A'.val ∧ c.val ≤ 'Z'.val) ↔ 65 ≤ c.toNat ∧ c.toNat ≤ 90 :=
    and_congr UInt32.le_iff_toNat_le UInt32.le_iff_toNat_le
  unfold Char.toLower
  by_cases h : c.val ≥ 'A'.val ∧ c.val ≤ 'Z'.val
  · have hsum : (c.val + ('a'.val - 'A'.val)).toNat = c.val.toNat + 32 := by
      rw [UInt32.toNat_add, Nat.mod_eq_of_lt]
      · rfl
      · have hle : c.toNat ≤ 90 := (hrange.mp h).2
        exact Nat.lt_of_le_of_lt (Nat.add_le_add_right hle _) (by decide)
    rw [dif_pos h, if_pos (hrange.mp h)]
    exact hsum
  · rw [dif_neg h, if_neg (mt hrange.mpr h)]

/-- What is no letter is the small form of itself alone. -/
theorem toLower_eq_iff {c m : Char} (hm : m.toNat < 65 ∨ 122 < m.toNat) :
    c.toLower = m ↔ c = m := by
  rw [← Char.toNat_inj, ← Char.toNat_inj, toNat_toLower]
  split <;> omega

theorem isBlank_of_visible {c : Char} (h : 33 ≤ c.toNat ∧ c.toNat ≤ 126) : isBlank c = false := by
  simp only [isBlank, Bool.or_eq_false_iff, Bool.and_eq_false_iff, decide_eq_false_iff_not,
    beq_eq_false_iff_ne]
  omega

theorem toLower_of_isBlank {c : Char} (h : isBlank c = true) : c.toLower = c := by
  have hletter : ¬ (65 ≤ c.toNat ∧ c.toNat ≤ 90) := fun hrange => by
    rw [isBlank_of_visible ⟨by omega, by omega⟩] at h
    cases h
  rw [← Char.toNat_inj, toNat_toLower, if_neg hletter]

theorem isBlank_toLower (c : Char) : isBlank c.toLower = isBlank c := by
  by_cases h : 65 ≤ c.toNat ∧ c.toNat ≤ 90
  · have hsmall : c.toLower.toNat = c.toNat + 32 := by rw [toNat_toLower, if_pos h]
    rw [isBlank_of_visible ⟨by omega, by omega⟩, isBlank_of_visible ⟨by omega, by omega⟩]
  · have hsame : c.toLower = c := Char.toNat_inj.mp ((toNat_toLower c).trans (if_neg h))
    rw [hsame]

/-! ## Texts -/

theorem mem_lower_iff {t : Text} {m : Char} (hm : m.toNat < 65 ∨ 122 < m.toNat) :
    m ∈ lower t ↔ m ∈ t := by
  simp [lower, List.mem_map, toLower_eq_iff hm]

theorem mem_iff_of_lower_eq {a b : Text} (h : lower a = lower b) {m : Char}
    (hm : m.toNat < 65 ∨ 122 < m.toNat) : m ∈ a ↔ m ∈ b := by
  rw [← mem_lower_iff hm, h, mem_lower_iff hm]

theorem lower_append (a b : Text) : lower (a ++ b) = lower a ++ lower b := List.map_append

theorem exists_of_lower_eq_append {t a b : Text} (h : lower t = lower (a ++ b)) :
    ∃ c d, t = c ++ d ∧ lower c = lower a ∧ lower d = lower b := by
  rw [lower_append] at h
  exact List.map_eq_append_iff.mp h

theorem eq_nil_iff_of_lower_eq {a b : Text} (h : lower a = lower b) : a = [] ↔ b = [] := by
  rw [← List.map_eq_nil_iff (f := Char.toLower), ← lower, h, lower, List.map_eq_nil_iff]

theorem length_eq_of_lower_eq {a b : Text} (h : lower a = lower b) : a.length = b.length := by
  simpa [lower] using congrArg List.length h

theorem eq_of_lower_eq_of_allBlank {a b : Text} (hb : AllBlank b) (h : lower a = lower b) :
    a = b := by
  induction b generalizing a with
  | nil => exact List.map_eq_nil_iff.mp h
  | cons c b ih =>
    obtain ⟨hc, hrest⟩ := List.forall_mem_cons.mp hb
    obtain ⟨d, a, rfl, hd, ha⟩ := List.map_eq_cons_iff.mp h
    rw [toLower_of_isBlank hc] at hd
    have hblank : isBlank d = true := by rw [← isBlank_toLower, hd, hc]
    rw [toLower_of_isBlank hblank] at hd
    rw [hd, ih hrest ha]

theorem noBlank_lower_iff {t : Text} : NoBlank (lower t) ↔ NoBlank t := by
  simp [NoBlank, lower, isBlank_toLower]

theorem dropWhile_isBlank_lower (t : Text) :
    (lower t).dropWhile isBlank = lower (t.dropWhile isBlank) := by
  rw [lower, List.dropWhile_map, lower]
  exact congrArg (fun p => (t.dropWhile p).map Char.toLower) (funext isBlank_toLower)

theorem lower_reverse (t : Text) : lower t.reverse = (lower t).reverse := List.map_reverse

theorem lower_trim (t : Text) : lower (trim t) = trim (lower t) := by
  simp only [trim, trimStart, trimEnd, dropWhile_isBlank_lower, ← lower_reverse]

end Zicsr.Text
