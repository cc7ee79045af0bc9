import Mathlib.Algebra.Ring.Nat
import Zicsr.Numeral
import Zicsr.Proofs.Text.Trim

/-
  Printed numerals are read back.

  `readDigits` stops at the first digit that passes the bound. Since the value
  only grows while digits are read, this is the same as comparing the value of
  all of them with the bound (`readDigits_eq_ok_iff`). The value of printed
  digits is the number printed (`valueFrom_toDigits`), so a printed numeral
  reads as its number, or as nothing if the number passes the bound.
-/

namespace Zicsr.Numeral

/-! ## The value of digits -/

/-- The value of digits that follow the value `v`; a character that is no digit
of the radix counts as zero. -/
def valueFrom (radix : Nat) : Nat → Text → Nat
  | v, [] => v
  | v, c :: rest => valueFrom radix (radix * v + (digit? radix c).getD 0) rest

theorem valueFrom_append (radix v : Nat) (a b : Text) :
    valueFrom radix v (a ++ b) = valueFrom radix (valueFrom radix v a) b := by
  induction a generalizing v with
  | nil => rfl
  | cons c a ih => rw [List.cons_append, valueFrom, valueFrom, ih]

theorem le_valueFrom {radix : Nat} (hr : 0 < radix) (v : Nat) (t : Text) :
    v ≤ valueFrom radix v t := by
  induction t generalizing v with
  | nil => exact Nat.le_refl v
  | cons c t ih =>
    have hv : v ≤ radix * v := Nat.le_mul_of_pos_left v hr
    exact Nat.le_trans (Nat.le_trans hv (Nat.le_add_right _ _)) (ih _)

theorem readDigits_eq_ok_iff {radix v n : Nat} (hr : 0 < radix) (hv : v < bound) (t : Text) :
    readDigits radix v t = .ok n ↔
      (∀ c ∈ t, (digit? radix c).isSome) ∧ valueFrom radix v t = n ∧ n < bound := by
  induction t generalizing v with
  | nil =>
    simp only [readDigits, valueFrom, Except.ok.injEq, List.not_mem_nil, false_implies,
      implies_true, true_and]
    constructor
    · intro heq; exact ⟨heq, heq ▸ hv⟩
    · exact fun h => h.1
  | cons c t ih =>
    rw [readDigits, valueFrom, List.forall_mem_cons]
    cases hd : digit? radix c with
    | none => simp
    | some d =>
      simp only [Option.isSome_some, true_and, Option.getD_some]
      by_cases hlt : radix * v + d < bound
      · rw [if_pos hlt, ih hlt]
      · -- The bound is passed here, so the whole value passes it too.
        rw [if_neg hlt]
        have hle := le_valueFrom hr (radix * v + d) t
        constructor
        · intro h; cases h
        · intro hall; obtain ⟨-, rfl, hn⟩ := hall; omega

/-! ## Ranges of characters -/

/-- A property of the characters of a range, checked one by one. -/
theorem char_forall {P : Char → Prop} {low n : Nat} (h : ∀ k < n, P (Char.ofNat (low + k)))
    {c : Char} (hlow : low ≤ c.toNat) (hhigh : c.toNat < low + n) : P c := by
  have hc := h (c.toNat - low) (by omega)
  rwa [Nat.add_sub_cancel' hlow, Char.ofNat_toNat] at hc

theorem exists_digit_of_isDigit {c : Char} (h : c.isDigit = true) :
    ∃ d < 10, c = Nat.digitChar d := by
  simp only [Char.isDigit, Bool.and_eq_true, decide_eq_true_eq, ge_iff_le,
    UInt32.le_iff_toNat_le] at h
  have hlow : 48 ≤ c.toNat := h.1
  have hhigh : c.toNat ≤ 57 := h.2
  exact char_forall (P := fun c => ∃ d < 10, c = Nat.digitChar d) (n := 10) (by decide) hlow
    (by omega)

theorem letter_plain {c : Char} (h : c.isLower = true) :
    Text.isBlank c = false ∧ digit? 10 c = none ∧ c ∉ ['_', '0', '+', '-'] := by
  have hc : (decide ('a'.val ≤ c.val) && decide (c.val ≤ 'z'.val)) = true := h
  simp only [Bool.and_eq_true, decide_eq_true_eq, UInt32.le_iff_toNat_le] at hc
  have hlow : 97 ≤ c.toNat := hc.1
  have hhigh : c.toNat ≤ 122 := hc.2
  exact char_forall (n := 26)
    (P := fun c => Text.isBlank c = false ∧ digit? 10 c = none ∧ c ∉ ['_', '0', '+', '-'])
    (by decide) hlow (by omega)

/-! ## Texts of digits -/

def AllDigits (radix : Nat) (t : Text) : Prop := ∀ c ∈ t, ∃ d < radix, c = Nat.digitChar d

theorem digitValue_digitChar : ∀ d < 16, digitValue (Nat.digitChar d) = some d := by decide

theorem digit?_digitChar {radix d : Nat} (hr : radix ≤ 16) (hd : d < radix) :
    digit? radix (Nat.digitChar d) = some d := by
  rw [digit?, digitValue_digitChar d (by omega)]
  simp [hd]

theorem digitChar_plain : ∀ d < 16, Text.isBlank (Nat.digitChar d) = false ∧
    Nat.digitChar d ∉ ['_', '+', '-'] := by decide

namespace AllDigits

variable {radix : Nat} {t : Text}

theorem mono (h : AllDigits radix t) (hr : radix ≤ 16) : AllDigits 16 t := fun c hc => by
  obtain ⟨d, hd, he⟩ := h c hc
  exact ⟨d, Nat.lt_of_lt_of_le hd hr, he⟩

theorem noBlank (h : AllDigits 16 t) : Text.NoBlank t := fun c hc => by
  obtain ⟨d, hd, rfl⟩ := h c hc
  exact (digitChar_plain d hd).1

theorem not_mem (h : AllDigits 16 t) {c : Char} (hc : c ∈ ['_', '+', '-']) : c ∉ t := fun hm => by
  obtain ⟨d, hd, rfl⟩ := h c hm
  exact (digitChar_plain d hd).2 hc

theorem isSigned (h : AllDigits 16 t) : isSigned t = false := by
  unfold Numeral.isSigned
  split
  · exact absurd List.mem_cons_self (h.not_mem (c := '+') (by decide))
  · exact absurd List.mem_cons_self (h.not_mem (c := '-') (by decide))
  · rfl

/-- Digits are read as their value, unless it passes the bound. -/
theorem readDigits_eq_ok_iff (h : AllDigits radix t) (hr : 0 < radix) (hr16 : radix ≤ 16)
    (n : Nat) : readDigits radix 0 t = .ok n ↔ valueFrom radix 0 t = n ∧ n < bound := by
  have hsome : ∀ c ∈ t, (digit? radix c).isSome := fun c hc => by
    obtain ⟨d, hd, rfl⟩ := h c hc
    rw [digit?_digitChar hr16 hd]; rfl
  rw [Numeral.readDigits_eq_ok_iff hr (by decide)]
  exact ⟨fun hn => hn.2, fun hn => ⟨hsome, hn⟩⟩

end AllDigits

theorem allDigits_toDigits {radix : Nat} (hr : 1 < radix) (n : Nat) :
    AllDigits radix (Nat.toDigits radix n) := by
  -- The digits of `n` are those of its quotient and then its remainder.
  induction n using Nat.strongRecOn with
  | ind n ih =>
    intro c hc
    rw [Nat.toDigits_eq_if hr] at hc
    by_cases hn : n < radix
    · rw [if_pos hn, List.mem_singleton] at hc
      exact ⟨n, hn, hc⟩
    · rw [if_neg hn, List.mem_append, List.mem_singleton] at hc
      rcases hc with hc | hc
      · exact ih (n / radix) (Nat.div_lt_self (by omega) hr) c hc
      · exact ⟨n % radix, Nat.mod_lt n (by omega), hc⟩

theorem allDigits_decimal (n : Nat) : AllDigits 10 (decimal n) := allDigits_toDigits (by decide) n

theorem allDigits_hexPadded (width n : Nat) : AllDigits 16 (hexPadded width n) := fun c hc => by
  rw [hexPadded, List.leftpad, List.mem_append] at hc
  rcases hc with hc | hc
  · exact ⟨0, by decide, List.eq_of_mem_replicate hc⟩
  · exact allDigits_toDigits (by decide) n c hc

theorem length_hexPadded {width n : Nat} (hw : 0 < width) (h : n < 16 ^ width) :
    (hexPadded width n).length = width := by
  have hdigits : (hex n).length ≤ width := (Nat.length_toDigits_le_iff (by decide) hw).mpr h
  rw [hexPadded, List.length_leftpad, Nat.max_eq_left hdigits]

/-! ## The value of printed digits -/

theorem valueFrom_toDigits {radix : Nat} (hr : 1 < radix) (hr16 : radix ≤ 16) (n : Nat) :
    valueFrom radix 0 (Nat.toDigits radix n) = n := by
  induction n using Nat.strongRecOn with
  | ind n ih =>
    rw [Nat.toDigits_eq_if hr]
    by_cases hn : n < radix
    · rw [if_pos hn, valueFrom, digit?_digitChar hr16 hn, valueFrom]
      simp
    · have hdigit : digit? radix (Nat.digitChar (n % radix)) = some (n % radix) :=
        digit?_digitChar hr16 (Nat.mod_lt n (by omega))
      rw [if_neg hn, valueFrom_append, ih (n / radix) (Nat.div_lt_self (by omega) hr)]
      show radix * (n / radix) + (digit? radix (Nat.digitChar (n % radix))).getD 0 = n
      rw [hdigit]
      exact Nat.div_add_mod n radix

theorem toDigits_append_digits {radix v : Nat} (hr : 1 < radix) (hr16 : radix ≤ 16) (hv : 0 < v)
    {t : Text} (h : AllDigits radix t) :
    Nat.toDigits radix v ++ t = Nat.toDigits radix (valueFrom radix v t) := by
  induction t generalizing v with
  | nil => exact List.append_nil _
  | cons c t ih =>
    obtain ⟨hc, ht⟩ := List.forall_mem_cons.mp h
    obtain ⟨d, hd, rfl⟩ := hc
    have hpos : 0 < radix * v := Nat.mul_pos (by omega) hv
    calc Nat.toDigits radix v ++ Nat.digitChar d :: t
        = (Nat.toDigits radix v ++ Nat.toDigits radix d) ++ t := by
          rw [Nat.toDigits_of_lt_base hd, List.append_assoc]
          rfl
      _ = Nat.toDigits radix (radix * v + d) ++ t := by
          rw [Nat.toDigits_append_toDigits hr hv hd]
      _ = Nat.toDigits radix (valueFrom radix v (Nat.digitChar d :: t)) := by
          rw [valueFrom, digit?_digitChar hr16 hd, Option.getD_some,
            ih (Nat.add_pos_left hpos d) ht]

/-- Digits are those of their value, unless a zero stands in front of others. -/
theorem toDigits_valueFrom {radix : Nat} (hr : 1 < radix) (hr16 : radix ≤ 16) {t : Text}
    (hne : t ≠ []) (h : AllDigits radix t) (hzero : t.head? = some '0' → t.length ≤ 1) :
    Nat.toDigits radix (valueFrom radix 0 t) = t := by
  cases t with
  | nil => exact absurd rfl hne
  | cons c t =>
    obtain ⟨hc, ht⟩ := List.forall_mem_cons.mp h
    obtain ⟨d, hd, rfl⟩ := hc
    have hvalue : valueFrom radix 0 (Nat.digitChar d :: t) = valueFrom radix d t := by
      rw [valueFrom, digit?_digitChar hr16 hd, Nat.mul_zero, Nat.zero_add, Option.getD_some]
    rw [hvalue]
    by_cases hpos : 0 < d
    · rw [← toDigits_append_digits hr hr16 hpos ht, Nat.toDigits_of_lt_base hd]
      rfl
    · obtain rfl : d = 0 := by omega
      -- Nothing stands behind the zero.
      have hlen : (Nat.digitChar 0 :: t).length ≤ 1 := hzero rfl
      obtain rfl : t = [] := List.length_eq_zero_iff.mp (by simpa using hlen)
      exact Nat.toDigits_of_lt_base hd

theorem valueFrom_zeros (radix k : Nat) (t : Text) :
    valueFrom radix 0 (List.replicate k '0' ++ t) = valueFrom radix 0 t := by
  induction k with
  | zero => rfl
  | succ k ih =>
    have h0 : (digit? radix '0').getD 0 = 0 := by
      cases radix <;> rfl
    rw [List.replicate_succ, List.cons_append, valueFrom, h0]
    exact ih

theorem valueFrom_hexPadded (width n : Nat) : valueFrom 16 0 (hexPadded width n) = n := by
  rw [hexPadded, List.leftpad, valueFrom_zeros, hex, valueFrom_toDigits (by decide) (by decide)]

theorem read_trim (t : Text) : read (Text.trim t) = read t := by
  rw [read, read, Text.trim_trim]

/-- No numeral begins with a small letter. -/
theorem read_of_head_isLower {t : Text} (h : t.head?.any Char.isLower = true) :
    read t = .error .invalidDigit := by
  obtain _ | ⟨c, t⟩ := t
  · cases h
  obtain ⟨hblank, hdigit, hmark⟩ := letter_plain h
  simp only [List.mem_cons, List.not_mem_nil, or_false, not_or] at hmark
  obtain ⟨hunder, hzero, hplus, hminus⟩ := hmark
  have hradix (u : Text) : radixAndDigits (c :: u) = (10, c :: u) := by
    simp [radixAndDigits, hzero]
  have hsign (u : Text) : isSigned (c :: u) = false := by
    simp [isSigned, hplus, hminus]
  unfold read
  rw [Text.trim_cons_of_not_blank hblank, List.filter_cons_of_pos (by simpa using hunder), hradix]
  simp [hsign, readDigits, hdigit]

theorem readBelow?_eq_some_iff {limit n : Nat} {t : Text} :
    readBelow? limit t = some n ↔ read t = .ok n ∧ n < limit := by
  unfold readBelow?
  cases read t with
  | error e => simp
  | ok m =>
    by_cases h : m < limit
    · simp only [if_pos h, Option.some.injEq, Except.ok.injEq]
      exact ⟨fun heq => ⟨heq, heq ▸ h⟩, And.left⟩
    · simp only [if_neg h, reduceCtorEq, Except.ok.injEq, false_iff, not_and]
      rintro rfl
      exact h

/-! ## Reading what is printed -/

/-- A text without blanks and underscores is read as it stands. -/
theorem read_of_plain {t digits : Text} {radix : Nat} (hb : Text.NoBlank t) (hu : '_' ∉ t)
    (hrd : radixAndDigits t = (radix, digits)) (hs : isSigned digits = false)
    (hne : digits ≠ []) : read t = readDigits radix 0 digits := by
  have hfilter : t.filter (· ≠ '_') = t := by
    rw [List.filter_eq_self]
    intro c hc
    rw [decide_eq_true_eq]
    intro heq
    subst heq
    exact hu hc
  unfold read
  rw [Text.trim_of_noBlank hb, hfilter, hrd]
  simp [hs, hne]

theorem radixAndDigits_decimal (n : Nat) : radixAndDigits (decimal n) = (10, decimal n) := by
  have hdigit : ∀ c ∈ decimal n, c.isDigit := fun c hc =>
    Nat.isDigit_of_mem_toDigits (by decide) (by decide) hc
  unfold radixAndDigits
  -- No decimal digit is one of the letters that announce another radix.
  split <;> first | rfl | simp_all

theorem read_decimal_eq_ok_iff (n m : Nat) : read (decimal n) = .ok m ↔ n = m ∧ m < bound := by
  have hd := allDigits_decimal n
  have hd16 := hd.mono (by decide)
  rw [read_of_plain hd16.noBlank (hd16.not_mem (by decide)) (radixAndDigits_decimal n)
      hd16.isSigned Nat.toDigits_ne_nil,
    hd.readDigits_eq_ok_iff (by decide) (by decide), decimal,
    valueFrom_toDigits (by decide) (by decide)]

theorem noBlank_literalPadded (width n : Nat) : Text.NoBlank (literalPadded width n) :=
  List.forall_mem_cons.mpr ⟨rfl, List.forall_mem_cons.mpr ⟨rfl, (allDigits_hexPadded width n).noBlank⟩⟩

theorem read_literalPadded_eq_ok_iff (width n m : Nat) :
    read (literalPadded width n) = .ok m ↔ n = m ∧ m < bound := by
  have hd := allDigits_hexPadded width n
  have hunder : '_' ∉ literalPadded width n := by
    simp only [literalPadded, List.mem_cons, not_or]
    exact ⟨by decide, by decide, hd.not_mem (by decide)⟩
  have hne : hexPadded width n ≠ [] := by
    simp [hexPadded, hex, List.leftpad]
  rw [read_of_plain (noBlank_literalPadded width n) hunder rfl hd.isSigned hne,
    hd.readDigits_eq_ok_iff (by decide) (by decide), valueFrom_hexPadded]

theorem literal_eq_literalPadded (n : Nat) : literal n = literalPadded 0 n := by
  simp [literal, literalPadded, hexPadded, List.leftpad]

theorem readBelow?_literalPadded {limit : Nat} (hl : limit ≤ bound) (width n : Nat) :
    readBelow? limit (literalPadded width n) = if n < limit then some n else none := by
  unfold readBelow?
  cases h : read (literalPadded width n) with
  | ok m =>
    obtain ⟨rfl, -⟩ := (read_literalPadded_eq_ok_iff width n m).mp h
    rfl
  | error e =>
    have hn : ¬ n < limit := fun hn => by
      have hok := (read_literalPadded_eq_ok_iff width n n).mpr ⟨rfl, by omega⟩
      rw [h] at hok
      cases hok
    rw [if_neg hn]

theorem read_decimal {n : Nat} (h : n < bound) : read (decimal n) = .ok n :=
  (read_decimal_eq_ok_iff n n).mpr ⟨rfl, h⟩

theorem read_literal {n : Nat} (h : n < bound) : read (literal n) = .ok n := by
  rw [literal_eq_literalPadded]
  exact (read_literalPadded_eq_ok_iff 0 n n).mpr ⟨rfl, h⟩

/-! ## Numbers are told apart by their digits -/

theorem decimal_inj {n m : Nat} : decimal n = decimal m ↔ n = m := by
  refine ⟨fun h => ?_, congrArg decimal⟩
  have hvalue := congrArg (valueFrom 10 0) h
  rwa [decimal, decimal, valueFrom_toDigits (by decide) (by decide),
    valueFrom_toDigits (by decide) (by decide)] at hvalue

theorem literal_inj {n m : Nat} : literal n = literal m ↔ n = m := by
  refine ⟨fun h => ?_, congrArg literal⟩
  have hdigits : hex n = hex m := (List.cons.inj (List.cons.inj h).2).2
  have hvalue := congrArg (valueFrom 16 0) hdigits
  rwa [hex, hex, valueFrom_toDigits (by decide) (by decide),
    valueFrom_toDigits (by decide) (by decide)] at hvalue

end Zicsr.Numeral
