import Mathlib.Data.List.Forall2
import Mathlib.Data.Nat.Digits.Defs
import Zicsr.Proofs.Numeral
import Zicsr.Proofs.Text.Letters

/-
  What a numeral is, and what another text is refused for.

  The value of digits is that of the number they write, highest digit first
  (`value`). `Reading` says case by case what a text is read as: it has a sign or
  nothing where its digits should begin, or all of it is digits, or there is a first
  character that fails. Reading from the left finds just that, since the value of
  the digits read so far never passes the bound before (`readDigits_append`). So
  the numerals are the digits behind the marks of a radix whose value is below the
  bound, however many zeros stand before them (`read_iff_reading`).
-/

namespace Zicsr.Numeral

/-! ## Digits -/

/-- Whether the character is the digit of the number; letters may be capital. -/
def IsDigit (radix : Nat) (c : Char) (d : Nat) : Prop := d < radix ∧ c.toLower = Nat.digitChar d

theorem digitValue_eq (c : Char) :
    digitValue c =
      if 48 ≤ c.toNat ∧ c.toNat ≤ 57 then some (c.toNat - 48)
      else if 97 ≤ c.toNat ∧ c.toNat ≤ 122 then some (c.toNat - 97 + 10)
      else if 65 ≤ c.toNat ∧ c.toNat ≤ 90 then some (c.toNat - 65 + 10)
      else none := by
  simp only [digitValue, Char.le_def, UInt32.le_iff_toNat_le]
  rfl

theorem toNat_digitChar :
    ∀ d < 16, (Nat.digitChar d).toNat = if d < 10 then 48 + d else 87 + d := by
  decide

theorem digit?_eq_some_iff {radix : Nat} (hr : radix ≤ 16) {c : Char} {d : Nat} :
    digit? radix c = some d ↔ IsDigit radix c d := by
  rw [digit?, Option.filter_eq_some_iff, decide_eq_true_iff, and_comm, IsDigit]
  refine and_congr_right fun hd => ?_
  -- Both sides compare numbers of characters.
  rw [← Char.toNat_inj, toNat_digitChar d (by omega), Text.toNat_toLower, digitValue_eq]
  grind

theorem digit?_eq_none_iff {radix : Nat} (hr : radix ≤ 16) {c : Char} :
    digit? radix c = none ↔ ∀ d, ¬ IsDigit radix c d := by
  simp only [Option.eq_none_iff_forall_ne_some, ne_eq, digit?_eq_some_iff hr]

/-! ## The value of digits -/

/-- The number that digits write in a radix, the highest digit first. -/
def value (radix : Nat) (ds : List Nat) : Nat := Nat.ofDigits radix ds.reverse

variable {radix : Nat}

theorem value_concat (ds : List Nat) (d : Nat) :
    value radix (ds ++ [d]) = radix * value radix ds + d := by
  rw [value, List.reverse_concat, Nat.ofDigits_cons, Nat.add_comm]
  rfl

theorem value_le_append (hr : 0 < radix) (ds es : List Nat) :
    value radix ds ≤ value radix (ds ++ es) := by
  rw [value, value, List.reverse_append, Nat.ofDigits_append]
  exact Nat.le_trans (Nat.le_mul_of_pos_left _ (Nat.pow_pos hr)) (Nat.le_add_left _ _)

theorem value_zeros_append (k : Nat) (ds : List Nat) :
    value radix (List.replicate k 0 ++ ds) = value radix ds := by
  rw [value, List.reverse_append, List.reverse_replicate, Nat.ofDigits_append_replicate_zero]
  rfl

/-! ## Reading digits -/

/-- What digits are read as: their value, or the error of the first character, from
the left, that is no digit or that makes the value too large. -/
inductive DigitsReading (radix : Nat) (digits : Text) : Except Error Nat → Prop
  | number {ds : List Nat} (all : List.Forall₂ (IsDigit radix) digits ds)
      (small : value radix ds < 2 ^ 64) :
      DigitsReading radix digits (.ok (value radix ds))
  | invalidDigit {before after : Text} {c : Char} {ds : List Nat}
      (split : digits = before ++ c :: after) (read : List.Forall₂ (IsDigit radix) before ds)
      (small : value radix ds < 2 ^ 64) (bad : ∀ d, ¬ IsDigit radix c d) :
      DigitsReading radix digits (.error .invalidDigit)
  | tooLarge {before after : Text} {c : Char} {ds : List Nat} {d : Nat}
      (split : digits = before ++ c :: after) (read : List.Forall₂ (IsDigit radix) before ds)
      (small : value radix ds < 2 ^ 64) (digit : IsDigit radix c d)
      (large : 2 ^ 64 ≤ value radix (ds ++ [d])) :
      DigitsReading radix digits (.error .tooLarge)

/-- Digits are read onto the value of those before them, as long as all of them
together stay below the bound. -/
theorem readDigits_append (hr : 0 < radix) (hr16 : radix ≤ 16) {before : Text} {ds : List Nat}
    (h : List.Forall₂ (IsDigit radix) before ds) (es : List Nat)
    (hsmall : value radix (es ++ ds) < bound) (after : Text) :
    readDigits radix (value radix es) (before ++ after) =
      readDigits radix (value radix (es ++ ds)) after := by
  induction h generalizing es with
  | nil => rw [List.append_nil, List.nil_append]
  | @cons c d before ds hc _ ih =>
    rw [List.append_cons] at hsmall ⊢
    -- The value up to this digit is no larger than that of all of them.
    have hlt : radix * value radix es + d < bound := by
      rw [← value_concat]
      exact Nat.lt_of_le_of_lt (value_le_append hr _ ds) hsmall
    rw [List.cons_append, readDigits, (digit?_eq_some_iff hr16).mpr hc]
    simp only [if_pos hlt]
    rw [← value_concat, ih (es ++ [d]) hsmall]

theorem exists_digitsReading (hr16 : radix ≤ 16) {before : Text} {ds : List Nat}
    (h : List.Forall₂ (IsDigit radix) before ds) (hsmall : value radix ds < 2 ^ 64) (t : Text) :
    ∃ answer, DigitsReading radix (before ++ t) answer := by
  induction t generalizing before ds with
  | nil => exact ⟨_, .number (by rw [List.append_nil]; exact h) hsmall⟩
  | cons c t ih =>
    cases hd : digit? radix c with
    | none => exact ⟨_, .invalidDigit rfl h hsmall ((digit?_eq_none_iff hr16).mp hd)⟩
    | some d =>
      have hdigit : IsDigit radix c d := (digit?_eq_some_iff hr16).mp hd
      rcases Nat.lt_or_ge (value radix (ds ++ [d])) (2 ^ 64) with hlt | hge
      · have hmore : List.Forall₂ (IsDigit radix) (before ++ [c]) (ds ++ [d]) :=
          List.rel_append h (.cons hdigit .nil)
        rw [List.append_cons]
        exact ih hmore hlt
      · exact ⟨_, .tooLarge rfl h hsmall hdigit hge⟩

theorem DigitsReading.readDigits_eq (hr : 0 < radix) (hr16 : radix ≤ 16) {digits : Text}
    {answer : Except Error Nat}
    (h : DigitsReading radix digits answer) : readDigits radix 0 digits = answer := by
  -- No digit has been read at first, and none is worth zero.
  have hstart : ∀ {before : Text} {ds : List Nat} (after : Text),
      List.Forall₂ (IsDigit radix) before ds → value radix ds < 2 ^ 64 →
        readDigits radix 0 (before ++ after) = readDigits radix (value radix ds) after :=
    fun after hread hsmall => readDigits_append hr hr16 hread [] hsmall after
  cases h with
  | number all small => rw [← List.append_nil digits, hstart [] all small, readDigits]
  | invalidDigit split read small bad =>
    rw [split, hstart _ read small, readDigits, (digit?_eq_none_iff hr16).mpr bad]
  | tooLarge split read small digit large =>
    rw [value_concat] at large
    rw [split, hstart _ read small, readDigits, (digit?_eq_some_iff hr16).mpr digit]
    exact if_neg (Nat.not_lt_of_le large)

/-! ## Radixes -/

/-- Whether the text announces the radix and goes on with the digits. -/
inductive Announces : Text → Nat → Text → Prop
  | hexadecimal {m : Char} {digits : Text} (mark : m = 'x' ∨ m = 'X') :
      Announces ('0' :: m :: digits) 16 digits
  | binary {m : Char} {digits : Text} (mark : m = 'b' ∨ m = 'B') :
      Announces ('0' :: m :: digits) 2 digits
  | decimal {digits : Text}
      (unmarked : ∀ m rest, digits = '0' :: m :: rest → m ∉ ['x', 'X', 'b', 'B']) :
      Announces digits 10 digits

theorem announces_iff {t digits : Text} :
    Announces t radix digits ↔ radixAndDigits t = (radix, digits) := by
  constructor
  · intro h
    cases h with
    | hexadecimal mark => rcases mark with rfl | rfl <;> rfl
    | binary mark => rcases mark with rfl | rfl <;> rfl
    | decimal unmarked =>
      unfold radixAndDigits
      split
      · exact absurd (by decide) (unmarked _ _ rfl)
      · exact absurd (by decide) (unmarked _ _ rfl)
      · exact absurd (by decide) (unmarked _ _ rfl)
      · exact absurd (by decide) (unmarked _ _ rfl)
      · rfl
  · intro h
    unfold radixAndDigits at h
    split at h
    · cases h; exact .hexadecimal (.inl rfl)
    · cases h; exact .hexadecimal (.inr rfl)
    · cases h; exact .binary (.inl rfl)
    · cases h; exact .binary (.inr rfl)
    · next hx hX hb hB =>
      cases h
      refine .decimal fun m rest heq hm => ?_
      simp only [List.mem_cons, List.not_mem_nil, or_false] at hm
      rcases hm with rfl | rfl | rfl | rfl
      · exact hx rest heq
      · exact hX rest heq
      · exact hb rest heq
      · exact hB rest heq

theorem Announces.radix_mem {t digits : Text} (h : Announces t radix digits) :
    0 < radix ∧ radix ≤ 16 := by
  cases h <;> decide

/-! ## Reading a text -/

/-- The text without the blanks at its ends and without underscores. -/
def bare (t : Text) : Text := (Text.trim t).filter (· ≠ '_')

/-- Whether a sign stands first. -/
def Signed (digits : Text) : Prop := digits.head? = some '+' ∨ digits.head? = some '-'

/-- What a text is read as. -/
inductive Reading (t : Text) : Except Error Nat → Prop
  | sign {radix : Nat} {digits : Text} (announced : Announces (bare t) radix digits)
      (signed : Signed digits) : Reading t (.error (.sign (Text.trim t)))
  | empty {radix : Nat} (announced : Announces (bare t) radix []) : Reading t (.error .empty)
  | digits {radix : Nat} {digits : Text} {answer : Except Error Nat}
      (announced : Announces (bare t) radix digits) (unsigned : ¬ Signed digits)
      (some : digits ≠ []) (reading : DigitsReading radix digits answer) : Reading t answer

theorem isSigned_iff {t : Text} : isSigned t = true ↔ Signed t := by
  cases t with
  | nil => simp [isSigned, Signed]
  | cons c t =>
    unfold isSigned Signed
    split <;> simp_all

theorem read_of_announces {t digits : Text} (h : Announces (bare t) radix digits) :
    read t =
      if isSigned digits then .error (.sign (Text.trim t))
      else if digits = [] then .error .empty
      else readDigits radix 0 digits := by
  unfold read
  rw [← bare, announces_iff.mp h]

theorem Reading.read_eq {t : Text} {answer : Except Error Nat} (h : Reading t answer) :
    read t = answer := by
  cases h with
  | sign announced signed => rw [read_of_announces announced, if_pos (isSigned_iff.mpr signed)]
  | empty announced => rw [read_of_announces announced, if_neg (by decide), if_pos rfl]
  | digits announced unsigned some reading =>
    obtain ⟨hr, hr16⟩ := announced.radix_mem
    rw [read_of_announces announced, if_neg (mt isSigned_iff.mp unsigned), if_neg some,
      reading.readDigits_eq hr hr16]

/-- One of the cases applies to every text. -/
theorem exists_reading (t : Text) : ∃ answer, Reading t answer := by
  obtain ⟨radix, digits, h⟩ : ∃ radix digits, Announces (bare t) radix digits :=
    ⟨_, _, announces_iff.mpr rfl⟩
  by_cases hsigned : Signed digits
  · exact ⟨_, .sign h hsigned⟩
  · by_cases hnil : digits = []
    · subst hnil
      exact ⟨_, .empty h⟩
    · obtain ⟨-, hr16⟩ := h.radix_mem
      have hzero : value radix [] < 2 ^ 64 := by
        rw [value, List.reverse_nil, Nat.ofDigits_nil]
        decide
      obtain ⟨answer, hreading⟩ := exists_digitsReading hr16 .nil hzero digits
      exact ⟨answer, .digits h hsigned hnil hreading⟩

theorem read_eq_iff {t : Text} {answer : Except Error Nat} :
    read t = answer ↔ Reading t answer := by
  refine ⟨?_, Reading.read_eq⟩
  rintro rfl
  obtain ⟨answer, h⟩ := exists_reading t
  rw [h.read_eq]
  exact h

/-! ## Literals -/

/-- The marks of the radixes; decimal digits have none. -/
def marks : List (Text × Nat) := [("0x", 16), ("0X", 16), ("0b", 2), ("0B", 2), ("", 10)]

theorem not_isDigit : ∀ d < 16, Nat.digitChar d ∉ ['+', '-', 'x'] ∧
    (d < 10 → Nat.digitChar d ≠ 'b') := by decide

theorem not_signed_of_digits {digits : Text} {ds : List Nat} (hr16 : radix ≤ 16)
    (h : List.Forall₂ (IsDigit radix) digits ds) : ¬ Signed digits := by
  cases h with
  | nil => simp [Signed]
  | @cons c d digits ds hc _ =>
    obtain ⟨hd, hlower⟩ := hc
    have hno := (not_isDigit d (by omega)).1
    rw [← hlower] at hno
    rintro (hsign | hsign)
    · cases hsign; exact hno (by decide)
    · cases hsign; exact hno (by decide)

theorem announces_of_digits {mark digits : Text} {ds : List Nat} (hmark : (mark, radix) ∈ marks)
    (h : List.Forall₂ (IsDigit radix) digits ds) : Announces (mark ++ digits) radix digits := by
  simp only [marks, List.mem_cons, List.not_mem_nil, or_false, Prod.mk.injEq] at hmark
  rcases hmark with ⟨rfl, rfl⟩ | ⟨rfl, rfl⟩ | ⟨rfl, rfl⟩ | ⟨rfl, rfl⟩ | ⟨rfl, rfl⟩
  · exact .hexadecimal (.inl rfl)
  · exact .hexadecimal (.inr rfl)
  · exact .binary (.inl rfl)
  · exact .binary (.inr rfl)
  · refine .decimal fun m rest heq hm => ?_
    -- The second character is a decimal digit, which no mark is.
    subst heq
    obtain _ | ⟨-, hrest⟩ := h
    obtain _ | @⟨_, d, _, _, ⟨hd, hlower⟩, -⟩ := hrest
    obtain ⟨hx, hb⟩ := not_isDigit d (by omega)
    rw [← hlower] at hx hb
    simp only [List.mem_cons, List.not_mem_nil, or_false] at hm
    rcases hm with rfl | rfl | rfl | rfl
    · exact hx (by decide)
    · exact hx (by decide)
    · exact hb hd (by decide)
    · exact hb hd (by decide)

theorem forall₂_zeros_append (hr : 0 < radix) {digits : Text} {ds : List Nat} (k : Nat)
    (h : List.Forall₂ (IsDigit radix) digits ds) :
    List.Forall₂ (IsDigit radix) (List.replicate k '0' ++ digits) (List.replicate k 0 ++ ds) := by
  induction k with
  | zero => exact h
  | succ k ih =>
    rw [List.replicate_succ, List.replicate_succ, List.cons_append, List.cons_append]
    exact .cons ⟨hr, by decide⟩ ih

theorem radix_of_mem_marks {mark : Text} (h : (mark, radix) ∈ marks) : 0 < radix ∧ radix ≤ 16 := by
  have hall : ∀ row ∈ marks, 0 < row.2 ∧ row.2 ≤ 16 := by decide
  exact hall _ h

theorem exists_mark_of_announces {t digits : Text} (h : Announces t radix digits) :
    ∃ mark, (mark, radix) ∈ marks ∧ t = mark ++ digits := by
  cases h with
  | hexadecimal mark =>
    rcases mark with rfl | rfl
    · exact ⟨"0x", by decide, rfl⟩
    · exact ⟨"0X", by decide, rfl⟩
  | binary mark =>
    rcases mark with rfl | rfl
    · exact ⟨"0b", by decide, rfl⟩
    · exact ⟨"0B", by decide, rfl⟩
  | decimal unmarked => exact ⟨"", by decide, rfl⟩

/-- Every text is read from the left, as its value or as the error of the first
character that fails. The numerals are the digits behind a mark of their radix with
a value below 2⁶⁴, blanks around them and underscores aside; zeros may stand before
them, as many as there are. -/
theorem read_iff_reading (t : Text) :
    (∀ answer, read t = answer ↔ Reading t answer) ∧
    (∀ n, read t = .ok n ↔ ∃ mark radix digits ds, (mark, radix) ∈ marks ∧ digits ≠ [] ∧
      bare t = mark ++ digits ∧ List.Forall₂ (IsDigit radix) digits ds ∧ value radix ds = n ∧
      n < 2 ^ 64) ∧
    (∀ mark radix digits ds k, (mark, radix) ∈ marks → digits ≠ [] →
      List.Forall₂ (IsDigit radix) digits ds → value radix ds < 2 ^ 64 →
      bare t = mark ++ (List.replicate k '0' ++ digits) → read t = .ok (value radix ds)) := by
  have hliteral : ∀ {mark radix digits ds}, (mark, radix) ∈ marks → digits ≠ [] →
      bare t = mark ++ digits → List.Forall₂ (IsDigit radix) digits ds →
      value radix ds < 2 ^ 64 → read t = .ok (value radix ds) := by
    intro mark radix digits ds hmark hne hbare hdigits hsmall
    obtain ⟨-, hr16⟩ := radix_of_mem_marks hmark
    have hannounced := announces_of_digits hmark hdigits
    rw [← hbare] at hannounced
    exact Reading.read_eq (.digits hannounced (not_signed_of_digits hr16 hdigits) hne
      (.number hdigits hsmall))
  refine ⟨fun answer => read_eq_iff, fun n => ⟨fun h => ?accepted, ?literal⟩, ?zeros⟩
  case accepted =>
    cases read_eq_iff.mp h with
    | digits announced unsigned some reading =>
      obtain ⟨mark, hmark, hbare⟩ := exists_mark_of_announces announced
      cases reading with
      | number all small => exact ⟨mark, _, _, _, hmark, some, hbare, all, rfl, small⟩
  case literal =>
    rintro ⟨mark, radix, digits, ds, hmark, hne, hbare, hdigits, rfl, hsmall⟩
    exact hliteral hmark hne hbare hdigits hsmall
  case zeros =>
    intro mark radix digits ds k hmark hne hdigits hsmall hbare
    obtain ⟨hr, -⟩ := radix_of_mem_marks hmark
    rw [← value_zeros_append k ds] at hsmall ⊢
    exact hliteral hmark (by simp [hne]) hbare (forall₂_zeros_append hr k hdigits) hsmall

/-- A numeral with blanks, underscores, zeros and digits in either case; the last
numeral and the first number beyond it; a bad digit before the bound is passed and
one behind; a sign behind a mark. -/
theorem read_iff_reading_edges :
    read " 0X_00_fF\t" = .ok 255 ∧
    Reading "18446744073709551615" (.ok (2 ^ 64 - 1)) ∧
    Reading "18446744073709551616z" (.error .tooLarge) ∧
    Reading "1844674407370955161z6" (.error .invalidDigit) ∧
    Reading " 0b_+1" (.error (.sign "0b_+1")) ∧
    Reading "0x__" (.error .empty) := by
  have hdigits : List.Forall₂ (IsDigit 16) ['f', 'F'] [15, 15] :=
    .cons ⟨by decide, by decide⟩ (.cons ⟨by decide, by decide⟩ .nil)
  refine ⟨?_, ?_, ?_, ?_, ?_, ?_⟩
  · exact (read_iff_reading _).2.2 "0X" 16 ['f', 'F'] [15, 15] 2 (by decide) (by decide) hdigits
      (by decide) (by decide)
  · exact ((read_iff_reading _).1 _).mp rfl
  · exact ((read_iff_reading _).1 _).mp rfl
  · exact ((read_iff_reading _).1 _).mp rfl
  · exact ((read_iff_reading _).1 _).mp rfl
  · exact ((read_iff_reading _).1 _).mp rfl

end Zicsr.Numeral
