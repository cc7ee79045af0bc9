import Zicsr.Proofs.Bits
import Zicsr.Xlen

/-
  The laws of fields.

  A field begins at a position of the word and may be longer than what is left of it;
  what sticks out is not there. Reading and writing obey the laws of a view: what is
  written is read, writing what is read changes nothing, the last of two writes stays,
  and writes to fields that share no position may change places. Each law is seen bit
  by bit, from what a write does inside the field and outside of it.

  The functions are also given with every guard in place: a shift must stay below the
  width, and a difference must not fall below zero. A mask is never less than zero, so
  only a shift can be stopped (`Guarded.getField_eq`, `Guarded.setField_eq`). The two
  ways to read a field differ in the mask of the whole word: one has a case of its own
  for it, and the other shifts by the width (`extract_reads_parts`).
-/

namespace Zicsr.Bits

variable {w : Nat}

/-! ## Words with every guard in place -/

/-- What a guard stops: a shift by the width or more, or a difference below zero. -/
inductive Fault where
  | shift (fault : ShiftFault)
  | borrow
  deriving DecidableEq, Repr

namespace Guarded

def shiftLeft (value : BitVec w) (amount : Nat) : Except Fault (BitVec w) :=
  if amount < w then .ok (value <<< amount) else .error (.shift .left)

def shiftRight (value : BitVec w) (amount : Nat) : Except Fault (BitVec w) :=
  if amount < w then .ok (value >>> amount) else .error (.shift .right)

def sub (a b : BitVec w) : Except Fault (BitVec w) :=
  if b.toNat ≤ a.toNat then .ok (a - b) else .error .borrow

/-- A shifted one, less one. -/
def mask (w len : Nat) : Except Fault (BitVec w) := do
  sub (← shiftLeft 1#w len) 1#w

def ones (w len : Nat) : Except Fault (BitVec w) :=
  if w ≤ len then .ok (BitVec.allOnes w) else mask w len

def getField (value : BitVec w) (low len : Nat) : Except Fault (BitVec w) := do
  let shifted ← shiftRight value low
  return shifted &&& (← ones w len)

def setField (value : BitVec w) (low len : Nat) (field : BitVec w) :
    Except Fault (BitVec w) := do
  let mask ← shiftLeft (← ones w len) low
  return (value &&& ~~~mask) ||| ((← shiftLeft field low) &&& mask)

def extract (value : BitVec w) (low len : Nat) : Except Fault (BitVec w) := do
  let shifted ← shiftRight value low
  return shifted &&& (← mask w len)

/-- A one that is still in the word is no less than one. -/
theorem mask_eq (w len : Nat) :
    mask w len = if len < w then .ok (((1#w) <<< len) - 1#w) else .error (.shift .left) := by
  by_cases h : len < w
  · have hone : 1 < 2 ^ w := Nat.one_lt_two_pow (by omega)
    have hpow : 2 ^ len < 2 ^ w := Nat.pow_lt_pow_right (by decide) h
    have hle : (1#w).toNat ≤ ((1#w) <<< len).toNat := by
      rw [BitVec.toNat_shiftLeft, BitVec.toNat_ofNat, Nat.mod_eq_of_lt hone, Nat.shiftLeft_eq,
        Nat.one_mul, Nat.mod_eq_of_lt hpow]
      exact Nat.one_le_two_pow
    rw [mask, shiftLeft, if_pos h, if_pos h]
    exact if_pos hle
  · rw [mask, shiftLeft, if_neg h, if_neg h]
    rfl

theorem ones_eq (w len : Nat) : ones w len = .ok (Bits.ones w len) := by
  unfold ones Bits.ones
  by_cases h : w ≤ len
  · rw [if_pos h, if_pos h]
  · rw [if_neg h, if_neg h, mask_eq, if_pos (Nat.lt_of_not_le h)]

theorem getField_eq (value : BitVec w) (low len : Nat) :
    getField value low len = (getFieldChecked value low len).mapError .shift := by
  unfold getField getFieldChecked shiftRight
  rw [ones_eq]
  split <;> rfl

theorem setField_eq (value field : BitVec w) (low len : Nat) :
    setField value low len field = (setFieldChecked value low len field).mapError .shift := by
  unfold setField setFieldChecked shiftLeft
  rw [ones_eq]
  by_cases h : low < w
  · simp only [if_pos h]
    rfl
  · simp only [if_neg h]
    rfl

theorem extract_eq (value : BitVec w) (low len : Nat) :
    extract value low len = (extractChecked value low len).mapError .shift := by
  unfold extract extractChecked shiftRight
  rw [mask_eq]
  by_cases hlow : low < w
  · rw [if_pos hlow, if_pos hlow]
    split <;> rfl
  · rw [if_neg hlow, if_neg hlow]
    rfl

end Guarded

/-! ## Reading and writing -/

/-- Whether the field at `low` of length `len` has the position, in the word or above it. -/
def Covers (low len i : Nat) : Prop := low ≤ i ∧ i < low + len

theorem getLsbD_setField_of_not_covers (value field : BitVec w) {low len i : Nat}
    (h : ¬ Covers low len i) : (setField value low len field).getLsbD i = value.getLsbD i := by
  rw [getLsbD_setField, if_neg]
  exact fun hcovered => h ⟨hcovered.1, hcovered.2.1⟩

theorem getLsbD_setField_of_covers (value field : BitVec w) {low len i : Nat}
    (h : Covers low len i) (hi : i < w) :
    (setField value low len field).getLsbD i = field.getLsbD (i - low) := by
  rw [getLsbD_setField, if_pos ⟨h.1, h.2, hi⟩]

theorem setField_getField (value : BitVec w) (low len : Nat) :
    setField value low len (getField value low len) = value := by
  apply BitVec.eq_of_getLsbD_eq
  intro i hi
  by_cases h : Covers low len i
  · obtain ⟨hlow, hlen⟩ := h
    rw [getLsbD_setField_of_covers _ _ ⟨hlow, hlen⟩ hi, getLsbD_getField,
      Nat.add_sub_cancel' hlow, decide_eq_true (by omega : i - low < len), Bool.and_true]
  · exact getLsbD_setField_of_not_covers _ _ h

theorem setField_setField (value field field' : BitVec w) (low len : Nat) :
    setField (setField value low len field) low len field' = setField value low len field' := by
  apply BitVec.eq_of_getLsbD_eq
  intro i hi
  by_cases h : Covers low len i
  · rw [getLsbD_setField_of_covers _ _ h hi, getLsbD_setField_of_covers _ _ h hi]
  · rw [getLsbD_setField_of_not_covers _ _ h, getLsbD_setField_of_not_covers _ _ h,
      getLsbD_setField_of_not_covers _ _ h]

/-- Writes to fields that share no position may change places. -/
theorem setField_comm (value field field' : BitVec w) {low len low' len' : Nat}
    (h : ∀ i, ¬ (Covers low len i ∧ Covers low' len' i)) :
    setField (setField value low len field) low' len' field' =
      setField (setField value low' len' field') low len field := by
  apply BitVec.eq_of_getLsbD_eq
  intro i hi
  -- A position lies in one of the fields at most, and only that write decides it.
  by_cases hfirst : Covers low len i
  · have hsecond : ¬ Covers low' len' i := fun hsecond => h i ⟨hfirst, hsecond⟩
    rw [getLsbD_setField_of_not_covers _ _ hsecond, getLsbD_setField_of_covers _ _ hfirst hi,
      getLsbD_setField_of_covers _ _ hfirst hi]
  · rw [getLsbD_setField_of_not_covers _ field hfirst]
    by_cases hsecond : Covers low' len' i
    · rw [getLsbD_setField_of_covers _ _ hsecond hi, getLsbD_setField_of_covers _ _ hsecond hi]
    · rw [getLsbD_setField_of_not_covers _ _ hsecond, getLsbD_setField_of_not_covers _ _ hfirst,
        getLsbD_setField_of_not_covers _ _ hsecond]

/-- The laws of fields hold at every position of the word and for every length. -/
theorem field_laws :
    (∀ (value field : BitVec w) (low len : Nat),
      Guarded.getField value low len =
          (if low < w then .ok (getField value low len) else .error (.shift .right)) ∧
        Guarded.setField value low len field =
          if low < w then .ok (setField value low len field) else .error (.shift .left)) ∧
    ∀ (value field field' : BitVec w) (low len : Nat), low < w →
      (getField (setField value low len field) low len).toNat =
          field.toNat % 2 ^ min len (w - low) ∧
        (∀ i, ¬ Covers low len i →
          (setField value low len field).getLsbD i = value.getLsbD i) ∧
        setField value low len (getField value low len) = value ∧
        setField (setField value low len field) low len field' = setField value low len field' ∧
        ∀ low' len', low' < w → (∀ i, ¬ (Covers low len i ∧ Covers low' len' i)) →
          setField (setField value low len field) low' len' field' =
            setField (setField value low' len' field') low len field := by
  refine ⟨fun value field low len => ⟨?get, ?set⟩, fun value field field' low len _ => ?laws⟩
  case get =>
    rw [Guarded.getField_eq, getFieldChecked]
    split <;> rfl
  case set =>
    rw [Guarded.setField_eq, setFieldChecked]
    split <;> rfl
  case laws =>
    refine ⟨?_, fun i => getLsbD_setField_of_not_covers value field, setField_getField _ _ _,
      setField_setField _ _ _ _ _, fun _ _ _ h => setField_comm _ _ _ h⟩
    rw [getField_setField, toNat_getField, Nat.pow_zero, Nat.div_one]

/-- A field of eight bits of which four are left in the word, and another below it: what
sticks out is dropped, the other is untouched, and their order does not matter. -/
theorem field_laws_top :
    let value : Xlen.rv64.Word := 0xAAAA_AAAA_AAAA_AAAA
    60 < Xlen.rv64.bits ∧ 11 < Xlen.rv64.bits ∧ (∀ i, ¬ (Covers 60 8 i ∧ Covers 11 2 i)) ∧
      (getField (setField value 60 8 0xFF5) 60 8).toNat = 5 ∧
      (setField value 60 8 0xFF5).getLsbD 59 = true ∧
      setField (setField value 60 8 0xFF5) 11 2 0 =
        setField (setField value 11 2 0) 60 8 0xFF5 := by
  intro value
  have hapart : ∀ i, ¬ (Covers 60 8 i ∧ Covers 11 2 i) := by
    rintro i ⟨⟨hfirst, -⟩, -, hsecond⟩
    omega
  obtain ⟨hread, hframe, -, -, hcomm⟩ :=
    field_laws.2 value 0xFF5 0 60 8 (by decide : 60 < Xlen.rv64.bits)
  refine ⟨by decide, by decide, hapart, hread, ?_, hcomm 11 2 (by decide) hapart⟩
  rw [hframe 59 (by unfold Covers; omega)]
  decide

/-! ## Two masks -/

/-- Where the length is below the width, the two masks are one. -/
theorem extract_eq_getField (value : BitVec w) (low : Nat) {len : Nat} (h : len < w) :
    extract value low len = getField value low len := by
  rw [extract, getField, ones, if_neg (Nat.not_le_of_lt h)]

theorem getField_whole (value : BitVec w) : getField value 0 w = value := by
  apply BitVec.eq_of_toNat_eq
  rw [toNat_getField, Nat.pow_zero, Nat.div_one, Nat.mod_eq_of_lt value.isLt]

/-- Cutting out a field that lies in the word gives the remainder of a quotient, as
reading the field does, unless the field is the whole word: that is read, but the mask
to cut it out takes a shift by the width. -/
theorem extract_reads_parts (value : BitVec 32) {low len : Nat} (hlow : low < 32)
    (hlen : len ≤ 32 - low) :
    if len < 32 then
      ∃ field, Guarded.extract value low len = .ok field ∧
        Guarded.getField value low len = .ok field ∧
        field.toNat = value.toNat / 2 ^ low % 2 ^ len
    else
      low = 0 ∧ len = 32 ∧ Guarded.extract value low len = .error (.shift .left) ∧
        Guarded.getField value low len = .ok value := by
  rw [Guarded.extract_eq, Guarded.getField_eq, extractChecked, getFieldChecked, if_pos hlow,
    if_pos hlow]
  split
  · next h =>
    refine ⟨_, rfl, ?_, toNat_extract value low (Nat.le_of_lt h)⟩
    rw [extract_eq_getField value low h]
    rfl
  · next h =>
    -- A field that is as long as the word begins at its bottom.
    obtain rfl : low = 0 := by omega
    obtain rfl : len = 32 := by omega
    exact ⟨rfl, rfl, rfl, congrArg Except.ok (getField_whole value)⟩

/-- The longest field that does not begin at the bottom of a word is cut out; the word
itself is not. -/
theorem extract_reads_parts_whole :
    (1 < 32 ∧ 31 ≤ 32 - 1 ∧ ∃ field, Guarded.extract 0x30029073#32 1 31 = .ok field ∧
      field.toNat = 0x30029073 / 2) ∧
    (0 < 32 ∧ 32 ≤ 32 - 0 ∧ Guarded.extract 0x30029073#32 0 32 = .error (.shift .left) ∧
      Guarded.getField 0x30029073#32 0 32 = .ok 0x30029073#32) := by
  obtain ⟨field, hextract, -, hfield⟩ :=
    extract_reads_parts 0x30029073#32 (by decide : 1 < 32) (by decide : 31 ≤ 32 - 1)
  obtain ⟨-, -, hrefused, hread⟩ :=
    extract_reads_parts 0x30029073#32 (by decide : 0 < 32) (by decide : 32 ≤ 32 - 0)
  exact ⟨⟨by decide, by decide, field, hextract, hfield.trans (by decide)⟩, by decide, by decide,
    hrefused, hread⟩

/-- Not every field that lies in the word is cut out. -/
theorem extract_not_whole :
    ¬ ∀ (value : BitVec 32) (low len : Nat), low < 32 → len ≤ 32 - low →
      ∃ field, Guarded.extract value low len = .ok field ∧
        Guarded.getField value low len = .ok field ∧
        field.toNat = value.toNat / 2 ^ low % 2 ^ len := by
  intro h
  obtain ⟨field, hextract, -⟩ := h 0x30029073#32 0 32 (by decide) (by decide)
  have hrefused : Guarded.extract 0x30029073#32 0 32 = .error (.shift .left) := rfl
  rw [hrefused] at hextract
  cases hextract

end Zicsr.Bits
