import Zicsr.Text.Basic

/-
  Bit fields of fixed-width words.

  A field is a low position and a length. Reading shifts it down and masks it,
  writing replaces the masked bits. The plain operations answer at every
  position; those ending in `Checked` refuse a shift by the whole width or more.
-/

namespace Zicsr.Bits

variable {w : Nat}

/-- A shift whose amount reaches the width of the word. -/
inductive ShiftFault where
  | left
  | right
  deriving DecidableEq, Repr

def ShiftFault.message : ShiftFault → Text
  | .left => "attempt to shift left with overflow"
  | .right => "attempt to shift right with overflow"

/-- The word with the lowest `len` bits set, all of them from the width on. -/
def ones (w len : Nat) : BitVec w :=
  if w ≤ len then BitVec.allOnes w else ((1#w) <<< len) - 1#w

/-- The field at `low` of length `len`. -/
def getField (value : BitVec w) (low len : Nat) : BitVec w :=
  (value >>> low) &&& ones w len

/-- The word with the field at `low` of length `len` replaced; bits of the new
value beyond the field are dropped. -/
def setField (value : BitVec w) (low len : Nat) (field : BitVec w) : BitVec w :=
  let mask := ones w len <<< low
  (value &&& ~~~mask) ||| ((field <<< low) &&& mask)

/-- The field at `low` of length `len`, cut out with a mask one less than a
power of two. -/
def extract (value : BitVec w) (low len : Nat) : BitVec w :=
  (value >>> low) &&& (((1#w) <<< len) - 1#w)

/-- `getField`, where the position must lie in the word. -/
def getFieldChecked (value : BitVec w) (low len : Nat) : Except ShiftFault (BitVec w) :=
  if low < w then .ok (getField value low len) else .error .right

/-- `setField`, where the position must lie in the word. -/
def setFieldChecked (value : BitVec w) (low len : Nat) (field : BitVec w) :
    Except ShiftFault (BitVec w) :=
  if low < w then .ok (setField value low len field) else .error .left

/-- `extract`, where the position and then the length must be less than the
width. -/
def extractChecked (value : BitVec w) (low len : Nat) : Except ShiftFault (BitVec w) :=
  if low < w then
    if len < w then .ok (extract value low len) else .error .left
  else .error .right

end Zicsr.Bits
