import Zicsr.Text.Basic

/-
  Patterns of instruction words.

  A pattern is written as its bits from the top, with `?` for a bit that may be
  either; all other characters are spacing. A written pattern has at most 32
  bits, in whole bytes.
-/

namespace Zicsr

/-- The bits a word must have: those of `key` where `mask` is set. -/
structure BitPattern where
  key : BitVec 32
  mask : BitVec 32
  deriving DecidableEq, Repr

namespace BitPattern

/-- Whether the word has the bits of the pattern. -/
def accepts (p : BitPattern) (word : BitVec 32) : Bool := word &&& p.mask == p.key

/-- The pattern of one word. -/
def exactly (word : BitVec 32) : BitPattern := ⟨word, BitVec.allOnes 32⟩

/-- Why a text is no pattern. -/
inductive Error where
  | tooLong
  | ragged
  deriving DecidableEq, Repr

def Error.message : Error → Text
  | .tooLong => "Pattern length exceeds 32 bits"
  | .ragged => "Pattern length is not a multiple of 8"

/-- The bit that a character stands for, `some none` for one that may be either;
`none` if the character is spacing. -/
def bit? : Char → Option (Option Bool)
  | '0' => some (some false)
  | '1' => some (some true)
  | '?' => some none
  | _ => none

/-- The bits of a written pattern, from the top. -/
def bitsOf (t : Text) : List (Option Bool) := t.filterMap bit?

/-- The word with the bits given, from the top; bits pushed out above are lost. -/
def wordOf (bits : List Bool) : BitVec 32 :=
  bits.foldl (fun word b => (word <<< 1) ||| (BitVec.ofBool b).setWidth 32) 0#32

def ofBits (bits : List (Option Bool)) : BitPattern :=
  ⟨wordOf (bits.map (· == some true)), wordOf (bits.map Option.isSome)⟩

/-- The pattern that a text writes. -/
def read (t : Text) : Except Error BitPattern :=
  let bits := bitsOf t
  if 32 < bits.length then .error .tooLong
  else if bits.length % 8 ≠ 0 then .error .ragged
  else .ok (ofBits bits)

end BitPattern

end Zicsr
