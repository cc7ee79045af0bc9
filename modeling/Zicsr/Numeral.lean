import Zicsr.Text.Blank

/-
  Unsigned numerals.

  A numeral is decimal, or hexadecimal after `0x`, or binary after `0b`; it may
  hold underscores anywhere and blanks at its ends, and its value is below 2⁶⁴.
  Printing writes the fewest digits, or as many as asked for.
-/

namespace Zicsr.Numeral

/-- Why a text is no numeral. -/
inductive Error where
  | sign (text : Text)
  | empty
  | invalidDigit
  | tooLarge
  deriving DecidableEq, Repr

def Error.message : Error → Text
  | .sign text => "unexpected sign in `".toList ++ text ++ "`".toList
  | .empty => "cannot parse integer from empty string"
  | .invalidDigit => "invalid digit found in string"
  | .tooLarge => "number too large to fit in target type"

/-! ## Reading -/

/-- Numerals stay below this bound. -/
def bound : Nat := UInt64.size

/-- The value of a digit or of an ASCII letter, counted on from nine. -/
def digitValue (c : Char) : Option Nat :=
  if '0' ≤ c ∧ c ≤ '9' then some (c.toNat - '0'.toNat)
  else if 'a' ≤ c ∧ c ≤ 'z' then some (c.toNat - 'a'.toNat + 10)
  else if 'A' ≤ c ∧ c ≤ 'Z' then some (c.toNat - 'A'.toNat + 10)
  else none

def digit? (radix : Nat) (c : Char) : Option Nat :=
  (digitValue c).filter (· < radix)

/-- Reads digits onto the value read so far. The first character that fails
decides the error: one that is no digit, or one whose digit passes the bound. -/
def readDigits (radix : Nat) : Nat → Text → Except Error Nat
  | value, [] => .ok value
  | value, c :: rest =>
    match digit? radix c with
    | none => .error .invalidDigit
    | some d =>
      if radix * value + d < bound then readDigits radix (radix * value + d) rest
      else .error .tooLarge

/-- The radix a numeral announces, and its digits. -/
def radixAndDigits : Text → Nat × Text
  | '0' :: 'x' :: digits => (16, digits)
  | '0' :: 'X' :: digits => (16, digits)
  | '0' :: 'b' :: digits => (2, digits)
  | '0' :: 'B' :: digits => (2, digits)
  | digits => (10, digits)

/-- Whether the text begins with a plus or a minus. -/
def isSigned : Text → Bool
  | '+' :: _ => true
  | '-' :: _ => true
  | _ => false

/-- The value of a numeral. -/
def read (t : Text) : Except Error Nat :=
  let (radix, digits) := radixAndDigits ((Text.trim t).filter (· ≠ '_'))
  if isSigned digits then .error (.sign (Text.trim t))
  else if digits = [] then .error .empty
  else readDigits radix 0 digits

/-- The value of a numeral below the limit. -/
def readBelow? (limit : Nat) (t : Text) : Option Nat :=
  match read t with
  | .ok n => if n < limit then some n else none
  | .error _ => none

/-! ## Printing -/

def decimal (n : Nat) : Text := Nat.toDigits 10 n

/-- The hexadecimal digits, in small letters. -/
def hex (n : Nat) : Text := Nat.toDigits 16 n

/-- The hexadecimal digits with zeros before them up to the width. -/
def hexPadded (width n : Nat) : Text := (hex n).leftpad width '0'

/-- A hexadecimal numeral with the fewest digits. -/
def literal (n : Nat) : Text := '0' :: 'x' :: hex n

def literalPadded (width n : Nat) : Text := '0' :: 'x' :: hexPadded width n

end Zicsr.Numeral
