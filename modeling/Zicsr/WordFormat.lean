import Zicsr.Numeral

/-
  Notations for an encoded word.

  Each ends in the word as eight hexadecimal digits.
-/

namespace Zicsr

/-- How a word is written: as a data directive of one of two assemblers, or
alone. -/
inductive WordFormat where
  | go
  | gnu
  | hex
  deriving DecidableEq, Repr

namespace WordFormat

def all : List WordFormat := [.go, .gnu, .hex]

def name : WordFormat → Text
  | .go => "go"
  | .gnu => "gnu"
  | .hex => "hex"

def ofName? (t : Text) : Option WordFormat := all.find? (fun f => f.name = t)

/-- The format used where none is named. -/
def standard : WordFormat := .go

/-- What stands before the numeral. -/
def opening : WordFormat → Text
  | .go => "WORD $"
  | .gnu => ".word "
  | .hex => ""

def numeral (word : BitVec 32) : Text := Numeral.literalPadded 8 word.toNat

def write (f : WordFormat) (word : BitVec 32) : Text := f.opening ++ numeral word

end WordFormat

end Zicsr
