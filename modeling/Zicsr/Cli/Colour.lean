import Zicsr.Numeral

/-
  Colours of the output.

  A colour is switched on by its number before a text, and off after it.
-/

namespace Zicsr

/-- What is shown in a colour of its own. -/
inductive Role where
  | csrName
  | word
  | fieldName
  | instruction
  | invalid
  deriving DecidableEq, Repr

namespace Role

def colour : Role → Nat
  | .csrName => 8
  | .invalid => 9
  | .instruction => 10
  | .word => 11
  | .fieldName => 13

/-- What begins a sequence that the terminal obeys. -/
def escape : Text := "\x1b["

/-- The text in the colour of its role. -/
def paint (r : Role) (t : Text) : Text :=
  escape ++ "38;5;".toList ++ Numeral.decimal r.colour ++ 'm' :: t ++ escape ++ "39m".toList

end Role

end Zicsr
