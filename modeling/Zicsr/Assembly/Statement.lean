import Zicsr.Text.Split

/-
  The parts of a source line.

  A comment runs from the first `#` or `//` to the end of the line. What is left
  is blank, or a call with operands in parentheses, or a statement whose
  operands follow a blank; commas separate the operands.
-/

namespace Zicsr

/-- How the operands of a line are attached to its name. -/
inductive Style where
  | statement
  | call
  deriving DecidableEq, Repr

/-- A line taken apart: its name, and its operands as they are written. -/
structure Parts where
  style : Style
  name : Text
  operands : List Text
  deriving DecidableEq, Repr

namespace Parts

def dropComment : Text → Text
  | [] => []
  | '#' :: _ => []
  | '/' :: '/' :: _ => []
  | c :: rest => c :: dropComment rest

/-- The code of a line: its text without comment and without blanks at the
ends. -/
def code (line : Text) : Text := Text.trim (dropComment line)

/-- The operands between commas, without the blanks around them; there are none
if the text is blank. -/
def splitOperands (t : Text) : List Text :=
  if Text.trim t = [] then []
  else (Text.split (· == ',') t).map Text.trim

/-- The name of a line and the text of its operands. A line with an opening
parenthesis is a call and must end in a closing one; `none` if it does not. -/
def cut? (code : Text) : Option (Style × Text × Text) :=
  match Text.cutAt? (· == '(') code with
  | some (name, rest) =>
    (Text.dropEnd? ')' rest).map (fun operands => (.call, Text.trim name, operands))
  | none => some (.statement, (Text.cutAt? Text.isBlank code).getD (code, []))

/-- Takes the code of a line apart; `none` if it is a call that is not closed. -/
def read? (code : Text) : Option Parts :=
  (cut? code).map (fun (style, name, operands) => ⟨style, name, splitOperands operands⟩)

end Parts

end Zicsr
