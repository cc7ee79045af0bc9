import Zicsr.Text.Blank

/-
  Cutting a text into pieces.

  `split` cuts at every separator, `cutAt?` at the first one only, and `lines`
  and `words` are the two divisions that readers of whole texts need.
-/

namespace Zicsr.Text

/-- The pieces of a text between the characters that satisfy `p`. There is
always one piece more than there are such characters. -/
def split (p : Char → Bool) : Text → List Text
  | [] => [[]]
  | c :: rest =>
    if p c then [] :: split p rest
    else (split p rest).modifyHead (c :: ·)

/-- What stands before and after the first character that satisfies `p`. -/
def cutAt? (p : Char → Bool) (t : Text) : Option (Text × Text) :=
  match t.dropWhile (fun c => !p c) with
  | [] => none
  | _ :: after => some (t.takeWhile (fun c => !p c), after)

/-- The maximal runs of characters that are not blank. -/
def words (t : Text) : List Text := (split isBlank t).filter (· ≠ [])

/-- The text without a carriage return at its end. -/
def dropReturn (t : Text) : Text := (dropEnd? '\r' t).getD t

/-- The pieces between newlines as lines: a newline takes the carriage return
before it along, and the piece after the last newline counts unless it is
empty. -/
def closeLines : List Text → List Text
  | [] => []
  | [last] => if last = [] then [] else [last]
  | piece :: more => dropReturn piece :: closeLines more

/-- The lines of a text. -/
def lines (t : Text) : List Text := closeLines (split (· == '\n') t)

theorem split_ne_nil (p : Char → Bool) (t : Text) : split p t ≠ [] := by
  induction t with
  | nil => simp [split]
  | cons c rest ih =>
    simp only [split]
    split
    · simp
    · cases h : Text.split p rest with
      | nil => exact absurd h ih
      | cons piece more => simp

end Zicsr.Text
