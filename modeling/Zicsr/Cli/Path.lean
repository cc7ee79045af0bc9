import Zicsr.Text.Split

/-
  The last name of a path.

  Slashes separate the names of a path; empty names and single dots say nothing.
-/

namespace Zicsr.Path

/-- The names of a path, without those that say nothing. -/
def names (path : Text) : List Text :=
  (Text.split (· == '/') path).filter (fun name => name ≠ [] ∧ name ≠ ".".toList)

/-- The last name of a path; `none` if there is none or if it leads upward. -/
def fileName? (path : Text) : Option Text :=
  match (names path).getLast? with
  | none => none
  | some name => if name = "..".toList then none else some name

/-- A name without its last dot and what follows; a dot that only opens the name
stays. -/
def dropExtension (name : Text) : Text :=
  match Text.cutAt? (· == '.') name.reverse with
  | none => name
  | some (_, before) => if before = [] then name else before.reverse

/-- The last name of a path, without extension. -/
def stem? (path : Text) : Option Text := (fileName? path).map dropExtension

end Zicsr.Path
