/-
  Text as a list of characters.

  Every reader and printer of the library works on `Text`, so each of them is
  plain recursion on a list. A string literal stands for the text it spells.
-/

namespace Zicsr

/-- The characters of a text, first to last. -/
abbrev Text := List Char

instance : Coe String Text := ⟨String.toList⟩

namespace Text

/-- The text with its ASCII capitals made small; all else stays. -/
def lower (t : Text) : Text := t.map Char.toLower

/-- The text with its small ASCII letters made capital; all else stays. -/
def upper (t : Text) : Text := t.map Char.toUpper

/-- The text followed by spaces up to the width; a longer text stays whole. -/
def padRight (width : Nat) (t : Text) : Text :=
  t ++ List.replicate (width - t.length) ' '

/-- The texts one after the other, each ended by a newline. -/
def unlines (ts : List Text) : Text := ts.flatMap (· ++ ['\n'])

/-- What stands before a last character `c`; `none` if the text ends otherwise. -/
def dropEnd? (c : Char) (t : Text) : Option Text :=
  if t.getLast? = some c then some t.dropLast else none

/-- Whether the code point of a character lies in one of the ranges, both ends
included. -/
def inRanges (ranges : List (Nat × Nat)) (c : Char) : Bool :=
  ranges.any (fun range => range.1 ≤ c.toNat && c.toNat ≤ range.2)

end Text

end Zicsr
