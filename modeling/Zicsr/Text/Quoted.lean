import Zicsr.Numeral
import Zicsr.Text.Glyphless

/-
  Quoted text.

  A quoted text stands between double quotes. Inside, a backslash goes before
  the double quote and the backslash itself, four controls have letters, and a
  character without a glyph is given by its number.
-/

namespace Zicsr.Text

/-- The letter that stands for a character after a backslash. -/
def escapeLetter? : Char → Option Char
  | '\x00' => some '0'
  | '\t' => some 't'
  | '\r' => some 'r'
  | '\n' => some 'n'
  | '\\' => some '\\'
  | '"' => some '"'
  | _ => none

def escapeChar (c : Char) : Text :=
  match escapeLetter? c with
  | some letter => ['\\', letter]
  | none =>
    if isGlyphless c then "\\u\x7b".toList ++ Numeral.hex c.toNat ++ "\x7d".toList
    else [c]

/-- The text between double quotes, with the marks inside it escaped. -/
def quoted (t : Text) : Text := '"' :: t.flatMap escapeChar ++ ['"']

end Zicsr.Text
