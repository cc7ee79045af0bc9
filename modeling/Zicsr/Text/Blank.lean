import Zicsr.Text.Basic

/-
  Blank characters, and the text between them.

  A character is blank if it has the Unicode property White_Space. Trimming
  removes blanks from both ends only.
-/

namespace Zicsr.Text

/-- Whether the character has the property White_Space: the five controls from
tab to carriage return, the space, next line, and the spaces and separators of
the general punctuation and CJK blocks. -/
def isBlank (c : Char) : Bool :=
  let n := c.toNat
  (9 ≤ n && n ≤ 13) || n == 0x20 || n == 0x85 || n == 0xA0 || n == 0x1680 ||
    (0x2000 ≤ n && n ≤ 0x200A) || n == 0x2028 || n == 0x2029 || n == 0x202F ||
    n == 0x205F || n == 0x3000

def trimStart (t : Text) : Text := t.dropWhile isBlank

def trimEnd (t : Text) : Text := (t.reverse.dropWhile isBlank).reverse

/-- The text without the blanks at its two ends. -/
def trim (t : Text) : Text := trimEnd (trimStart t)

end Zicsr.Text
