import Zicsr.Text.Grapheme

/-
  A line as it is typed.

  A backspace takes back the grapheme typed before it. The line remembers each
  grapheme by its size in bytes, and the size is kept in one byte, so that it
  counts modulo 256; what a backspace takes back is that many bytes.
-/

namespace Zicsr

/-- A line while it is typed: its characters, last first, and the sizes of the
graphemes that a backspace can take back, last first. -/
structure TypedLine where
  reversed : Text
  sizes : List Nat
  deriving DecidableEq, Repr

namespace TypedLine

def empty : TypedLine := ⟨[], []⟩

def text (l : TypedLine) : Text := l.reversed.reverse

def byteSize : Text → Nat
  | [] => 0
  | c :: rest => c.utf8Size + byteSize rest

/-- What follows the first `n` bytes of a text; `none` if a character goes on
beyond them or the text is shorter. -/
def dropBytes? : Nat → Text → Option Text
  | 0, t => some t
  | _ + 1, [] => none
  | n + 1, c :: rest =>
    if c.utf8Size ≤ n + 1 then dropBytes? (n + 1 - c.utf8Size) rest else none

def push (l : TypedLine) (g : Text) : TypedLine :=
  ⟨g.reverse ++ l.reversed, byteSize g % 256 :: l.sizes⟩

/-- The last grapheme is taken back, if there is one; `none` where its size ends
inside a character. -/
def erase? (l : TypedLine) : Option TypedLine :=
  match l.sizes with
  | [] => some l
  | n :: sizes => (dropBytes? n l.reversed).map (⟨·, sizes⟩)

/-- The grapheme that takes back the one before it. -/
def backspace : Text := ['\x08']

/-- A key is pressed: a grapheme or a backspace. -/
def press? (l : TypedLine) (g : Text) : Option TypedLine :=
  if g = backspace then l.erase? else some (l.push g)

/-- What stands on a line after its keys were pressed in order. -/
def read? (keys : Text) : Option Text :=
  ((Text.graphemes keys).foldlM press? empty).map text

theorem byteSize_cons (c : Char) (t : Text) : byteSize (c :: t) = c.utf8Size + byteSize t := rfl

theorem byteSize_append (s t : Text) : byteSize (s ++ t) = byteSize s + byteSize t := by
  induction s with
  | nil => rw [List.nil_append, byteSize, Nat.zero_add]
  | cons c s ih => rw [List.cons_append, byteSize_cons, byteSize_cons, ih, Nat.add_assoc]

theorem dropBytes?_append (t rest : Text) : dropBytes? (byteSize t) (t ++ rest) = some rest := by
  induction t with
  | nil => cases rest <;> rfl
  | cons c t ih =>
    have hc : 0 < c.utf8Size := Char.utf8Size_pos c
    obtain ⟨n, hn⟩ : ∃ n, byteSize (c :: t) = n + 1 := ⟨byteSize (c :: t) - 1, by
      rw [byteSize_cons]; omega⟩
    rw [hn, List.cons_append, dropBytes?]
    rw [byteSize_cons] at hn
    rw [if_pos (by omega), ← hn, Nat.add_sub_cancel_left, ih]

end TypedLine

end Zicsr
