import Zicsr.Cli.TypedLine
import Zicsr.Proofs.Text.Split

/-
  Positions in the bytes of a text.

  A text in UTF-8 is searched and cut at positions that count bytes, and it can be cut
  between two characters only. The position of a character that a search has found is
  the size of what stands before it (`position?_singleton`), so the text can be cut
  there, into what comes before (`takeBytes?_append`) and what comes behind
  (`TypedLine.dropBytes?_append`). A byte below 128 is never a part of a longer
  character (`toNat_of_mem_utf8EncodeChar`).
-/

namespace Zicsr.Text

open TypedLine (byteSize dropBytes? byteSize_cons)

/-- The first `n` bytes of a text; `none` if a character goes on beyond them or the
text is shorter. -/
def takeBytes? : Nat → Text → Option Text
  | 0, _ => some []
  | _ + 1, [] => none
  | n + 1, c :: rest =>
    if c.utf8Size ≤ n + 1 then (takeBytes? (n + 1 - c.utf8Size) rest).map (c :: ·) else none

/-- The position of the first occurrence of a pattern. -/
def position? (pattern : Text) : Text → Option Nat
  | [] => if pattern = [] then some 0 else none
  | c :: rest =>
    if pattern.isPrefixOf (c :: rest) then some 0
    else (position? pattern rest).map (· + c.utf8Size)

def utf8 (t : Text) : List UInt8 := t.flatMap String.utf8EncodeChar

/-! ## Bytes of characters -/

/-- A byte below 128 is a character by itself. -/
theorem toNat_of_mem_utf8EncodeChar {c : Char} {byte : UInt8}
    (h : byte ∈ String.utf8EncodeChar c) (hlt : byte.toNat < 128) : c.toNat = byte.toNat := by
  have hc : c.toNat = c.val.toNat := rfl
  rw [hc]
  unfold String.utf8EncodeChar at h
  dsimp only at h
  split at h
  · rw [List.mem_singleton.mp h, UInt8.toNat_ofNat']
    omega
  · -- All bytes of a longer character have their top bit set.
    exfalso
    (repeat' split at h) <;> simp only [List.mem_cons, List.not_mem_nil, or_false] at h
    · rcases h with rfl | rfl <;> rw [UInt8.toNat_ofNat'] at hlt <;> omega
    · rcases h with rfl | rfl | rfl <;> rw [UInt8.toNat_ofNat'] at hlt <;> omega
    · rcases h with rfl | rfl | rfl | rfl <;> rw [UInt8.toNat_ofNat'] at hlt <;> omega

theorem length_le_length_utf8 (t : Text) : t.length ≤ (utf8 t).length := by
  induction t with
  | nil => exact Nat.le_refl _
  | cons c t ih =>
    have hc : 0 < c.utf8Size := c.utf8Size_pos
    rw [utf8, List.flatMap_cons, List.length_append, String.length_utf8EncodeChar, ← utf8,
      List.length_cons]
    omega

/-! ## Cutting -/

theorem takeBytes?_zero (t : Text) : takeBytes? 0 t = some [] := by
  cases t <;> rfl

theorem takeBytes?_add (n : Nat) (c : Char) (t : Text) :
    takeBytes? (n + c.utf8Size) (c :: t) = (takeBytes? n t).map (c :: ·) := by
  obtain ⟨m, hm⟩ : ∃ m, c.utf8Size = m + 1 := 
    Nat.exists_eq_succ_of_ne_zero (Nat.ne_of_gt c.utf8Size_pos)
  rw [hm, ← Nat.add_assoc, takeBytes?, if_pos (by omega), hm, Nat.add_assoc, Nat.add_sub_cancel]

theorem takeBytes?_append (s t : Text) : takeBytes? (byteSize s) (s ++ t) = some s := by
  induction s with
  | nil => exact takeBytes?_zero t
  | cons c s ih =>
    rw [byteSize_cons, Nat.add_comm, List.cons_append, takeBytes?_add, ih]
    rfl

/-- A position inside a character is no place to cut. -/
example : takeBytes? 1 "é(" = none ∧ takeBytes? 2 "é(" = some ['é'] ∧ dropBytes? 1 "é(" = none := by
  decide

/-! ## Searching -/

theorem position?_cons_of_not {pattern : Text} {c : Char} {t : Text}
    (h : pattern.isPrefixOf (c :: t) = false) :
    position? pattern (c :: t) = (position? pattern t).map (· + c.utf8Size) := by
  rw [position?, if_neg (by simp [h])]

theorem position?_singleton (c : Char) (t : Text) :
    position? [c] t = (cutAt? (· == c) t).map (fun (before, _) => byteSize before) := by
  induction t with
  | nil => rfl
  | cons d t ih =>
    rw [position?, cutAt?_cons, ih]
    by_cases hd : d = c
    · simp [hd, byteSize]
    · cases cutAt? (· == c) t <;> simp [hd, Ne.symm hd, byteSize_cons, Nat.add_comm]

end Zicsr.Text
