import Mathlib.Algebra.Ring.Nat
import Mathlib.Data.List.Induction
import Zicsr.Instruction.BitPattern
import Zicsr.Proofs.Assembly.Guarded

/-
  What a written pattern means.

  A pattern is written in marks, and all else in it is spacing. The mark at place `j`
  from the end says what bit `j` of a word must be, so the meaning of a pattern is
  what it requires of each bit (`required?`): a word is accepted exactly if it has the
  bits required (`accepts_ofBits_iff`), and patterns are equal exactly if they require
  the same (`ofBits_eq_iff`). Marks for any bit at the front require nothing, and
  without them the marks are known by what they require (`eq_of_required?_eq`).

  A pattern can also be read byte by byte, with a counter and two words that take each
  mark in at the bottom (`readBytes`). After any bytes the counter and the words are
  those of the marks so far, so this is the same reading (`readBytes_eq`).
-/

namespace Zicsr

namespace BitPattern

/-! ## Bits from the end -/

theorem getLsbD_append_bit (w : BitVec 32) (b : Bool) {j : Nat} (hj : j < 32) :
    ((w <<< 1) ||| (BitVec.ofBool b).setWidth 32).getLsbD j =
      if j = 0 then b else w.getLsbD (j - 1) := by
  rw [BitVec.getLsbD_or, BitVec.getLsbD_shiftLeft, BitVec.getLsbD_setWidth, BitVec.getLsbD_ofBool]
  by_cases h : j = 0
  · simp [h]
  · simp [h, hj]

theorem wordOf_concat (bits : List Bool) (b : Bool) :
    wordOf (bits ++ [b]) = (wordOf bits <<< 1) ||| (BitVec.ofBool b).setWidth 32 := by
  rw [wordOf, List.foldl_append]
  rfl

theorem getLsbD_wordOf (bits : List Bool) {j : Nat} (hj : j < 32) :
    (wordOf bits).getLsbD j = (bits.reverse[j]?).getD false := by
  -- By induction from the last bit, which all others make room for.
  induction bits using List.reverseRecOn generalizing j with
  | nil => simp [wordOf]
  | append_singleton bits b ih =>
    rw [wordOf_concat, getLsbD_append_bit _ _ hj, List.reverse_append]
    cases j with
    | zero => rfl
    | succ j => exact ih (by omega)

/-- What a pattern requires bit `j` to be; `none` if it may be either. -/
def required? (bits : List (Option Bool)) (j : Nat) : Option Bool := (bits.reverse[j]?).join

variable {a b bits : List (Option Bool)}

theorem getLsbD_key (bits : List (Option Bool)) {j : Nat} (hj : j < 32) :
    (ofBits bits).key.getLsbD j = (required? bits j == some true) := by
  rw [ofBits, getLsbD_wordOf _ hj, ← List.map_reverse, List.getElem?_map, required?]
  rcases bits.reverse[j]? with _ | _ | _ <;> rfl

theorem getLsbD_mask (bits : List (Option Bool)) {j : Nat} (hj : j < 32) :
    (ofBits bits).mask.getLsbD j = (required? bits j).isSome := by
  rw [ofBits, getLsbD_wordOf _ hj, ← List.map_reverse, List.getElem?_map, required?]
  rcases bits.reverse[j]? with _ | _ | _ <;> rfl

theorem required?_of_length_le {j : Nat} (h : bits.length ≤ j) : required? bits j = none := by
  rw [required?, List.getElem?_eq_none (by simpa using h)]
  rfl

/-! ## Words that are accepted -/

theorem accepts_ofBits_iff (bits : List (Option Bool)) (w : BitVec 32) :
    (ofBits bits).accepts w = true ↔
      ∀ j < 32, ∀ v, required? bits j = some v → w.getLsbD j = v := by
  have hbits : (ofBits bits).accepts w = true ↔
      ∀ j < 32, (w.getLsbD j && (required? bits j).isSome) = (required? bits j == some true) := by
    rw [accepts, beq_iff_eq]
    constructor
    · intro h j hj
      rw [← getLsbD_mask bits hj, ← getLsbD_key bits hj, ← h, BitVec.getLsbD_and]
    · intro h
      apply BitVec.eq_of_getLsbD_eq
      intro j hj
      rw [BitVec.getLsbD_and, getLsbD_mask bits hj, getLsbD_key bits hj, h j hj]
  rw [hbits]
  refine forall₂_congr fun j _ => ?_
  cases required? bits j with
  | none => simp
  | some v => cases v <;> simp

theorem key_and_not_mask (bits : List (Option Bool)) :
    (ofBits bits).key &&& ~~~(ofBits bits).mask = 0#32 := by
  apply BitVec.eq_of_getLsbD_eq
  intro j hj
  rw [BitVec.getLsbD_and, BitVec.getLsbD_not, getLsbD_mask bits hj, getLsbD_key bits hj]
  cases required? bits j <;> simp

/-! ## Equal patterns -/

theorem ofBits_eq_iff : ofBits a = ofBits b ↔ ∀ j < 32, required? a j = required? b j := by
  constructor
  · intro h j hj
    have hmask := getLsbD_mask a hj
    have hkey := getLsbD_key a hj
    rw [h, getLsbD_mask b hj] at hmask
    rw [h, getLsbD_key b hj] at hkey
    rcases ha : required? a j with _ | _ | _ <;> rcases hb : required? b j with _ | _ | _ <;>
      simp_all
  · intro h
    have hkey : (ofBits a).key = (ofBits b).key := by
      apply BitVec.eq_of_getLsbD_eq
      intro j hj
      rw [getLsbD_key a hj, getLsbD_key b hj, h j hj]
    have hmask : (ofBits a).mask = (ofBits b).mask := by
      apply BitVec.eq_of_getLsbD_eq
      intro j hj
      rw [getLsbD_mask a hj, getLsbD_mask b hj, h j hj]
    exact (BitPattern.mk.injEq ..).mpr ⟨hkey, hmask⟩

theorem required?_none_cons (bits : List (Option Bool)) (j : Nat) :
    required? (none :: bits) j = required? bits j := by
  rw [required?, required?, List.reverse_cons, List.getElem?_append]
  split
  · rfl
  · next h =>
    rw [List.getElem?_eq_none (Nat.le_of_not_lt h), List.getElem?_singleton]
    split <;> rfl

/-- The bits from the first one that is required. -/
def tight (bits : List (Option Bool)) : List (Option Bool) := bits.dropWhile Option.isNone

theorem required?_tight (bits : List (Option Bool)) (j : Nat) :
    required? (tight bits) j = required? bits j := by
  induction bits with
  | nil => rfl
  | cons bit bits ih =>
    cases bit with
    | none => rw [required?_none_cons, ← ih]; rfl
    | some v => rfl

theorem head?_tight (bits : List (Option Bool)) : (tight bits).head? ≠ some none := by
  intro h
  have hnot := List.head?_dropWhile_not Option.isNone bits
  rw [← tight, h] at hnot
  cases hnot

theorem length_le_of_required?_eq (hb : b.head? ≠ some none)
    (h : ∀ j, required? a j = required? b j) : b.length ≤ a.length := by
  cases b with
  | nil => exact Nat.zero_le _
  | cons bit b =>
    have hfirst : required? (bit :: b) b.length = bit := by
      rw [required?, List.reverse_cons, List.getElem?_append_right (by simp)]
      simp
    have hne : bit ≠ none := fun heq => hb (congrArg some heq)
    refine Nat.lt_of_not_le fun hle => hne ?_
    rw [← hfirst, ← h, required?_of_length_le hle]

theorem eq_of_required?_eq (ha : a.head? ≠ some none) (hb : b.head? ≠ some none)
    (h : ∀ j, required? a j = required? b j) : a = b := by
  have hlen : a.length = b.length :=
    Nat.le_antisymm (length_le_of_required?_eq ha fun j => (h j).symm)
      (length_le_of_required?_eq hb h)
  refine List.reverse_inj.mp (List.ext_getElem (by simpa using hlen) fun j hja hjb => ?_)
  have hj := h j
  rw [required?, required?, List.getElem?_eq_getElem hja, List.getElem?_eq_getElem hjb] at hj
  exact hj

/-- Patterns are equal exactly if their bits are, apart from those at the front that
may be either. -/
theorem ofBits_eq_iff_tight (ha : a.length ≤ 32) (hb : b.length ≤ 32) :
    ofBits a = ofBits b ↔ tight a = tight b := by
  rw [ofBits_eq_iff]
  constructor
  · intro h
    refine eq_of_required?_eq (head?_tight a) (head?_tight b) fun j => ?_
    rw [required?_tight, required?_tight]
    by_cases hj : j < 32
    · exact h j hj
    · rw [required?_of_length_le (by omega), required?_of_length_le (by omega)]
  · intro h j _
    rw [← required?_tight a, ← required?_tight b, h]

/-! ## Marks -/

/-- The marks of a text: its characters that are no spacing. -/
def marks (t : Text) : Text := t.filter (· ∈ ['0', '1', '?'])

/-- The mark of a bit. -/
def mark : Option Bool → Char
  | some false => '0'
  | some true => '1'
  | none => '?'

theorem mark_injective : Function.Injective mark := by
  intro x y
  rcases x with _ | _ | _ <;> rcases y with _ | _ | _ <;> decide

theorem bit?_eq_some_iff {c : Char} {bit : Option Bool} : bit? c = some bit ↔ c = mark bit := by
  unfold bit?
  split
  case h_4 h0 h1 hq => rcases bit with _ | _ | _ <;> simp_all [mark]
  all_goals rcases bit with _ | _ | _ <;> simp [mark]

theorem bit?_eq_none_iff {c : Char} : bit? c = none ↔ c ∉ ['0', '1', '?'] := by
  unfold bit?
  split <;> simp_all

theorem marks_eq (t : Text) : marks t = (bitsOf t).map mark := by
  induction t with
  | nil => rfl
  | cons c t ih =>
    rw [marks, bitsOf, List.filter_cons, List.filterMap_cons, ← marks, ← bitsOf, ih]
    cases h : bit? c with
    | none => rw [if_neg (by simpa using bit?_eq_none_iff.mp h)]
    | some bit =>
      obtain rfl := bit?_eq_some_iff.mp h
      rw [if_pos (by rcases bit with _ | _ | _ <;> decide)]
      rfl

theorem length_marks (t : Text) : (marks t).length = (bitsOf t).length := by
  rw [marks_eq, List.length_map]

/-- What a mark from the end requires of the bit at its place. -/
theorem getElem?_marks {t : Text} {j : Nat} (hj : j < (marks t).length) (v : Bool) :
    ((marks t)[(marks t).length - 1 - j]? = some '?' ∨
        (marks t)[(marks t).length - 1 - j]? = some (mark (some v))) ↔
      ∀ u, required? (bitsOf t) j = some u → v = u := by
  rw [length_marks] at hj
  have hbit : j < (bitsOf t).reverse.length := by rwa [List.length_reverse]
  rw [length_marks, marks_eq, List.getElem?_map, ← List.getElem?_reverse hj, required?,
    List.getElem?_eq_getElem hbit]
  rcases (bitsOf t).reverse[j] with _ | _ | _ <;> cases v <;> simp [mark]

theorem dropWhile_marks (t : Text) :
    (marks t).dropWhile (· = '?') = (tight (bitsOf t)).map mark := by
  rw [marks_eq, List.dropWhile_map, tight]
  congr 2
  funext bit
  rcases bit with _ | _ | _ <;> rfl

/-! ## Byte by byte -/

/-- How far a reading has come: how many marks it has met, and the words of what they
require. -/
structure Progress where
  count : Nat
  key : BitVec 32
  mask : BitVec 32

/-- One more byte is read. The counter is a signed number of 32 bits. -/
def Progress.step (p : Progress) (byte : UInt8) : Except Fault Progress :=
  if byte ∈ ['0'.toUInt8, '1'.toUInt8, '?'.toUInt8] then
    if 2 ^ 31 ≤ p.count + 1 then .error .overflow
    else .ok ⟨p.count + 1,
      (p.key <<< 1) ||| (BitVec.ofBool (byte == '1'.toUInt8)).setWidth 32,
      (p.mask <<< 1) ||| (BitVec.ofBool (byte != '?'.toUInt8)).setWidth 32⟩
  else .ok p

/-- The pattern that some bytes write. -/
def readBytes (bytes : List UInt8) : Except Fault (Except Error BitPattern) := do
  let p ← bytes.foldlM Progress.step ⟨0, 0#32, 0#32⟩
  if 32 < p.count then return .error .tooLong
  if p.count % 8 ≠ 0 then return .error .ragged
  return .ok ⟨p.key, p.mask⟩

/-- The progress after some marks. -/
def Progress.after (bits : List (Option Bool)) : Progress :=
  ⟨bits.length, (ofBits bits).key, (ofBits bits).mask⟩

theorem Progress.step_of_not_mark {p : Progress} {byte : UInt8}
    (h : byte ∉ ['0'.toUInt8, '1'.toUInt8, '?'.toUInt8]) : p.step byte = .ok p := by
  rw [step, if_neg h]

theorem ofBits_concat (bits : List (Option Bool)) (bit : Option Bool) :
    ofBits (bits ++ [bit]) =
      ⟨((ofBits bits).key <<< 1) ||| (BitVec.ofBool (bit == some true)).setWidth 32,
        ((ofBits bits).mask <<< 1) ||| (BitVec.ofBool bit.isSome).setWidth 32⟩ := by
  rw [ofBits, List.map_append, List.map_append, List.map_singleton, List.map_singleton,
    wordOf_concat, wordOf_concat, ofBits]

theorem Progress.step_mark {bits : List (Option Bool)} (h : bits.length + 1 < 2 ^ 31)
    (bit : Option Bool) :
    (after bits).step (mark bit).toUInt8 = .ok (after (bits ++ [bit])) := by
  have hmark : (mark bit).toUInt8 ∈ ['0'.toUInt8, '1'.toUInt8, '?'.toUInt8] := by
    rcases bit with _ | _ | _ <;> decide
  have hcount : ¬ 2 ^ 31 ≤ (after bits).count + 1 := Nat.not_le_of_lt h
  rw [step, if_pos hmark, if_neg hcount, after, after, ofBits_concat, List.length_append]
  rcases bit with _ | _ | _ <;> rfl

theorem Progress.foldlM_char {bits : List (Option Bool)} (h : bits.length + 1 < 2 ^ 31) (c : Char) :
    (String.utf8EncodeChar c).foldlM step (after bits) =
      .ok (after (bits ++ (bit? c).toList)) := by
  cases hbit : bit? c with
  | some bit =>
    obtain rfl := bit?_eq_some_iff.mp hbit
    have hbytes : String.utf8EncodeChar (mark bit) = [(mark bit).toUInt8] := by
      rcases bit with _ | _ | _ <;> decide
    rw [hbytes, List.foldlM_cons, step_mark h]
    rfl
  | none =>
    -- A byte of another character is none of the three, which are characters by themselves.
    have hbytes : ∀ byte ∈ String.utf8EncodeChar c,
        byte ∉ ['0'.toUInt8, '1'.toUInt8, '?'.toUInt8] := by
      intro byte hbyte hmark
      have hmem : Char.ofNat byte.toNat ∈ ['0', '1', '?'] ∧ byte.toNat < 128 := by
        simp only [List.mem_cons, List.not_mem_nil, or_false] at hmark
        rcases hmark with rfl | rfl | rfl <;> decide
      rw [← Text.toNat_of_mem_utf8EncodeChar hbyte hmem.2, Char.ofNat_toNat] at hmem
      exact bit?_eq_none_iff.mp hbit hmem.1
    rw [Option.toList_none, List.append_nil]
    generalize String.utf8EncodeChar c = bytes at hbytes
    induction bytes with
    | nil => rfl
    | cons byte bytes ih =>
      obtain ⟨hbyte, hrest⟩ := List.forall_mem_cons.mp hbytes
      rw [List.foldlM_cons, step_of_not_mark hbyte]
      exact ih hrest

/-- The progress after a text is that after its marks. -/
theorem Progress.foldlM_utf8 {bits : List (Option Bool)} {t : Text}
    (h : bits.length + t.length < 2 ^ 31) :
    (Text.utf8 t).foldlM step (after bits) = .ok (after (bits ++ bitsOf t)) := by
  induction t generalizing bits with
  | nil => rw [bitsOf, List.filterMap_nil, List.append_nil]; rfl
  | cons c t ih =>
    rw [List.length_cons] at h
    have hchar := foldlM_char (show bits.length + 1 < 2 ^ 31 by omega) c
    have hlen : (bits ++ (bit? c).toList).length + t.length < 2 ^ 31 := by
      rw [List.length_append]
      cases bit? c <;> simp <;> omega
    have hbits : bitsOf (c :: t) = (bit? c).toList ++ bitsOf t := by
      rw [bitsOf, List.filterMap_cons, ← bitsOf]
      cases bit? c <;> rfl
    rw [Text.utf8, List.flatMap_cons, ← Text.utf8, List.foldlM_append, hchar, hbits,
      ← List.append_assoc]
    exact ih hlen

/-- A text is read byte by byte as it is read by its marks, as long as the counter has
room for it. -/
theorem readBytes_eq {t : Text} (h : (Text.utf8 t).length < 2 ^ 31) :
    readBytes (Text.utf8 t) = .ok (read t) := by
  have hlen : ([] : List (Option Bool)).length + t.length < 2 ^ 31 := by
    have hle := Text.length_le_length_utf8 t
    rw [List.length_nil]
    omega
  have hfold : (Text.utf8 t).foldlM Progress.step ⟨0, 0#32, 0#32⟩ =
      .ok (Progress.after (bitsOf t)) := Progress.foldlM_utf8 hlen
  rw [readBytes, hfold, read]
  show (if 32 < (bitsOf t).length then _ else if (bitsOf t).length % 8 ≠ 0 then _ else _) = _
  by_cases hlong : 32 < (bitsOf t).length
  · rw [if_pos hlong, if_pos hlong]
    rfl
  · by_cases hragged : (bitsOf t).length % 8 ≠ 0
    · rw [if_neg hlong, if_neg hlong, if_pos hragged, if_pos hragged]
      rfl
    · rw [if_neg hlong, if_neg hlong, if_neg hragged, if_neg hragged]
      rfl

/-! ## Reading a pattern -/

theorem read_eq_ok_iff {t : Text} {p : BitPattern} :
    read t = .ok p ↔ (marks t).length ≤ 32 ∧ 8 ∣ (marks t).length ∧ p = ofBits (bitsOf t) := by
  rw [length_marks, read, Nat.dvd_iff_mod_eq_zero]
  split
  · next h => simp [Nat.not_le_of_lt h]
  · next h =>
    split
    · next hragged => simp [hragged]
    · next hwhole => simp [Nat.le_of_not_lt h, not_not.mp hwhole, eq_comm]

theorem read_eq_tooLong_iff {t : Text} : read t = .error .tooLong ↔ 32 < (marks t).length := by
  rw [length_marks, read]
  split
  · next h => simp [h]
  · next h => split <;> simp [h]

theorem read_eq_ragged_iff {t : Text} :
    read t = .error .ragged ↔ (marks t).length ≤ 32 ∧ ¬ 8 ∣ (marks t).length := by
  rw [length_marks, read, Nat.dvd_iff_mod_eq_zero]
  split
  · next h => simp [Nat.not_le_of_lt h]
  · next h => split <;> simp_all

/-- A pattern means what its marks say, however it is spaced. It is refused if there
are more than 32 marks, or else if they are no whole bytes. The pattern read accepts
the words whose bits are those of the marks, counted from the end, where a question
mark stands for either; no bit of its key lies outside its mask. Two texts are read as
one pattern exactly if they have the same marks, question marks at the front aside. -/
theorem read_marks (t : Text) (hsize : (Text.utf8 t).length < 2 ^ 31) :
    readBytes (Text.utf8 t) = .ok (read t) ∧
    (read t = .error .tooLong ↔ 32 < (marks t).length) ∧
    (read t = .error .ragged ↔ (marks t).length ≤ 32 ∧ ¬ 8 ∣ (marks t).length) ∧
    ((marks t).length ≤ 32 → 8 ∣ (marks t).length → ∃ p, read t = .ok p ∧
      (∀ w, p.accepts w = true ↔ ∀ j < (marks t).length,
        (marks t)[(marks t).length - 1 - j]? = some '?' ∨
          (marks t)[(marks t).length - 1 - j]? = some (if w.getLsbD j then '1' else '0')) ∧
      p.key &&& ~~~p.mask = 0#32) ∧
    ∀ t' p p', read t = .ok p → read t' = .ok p' →
      (p = p' ↔ (marks t).dropWhile (· = '?') = (marks t').dropWhile (· = '?')) := by
  refine ⟨readBytes_eq hsize, read_eq_tooLong_iff, read_eq_ragged_iff, ?accepted, ?equal⟩
  case accepted =>
    intro hlen hwhole
    refine ⟨_, read_eq_ok_iff.mpr ⟨hlen, hwhole, rfl⟩, fun w => ?_, key_and_not_mask _⟩
    have hmark : ∀ v : Bool, (if v then '1' else '0') = mark (some v) := by decide
    rw [accepts_ofBits_iff]
    simp only [hmark]
    constructor
    · intro h j hj
      exact (getElem?_marks hj _).mpr (h j (by omega))
    · intro h j _ v hv
      -- What is required of a bit is required by a mark.
      have hj : j < (marks t).length := by
        refine Nat.lt_of_not_le fun hle => ?_
        rw [length_marks] at hle
        rw [required?_of_length_le hle] at hv
        cases hv
      exact (getElem?_marks hj _).mp (h j hj) v hv
  case equal =>
    intro t' p p' hp hp'
    obtain ⟨hlen, -, rfl⟩ := read_eq_ok_iff.mp hp
    obtain ⟨hlen', -, rfl⟩ := read_eq_ok_iff.mp hp'
    rw [length_marks] at hlen hlen'
    rw [ofBits_eq_iff_tight hlen hlen', dropWhile_marks, dropWhile_marks,
      List.map_inj_right fun _ _ h => mark_injective h]

/-- A pattern with spacing of one byte and of two, read byte by byte; a word that it
accepts; and the same pattern with a byte of question marks in front. -/
theorem read_marks_spaced :
    let t : Text := "1?0é1 0_1?1"
    ∃ p, readBytes (Text.utf8 t) = .ok (.ok p) ∧ p.accepts 0xffffff97#32 = true ∧
      p.key &&& ~~~p.mask = 0#32 ∧ read "???? ???? 1?01 01?1" = .ok p ∧
      read "1?0é1 0_1?" = .error .ragged := by
  intro t
  obtain ⟨hbytes, -, -, haccepted, hequal⟩ := read_marks t (by decide)
  obtain ⟨p, hread, haccepts, hkey⟩ := haccepted (by decide) (by decide)
  have hspaced : read "???? ???? 1?01 01?1" = .ok ⟨0x95#32, 0xbd#32⟩ := by decide
  have hp : p = ⟨0x95#32, 0xbd#32⟩ := (hequal _ _ _ hread hspaced).mpr (by decide)
  have hragged := (read_marks "1?0é1 0_1?" (by decide)).2.2.1.mpr (by decide)
  exact ⟨p, by rw [hbytes, hread], (haccepts _).mpr (by decide), hkey, by rw [hspaced, hp], hragged⟩

end BitPattern

end Zicsr
