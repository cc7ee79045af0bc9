import Mathlib.Algebra.Ring.Nat
import Mathlib.Data.Set.Function
import Zicsr.Proofs.Coded

/-
  Causes and traps.

  A trap that is read off a cause is canonical: a code with a name stands for its
  name, and any other code is kept without the top bit. A kind and a code have one
  canonical trap (`ofParts_eq_iff`), and a cause is the sum of the two
  (`toNat_eq_parts`, `Canonical.toNat_cause`). So every cause is written back as it
  was read, and of the traps just the canonical ones are read back as they were
  written.
-/

namespace Zicsr

theorem Interrupt.code_lt (i : Interrupt) : i.code < 16 := by
  cases i <;> decide

theorem Exception.code_lt (e : Exception) : e.code < 16 := by
  cases e <;> decide

namespace Xlen

theorem two_pow_bits (x : Xlen) : 2 ^ x.bits = 2 * 2 ^ (x.bits - 1) := by
  cases x <;> decide

theorem le_two_pow (x : Xlen) : 16 ≤ 2 ^ (x.bits - 1) := by
  cases x <;> decide

end Xlen

namespace Trap

variable {x : Xlen}

/-! ## Canonical traps -/

def Named : Trap x → Prop
  | interrupt _ => True
  | exception _ => True
  | unknown .. => False

/-- The codes that have names, of interrupts or of exceptions. -/
def namedCodes (top : Bool) : List Nat :=
  if top then Interrupt.all.map Interrupt.code else Exception.all.map Exception.code

/-- Whether the trap has a name, or its code has none of its kind and leaves the top
bit clear. -/
def Canonical : Trap x → Prop
  | interrupt _ => True
  | exception _ => True
  | unknown top code => code.msb = false ∧ code.toNat ∉ namedCodes top

instance : DecidablePred (Canonical (x := x))
  | interrupt _ => inferInstanceAs (Decidable True)
  | exception _ => inferInstanceAs (Decidable True)
  | unknown _ _ => inferInstanceAs (Decidable (_ ∧ _))

theorem Named.canonical {t : Trap x} (h : t.Named) : t.Canonical := by
  cases t with
  | interrupt i => trivial
  | exception e => trivial
  | unknown top code => exact h.elim

theorem toNat_code_interrupt (i : Interrupt) : (code (.interrupt i : Trap x)).toNat = i.code := by
  have hlt := i.code_lt
  have hle := x.le_two_pow
  rw [code, BitVec.toNat_ofNat, x.two_pow_bits, Nat.mod_eq_of_lt (by omega)]

theorem toNat_code_exception (e : Exception) : (code (.exception e : Trap x)).toNat = e.code := by
  have hlt := e.code_lt
  have hle := x.le_two_pow
  rw [code, BitVec.toNat_ofNat, x.two_pow_bits, Nat.mod_eq_of_lt (by omega)]

theorem Canonical.code_lt {t : Trap x} (h : t.Canonical) : t.code.toNat < 2 ^ (x.bits - 1) := by
  have hle := x.le_two_pow
  cases t with
  | interrupt i =>
    rw [toNat_code_interrupt]
    exact Nat.lt_of_lt_of_le i.code_lt hle
  | exception e =>
    rw [toNat_code_exception]
    exact Nat.lt_of_lt_of_le e.code_lt hle
  | unknown top code =>
    have hmsb := h.1
    rw [BitVec.msb_eq_decide, decide_eq_false_iff_not] at hmsb
    exact Nat.lt_of_not_le hmsb

theorem named?_eq_some_iff {top : Bool} {n : Nat} {t : Trap x} :
    named? top n = some t ↔ t.Named ∧ t.isInterrupt = top ∧ t.code.toNat = n := by
  cases t with
  | interrupt i =>
    rw [toNat_code_interrupt]
    cases top <;>
      simp [named?, Named, isInterrupt, Interrupt.ofCode?, Interrupt.coded.find?_eq_some_iff]
  | exception e =>
    rw [toNat_code_exception]
    cases top <;>
      simp [named?, Named, isInterrupt, Exception.ofCode?, Exception.coded.find?_eq_some_iff]
  | unknown top' code =>
    cases top <;> simp [named?, Named]

theorem named?_eq_none_iff {top : Bool} {n : Nat} :
    (named? top n : Option (Trap x)) = none ↔ n ∉ namedCodes top := by
  cases top with
  | true => simp [named?, namedCodes, Interrupt.ofCode?]
  | false => simp [named?, namedCodes, Exception.ofCode?]

theorem lt_of_mem_namedCodes {top : Bool} {n : Nat} (h : n ∈ namedCodes top) : n < 16 := by
  cases top with
  | true =>
    obtain ⟨i, -, rfl⟩ := List.mem_map.mp h
    exact i.code_lt
  | false =>
    obtain ⟨e, -, rfl⟩ := List.mem_map.mp h
    exact e.code_lt

/-! ## The trap of a kind and a code -/

/-- The trap of a code, by its name if it has one of the kind. -/
def ofParts (top : Bool) (code : x.Word) : Trap x :=
  (named? top code.toNat).getD (.unknown top code)

theorem ofParts_eq_iff {top : Bool} {n : x.Word} (h : n.msb = false) {t : Trap x} :
    ofParts top n = t ↔ t.Canonical ∧ t.isInterrupt = top ∧ t.code = n := by
  rw [ofParts]
  constructor
  · rintro rfl
    cases hname : (named? top n.toNat : Option (Trap x)) with
    | none => exact ⟨⟨h, named?_eq_none_iff.mp hname⟩, rfl, rfl⟩
    | some t =>
      obtain ⟨hnamed, htop, hcode⟩ := named?_eq_some_iff.mp hname
      exact ⟨hnamed.canonical, htop, BitVec.eq_of_toNat_eq hcode⟩
  · rintro ⟨hcanonical, rfl, rfl⟩
    cases t with
    | interrupt i =>
      rw [(named?_eq_some_iff (t := .interrupt i)).mpr ⟨trivial, rfl, rfl⟩, Option.getD_some]
    | exception e =>
      rw [(named?_eq_some_iff (t := .exception e)).mpr ⟨trivial, rfl, rfl⟩, Option.getD_some]
    | unknown top code =>
      have hname : (named? top code.toNat : Option (Trap x)) = none :=
        named?_eq_none_iff.mpr hcanonical.2
      show (named? top code.toNat).getD (.unknown top code) = _
      rw [hname, Option.getD_none]

/-! ## Causes as sums -/

/-- What a cause holds below its top bit. -/
def codePart (c : x.Word) : x.Word := c &&& ~~~interruptBit x

theorem ofCause_eq_ofParts (c : x.Word) : ofCause c = ofParts c.msb (codePart c) := rfl

/-- The byte that a word is, if it is one. -/
def byte? (n : x.Word) : Option (BitVec 8) :=
  if n.toNat < 2 ^ 8 then some (n.setWidth 8) else none

/-- `ofCause`, where the code is made a byte before it is looked up. -/
def ofCauseByte (c : x.Word) : Trap x :=
  ((byte? (codePart c)).bind fun code => named? c.msb code.toNat).getD (.unknown c.msb (codePart c))

/-- Only codes without a name are too large for a byte. -/
theorem ofCauseByte_eq (c : x.Word) : ofCauseByte c = ofCause c := by
  rw [ofCause_eq_ofParts, ofParts, ofCauseByte, byte?]
  by_cases hbyte : (codePart c).toNat < 2 ^ 8
  · rw [if_pos hbyte, Option.bind_some, BitVec.toNat_setWidth, Nat.mod_eq_of_lt hbyte]
  · have hname : (named? c.msb (codePart c).toNat : Option (Trap x)) = none := by
      refine named?_eq_none_iff.mpr fun hmem => ?_
      have hlt := lt_of_mem_namedCodes hmem
      omega
    rw [if_neg hbyte, hname, Option.bind_none]

theorem toNat_codePart (c : x.Word) : (codePart c).toNat = c.toNat % 2 ^ (x.bits - 1) := by
  apply Nat.eq_of_testBit_eq
  intro i
  rw [Nat.testBit_mod_two_pow]
  show (codePart c).getLsbD i = (decide (i < x.bits - 1) && c.getLsbD i)
  simp only [codePart, interruptBit, BitVec.getLsbD_and, BitVec.getLsbD_not, BitVec.getLsbD_twoPow]
  by_cases hi : i < x.bits
  · by_cases htop : i = x.bits - 1
    · simp [htop]
    · simp [hi, Ne.symm htop, show i < x.bits - 1 by omega]
  · simp [BitVec.getLsbD_of_ge c i (by omega)]

theorem msb_codePart (c : x.Word) : (codePart c).msb = false := by
  have hpos := Nat.two_pow_pos (x.bits - 1)
  rw [BitVec.msb_eq_decide, decide_eq_false_iff_not, toNat_codePart]
  exact Nat.not_le_of_lt (Nat.mod_lt _ hpos)

theorem toNat_eq_parts (c : x.Word) :
    c.toNat = 2 ^ (x.bits - 1) * c.msb.toNat + (codePart c).toNat := by
  have hlt := c.isLt
  rw [x.two_pow_bits] at hlt
  rw [toNat_codePart, BitVec.msb_eq_decide]
  by_cases hle : 2 ^ (x.bits - 1) ≤ c.toNat
  · rw [decide_eq_true hle, Nat.mod_eq_sub_mod hle, Nat.mod_eq_of_lt (by omega), Bool.toNat_true]
    omega
  · rw [decide_eq_false hle, Nat.mod_eq_of_lt (by omega), Bool.toNat_false]
    omega

theorem parts_unique {c : x.Word} {top : Bool} {n : Nat} (hn : n < 2 ^ (x.bits - 1))
    (h : c.toNat = 2 ^ (x.bits - 1) * top.toNat + n) : c.msb = top ∧ (codePart c).toNat = n := by
  rw [toNat_codePart, h, Nat.mul_add_mod, Nat.mod_eq_of_lt hn, BitVec.msb_eq_decide, h]
  refine ⟨?_, rfl⟩
  cases top with
  | false => exact decide_eq_false (by simpa using hn)
  | true => exact decide_eq_true (by simp)

/-- A canonical trap is written as its kind and its code. -/
theorem Canonical.toNat_cause {t : Trap x} (h : t.Canonical) :
    t.cause.toNat = 2 ^ (x.bits - 1) * t.isInterrupt.toNat + t.code.toNat := by
  have hlt := h.code_lt
  unfold cause
  cases t.isInterrupt with
  | false => simp
  | true =>
    have hbit : (interruptBit x).toNat = 2 ^ (x.bits - 1) := by
      cases x <;> decide
    rw [if_pos rfl, BitVec.toNat_or, hbit, Nat.or_comm, Bool.toNat_true]
    have hor := Nat.two_pow_add_eq_or_of_lt hlt 1
    rw [Nat.mul_one] at hor
    rw [Nat.mul_one, hor]

/-- The trap of a cause is the canonical one that has its top bit and its code. -/
theorem ofCause_eq_iff {c : x.Word} {t : Trap x} :
    ofCause c = t ↔ t.Canonical ∧ t.cause = c := by
  rw [ofCause_eq_ofParts, ofParts_eq_iff (msb_codePart c)]
  refine and_congr_right fun hcanonical => ?_
  have hlt := hcanonical.code_lt
  have hc := toNat_eq_parts c
  have ht := hcanonical.toNat_cause
  constructor
  · rintro ⟨htop, hcode⟩
    apply BitVec.eq_of_toNat_eq
    rw [ht, hc, htop, hcode]
  · rintro rfl
    obtain ⟨htop, hcode⟩ := parts_unique hlt ht
    exact ⟨htop.symm, BitVec.eq_of_toNat_eq hcode.symm⟩

/-- Causes and canonical traps are one to one. A cause is read as its top bit and the
rest of it, whether or not that is made a byte first, and is written back from them; a
trap is read back as it was written exactly if it is canonical, and nothing else is
ever read. -/
theorem ofCause_bijection :
    (∀ c : x.Word, ofCauseByte c = ofCause c ∧ (ofCause c).cause = c ∧
      (ofCause c).isInterrupt = c.msb ∧
      (ofCause c).code.toNat = c.toNat % 2 ^ (x.bits - 1)) ∧
    (∀ t : Trap x, ofCause t.cause = t ↔ t.Canonical) ∧
    Set.BijOn ofCause Set.univ {t : Trap x | t.Canonical} := by
  have hread (c : x.Word) : (ofCause c).Canonical ∧ (ofCause c).cause = c := ofCause_eq_iff.mp rfl
  have hwrite (t : Trap x) : ofCause t.cause = t ↔ t.Canonical := by
    rw [ofCause_eq_iff, and_iff_left rfl]
  refine ⟨fun c => ?parts, hwrite, ?mapsTo, ?injOn, ?surjOn⟩
  case parts =>
    obtain ⟨-, htop, hcode⟩ := (ofParts_eq_iff (msb_codePart c)).mp (ofCause_eq_ofParts c).symm
    exact ⟨ofCauseByte_eq c, (hread c).2, htop, by rw [hcode, toNat_codePart]⟩
  case mapsTo => exact fun c _ => (hread c).1
  case injOn =>
    intro c _ d _ heq
    rw [← (hread c).2, ← (hread d).2, heq]
  case surjOn => exact fun t ht => ⟨t.cause, trivial, (hwrite t).mpr ht⟩

/-- Traps made by hand need not be canonical: a code with a name, and one that the
top bit reaches into. -/
example :
    ofCause (cause (.unknown true 7 : Trap .rv64)) = .interrupt .machineTimer ∧
      ofCause (cause (.unknown false 0x8000_0100 : Trap .rv32)) = .unknown true 0x100 := by
  decide

end Trap

end Zicsr
