import Mathlib.Algebra.Ring.Nat
import Zicsr.Instruction.Word
import Zicsr.Proofs.Bits

/-
  The fields of an instruction word.

  All fields are read as numbers: extracting a field is a division and a
  remainder (`Bits.toNat_extract`), and packing is a sum (`toNat_pack`). Where
  the operands fit, no sum carries, so every operand is read back from its own
  field (`fields_pack`) and a word of the SYSTEM opcode is the sum of its fields
  (`pack_fields`).
-/

namespace Zicsr

namespace Word

variable (w : BitVec 32)

/-! ## The fields as numbers -/

theorem opcode_eq_iff : opcode w = systemOpcode ↔ w.toNat % 2 ^ 7 = 0x73 := by
  rw [← BitVec.toNat_inj, opcode, Bits.toNat_extract w 0 (by decide), Nat.pow_zero, Nat.div_one]
  rfl

theorem rd_eq : rd w = w.toNat / 2 ^ 7 % 2 ^ 5 := Bits.toNat_extract w 7 (by decide)

theorem funct3_eq : funct3 w = w.toNat / 2 ^ 12 % 2 ^ 3 := Bits.toNat_extract w 12 (by decide)

theorem source_eq : source w = w.toNat / 2 ^ 15 % 2 ^ 5 := Bits.toNat_extract w 15 (by decide)

theorem csr_eq : csr w = w.toNat / 2 ^ 20 % 2 ^ 12 := Bits.toNat_extract w 20 (by decide)

/-! ## Packing -/

/-- The sum wraps once, at the end. -/
theorem toNat_pack (f r s c : BitVec 32) :
    (pack f r s c).toNat =
      (0x73 + 2 ^ 12 * f.toNat + 2 ^ 7 * r.toNat + 2 ^ 15 * s.toNat + 2 ^ 20 * c.toNat) % 2 ^ 32 := by
  simp only [pack, systemOpcode, BitVec.toNat_add, BitVec.toNat_shiftLeft, BitVec.toNat_ofNat,
    Nat.shiftLeft_eq]
  omega

section InRange

variable {f r s c : Nat} (hf : f < 8) (hr : r < 32) (hs : s < 32) (hc : c < 4096)

include hf hr hs hc

theorem toNat_pack_of_lt :
    (pack (.ofNat 32 f) (.ofNat 32 r) (.ofNat 32 s) (.ofNat 32 c)).toNat =
      0x73 + 2 ^ 12 * f + 2 ^ 7 * r + 2 ^ 15 * s + 2 ^ 20 * c := by
  rw [toNat_pack]
  simp only [BitVec.toNat_ofNat]
  omega

/-- Operands that fit are read back, each from its own field. -/
theorem fields_pack :
    let w := pack (.ofNat 32 f) (.ofNat 32 r) (.ofNat 32 s) (.ofNat 32 c)
    opcode w = systemOpcode ∧ funct3 w = f ∧ rd w = r ∧ source w = s ∧ csr w = c := by
  intro w
  have hw : w.toNat = 0x73 + 2 ^ 12 * f + 2 ^ 7 * r + 2 ^ 15 * s + 2 ^ 20 * c :=
    toNat_pack_of_lt hf hr hs hc
  rw [opcode_eq_iff, funct3_eq, rd_eq, source_eq, csr_eq, hw]
  refine ⟨?_, ?_, ?_, ?_, ?_⟩ <;> omega

end InRange

theorem fields_lt : funct3 w < 8 ∧ rd w < 32 ∧ source w < 32 ∧ csr w < 4096 := by
  rw [funct3_eq, rd_eq, source_eq, csr_eq]
  refine ⟨?_, ?_, ?_, ?_⟩ <;> exact Nat.mod_lt _ (by decide)

/-- A word of the SYSTEM opcode is packed from its fields. -/
theorem pack_fields (h : opcode w = systemOpcode) :
    pack (.ofNat 32 (funct3 w)) (.ofNat 32 (rd w)) (.ofNat 32 (source w)) (.ofNat 32 (csr w)) = w := by
  obtain ⟨hf, hr, hs, hc⟩ := fields_lt w
  have hlt := w.isLt
  rw [opcode_eq_iff] at h
  apply BitVec.eq_of_toNat_eq
  -- The fields lie side by side, so the word is the sum of them.
  rw [toNat_pack_of_lt hf hr hs hc, funct3_eq, rd_eq, source_eq, csr_eq]
  omega

end Word

end Zicsr
