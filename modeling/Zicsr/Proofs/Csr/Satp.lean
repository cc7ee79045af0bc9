import Zicsr.Proofs.Bits
import Zicsr.Proofs.Coded

/-
  Packing and unpacking the register of the page tables.

  At each width the three fields lie side by side and fill the word
  (`SatpLayout.of_adjacent`), so each is read back as it was packed, and a word is
  known by its fields (`eq_of_fields_eq`). A mode is read exactly if it exists at the
  width and its code is in the field (`mode?_eq_some_iff`). A mode that does not exist
  is refused when it is packed, and nothing else is.
-/

namespace Zicsr

/-- The modes that exist at a width. -/
def SatpMode.ofXlen : Xlen → List SatpMode
  | .rv32 => [.bare, .sv32]
  | .rv64 => [.bare, .sv39, .sv48, .sv57]

theorem SatpMode.mem_ofXlen_iff {x : Xlen} {mode : SatpMode} :
    mode ∈ ofXlen x ↔ mode.code < 2 ^ (SatpLayout.of x).modeLength ∧
      (mode = .sv32 → (SatpLayout.of x).modeLength ≠ 4) := by
  cases x <;> cases mode <;> decide

theorem SatpMode.code_lt (x : Xlen) (mode : SatpMode) : mode.code < 2 ^ x.bits := by
  cases x <;> cases mode <;> decide

/-- Each field begins where the one below it ends, and the last one ends the word. -/
theorem SatpLayout.of_adjacent (x : Xlen) :
    (of x).asidLow = (of x).ppnLength ∧ (of x).modeLow = (of x).asidLow + (of x).asidLength ∧
      x.bits = (of x).modeLow + (of x).modeLength := by
  cases x <;> decide

namespace Satp

variable {x : Xlen}

/-! ## Packing with every guard in place -/

/-- `mode?`, where the position of the field must lie in the word. -/
def modeGuarded? (s : Satp x) : Except Bits.ShiftFault (Option SatpMode) := do
  let layout := SatpLayout.of x
  let code ← Bits.getFieldChecked s.value layout.modeLow layout.modeLength
  return (SatpMode.ofCode? code.toNat).filter
    (fun mode => !(mode == .sv32 && layout.modeLength == 4))

/-- `packChecked`, where every position must lie in the word. -/
def packGuarded (mode : SatpMode) (asid ppn : x.Word) :
    Except Bits.ShiftFault (Except ModeFault (Satp x)) := do
  let layout := SatpLayout.of x
  let bits ← Bits.setFieldChecked (0 : x.Word) 0 layout.ppnLength ppn
  let bits ← Bits.setFieldChecked bits layout.asidLow layout.asidLength asid
  let bits ← Bits.setFieldChecked bits layout.modeLow layout.modeLength (.ofNat x.bits mode.code)
  let s : Satp x := ⟨bits⟩
  if (← s.modeGuarded?) = some mode then return .ok s else return .error ⟨mode⟩

theorem modeGuarded?_eq (s : Satp x) : s.modeGuarded? = .ok s.mode? := by
  have hlow : (SatpLayout.of x).modeLow < x.bits := by cases x <;> decide
  rw [modeGuarded?, Bits.getFieldChecked, if_pos hlow]
  rfl

/-- No position is outside the word, so what stops packing is the mode. -/
theorem packGuarded_eq (mode : SatpMode) (asid ppn : x.Word) :
    packGuarded mode asid ppn = .ok (packChecked mode asid ppn) := by
  have hppn : 0 < x.bits := by cases x <;> decide
  have hasid : (SatpLayout.of x).asidLow < x.bits := by cases x <;> decide
  have hmode : (SatpLayout.of x).modeLow < x.bits := by cases x <;> decide
  simp only [packGuarded, Bits.setFieldChecked, if_pos hppn, if_pos hasid, if_pos hmode]
  show (modeGuarded? (pack mode asid ppn) >>= _) = _
  rw [modeGuarded?_eq, packChecked]
  show (if (pack mode asid ppn).mode? = some mode then _ else _) = _
  split <;> rfl

/-! ## Fields -/

def asidBits : Xlen → Nat
  | .rv32 => 9
  | .rv64 => 16

def ppnBits : Xlen → Nat
  | .rv32 => 22
  | .rv64 => 44

theorem asidLength_eq (x : Xlen) : (SatpLayout.of x).asidLength = asidBits x := by
  cases x <;> rfl

theorem ppnLength_eq (x : Xlen) : (SatpLayout.of x).ppnLength = ppnBits x := by
  cases x <;> rfl

def modeCode (s : Satp x) : Nat :=
  (Bits.getField s.value (SatpLayout.of x).modeLow (SatpLayout.of x).modeLength).toNat

theorem asid_lt (s : Satp x) : s.asid.toNat < 2 ^ asidBits x := by
  rw [← asidLength_eq]
  exact Bits.getField_lt ..

theorem ppn_lt (s : Satp x) : s.ppn.toNat < 2 ^ ppnBits x := by
  rw [← ppnLength_eq]
  exact Bits.getField_lt ..

theorem modeCode_lt (s : Satp x) : s.modeCode < 2 ^ (SatpLayout.of x).modeLength :=
  Bits.getField_lt ..

theorem eq_of_fields_eq {s t : Satp x} (hppn : s.ppn = t.ppn) (hasid : s.asid = t.asid)
    (hmode : s.modeCode = t.modeCode) : s = t := by
  obtain ⟨hfirst, hsecond, hthird⟩ := SatpLayout.of_adjacent x
  suffices hvalue : s.value = t.value by
    cases s
    cases t
    exact congrArg _ hvalue
  apply BitVec.eq_of_getLsbD_eq
  intro i hi
  -- Each position lies in one of the three fields.
  by_cases hlow : i < (SatpLayout.of x).asidLow
  · exact Bits.getLsbD_eq_of_getField_eq hppn (Nat.zero_le i) (by omega)
  · by_cases hhigh : i < (SatpLayout.of x).modeLow
    · exact Bits.getLsbD_eq_of_getField_eq hasid (by omega) (by omega)
    · exact Bits.getLsbD_eq_of_getField_eq (BitVec.eq_of_toNat_eq hmode) (by omega) (by omega)

section Pack

variable (mode : SatpMode) (asid ppn : x.Word)

theorem modeCode_pack :
    (pack mode asid ppn).modeCode = mode.code % 2 ^ (SatpLayout.of x).modeLength := by
  obtain ⟨-, -, hthird⟩ := SatpLayout.of_adjacent x
  rw [modeCode, pack, Bits.toNat_getField_setField _ _ (by omega), BitVec.toNat_ofNat,
    Nat.mod_eq_of_lt (mode.code_lt x)]

theorem toNat_asid_pack :
    (pack mode asid ppn).asid.toNat = asid.toNat % 2 ^ asidBits x := by
  obtain ⟨-, hsecond, hthird⟩ := SatpLayout.of_adjacent x
  rw [← asidLength_eq, Satp.asid, pack, Bits.getField_setField_of_apart _ _ (by omega),
    Bits.toNat_getField_setField _ _ (by omega)]

theorem toNat_ppn_pack :
    (pack mode asid ppn).ppn.toNat = ppn.toNat % 2 ^ ppnBits x := by
  obtain ⟨hfirst, hsecond, hthird⟩ := SatpLayout.of_adjacent x
  rw [← ppnLength_eq, Satp.ppn, pack, Bits.getField_setField_of_apart _ _ (by omega),
    Bits.getField_setField_of_apart _ _ (by omega), Bits.toNat_getField_setField _ _ (by omega)]

end Pack

/-! ## Modes -/

theorem mode?_eq_some_iff {s : Satp x} {mode : SatpMode} :
    s.mode? = some mode ↔ mode ∈ SatpMode.ofXlen x ∧ mode.code = s.modeCode := by
  have hlt := s.modeCode_lt
  show (SatpMode.ofCode? s.modeCode).filter _ = some mode ↔ _
  rw [Option.filter_eq_some_iff, SatpMode.ofCode?, SatpMode.coded.find?_eq_some_iff,
    SatpMode.mem_ofXlen_iff, and_comm]
  refine and_congr_left fun hcode => ?_
  simp only [hcode, hlt, true_and, Bool.not_eq_true', Bool.and_eq_false_imp, beq_iff_eq,
    beq_eq_false_iff_ne]

/-- A mode is read back exactly if it exists. -/
theorem mode?_pack {mode : SatpMode} {asid ppn : x.Word} :
    (pack mode asid ppn).mode? = some mode ↔ mode ∈ SatpMode.ofXlen x := by
  rw [mode?_eq_some_iff, modeCode_pack, and_iff_left_iff_imp]
  intro hmode
  exact (Nat.mod_eq_of_lt (SatpMode.mem_ofXlen_iff.mp hmode).1).symm

theorem packChecked_eq (mode : SatpMode) (asid ppn : x.Word) :
    packChecked mode asid ppn =
      if mode ∈ SatpMode.ofXlen x then .ok (pack mode asid ppn) else .error ⟨mode⟩ := by
  simp only [packChecked, mode?_pack]

/-- A word is packed again from its fields. -/
theorem pack_fields {s : Satp x} {mode : SatpMode} (h : s.mode? = some mode) :
    pack mode s.asid s.ppn = s := by
  apply eq_of_fields_eq
  · apply BitVec.eq_of_toNat_eq
    rw [toNat_ppn_pack, Nat.mod_eq_of_lt s.ppn_lt]
  · apply BitVec.eq_of_toNat_eq
    rw [toNat_asid_pack, Nat.mod_eq_of_lt s.asid_lt]
  · rw [modeCode_pack, (mode?_eq_some_iff.mp h).2, Nat.mod_eq_of_lt s.modeCode_lt]

theorem mode?_eq_none_iff {s : Satp x} :
    s.mode? = none ↔ s.modeCode ∉ (SatpMode.ofXlen x).map SatpMode.code := by
  simp only [Option.eq_none_iff_forall_ne_some, ne_eq, mode?_eq_some_iff, List.mem_map, not_exists]

/-- One mode bit has no reserved code, four have those that are not a mode's. -/
theorem mode?_eq_none_iff_bits {s : Satp x} :
    s.mode? = none ↔ x = .rv64 ∧ (s.value.extractLsb 63 60).toNat ∉ [0, 8, 9, 10] := by
  have hlt := s.modeCode_lt
  rw [mode?_eq_none_iff]
  cases x with
  | rv32 =>
    have hcode : s.modeCode < 2 := hlt
    have hmem : s.modeCode ∈ (SatpMode.ofXlen .rv32).map SatpMode.code := by
      show s.modeCode ∈ [0, 1]
      simp only [List.mem_cons, List.not_mem_nil, or_false]
      omega
    simp [hmem]
  | rv64 =>
    have hbits : (s.value.extractLsb 63 60).toNat = s.modeCode := by
      rw [BitVec.extractLsb_toNat, Nat.shiftRight_eq_div_pow]
      exact (Bits.toNat_getField s.value 60 4).symm
    rw [hbits, and_iff_right rfl]
    rfl

/-- Packing and unpacking are inverse. A mode that exists at the width is packed with
both numbers, each without what does not fit its field, and all three are read back;
of a mode that does not exist nothing is packed, whatever the numbers are, and no
guard stops anything else. A word whose mode is not reserved is packed again from its
fields, and only four codes of four bits are not reserved. -/
theorem pack_unpack :
    (∀ (mode : SatpMode) (asid ppn : x.Word),
      if mode ∈ SatpMode.ofXlen x then
        let s := pack mode asid ppn
        packGuarded mode asid ppn = .ok (.ok s) ∧ s.mode? = some mode ∧
          s.asid.toNat = asid.toNat % 2 ^ asidBits x ∧ s.ppn.toNat = ppn.toNat % 2 ^ ppnBits x
      else packGuarded mode asid ppn = .ok (.error ⟨mode⟩)) ∧
    (∀ (s : Satp x) (mode : SatpMode),
      packGuarded mode s.asid s.ppn = .ok (.ok s) ↔ s.mode? = some mode) ∧
    (∀ s : Satp x,
      s.mode? = none ↔ x = .rv64 ∧ (s.value.extractLsb 63 60).toNat ∉ [0, 8, 9, 10]) := by
  simp only [packGuarded_eq, packChecked_eq]
  refine ⟨?pack, ?unpack, fun s => mode?_eq_none_iff_bits⟩
  case pack =>
    intro mode asid ppn
    split
    · next hmode =>
      exact ⟨rfl, mode?_pack.mpr hmode, toNat_asid_pack _ _ _, toNat_ppn_pack _ _ _⟩
    · rfl
  case unpack =>
    intro s mode
    constructor
    · intro h
      split at h
      · next hmode =>
        have hs : pack mode s.asid s.ppn = s := Except.ok.inj (Except.ok.inj h)
        rw [← hs]
        exact mode?_pack.mpr hmode
      · cases Except.ok.inj h
    · intro h
      rw [if_pos (mode?_eq_some_iff.mp h).1, pack_fields h]

/-- What does not fit a field is lost, and does not reach the next one. -/
example :
    (pack .sv39 0x1_0001 0x1000_0000_0005 : Satp .rv64) = ⟨0x8000_1000_0000_0005⟩ ∧
      (pack .sv32 0x201 0x40_0005 : Satp .rv32) = ⟨0x8040_0005⟩ := by
  decide

end Satp

end Zicsr
