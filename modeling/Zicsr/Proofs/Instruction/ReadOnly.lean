import Zicsr.Proofs.Instruction.Codec

/-
  Writes of read-only registers.

  An instruction whose operands go with its operation and fit their fields has a
  word, and is encoded as it unless it writes a read-only register; then it is
  refused for that alone (`encode_eq_of_decode?`). So no word that is encoded is
  one of such a write, which shows in its bits: the address of a read-only
  register stands there only beside a function code that sets or clears, with a
  source that is zero (`readOnly_bits_of_encode`).
-/

namespace Zicsr

namespace Instruction

/-! ## What an instruction that fits is refused for -/

/-- Whether the operation takes the operands and they fit their fields. -/
inductive Fits : Instruction → Prop
  | system (s : SystemOp) : Fits (bare (.system s))
  | csr (op : CsrOp) {o : Operands} (fit : o.Fit) : Fits ⟨.csr op, some o⟩

/-- The address of the read-only register that an instruction writes, if it
writes one. The bits 11 and 10 of such an address are set, and an operation
writes unless it sets or clears with source zero. -/
def readOnlyTarget? (i : Instruction) : Option Nat :=
  match i.op, i.operands with
  | .csr op, some o =>
    if (o.csr.testBit 11 ∧ o.csr.testBit 10) ∧ (op.action = .write ∨ o.source ≠ 0) then some o.csr
    else none
  | _, _ => none

variable {i : Instruction}

theorem readOnlyTarget?_csr (op : CsrOp) (o : Operands) :
    readOnlyTarget? ⟨.csr op, some o⟩ =
      if isReadOnly o.csr && op.writes o.source then some o.csr else none := by
  have hcond : (isReadOnly o.csr && op.writes o.source) = true ↔
      (o.csr.testBit 11 ∧ o.csr.testBit 10) ∧ (op.action = .write ∨ o.source ≠ 0) := by
    rw [Bool.and_eq_true, isReadOnly_iff, CsrOp.writes, Bool.or_eq_true, decide_eq_true_iff,
      bne_iff_ne]
  simp only [readOnlyTarget?, hcond]

/-- What is decoded from a word is encoded as it again, unless it writes a
read-only register. -/
theorem encode_eq_of_decode? {w : BitVec 32} (h : decode? w = some i) :
    i.encode = match i.readOnlyTarget? with
      | some a => .error (.readOnlyWrite a)
      | none => .ok w := by
  rcases (decode?_eq_some_iff w i).mp h with ⟨s, rfl, rfl⟩ | ⟨c, hop, hf, rfl⟩
  · rfl
  · refine (encode_of_decode? hop hf).trans ?_
    rw [readOnlyTarget?_csr]
    cases isReadOnly (Word.csr w) && c.writes (Word.source w) <;> rfl

theorem Fits.exists_decode? (h : i.Fits) : ∃ w, decode? w = some i := by
  cases h with
  | system s => exact ⟨s.word, (decode?_eq_some_iff _ _).mpr (.inl ⟨s, rfl, rfl⟩)⟩
  | csr op fit => exact ⟨op.pack _, decode?_pack op fit⟩

theorem Fits.exists_encode (h : i.Fits) (ht : i.readOnlyTarget? = none) :
    ∃ w, i.encode = .ok w := by
  obtain ⟨w, hw⟩ := h.exists_decode?
  exact ⟨w, by rw [encode_eq_of_decode? hw, ht]⟩

theorem Fits.encode_error {a : Nat} (h : i.Fits) (ht : i.readOnlyTarget? = some a) :
    i.encode = .error (.readOnlyWrite a) := by
  obtain ⟨w, hw⟩ := h.exists_decode?
  rw [encode_eq_of_decode? hw, ht]

end Instruction

/-! ## The bits of what is encoded -/

theorem CsrOp.of_writes_eq_false {op : CsrOp} {source : Nat}
    (h : op.writes source = false) : op.funct3 ∈ [2, 3, 6, 7] ∧ source = 0 := by
  obtain ⟨action, immediate⟩ := op
  simp only [CsrOp.writes, Bool.or_eq_false_iff, decide_eq_false_iff_not, bne_eq_false_iff_eq] at h
  obtain ⟨haction, hsource⟩ := h
  refine ⟨?_, hsource⟩
  cases action with
  | write => exact absurd rfl haction
  | set => cases immediate <;> decide
  | clear => cases immediate <;> decide

namespace Instruction

/-- Every encoded word has the SYSTEM opcode; one that names a read-only register
sets or clears none of its bits. -/
theorem readOnly_bits_of_encode {i : Instruction} {w : BitVec 32} (h : i.encode = .ok w) :
    (w.extractLsb 6 0).toNat = 0x73 ∧
    ((w.extractLsb 31 30).toNat = 3 →
      (w.extractLsb 14 12).toNat ∈ [2, 3, 6, 7] ∧ (w.extractLsb 19 15).toNat = 0) := by
  simp only [toNat_extractLsb]
  rcases i with ⟨op | s, _ | o⟩
  case csr.none => cases h
  case csr.some =>
    obtain ⟨⟨hr, hs, hc⟩, rfl⟩ := CsrOp.fit_of_encode h
    have hf := op.funct3_lt
    have hw : (op.pack o).toNat =
        0x73 + 2 ^ 12 * op.funct3 + 2 ^ 7 * o.rd + 2 ^ 15 * o.source + 2 ^ 20 * o.csr :=
      Word.toNat_pack_of_lt hf hr hs hc
    rw [hw]
    refine ⟨by omega, fun htop => ?_⟩
    -- The two bits at the top of the word are those at the top of the address.
    have hro : isReadOnly o.csr = true := by
      simp only [isReadOnly, decide_eq_true_eq]
      omega
    have hwrites : op.writes o.source = false := by
      have henc : op.encode o = .ok (op.pack o) := h
      rw [op.encode_of_fit ⟨hr, hs, hc⟩, hro, Bool.true_and] at henc
      cases hb : op.writes o.source with
      | false => rfl
      | true => rw [hb] at henc; cases henc
    obtain ⟨hcode, hsource⟩ := CsrOp.of_writes_eq_false hwrites
    constructor
    · rw [show (0x73 + 2 ^ 12 * op.funct3 + 2 ^ 7 * o.rd + 2 ^ 15 * o.source + 2 ^ 20 * o.csr) /
        2 ^ 12 % 2 ^ (14 - 12 + 1) = op.funct3 by omega]
      exact hcode
    · omega
  case system.none =>
    cases h
    cases s <;> decide
  case system.some => cases h

end Instruction

end Zicsr
