import Zicsr.Proofs.Assembly.Guarded
import Zicsr.Proofs.Instruction.Codec

/-
  What encoding answers.

  Encoding makes its checks one after the other, and the first that fails is the
  error. `Encoding` says so case by case: each case names the check that fails
  and what has held before it. A word that is the answer is described by its bits
  alone (`Word.Holds`), and no other word has them (`holds_iff`). The guards of
  packing stop none of this, since everything that is packed has been checked.
-/

namespace Zicsr

/-! ## The layout of a word -/

/-- Whether the bits of a word hold the operation and its operands. -/
structure Word.Holds (op : CsrOp) (o : Operands) (w : BitVec 32) : Prop where
  csr : (w.extractLsb 31 20).toNat = o.csr
  source : (w.extractLsb 19 15).toNat = o.source
  funct3 : (w.extractLsb 14 12).toNat = op.funct3
  rd : (w.extractLsb 11 7).toNat = o.rd
  opcode : (w.extractLsb 6 0).toNat = 0x73

namespace Word

variable {op : CsrOp} {o : Operands} {w : BitVec 32}

/-- Only operands that fit are held, and only by the word that they are packed into. -/
theorem holds_iff : Holds op o w ↔ o.Fit ∧ w = op.pack o := by
  constructor
  · intro h
    obtain ⟨hcsr, hsource, hfunct3, hrd, hopcode⟩ := h
    rw [Instruction.toNat_extractLsb] at hcsr hsource hfunct3 hrd hopcode
    have hr : o.rd < 32 := by omega
    have hs : o.source < 32 := by omega
    have hc : o.csr < 4096 := by omega
    refine ⟨⟨hr, hs, hc⟩, BitVec.eq_of_toNat_eq ?_⟩
    -- The five fields make up the whole word.
    have hlt := w.isLt
    rw [CsrOp.pack, toNat_pack_of_lt op.funct3_lt hr hs hc]
    omega
  · intro h
    obtain ⟨⟨hr, hs, hc⟩, rfl⟩ := h
    have hf := op.funct3_lt
    have hw : (op.pack o).toNat =
        0x73 + 2 ^ 12 * op.funct3 + 2 ^ 7 * o.rd + 2 ^ 15 * o.source + 2 ^ 20 * o.csr :=
      toNat_pack_of_lt hf hr hs hc
    constructor <;> rw [Instruction.toNat_extractLsb, hw] <;> omega

end Word

/-! ## The checks in their order -/

/-- What encoding an instruction answers. -/
inductive Encoding : Instruction → Except EncodeError (BitVec 32) → Prop
  | fixed (s : SystemOp) : Encoding (.bare (.system s)) (.ok s.word)
  | mismatch {op : Op} {operands : Option Operands} (kinds : op.isCsr ≠ operands.isSome) :
      Encoding ⟨op, operands⟩ (.error (.operandMismatch op))
  | rd {op : CsrOp} {o : Operands} (large : 32 ≤ o.rd) :
      Encoding ⟨.csr op, some o⟩ (.error (.registerOutOfRange o.rd))
  | immediate {op : CsrOp} {o : Operands} (rd : o.rd < 32)
      (immediate : op.immediate = true) (large : 32 ≤ o.source) :
      Encoding ⟨.csr op, some o⟩ (.error (.immediateOutOfRange o.source))
  | source {op : CsrOp} {o : Operands} (rd : o.rd < 32)
      (register : op.immediate = false) (large : 32 ≤ o.source) :
      Encoding ⟨.csr op, some o⟩ (.error (.registerOutOfRange o.source))
  | csr {op : CsrOp} {o : Operands} (rd : o.rd < 32) (source : o.source < 32)
      (large : 4096 ≤ o.csr) :
      Encoding ⟨.csr op, some o⟩ (.error (.csrOutOfRange o.csr))
  | readOnly {op : CsrOp} {o : Operands} (fit : o.Fit) (readOnly : 0xC00 ≤ o.csr)
      (write : op.action = .write ∨ o.source ≠ 0) :
      Encoding ⟨.csr op, some o⟩ (.error (.readOnlyWrite o.csr))
  | word {op : CsrOp} {o : Operands} {w : BitVec 32} (fit : o.Fit)
      (allowed : ¬ (0xC00 ≤ o.csr ∧ (op.action = .write ∨ o.source ≠ 0)))
      (holds : Word.Holds op o w) :
      Encoding ⟨.csr op, some o⟩ (.ok w)

/-- The function codes in the instruction set. -/
def functionCodes : List (Text × Nat) :=
  [("csrrw", 1), ("csrrs", 2), ("csrrc", 3), ("csrrwi", 5), ("csrrsi", 6), ("csrrci", 7)]

/-- The words of the instructions without operands. -/
def fixedWords : List (Text × BitVec 32) :=
  [("ecall", 0x00000073#32), ("ebreak", 0x00100073#32), ("sret", 0x10200073#32),
   ("mret", 0x30200073#32), ("wfi", 0x10500073#32)]

/-- A word holds the function code that the instruction set gives to the mnemonic. -/
theorem Word.Holds.mem_functionCodes {op : CsrOp} {o : Operands} {w : BitVec 32}
    (h : Word.Holds op o w) : (op.mnemonic, (w.extractLsb 14 12).toNat) ∈ functionCodes := by
  rw [h.funct3]
  rcases op with ⟨_ | _ | _, _ | _⟩ <;> decide

/-- An instruction without operands is encoded as the word of its mnemonic. -/
theorem Encoding.mem_fixedWords {s : SystemOp} {w : BitVec 32}
    (h : Encoding (.bare (.system s)) (.ok w)) : (s.mnemonic, w) ∈ fixedWords := by
  cases h
  cases s <;> decide

theorem isReadOnly_iff_le {a : Nat} (h : a < 4096) : isReadOnly a = true ↔ 0xC00 ≤ a := by
  rw [isReadOnly, decide_eq_true_iff]
  omega

theorem CsrOp.writes_iff {op : CsrOp} {source : Nat} :
    op.writes source = true ↔ op.action = .write ∨ source ≠ 0 := by
  rw [writes, Bool.or_eq_true, decide_eq_true_iff, bne_iff_ne]

theorem CsrOp.readOnlyWrite_iff {op : CsrOp} {o : Operands} (h : o.Fit) :
    (isReadOnly o.csr && op.writes o.source) = true ↔
      0xC00 ≤ o.csr ∧ (op.action = .write ∨ o.source ≠ 0) := by
  rw [Bool.and_eq_true, isReadOnly_iff_le h.2.2, writes_iff]

/-- Each case is the answer. -/
theorem Encoding.encode_eq {i : Instruction} {answer : Except EncodeError (BitVec 32)}
    (h : Encoding i answer) : i.encode = answer := by
  cases h with
  | fixed s => rfl
  | @mismatch op operands kinds =>
    cases op <;> cases operands <;> first | rfl | exact absurd rfl kinds
  | rd large => exact if_pos large
  | immediate rd immediate large =>
    show CsrOp.encode _ _ = _
    rw [CsrOp.encode, if_neg (by omega), if_pos large, if_pos immediate]
  | source rd register large =>
    show CsrOp.encode _ _ = _
    rw [CsrOp.encode, if_neg (by omega), if_pos large, if_neg (by simp [register])]
  | csr rd source large =>
    show CsrOp.encode _ _ = _
    rw [CsrOp.encode, if_neg (by omega), if_neg (by omega), if_pos large]
  | @readOnly op o fit readOnly write =>
    show CsrOp.encode _ _ = _
    rw [op.encode_of_fit fit, if_pos ((CsrOp.readOnlyWrite_iff fit).mpr ⟨readOnly, write⟩)]
  | @word op o w fit allowed holds =>
    show CsrOp.encode _ _ = _
    obtain ⟨-, rfl⟩ := Word.holds_iff.mp holds
    rw [op.encode_of_fit fit, if_neg (mt (CsrOp.readOnlyWrite_iff fit).mp allowed)]

/-- One of the cases applies to every instruction. -/
theorem exists_encoding (i : Instruction) : ∃ answer, Encoding i answer := by
  rcases i with ⟨op | s, _ | o⟩
  case csr.none => exact ⟨_, .mismatch (by simp [Op.isCsr])⟩
  case system.none => exact ⟨_, .fixed s⟩
  case system.some => exact ⟨_, .mismatch (by simp [Op.isCsr])⟩
  case csr.some =>
    -- The checks are made in this order, so each may use those before it.
    rcases Nat.lt_or_ge o.rd 32 with hrd | hrd
    · rcases Nat.lt_or_ge o.source 32 with hsource | hsource
      · rcases Nat.lt_or_ge o.csr 4096 with hcsr | hcsr
        · have hfit : o.Fit := ⟨hrd, hsource, hcsr⟩
          by_cases hwrite : 0xC00 ≤ o.csr ∧ (op.action = .write ∨ o.source ≠ 0)
          · exact ⟨_, .readOnly hfit hwrite.1 hwrite.2⟩
          · exact ⟨_, .word hfit hwrite (Word.holds_iff.mpr ⟨hfit, rfl⟩)⟩
        · exact ⟨_, .csr hrd hsource hcsr⟩
      · cases himm : op.immediate with
        | true => exact ⟨_, .immediate hrd himm hsource⟩
        | false => exact ⟨_, .source hrd himm hsource⟩
    · exact ⟨_, .rd hrd⟩

/-- Every instruction is encoded or refused by the first check that fails. It has a
word exactly if its operation takes the operands it has, they fit their fields and no
read-only register is written, and the word holds each of them in its field. With
every guard in place the answer is the same. -/
theorem encode_iff_encoding (i : Instruction) :
    (∀ answer, i.encode = answer ↔ Encoding i answer) ∧ Guarded.encode i = .ok i.encode := by
  refine ⟨fun answer => ⟨?_, Encoding.encode_eq⟩, Guarded.encode_eq i⟩
  rintro rfl
  obtain ⟨answer, h⟩ := exists_encoding i
  rw [h.encode_eq]
  exact h

/-- Of several operands out of range the destination is reported. -/
example : Encoding ⟨.csr ⟨.write, true⟩, some ⟨32, 255, 0xFFFF⟩⟩
    (.error (.registerOutOfRange 32)) :=
  .rd (by decide)

end Zicsr
