import Zicsr.Proofs.Assembly.Listing
import Zicsr.Proofs.Assembly.Operand
import Zicsr.Proofs.Instruction.ReadOnly

/-
  Read-only registers in source texts.

  A word of a source text is that of an instruction that is encoded, so it never
  writes a read-only register. The other way round, operations that only read are
  never refused: whatever the register and the CSR are, each spelling of a read is
  read as the instruction it spells (`readWith_of_reading`).
-/

namespace Zicsr

open Instruction

theorem readWith_of_reading {op : CsrOp} {d c s : Text} {rd csr source : Nat}
    (hd : IsRegister d rd) (hc : IsCsr c csr) (hs : IsSource op s source)
    (hwrites : op.writes source = false) :
    readWith op d c s = .ok (some ⟨.csr op, some ⟨rd, source, csr⟩⟩) := by
  have hread : readOperands op d c s = .ok ⟨.csr op, some ⟨rd, source, csr⟩⟩ :=
    readOperands_eq_ok_iff.mpr ⟨_, rfl, hd, hc, hs⟩
  have htarget : readOnlyTarget? ⟨.csr op, some ⟨rd, source, csr⟩⟩ = none := by
    rw [readOnlyTarget?_csr]
    simp only [hwrites, Bool.and_false, Bool.false_eq_true, if_false]
  obtain ⟨w, henc⟩ := (Fits.csr op ⟨hd.lt, hs.lt, hc.lt⟩).exists_encode htarget
  rw [readWith, hread]
  show (checked ⟨.csr op, some ⟨rd, source, csr⟩⟩).map some = _
  rw [checked_of_encode henc]
  rfl

theorem readLine_full_of_reading {n d c s : Text} {rd csr source : Nat} (op : CsrOp)
    (hn : Text.lower n = op.mnemonic) (hd : IsRegister d rd) (hc : IsCsr c csr)
    (hs : IsSource op s source) (hwrites : op.writes source = false) :
    readLine (spell n [d, c, s]) = .ok (some ⟨.csr op, some ⟨rd, source, csr⟩⟩) := by
  rw [readLine_full hd.isOperand hc.isOperand hs.isOperand hn]
  exact readWith_of_reading hd.trim hc.trim hs.trim hwrites

/-- No word of a source text writes a read-only register: it has the SYSTEM
opcode, and where the address has its two highest bits set, the function code is
one of setting or clearing and the source is zero. No read is refused: of any
CSR, read-only or not, every spelling of a read is an instruction. -/
theorem assemble_readOnly :
    (∀ source words, assemble source = .ok words → ∀ w ∈ words,
      (w.extractLsb 6 0).toNat = 0x73 ∧
      ((w.extractLsb 31 30).toNat = 0b11 →
        (w.extractLsb 14 12).toNat ∈ [0b010, 0b011, 0b110, 0b111] ∧
        (w.extractLsb 19 15).toNat = 0)) ∧
    (∀ d c r k, Register.read? d = some r → Csr.read? c = some k →
      let reading (op : CsrOp) : Instruction := ⟨.csr op, some ⟨r.index, 0, k.address⟩⟩
      readLine (spell "csrr" [d, c]) = .ok (some (reading ⟨.set, false⟩)) ∧
      readLine (spell "csrrs" [d, c, "zero"]) = .ok (some (reading ⟨.set, false⟩)) ∧
      readLine (spell "csrrc" [d, c, "zero"]) = .ok (some (reading ⟨.clear, false⟩)) ∧
      readLine (spell "csrrsi" [d, c, "0"]) = .ok (some (reading ⟨.set, true⟩)) ∧
      readLine (spell "csrrci" [d, c, "0"]) = .ok (some (reading ⟨.clear, true⟩))) := by
  refine ⟨?words, ?reads⟩
  case words =>
    intro source words h w hw
    obtain ⟨i, henc⟩ := encodable_of_assembleFrom h w hw
    exact readOnly_bits_of_encode henc
  case reads =>
    intro d c r k hread hcsr reading
    have hd : IsRegister d r.index := ⟨r, hread, rfl⟩
    have hc : IsCsr c k.address := ⟨k, hcsr, rfl⟩
    have hzero : IsRegister "zero" 0 := isRegister_zero_iff.mpr rfl
    have hnumeral : Numeral.read "0" = .ok 0 ∧ 0 < 32 := ⟨rfl, by decide⟩
    -- A source that is zero, named or left out, makes setting and clearing a read.
    refine ⟨?_, ?_, ?_, ?_, ?_⟩
    · rw [readLine_reading hd.isOperand hc.isOperand (by decide)]
      exact readWith_of_reading hd.trim hc.trim hzero rfl
    · exact readLine_full_of_reading ⟨.set, false⟩ (by decide) hd hc hzero rfl
    · exact readLine_full_of_reading ⟨.clear, false⟩ (by decide) hd hc hzero rfl
    · exact readLine_full_of_reading ⟨.set, true⟩ (by decide) hd hc hnumeral rfl
    · exact readLine_full_of_reading ⟨.clear, true⟩ (by decide) hd hc hnumeral rfl

/-- Two reads of counters on lines of their own, and a read of the last CSR. -/
theorem assemble_readOnly_counters :
    assemble "csrr a0, cycle # low\n\nCSRRC(x0, 0xC01, t1)".toList =
      .ok [0xc0002573#32, 0xc0103373#32] ∧
    (0xc0103373#32).extractLsb 14 12 = 0b011#3 ∧ ((0xc0103373#32).extractLsb 19 15).toNat = 0 ∧
    readLine (spell "csrrc" ["\tx31 ", "0b1111_1111_1111", "zero"]) =
      .ok (some ⟨.csr ⟨.clear, false⟩, some ⟨31, 0, 0xFFF⟩⟩) := by
  have hsource : assemble "csrr a0, cycle # low\n\nCSRRC(x0, 0xC01, t1)".toList =
      .ok [0xc0002573#32, 0xc0103373#32] := by rfl
  have hbits := (assemble_readOnly.1 _ _ hsource 0xc0103373#32 (by decide)).2 (by decide)
  have hreads := assemble_readOnly.2 "\tx31 " "0b1111_1111_1111" ⟨31, by decide⟩ ⟨0xFFF, by decide⟩
    (by decide) (by decide)
  exact ⟨hsource, by decide, hbits.2, hreads.2.2.1⟩

end Zicsr
