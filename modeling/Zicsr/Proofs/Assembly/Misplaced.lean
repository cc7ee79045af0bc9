import Zicsr.Proofs.Assembly.Operand

/-
  Operands in the wrong place.

  No text is read both as a register and as a CSR: what spells a register is no name
  of a CSR and no numeral (`IsRegister.not_isCsr`). A line of a form puts each operand
  into a slot of its own, so one that is accepted has registers in two slots and a
  CSR in the third. The same operands in another order are refused as soon as one of
  the registers comes to stand in the slot of the CSR (`refused_of_moved`).
-/

namespace Zicsr

/-! ## Two languages -/

theorem Register.read?_iff_spelled {t : Text} {r : Register} :
    read? t = some r ↔
      Text.trim t = r.name ∨ (Text.trim t = "fp" ∧ r.index = 8) ∨
        Text.trim t = 'x' :: Numeral.decimal r.index := by
  rw [read?_eq_some_iff, spellings]
  by_cases h : r.index = 8
  · simp [h, or_comm]
  · simp [h]

/-- What spells a register is no name of a CSR and begins with a letter, so it is no numeral. -/
theorem Register.spelling_foreign : ∀ r ∈ all, ∀ t ∈ r.spellings,
    Csr.addressOf? t = none ∧ t.head?.any Char.isLower = true := by decide +kernel

variable {t : Text} {n a : Nat}

theorem IsRegister.not_isCsr (h : IsRegister t n) : ¬ IsCsr t a := by
  obtain ⟨r, hr, -⟩ := h
  obtain ⟨hname, hletter⟩ :=
    Register.spelling_foreign r r.mem_all _ (Register.read?_eq_some_iff.mp hr)
  rintro ⟨c, hc, -⟩
  rcases Csr.read?_eq_some_iff.mp hc with hmem | hread
  · rw [Csr.addressOf?_of_mem _ hmem] at hname
    cases hname
  · have hnumeral := Numeral.read_of_head_isLower hletter
    rw [Numeral.read_trim, hread] at hnumeral
    cases hnumeral

theorem read?_disjoint (t : Text) : Register.read? t = none ∨ Csr.read? t = none := by
  cases hr : Register.read? t with
  | none => exact .inl rfl
  | some r =>
    refine .inr (Option.eq_none_iff_forall_ne_some.mpr fun c hc => ?_)
    exact IsRegister.not_isCsr ⟨r, hr, rfl⟩ ⟨c, hc, rfl⟩

/-! ## Lines of a style -/

/-- The line of a name and operands in a style. -/
def Style.line : Style → Text → List Text → Text
  | .statement => Instruction.spell
  | .call => Instruction.spellCall

def Accepted (line : Text) : Prop := ∃ i, readLine line = .ok (some i)

def Refused (line : Text) : Prop := ∃ e, readLine line = .error e

section Forms

variable {style : Style} {f : Form} {op : CsrOp} {name : Text} {ops ops' : List Text}

/-- What a form puts into a slot, from the operands of a line. -/
def Form.slotText (f : Form) (ops : List Text) (slot : Slot) : Text :=
  f.operand "zero" (ops.map Text.trim) slot

theorem readLine_line (hf : f ∈ Form.ofStyle style) (hop : f.op = .csr op)
    (hn : Text.lower name = f.name) (hops : ∀ o ∈ ops, Parts.IsOperand o)
    (hlen : ops.length = f.arity) (h2 : 2 ≤ ops.length) :
    readLine (style.line name ops) =
      readWith op (f.slotText ops .rd) (f.slotText ops .csr) (f.slotText ops .source) := by
  have hfill : f.fill (ops.map Text.trim) =
      Instruction.readOperands op (f.slotText ops .rd) (f.slotText ops .csr)
        (f.slotText ops .source) := by
    rw [Form.fill, hop]
    rfl
  cases style with
  | statement => exact (readLine_statement hf hn hops hlen h2).trans (by rw [hfill]; rfl)
  | call => exact (readLine_call hf hn hops hlen h2).trans (by rw [hfill]; rfl)

theorem exists_operands_of_readWith {d c s : Text} {i? : Option Instruction}
    (h : readWith op d c s = .ok i?) :
    ∃ o : Operands, IsRegister d o.rd ∧ IsCsr c o.csr ∧ IsSource op s o.source := by
  unfold readWith at h
  cases hread : Instruction.readOperands op d c s with
  | error e => rw [hread] at h; cases h
  | ok i =>
    obtain ⟨o, -, hoperands⟩ := Instruction.readOperands_eq_ok_iff.mp hread
    exact ⟨o, hoperands⟩

/-- A register in the slot of the CSR is never accepted. -/
theorem refused_of_register {d c s : Text} (hc : IsRegister c n) :
    ∃ e, readWith op d c s = .error e := by
  cases h : readWith op d c s with
  | error e => exact ⟨e, rfl⟩
  | ok i? =>
    obtain ⟨o, -, hcsr, -⟩ := exists_operands_of_readWith h
    exact absurd hcsr hc.not_isCsr

/-- A line that is accepted is refused with its operands in another order, if what
was a register before comes to stand in the slot of the CSR. -/
theorem refused_of_moved (hf : f ∈ Form.ofStyle style) (hop : f.op = .csr op)
    (himm : op.immediate = false) (hn : Text.lower name = f.name)
    (hops : ∀ o ∈ ops, Parts.IsOperand o) (hlen : ops.length = f.arity) (h2 : 2 ≤ ops.length)
    (hperm : ops'.Perm ops)
    (hmoved : f.slotText ops' .csr = f.slotText ops .rd ∨
      f.slotText ops' .csr = f.slotText ops .source)
    (h : Accepted (style.line name ops)) : Refused (style.line name ops') := by
  obtain ⟨i, hi⟩ := h
  rw [readLine_line hf hop hn hops hlen h2] at hi
  obtain ⟨o, hrd, -, hsource⟩ := exists_operands_of_readWith hi
  rw [IsSource, if_neg (by simp [himm])] at hsource
  unfold Refused
  rw [readLine_line hf hop hn (fun o ho => hops o (hperm.mem_iff.mp ho))
    (hperm.length_eq.trans hlen) (hperm.length_eq ▸ h2)]
  rcases hmoved with hmoved | hmoved
  · exact refused_of_register (hmoved ▸ hrd)
  · exact refused_of_register (hmoved ▸ hsource)

end Forms

/-- The texts of registers and of CSRs are two languages that have no text in common:
a register is read from its name in the calling convention, from `x` and its number,
or from `fp`, and a CSR from its name or from a numeral for its address. So operands
in the wrong order are never accepted: where a line with a CSR and registers is
accepted, the line with the CSR and one of the registers exchanged is refused, in
either style. -/
theorem misplaced_refused :
    (∀ t r, Register.read? t = some r ↔
      Text.trim t = r.name ∨ (Text.trim t = "fp" ∧ r.index = 8) ∨
        Text.trim t = 'x' :: Numeral.decimal r.index) ∧
    (∀ t c, Csr.read? t = some c ↔
      (Text.trim t, c.address) ∈ Csr.table ∨ (Numeral.read t = .ok c.address ∧ c.address < 4096)) ∧
    (∀ t, Register.read? t = none ∨ Csr.read? t = none) ∧
    (∀ a b r, Parts.IsOperand a → Parts.IsOperand b → Parts.IsOperand r → ∀ (style : Style) name,
      (∀ action, Text.lower name = CsrOp.shortMnemonic ⟨action, false⟩ →
        Accepted (style.line name [a, b]) → Refused (style.line name [b, a])) ∧
      (Text.lower name = "csrr" →
        Accepted (style.line name [a, b]) → Refused (style.line name [b, a])) ∧
      (∀ action, Text.lower name = CsrOp.mnemonic ⟨action, false⟩ →
        Accepted (style.line name [r, a, b]) →
          Refused (style.line name [r, b, a]) ∧ Refused (style.line name [a, r, b]))) := by
  refine ⟨fun _ _ => Register.read?_iff_spelled, fun t c => ?csr, read?_disjoint, ?lines⟩
  case csr => rw [Csr.read?_eq_some_iff, and_iff_left c.address_lt]
  case lines =>
    intro a b r ha hb hr style name
    have h2 : ∀ o ∈ [a, b], Parts.IsOperand o := by simp [ha, hb]
    have h3 : ∀ o ∈ [r, a, b], Parts.IsOperand o := by simp [ha, hb, hr]
    have hswap : [b, a].Perm [a, b] := .swap a b []
    have hlast : [r, b, a].Perm [r, a, b] := hswap.cons r
    have hfirst : [a, r, b].Perm [r, a, b] := .swap r a [b]
    cases style with
    | statement =>
      refine ⟨fun action hn h => ?_, fun hn h => ?_, fun action hn h => ⟨?_, ?_⟩⟩
      · exact refused_of_moved (short_mem _) rfl rfl hn h2 rfl (by simp) hswap (.inr rfl) h
      · exact refused_of_moved (f := Form.reading) (by decide) rfl rfl hn h2 rfl (by simp) hswap
          (.inl rfl) h
      · exact refused_of_moved (full_mem _) rfl rfl hn h3 rfl (by simp) hlast (.inr rfl) h
      · exact refused_of_moved (full_mem _) rfl rfl hn h3 rfl (by simp) hfirst (.inl rfl) h
    | call =>
      refine ⟨fun action hn h => ?_, fun hn h => ?_, fun action hn h => ⟨?_, ?_⟩⟩
      · exact refused_of_moved (shortCall_mem _) rfl rfl hn h2 rfl (by simp) hswap (.inr rfl) h
      · exact refused_of_moved (f := Form.readingCall) (by decide) rfl rfl hn h2 rfl (by simp) hswap
          (.inl rfl) h
      · exact refused_of_moved (fullCall_mem _) rfl rfl hn h3 rfl (by simp) hlast (.inl rfl) h
      · exact refused_of_moved (fullCall_mem _) rfl rfl hn h3 rfl (by simp) hfirst (.inr rfl) h

/-- A call and a statement that are accepted, with their operands exchanged. -/
theorem misplaced_refused_swaps :
    Refused (Style.call.line "CSRW" ["satp", " x31\t"]) ∧
    Refused (Style.statement.line "csrrw" ["fp", "t1", "0x1_80"]) ∧
    Refused (Style.statement.line "csrrw" ["0x1_80", "fp", "t1"]) ∧
    Csr.read? "x8" = none := by
  have hcsr : Parts.IsOperand "satp".toList := ⟨by decide, by decide, by decide, by decide⟩
  have hreg : Parts.IsOperand " x31\t".toList := ⟨by decide, by decide, by decide, by decide⟩
  have hfp : Parts.IsOperand "fp".toList := ⟨by decide, by decide, by decide, by decide⟩
  have ht1 : Parts.IsOperand "t1".toList := ⟨by decide, by decide, by decide, by decide⟩
  have hnum : Parts.IsOperand "0x1_80".toList := ⟨by decide, by decide, by decide, by decide⟩
  obtain ⟨-, -, hdisjoint, hlines⟩ := misplaced_refused
  have hcall := (hlines _ _ _ hreg hcsr hreg .call "CSRW").1 .write (by decide) ⟨_, rfl⟩
  have hstatement := (hlines _ _ _ hnum ht1 hfp .statement "csrrw").2.2 .write (by decide) ⟨_, rfl⟩
  exact ⟨hcall, hstatement.1, hstatement.2, (hdisjoint _).resolve_left (by decide)⟩

end Zicsr
