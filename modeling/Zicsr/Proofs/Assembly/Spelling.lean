import Zicsr.Proofs.Assembly.Line
import Zicsr.Proofs.Names
import Zicsr.Proofs.Text.Letters

/-
  The spellings of one instruction.

  Every form of a statement or a call puts its operands into the same three
  slots, and the slots are read in one order whatever the order on the line. So
  what a line is read as is a function of its operation and three texts
  (`readWith`), and spellings that give the same three texts are read alike,
  errors included (`readLine_spellings`). The case of the letters of a name does
  not matter.
-/

namespace Zicsr

/-! ## Names in either case -/

namespace Parts

theorem IsName.of_lower {n : Text} (h : IsName (Text.lower n)) : IsName n where
  ne_nil := by
    intro heq
    subst heq
    exact h.ne_nil rfl
  noBlank := Text.noBlank_lower_iff.mp h.noBlank
  opening := mt (Text.mem_lower_iff (by decide)).mpr h.opening
  hash := mt (Text.mem_lower_iff (by decide)).mpr h.hash
  slash := mt (Text.mem_lower_iff (by decide)).mpr h.slash

end Parts

theorem Text.Plain.isName {t : Text} (h : t.Plain) (hne : t ≠ []) : Parts.IsName t where
  ne_nil := hne
  noBlank := h.noBlank
  opening := h.not_mem (by decide)
  hash := h.not_mem (by decide)
  slash := h.not_mem (by decide)

theorem Text.Plain.isOperand {t : Text} (h : t.Plain) : Parts.IsOperand t where
  comma := h.not_mem (by decide)
  opening := h.not_mem (by decide)
  uncommented := Parts.uncommented_of_not_mem (h.not_mem (by decide)) (h.not_mem (by decide))

/-! ## Forms and their names -/

namespace Form

theorem alphanumeric_name : ∀ f ∈ statements ++ calls, f.name.Alphanumeric ∧ f.name ≠ [] := by
  decide

theorem find?_name (style : Style) : ∀ f ∈ ofStyle style, find? (ofStyle style) f.name = some f := by
  cases style <;> decide

theorem lower_name : ∀ f ∈ statements ++ calls, Text.lower f.name = f.name := by decide

variable {f : Form} {n : Text}

theorem mem_statements_or_calls {style : Style} (hf : f ∈ ofStyle style) :
    f ∈ statements ++ calls := by
  cases style with
  | statement => exact List.mem_append_left _ hf
  | call => exact List.mem_append_right _ hf

theorem isName (style : Style) (hf : f ∈ ofStyle style) (hn : Text.lower n = f.name) :
    Parts.IsName n := by
  have hp := alphanumeric_name f (mem_statements_or_calls hf)
  exact Parts.IsName.of_lower (hn ▸ hp.1.plain.isName hp.2)

theorem find?_of_lower (style : Style) (hf : f ∈ ofStyle style) (hn : Text.lower n = f.name) :
    find? (ofStyle style) n = some f := by
  have hfind := find?_name style f hf
  rwa [find?, lower_name f (mem_statements_or_calls hf), ← hn] at hfind

theorem instruction_eq_fill (style : Style) {ops : List Text} (hf : f ∈ ofStyle style)
    (hn : Text.lower n = f.name) (hlen : ops.length = f.arity) :
    Parts.instruction ⟨style, n, ops⟩ = f.fill ops := by
  simp only [Parts.instruction, find?_of_lower style hf hn]
  rw [if_neg (by simp [hlen])]

end Form

/-! ## What a line is read as -/

/-- What the operation and the texts of its three operands are read as. -/
def readWith (op : CsrOp) (rd csr source : Text) : Except LineError (Option Instruction) :=
  (Instruction.readOperands op rd csr source >>= Instruction.checked).map some

section Lines

open Instruction Parts

variable {f : Form} {n : Text} {ops : List Text}

theorem readLine_statement (hf : f ∈ Form.statements) (hn : Text.lower n = f.name)
    (hops : ∀ o ∈ ops, IsOperand o) (hlen : ops.length = f.arity) (h2 : 2 ≤ ops.length) :
    readLine (spell n ops) = (f.fill (ops.map Text.trim) >>= checked).map some := by
  rw [readLine_spell (Form.isName .statement hf hn) hops h2,
    Form.instruction_eq_fill .statement hf hn (by simpa using hlen)]

theorem readLine_call (hf : f ∈ Form.calls) (hn : Text.lower n = f.name)
    (hops : ∀ o ∈ ops, IsOperand o) (hlen : ops.length = f.arity) (h2 : 2 ≤ ops.length) :
    readLine (spellCall n ops) = (f.fill (ops.map Text.trim) >>= checked).map some := by
  rw [readLine_spellCall (Form.isName .call hf hn) hops h2,
    Form.instruction_eq_fill .call hf hn (by simpa using hlen)]

variable {op : CsrOp} {d c s : Text}

theorem full_mem (op : CsrOp) : Form.full op ∈ Form.statements :=
  List.mem_append_left _ (List.mem_append_left _ (List.mem_map_of_mem op.mem_all))

theorem short_mem (op : CsrOp) : Form.short op ∈ Form.statements := by
  refine List.mem_append_right _ ?_
  rw [Form.shortStatements_eq]
  exact List.mem_cons_of_mem _ (List.mem_map_of_mem op.mem_all)

theorem fullCall_mem (a : Action) : Form.fullCall ⟨a, false⟩ ∈ Form.calls := by
  cases a <;> decide

theorem shortCall_mem (a : Action) : Form.shortCall ⟨a, false⟩ ∈ Form.calls := by
  cases a <;> decide

theorem readLine_full (hd : IsOperand d) (hc : IsOperand c) (hs : IsOperand s)
    (hn : Text.lower n = op.mnemonic) :
    readLine (spell n [d, c, s]) = readWith op (Text.trim d) (Text.trim c) (Text.trim s) :=
  readLine_statement (full_mem op) hn (by simp [hd, hc, hs]) rfl (by simp)

theorem readLine_fullCall {a : Action} (hd : IsOperand d) (hc : IsOperand c) (hs : IsOperand s)
    (hn : Text.lower n = CsrOp.mnemonic ⟨a, false⟩) :
    readLine (spellCall n [s, c, d]) =
      readWith ⟨a, false⟩ (Text.trim d) (Text.trim c) (Text.trim s) :=
  readLine_call (fullCall_mem a) hn (by simp [hd, hc, hs]) rfl (by simp)

theorem readLine_short (hc : IsOperand c) (hs : IsOperand s) (hn : Text.lower n = op.shortMnemonic) :
    readLine (spell n [c, s]) = readWith op "zero" (Text.trim c) (Text.trim s) :=
  readLine_statement (short_mem op) hn (by simp [hc, hs]) rfl (by simp)

theorem readLine_shortCall {a : Action} (hc : IsOperand c) (hs : IsOperand s)
    (hn : Text.lower n = CsrOp.shortMnemonic ⟨a, false⟩) :
    readLine (spellCall n [s, c]) = readWith ⟨a, false⟩ "zero" (Text.trim c) (Text.trim s) :=
  readLine_call (shortCall_mem a) hn (by simp [hc, hs]) rfl (by simp)

theorem readLine_reading (hd : IsOperand d) (hc : IsOperand c) (hn : Text.lower n = "csrr".toList) :
    readLine (spell n [d, c]) = readWith ⟨.set, false⟩ (Text.trim d) (Text.trim c) "zero" :=
  readLine_statement (f := Form.reading) (by decide) hn (by simp [hd, hc]) rfl (by simp)

theorem readLine_readingCall (hd : IsOperand d) (hc : IsOperand c)
    (hn : Text.lower n = "csrr".toList) :
    readLine (spellCall n [c, d]) = readWith ⟨.set, false⟩ (Text.trim d) (Text.trim c) "zero" :=
  readLine_call (f := Form.readingCall) (by decide) hn (by simp [hd, hc]) rfl (by simp)

theorem isOperand_zero : IsOperand "zero".toList :=
  Text.Plain.isOperand (Register.plain_nameOf 0)

/-- All spellings of one instruction are read alike, whatever their operands
say: the call with the operands turned round, the short form with `zero` as its
destination, and the read with `zero` as its source. -/
theorem readLine_spellings {d c s u : Text} (hd : IsOperand d) (hc : IsOperand c)
    (hs : IsOperand s) (hu : IsOperand u) (a : Action) :
    (∀ n m, Text.lower n = CsrOp.mnemonic ⟨a, false⟩ → Text.lower m = CsrOp.mnemonic ⟨a, false⟩ →
      readLine (spell n [d, c, s]) = readLine (spellCall m [s, c, d])) ∧
    (∀ n m k, Text.lower n = CsrOp.shortMnemonic ⟨a, false⟩ →
      Text.lower m = CsrOp.shortMnemonic ⟨a, false⟩ → Text.lower k = CsrOp.mnemonic ⟨a, false⟩ →
      readLine (spell n [c, s]) = readLine (spellCall m [s, c]) ∧
      readLine (spell n [c, s]) = readLine (spell k ["zero", c, s])) ∧
    (∀ n m k, Text.lower n = "csrr".toList → Text.lower m = "csrr".toList →
      Text.lower k = "csrrs".toList →
      readLine (spell n [d, c]) = readLine (spellCall m [c, d]) ∧
      readLine (spell n [d, c]) = readLine (spell k [d, c, "zero"])) ∧
    (∀ n k, Text.lower n = CsrOp.shortMnemonic ⟨a, true⟩ →
      Text.lower k = CsrOp.mnemonic ⟨a, true⟩ →
      readLine (spell n [c, u]) = readLine (spell k ["zero", c, u])) := by
  have hzero : Text.trim "zero".toList = "zero".toList := by decide
  -- Either side is read with the same three texts, and `zero` where it names fewer.
  refine ⟨?full, ?short, ?reading, ?immediate⟩
  case full =>
    intro n m hn hm
    rw [readLine_full hd hc hs hn, readLine_fullCall hd hc hs hm]
  case short =>
    intro n m k hn hm hk
    rw [readLine_short hc hs hn, readLine_shortCall hc hs hm,
      readLine_full isOperand_zero hc hs hk, hzero]
    exact ⟨rfl, rfl⟩
  case reading =>
    intro n m k hn hm hk
    have hset : Text.lower k = CsrOp.mnemonic ⟨.set, false⟩ := hk
    rw [readLine_reading hd hc hn, readLine_readingCall hd hc hm,
      readLine_full hd hc isOperand_zero hset, hzero]
    exact ⟨rfl, rfl⟩
  case immediate =>
    intro n k hn hk
    rw [readLine_short hc hu hn, readLine_full isOperand_zero hc hu hk, hzero]

/-- Names in mixed case, and operands that are refused: the spellings agree on
the error too. -/
theorem readLine_spellings_refused :
    readLine (spell "csrrW" ["a0", " cycle", "t9 "]) =
      readLine (spellCall "CSRRW" ["t9 ", " cycle", "a0"]) ∧
    readLine (spell "csrw" [" cycle", "t9 "]) = readLine (spellCall "CSRW" ["t9 ", " cycle"]) ∧
    readLine (spell "csrr" ["a0", " cycle"]) = readLine (spell "csrrs" ["a0", " cycle", "zero"]) ∧
    readLine (spell "csrwi" [" cycle", "1/2)"]) =
      readLine (spell "csrrwi" ["zero", " cycle", "1/2)"]) := by
  have hd : IsOperand "a0".toList := ⟨by decide, by decide, by decide, by decide⟩
  have hc : IsOperand " cycle".toList := ⟨by decide, by decide, by decide, by decide⟩
  have hs : IsOperand "t9 ".toList := ⟨by decide, by decide, by decide, by decide⟩
  have hu : IsOperand "1/2)".toList := ⟨by decide, by decide, by decide, by decide⟩
  obtain ⟨full, short, reading, immediate⟩ := readLine_spellings hd hc hs hu .write
  exact ⟨full _ _ (by decide) (by decide), (short _ _ "csrrw" (by decide) (by decide) (by decide)).1,
    (reading _ "csrr" _ (by decide) (by decide) (by decide)).2,
    immediate _ _ (by decide) (by decide)⟩

end Lines

end Zicsr
