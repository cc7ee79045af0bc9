import Zicsr.Proofs.Assembly.Spelling
import Zicsr.Proofs.Instruction.Codec

/-
  Printed instructions are read back.

  The texts of operands are read as the operands exactly if these fit their
  fields (`readOperands_of_fit`, `readOperands_of_not_fit`), and an alias leaves
  out only operands whose text is that of `zero`, so both texts of a CSR
  instruction are read with the same three texts (`readLine_text_csr`). What an
  instruction has no word for is refused when its text is read
  (`readLine_text`). No text holds the end of a line or an escape (`avoids_text`).
-/

namespace Zicsr

/-! ## Reading one operand -/

section Operand

variable {n : Nat}

theorem Register.read_nameOf_of_lt (h : n < 32) : Register.read (nameOf n) = .ok ⟨n, h⟩ := by
  rw [Register.read, read?_nameOf, ofIndex?, dif_pos h]

theorem Register.read_nameOf_of_le (h : 32 ≤ n) :
    Register.read (nameOf n) = .error (.invalidRegister (nameOf n)) := by
  rw [Register.read, read?_nameOf, ofIndex?, dif_neg (by omega)]

theorem Csr.read_displayAddress_of_lt (h : n < 4096) : Csr.read (displayAddress n) = .ok ⟨n, h⟩ := by
  rw [Csr.read, read?_displayAddress, ofAddress?, dif_pos h]

theorem Csr.read_displayAddress_of_le (h : 4096 ≤ n) :
    Csr.read (displayAddress n) = .error (.invalidCsr (displayAddress n)) := by
  rw [Csr.read, read?_displayAddress, ofAddress?, dif_neg (by omega)]
  simp only [Text.trim_of_noBlank (plain_displayAddress n).noBlank]

theorem readImmediate_decimal_of_lt (h : n < 32) : readImmediate (Numeral.decimal n) = .ok n := by
  have hread : Numeral.read (Numeral.decimal n) = .ok n :=
    (Numeral.read_decimal_eq_ok_iff n n).mpr ⟨rfl, Nat.lt_trans h (by decide)⟩
  unfold readImmediate
  simp only [hread]
  rw [if_neg (by omega)]

theorem readImmediate_decimal_of_le (h : 32 ≤ n) :
    ∃ e, readImmediate (Numeral.decimal n) = .error e := by
  unfold readImmediate
  cases hread : Numeral.read (Numeral.decimal n) with
  | error e => exact ⟨_, rfl⟩
  | ok m =>
    obtain ⟨rfl, -⟩ := (Numeral.read_decimal_eq_ok_iff n m).mp hread
    exact ⟨_, if_pos h⟩

end Operand

/-! ## Reading all operands -/

namespace Instruction

variable (op : CsrOp) {o : Operands}

/-- What the texts of the operands are read as, with a view to the operation. -/
def readTexts (op : CsrOp) (o : Operands) : Except LineError Instruction :=
  readOperands op (operandText (.csr op) o .rd) (operandText (.csr op) o .csr)
    (operandText (.csr op) o .source)

theorem readTexts_of_fit (h : o.Fit) : readTexts op o = .ok ⟨.csr op, some o⟩ := by
  obtain ⟨hr, hs, hc⟩ := h
  obtain ⟨action, immediate⟩ := op
  unfold readTexts readOperands operandText
  simp only [Register.read_nameOf_of_lt hr, Csr.read_displayAddress_of_lt hc, Op.isImmediate, bind,
    Except.bind]
  cases immediate with
  | true => simp [readImmediate_decimal_of_lt hs, withImmediate, pure, Except.pure]
  | false => simp [Register.read_nameOf_of_lt hs, withRegister, pure, Except.pure]

theorem readTexts_of_not_fit (h : ¬ o.Fit) : ∃ e, readTexts op o = .error e := by
  obtain ⟨action, immediate⟩ := op
  unfold readTexts readOperands operandText
  by_cases hr : o.rd < 32
  · by_cases hc : o.csr < 4096
    · have hs : 32 ≤ o.source := by
        unfold Operands.Fit at h
        omega
      simp only [Register.read_nameOf_of_lt hr, Csr.read_displayAddress_of_lt hc, Op.isImmediate,
        bind, Except.bind]
      cases immediate with
      | true =>
        obtain ⟨e, he⟩ := readImmediate_decimal_of_le hs
        exact ⟨e, by simp [he]⟩
      | false =>
        refine ⟨.invalidRegister (Register.nameOf o.source), ?_⟩
        simp [Register.read_nameOf_of_le hs]
    · simp only [Register.read_nameOf_of_lt hr, Csr.read_displayAddress_of_le (Nat.le_of_not_lt hc),
        bind, Except.bind]
      exact ⟨_, rfl⟩
  · simp only [Register.read_nameOf_of_le (Nat.le_of_not_lt hr), bind, Except.bind]
    exact ⟨_, rfl⟩

/-! ## Reading a line -/

theorem plain_operandText (op : Op) (o : Operands) (slot : Slot) : (operandText op o slot).Plain := by
  cases slot with
  | rd => exact Register.plain_nameOf o.rd
  | csr => exact Csr.plain_displayAddress o.csr
  | source =>
    rw [operandText]
    cases op.isImmediate
    · exact Register.plain_nameOf o.source
    · exact Numeral.plain_decimal o.source

theorem isOperand_operandText (op : Op) (o : Operands) (slot : Slot) :
    Parts.IsOperand (operandText op o slot) :=
  (plain_operandText op o slot).isOperand

theorem trim_operandText (op : Op) (o : Operands) (slot : Slot) :
    Text.trim (operandText op o slot) = operandText op o slot :=
  Text.trim_of_noBlank (plain_operandText op o slot).noBlank

theorem lower_mnemonic (c : CsrOp) : Text.lower c.mnemonic = c.mnemonic :=
  Form.lower_name (Form.full c) (List.mem_append_left _ (full_mem c))

theorem lower_shortMnemonic (c : CsrOp) : Text.lower c.shortMnemonic = c.shortMnemonic :=
  Form.lower_name (Form.short c) (List.mem_append_left _ (short_mem c))

theorem readLine_canonicalText_csr (c : CsrOp) (o : Operands) :
    readLine (canonicalText ⟨.csr c, some o⟩) = (readTexts c o >>= checked).map some := by
  have hline := readLine_full (isOperand_operandText (.csr c) o .rd)
    (isOperand_operandText (.csr c) o .csr) (isOperand_operandText (.csr c) o .source)
    (lower_mnemonic c)
  simp only [trim_operandText] at hline
  exact hline

/-! The alias is chosen by the source first and by the destination next. -/

theorem aliasText_reading {o : Operands} (hs : o.source = 0) :
    aliasText ⟨.csr ⟨.set, false⟩, some o⟩ =
      spell "csrr" ([.rd, .csr].map (operandText (.csr ⟨.set, false⟩) o)) := by
  simp only [aliasText, alias?, aliasForm?, hs, and_self, if_true]
  rfl

theorem aliasText_short {c : CsrOp} {o : Operands} (hc : ¬ (c = ⟨.set, false⟩ ∧ o.source = 0))
    (hrd : o.rd = 0) :
    aliasText ⟨.csr c, some o⟩ =
      spell c.shortMnemonic ([.csr, .source].map (operandText (.csr c) o)) := by
  simp only [aliasText, alias?, aliasForm?, if_neg hc, if_pos hrd]
  rfl

theorem aliasText_full {c : CsrOp} {o : Operands} (hc : ¬ (c = ⟨.set, false⟩ ∧ o.source = 0))
    (hrd : o.rd ≠ 0) : aliasText ⟨.csr c, some o⟩ = canonicalText ⟨.csr c, some o⟩ := by
  simp only [aliasText, alias?, aliasForm?, if_neg hc, if_neg hrd]
  rfl

theorem readLine_text_csr (aliases : Bool) (c : CsrOp) (o : Operands) :
    readLine (text aliases ⟨.csr c, some o⟩) = (readTexts c o >>= checked).map some := by
  cases aliases with
  | false => exact readLine_canonicalText_csr c o
  | true =>
    show readLine (aliasText ⟨.csr c, some o⟩) = _
    by_cases hreading : c = ⟨.set, false⟩ ∧ o.source = 0
    · -- The source left out is register zero.
      obtain ⟨rfl, hs⟩ := hreading
      have hline := readLine_reading (isOperand_operandText (.csr ⟨.set, false⟩) o .rd)
        (isOperand_operandText (.csr ⟨.set, false⟩) o .csr) (n := "csrr".toList) (by decide)
      have hsource : operandText (.csr ⟨.set, false⟩) o .source = "zero".toList := by
        rw [operandText, hs]
        rfl
      simp only [trim_operandText] at hline
      rw [aliasText_reading hs, readTexts, hsource]
      exact hline
    · by_cases hrd : o.rd = 0
      · -- The destination left out is register zero.
        have hline := readLine_short (isOperand_operandText (.csr c) o .csr)
          (isOperand_operandText (.csr c) o .source) (lower_shortMnemonic c)
        have hzero : operandText (.csr c) o .rd = "zero".toList := by
          rw [operandText, hrd]
          rfl
        simp only [trim_operandText] at hline
        rw [aliasText_short hreading hrd, readTexts, hzero]
        exact hline
      · rw [aliasText_full hreading hrd]
        exact readLine_canonicalText_csr c o

theorem text_bare (aliases : Bool) (op : Op) : text aliases ⟨op, none⟩ = op.mnemonic := by
  cases aliases <;> cases op <;> rfl

theorem text_system (aliases : Bool) (s : SystemOp) (o : Operands) :
    text aliases ⟨.system s, some o⟩ =
      spell s.mnemonic ([.rd, .csr, .source].map (operandText (.system s) o)) := by
  cases aliases <;> rfl

theorem bare_mem (s : SystemOp) : Form.bare s ∈ Form.statements :=
  List.mem_append_left _ (List.mem_append_right _ (List.mem_map_of_mem s.mem_all))

theorem lower_mnemonic_system (s : SystemOp) : Text.lower s.mnemonic = s.mnemonic :=
  Form.lower_name (Form.bare s) (List.mem_append_left _ (bare_mem s))

/-- A text is the name of a form, with texts of operands after it if there are any. -/
theorem text_eq_name_or_spell (aliases : Bool) (i : Instruction) :
    ∃ f ∈ Form.statements, text aliases i = f.name ∨
      ∃ (o : Operands) (slots : List Slot),
        text aliases i = spell f.name (slots.map (operandText i.op o)) := by
  rcases i with ⟨c | s, _ | o⟩
  case csr.none => exact ⟨_, full_mem c, .inl (text_bare aliases (.csr c))⟩
  case csr.some =>
    cases aliases with
    | false => exact ⟨_, full_mem c, .inr ⟨o, [.rd, .csr, .source], rfl⟩⟩
    | true =>
      by_cases hreading : c = ⟨.set, false⟩ ∧ o.source = 0
      · obtain ⟨rfl, hs⟩ := hreading
        exact ⟨Form.reading, by decide, .inr ⟨o, [.rd, .csr], aliasText_reading hs⟩⟩
      · by_cases hrd : o.rd = 0
        · exact ⟨_, short_mem c, .inr ⟨o, [.csr, .source], aliasText_short hreading hrd⟩⟩
        · exact ⟨_, full_mem c, .inr ⟨o, [.rd, .csr, .source], aliasText_full hreading hrd⟩⟩
  case system.none => exact ⟨_, bare_mem s, .inl (text_bare aliases (.system s))⟩
  case system.some =>
    exact ⟨_, bare_mem s, .inr ⟨o, [.rd, .csr, .source], text_system aliases s o⟩⟩

/-! No text holds the end of a line, or what begins a sequence that a terminal
obeys. -/

/-- The characters that a text of an instruction does not hold. -/
def controls : Text := ['\n', '\r', '\x1b']

theorem avoids_literalPadded (width n : Nat) :
    Text.Avoids controls (Numeral.literalPadded width n) :=
  Text.Avoids.append (a := ['0', 'x']) (by decide)
    ((Numeral.allDigits_hexPadded width n).avoids (by decide))

theorem avoids_operandText (op : Op) (o : Operands) (slot : Slot) :
    Text.Avoids controls (operandText op o slot) := by
  have hregister : ∀ n, Text.Avoids controls (Register.nameOf n) := by
    intro n
    rw [Register.nameOf, List.getD_eq_getElem?_getD]
    cases h : Register.abiNames[n]? with
    | none => decide
    | some t =>
      exact (Register.alphanumeric_abiNames t (List.mem_of_getElem? h)).avoids (by decide)
  cases slot with
  | rd => exact hregister o.rd
  | csr =>
    show Text.Avoids controls (Csr.displayAddress o.csr)
    rw [Csr.displayAddress, Numeral.literal_eq_literalPadded]
    cases Csr.ofAddress? o.csr with
    | none => exact avoids_literalPadded 0 o.csr
    | some c =>
      show Text.Avoids controls c.display
      rw [Csr.display]
      cases h : c.name? with
      | none => exact avoids_literalPadded 3 c.address
      | some t => exact (Csr.alphanumeric_names _ (Csr.nameOf?_mem h)).1.avoids (by decide)
  | source =>
    rw [operandText]
    cases op.isImmediate
    · exact hregister o.source
    · exact ((Numeral.allDigits_decimal o.source).mono (by decide)).avoids (by decide)

theorem avoids_text (aliases : Bool) (i : Instruction) : Text.Avoids controls (text aliases i) := by
  have hnames : ∀ f ∈ Form.statements, Text.Avoids controls f.name := fun f hf =>
    (Form.alphanumeric_name f (List.mem_append_left _ hf)).1.avoids (by decide)
  obtain ⟨f, hf, htext | ⟨o, slots, htext⟩⟩ := i.text_eq_name_or_spell aliases
  · rw [htext]
    exact hnames f hf
  · rw [htext, spell_eq]
    refine (hnames f hf).append fun c hc hm => ?_
    rcases List.mem_cons.mp hm with rfl | hm
    · exact absurd hc (by decide)
    · -- A character behind the name stands between two operands or in one of them.
      rcases Text.mem_intercalate hm with hm | ⟨t, ht, hm⟩
      · have hsep : Text.Avoids controls [',', ' '] := by decide
        exact hsep c hc hm
      · obtain ⟨slot, -, rfl⟩ := List.mem_map.mp ht
        exact avoids_operandText i.op o slot c hc hm

theorem readLine_text_bare (aliases : Bool) (s : SystemOp) :
    readLine (text aliases ⟨.system s, none⟩) = .ok (some ⟨.system s, none⟩) := by
  have hn := lower_mnemonic_system s
  rw [text_bare, Op.mnemonic, readLine_name (Form.isName .statement (bare_mem s) hn),
    Form.instruction_eq_fill .statement (bare_mem s) hn rfl]
  rfl

theorem readLine_text_missing (aliases : Bool) (c : CsrOp) :
    readLine (text aliases ⟨.csr c, none⟩) = .error (.operandCount c.mnemonic 3 0) := by
  have hn := lower_mnemonic c
  rw [text_bare, Op.mnemonic, readLine_name (Form.isName .statement (full_mem c) hn)]
  simp only [Parts.instruction, Form.find?_of_lower .statement (full_mem c) hn]
  rfl

theorem readLine_text_excess (aliases : Bool) (s : SystemOp) (o : Operands) :
    readLine (text aliases ⟨.system s, some o⟩) = .error (.operandCount s.mnemonic 0 3) := by
  have hn := lower_mnemonic_system s
  rw [text_system, readLine_spell (Form.isName .statement (bare_mem s) hn)
    (by simp [isOperand_operandText]) (by simp)]
  simp only [Parts.instruction, Form.find?_of_lower .statement (bare_mem s) hn]
  rfl

/-- Printed text is read as the instruction printed, if this has a word. -/
theorem readLine_text_of_encode (aliases : Bool) {i : Instruction} {w : BitVec 32}
    (h : i.encode = .ok w) : readLine (text aliases i) = .ok (some i) := by
  rcases i with ⟨c | s, _ | o⟩
  case csr.none => cases h
  case csr.some =>
    rw [readLine_text_csr, readTexts_of_fit c (CsrOp.fit_of_encode h).1]
    show (checked ⟨.csr c, some o⟩).map some = _
    rw [checked_of_encode h]
    rfl
  case system.none => exact readLine_text_bare aliases s
  case system.some => cases h

/-- Printed text is read as the instruction printed if this has a word, and is
refused if it has none. A write of a read-only register whose operands fit is
refused as such. -/
theorem readLine_text (aliases : Bool) (i : Instruction) :
    (∀ w, i.encode = .ok w → readLine (i.text aliases) = .ok (some i)) ∧
    (∀ e, i.encode = .error e → ∃ e', readLine (i.text aliases) = .error e') ∧
    (∀ c o, i = ⟨.csr c, some o⟩ → o.Fit → isReadOnly o.csr = true → c.writes o.source = true →
      i.encode = .error (.readOnlyWrite o.csr) ∧
      readLine (i.text aliases) = .error (.encode (.readOnlyWrite o.csr))) := by
  refine ⟨fun w henc => readLine_text_of_encode aliases henc, ?_⟩
  rcases i with ⟨c | s, _ | o⟩
  case csr.none =>
    rw [readLine_text_missing]
    exact ⟨fun _ _ => ⟨_, rfl⟩, fun _ _ h => (nomatch h)⟩
  case csr.some =>
    rw [readLine_text_csr]
    refine ⟨fun e henc => ?_, fun c' o' heq hfit hro hwrites => ?_⟩
    · by_cases hfit : o.Fit
      · -- Operands that fit are read, and what happens then is up to encoding.
        rw [readTexts_of_fit c hfit]
        show ∃ e', (checked ⟨.csr c, some o⟩).map some = .error e'
        rw [checked_of_encode_error henc]
        exact ⟨.encode e, rfl⟩
      · obtain ⟨e', he'⟩ := readTexts_of_not_fit c hfit
        rw [he']
        exact ⟨e', rfl⟩
    · cases heq
      have henc : encode ⟨.csr c, some o⟩ = .error (.readOnlyWrite o.csr) := by
        show c.encode o = _
        rw [c.encode_of_fit hfit, hro, hwrites]
        rfl
      refine ⟨henc, ?_⟩
      rw [readTexts_of_fit c hfit]
      show (checked ⟨.csr c, some o⟩).map some = _
      rw [checked_of_encode_error henc]
      rfl
  case system.none => exact ⟨fun _ h => (nomatch h), fun _ _ h => (nomatch h)⟩
  case system.some =>
    rw [readLine_text_excess]
    exact ⟨fun _ _ => ⟨_, rfl⟩, fun _ _ h => (nomatch h)⟩

end Instruction

end Zicsr
