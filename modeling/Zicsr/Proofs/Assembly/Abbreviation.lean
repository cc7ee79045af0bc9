import Zicsr.Proofs.Assembly.Grammar

/-
  Abbreviations, printed and read.

  Seven statements leave an operand out, which is zero then. The printer has such an
  alias for an instruction by one rule, the source first and the destination next, and
  lines are read by the table of forms. What denotes an instruction without an alias
  begins with the full name of its operation (`LineGrammar.alias_or_named`), and the
  name on a line ends at its first blank or parenthesis. So the instructions that have
  an alias are those that some abbreviated line is read as (`Instruction.alias?_iff_abbreviation`).
-/

namespace Zicsr

open Instruction (spell)

/-- The names of the statements that leave an operand out. -/
def abbreviations : List Text := ["csrr", "csrw", "csrs", "csrc", "csrwi", "csrsi", "csrci"]

/-- Whether the line abbreviates an instruction: its code is one of the names and two
operands with a comma between them. -/
def Abbreviation (n a b : Text) (line : Text) : Prop :=
  Text.lower n ∈ abbreviations ∧ ',' ∉ a ∧ ',' ∉ b ∧ Statement n [a, b] (Parts.code line)

/-! ## The end of a name -/

/-- Whether the character ends a name. -/
def endsName (c : Char) : Bool := Text.isBlank c || c == '('

theorem Parts.IsName.not_endsName {n : Text} (hn : IsName n) : ∀ c ∈ n, endsName c = false := by
  intro c hc
  rw [endsName, hn.noBlank c hc, Bool.false_or, beq_eq_false_iff_ne]
  rintro rfl
  exact hn.opening hc

theorem Parts.IsName.eq_of_append {n m s t : Text} {c d : Char} (hn : IsName n) (hm : IsName m)
    (hc : endsName c = true) (hd : endsName d = true) (h : n ++ c :: s = m ++ d :: t) : n = m := by
  have hcut := Text.cutAt?_append_cons hn.not_endsName hc s
  rw [h, Text.cutAt?_append_cons hm.not_endsName hd t] at hcut
  exact (Prod.mk.inj (Option.some.inj hcut)).1.symm

theorem Statement.exists_end {n t : Text} {ops : List Text} (h : Statement n ops t) :
    ∃ c rest, endsName c = true ∧ t = n ++ c :: rest := by
  obtain ⟨blank, rest, hblank, -, rfl⟩ := h
  exact ⟨blank, rest, by rw [endsName, hblank, Bool.true_or], rfl⟩

theorem exists_end_of_call {n blanks inner : Text} (h : Text.AllBlank blanks) :
    ∃ c rest, endsName c = true ∧ n ++ blanks ++ '(' :: inner = n ++ c :: rest := by
  cases blanks with
  | nil => exact ⟨'(', inner, by decide, by rw [List.append_nil]⟩
  | cons c blanks =>
    have hc : Text.isBlank c = true := h c List.mem_cons_self
    exact ⟨c, blanks ++ '(' :: inner, by rw [endsName, hc, Bool.true_or], by simp⟩

/-! ## What has an alias -/

namespace Instruction

theorem isSome_alias?_iff (op : CsrOp) (o : Operands) :
    (alias? ⟨.csr op, some o⟩).isSome = true ↔
      (op = ⟨.set, false⟩ ∧ o.source = 0) ∨ o.rd = 0 := by
  simp only [alias?, aliasForm?, Option.isSome_map]
  by_cases hreading : op = ⟨.set, false⟩ ∧ o.source = 0
  · rw [if_pos hreading]
    simp [hreading]
  · rw [if_neg hreading]
    by_cases hrd : o.rd = 0 <;> simp [hreading, hrd]

theorem exists_of_alias? {i : Instruction} {name : Text} {operands : List Text}
    (h : i.alias? = some (name, operands)) :
    ∃ f ∈ Form.statements, ∃ o slot slot', f.name ∈ abbreviations ∧ name = f.name ∧
      operands = [operandText i.op o slot, operandText i.op o slot'] := by
  obtain ⟨op | s, _ | o⟩ := i
  case csr.some =>
    obtain ⟨f, hform, heq⟩ := Option.map_eq_some_iff.mp h
    obtain ⟨rfl, rfl⟩ := Prod.mk.inj heq
    unfold aliasForm? at hform
    split at hform
    · cases hform
      exact ⟨Form.reading, by decide, o, .rd, .csr, by decide, rfl, rfl⟩
    · split at hform
      · cases hform
        have hname : op.shortMnemonic ∈ abbreviations := by
          rcases op with ⟨_ | _ | _, _ | _⟩ <;> decide
        exact ⟨_, short_mem op, o, .csr, .source, hname, rfl, rfl⟩
      · cases hform
  all_goals cases h

end Instruction

/-- What denotes an instruction that has no alias begins with the name of its
operation. -/
theorem LineGrammar.alias_or_named {t : Text} {i : Instruction} (h : LineGrammar t i) :
    i.alias?.isSome = true ∨
      ∃ n, Text.lower n = i.op.mnemonic ∧
        (t = n ∨ ∃ c rest, endsName c = true ∧ t = n ++ c :: rest) := by
  cases h with
  | bare s name => exact .inr ⟨t, name, .inl rfl⟩
  | returnCall name before inside => exact .inr ⟨_, name, .inr (exists_end_of_call before)⟩
  | full op name line => exact .inr ⟨_, name, .inr line.exists_end⟩
  | reading => exact .inl ((Instruction.isSome_alias?_iff _ _).mpr (.inl ⟨rfl, rfl⟩))
  | short => exact .inl ((Instruction.isSome_alias?_iff _ _).mpr (.inr rfl))
  | shortCall => exact .inl ((Instruction.isSome_alias?_iff _ _).mpr (.inr rfl))
  | readingCall => exact .inl ((Instruction.isSome_alias?_iff _ _).mpr (.inl ⟨rfl, rfl⟩))
  | fullCall a name line =>
    obtain ⟨blanks, rest, hblanks, -, rfl⟩ := line
    exact .inr ⟨_, name, .inr (exists_end_of_call hblanks)⟩

/-! ## Abbreviated lines -/

theorem Parts.statement_code_spell {n : Text} {ops : List Text} (hn : IsName n)
    (hops : ∀ o ∈ ops, IsOperand o) (h2 : 2 ≤ ops.length) :
    Statement n (ops.map Text.trim) (code (spell n ops)) := by
  obtain ⟨-, ⟨-, -, hnil⟩ | ⟨blank, rest, hblank, -, hcode, heq⟩⟩ :=
    read?_eq_statement_iff.mp (read?_code_spell hn hops h2)
  · rw [List.map_eq_nil_iff] at hnil
    simp [hnil] at h2
  · have hne : splitOperands rest ≠ [] := by
      rw [← heq, ne_eq, List.map_eq_nil_iff]
      rintro rfl
      simp at h2
    exact ⟨blank, rest, hblank, heq ▸ listed_splitOperands hne, hcode⟩

namespace Abbreviation

variable {n a b line : Text} {i : Instruction}

theorem isName (h : Abbreviation n a b line) : Parts.IsName n := by
  have hplain : ∀ t ∈ abbreviations, t.Plain ∧ t ≠ [] := by decide
  obtain ⟨hname, hne⟩ := hplain _ h.1
  exact (hname.isName hne).of_lower

/-- What an abbreviated line is read as has an alias. -/
theorem isSome_alias? (h : Abbreviation n a b line) (hread : readLine line = .ok (some i)) :
    i.alias?.isSome = true := by
  have hgrammar : LineGrammar (Parts.code line) i := by
    obtain ⟨hnone, -⟩ | ⟨j, w, hj, hreads, -⟩ := code_of_readLine hread
    · cases hnone
    · cases hj
      exact (lineGrammar_iff (Parts.trim_code line)).mpr hreads
  refine hgrammar.alias_or_named.resolve_right ?_
  rintro ⟨m, hm, hcode⟩
  -- The name of an operation is no abbreviation, and the line begins with one name.
  have hfull : i.op.mnemonic ∉ abbreviations ∧ Parts.IsName m := by
    have hall : ∀ op ∈ Op.all, op.mnemonic ∉ abbreviations ∧ op.mnemonic.Plain ∧ op.mnemonic ≠ [] := by
      decide
    obtain ⟨hnot, hplain, hne⟩ := hall i.op i.op.mem_all
    exact ⟨hnot, Parts.IsName.of_lower (hm ▸ hplain.isName hne)⟩
  obtain ⟨c, rest, hc, hline⟩ := h.2.2.2.exists_end
  have hnm : n = m := by
    rcases hcode with hcode | ⟨d, rest', hd, hcode⟩
    · -- A line that is a name alone holds no blank.
      have hmem : c ∈ m := by rw [← hcode, hline]; simp
      have hends := hfull.2.not_endsName c hmem
      rw [hc] at hends
      cases hends
    · exact h.isName.eq_of_append hfull.2 hc hd (hline.symm.trans hcode)
  subst hnm
  exact hfull.1 (hm ▸ h.1)

end Abbreviation

/-- An instruction that has a word has an alias exactly if some abbreviated line is
read as it; and then the name and the operands of its alias are such a line. -/
theorem Instruction.alias?_iff_abbreviation {i : Instruction} {w : BitVec 32} (h : i.encode = .ok w) :
    (i.alias?.isSome = true ↔
      ∃ line n a b, Abbreviation n a b line ∧ readLine line = .ok (some i)) ∧
    ∀ name operands, i.alias? = some (name, operands) →
      ∃ a b, operands = [a, b] ∧ Abbreviation name a b (spell name [a, b]) ∧
        readLine (spell name [a, b]) = .ok (some i) := by
  have halias : ∀ name operands, i.alias? = some (name, operands) →
      ∃ a b, operands = [a, b] ∧ Abbreviation name a b (spell name [a, b]) ∧
        readLine (spell name [a, b]) = .ok (some i) := by
    intro name operands hi
    obtain ⟨f, hf, o, slot, slot', hname, rfl, rfl⟩ := Instruction.exists_of_alias? hi
    refine ⟨_, _, rfl, ⟨?name, ?_, ?_, ?statement⟩, ?read⟩
    case read =>
      have hread := Instruction.readLine_text_of_encode true h
      simpa only [Instruction.text, Instruction.aliasText, hi, if_true] using hread
    case name => rwa [Form.lower_name f (List.mem_append_left _ hf)]
    case statement =>
      have hn : Parts.IsName f.name :=
        Form.isName .statement hf (Form.lower_name f (List.mem_append_left _ hf))
      have hops : ∀ t ∈ [Instruction.operandText i.op o slot, Instruction.operandText i.op o slot'],
          Parts.IsOperand t := by
        simp [Instruction.isOperand_operandText]
      have hline := Parts.statement_code_spell hn hops (by simp)
      simpa only [List.map_cons, List.map_nil, Instruction.trim_operandText] using hline
    all_goals exact (Instruction.isOperand_operandText _ _ _).comma
  refine ⟨⟨fun hsome => ?_, ?_⟩, halias⟩
  · obtain ⟨⟨name, operands⟩, hi⟩ := Option.isSome_iff_exists.mp hsome
    obtain ⟨a, b, -, habbreviation, hread⟩ := halias name operands hi
    exact ⟨_, name, a, b, habbreviation, hread⟩
  · rintro ⟨line, n, a, b, habbreviation, hread⟩
    exact habbreviation.isSome_alias? hread

/-- Two instructions that only read: one that sets no bits from register zero, which is
abbreviated in two ways, and one that sets no bits from an immediate, which no line
abbreviates. -/
theorem Instruction.alias?_iff_abbreviation_reads :
    (∃ a b, alias? ⟨.csr ⟨.set, false⟩, some ⟨0, 0, 0xC00⟩⟩ = some ("csrr".toList, [a, b]) ∧
      Abbreviation "csrr" a b (spell "csrr" [a, b]) ∧
      readLine (spell "csrr" [a, b]) = readLine "CSRS\tcycle ,x0 # count") ∧
    ¬ ∃ line n a b, Abbreviation n a b line ∧
      readLine line = .ok (some ⟨.csr ⟨.set, true⟩, some ⟨10, 0, 0x300⟩⟩) := by
  have hregister : encode ⟨.csr ⟨.set, false⟩, some ⟨0, 0, 0xC00⟩⟩ = .ok 0xc0002073#32 := by decide
  have himmediate : encode ⟨.csr ⟨.set, true⟩, some ⟨10, 0, 0x300⟩⟩ = .ok 0x30006573#32 := by decide
  obtain ⟨a, b, hoperands, habbreviation, hread⟩ :=
    (alias?_iff_abbreviation hregister).2 "csrr" ["zero", "cycle"] (by decide)
  refine ⟨⟨a, b, by rw [← hoperands]; decide, habbreviation, hread.trans (by rfl)⟩, ?_⟩
  rw [← (alias?_iff_abbreviation himmediate).1]
  decide

end Zicsr
