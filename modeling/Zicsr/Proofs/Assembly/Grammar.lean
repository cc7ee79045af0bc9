import Zicsr.Proofs.Assembly.Division
import Zicsr.Proofs.Assembly.Operand
import Zicsr.Proofs.Assembly.Printed
import Zicsr.Proofs.Instruction.ReadOnly

/-
  The grammar of source lines.

  `LineGrammar` says what text denotes what instruction. A fixed operation is its
  name. A CSR operation is a statement or a call with its operands in the order
  of the style: `csrrw`, `csrrs` and `csrrc`, in statements also with an `i`, name
  all three, `csrw` and its like leave out the destination, and `csrr` leaves out
  the source; what is left out is zero. Code is taken apart and filled into a form
  exactly if it denotes the instruction (`lineGrammar_iff`). A line whose code
  denotes an instruction is then read as it, unless the instruction writes a
  read-only register (`readLine_grammar`).
-/

namespace Zicsr

/-! ## Statements and calls -/

/-- Whether the text is a name, at least one blank, and operands. -/
def Statement (n : Text) (ops : List Text) (t : Text) : Prop :=
  ∃ blank rest, Text.isBlank blank = true ∧ Text.Listed ops rest ∧ t = n ++ blank :: rest

/-- Whether the text is a name, perhaps blanks, and operands in parentheses. -/
def Call (n : Text) (ops : List Text) (t : Text) : Prop :=
  ∃ blanks rest, Text.AllBlank blanks ∧ Text.Listed ops rest ∧
    t = n ++ blanks ++ '(' :: (rest ++ [')'])

/-- Whether the text denotes the instruction. The case of the letters of a name
does not matter. -/
inductive LineGrammar : Text → Instruction → Prop
  | bare {n : Text} (s : SystemOp) (name : Text.lower n = s.mnemonic) :
      LineGrammar n (.bare (.system s))
  | returnCall {n blanks inner : Text} (name : Text.lower n = "mret".toList)
      (before : Text.AllBlank blanks) (inside : Text.AllBlank inner) :
      LineGrammar (n ++ blanks ++ '(' :: (inner ++ [')'])) (.bare (.system .mret))
  | full {n t d c s : Text} (op : CsrOp) {rd source csr : Nat}
      (name : Text.lower n = op.mnemonic) (line : Statement n [d, c, s] t)
      (hd : IsRegister d rd) (hc : IsCsr c csr) (hs : IsSource op s source) :
      LineGrammar t ⟨.csr op, some ⟨rd, source, csr⟩⟩
  | reading {n t d c : Text} {rd csr : Nat}
      (name : Text.lower n = "csrr".toList) (line : Statement n [d, c] t)
      (hd : IsRegister d rd) (hc : IsCsr c csr) :
      LineGrammar t ⟨.csr ⟨.set, false⟩, some ⟨rd, 0, csr⟩⟩
  | short {n t c s : Text} (op : CsrOp) {source csr : Nat}
      (name : Text.lower n = op.shortMnemonic) (line : Statement n [c, s] t)
      (hc : IsCsr c csr) (hs : IsSource op s source) :
      LineGrammar t ⟨.csr op, some ⟨0, source, csr⟩⟩
  | shortCall {n t s c : Text} (a : Action) {source csr : Nat}
      (name : Text.lower n = CsrOp.shortMnemonic ⟨a, false⟩) (line : Call n [s, c] t)
      (hs : IsRegister s source) (hc : IsCsr c csr) :
      LineGrammar t ⟨.csr ⟨a, false⟩, some ⟨0, source, csr⟩⟩
  | readingCall {n t c d : Text} {rd csr : Nat}
      (name : Text.lower n = "csrr".toList) (line : Call n [c, d] t)
      (hc : IsCsr c csr) (hd : IsRegister d rd) :
      LineGrammar t ⟨.csr ⟨.set, false⟩, some ⟨rd, 0, csr⟩⟩
  | fullCall {n t s c d : Text} (a : Action) {rd source csr : Nat}
      (name : Text.lower n = CsrOp.mnemonic ⟨a, false⟩) (line : Call n [s, c, d] t)
      (hs : IsRegister s source) (hc : IsCsr c csr) (hd : IsRegister d rd) :
      LineGrammar t ⟨.csr ⟨a, false⟩, some ⟨rd, source, csr⟩⟩

/-! ## From the grammar to the line -/

/-- Whether the text is taken apart and filled into a form as the instruction. -/
def Reads (t : Text) (i : Instruction) : Prop :=
  ∃ p, Parts.read? t = some p ∧ p.instruction = .ok i

namespace Reads

variable {f : Form} {n t : Text} {ops : List Text} {i : Instruction}

theorem of_statement (hf : f ∈ Form.statements) (hn : Text.lower n = f.name)
    (hlen : ops.length = f.arity) (h2 : 2 ≤ ops.length) (hops : ∀ o ∈ ops, Parts.IsOperand o)
    (line : Statement n ops t) (hfill : f.fill (ops.map Text.trim) = .ok i) : Reads t i := by
  obtain ⟨blank, rest, hblank, hlist, rfl⟩ := line
  have hname := Form.isName .statement hf hn
  have hopen : '(' ∉ n ++ blank :: rest := by
    rw [List.mem_append, List.mem_cons]
    rintro (hm | rfl | hm)
    · exact hname.opening hm
    · exact absurd hblank (by decide)
    · exact hlist.not_mem (by decide) (by decide) (fun o ho => (hops o ho).opening) hm
  refine ⟨⟨.statement, n, ops.map Text.trim⟩, ?_, ?_⟩
  · exact Parts.read?_eq_statement_iff.mpr ⟨hopen, .inr ⟨blank, rest, hblank, hname.noBlank, rfl,
      (Parts.splitOperands_of_listed hlist h2 hops).symm⟩⟩
  · rw [Form.instruction_eq_fill .statement hf hn (by simpa using hlen), hfill]

theorem read?_call (hn : Parts.IsName n) {blanks : Text} (hblanks : Text.AllBlank blanks)
    (inner : Text) :
    Parts.read? (n ++ blanks ++ '(' :: (inner ++ [')'])) =
      some ⟨.call, n, Parts.splitOperands inner⟩ := by
  have hopen : '(' ∉ n ++ blanks := by
    rw [List.mem_append, not_or]
    exact ⟨hn.opening, fun hm => absurd (hblanks _ hm) (by decide)⟩
  have htrim : Text.trim (n ++ blanks) = n := by
    rw [Text.trim_append_of_allBlank hblanks, Text.trim_of_noBlank hn.noBlank]
  exact Parts.read?_eq_call_iff.mpr ⟨n ++ blanks, inner, hopen, rfl, htrim.symm, rfl⟩

theorem of_call (hf : f ∈ Form.calls) (hn : Text.lower n = f.name)
    (hlen : ops.length = f.arity) (h2 : 2 ≤ ops.length) (hops : ∀ o ∈ ops, Parts.IsOperand o)
    (line : Call n ops t) (hfill : f.fill (ops.map Text.trim) = .ok i) : Reads t i := by
  obtain ⟨blanks, rest, hblanks, hlist, rfl⟩ := line
  refine ⟨_, read?_call (Form.isName .call hf hn) hblanks rest, ?_⟩
  rw [Parts.splitOperands_of_listed hlist h2 hops,
    Form.instruction_eq_fill .call hf hn (by simpa using hlen), hfill]

theorem bare (s : SystemOp) (hn : Text.lower n = s.mnemonic) : Reads n (.bare (.system s)) := by
  have hf := Instruction.bare_mem s
  exact ⟨_, Parts.read?_name (Form.isName .statement hf hn),
    Form.instruction_eq_fill .statement hf hn rfl⟩

theorem returnCall {blanks inner : Text} (hn : Text.lower n = "mret".toList)
    (hblanks : Text.AllBlank blanks) (hinner : Text.AllBlank inner) :
    Reads (n ++ blanks ++ '(' :: (inner ++ [')'])) (.bare (.system .mret)) := by
  have hf : Form.bare .mret ∈ Form.calls := by decide
  refine ⟨_, read?_call (Form.isName .call hf hn) hblanks inner, ?_⟩
  rw [Parts.splitOperands_eq_nil_iff.mpr hinner]
  exact Form.instruction_eq_fill .call hf hn rfl

end Reads

theorem LineGrammar.reads {t : Text} {i : Instruction} (h : LineGrammar t i) : Reads t i := by
  have hzero : IsRegister "zero" 0 := isRegister_zero_iff.mpr rfl
  have hfill : ∀ (op : CsrOp) {d c s : Text} {rd source csr : Nat},
      IsRegister d rd → IsCsr c csr → IsSource op s source →
        Instruction.readOperands op d c s = .ok ⟨.csr op, some ⟨rd, source, csr⟩⟩ :=
    fun _ _ _ _ _ _ _ hd hc hs => Instruction.readOperands_eq_ok_iff.mpr ⟨_, rfl, hd, hc, hs⟩
  cases h with
  | bare s name => exact .bare s name
  | returnCall name before inside => exact .returnCall name before inside
  | full op name line hd hc hs =>
    exact .of_statement (full_mem op) name rfl (by simp)
      (by simp [hd.isOperand, hc.isOperand, hs.isOperand]) line (hfill op hd.trim hc.trim hs.trim)
  | reading name line hd hc =>
    exact .of_statement (f := Form.reading) (by decide) name rfl (by simp)
      (by simp [hd.isOperand, hc.isOperand]) line
      (hfill ⟨.set, false⟩ hd.trim hc.trim hzero)
  | short op name line hc hs =>
    exact .of_statement (short_mem op) name rfl (by simp) (by simp [hc.isOperand, hs.isOperand])
      line (hfill op hzero hc.trim hs.trim)
  | shortCall a name line hs hc =>
    exact .of_call (shortCall_mem a) name rfl (by simp) (by simp [hc.isOperand, hs.isOperand])
      line (hfill ⟨a, false⟩ hzero hc.trim hs.trim)
  | readingCall name line hc hd =>
    exact .of_call (f := Form.readingCall) (by decide) name rfl (by simp)
      (by simp [hd.isOperand, hc.isOperand]) line
      (hfill ⟨.set, false⟩ hd.trim hc.trim hzero)
  | fullCall a name line hs hc hd =>
    exact .of_call (fullCall_mem a) name rfl (by simp)
      (by simp [hd.isOperand, hc.isOperand, hs.isOperand]) line
      (hfill ⟨a, false⟩ hd.trim hc.trim hs.trim)

/-! ## From the line to the grammar -/

namespace Form

theorem mem_statements_iff {f : Form} : f ∈ statements ↔
    (∃ op, f = full op) ∨ (∃ s, f = bare s) ∨ f = reading ∨ ∃ op, f = short op := by
  constructor
  · intro h
    simp only [statements, shortStatements_eq, List.mem_append, List.mem_map, List.mem_cons] at h
    rcases h with (⟨op, -, rfl⟩ | ⟨s, -, rfl⟩) | rfl | ⟨op, -, rfl⟩
    · exact .inl ⟨op, rfl⟩
    · exact .inr (.inl ⟨s, rfl⟩)
    · exact .inr (.inr (.inl rfl))
    · exact .inr (.inr (.inr ⟨op, rfl⟩))
  · rintro (⟨op, rfl⟩ | ⟨s, rfl⟩ | rfl | ⟨op, rfl⟩)
    · exact full_mem op
    · exact Instruction.bare_mem s
    · decide
    · exact short_mem op

theorem mem_registerCalls_iff {f : Form} : f ∈ registerCalls ↔
    (∃ a, f = shortCall ⟨a, false⟩) ∨ f = readingCall ∨ ∃ a, f = fullCall ⟨a, false⟩ := by
  constructor
  · intro h
    have hall : ∀ f ∈ registerCalls,
        (∃ a ∈ [Action.write, .set, .clear], f = shortCall ⟨a, false⟩) ∨
        f = readingCall ∨ ∃ a ∈ [Action.write, .set, .clear], f = fullCall ⟨a, false⟩ := by decide
    rcases hall f h with ⟨a, -, ha⟩ | hf | ⟨a, -, ha⟩
    · exact .inl ⟨a, ha⟩
    · exact .inr (.inl hf)
    · exact .inr (.inr ⟨a, ha⟩)
  · rintro (⟨a, rfl⟩ | rfl | ⟨a, rfl⟩)
    · cases a <;> decide
    · decide
    · cases a <;> decide

theorem mem_calls_iff {f : Form} : f ∈ calls ↔
    (∃ a, f = shortCall ⟨a, false⟩) ∨ f = readingCall ∨ (∃ a, f = fullCall ⟨a, false⟩) ∨
      f = bare .mret := by
  rw [calls, List.mem_append, List.mem_singleton, mem_registerCalls_iff, or_assoc, or_assoc]

/-- Whatever a line taken apart gives, be it refused or not, a form of its style gives
that has its name and takes as many operands, unless there is no such form. -/
theorem exists_form_of_instruction_eq {style : Style} {n : Text} {ops : List Text}
    {result : Except LineError Instruction} (h : Parts.instruction ⟨style, n, ops⟩ = result)
    (hname : .error (style.unknown n) ≠ result)
    (hcount : ∀ expected, .error (.operandCount n expected ops.length) ≠ result) :
    ∃ f ∈ ofStyle style, Text.lower n = f.name ∧ ops.length = f.arity ∧ f.fill ops = result := by
  unfold Parts.instruction at h
  split at h
  · exact absurd h hname
  · next f hfind =>
    split at h
    · exact absurd h (hcount f.arity)
    · next hlen =>
      have hlower : f.name = Text.lower n := by simpa using List.find?_some hfind
      exact ⟨f, List.mem_of_find?_eq_some hfind, hlower.symm, not_not.mp hlen, h⟩

theorem exists_form_of_instruction {style : Style} {n : Text} {ops : List Text} {i : Instruction}
    (h : Parts.instruction ⟨style, n, ops⟩ = .ok i) :
    ∃ f ∈ ofStyle style, Text.lower n = f.name ∧ ops.length = f.arity ∧ f.fill ops = .ok i :=
  exists_form_of_instruction_eq h (by simp) (by simp)

end Form

theorem Reads.lineGrammar {t : Text} {i : Instruction} (ht : Text.trim t = t) (h : Reads t i) :
    LineGrammar t i := by
  obtain ⟨⟨style, n, ops⟩, hread, hi⟩ := h
  obtain ⟨f, hf, hn, hlen, hfill⟩ := Form.exists_form_of_instruction hi
  cases style with
  | statement =>
    -- Where there are operands, a blank stands before them.
    have hline : ops ≠ [] → Statement n ops t := by
      intro hne
      obtain ⟨-, ⟨-, -, hnil⟩ | ⟨blank, rest, hblank, -, rfl, rfl⟩⟩ :=
        Parts.read?_eq_statement_iff.mp hread
      · exact absurd hnil hne
      · exact ⟨blank, rest, hblank, Parts.listed_splitOperands hne, rfl⟩
    rcases Form.mem_statements_iff.mp hf with ⟨op, rfl⟩ | ⟨s, rfl⟩ | rfl | ⟨op, rfl⟩
    · obtain ⟨d, c, s, rfl⟩ := List.length_eq_three.mp hlen
      obtain ⟨o, rfl, hd, hc, hs⟩ := Instruction.readOperands_eq_ok_iff.mp hfill
      exact .full op hn (hline (by simp)) hd hc hs
    · obtain rfl := List.eq_nil_of_length_eq_zero hlen
      cases hfill
      obtain ⟨-, ⟨-, rfl, -⟩ | ⟨blank, rest, hblank, -, rfl, hnil⟩⟩ :=
        Parts.read?_eq_statement_iff.mp hread
      · exact .bare s hn
      · -- The line is trimmed, so no blanks alone follow the name.
        have hrest := Parts.splitOperands_eq_nil_iff.mp hnil.symm
        have hcons := Text.eq_nil_of_trim_append ht (List.forall_mem_cons.mpr ⟨hblank, hrest⟩)
        cases hcons
    · obtain ⟨d, c, rfl⟩ := List.length_eq_two.mp hlen
      obtain ⟨⟨rd, source, csr⟩, rfl, hd, hc, hs⟩ := Instruction.readOperands_eq_ok_iff.mp hfill
      obtain rfl : source = 0 := isRegister_zero_iff.mp hs
      exact .reading hn (hline (by simp)) hd hc
    · obtain ⟨c, s, rfl⟩ := List.length_eq_two.mp hlen
      obtain ⟨⟨rd, source, csr⟩, rfl, hd, hc, hs⟩ := Instruction.readOperands_eq_ok_iff.mp hfill
      obtain rfl : rd = 0 := isRegister_zero_iff.mp hd
      exact .short op hn (hline (by simp)) hc hs
  | call =>
    obtain ⟨front, inner, -, rfl, rfl, hops⟩ := Parts.read?_eq_call_iff.mp hread
    -- The line starts with its name, so blanks stand after the name only.
    obtain ⟨blanks, hblanks, hfront⟩ := Text.exists_eq_trimEnd_append front
    have hname : Text.trim front = Text.trimEnd front := by
      rw [Text.trim, Text.trimStart_of_trim_append ht]
    rw [← hname] at hfront
    have hline : ops ≠ [] → Call (Text.trim front) ops (front ++ '(' :: (inner ++ [')'])) := by
      intro hne
      rw [hops] at hne ⊢
      exact ⟨blanks, inner, hblanks, Parts.listed_splitOperands hne, by rw [← hfront]⟩
    rcases Form.mem_calls_iff.mp hf with ⟨a, rfl⟩ | rfl | ⟨a, rfl⟩ | rfl
    · obtain ⟨s, c, rfl⟩ := List.length_eq_two.mp hlen
      obtain ⟨⟨rd, source, csr⟩, rfl, hd, hc, hs⟩ := Instruction.readOperands_eq_ok_iff.mp hfill
      obtain rfl : rd = 0 := isRegister_zero_iff.mp hd
      exact .shortCall a hn (hline (by simp)) hs hc
    · obtain ⟨c, d, rfl⟩ := List.length_eq_two.mp hlen
      obtain ⟨⟨rd, source, csr⟩, rfl, hd, hc, hs⟩ := Instruction.readOperands_eq_ok_iff.mp hfill
      obtain rfl : source = 0 := isRegister_zero_iff.mp hs
      exact .readingCall hn (hline (by simp)) hc hd
    · obtain ⟨s, c, d, rfl⟩ := List.length_eq_three.mp hlen
      obtain ⟨o, rfl, hd, hc, hs⟩ := Instruction.readOperands_eq_ok_iff.mp hfill
      exact .fullCall a hn (hline (by simp)) hs hc hd
    · obtain rfl := List.eq_nil_of_length_eq_zero hlen
      cases hfill
      have hinner := Parts.splitOperands_eq_nil_iff.mp hops.symm
      rw [hfront]
      exact .returnCall hn hblanks hinner

/-- The code of a line denotes what it is read as, and nothing else. -/
theorem lineGrammar_iff {t : Text} {i : Instruction} (ht : Text.trim t = t) :
    LineGrammar t i ↔ Reads t i :=
  ⟨LineGrammar.reads, Reads.lineGrammar ht⟩

/-! ## Lines -/

theorem LineGrammar.fits {t : Text} {i : Instruction} (h : LineGrammar t i) : i.Fits := by
  cases h with
  | bare s | returnCall => exact .system _
  | full op _ _ hd hc hs => exact .csr op ⟨hd.lt, hs.lt, hc.lt⟩
  | reading _ _ hd hc => exact .csr _ ⟨hd.lt, Nat.succ_pos 31, hc.lt⟩
  | short op _ _ hc hs => exact .csr op ⟨Nat.succ_pos 31, hs.lt, hc.lt⟩
  | shortCall a _ _ hs hc => exact .csr _ ⟨Nat.succ_pos 31, hs.lt, hc.lt⟩
  | readingCall _ _ hc hd => exact .csr _ ⟨hd.lt, Nat.succ_pos 31, hc.lt⟩
  | fullCall a _ _ hs hc hd => exact .csr _ ⟨hd.lt, hs.lt, hc.lt⟩

theorem LineGrammar.ne_nil {t : Text} {i : Instruction} (h : LineGrammar t i) : t ≠ [] := by
  rintro rfl
  obtain ⟨p, hread, hi⟩ := h.reads
  cases hread
  cases hi

theorem Parts.trim_code (line : Text) : Text.trim (code line) = code line := Text.trim_trim _

theorem readLine_of_grammar {line : Text} {i : Instruction} (h : LineGrammar (Parts.code line) i) :
    readLine line = i.checked.map some := by
  obtain ⟨p, hread, hi⟩ := h.reads
  rw [readLine_eq h.ne_nil hread, hi]
  rfl

/-- What a line is read as: nothing if its code is empty, and else an
instruction that has a word. -/
theorem code_of_readLine {line : Text} {i? : Option Instruction} (h : readLine line = .ok i?) :
    (i? = none ∧ Parts.code line = []) ∨
      ∃ i w, i? = some i ∧ Reads (Parts.code line) i ∧ i.encode = .ok w := by
  by_cases hne : Parts.code line = []
  · rw [readLine, if_pos hne] at h
    exact .inl ⟨(Except.ok.inj h).symm, hne⟩
  · cases hread : Parts.read? (Parts.code line) with
    | none =>
      rw [readLine, if_neg hne, hread] at h
      cases h
    | some p =>
      rw [readLine_eq hne hread] at h
      cases hi : p.instruction with
      | error e => rw [hi] at h; cases h
      | ok i =>
        cases henc : i.encode with
        | error e =>
          have hcheck := Instruction.checked_of_encode_error henc
          simp [hi, hcheck, bind, Except.bind, Except.map] at h
        | ok w =>
          have hcheck := Instruction.checked_of_encode henc
          simp only [hi, hcheck, bind, Except.bind, Except.map, Except.ok.injEq] at h
          exact .inr ⟨i, w, h.symm, ⟨p, hread, hi⟩, henc⟩

/-- A line is read exactly by the grammar. Its code is what stands before the
leftmost comment mark, trimmed; it is blank exactly if the code is empty, and it
is an instruction exactly if its code denotes the instruction and no read-only
register is written. A line that would write one is refused for that. -/
theorem readLine_grammar (line : Text) :
    (∃ k, Parts.code line = Text.trim (line.take k) ∧
      (∀ j < k, ¬ Parts.Marked (line.drop j)) ∧ (k = line.length ∨ Parts.Marked (line.drop k))) ∧
    (readLine line = .ok none ↔ Parts.code line = []) ∧
    (∀ i, readLine line = .ok (some i) ↔
      LineGrammar (Parts.code line) i ∧ i.readOnlyTarget? = none) ∧
    (∀ i a, LineGrammar (Parts.code line) i → i.readOnlyTarget? = some a →
      readLine line = .error (.encode (.readOnlyWrite a))) := by
  refine ⟨?code, ?blank, ?accepted, ?refused⟩
  case code =>
    obtain ⟨k, htake, hk⟩ := Parts.dropComment_eq_take line
    exact ⟨k, by rw [Parts.code, htake], hk⟩
  case blank =>
    constructor
    · intro h
      rcases code_of_readLine h with ⟨-, hcode⟩ | ⟨i, w, hi, -⟩
      · exact hcode
      · cases hi
    · intro hcode
      rw [readLine, if_pos hcode]
  case accepted =>
    intro i
    constructor
    · intro h
      rcases code_of_readLine h with ⟨hnone, -⟩ | ⟨j, w, hj, hreads, henc⟩
      · cases hnone
      · cases hj
        have hgrammar := (lineGrammar_iff (Parts.trim_code line)).mpr hreads
        refine ⟨hgrammar, ?_⟩
        -- It has a word, so it is not refused.
        cases ht : i.readOnlyTarget? with
        | none => rfl
        | some a =>
          rw [hgrammar.fits.encode_error ht] at henc
          cases henc
    · intro h
      obtain ⟨hgrammar, ht⟩ := h
      obtain ⟨w, henc⟩ := hgrammar.fits.exists_encode ht
      rw [readLine_of_grammar hgrammar, Instruction.checked_of_encode henc]
      rfl
  case refused =>
    intro i a h ht
    rw [readLine_of_grammar h, Instruction.checked_of_encode_error (h.fits.encode_error ht)]
    rfl

/-- A call in mixed case with blanks and a comment, and a statement that would
write a counter. -/
theorem readLine_grammar_counter :
    readLine " CsrRs\t( x0 , cycle,\u2003a0 )  // count # twice" =
      .ok (some ⟨.csr ⟨.set, false⟩, some ⟨10, 0, 0xC00⟩⟩) ∧
    readLine "csrrwi a0, 0b1100_0000_0000, 31" = .error (.encode (.readOnlyWrite 0xC00)) := by
  have hcall : LineGrammar (Parts.code " CsrRs\t( x0 , cycle,\u2003a0 )  // count # twice")
      ⟨.csr ⟨.set, false⟩, some ⟨10, 0, 0xC00⟩⟩ :=
    .fullCall (n := "CsrRs") (s := " x0 ") (c := " cycle") (d := "\u2003a0 ") .set (by decide)
      ⟨"\t", _, by decide, Text.listed_intercalate _, by decide⟩
      ⟨⟨0, by decide⟩, by decide, rfl⟩ ⟨⟨0xC00, by decide⟩, by decide, rfl⟩
      ⟨⟨10, by decide⟩, by decide, rfl⟩
  have hstatement : LineGrammar (Parts.code "csrrwi a0, 0b1100_0000_0000, 31")
      ⟨.csr ⟨.write, true⟩, some ⟨10, 31, 0xC00⟩⟩ :=
    .full (n := "csrrwi") (d := "a0") (c := " 0b1100_0000_0000") (s := " 31") ⟨.write, true⟩
      (by decide) ⟨' ', _, rfl, Text.listed_intercalate _, by decide⟩
      ⟨⟨10, by decide⟩, by decide, rfl⟩ ⟨⟨0xC00, by decide⟩, by decide, rfl⟩ ⟨by decide, by decide⟩
  exact ⟨((readLine_grammar _).2.2.1 _).mpr ⟨hcall, rfl⟩,
    (readLine_grammar _).2.2.2 _ _ hstatement rfl⟩

end Zicsr
