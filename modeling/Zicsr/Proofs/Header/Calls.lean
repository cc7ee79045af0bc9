import Zicsr.Proofs.Assembly.Grammar
import Zicsr.Proofs.Assembly.Listing
import Zicsr.Proofs.Header.Lines

/-
  Calls in a header and on a line.

  A call is said three times: a header defines it, a line may use it, and its
  form packs its operands into a word. The definition is worth the word of the
  form for any arguments (`Form.value?_definition`). A line that calls it with the
  texts of registers and CSRs denotes the instruction of that word
  (`Form.grammar_call`), so it is assembled as the word, or refused for a write of
  a read-only register (`assembleLine_of_grammar`). So all three agree on each
  call of a header (`Header.calls_agree`).
-/

namespace Zicsr

/-! ## Lines that are calls -/

theorem Parts.code_of_call {n t : Text} {ops : List Text} (hn : IsName n)
    (hops : ∀ o ∈ ops, (Text.trim o).Plain) (line : Call n ops t) : code t = t := by
  obtain ⟨blanks, rest, hblanks, hlist, rfl⟩ := line
  have hno : ∀ c : Char, Text.isPlain c = false → Text.isBlank c = false → c ∉ [',', '(', ')'] →
      c ∉ n → c ∉ n ++ (blanks ++ '(' :: rest ++ [')']) := by
    intro c hplain hblank hmarks hname
    simp only [List.mem_cons, List.not_mem_nil, or_false, not_or] at hmarks
    obtain ⟨hcomma, hopen, hclose⟩ := hmarks
    have hrest : c ∉ rest := hlist.not_mem hblank hcomma fun o ho =>
      (Text.padded_trim o).not_mem hblank ((hops o ho).not_mem hplain)
    have hblanks : c ∉ blanks := fun hm => by
      have hc := hblanks c hm
      simp [hblank] at hc
    simp [hname, hblanks, hrest, hopen, hclose]
  have huncommented := uncommented_of_not_mem
    (hno '#' (by decide) (by decide) (by decide) hn.hash)
    (hno '/' (by decide) (by decide) (by decide) hn.slash)
  have hcode := code_closed hn huncommented
  simpa using hcode

/-- A line whose code denotes the instruction of a word is assembled as the word,
unless that writes a read-only register. -/
theorem assembleLine_of_grammar {line : Text} {i : Instruction} {w : BitVec 32}
    (h : LineGrammar (Parts.code line) i) (hw : Instruction.decode? w = some i) :
    assembleLine line = match i.readOnlyTarget? with
      | some a => .error (.encode (.readOnlyWrite a))
      | none => .ok (some w) := by
  have henc := Instruction.encode_eq_of_decode? hw
  cases ht : i.readOnlyTarget? with
  | some a =>
    rw [ht] at henc
    rw [assembleLine, readLine_of_grammar h, Instruction.checked_of_encode_error henc]
    rfl
  | none =>
    rw [ht] at henc
    refine assembleLine_of_readLine ?_ henc
    rw [readLine_of_grammar h, Instruction.checked_of_encode henc]
    rfl

/-! ## Arguments -/

/-- A text that is read as an operand of a call. -/
inductive CallArgument where
  | register (t : Text) (r : Register) (read : Register.read? t = some r)
  | csr (t : Text) (c : Csr) (read : Csr.read? t = some c)

namespace CallArgument

def text : CallArgument → Text
  | register t _ _ => t
  | csr t _ _ => t

/-- The number of the register, or the address of the CSR. -/
def number : CallArgument → Nat
  | register _ r _ => r.index
  | csr _ c _ => c.address

def value (a : CallArgument) : BitVec 32 := .ofNat 32 a.number

/-- Whether the argument may be put for the parameter. -/
def Fits : CallArgument → Text → Prop
  | register .., parameter => parameter ∈ (["RS", "RD"] : List Text)
  | csr .., parameter => parameter = "CSR".toList

instance : (a : CallArgument) → (parameter : Text) → Decidable (a.Fits parameter)
  | register .., parameter => inferInstanceAs (Decidable (parameter ∈ (["RS", "RD"] : List Text)))
  | csr .., parameter => inferInstanceAs (Decidable (parameter = "CSR".toList))

variable {a : CallArgument}

theorem Fits.isRegister {parameter : Text} (h : a.Fits parameter)
    (hp : parameter ≠ "CSR".toList) : IsRegister a.text a.number := by
  cases a with
  | register t r read => exact ⟨r, read, rfl⟩
  | csr t c read => exact absurd h hp

theorem Fits.isCsr (h : a.Fits "CSR") : IsCsr a.text a.number := by
  cases a with
  | register t r read =>
    have hno : "CSR".toList ∉ (["RS", "RD"] : List Text) := by decide
    exact absurd h hno
  | csr t c read => exact ⟨c, read, rfl⟩

theorem plain_trim (a : CallArgument) : (Text.trim a.text).Plain := by
  cases a with
  | register t r read => exact IsRegister.plain_trim ⟨r, read, rfl⟩
  | csr t c read => exact IsCsr.plain_trim ⟨c, read, rfl⟩

end CallArgument

/-! ## Calls of a definition -/

/-- The text of a call: the name, and the arguments in parentheses with commas
between them. -/
def Definition.call (d : Definition) (args : List Text) : Text :=
  d.name ++ '(' :: (List.intercalate [','] args ++ [')'])

theorem Definition.isCall_call (d : Definition) (args : List Text) :
    Call d.name args (d.call args) :=
  ⟨[], _, by decide, Text.listed_intercalate args, by rw [List.append_nil]; rfl⟩

/-- The operands that a form makes of numbers; what it leaves out is zero. -/
def Form.numbered (f : Form) (numbers : List Nat) : Operands :=
  ⟨f.operand 0 numbers .rd, f.operand 0 numbers .source, f.operand 0 numbers .csr⟩

theorem Form.operand_map {α β : Type} (f : Form) (g : α → β) (missing : α) (given : List α)
    (slot : Slot) :
    f.operand (g missing) (given.map g) slot = g (f.operand missing given slot) := by
  have hlookup : ∀ (slots : List Slot) (given : List α),
      (slots.zip (given.map g)).lookup slot = ((slots.zip given).lookup slot).map g := by
    intro slots
    induction slots with
    | nil => intro given; rfl
    | cons s slots ih =>
      intro given
      cases given with
      | nil => rfl
      | cons a given =>
        rw [List.map_cons, List.zip_cons_cons, List.zip_cons_cons, List.lookup_cons,
          List.lookup_cons, ih]
        cases slot == s <;> rfl
  rw [operand, operand, hlookup, Option.getD_map]

theorem Form.word_eq_pack {f : Form} {op : CsrOp} (hop : f.op = .csr op) (numbers : List Nat) :
    f.word (numbers.map (BitVec.ofNat 32)) = op.pack (f.numbered numbers) := by
  have hoperand : ∀ slot, f.operand (0 : BitVec 32) (numbers.map (BitVec.ofNat 32)) slot =
      .ofNat 32 (f.operand 0 numbers slot) := f.operand_map (BitVec.ofNat 32) 0 numbers
  simp only [word, hop, hoperand, CsrOp.pack, numbered]

theorem Form.grammar_call {f : Form} {args : List CallArgument} (hf : f ∈ registerCalls)
    (hargs : List.Forall₂ (fun a slot => CallArgument.Fits a slot.parameter) args f.slots) :
    ∃ op, f.op = .csr op ∧ LineGrammar (f.definition.call (args.map CallArgument.text))
      ⟨.csr op, some (f.numbered (args.map CallArgument.number))⟩ := by
  have hline := f.definition.isCall_call (args.map CallArgument.text)
  have hname : Text.lower f.definition.name = f.name := by
    have hnames : ∀ f ∈ registerCalls, Text.lower f.definition.name = f.name := by decide
    exact hnames f hf
  -- The arguments stand in the order of the slots, so each is read for its own slot.
  rcases mem_registerCalls_iff.mp hf with ⟨a, rfl⟩ | rfl | ⟨a, rfl⟩
  · obtain _ | ⟨hs, _ | ⟨hc, _ | _⟩⟩ := hargs
    exact ⟨_, rfl, .shortCall a hname hline (hs.isRegister (by decide)) hc.isCsr⟩
  · obtain _ | ⟨hc, _ | ⟨hd, _ | _⟩⟩ := hargs
    exact ⟨_, rfl, .readingCall hname hline hc.isCsr (hd.isRegister (by decide))⟩
  · obtain _ | ⟨hs, _ | ⟨hc, _ | ⟨hd, _ | _⟩⟩⟩ := hargs
    exact ⟨_, rfl, .fullCall a hname hline (hs.isRegister (by decide)) hc.isCsr
      (hd.isRegister (by decide))⟩

/-! ## Agreement -/

/-- Whether a definition, a form and the lines that call it agree: the definition
is worth the word of the form for any arguments, and a call with the texts of
arguments is read as that word, unless its instruction writes a read-only
register. -/
structure Definition.Agrees (d : Definition) (f : Form) : Prop where
  value : ∀ args : List (BitVec 32), args.length = d.parameters.length →
    d.value? args = some (f.word args)
  call : ∀ args : List CallArgument, List.Forall₂ CallArgument.Fits args d.parameters →
    ∃ i, Instruction.decode? (f.word (args.map CallArgument.value)) = some i ∧
      assembleLine (d.call (args.map CallArgument.text)) = match i.readOnlyTarget? with
        | some a => .error (.encode (.readOnlyWrite a))
        | none => .ok (some (f.word (args.map CallArgument.value)))

theorem Form.code_call {f : Form} (hf : f ∈ registerCalls) (args : List CallArgument) :
    Parts.code (f.definition.call (args.map CallArgument.text)) =
      f.definition.call (args.map CallArgument.text) := by
  have hplain : ∀ f ∈ registerCalls, f.definition.name.Plain ∧ f.definition.name ≠ [] := by
    decide
  obtain ⟨hname, hne⟩ := hplain f hf
  refine Parts.code_of_call (hname.isName hne) ?_ (f.definition.isCall_call _)
  exact List.forall_mem_map.mpr fun a _ => a.plain_trim

/-- The definition of a call, its form and the lines that call it agree. -/
theorem Form.agrees {f : Form} (hf : f ∈ registerCalls) : f.definition.Agrees f where
  value args hlen := by
    obtain ⟨op, hop⟩ : ∃ op, f.op = .csr op := by
      rcases mem_registerCalls_iff.mp hf with ⟨a, rfl⟩ | rfl | ⟨a, rfl⟩ <;> exact ⟨_, rfl⟩
    refine value?_definition hop (hlen.trans ?_)
    rw [definition, List.length_map, f.length_slots]
  call args hargs := by
    obtain ⟨op, hop, hgrammar⟩ := grammar_call hf (List.forall₂_map_right_iff.mp hargs)
    have hfit : (f.numbered (args.map CallArgument.number)).Fit := by
      cases hgrammar.fits with
      | csr op fit => exact fit
    have hword : f.word (args.map CallArgument.value) =
        op.pack (f.numbered (args.map CallArgument.number)) := by
      rw [← word_eq_pack hop, List.map_map]
      rfl
    have hdecode := Instruction.decode?_pack op hfit
    rw [← hword] at hdecode
    refine ⟨_, hdecode, assembleLine_of_grammar ?_ hdecode⟩
    rw [code_call hf]
    exact hgrammar

/-- The names of the calls that take operands. -/
def Header.callNames : List Text := ["CSRW", "CSRR", "CSRS", "CSRC", "CSRRW", "CSRRS", "CSRRC"]

/-- Each call of a header agrees with the encoder of its name: a header has one
definition of it, with as many parameters as the encoder has operands, that
agrees with the form. What it defines as the return is the word of a line that
returns. -/
theorem Header.calls_agree (h : Header) :
    (∀ name ∈ callNames,
      ∃ d f, (definitions h.text).filter (·.name = name) = [d] ∧
        Form.find? Form.encoders name = some f ∧ d.parameters.length = f.arity ∧ d.Agrees f) ∧
    (∃ d w, (definitions h.text).filter (·.name = "MRET".toList) = [d] ∧ d.parameters = [] ∧
      d.value? [] = some w ∧
      assembleLine "MRET" = .ok (some w) ∧ assembleLine "MRET()" = .ok (some w)) := by
  rw [definitions_text]
  refine ⟨?calls, ?returns⟩
  case calls =>
    -- Each name is that of one encoder, and one definition has it.
    have hcalls : ∀ name ∈ callNames, ∃ f ∈ Form.registerCalls,
        Form.find? Form.encoders name = some f ∧
        (callForms.map Form.definition ++ [returnDefinition]).filter (·.name = name) =
          [f.definition] := by
      decide
    intro name hname
    obtain ⟨f, hf, hfind, hfilter⟩ := hcalls name hname
    refine ⟨f.definition, f, hfilter, hfind, ?_, Form.agrees hf⟩
    rw [Form.definition, List.length_map, f.length_slots]
  case returns =>
    exact ⟨returnDefinition, SystemOp.mret.word, by decide, rfl, by decide,
      by decide, by decide⟩

/-- A definition for arguments that carry, and two calls of it with the cycle
counter: one that reads it, and one that would set bits of it. -/
theorem Header.calls_agree_counter :
    ∃ d, (definitions standard.text).filter (·.name = "CSRRS".toList) = [d] ∧
      d.value? [0xffffffff#32, 0x1001#32, 33#32] = some 0x000fb0f3#32 ∧
      assembleLine (d.call ["zero", " cycle", "\ta0 "]) = .ok (some 0xc0002573#32) ∧
      assembleLine (d.call ["t0", "0xc00", "x10"]) = .error (.encode (.readOnlyWrite 0xC00)) := by
  obtain ⟨d, f, hd, hf, -, hagrees⟩ := standard.calls_agree.1 "CSRRS" (by decide)
  have hform : Form.find? Form.encoders "CSRRS" = some (.fullCall ⟨.set, false⟩) := by
    decide
  obtain rfl := Option.some.inj (hf.symm.trans hform)
  have hdefinition : (definitions standard.text).filter (·.name = "CSRRS".toList) =
      [(Form.fullCall ⟨.set, false⟩).definition] := by
    rw [definitions_text]
    decide
  obtain rfl := List.singleton_injective (hd.symm.trans hdefinition)
  refine ⟨_, hd, hagrees.value [0xffffffff#32, 0x1001#32, 33#32] rfl, ?reads, ?writes⟩
  case reads =>
    obtain ⟨i, hi, hline⟩ := hagrees.call
      [.register "zero" ⟨0, by decide⟩ (by decide), .csr " cycle" ⟨0xC00, by decide⟩ (by decide),
        .register "\ta0 " ⟨10, by decide⟩ (by decide)]
      (.cons (by decide) (.cons rfl (.cons (by decide) .nil)))
    have hdecode : Instruction.decode? 0xc0002573#32 =
        some ⟨.csr ⟨.set, false⟩, some ⟨10, 0, 0xC00⟩⟩ := by decide
    obtain rfl := Option.some.inj (hi.symm.trans hdecode)
    exact hline
  case writes =>
    obtain ⟨i, hi, hline⟩ := hagrees.call
      [.register "t0" ⟨5, by decide⟩ (by decide), .csr "0xc00" ⟨0xC00, by decide⟩ (by decide),
        .register "x10" ⟨10, by decide⟩ (by decide)]
      (.cons (by decide) (.cons rfl (.cons (by decide) .nil)))
    have hdecode : Instruction.decode? 0xc002a573#32 =
        some ⟨.csr ⟨.set, false⟩, some ⟨10, 5, 0xC00⟩⟩ := by decide
    obtain rfl := Option.some.inj (hi.symm.trans hdecode)
    exact hline

end Zicsr
