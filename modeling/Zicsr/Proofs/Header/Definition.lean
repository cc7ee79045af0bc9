import Mathlib.Algebra.Ring.Nat
import Zicsr.Header.Basic
import Zicsr.Instruction.Form
import Zicsr.Text.Split

/-
  Definitions of words, and what they are worth.

  A line that defines a word gives it a name, perhaps parameters, and an
  expression of sums and shifts, where a shift binds tighter than a sum. The
  expression has a value once the names in it have: `Definition.value?` gives
  the parameters the values of the arguments at their places and computes modulo
  2³². The lines that a header writes for its calls are such definitions
  (`map_read?_callLines`), and they are worth the word that the form of the call packs
  from the same arguments (`value?_definition`).
-/

namespace Zicsr

/-! ## Expressions -/

/-- Sums and shifts of numbers and names. -/
inductive Expression where
  | number (n : Nat)
  | name (t : Text)
  | sum (a b : Expression)
  | shift (a b : Expression)
  deriving DecidableEq, Repr

namespace Expression

/-- The value modulo 2³², if all names have one. -/
def value? (names : Text → Option (BitVec 32)) : Expression → Option (BitVec 32)
  | number n => some (.ofNat 32 n)
  | name t => names t
  | sum a b => do return (← a.value? names) + (← b.value? names)
  | shift a b => do return (← a.value? names) <<< (← b.value? names).toNat

/-- The pieces of a text between the marks of a shift. -/
def splitShifts : Text → List Text
  | [] => [[]]
  | '<' :: '<' :: rest => [] :: splitShifts rest
  | c :: rest => (splitShifts rest).modifyHead (c :: ·)

/-- A number, or a name made of letters. -/
def atom? (t : Text) : Option Expression :=
  match Numeral.read t with
  | .ok n => some (number n)
  | .error _ =>
    let letters := Text.trim t
    if letters ≠ [] ∧ letters.all Char.isAlpha then some (name letters) else none

/-- The expressions joined from the left. -/
def chain? (join : Expression → Expression → Expression) : List Expression → Option Expression
  | [] => none
  | first :: more => some (more.foldl join first)

/-- The expression of a text without a sum. -/
def term? (t : Text) : Option Expression := ((splitShifts t).mapM atom?).bind (chain? shift)

/-- The expression of a text. -/
def read? (t : Text) : Option Expression :=
  ((Text.split (· == '+') t).mapM term?).bind (chain? sum)

end Expression

/-! ## Definitions -/

/-- A word with a name, in terms of parameters. -/
structure Definition where
  name : Text
  parameters : List Text
  body : Expression
  deriving DecidableEq, Repr

namespace Definition

/-- The name and the parameters of a definition. -/
def readHead? (t : Text) : Option (Text × List Text) :=
  match Text.cutAt? (· == '(') t with
  | none => some (t, [])
  | some (name, rest) =>
    (Text.dropEnd? ')' rest).map (fun parameters => (name, Text.split (· == ',') parameters))

/-- The expression of a text that may stand in parentheses. -/
def readBody? : Text → Option Expression
  | '(' :: rest => (Text.dropEnd? ')' rest).bind Expression.read?
  | t => Expression.read? t

/-- The definition that a line gives of a word: `#define`, the name with its
parameters, and `WORD` with the expression after a dollar sign. Other lines give
none. -/
def read? (line : Text) : Option Definition :=
  match Text.cutAt? (· == '$') line with
  | none => none
  | some (front, body) =>
    match Text.words front with
    | [directive, head, word] =>
      if directive = "#define".toList ∧ word = "WORD".toList then do
        let (name, parameters) ← readHead? head
        return ⟨name, parameters, ← readBody? body⟩
      else none
    | _ => none

/-- The value for arguments, each put for the parameter at its place. -/
def value? (d : Definition) (args : List (BitVec 32)) : Option (BitVec 32) :=
  if args.length = d.parameters.length then
    d.body.value? (fun t => (d.parameters.zip args).lookup t)
  else none

end Definition

/-- The definitions of words in a text, in order. -/
def definitions (t : Text) : List Definition := (Text.lines t).filterMap Definition.read?

/-! ## The calls of a header -/

/-- The name of the parameter that stands for an operand. -/
def Slot.parameter : Slot → Text
  | .rd => "RD"
  | .csr => "CSR"
  | .source => "RS"

/-- The place of the operand's lowest bit. -/
def Slot.shift : Slot → Nat
  | .rd => 7
  | .csr => 20
  | .source => 15

/-- A base and the parameters added to it, each with its shift. -/
structure Formula where
  base : BitVec 32
  terms : List (Slot × Nat)

/-- The value for given parameters, modulo 2³². -/
def Formula.value (f : Formula) (parameters : Slot → BitVec 32) : BitVec 32 :=
  f.terms.foldl (fun sum (slot, shift) => sum + parameters slot <<< shift) f.base

/-- The word of the form's operation with every operand zero. -/
def Form.base (f : Form) : BitVec 32 := f.word []

/-- The formula of a form: its operands in the order of their places. -/
def Form.formula (f : Form) : Formula :=
  ⟨f.base, ([.rd, .source, .csr].filter (· ∈ f.slots)).map (fun slot => (slot, slot.shift))⟩

/-- The sum of an expression and a shifted parameter. -/
def Expression.addTerm (e : Expression) : Slot × Nat → Expression
  | (slot, places) => sum e (shift (name slot.parameter) (number places))

/-- The expression of a formula: each term is added to what stands before it. -/
def Formula.expression (f : Formula) : Expression :=
  f.terms.foldl Expression.addTerm (.number f.base.toNat)

/-- The definition of a call in terms of its operands. -/
def Form.definition (f : Form) : Definition :=
  ⟨Text.upper f.name, f.slots.map Slot.parameter, f.formula.expression⟩

/-- The definition of the return from a machine-mode trap. -/
def Header.returnDefinition : Definition := ⟨"MRET", [], .number SystemOp.mret.word.toNat⟩

/-- The calls in the order of the header: reading stands second. -/
def Header.callForms : List Form :=
  [.shortCall ⟨.write, false⟩, .readingCall, .shortCall ⟨.set, false⟩, .shortCall ⟨.clear, false⟩,
   .fullCall ⟨.write, false⟩, .fullCall ⟨.set, false⟩, .fullCall ⟨.clear, false⟩]

/-- The lines of the calls are read as the definitions that the forms give. -/
theorem Definition.map_read?_callLines :
    Header.callLines.map read? = (Header.callForms.map Form.definition).map some := by
  decide

example : Definition.read? "#define CSRR(CSR,RD) WORD $(0x2073 + RD<<7 + CSR<<20)" =
    some ⟨"CSRR", ["CSR", "RD"],
      .sum (.sum (.number 0x2073) (.shift (.name "RD") (.number 7)))
        (.shift (.name "CSR") (.number 20))⟩ := by
  decide

theorem Definition.read?_returnLine : read? Header.returnLine = some Header.returnDefinition := by
  decide

/-! ## The value of a formula -/

theorem Slot.parameter_injective : Function.Injective Slot.parameter := by
  intro a b
  cases a <;> cases b <;> decide

section Terms

variable {names : Text → Option (BitVec 32)} {parameters : Slot → BitVec 32}

theorem Expression.value?_addTerm {e : Expression} {v : BitVec 32} {slot : Slot} {places : Nat}
    (he : e.value? names = some v) (hname : names slot.parameter = some (parameters slot))
    (hplaces : places < 2 ^ 32) :
    (e.addTerm (slot, places)).value? names = some (v + parameters slot <<< places) := by
  have hmod : (BitVec.ofNat 32 places).toNat = places := by
    rw [BitVec.toNat_ofNat, Nat.mod_eq_of_lt hplaces]
  simp only [addTerm, value?, he, hname, bind, Option.bind, pure, hmod]

/-- The expression of a formula has the value of the formula. -/
theorem Formula.value?_expression (f : Formula)
    (hterms : ∀ term ∈ f.terms,
      names term.1.parameter = some (parameters term.1) ∧ term.2 < 2 ^ 32) :
    f.expression.value? names = some (f.value parameters) := by
  obtain ⟨base, terms⟩ := f
  have hbase : (Expression.number base.toNat).value? names = some base := by
    rw [Expression.value?, BitVec.ofNat_toNat, BitVec.setWidth_eq]
  unfold expression value
  generalize Expression.number base.toNat = e at hbase
  -- Both sums grow from the left, term by term.
  induction terms generalizing e base with
  | nil => exact hbase
  | cons term terms ih =>
    obtain ⟨⟨hname, hplaces⟩, hrest⟩ := List.forall_mem_cons.mp hterms
    exact ih _ hrest _ (Expression.value?_addTerm hbase hname hplaces)

end Terms

namespace Form

variable {f : Form} {args : List (BitVec 32)} {slot : Slot}

theorem operand_of_not_mem {α : Type} {missing : α} {given : List α} (h : slot ∉ f.slots) :
    f.operand missing given slot = missing := by
  have hnone : (f.slots.zip given).lookup slot = none := by
    refine List.lookup_eq_none_iff.mpr fun pair hpair => ?_
    rw [bne_iff_ne]
    rintro rfl
    exact h (List.of_mem_zip hpair).1
  rw [operand, hnone, Option.getD_none]

theorem lookup_parameter (h : slot ∈ f.slots) (hlen : args.length = f.slots.length) :
    ((f.slots.map Slot.parameter).zip args).lookup slot.parameter =
      some (f.operand 0 args slot) := by
  unfold operand
  generalize f.slots = slots at h hlen
  induction slots generalizing args with
  | nil => cases h
  | cons s slots ih =>
    obtain _ | ⟨a, args⟩ := args
    · cases hlen
    rw [List.map_cons, List.zip_cons_cons, List.zip_cons_cons, List.lookup_cons, List.lookup_cons]
    by_cases hs : slot = s
    · subst hs
      simp
    · have hparameter : slot.parameter ≠ s.parameter := fun heq => hs (Slot.parameter_injective heq)
      rw [beq_false_of_ne hs, beq_false_of_ne hparameter]
      exact ih ((List.mem_cons.mp h).resolve_left hs) (Nat.succ.inj hlen)

theorem foldl_filter_slots (l : List Slot) (v : BitVec 32) :
    ((l.filter (· ∈ f.slots)).map (fun slot => (slot, slot.shift))).foldl
        (fun sum (slot, places) => sum + f.operand 0 args slot <<< places) v =
      l.foldl (fun sum slot => sum + f.operand 0 args slot <<< slot.shift) v := by
  induction l generalizing v with
  | nil => rfl
  | cons slot l ih =>
    by_cases h : slot ∈ f.slots
    · rw [List.filter_cons_of_pos (by simpa using h)]
      exact ih _
    · have hzero : v + (0 : BitVec 32) <<< slot.shift = v := by simp
      rw [List.filter_cons_of_neg (by simpa using h), ih, List.foldl_cons, operand_of_not_mem h,
        hzero]

/-- The word of a form is the value of its formula. -/
theorem word_eq_formula_value {op : CsrOp} (hop : f.op = .csr op) :
    f.word args = f.formula.value (f.operand 0 args) := by
  have hbase : f.base = Word.systemOpcode + BitVec.ofNat 32 op.funct3 <<< 12 := by
    simp [base, word, hop, operand, Word.pack]
  rw [Formula.value, formula, foldl_filter_slots, hbase]
  simp only [word, hop, Word.pack, List.foldl, Slot.shift]

/-- The definition of a call is worth the word that the form packs from the
arguments. -/
theorem value?_definition {op : CsrOp} (hop : f.op = .csr op) (hlen : args.length = f.arity) :
    f.definition.value? args = some (f.word args) := by
  have hparameters : args.length = (f.slots.map Slot.parameter).length := by
    rw [List.length_map, f.length_slots]
    exact hlen
  rw [Definition.value?, definition, if_pos hparameters, word_eq_formula_value hop]
  refine Formula.value?_expression _ fun term hterm => ?_
  obtain ⟨slot, hslot, rfl⟩ := List.mem_map.mp hterm
  have hmem : slot ∈ f.slots := by simpa using (List.mem_filter.mp hslot).2
  refine ⟨lookup_parameter hmem (hlen.trans f.length_slots.symm), ?_⟩
  cases slot <;> decide

end Form

end Zicsr
