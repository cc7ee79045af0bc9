import Zicsr.Instruction.Form

/-
  The text of an instruction.

  The canonical text names the operation and all its operands. The alias text
  uses `csrr` for a set with source zero, and otherwise the short form where the
  destination is zero; an instruction that has neither keeps its canonical text.
-/

namespace Zicsr.Instruction

def operandText (op : Op) (o : Operands) : Slot → Text
  | .rd => Register.nameOf o.rd
  | .csr => Csr.displayAddress o.csr
  | .source => if op.isImmediate then Numeral.decimal o.source else Register.nameOf o.source

/-- A name and the operands after it. -/
def spell (name : Text) (operands : List Text) : Text :=
  name ++ ' ' :: List.intercalate ", " operands

/-- The operation and all its operands. -/
def canonicalText (i : Instruction) : Text :=
  match i.operands with
  | none => i.op.mnemonic
  | some o => spell i.op.mnemonic ([.rd, .csr, .source].map (operandText i.op o))

/-- The form that leaves out operands which are zero. -/
def aliasForm? (op : CsrOp) (o : Operands) : Option Form :=
  if op = ⟨.set, false⟩ ∧ o.source = 0 then some Form.reading
  else if o.rd = 0 then some (Form.short op)
  else none

/-- The alias of an instruction: a name and the operands after it. -/
def alias? (i : Instruction) : Option (Text × List Text) :=
  match i.op, i.operands with
  | .csr op, some o =>
    (aliasForm? op o).map (fun f => (f.name, f.slots.map (operandText i.op o)))
  | _, _ => none

/-- The alias where there is one, and the canonical text otherwise. -/
def aliasText (i : Instruction) : Text :=
  match i.alias? with
  | some (name, operands) => spell name operands
  | none => i.canonicalText

/-- The text of an instruction, with or without aliases. -/
def text (aliases : Bool) (i : Instruction) : Text :=
  if aliases then i.aliasText else i.canonicalText

end Zicsr.Instruction
