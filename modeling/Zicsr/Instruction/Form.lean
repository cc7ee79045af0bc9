import Zicsr.Instruction.Basic
import Zicsr.Instruction.Word

/-
  The forms in which an instruction is spelled.

  A form is a name, the operation it stands for, and the shape of its operands: which
  of them it takes, and in which order. Operands that it leaves out are zero; the short
  forms leave out the destination, and `csrr` leaves out the source. Statements, calls
  and encoders have a table of forms each.
-/

namespace Zicsr

/-- An operand of a CSR instruction. -/
inductive Slot where
  | rd
  | csr
  | source
  deriving DecidableEq, Repr

/-- How the operands of a form follow its name. Statements put the destination first, calls
put it last. -/
inductive Shape where
  | bare
  | full
  | short
  | reading
  | fullCall
  | shortCall
  | readingCall
  deriving DecidableEq, Repr

namespace Shape

/-- The operands that are given, in order. -/
def slots : Shape → List Slot
  | bare => []
  | full => [.rd, .csr, .source]
  | short => [.csr, .source]
  | reading => [.rd, .csr]
  | fullCall => [.source, .csr, .rd]
  | shortCall => [.source, .csr]
  | readingCall => [.csr, .rd]

/-- The number of operands that are asked for. -/
def arity : Shape → Nat
  | bare => 0
  | short => 2
  | reading => 2
  | shortCall => 2
  | readingCall => 2
  | full => 3
  | fullCall => 3

theorem length_slots (s : Shape) : s.slots.length = s.arity := by
  cases s <;> rfl

end Shape

/-- A spelling of an operation. -/
structure Form where
  name : Text
  op : Op
  shape : Shape
  deriving DecidableEq, Repr

namespace Form

def slots (f : Form) : List Slot := f.shape.slots

def arity (f : Form) : Nat := f.shape.arity

theorem length_slots (f : Form) : f.slots.length = f.arity := f.shape.length_slots

/-! ## The forms of an operation -/

/-- A CSR operation with all its operands. -/
def full (op : CsrOp) : Form := ⟨op.mnemonic, .csr op, .full⟩

/-- A CSR operation whose old value is dropped. -/
def short (op : CsrOp) : Form := ⟨op.shortMnemonic, .csr op, .short⟩

/-- Reading a CSR: setting no bits of it. -/
def reading : Form := ⟨"csrr", .csr ⟨.set, false⟩, .reading⟩

/-- An operation without operands. -/
def bare (op : SystemOp) : Form := ⟨op.mnemonic, .system op, .bare⟩

/-- A call with all its operands. -/
def fullCall (op : CsrOp) : Form := ⟨op.mnemonic, .csr op, .fullCall⟩

/-- A call whose old value is dropped. -/
def shortCall (op : CsrOp) : Form := ⟨op.shortMnemonic, .csr op, .shortCall⟩

/-- A call that reads a CSR. -/
def readingCall : Form := ⟨"csrr", .csr ⟨.set, false⟩, .readingCall⟩

/-! ## The tables of forms -/

/-- The statements that leave an operand out. -/
def shortStatements : List Form :=
  [⟨"csrr", .csr ⟨.set, false⟩, .reading⟩,
   ⟨"csrw", .csr ⟨.write, false⟩, .short⟩,
   ⟨"csrs", .csr ⟨.set, false⟩, .short⟩,
   ⟨"csrc", .csr ⟨.clear, false⟩, .short⟩,
   ⟨"csrwi", .csr ⟨.write, true⟩, .short⟩,
   ⟨"csrsi", .csr ⟨.set, true⟩, .short⟩,
   ⟨"csrci", .csr ⟨.clear, true⟩, .short⟩]

/-- The forms of a statement. -/
def statements : List Form := CsrOp.all.map full ++ SystemOp.all.map bare ++ shortStatements

/-- The calls of a line that take operands; all sources are registers. -/
def registerCalls : List Form :=
  [⟨"csrw", .csr ⟨.write, false⟩, .shortCall⟩,
   ⟨"csrs", .csr ⟨.set, false⟩, .shortCall⟩,
   ⟨"csrc", .csr ⟨.clear, false⟩, .shortCall⟩,
   ⟨"csrr", .csr ⟨.set, false⟩, .readingCall⟩,
   ⟨"csrrw", .csr ⟨.write, false⟩, .fullCall⟩,
   ⟨"csrrs", .csr ⟨.set, false⟩, .fullCall⟩,
   ⟨"csrrc", .csr ⟨.clear, false⟩, .fullCall⟩]

/-- The forms of a call on a line. -/
def calls : List Form := registerCalls ++ [bare .mret]

/-- The encoders: their operands are those of calls, and some sources are immediates. -/
def encoders : List Form :=
  [⟨"csrw", .csr ⟨.write, false⟩, .shortCall⟩,
   ⟨"csrr", .csr ⟨.set, false⟩, .readingCall⟩,
   ⟨"csrs", .csr ⟨.set, false⟩, .shortCall⟩,
   ⟨"csrc", .csr ⟨.clear, false⟩, .shortCall⟩,
   ⟨"csrrw", .csr ⟨.write, false⟩, .fullCall⟩,
   ⟨"csrrs", .csr ⟨.set, false⟩, .fullCall⟩,
   ⟨"csrrc", .csr ⟨.clear, false⟩, .fullCall⟩,
   ⟨"csrrwi", .csr ⟨.write, true⟩, .fullCall⟩,
   ⟨"csrrsi", .csr ⟨.set, true⟩, .fullCall⟩,
   ⟨"csrrci", .csr ⟨.clear, true⟩, .fullCall⟩,
   ⟨"csrwi", .csr ⟨.write, true⟩, .shortCall⟩,
   ⟨"csrsi", .csr ⟨.set, true⟩, .shortCall⟩,
   ⟨"csrci", .csr ⟨.clear, true⟩, .shortCall⟩]

theorem shortStatements_eq : shortStatements = reading :: CsrOp.all.map short := rfl

/-! ## Filling a form -/

/-- The form of a name among some forms; the case of ASCII letters is ignored. -/
def find? (forms : List Form) (name : Text) : Option Form :=
  forms.find? (fun f => f.name = Text.lower name)

/-- What the operands of a form put into a slot; `missing` if the form leaves it
out. -/
def operand {α : Type} (f : Form) (missing : α) (given : List α) (slot : Slot) : α :=
  ((f.slots.zip given).lookup slot).getD missing

/-- The word of a form from raw operands, which are packed as they are. -/
def word (f : Form) (given : List (BitVec 32)) : BitVec 32 :=
  match f.op with
  | .csr op => Word.pack (.ofNat 32 op.funct3) (f.operand 0 given .rd)
      (f.operand 0 given .source) (f.operand 0 given .csr)
  | .system op => op.word

/-- `word`, where the operands must fit their fields. -/
def wordChecked (f : Form) (given : List (BitVec 32)) : Except Word.PackFault (BitVec 32) :=
  match f.op with
  | .csr op => Word.packChecked (.ofNat 32 op.funct3) (f.operand 0 given .rd)
      (f.operand 0 given .source) (f.operand 0 given .csr)
  | .system op => .ok op.word

end Form

end Zicsr
