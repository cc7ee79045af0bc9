import Zicsr.Instruction.Op
import Zicsr.Register
import Zicsr.Csr.Basic

/-
  Instructions.

  An instruction is an operation with or without operands. Nothing here says
  that the two go together or that the operands fit their fields: encoding is
  what decides that.
-/

namespace Zicsr

/-- The operands of a CSR instruction; `source` is a register number or an
immediate. -/
structure Operands where
  rd : Nat
  source : Nat
  csr : Nat
  deriving DecidableEq, Repr

/-- An operation with its operands. -/
structure Instruction where
  op : Op
  operands : Option Operands
  deriving DecidableEq, Repr

namespace Instruction

/-- An operation alone. -/
def bare (op : Op) : Instruction := ⟨op, none⟩

/-- An operation whose source is a register. -/
def withRegister (op : Op) (rd : Register) (csr : Csr) (source : Register) : Instruction :=
  ⟨op, some ⟨rd.index, source.index, csr.address⟩⟩

/-- An operation whose source is an immediate. -/
def withImmediate (op : Op) (rd : Register) (csr : Csr) (source : Nat) : Instruction :=
  ⟨op, some ⟨rd.index, source, csr.address⟩⟩

end Instruction

end Zicsr
