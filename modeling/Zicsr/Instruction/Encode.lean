import Zicsr.Instruction.Basic
import Zicsr.Instruction.Word

/-
  Encoding an instruction as a word.

  An instruction is encoded only if its operation takes the operands it has,
  each operand fits its field, and no read-only CSR is written; the first of
  these that fails is the error.
-/

namespace Zicsr

/-- Why an instruction has no word. -/
inductive EncodeError where
  | registerOutOfRange (number : Nat)
  | immediateOutOfRange (value : Nat)
  | csrOutOfRange (address : Nat)
  | readOnlyWrite (address : Nat)
  | operandMismatch (op : Op)
  deriving DecidableEq, Repr

open Numeral in
def EncodeError.message : EncodeError → Text
  | .registerOutOfRange n => "register x".toList ++ decimal n ++ " out of range".toList
  | .immediateOutOfRange n => "immediate ".toList ++ decimal n ++ " does not fit in 5 bits".toList
  | .csrOutOfRange n => "csr address ".toList ++ literal n ++ " does not fit in 12 bits".toList
  | .readOnlyWrite n => "csr ".toList ++ literalPadded 3 n ++ " is read-only".toList
  | .operandMismatch op => "operands do not match `".toList ++ op.mnemonic ++ "`".toList

def CsrOp.encode (op : CsrOp) (o : Operands) : Except EncodeError (BitVec 32) :=
  if 32 ≤ o.rd then .error (.registerOutOfRange o.rd)
  else if 32 ≤ o.source then
    if op.immediate then .error (.immediateOutOfRange o.source)
    else .error (.registerOutOfRange o.source)
  else if 4096 ≤ o.csr then .error (.csrOutOfRange o.csr)
  else if isReadOnly o.csr && op.writes o.source then .error (.readOnlyWrite o.csr)
  else .ok (Word.pack (.ofNat 32 op.funct3) (.ofNat 32 o.rd) (.ofNat 32 o.source)
    (.ofNat 32 o.csr))

/-- The word of an instruction. -/
def Instruction.encode (i : Instruction) : Except EncodeError (BitVec 32) :=
  match i.op, i.operands with
  | .csr op, some o => op.encode o
  | .system op, none => .ok op.word
  | op, _ => .error (.operandMismatch op)

end Zicsr
