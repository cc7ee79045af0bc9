import Zicsr.Assembly.Error
import Zicsr.Assembly.Statement
import Zicsr.Instruction.Form

/-
  Reading one source line.

  The name selects a form, and the form says how many operands there must be
  and what each of them is. The destination is read first, then the CSR, then
  the source; last, the instruction must have a word.
-/

namespace Zicsr

def Register.read (t : Text) : Except LineError Register :=
  match Register.read? t with
  | some r => .ok r
  | none => .error (.invalidRegister t)

def Csr.read (t : Text) : Except LineError Csr :=
  match Csr.read? t with
  | some c => .ok c
  | none => .error (.invalidCsr (Text.trim t))

/-- The largest value an error reports for an immediate. -/
def immediateReportLimit : Nat := UInt32.size - 1

def readImmediate (t : Text) : Except LineError Nat :=
  match Numeral.read t with
  | .error _ => .error (.invalidImmediate t)
  | .ok n =>
    if 32 ≤ n then .error (.encode (.immediateOutOfRange (min n immediateReportLimit)))
    else .ok n

namespace Instruction

/-- Reads the three operands of a CSR operation. -/
def readOperands (op : CsrOp) (rd csr source : Text) : Except LineError Instruction := do
  let rd ← Register.read rd
  let csr ← Csr.read csr
  if op.immediate then
    let source ← readImmediate source
    return withImmediate (.csr op) rd csr source
  else
    let source ← Register.read source
    return withRegister (.csr op) rd csr source

end Instruction

namespace Form

/-- The forms that a line of the style may use. -/
def ofStyle : Style → List Form
  | .statement => statements
  | .call => calls

/-- The instruction of a form with the operands given. An operand that the form
leaves out reads as `zero`. -/
def fill (f : Form) (given : List Text) : Except LineError Instruction :=
  match f.op with
  | .csr op =>
    Instruction.readOperands op (f.operand "zero" given .rd) (f.operand "zero" given .csr)
      (f.operand "zero" given .source)
  | .system op => .ok (.bare (.system op))

end Form

def Style.unknown : Style → Text → LineError
  | .statement, name => .unknownMnemonic name
  | .call, name => .unknownCall name

/-- The instruction that an encodable line denotes, from its code. -/
def Parts.instruction (p : Parts) : Except LineError Instruction :=
  match Form.find? (Form.ofStyle p.style) p.name with
  | none => .error (p.style.unknown p.name)
  | some form =>
    if p.operands.length ≠ form.arity then
      .error (.operandCount p.name form.arity p.operands.length)
    else form.fill p.operands

/-- Gives back an instruction that has a word. -/
def Instruction.checked (i : Instruction) : Except LineError Instruction :=
  match i.encode with
  | .ok _ => .ok i
  | .error cause => .error (.encode cause)

/-- The instruction of a line; `none` if the line is blank. -/
def readLine (line : Text) : Except LineError (Option Instruction) :=
  let code := Parts.code line
  if code = [] then .ok none
  else match Parts.read? code with
    | none => .error (.openCall code)
    | some parts => do
      let i ← parts.instruction
      let i ← i.checked
      return some i

/-- The word of a line; `none` if the line is blank. -/
def assembleLine (line : Text) : Except LineError (Option (BitVec 32)) := do
  match ← readLine line with
  | none => return none
  | some i =>
    match i.encode with
    | .ok word => return some word
    | .error cause => .error (.encode cause)

end Zicsr
