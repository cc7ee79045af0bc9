import Zicsr.Text.Basic

/-
  The operations of the SYSTEM opcode.

  A CSR operation reads a register and then writes it, sets bits of it or
  clears bits of it, with a register or a five-bit immediate as its source. The
  other operations take no operand and are one fixed word each.
-/

namespace Zicsr

/-- What a CSR operation does with its source. -/
inductive Action where
  | write
  | set
  | clear
  deriving DecidableEq, Repr

/-- A CSR operation; its source is a register, or an immediate. -/
structure CsrOp where
  action : Action
  immediate : Bool
  deriving DecidableEq, Repr

namespace CsrOp

/-- The CSR operations: register sources first. -/
def all : List CsrOp :=
  [⟨.write, false⟩, ⟨.set, false⟩, ⟨.clear, false⟩,
   ⟨.write, true⟩, ⟨.set, true⟩, ⟨.clear, true⟩]

theorem mem_all (op : CsrOp) : op ∈ all := by
  rcases op with ⟨_ | _ | _, _ | _⟩ <;> decide

/-- The function code, which bits 14:12 of the word hold. -/
def funct3 : CsrOp → Nat
  | ⟨.write, false⟩ => 0b001
  | ⟨.set, false⟩ => 0b010
  | ⟨.clear, false⟩ => 0b011
  | ⟨.write, true⟩ => 0b101
  | ⟨.set, true⟩ => 0b110
  | ⟨.clear, true⟩ => 0b111

/-- The mnemonic of the operation with all its operands. -/
def mnemonic : CsrOp → Text
  | ⟨.write, false⟩ => "csrrw"
  | ⟨.set, false⟩ => "csrrs"
  | ⟨.clear, false⟩ => "csrrc"
  | ⟨.write, true⟩ => "csrrwi"
  | ⟨.set, true⟩ => "csrrsi"
  | ⟨.clear, true⟩ => "csrrci"

/-- The mnemonic of the operation whose old value is dropped. -/
def shortMnemonic : CsrOp → Text
  | ⟨.write, false⟩ => "csrw"
  | ⟨.set, false⟩ => "csrs"
  | ⟨.clear, false⟩ => "csrc"
  | ⟨.write, true⟩ => "csrwi"
  | ⟨.set, true⟩ => "csrsi"
  | ⟨.clear, true⟩ => "csrci"

/-- Whether the operation writes the CSR when its source field is `source`:
setting or clearing with source zero only reads. -/
def writes (op : CsrOp) (source : Nat) : Bool := op.action = .write || source != 0

end CsrOp

/-- The operations without operands. -/
inductive SystemOp where
  | ecall
  | ebreak
  | sret
  | mret
  | wfi
  deriving DecidableEq, Repr

namespace SystemOp

def all : List SystemOp := [.ecall, .ebreak, .sret, .mret, .wfi]

theorem mem_all (op : SystemOp) : op ∈ all := by
  cases op <;> decide

def mnemonic : SystemOp → Text
  | .ecall => "ecall"
  | .ebreak => "ebreak"
  | .sret => "sret"
  | .mret => "mret"
  | .wfi => "wfi"

/-- The word of the operation. -/
def word : SystemOp → BitVec 32
  | .ecall => 0x00000073#32
  | .ebreak => 0x00100073#32
  | .sret => 0x10200073#32
  | .mret => 0x30200073#32
  | .wfi => 0x10500073#32

end SystemOp

/-- An operation of the SYSTEM opcode. -/
inductive Op where
  | csr (op : CsrOp)
  | system (op : SystemOp)
  deriving DecidableEq, Repr

namespace Op

/-- Every operation: the CSR operations first. -/
def all : List Op := CsrOp.all.map csr ++ SystemOp.all.map system

theorem mem_all (op : Op) : op ∈ all := by
  cases op with
  | csr op => exact List.mem_append_left _ (List.mem_map_of_mem op.mem_all)
  | system op => exact List.mem_append_right _ (List.mem_map_of_mem op.mem_all)

def mnemonic : Op → Text
  | csr op => op.mnemonic
  | system op => op.mnemonic

/-- The operation's name, which is its mnemonic in capitals. -/
def name (op : Op) : Text := Text.upper op.mnemonic

/-- The operation of a mnemonic written in small letters. -/
def ofMnemonic? (t : Text) : Option Op := all.find? (fun op => op.mnemonic = t)

def ofName? (t : Text) : Option Op := all.find? (fun op => op.name = t)

def funct3? : Op → Option Nat
  | csr op => some op.funct3
  | system _ => none

def fixedWord? : Op → Option (BitVec 32)
  | csr _ => none
  | system op => some op.word

/-- Whether the source is an immediate. -/
def isImmediate : Op → Bool
  | csr op => op.immediate
  | system _ => false

def isCsr : Op → Bool
  | csr _ => true
  | system _ => false

def writes : Op → Nat → Bool
  | csr op, source => op.writes source
  | system _, _ => false

end Op

end Zicsr
