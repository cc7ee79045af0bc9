import Zicsr.Bits
import Zicsr.Text.Basic

/-
  The layout of a SYSTEM instruction word.

  From the top, a word holds the CSR address in twelve bits, the source in
  five, the function code in three, the destination in five and the opcode in
  seven. Packing adds the shifted operands up, so one that does not fit carries
  into the fields above it; the checked form refuses it instead.
-/

namespace Zicsr.Word

/-- The opcode of every SYSTEM instruction. -/
def systemOpcode : BitVec 32 := 0x73#32

/-- The sum of the opcode and the operands at their places, modulo 2³². -/
def pack (funct3 rd source csr : BitVec 32) : BitVec 32 :=
  systemOpcode + (funct3 <<< 12) + (rd <<< 7) + (source <<< 15) + (csr <<< 20)

/-- The operand that does not fit its field. -/
inductive PackFault where
  | rd
  | source
  | csr
  deriving DecidableEq, Repr

def PackFault.message : PackFault → Text
  | .rd => "rd out of range"
  | .source => "rs1/uimm out of range"
  | .csr => "csr out of range"

/-- `pack`, where the destination, the source and the address must fit; the
first that does not is the fault. -/
def packChecked (funct3 rd source csr : BitVec 32) : Except PackFault (BitVec 32) :=
  if 32 ≤ rd.toNat then .error .rd
  else if 32 ≤ source.toNat then .error .source
  else if 4096 ≤ csr.toNat then .error .csr
  else .ok (pack funct3 rd source csr)

/-! ## Reading the fields -/

def opcode (word : BitVec 32) : BitVec 32 := Bits.extract word 0 7

def rd (word : BitVec 32) : Nat := (Bits.extract word 7 5).toNat

def funct3 (word : BitVec 32) : Nat := (Bits.extract word 12 3).toNat

def source (word : BitVec 32) : Nat := (Bits.extract word 15 5).toNat

def csr (word : BitVec 32) : Nat := (Bits.extract word 20 12).toNat

end Zicsr.Word
