import Zicsr.Instruction.BitPattern
import Zicsr.Instruction.Encode

/-
  Decoding words by a table.

  A row of a table either has a pattern of the whole word or is found by its
  function code. Patterns go first and the earliest of them wins; of rows with
  one function code the latest wins. A word of another opcode is never decoded.
-/

namespace Zicsr

/-- A row of a decoding table. -/
structure Row where
  op : Op
  funct3 : Nat
  pattern? : Option BitPattern
  deriving DecidableEq, Repr

/-- A table ready for use: the patterns in order, and one operation for each
function code. -/
structure Decoder where
  patterns : List (BitPattern × Op)
  dispatch : List (Nat × Op)

namespace Decoder

/-- The rows of the CSR operations. -/
def csrRows : List Row :=
  [⟨.csr ⟨.write, false⟩, 0b001, none⟩,
   ⟨.csr ⟨.set, false⟩, 0b010, none⟩,
   ⟨.csr ⟨.clear, false⟩, 0b011, none⟩,
   ⟨.csr ⟨.write, true⟩, 0b101, none⟩,
   ⟨.csr ⟨.set, true⟩, 0b110, none⟩,
   ⟨.csr ⟨.clear, true⟩, 0b111, none⟩]

/-- A row with the pattern that a text writes. -/
def patternRow (op : SystemOp) (pattern : Text) : Row :=
  ⟨.system op, 0b000, (BitPattern.read pattern).toOption⟩

/-- The rows of the operations without operands. -/
def systemRows : List Row :=
  [patternRow .ecall "000000000000 00000 000 00000 1110011",
   patternRow .ebreak "000000000001 00000 000 00000 1110011",
   patternRow .sret "000100000010 00000 000 00000 1110011",
   patternRow .mret "001100000010 00000 000 00000 1110011",
   patternRow .wfi "000100000101 00000 000 00000 1110011"]

/-- Enters an operation at a function code, in place of the one there. -/
def enter (funct3 : Nat) (op : Op) : List (Nat × Op) → List (Nat × Op)
  | [] => [(funct3, op)]
  | (code, old) :: rest =>
    if code = funct3 then (code, op) :: rest else (code, old) :: enter funct3 op rest

/-- Enters a row, unless it has a pattern. -/
def enterRow (dispatch : List (Nat × Op)) (row : Row) : List (Nat × Op) :=
  match row.pattern? with
  | none => enter row.funct3 row.op dispatch
  | some _ => dispatch

def ofRows (rows : List Row) : Decoder :=
  ⟨rows.filterMap (fun row => row.pattern?.map (fun p => (p, row.op))),
   rows.foldl enterRow []⟩

/-- The decoder of tables that are added one after the other. -/
def ofTables (tables : List (List Row)) : Decoder :=
  ofRows (tables.foldl (fun rows table => rows ++ table) [])

def find? (d : Decoder) (word : BitVec 32) : Option Op :=
  match d.patterns.find? (fun row => row.1.accepts word) with
  | some row => some row.2
  | none => d.dispatch.lookup (Word.funct3 word)

/-- The operands of an operation in a word. -/
def operandsOf (op : Op) (word : BitVec 32) : Option Operands :=
  if op.isCsr then some ⟨Word.rd word, Word.source word, Word.csr word⟩ else none

/-- The instruction of a word. -/
def decode? (d : Decoder) (word : BitVec 32) : Option Instruction :=
  if Word.opcode word ≠ Word.systemOpcode then none
  else (d.find? word).map (fun op => ⟨op, operandsOf op word⟩)

/-- The decoder of every operation. -/
def standard : Decoder := ofRows (csrRows ++ systemRows)

end Decoder

def Instruction.decode? (word : BitVec 32) : Option Instruction := Decoder.standard.decode? word

end Zicsr
