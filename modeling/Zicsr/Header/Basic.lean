import Zicsr.Instruction.Basic
import Zicsr.Instruction.Word
import Zicsr.WordFormat

/-
  The header of definitions for the Go assembler.

  A header defines chosen registers and CSRs by name, each once and in the order
  of choice, and then one parameterised word for each call.
-/

namespace Zicsr

/-- What a header defines besides the calls. -/
structure Header where
  registers : List Register
  csrs : List Csr
  deriving DecidableEq, Repr

namespace Header

/-- A choice to be added to a header. -/
inductive Item where
  | register (r : Register)
  | csr (c : Csr)
  deriving DecidableEq, Repr

def Item.display : Item → Text
  | .register r => r.name
  | .csr c => c.display

/-- The header without a choice. -/
def empty : Header := ⟨[], []⟩

/-- The list with the element at its end, unless it is in the list. -/
def addNew {α : Type} [DecidableEq α] (a : α) (l : List α) : List α :=
  if a ∈ l then l else l ++ [a]

/-- Adds a choice; one that is there already changes nothing. -/
def add (h : Header) : Item → Header
  | .register r => { h with registers := addNew r h.registers }
  | .csr c => { h with csrs := addNew c h.csrs }

/-- Adds choices in order. -/
def addAll (h : Header) (items : List Item) : Header := items.foldl add h

/-- The choices made where none is given: two scratch registers, and the CSRs
with which a machine-mode trap is entered and left. -/
def standardItems : List Item :=
  [Register.t0, Register.t1].map .register ++
    [Csr.satp, Csr.mstatus, Csr.mscratch, Csr.mepc, Csr.mcause].map .csr

/-- The header where no choice is given. -/
def standard : Header := empty.addAll standardItems

/-! ## Lines -/

def defineLine (name value : Text) : Text := "#define ".toList ++ name ++ ' ' :: value

def registerLine (r : Register) : Text := defineLine r.name (Numeral.decimal r.index)

/-- The name that a header gives a CSR. -/
def csrName (c : Csr) : Text :=
  c.name?.getD ("csr_".toList ++ Numeral.hexPadded 3 c.address)

def nameWidth (csrs : List Csr) : Nat := (csrs.map (fun c => (csrName c).length)).foldl max 0

/-- The definition of a CSR, its name padded to the width. -/
def csrLine (width : Nat) (c : Csr) : Text :=
  defineLine (Text.padRight width (csrName c)) (Numeral.literalPadded 3 c.address)

/-- The word of an operation with every operand zero. -/
def base (op : CsrOp) : BitVec 32 := Word.systemOpcode ||| (BitVec.ofNat 32 op.funct3 <<< 12)

/-- The definition of a call: the word of its operation, and the terms added to it. -/
def callLine (call : Text) (op : CsrOp) (terms : Text) : Text :=
  defineLine call
    ("WORD $(".toList ++ Numeral.literal (base op).toNat ++ " + ".toList ++ terms ++ [')'])

/-- The definitions of the calls that take operands. -/
def callLines : List Text :=
  [callLine "CSRW(RS,CSR)" ⟨.write, false⟩ "RS<<15 + CSR<<20",
   callLine "CSRR(CSR,RD)" ⟨.set, false⟩ "RD<<7 + CSR<<20",
   callLine "CSRS(RS,CSR)" ⟨.set, false⟩ "RS<<15 + CSR<<20",
   callLine "CSRC(RS,CSR)" ⟨.clear, false⟩ "RS<<15 + CSR<<20",
   callLine "CSRRW(RS,CSR,RD)" ⟨.write, false⟩ "RD<<7 + RS<<15 + CSR<<20",
   callLine "CSRRS(RS,CSR,RD)" ⟨.set, false⟩ "RD<<7 + RS<<15 + CSR<<20",
   callLine "CSRRC(RS,CSR,RD)" ⟨.clear, false⟩ "RD<<7 + RS<<15 + CSR<<20"]

/-- The definition of the return from a machine-mode trap. -/
def returnLine : Text :=
  defineLine "MRET " (WordFormat.go.write SystemOp.mret.word)

/-- A group of lines after an empty line; nothing if there are none. -/
def group (lines : List Text) : List Text := if lines = [] then [] else [] :: lines

def opening : List Text :=
  ["// RISC-V CSR instruction encodings for the Go assembler.",
   "// Generated by csrasm, do not edit."]

def lines (h : Header) : List Text :=
  opening ++
  group (h.registers.map registerLine) ++
  group (h.csrs.map (csrLine (nameWidth h.csrs))) ++
  group callLines ++
  group [returnLine]

def text (h : Header) : Text := Text.unlines h.lines

end Header

end Zicsr
