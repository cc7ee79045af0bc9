import Zicsr.Bits
import Zicsr.Xlen
import Zicsr.Text.Basic
import Zicsr.Csr.Privilege

/-
  The machine status register.

  Twelve bits have names of their own; bits 12:11 hold the level that a
  machine-mode trap returns to, and bits 14:13 the state of the floating-point
  unit.
-/

namespace Zicsr

/-- The single-bit fields. -/
inductive StatusFlag where
  | sie
  | mie
  | spie
  | ube
  | mpie
  | spp
  | mprv
  | sum
  | mxr
  | tvm
  | tw
  | tsr
  deriving DecidableEq, Repr

namespace StatusFlag

/-- The flags in order of their bits. -/
def all : List StatusFlag :=
  [.sie, .mie, .spie, .ube, .mpie, .spp, .mprv, .sum, .mxr, .tvm, .tw, .tsr]

def bit : StatusFlag → Nat
  | .sie => 1
  | .mie => 3
  | .spie => 5
  | .ube => 6
  | .mpie => 7
  | .spp => 8
  | .mprv => 17
  | .sum => 18
  | .mxr => 19
  | .tvm => 20
  | .tw => 21
  | .tsr => 22

def name : StatusFlag → Text
  | .sie => "SIE"
  | .mie => "MIE"
  | .spie => "SPIE"
  | .ube => "UBE"
  | .mpie => "MPIE"
  | .spp => "SPP"
  | .mprv => "MPRV"
  | .sum => "SUM"
  | .mxr => "MXR"
  | .tvm => "TVM"
  | .tw => "TW"
  | .tsr => "TSR"

def ofName? (t : Text) : Option StatusFlag := all.find? (fun f => f.name = t)

/-- The word with the bits of some flags set. -/
def mask (x : Xlen) (flags : List StatusFlag) : x.Word :=
  flags.foldl (fun m f => m ||| BitVec.twoPow x.bits f.bit) 0

end StatusFlag

/-- A value of the machine status register. -/
structure Mstatus (x : Xlen) where
  value : x.Word
  deriving DecidableEq, Repr

namespace Mstatus

variable {x : Xlen}

/-- The lowest bit of the level that a trap returns to. -/
def mppLow : Nat := 11

/-- The lowest bit of the floating-point state. -/
def fsLow : Nat := 13

/-- The flags that are set, in order of their bits. -/
def flags (s : Mstatus x) : List StatusFlag :=
  StatusFlag.all.filter (fun f => s.value.getLsbD f.bit)

def withFlags (s : Mstatus x) (flags : List StatusFlag) : Mstatus x :=
  ⟨s.value ||| StatusFlag.mask x flags⟩

def withoutFlags (s : Mstatus x) (flags : List StatusFlag) : Mstatus x :=
  ⟨s.value &&& ~~~StatusFlag.mask x flags⟩

/-- The level that a machine-mode trap returns to. -/
def mpp (s : Mstatus x) : Privilege := Privilege.ofCode (Bits.getField s.value mppLow 2).toNat

def withMpp (s : Mstatus x) (level : Privilege) : Mstatus x :=
  ⟨Bits.setField s.value mppLow 2 (.ofNat x.bits level.code)⟩

/-- The state of the floating-point unit: off, initial, clean or dirty. -/
def fs (s : Mstatus x) : x.Word := Bits.getField s.value fsLow 2

def withFs (s : Mstatus x) (fs : x.Word) : Mstatus x := ⟨Bits.setField s.value fsLow 2 fs⟩

/-- One change of the register. -/
inductive Step (x : Xlen) where
  | setFlags (flags : List StatusFlag)
  | clearFlags (flags : List StatusFlag)
  | setMpp (level : Privilege)
  | setFs (fs : x.Word)
  deriving DecidableEq, Repr

/-- The value after a change. -/
def apply (s : Mstatus x) : Step x → Mstatus x
  | .setFlags flags => s.withFlags flags
  | .clearFlags flags => s.withoutFlags flags
  | .setMpp level => s.withMpp level
  | .setFs fs => s.withFs fs

/-- The value at the start and after each change. -/
def trace (s : Mstatus x) : List (Step x) → List (Mstatus x)
  | [] => [s]
  | step :: rest => s :: trace (s.apply step) rest

end Mstatus

end Zicsr
