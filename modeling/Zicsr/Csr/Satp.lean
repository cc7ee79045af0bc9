import Zicsr.Bits
import Zicsr.Xlen
import Zicsr.Text.Basic

/-
  The register of the page tables.

  From the bottom it holds the page number of the root table, an address space
  number and a mode; the widths of the three depend on the width of the hart. A
  mode of one width does not exist at the other.
-/

namespace Zicsr

inductive SatpMode where
  | bare
  | sv32
  | sv39
  | sv48
  | sv57
  deriving DecidableEq, Repr

namespace SatpMode

def all : List SatpMode := [.bare, .sv32, .sv39, .sv48, .sv57]

def code : SatpMode → Nat
  | .bare => 0
  | .sv32 => 1
  | .sv39 => 8
  | .sv48 => 9
  | .sv57 => 10

def name : SatpMode → Text
  | .bare => "Bare"
  | .sv32 => "Sv32"
  | .sv39 => "Sv39"
  | .sv48 => "Sv48"
  | .sv57 => "Sv57"

def ofCode? (n : Nat) : Option SatpMode := all.find? (fun m => m.code == n)

end SatpMode

/-- Where the fields of the register lie; the page number starts at bit zero. -/
structure SatpLayout where
  ppnLength : Nat
  asidLow : Nat
  asidLength : Nat
  modeLow : Nat
  modeLength : Nat
  deriving DecidableEq, Repr

def SatpLayout.of : Xlen → SatpLayout
  | .rv32 => ⟨22, 22, 9, 31, 1⟩
  | .rv64 => ⟨44, 44, 16, 60, 4⟩

/-- A value of the register of the page tables. -/
structure Satp (x : Xlen) where
  value : x.Word
  deriving DecidableEq, Repr

namespace Satp

variable {x : Xlen}

def asid (s : Satp x) : x.Word :=
  Bits.getField s.value (SatpLayout.of x).asidLow (SatpLayout.of x).asidLength

/-- The page number of the root table. -/
def ppn (s : Satp x) : x.Word := Bits.getField s.value 0 (SatpLayout.of x).ppnLength

/-- The mode; `none` where its code is reserved at this width. -/
def mode? (s : Satp x) : Option SatpMode :=
  let code := Bits.getField s.value (SatpLayout.of x).modeLow (SatpLayout.of x).modeLength
  (SatpMode.ofCode? code.toNat).filter
    (fun mode => !(mode == .sv32 && (SatpLayout.of x).modeLength == 4))

/-- The value with the three fields given; what does not fit a field is
dropped. -/
def pack (mode : SatpMode) (asid ppn : x.Word) : Satp x :=
  let layout := SatpLayout.of x
  let bits := Bits.setField (0 : x.Word) 0 layout.ppnLength ppn
  let bits := Bits.setField bits layout.asidLow layout.asidLength asid
  ⟨Bits.setField bits layout.modeLow layout.modeLength (.ofNat x.bits mode.code)⟩

/-- A mode that does not exist at the width it is packed for. -/
structure ModeFault where
  mode : SatpMode
  deriving DecidableEq, Repr

def ModeFault.message (e : ModeFault) : Text :=
  e.mode.name ++ " is not a valid satp mode for this XLEN".toList

/-- `pack`, where the value must read back the mode. -/
def packChecked (mode : SatpMode) (asid ppn : x.Word) : Except ModeFault (Satp x) :=
  let s := pack mode asid ppn
  if s.mode? = some mode then .ok s else .error ⟨mode⟩

end Satp

end Zicsr
