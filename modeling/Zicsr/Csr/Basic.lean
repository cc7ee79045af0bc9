import Zicsr.Numeral
import Zicsr.Csr.Privilege

/-
  Control and status registers.

  A CSR is a twelve-bit address. Some addresses have a name; a CSR is written
  by its name or, without one, by three hexadecimal digits, and read from its
  name or from any numeral below 4096.
-/

namespace Zicsr

/-- A control and status register. -/
structure Csr where
  address : Nat
  address_lt : address < 4096
  deriving DecidableEq, Repr

namespace Csr

def userTable : List (Text × Nat) :=
  [("fflags", 0x001), ("frm", 0x002), ("fcsr", 0x003),
   ("cycle", 0xC00), ("time", 0xC01), ("instret", 0xC02)]

def supervisorTable : List (Text × Nat) :=
  [("sstatus", 0x100), ("sie", 0x104), ("stvec", 0x105), ("scounteren", 0x106),
   ("sscratch", 0x140), ("sepc", 0x141), ("scause", 0x142), ("stval", 0x143),
   ("sip", 0x144), ("satp", 0x180)]

/-- Named registers of machine level that set up and report traps. -/
def machineTrapTable : List (Text × Nat) :=
  [("mstatus", 0x300), ("misa", 0x301), ("medeleg", 0x302), ("mideleg", 0x303),
   ("mie", 0x304), ("mtvec", 0x305), ("mcounteren", 0x306),
   ("mscratch", 0x340), ("mepc", 0x341), ("mcause", 0x342), ("mtval", 0x343),
   ("mip", 0x344)]

def protectionTable : List (Text × Nat) :=
  [("pmpcfg0", 0x3A0), ("pmpcfg2", 0x3A2),
   ("pmpaddr0", 0x3B0), ("pmpaddr1", 0x3B1), ("pmpaddr2", 0x3B2), ("pmpaddr3", 0x3B3),
   ("pmpaddr4", 0x3B4), ("pmpaddr5", 0x3B5), ("pmpaddr6", 0x3B6), ("pmpaddr7", 0x3B7),
   ("pmpaddr8", 0x3B8), ("pmpaddr9", 0x3B9), ("pmpaddr10", 0x3BA), ("pmpaddr11", 0x3BB),
   ("pmpaddr12", 0x3BC), ("pmpaddr13", 0x3BD), ("pmpaddr14", 0x3BE), ("pmpaddr15", 0x3BF)]

/-- Named registers of machine level that count cycles and identify the hart. -/
def machineInfoTable : List (Text × Nat) :=
  [("mcycle", 0xB00), ("minstret", 0xB02),
   ("mvendorid", 0xF11), ("marchid", 0xF12), ("mimpid", 0xF13), ("mhartid", 0xF14)]

/-- The named registers. -/
def table : List (Text × Nat) :=
  userTable ++ supervisorTable ++ machineTrapTable ++ protectionTable ++ machineInfoTable

def addressOf? (name : Text) : Option Nat := table.lookup name

def nameOf? (address : Nat) : Option Text :=
  (table.find? (fun row => row.2 == address)).map Prod.fst

/-- The register at an address, if the address fits in twelve bits. -/
def ofAddress? (address : Nat) : Option Csr :=
  if h : address < 4096 then some ⟨address, h⟩ else none

/-- The register that a text names, blanks at its ends aside. -/
def ofName? (t : Text) : Option Csr := (addressOf? (Text.trim t)).bind ofAddress?

def name? (c : Csr) : Option Text := nameOf? c.address

/-- The register that a text denotes, by its name or as a numeral. -/
def read? (t : Text) : Option Csr :=
  match ofName? t with
  | some c => some c
  | none => (Numeral.readBelow? 4096 t).bind ofAddress?

def display (c : Csr) : Text := c.name?.getD (Numeral.literalPadded 3 c.address)

/-- An address as it is written, also one that no register has. -/
def displayAddress (address : Nat) : Text :=
  match ofAddress? address with
  | some c => c.display
  | none => Numeral.literal address

/-! ## The registers that other parts of the library speak of -/

def satp : Csr := ⟨0x180, by decide⟩

def mstatus : Csr := ⟨0x300, by decide⟩

def mscratch : Csr := ⟨0x340, by decide⟩

def mepc : Csr := ⟨0x341, by decide⟩

def mcause : Csr := ⟨0x342, by decide⟩

def scause : Csr := ⟨0x142, by decide⟩

/-! ## Access -/

/-- The lowest privilege level that may access the register. -/
def privilege (c : Csr) : Privilege := Privilege.ofAddress c.address

def readOnly (c : Csr) : Bool := isReadOnly c.address

end Csr

end Zicsr
