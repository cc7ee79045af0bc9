/-
  What a CSR address says about access.

  Bits 9:8 of the address are the lowest privilege level that may access the
  register; if bits 11:10 are both set the register is read-only.
-/

namespace Zicsr

/-- Privilege levels, lowest first; `virtual` is the level of the hypervisor
registers. -/
inductive Privilege where
  | user
  | supervisor
  | virtual
  | machine
  deriving DecidableEq, Repr

namespace Privilege

/-- The two-bit code of a level. -/
def code : Privilege → Nat
  | .user => 0
  | .supervisor => 1
  | .virtual => 2
  | .machine => 3

/-- The level whose code is the lowest two bits of the number. -/
def ofCode (n : Nat) : Privilege :=
  match n % 4 with
  | 0 => .user
  | 1 => .supervisor
  | 2 => .virtual
  | _ => .machine

def letter : Privilege → Char
  | .user => 'U'
  | .supervisor => 'S'
  | .virtual => 'V'
  | .machine => 'M'

/-- The lowest level that may access the register at the address. -/
def ofAddress (address : Nat) : Privilege := ofCode (address / 256)

end Privilege

def isReadOnly (address : Nat) : Bool := address / 1024 % 4 = 3

end Zicsr
