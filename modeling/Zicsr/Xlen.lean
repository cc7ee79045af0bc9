/-
  The width of a CSR.
-/

namespace Zicsr

/-- The two base widths. -/
inductive Xlen where
  | rv32
  | rv64
  deriving DecidableEq, Repr

namespace Xlen

/-- The bits of a CSR. -/
def bits : Xlen → Nat
  | .rv32 => 32
  | .rv64 => 64

/-- The value of a CSR. -/
abbrev Word (x : Xlen) := BitVec x.bits

end Xlen

end Zicsr
