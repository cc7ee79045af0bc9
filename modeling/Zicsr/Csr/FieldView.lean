import Zicsr.Csr.Basic
import Zicsr.Csr.Mstatus
import Zicsr.Csr.Satp
import Zicsr.Trap

/-
  The fields of a CSR value as text.

  The status register, the paging register and the two cause registers
  have a view; it lists their fields by name.
-/

namespace Zicsr

/-- A field's name and its value as text. -/
abbrev Field := Text × Text

variable {x : Xlen}

/-- The flags that are set, and the two fields of several bits. -/
def Mstatus.view (s : Mstatus x) : List Field :=
  s.flags.map (fun f => (f.name, "1".toList)) ++
    [("MPP".toList, [s.mpp.letter]), ("FS".toList, Numeral.decimal s.fs.toNat)]

def Satp.view (s : Satp x) : List Field :=
  [("MODE".toList, (s.mode?.map SatpMode.name).getD "<reserved>"),
   ("ASID".toList, Numeral.literal s.asid.toNat),
   ("PPN".toList, Numeral.literal s.ppn.toNat)]

/-- The two parts of a cause, and what they mean together. -/
def Trap.view (t : Trap x) : List Field :=
  [("INTERRUPT".toList, Numeral.decimal t.isInterrupt.toNat),
   ("CODE".toList, Numeral.decimal t.code.toNat),
   ("CAUSE".toList, t.display)]

/-- The fields of a CSR value; `none` if the CSR has no view. -/
def Csr.view? (c : Csr) (value : x.Word) : Option (List Field) :=
  if c = .mstatus then some (Mstatus.mk value).view
  else if c = .satp then some (Satp.mk value).view
  else if c = .mcause ∨ c = .scause then some (Trap.ofCause value).view
  else none

end Zicsr
