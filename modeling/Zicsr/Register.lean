import Zicsr.Numeral
import Zicsr.Text.Split

/-
  Integer registers and their names.

  Register `n` is spelled by its name in the standard calling convention or as
  `x` and the decimal number `n`; register 8 is also `fp`.
-/

namespace Zicsr

/-- An integer register. -/
structure Register where
  index : Nat
  index_lt : index < 32
  deriving DecidableEq, Repr

namespace Register

/-- The names of the calling convention, by register number; where a register has two,
a `/` stands between them. -/
def rows : List Text :=
  ["zero", "ra", "sp", "gp", "tp", "t0", "t1", "t2",
   "s0/fp", "s1", "a0", "a1", "a2", "a3", "a4", "a5",
   "a6", "a7", "s2", "s3", "s4", "s5", "s6", "s7",
   "s8", "s9", "s10", "s11", "t3", "t4", "t5", "t6"]

def namesIn (row : Text) : List Text := Text.split (· == '/') row

/-- The first name of each register. -/
def abiNames : List Text := rows.map (fun row => (namesIn row).headD row)

/-- The name of a register number, or a text that names no register. -/
def nameOf (index : Nat) : Text := abiNames.getD index "<invalid>"

/-- The register of a number, if there is one. -/
def ofIndex? (index : Nat) : Option Register :=
  if h : index < 32 then some ⟨index, h⟩ else none

def name (r : Register) : Text := nameOf r.index

/-- The name with its first letter capital. -/
def title (r : Register) : Text := r.name.modifyHead Char.toUpper

/-- The number that digits write in one byte, without a sign and without a zero in front
of other digits. -/
def plainNumber? (digits : Text) : Option Nat :=
  if digits = [] then none
  else if !digits.all Char.isDigit then none
  else if 1 < digits.length ∧ digits.head? = some '0' then none
  else match Numeral.readDigits 10 0 digits with
    | .ok n => if n < UInt8.size then some n else none
    | .error _ => none

/-- The register that the text spells. -/
def ofSpelling? (t : Text) : Option Register :=
  match rows.findIdx? (fun row => t ∈ namesIn row) with
  | some index => ofIndex? index
  | none =>
    match t with
    | 'x' :: digits => (plainNumber? digits).bind ofIndex?
    | _ => none

/-- The register that a text names, blanks at its ends aside. -/
def read? (t : Text) : Option Register := ofSpelling? (Text.trim t)

/-- The first two registers that no function preserves. -/
def t0 : Register := ⟨5, by decide⟩

def t1 : Register := ⟨6, by decide⟩

end Register

end Zicsr
