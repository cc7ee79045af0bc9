import Zicsr.Csr.Satp
import Zicsr.Trap

/-
  Enumerations with codes.

  Interrupts, exceptions and paging modes are each a list of named elements with a
  number for each of them, and each is looked up by that number. If the list leaves
  no element out and no two share a number, looking up undoes coding
  (`Coded.find?_eq_some_iff`). For each enumeration only these two facts are left to
  check.
-/

namespace Zicsr

/-- The list holds every element, and the codes tell them apart. -/
structure Coded {α : Type} (all : List α) (code : α → Nat) : Prop where
  mem_all : ∀ a, a ∈ all
  eq_of_code_eq : ∀ {a b : α}, code a = code b → a = b

namespace Coded

variable {α : Type} {all : List α} {code : α → Nat}

/-- Codes that differ on the list differ everywhere, if the list is complete. -/
theorem of_forall_mem (hall : ∀ a, a ∈ all)
    (hcode : ∀ a ∈ all, ∀ b ∈ all, code a = code b → a = b) : Coded all code :=
  ⟨hall, fun {a b} h => hcode a (hall a) b (hall b) h⟩

/-- An element is found by its own code, and by no other. -/
theorem find?_eq_some_iff (h : Coded all code) {n : Nat} {a : α} :
    all.find? (fun a => code a == n) = some a ↔ code a = n := by
  have hfound : ∀ {b : α}, all.find? (fun a => code a == n) = some b → code b = n := by
    intro b hfind
    simpa using List.find?_some hfind
  constructor
  · exact hfound
  · intro hcode
    cases hfind : all.find? (fun a => code a == n) with
    | none =>
      have hno := List.find?_eq_none.mp hfind a (h.mem_all a)
      exact absurd (beq_iff_eq.mpr hcode) hno
    | some b =>
      -- What is found has the code as well, so it is the element.
      rw [h.eq_of_code_eq ((hfound hfind).trans hcode.symm)]

end Coded

theorem Interrupt.coded : Coded all code :=
  .of_forall_mem (fun i => by cases i <;> decide) (by decide)

theorem Exception.coded : Coded all code :=
  .of_forall_mem (fun e => by cases e <;> decide) (by decide)

theorem SatpMode.coded : Coded all code :=
  .of_forall_mem (fun m => by cases m <;> decide) (by decide)

end Zicsr
