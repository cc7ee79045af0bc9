import Zicsr.Csr.FieldView
import Zicsr.Proofs.Csr.Mstatus
import Zicsr.Proofs.Csr.Satp
import Zicsr.Proofs.Numeral
import Zicsr.Proofs.Trap

/-
  What the view of a value tells.

  Each text of a view is an injective image of a part of the value: numbers are told
  apart by their digits, and modes, levels and flags by their names. So views are
  equal exactly if the parts they show are (`Trap.view_eq_iff`, `Satp.view_eq_iff`,
  `Mstatus.view_eq_iff`). A cause is nothing but its parts; a paging value may keep a
  reserved mode to itself, and a status keeps the bits that have no name.
-/

namespace Zicsr

theorem Xlen.toNat_lt_bound {x : Xlen} (v : x.Word) : v.toNat < Numeral.bound := by
  have hle : 2 ^ x.bits ≤ Numeral.bound := by cases x <;> decide
  exact Nat.lt_of_lt_of_le v.isLt hle

/-- The number that the field of a name is read as. -/
def number? (fields : List Field) (name : Text) : Option Nat :=
  ((fields.lookup name).map Numeral.read).bind Except.toOption

theorem number?_eq {fields : List Field} {name text : Text} {n : Nat}
    (hfield : fields.lookup name = some text) (hread : Numeral.read text = .ok n) :
    number? fields name = some n := by
  rw [number?, hfield, Option.map_some, hread]
  rfl

variable {x : Xlen}

/-! ## Causes -/

namespace Trap

theorem view_eq_iff {s t : Trap x} :
    s.view = t.view ↔ s.isInterrupt = t.isInterrupt ∧ s.code = t.code ∧ s.display = t.display := by
  have hkind : s.isInterrupt.toNat = t.isInterrupt.toNat ↔ s.isInterrupt = t.isInterrupt := by
    cases s.isInterrupt <;> cases t.isInterrupt <;> decide
  simp only [view, List.cons.injEq, Prod.mk.injEq, true_and, and_true, Numeral.decimal_inj,
    hkind, BitVec.toNat_inj]

theorem view_ofCause_inj {c d : x.Word} : (ofCause c).view = (ofCause d).view ↔ c = d := by
  refine ⟨fun h => ?_, fun h => by rw [h]⟩
  obtain ⟨htop, hcode, -⟩ := view_eq_iff.mp h
  calc c = (ofCause c).cause := (ofCause_eq_iff.mp rfl).2.symm
    _ = (ofCause d).cause := by rw [cause, cause, htop, hcode]
    _ = d := (ofCause_eq_iff.mp rfl).2

theorem number?_interrupt (t : Trap x) : number? t.view "INTERRUPT" = some t.isInterrupt.toNat := by
  have hlt : t.isInterrupt.toNat < Numeral.bound :=
    Nat.lt_of_le_of_lt (Bool.toNat_le _) (by decide)
  exact number?_eq rfl (Numeral.read_decimal hlt)

theorem number?_code (t : Trap x) : number? t.view "CODE" = some t.code.toNat :=
  number?_eq rfl (Numeral.read_decimal (Xlen.toNat_lt_bound t.code))

end Trap

/-! ## Paging -/

namespace Satp

def modeText (mode? : Option SatpMode) : Text := (mode?.map SatpMode.name).getD "<reserved>"

theorem modeText_inj {a b : Option SatpMode} : modeText a = modeText b ↔ a = b := by
  have hall : ∀ a ∈ none :: SatpMode.all.map some, ∀ b ∈ none :: SatpMode.all.map some,
      modeText a = modeText b → a = b := by decide
  have hmem : ∀ a, a ∈ none :: SatpMode.all.map some := by
    intro a
    cases a with
    | none => exact List.mem_cons_self
    | some mode => exact List.mem_cons_of_mem _ (List.mem_map_of_mem (SatpMode.coded.mem_all mode))
  exact ⟨hall a (hmem a) b (hmem b), congrArg modeText⟩

theorem view_eq_iff {s t : Satp x} :
    s.view = t.view ↔ s.mode? = t.mode? ∧ s.asid = t.asid ∧ s.ppn = t.ppn := by
  have hview (s : Satp x) : s.view = [("MODE".toList, modeText s.mode?),
      ("ASID".toList, Numeral.literal s.asid.toNat), ("PPN".toList, Numeral.literal s.ppn.toNat)] :=
    rfl
  simp only [hview, List.cons.injEq, Prod.mk.injEq, true_and, and_true, modeText_inj,
    Numeral.literal_inj, BitVec.toNat_inj]

theorem view_eq_iff_reserved {s t : Satp x} :
    s.view = t.view ↔
      s = t ∨ (s.mode? = none ∧ t.mode? = none ∧ s.asid = t.asid ∧ s.ppn = t.ppn) := by
  rw [view_eq_iff]
  constructor
  · rintro ⟨hmode, hasid, hppn⟩
    cases ht : t.mode? with
    | none => exact .inr ⟨hmode.trans ht, rfl, hasid, hppn⟩
    | some mode =>
      -- Both codes are that of the mode.
      have hs := (mode?_eq_some_iff.mp (hmode.trans ht)).2
      exact .inl (eq_of_fields_eq hppn hasid (hs.symm.trans (mode?_eq_some_iff.mp ht).2))
  · rintro (rfl | ⟨hs, ht, hasid, hppn⟩)
    · exact ⟨rfl, rfl, rfl⟩
    · exact ⟨hs.trans ht.symm, hasid, hppn⟩

theorem toNat_ppn (s : Satp x) : s.ppn.toNat = s.value.toNat % 2 ^ ppnBits x := by
  rw [ppn, Bits.toNat_getField, ppnLength_eq, Nat.pow_zero, Nat.div_one]

theorem toNat_asid (s : Satp x) :
    s.asid.toNat = s.value.toNat / 2 ^ ppnBits x % 2 ^ asidBits x := by
  rw [asid, Bits.toNat_getField, asidLength_eq, (SatpLayout.of_adjacent x).1, ppnLength_eq]

theorem number?_asid (s : Satp x) : number? s.view "ASID" = some s.asid.toNat :=
  number?_eq rfl (Numeral.read_literal (Xlen.toNat_lt_bound s.asid))

theorem number?_ppn (s : Satp x) : number? s.view "PPN" = some s.ppn.toNat :=
  number?_eq rfl (Numeral.read_literal (Xlen.toNat_lt_bound s.ppn))

end Satp

/-! ## Status -/

theorem Privilege.letter_inj {a b : Privilege} : a.letter = b.letter ↔ a = b := by
  cases a <;> cases b <;> decide

theorem StatusFlag.name_injective : Function.Injective name := by
  have hall : ∀ f ∈ all, ∀ g ∈ all, f.name = g.name → f = g := by decide
  exact fun f g => hall f f.mem_all g g.mem_all

namespace Mstatus

theorem view_eq_iff {s t : Mstatus x} :
    s.view = t.view ↔ s.flags = t.flags ∧ s.mpp = t.mpp ∧ s.fs = t.fs := by
  have hrow : Function.Injective (fun f : StatusFlag => (f.name, "1".toList)) :=
    fun f g h => StatusFlag.name_injective (Prod.mk.inj h).1
  constructor
  · intro h
    -- Two fields stand at the end of either view, so the rest of both is the flags.
    obtain ⟨hflags, hfields⟩ := List.append_inj' h rfl
    simp only [List.cons.injEq, Prod.mk.injEq, true_and, and_true, Numeral.decimal_inj,
      BitVec.toNat_inj, Privilege.letter_inj] at hfields
    exact ⟨List.map_injective_iff.mpr hrow hflags, hfields.1, hfields.2⟩
  · rintro ⟨hflags, hmpp, hfs⟩
    rw [view, view, hflags, hmpp, hfs]

theorem mem_small_iff {i : Nat} :
    i ∈ [11, 12, 13, 14] ↔ (mppLow ≤ i ∧ i < mppLow + 2) ∨ (fsLow ≤ i ∧ i < fsLow + 2) := by
  simp only [List.mem_cons, List.not_mem_nil, or_false, mppLow, fsLow]
  omega

theorem view_eq_iff_bits {s t : Mstatus x} :
    s.view = t.view ↔ (∀ f : StatusFlag, s.value.getLsbD f.bit = t.value.getLsbD f.bit) ∧
      ∀ i ∈ [11, 12, 13, 14], s.value.getLsbD i = t.value.getLsbD i := by
  rw [view_eq_iff]
  constructor
  · rintro ⟨hflags, hmpp, hfs⟩
    constructor
    · intro f
      have hmem : f ∈ s.flags ↔ f ∈ t.flags := by rw [hflags]
      exact Bool.eq_iff_iff.mpr (by simpa only [mem_flags] using hmem)
    · intro i hi
      rcases mem_small_iff.mp hi with ⟨hlow, hhigh⟩ | ⟨hlow, hhigh⟩
      · exact Bits.getLsbD_eq_of_getField_eq (getField_mpp_eq_of_mpp_eq hmpp) hlow hhigh
      · exact Bits.getLsbD_eq_of_getField_eq hfs hlow hhigh
  · rintro ⟨hflags, hsmall⟩
    refine ⟨flags_congr hflags, mpp_congr fun i hlow hhigh => ?_, fs_congr fun i hlow hhigh => ?_⟩
    · exact hsmall i (mem_small_iff.mpr (.inl ⟨hlow, hhigh⟩))
    · exact hsmall i (mem_small_iff.mpr (.inr ⟨hlow, hhigh⟩))

theorem names_view (s : Mstatus x) :
    (s.view.map Prod.fst).takeWhile (· ≠ "MPP".toList) = s.flags.map StatusFlag.name := by
  have hnames :
      s.view.map Prod.fst = s.flags.map StatusFlag.name ++ ["MPP".toList, "FS".toList] := by
    rw [view, List.map_append, List.map_map]
    rfl
  have hflag : ∀ t ∈ s.flags.map StatusFlag.name, decide (t ≠ "MPP".toList) = true := by
    have hall : ∀ f ∈ StatusFlag.all, decide (f.name ≠ "MPP".toList) = true := by decide
    exact List.forall_mem_map.mpr fun f _ => hall f f.mem_all
  rw [hnames, List.takeWhile_append_of_pos hflag]
  exact List.append_nil _

theorem pairwise_flags (s : Mstatus x) : s.flags.Pairwise (fun f g => f.bit < g.bit) := by
  have hall : StatusFlag.all.Pairwise (fun f g => f.bit < g.bit) := by decide
  exact hall.filter _

end Mstatus

/-! ## Views of registers -/

namespace Csr

theorem view?_mstatus (v : x.Word) : mstatus.view? v = some (Mstatus.mk v).view := rfl

theorem view?_satp (v : x.Word) : satp.view? v = some (Satp.mk v).view := rfl

theorem view?_cause {c : Csr} (h : c ∈ [mcause, scause]) (v : x.Word) :
    c.view? v = some (Trap.ofCause v).view := by
  rcases List.mem_cons.mp h with rfl | h
  · rfl
  · rw [List.mem_singleton.mp h]
    rfl

theorem view?_eq_none_iff {c : Csr} {v : x.Word} :
    c.view? v = none ↔ c ∉ [mstatus, satp, mcause, scause] := by
  rw [view?]
  grind

/-- A view is true to the value, and tells apart all values that differ in what it
shows. A cause is known by its view and is the sum of the two numbers in it. A paging
value is known by its view unless its mode is reserved, and the numbers in it are its
fields. A status shows the names of the flags that are set, in order of their bits,
and no other bits than those of the flags and of the two small fields. -/
theorem view?_faithful :
    (∀ (c : Csr) (v : x.Word), c.view? v = none ↔ c ∉ [mstatus, satp, mcause, scause]) ∧
    (∀ c ∈ [mcause, scause], ∀ v v' : x.Word,
      (c.view? v = c.view? v' ↔ v = v') ∧
      ∃ fields top code, c.view? v = some fields ∧ number? fields "INTERRUPT" = some top ∧
        number? fields "CODE" = some code ∧ v.toNat = 2 ^ (x.bits - 1) * top + code) ∧
    (∀ v v' : x.Word,
      (satp.view? v = satp.view? v' ↔ v = v' ∨
        (Satp.mk v).mode? = none ∧ (Satp.mk v').mode? = none ∧
        (Satp.mk v).asid = (Satp.mk v').asid ∧ (Satp.mk v).ppn = (Satp.mk v').ppn) ∧
      ∃ fields, satp.view? v = some fields ∧
        number? fields "ASID" = some (v.toNat / 2 ^ Satp.ppnBits x % 2 ^ Satp.asidBits x) ∧
        number? fields "PPN" = some (v.toNat % 2 ^ Satp.ppnBits x)) ∧
    (∀ v v' : x.Word,
      (mstatus.view? v = mstatus.view? v' ↔
        (∀ f : StatusFlag, v.getLsbD f.bit = v'.getLsbD f.bit) ∧
        ∀ i ∈ [11, 12, 13, 14], v.getLsbD i = v'.getLsbD i) ∧
      ∃ (fields : List Field) (flags : List StatusFlag), mstatus.view? v = some fields ∧
        (fields.map Prod.fst).takeWhile (· ≠ "MPP".toList) = flags.map StatusFlag.name ∧
        flags.Pairwise (fun f g => f.bit < g.bit) ∧
        ∀ f : StatusFlag, f ∈ flags ↔ v.getLsbD f.bit = true) := by
  refine ⟨fun c v => view?_eq_none_iff, ?cause, ?satp, ?mstatus⟩
  case cause =>
    intro c hc v v'
    simp only [view?_cause hc, Option.some.injEq]
    refine ⟨Trap.view_ofCause_inj, _, _, _, rfl, Trap.number?_interrupt _, Trap.number?_code _, ?_⟩
    obtain ⟨hcanonical, hcause⟩ := Trap.ofCause_eq_iff.mp (rfl : Trap.ofCause v = Trap.ofCause v)
    rw [← hcanonical.toNat_cause, hcause]
  case satp =>
    intro v v'
    have hview := Satp.view_eq_iff_reserved (s := ⟨v⟩) (t := ⟨v'⟩)
    rw [Satp.mk.injEq] at hview
    simp only [view?_satp, Option.some.injEq]
    refine ⟨hview, _, rfl, ?_, ?_⟩
    · rw [Satp.number?_asid, Satp.toNat_asid]
    · rw [Satp.number?_ppn, Satp.toNat_ppn]
  case mstatus =>
    intro v v'
    simp only [view?_mstatus, Option.some.injEq]
    exact ⟨Mstatus.view_eq_iff_bits, _, _, rfl, Mstatus.names_view _, Mstatus.pairwise_flags _,
      fun f => Mstatus.mem_flags⟩

/-- A cause whose code has no name and differs from another in its top bit only, two
paging values whose modes are reserved, and two states that differ in a bit without a
name: of the three pairs only the first is told apart. -/
theorem view?_faithful_pairs :
    scause ∈ [mcause, scause] ∧
      scause.view? (0x8000_0100 : Xlen.rv32.Word) ≠ scause.view? (0x100 : Xlen.rv32.Word) ∧
      satp.view? (0x1000_0000_0000_0005 : Xlen.rv64.Word) =
        satp.view? (0xF000_0000_0000_0005 : Xlen.rv64.Word) ∧
      mstatus.view? (0x8000_0000_0000_1888 : Xlen.rv64.Word) =
        mstatus.view? (0x1888 : Xlen.rv64.Word) := by
  obtain ⟨-, hcause, -, -⟩ := view?_faithful (x := .rv32)
  obtain ⟨-, -, hsatp, hmstatus⟩ := view?_faithful (x := .rv64)
  have hmem : scause ∈ [mcause, scause] := by decide
  refine ⟨hmem, ?_, (hsatp _ _).1.mpr (.inr ?_), (hmstatus _ _).1.mpr ⟨?_, ?_⟩⟩
  · exact mt (hcause scause hmem _ _).1.mp (by decide)
  · decide
  · intro f
    cases f <;> decide
  · decide

end Csr

end Zicsr
