import Mathlib.Data.Finset.Dedup
import Mathlib.Data.Finset.Filter
import Mathlib.Data.Finset.Range
import Mathlib.Data.Finset.SDiff
import Zicsr.Csr.Mstatus
import Zicsr.Proofs.Bits

/-
  The status register as a record.

  A word stands for the set of its flags, its two small fields and the positions of
  the other bits that are set (`status`). Each change of the word is one update of
  that record (`status_apply`), so a run of changes is a run of updates; and the
  record leaves nothing out, since words of one record are equal
  (`eq_of_status_eq`). Both rest on the positions: no two flags share one, and none
  lies in the small fields.
-/

namespace Zicsr

namespace StatusFlag

variable {x : Xlen}

theorem mem_all (f : StatusFlag) : f ∈ all := by
  cases f <;> decide

theorem bit_inj {f g : StatusFlag} : f.bit = g.bit ↔ f = g := by
  have hall : ∀ f ∈ all, ∀ g ∈ all, f.bit = g.bit → f = g := by decide
  exact ⟨hall f (mem_all f) g (mem_all g), congrArg bit⟩

theorem bit_lt (x : Xlen) (f : StatusFlag) : f.bit < x.bits := by
  cases x <;> cases f <;> decide

/-- The flags lie below and above the two small fields. -/
theorem bit_apart (f : StatusFlag) : f.bit < Mstatus.mppLow ∨ Mstatus.fsLow + 2 ≤ f.bit := by
  cases f <;> decide

theorem getLsbD_foldl_mask (flags : List StatusFlag) (m : x.Word) (i : Nat) :
    (flags.foldl (fun m f => m ||| BitVec.twoPow x.bits f.bit) m).getLsbD i =
      (m.getLsbD i || decide (∃ f ∈ flags, f.bit = i)) := by
  induction flags generalizing m with
  | nil => simp
  | cons f flags ih =>
    have hbit : (BitVec.twoPow x.bits f.bit).getLsbD i = decide (f.bit = i) := by
      rw [BitVec.getLsbD_twoPow]
      by_cases h : f.bit = i
      · simp [h ▸ bit_lt x f, h]
      · simp [h]
    rw [List.foldl_cons, ih, BitVec.getLsbD_or, hbit, Bool.or_assoc]
    simp

theorem getLsbD_mask (flags : List StatusFlag) (i : Nat) :
    (mask x flags).getLsbD i = decide (∃ f ∈ flags, f.bit = i) := by
  simp [mask, getLsbD_foldl_mask]

end StatusFlag

namespace Privilege

theorem ofCode_code (level : Privilege) : ofCode level.code = level := by
  cases level <;> rfl

theorem ofCode_mod_four (n : Nat) : ofCode (n % 4) = ofCode n := by
  rw [ofCode, ofCode, Nat.mod_mod]

theorem code_ofCode {n : Nat} (h : n < 4) : (ofCode n).code = n := by
  match n, h with
  | 0, _ | 1, _ | 2, _ | 3, _ => rfl

end Privilege

/-- What a status register holds. -/
@[ext]
structure Status where
  flags : Finset StatusFlag
  /-- The level that a machine-mode trap returns to. -/
  mpp : Privilege
  /-- The state of the floating-point unit. -/
  fs : Nat
  /-- The positions of the other bits that are set. -/
  rest : Finset Nat
  deriving DecidableEq

def Status.apply {x : Xlen} (status : Status) : Mstatus.Step x → Status
  | .setFlags flags => { status with flags := status.flags ∪ flags.toFinset }
  | .clearFlags flags => { status with flags := status.flags \ flags.toFinset }
  | .setMpp level => { status with mpp := level }
  | .setFs fs => { status with fs := fs.toNat % 4 }

theorem Status.rest_apply {x : Xlen} (status : Status) (step : Mstatus.Step x) :
    (status.apply step).rest = status.rest := by
  cases step <;> rfl

namespace Mstatus

variable {x : Xlen}

/-- The position is that of a flag or lies in one of the small fields. -/
def IsNamed (i : Nat) : Prop :=
  (∃ f ∈ StatusFlag.all, f.bit = i) ∨
    (mppLow ≤ i ∧ i < mppLow + 2) ∨ (fsLow ≤ i ∧ i < fsLow + 2)

instance : DecidablePred IsNamed := fun _ => inferInstanceAs (Decidable (_ ∨ _))

/-- The record that a word stands for. -/
def status (s : Mstatus x) : Status where
  flags := s.flags.toFinset
  mpp := s.mpp
  fs := s.fs.toNat
  rest := (Finset.range x.bits).filter (fun i => ¬ IsNamed i ∧ s.value.getLsbD i)

/-! ## Parts and their bits -/

theorem mem_flags {s : Mstatus x} {f : StatusFlag} : f ∈ s.flags ↔ s.value.getLsbD f.bit := by
  simp [flags, StatusFlag.mem_all]

theorem mem_rest {s : Mstatus x} {i : Nat} :
    i ∈ s.status.rest ↔ i < x.bits ∧ ¬ IsNamed i ∧ s.value.getLsbD i := by
  simp [status]

theorem flags_congr {s t : Mstatus x}
    (h : ∀ f : StatusFlag, s.value.getLsbD f.bit = t.value.getLsbD f.bit) : s.flags = t.flags :=
  List.filter_congr fun f _ => h f

theorem mpp_congr {s t : Mstatus x}
    (h : ∀ i, mppLow ≤ i → i < mppLow + 2 → s.value.getLsbD i = t.value.getLsbD i) :
    s.mpp = t.mpp := by
  rw [mpp, mpp, Bits.getField_congr h]

theorem fs_congr {s t : Mstatus x}
    (h : ∀ i, fsLow ≤ i → i < fsLow + 2 → s.value.getLsbD i = t.value.getLsbD i) :
    s.fs = t.fs :=
  Bits.getField_congr h

theorem rest_congr {s t : Mstatus x}
    (h : ∀ i, ¬ IsNamed i → s.value.getLsbD i = t.value.getLsbD i) :
    s.status.rest = t.status.rest := by
  ext i
  rw [mem_rest, mem_rest]
  refine and_congr_right fun _ => and_congr_right fun hi => ?_
  rw [h i hi]

theorem getLsbD_withFlags (s : Mstatus x) (flags : List StatusFlag) (i : Nat) :
    (s.withFlags flags).value.getLsbD i =
      (s.value.getLsbD i || decide (∃ f ∈ flags, f.bit = i)) := by
  rw [withFlags, BitVec.getLsbD_or, StatusFlag.getLsbD_mask]

theorem getLsbD_withoutFlags (s : Mstatus x) (flags : List StatusFlag) (i : Nat) :
    (s.withoutFlags flags).value.getLsbD i =
      (s.value.getLsbD i && !decide (∃ f ∈ flags, f.bit = i)) := by
  rw [withoutFlags, BitVec.getLsbD_and, BitVec.getLsbD_not, StatusFlag.getLsbD_mask]
  by_cases hi : i < x.bits
  · simp [hi]
  · simp [BitVec.getLsbD_of_ge s.value i (by omega)]

theorem not_flag_of_small {i : Nat} (hlow : mppLow ≤ i) (hhigh : i < fsLow + 2)
    (flags : List StatusFlag) : ¬ ∃ f ∈ flags, f.bit = i := by
  rintro ⟨f, -, rfl⟩
  have := f.bit_apart
  omega

theorem not_flag_of_not_isNamed {i : Nat} (h : ¬ IsNamed i) (flags : List StatusFlag) :
    ¬ ∃ f ∈ flags, f.bit = i := by
  rintro ⟨f, -, rfl⟩
  exact h (.inl ⟨f, f.mem_all, rfl⟩)

/-! ## One change -/

theorem status_eq_of_flags {s t : Mstatus x} {flags : List StatusFlag}
    (h : ∀ i, (¬ ∃ f ∈ flags, f.bit = i) → t.value.getLsbD i = s.value.getLsbD i) :
    t.status = { s.status with flags := t.flags.toFinset } := by
  have hmpp : t.mpp = s.mpp := mpp_congr fun i hlow hhigh =>
    h i (not_flag_of_small hlow (by unfold mppLow fsLow at *; omega) _)
  have hfs : t.fs = s.fs := fs_congr fun i hlow hhigh =>
    h i (not_flag_of_small (by unfold mppLow fsLow at *; omega) hhigh _)
  have hrest : t.status.rest = s.status.rest := rest_congr fun i hi =>
    h i (not_flag_of_not_isNamed hi _)
  exact Status.ext rfl hmpp (congrArg BitVec.toNat hfs) hrest

theorem status_withFlags (s : Mstatus x) (flags : List StatusFlag) :
    (s.withFlags flags).status = s.status.apply (.setFlags flags : Step x) := by
  have hflags : (s.withFlags flags).flags.toFinset = s.flags.toFinset ∪ flags.toFinset := by
    ext f
    simp [mem_flags, getLsbD_withFlags, StatusFlag.bit_inj]
  rw [status_eq_of_flags (s := s) fun i hi => by
    rw [getLsbD_withFlags, decide_eq_false hi, Bool.or_false], hflags]
  rfl

theorem status_withoutFlags (s : Mstatus x) (flags : List StatusFlag) :
    (s.withoutFlags flags).status = s.status.apply (.clearFlags flags : Step x) := by
  have hflags : (s.withoutFlags flags).flags.toFinset = s.flags.toFinset \ flags.toFinset := by
    ext f
    simp [mem_flags, getLsbD_withoutFlags, StatusFlag.bit_inj]
  rw [status_eq_of_flags (s := s) fun i hi => by
    rw [getLsbD_withoutFlags, decide_eq_false hi, Bool.not_false, Bool.and_true], hflags]
  rfl

/-- Writing one of the small fields leaves the flags and the bits without a name. -/
theorem status_eq_of_small {s t : Mstatus x} {low : Nat} (hlow : low = mppLow ∨ low = fsLow)
    (h : ∀ i, ¬ (low ≤ i ∧ i < low + 2) → t.value.getLsbD i = s.value.getLsbD i) :
    t.status = { s.status with mpp := t.mpp, fs := t.fs.toNat } := by
  have hflags : t.flags = s.flags := flags_congr fun f => by
    have hapart := f.bit_apart
    exact h f.bit (by unfold mppLow fsLow at *; omega)
  have hrest : t.status.rest = s.status.rest := rest_congr fun i hi => by
    refine h i fun hsmall => hi (.inr ?_)
    rcases hlow with rfl | rfl
    · exact .inl hsmall
    · exact .inr hsmall
  exact Status.ext (congrArg List.toFinset hflags) rfl rfl hrest

theorem getLsbD_withMpp (s : Mstatus x) (level : Privilege) {i : Nat}
    (h : ¬ (mppLow ≤ i ∧ i < mppLow + 2)) :
    (s.withMpp level).value.getLsbD i = s.value.getLsbD i := by
  rw [withMpp, Bits.getLsbD_setField, if_neg fun hi => h ⟨hi.1, hi.2.1⟩]

theorem getLsbD_withFs (s : Mstatus x) (fs : x.Word) {i : Nat}
    (h : ¬ (fsLow ≤ i ∧ i < fsLow + 2)) :
    (s.withFs fs).value.getLsbD i = s.value.getLsbD i := by
  rw [withFs, Bits.getLsbD_setField, if_neg fun hi => h ⟨hi.1, hi.2.1⟩]

theorem toNat_getField_setField (value field : x.Word) {low : Nat}
    (h : low = mppLow ∨ low = fsLow) :
    (Bits.getField (Bits.setField value low 2 field) low 2).toNat = field.toNat % 4 := by
  have hlow : low + 2 ≤ x.bits := by
    cases x <;> rcases h with rfl | rfl <;> decide
  exact Bits.toNat_getField_setField value field hlow

theorem status_withMpp (s : Mstatus x) (level : Privilege) :
    (s.withMpp level).status = s.status.apply (.setMpp level : Step x) := by
  have hmpp : (s.withMpp level).mpp = level := by
    have hcode : level.code < 2 ^ x.bits := by
      cases x <;> cases level <;> decide
    rw [mpp, withMpp, toNat_getField_setField _ _ (.inl rfl), Privilege.ofCode_mod_four,
      BitVec.toNat_ofNat, Nat.mod_eq_of_lt hcode, Privilege.ofCode_code]
  have hfs : (s.withMpp level).fs = s.fs := fs_congr fun i hlow hhigh =>
    getLsbD_withMpp s level (by unfold mppLow fsLow at *; omega)
  rw [status_eq_of_small (.inl rfl) fun i => getLsbD_withMpp s level, hmpp, hfs]
  rfl

theorem status_withFs (s : Mstatus x) (fs : x.Word) :
    (s.withFs fs).status = s.status.apply (.setFs fs : Step x) := by
  have hfs : (s.withFs fs).fs.toNat = fs.toNat % 4 := toNat_getField_setField _ _ (.inr rfl)
  have hmpp : (s.withFs fs).mpp = s.mpp := mpp_congr fun i hlow hhigh =>
    getLsbD_withFs s fs (by unfold mppLow fsLow at *; omega)
  rw [status_eq_of_small (.inr rfl) fun i => getLsbD_withFs s fs, hmpp, hfs]
  rfl

theorem status_apply (s : Mstatus x) (step : Step x) :
    (s.apply step).status = s.status.apply step := by
  cases step with
  | setFlags flags => exact status_withFlags s flags
  | clearFlags flags => exact status_withoutFlags s flags
  | setMpp level => exact status_withMpp s level
  | setFs fs => exact status_withFs s fs

/-! ## Runs of changes -/

theorem map_status_trace (s : Mstatus x) (steps : List (Step x)) :
    (s.trace steps).map status = steps.scanl Status.apply s.status := by
  induction steps generalizing s with
  | nil => rfl
  | cons step steps ih => rw [trace, List.map_cons, ih, status_apply, List.scanl_cons]

theorem rest_of_mem_trace {s t : Mstatus x} {steps : List (Step x)} (h : t ∈ s.trace steps) :
    t.status.rest = s.status.rest := by
  induction steps generalizing s with
  | nil => rw [List.mem_singleton.mp h]
  | cons step steps ih =>
    rcases List.mem_cons.mp h with rfl | htail
    · rfl
    · rw [ih htail, status_apply, Status.rest_apply]

/-! ## The record is the whole word -/

theorem getField_mpp_eq_of_mpp_eq {s t : Mstatus x} (h : s.mpp = t.mpp) :
    Bits.getField s.value mppLow 2 = Bits.getField t.value mppLow 2 := by
  have hlt (u : Mstatus x) : (Bits.getField u.value mppLow 2).toNat < 4 := Bits.getField_lt ..
  apply BitVec.eq_of_toNat_eq
  rw [← Privilege.code_ofCode (hlt s), ← Privilege.code_ofCode (hlt t)]
  exact congrArg Privilege.code h

theorem eq_of_status_eq {s t : Mstatus x} (h : s.status = t.status) : s = t := by
  have hflags : s.flags.toFinset = t.flags.toFinset := congrArg Status.flags h
  have hmpp := getField_mpp_eq_of_mpp_eq (congrArg Status.mpp h)
  have hfs : s.fs = t.fs := BitVec.eq_of_toNat_eq (congrArg Status.fs h)
  have hrest : s.status.rest = t.status.rest := congrArg Status.rest h
  suffices hvalue : s.value = t.value by
    cases s
    cases t
    exact congrArg _ hvalue
  apply BitVec.eq_of_getLsbD_eq
  intro i hi
  by_cases hnamed : IsNamed i
  · rcases hnamed with ⟨f, -, rfl⟩ | ⟨hlow, hhigh⟩ | ⟨hlow, hhigh⟩
    · have hmem := Finset.ext_iff.mp hflags f
      rw [List.mem_toFinset, List.mem_toFinset, mem_flags, mem_flags] at hmem
      exact Bool.eq_iff_iff.mpr hmem
    · exact Bits.getLsbD_eq_of_getField_eq hmpp hlow hhigh
    · exact Bits.getLsbD_eq_of_getField_eq hfs hlow hhigh
  · have hmem := Finset.ext_iff.mp hrest i
    rw [mem_rest, mem_rest] at hmem
    exact Bool.eq_iff_iff.mpr (by simpa [hi, hnamed] using hmem)

/-- Every run of changes is the run of the updates of the record: the flags gain or
lose what the change names, the small fields are what was last written to them
(the floating-point state modulo four), each change touches its own part only, and
the other bits stay. The record says all there is to say of a word. -/
theorem trace_refines_status :
    (∀ (s : Mstatus x) (steps : List (Step x)),
      (s.trace steps).map status = steps.scanl Status.apply s.status ∧
        ∀ t ∈ s.trace steps, t.status.rest = s.status.rest) ∧
    ∀ s t : Mstatus x, s.status = t.status → s = t :=
  ⟨fun s steps => ⟨map_status_trace s steps, fun _ => rest_of_mem_trace⟩,
    fun _ _ => eq_of_status_eq⟩

/-- A run that writes one field after another, and the same word by the other order:
what does not fit the floating-point state is dropped, and its neighbours stay. -/
theorem trace_refines_status_orders :
    let s : Mstatus .rv64 := ⟨0x8000_0000_0000_1888⟩
    let run : List (Step .rv64) := [.setFs 7, .setMpp .supervisor, .clearFlags [.mie, .tsr]]
    let other : List (Step .rv64) := [.clearFlags [.mie, .tsr], .setMpp .supervisor, .setFs 3]
    (s.trace run).map status =
        [⟨{.mie, .mpie}, .machine, 0, {63}⟩, ⟨{.mie, .mpie}, .machine, 3, {63}⟩,
          ⟨{.mie, .mpie}, .supervisor, 3, {63}⟩, ⟨{.mpie}, .supervisor, 3, {63}⟩] ∧
      (run.foldl apply s).status.rest = {63} ∧
      run.foldl apply s = other.foldl apply s := by
  intro s run other
  obtain ⟨hrun, hrest⟩ := trace_refines_status.1 s run
  refine ⟨hrun.trans (by decide), ?_, ?_⟩
  · rw [hrest _ (by decide)]
    decide
  · exact trace_refines_status.2 _ _ (by decide)

end Mstatus

end Zicsr
