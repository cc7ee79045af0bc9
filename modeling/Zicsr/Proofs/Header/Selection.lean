import Mathlib.Data.List.Induction
import Mathlib.Data.List.Nodup
import Zicsr.Proofs.Header.Lines

/-
  What a header declares.

  Choices are added one by one, and one that is there already changes nothing, so a
  header has the registers and the CSRs among its choices, each once and in the order
  of first choice (`addAll_empty`); how the two kinds were mixed does not matter
  (`addAll_congr`). Each of its lines defines the name that stands behind the
  directive (`defined?_defineLine`). No two of the names are alike: those of registers
  and of CSRs come from tables that share none, the calls are in capitals, and what
  else a CSR is called begins as no other name does (`nodup_names`).
-/

namespace Zicsr.Header

/-! ## The choices -/

def Item.register? : Item → Option Register
  | .register r => some r
  | .csr _ => none

def Item.csr? : Item → Option Csr
  | .register _ => none
  | .csr c => some c

/-- The registers among the choices, each once, in the order of first choice. -/
def chosenRegisters (items : List Item) : List Register :=
  (items.filterMap Item.register?).eraseDups

/-- The CSRs among the choices, each once, in the order of first choice. -/
def chosenCsrs (items : List Item) : List Csr := (items.filterMap Item.csr?).eraseDups

/-- Whether the header has the choice. -/
def Has (h : Header) : Item → Prop
  | .register r => r ∈ h.registers
  | .csr c => c ∈ h.csrs

theorem mem_chosenRegisters {items : List Item} {r : Register} :
    r ∈ chosenRegisters items ↔ .register r ∈ items := by
  rw [chosenRegisters, List.mem_eraseDups, List.mem_filterMap]
  constructor
  · rintro ⟨item, hitem, heq⟩
    cases item <;> cases heq
    exact hitem
  · exact fun h => ⟨_, h, rfl⟩

theorem mem_chosenCsrs {items : List Item} {c : Csr} :
    c ∈ chosenCsrs items ↔ .csr c ∈ items := by
  rw [chosenCsrs, List.mem_eraseDups, List.mem_filterMap]
  constructor
  · rintro ⟨item, hitem, heq⟩
    cases item <;> cases heq
    exact hitem
  · exact fun h => ⟨_, h, rfl⟩

/-! ## Adding one element -/

section AddNew

variable {α : Type} [DecidableEq α]

theorem addNew_of_mem {a : α} {l : List α} (h : a ∈ l) : addNew a l = l := if_pos h

theorem nodup_addNew {l : List α} (h : l.Nodup) (a : α) : (addNew a l).Nodup := by
  unfold addNew
  split
  · exact h
  · next ha =>
    rw [List.nodup_append]
    refine ⟨h, List.nodup_singleton a, ?_⟩
    rintro b hb c hc rfl
    rw [List.mem_singleton] at hc
    exact ha (hc ▸ hb)

theorem foldl_addNew (as : List α) :
    as.foldl (fun l a => addNew a l) [] = as.eraseDups := by
  -- By induction on the elements added, the last one apart.
  induction as using List.reverseRecOn with
  | nil => rfl
  | append_singleton as a ih =>
    rw [List.foldl_append, ih, List.foldl_cons, List.foldl_nil, List.eraseDups_append]
    by_cases ha : a ∈ as
    · rw [addNew_of_mem (List.mem_eraseDups.mpr ha)]
      simp [List.removeAll, ha]
    · rw [addNew, if_neg (mt List.mem_eraseDups.mp ha)]
      simp [List.removeAll, ha, List.eraseDups_cons]

theorem nodup_foldl_addNew {l : List α} (h : l.Nodup) (as : List α) :
    (as.foldl (fun l a => addNew a l) l).Nodup := by
  induction as generalizing l with
  | nil => exact h
  | cons a as ih => exact ih (nodup_addNew h a)

theorem nodup_eraseDups (as : List α) : as.eraseDups.Nodup := by
  rw [← foldl_addNew]
  exact nodup_foldl_addNew List.nodup_nil as

end AddNew

/-! ## Adding choices -/

theorem addAll_eq (h : Header) (items : List Item) :
    h.addAll items =
      ⟨(items.filterMap Item.register?).foldl (fun l r => addNew r l) h.registers,
        (items.filterMap Item.csr?).foldl (fun l c => addNew c l) h.csrs⟩ := by
  induction items generalizing h with
  | nil => rfl
  | cons item items ih =>
    rw [addAll, List.foldl_cons, ← addAll, ih]
    cases item <;> rfl

theorem addAll_empty (items : List Item) :
    empty.addAll items = ⟨chosenRegisters items, chosenCsrs items⟩ := by
  rw [addAll_eq, chosenRegisters, chosenCsrs, ← foldl_addNew, ← foldl_addNew]
  rfl

theorem addAll_standard (items : List Item) :
    standard.addAll items = empty.addAll (standardItems ++ items) := by
  rw [standard, addAll, addAll, addAll, List.foldl_append]

/-- Only the order of registers and that of CSRs matter. -/
theorem addAll_congr (h : Header) {items items' : List Item}
    (hregisters : items.filterMap Item.register? = items'.filterMap Item.register?)
    (hcsrs : items.filterMap Item.csr? = items'.filterMap Item.csr?) :
    h.addAll items = h.addAll items' := by
  rw [addAll_eq, addAll_eq, hregisters, hcsrs]

theorem add_of_has {h : Header} {item : Item} (hitem : h.Has item) : h.add item = h := by
  cases item with
  | register r => exact congrArg (fun l => { h with registers := l }) (addNew_of_mem hitem)
  | csr c => exact congrArg (fun l => { h with csrs := l }) (addNew_of_mem hitem)

theorem addAll_of_has (h : Header) {before : List Item} {item : Item}
    (hitem : (h.addAll before).Has item) (after : List Item) :
    h.addAll (before ++ item :: after) = h.addAll (before ++ after) := by
  simp only [addAll, List.foldl_append, List.foldl_cons] at hitem ⊢
  rw [add_of_has hitem]

/-! ## The names that lines define -/

/-- Whether the character may stand in an identifier. -/
def isIdentifier (c : Char) : Bool := c.isAlphanum || c == '_'

/-- The identifier that a line defines: the one behind the directive. -/
def defined? (line : Text) : Option Text :=
  if "#define ".toList <+: line then some ((line.drop 8).takeWhile isIdentifier) else none

/-- A line that defines something, with what it defines. -/
def declaration? (line : Text) : Option (Text × Text) := (defined? line).map (·, line)

/-- The definitions in a text, in the order of its lines. -/
def declarations (t : Text) : List (Text × Text) := (Text.lines t).filterMap declaration?

theorem defined?_defineLine {name : Text} (hname : name.all isIdentifier = true) (k : Nat)
    (value : Text) : defined? (defineLine (name ++ List.replicate k ' ') value) = some name := by
  have hline : defineLine (name ++ List.replicate k ' ') value =
      "#define ".toList ++ (name ++ (List.replicate k ' ' ++ ' ' :: value)) := by
    unfold defineLine
    rw [List.append_assoc, List.append_assoc]
  have hspace : (List.replicate k ' ' ++ ' ' :: value).takeWhile isIdentifier = [] := by
    cases k <;> rfl
  rw [hline, defined?, if_pos (List.prefix_append _ _)]
  show some ((name ++ (List.replicate k ' ' ++ ' ' :: value)).takeWhile isIdentifier) = _
  rw [List.takeWhile_append_of_pos (List.all_eq_true.mp hname), hspace, List.append_nil]

theorem all_isIdentifier {t : Text} (h : t.Alphanumeric) : t.all isIdentifier = true :=
  List.all_eq_true.mpr fun c hc => by rw [isIdentifier, h c hc, Bool.true_or]

theorem defined?_registerLine (r : Register) : defined? (registerLine r) = some r.name := by
  have hline := defined?_defineLine (all_isIdentifier r.alphanumeric_name) 0 (Numeral.decimal r.index)
  rwa [List.replicate_zero, List.append_nil] at hline

/-- A CSR of the table has its name there, which is read as the CSR; another is called by
its three digits. -/
theorem csrName_cases (c : Csr) :
    ((csrName c, c.address) ∈ Csr.table ∧ Csr.read? (csrName c) = some c) ∨
      ((∀ row ∈ Csr.table, row.2 ≠ c.address) ∧
        csrName c = "csr_".toList ++ Numeral.hexPadded 3 c.address) := by
  have hdisplay := Csr.read?_display c
  rw [Csr.display] at hdisplay
  rw [csrName]
  cases h : c.name? with
  | some t =>
    rw [h] at hdisplay
    exact .inl ⟨Csr.nameOf?_mem h, hdisplay⟩
  | none =>
    refine .inr ⟨fun row hrow heq => ?_, rfl⟩
    have hno := List.find?_eq_none.mp (Option.map_eq_none_iff.mp h) row hrow
    exact hno (beq_iff_eq.mpr heq)

theorem all_isIdentifier_csrName (c : Csr) : (csrName c).all isIdentifier = true := by
  rcases csrName_cases c with ⟨hmem, -⟩ | ⟨-, heq⟩
  · exact all_isIdentifier (Csr.alphanumeric_names _ hmem).1
  · have hdigits : (Numeral.hexPadded 3 c.address).all isIdentifier = true :=
      all_isIdentifier (Numeral.allDigits_hexPadded 3 c.address).alphanumeric
    rw [heq, List.all_append, hdigits]
    decide

theorem defined?_csrLine (width : Nat) (c : Csr) : defined? (csrLine width c) = some (csrName c) :=
  defined?_defineLine (all_isIdentifier_csrName c) _ _

/-- The names that every header defines: those of the calls and of the return. -/
def commonNames : List Text := ["CSRW", "CSRR", "CSRS", "CSRC", "CSRRW", "CSRRS", "CSRRC", "MRET"]

/-- The lines of the calls and of the return, which every header has. -/
def commonLines : List Text := callLines ++ [returnLine]

theorem map_defined?_commonLines : commonLines.map defined? = commonNames.map some := by
  decide

/-! ## No two names are alike -/

theorem csrName_injective : Function.Injective csrName := by
  intro c d h
  have heq : c.address = d.address := by
    have htable : ∀ row ∈ Csr.table, ¬ "csr_".toList <+: row.1 := by decide
    rcases csrName_cases c with ⟨hc, -⟩ | ⟨-, hc⟩ <;> rcases csrName_cases d with ⟨hd, -⟩ | ⟨-, hd⟩
    · rw [h] at hc
      exact Option.some.inj ((Csr.addressOf?_of_mem _ hc).symm.trans (Csr.addressOf?_of_mem _ hd))
    · rw [h, hd] at hc
      exact absurd (List.prefix_append _ _) (htable _ hc)
    · rw [← h, hc] at hd
      exact absurd (List.prefix_append _ _) (htable _ hd)
    · -- Both are called by their digits, which have the addresses as their values.
      rw [hc, hd] at h
      have hvalue := congrArg (Numeral.valueFrom 16 0) (List.append_cancel_left h)
      rwa [Numeral.valueFrom_hexPadded, Numeral.valueFrom_hexPadded] at hvalue
  cases c
  cases d
  cases heq
  rfl

theorem register_name_injective : Function.Injective Register.name := by
  intro r s h
  have hread := Register.read?_own r
  rw [h, Register.read?_own s] at hread
  exact (Option.some.inj hread).symm

theorem ne_csrName {t : Text} (htable : t ∉ Csr.table.map Prod.fst)
    (hbegin : ¬ "csr_".toList <+: t) (c : Csr) : t ≠ csrName c := by
  rintro rfl
  rcases csrName_cases c with ⟨hmem, -⟩ | ⟨-, heq⟩
  · exact htable (List.mem_map_of_mem hmem)
  · exact hbegin (heq ▸ List.prefix_append _ _)

theorem register_name_ne_csrName (r : Register) (c : Csr) : r.name ≠ csrName c := by
  have hall : ∀ r ∈ Register.all, r.name ∉ Csr.table.map Prod.fst ∧ ¬ "csr_".toList <+: r.name := by
    decide
  obtain ⟨htable, hbegin⟩ := hall r r.mem_all
  exact ne_csrName htable hbegin c

theorem register_name_not_common (r : Register) : r.name ∉ commonNames := by
  have hall : ∀ r ∈ Register.all, r.name ∉ commonNames := by decide
  exact hall r r.mem_all

theorem csrName_not_common (c : Csr) : csrName c ∉ commonNames := by
  have hall : ∀ t ∈ commonNames, t ∉ Csr.table.map Prod.fst ∧ ¬ "csr_".toList <+: t := by
    decide
  intro hm
  obtain ⟨htable, hbegin⟩ := hall _ hm
  exact ne_csrName htable hbegin c rfl

theorem nodup_names {registers : List Register} {csrs : List Csr} (hregisters : registers.Nodup)
    (hcsrs : csrs.Nodup) :
    (registers.map Register.name ++ csrs.map csrName ++ commonNames).Nodup := by
  rw [List.nodup_append, List.nodup_append]
  refine ⟨⟨hregisters.map register_name_injective, hcsrs.map csrName_injective, ?_⟩,
    by decide, ?_⟩
  · intro a ha b hb
    obtain ⟨r, -, rfl⟩ := List.mem_map.mp ha
    obtain ⟨c, -, rfl⟩ := List.mem_map.mp hb
    exact register_name_ne_csrName r c
  · rintro a ha b hb rfl
    rcases List.mem_append.mp ha with ha | ha
    · obtain ⟨r, -, rfl⟩ := List.mem_map.mp ha
      exact register_name_not_common r hb
    · obtain ⟨c, -, rfl⟩ := List.mem_map.mp ha
      exact csrName_not_common c hb

/-! ## The text -/

theorem filterMap_declaration? {lines names : List Text} (h : lines.map defined? = names.map some) :
    lines.filterMap declaration? = names.zip lines := by
  induction lines generalizing names with
  | nil => rw [List.zip_nil_right, List.filterMap_nil]
  | cons line lines ih =>
    cases names with
    | nil => cases h
    | cons name names =>
      obtain ⟨hline, hrest⟩ := List.cons.inj h
      have hdeclared : declaration? line = some (name, line) := by
        rw [declaration?, hline, Option.map_some]
      rw [List.filterMap_cons_some hdeclared, ih hrest, List.zip_cons_cons]

theorem declarations_text (h : Header) :
    declarations h.text =
      h.registers.map (fun r => (r.name, registerLine r)) ++
        h.csrs.map (fun c => (csrName c, csrLine (nameWidth h.csrs) c)) ++
        commonNames.zip commonLines := by
  have hempty : declaration? [] = none := by decide
  have hopening : opening.filterMap declaration? = [] := by decide
  have hregisters : (h.registers.map registerLine).map defined? =
      (h.registers.map Register.name).map some := by
    simp only [List.map_map, Function.comp_def, defined?_registerLine]
  have hcsrs : (h.csrs.map (csrLine (nameWidth h.csrs))).map defined? =
      (h.csrs.map csrName).map some := by
    simp only [List.map_map, Function.comp_def, defined?_csrLine]
  have hcalls : callLines.filterMap declaration? ++ [returnLine].filterMap declaration? =
      commonNames.zip commonLines := by
    rw [← List.filterMap_append]
    exact filterMap_declaration? map_defined?_commonLines
  rw [declarations, lines_text, lines]
  simp only [List.filterMap_append, filterMap_group hempty, hopening, List.nil_append,
    filterMap_declaration? hregisters, filterMap_declaration? hcsrs, List.zip_map',
    List.append_assoc, hcalls]

/-- The width is that of the longest name. -/
theorem nameWidth_spec (csrs : List Csr) :
    (∀ c ∈ csrs, (csrName c).length ≤ nameWidth csrs) ∧
      (csrs ≠ [] → ∃ c ∈ csrs, (csrName c).length = nameWidth csrs) := by
  have hwidth : nameWidth csrs = (csrs.map (fun c => (csrName c).length)).max?.getD 0 := by
    rw [nameWidth, List.foldl_max, Nat.zero_max]
  rw [hwidth]
  refine ⟨fun c hc => List.le_max?_getD_of_mem (List.mem_map_of_mem hc), fun hne => ?_⟩
  cases hmax : (csrs.map (fun c => (csrName c).length)).max? with
  | none => exact absurd (List.map_eq_nil_iff.mp (List.max?_eq_none_iff.mp hmax)) hne
  | some n => exact List.mem_map.mp (List.max?_mem hmax)

/-! ## Declaring a selection -/

/-- Whether a text declares just the choices, and the calls. -/
structure Declares (items : List Item) (t : Text) : Prop where
  /-- The definitions are those of the registers, each with its number; of the CSRs, each
  with its address, their names padded to the longest; and of the calls. -/
  declarations : ∃ width,
    (∀ c ∈ chosenCsrs items, (csrName c).length ≤ width) ∧
    (chosenCsrs items ≠ [] → ∃ c ∈ chosenCsrs items, (csrName c).length = width) ∧
    Header.declarations t =
      (chosenRegisters items).map (fun r =>
        (r.name, "#define ".toList ++ r.name ++ ' ' :: Numeral.decimal r.index)) ++
      (chosenCsrs items).map (fun c =>
        (csrName c, "#define ".toList ++ Text.padRight width (csrName c) ++
          ' ' :: '0' :: 'x' :: Numeral.hexPadded 3 c.address)) ++
      commonNames.zip commonLines
  /-- Each choice is declared once, and nothing else. -/
  registers_once : (chosenRegisters items).Nodup ∧
    ∀ r, r ∈ chosenRegisters items ↔ .register r ∈ items
  csrs_once : (chosenCsrs items).Nodup ∧ ∀ c, c ∈ chosenCsrs items ↔ .csr c ∈ items
  /-- No identifier is defined twice. -/
  distinct : ((Header.declarations t).map Prod.fst).Nodup
  /-- The name of a register is read as the register. -/
  register_read : ∀ r ∈ chosenRegisters items, Register.read? r.name = some r
  /-- An address has three digits. The name of a CSR is that of the table and is read as
  the CSR; if the table has none, the digits are its name. -/
  csr_read : ∀ c ∈ chosenCsrs items, (Numeral.hexPadded 3 c.address).length = 3 ∧
    (((csrName c, c.address) ∈ Csr.table ∧ Csr.read? (csrName c) = some c) ∨
      ((∀ row ∈ Csr.table, row.2 ≠ c.address) ∧
        csrName c = "csr_".toList ++ Numeral.hexPadded 3 c.address))

theorem declares_text (items : List Item) : Declares items (empty.addAll items).text where
  declarations := by
    obtain ⟨hle, hmax⟩ := nameWidth_spec (chosenCsrs items)
    refine ⟨nameWidth (chosenCsrs items), hle, hmax, ?_⟩
    rw [declarations_text, addAll_empty]
    rfl
  registers_once := ⟨nodup_eraseDups _, fun _ => mem_chosenRegisters⟩
  csrs_once := ⟨nodup_eraseDups _, fun _ => mem_chosenCsrs⟩
  distinct := by
    have hcalls : (commonNames.zip commonLines).map Prod.fst = commonNames :=
      List.map_fst_zip (by decide)
    rw [declarations_text, addAll_empty]
    simp only [List.map_append, List.map_map, Function.comp_def, hcalls]
    exact nodup_names (nodup_eraseDups _) (nodup_eraseDups _)
  register_read r _ := r.read?_own
  csr_read c _ := ⟨Numeral.length_hexPadded (by decide) c.address_lt, csrName_cases c⟩

/-- A header declares just what was chosen, be it started empty or with the standard
choices. From any start, to choose again what is there already, or to mix registers and
CSRs otherwise while each keep their order, leaves the text as it is. -/
theorem addAll_declares (items : List Item) :
    Declares items (empty.addAll items).text ∧
    Declares (standardItems ++ items) (standard.addAll items).text ∧
    ∀ start : Header,
      (∀ before item after, items = before ++ item :: after → (start.addAll before).Has item →
        (start.addAll items).text = (start.addAll (before ++ after)).text) ∧
      ∀ items', items'.filterMap Item.register? = items.filterMap Item.register? →
        items'.filterMap Item.csr? = items.filterMap Item.csr? →
        (start.addAll items').text = (start.addAll items).text := by
  refine ⟨declares_text items, ?standard, fun start => ⟨?again, ?mixed⟩⟩
  case standard =>
    rw [addAll_standard]
    exact declares_text (standardItems ++ items)
  case again =>
    rintro before item after rfl hitem
    rw [addAll_of_has start hitem after]
  case mixed =>
    intro items' hregisters hcsrs
    rw [addAll_congr start hregisters hcsrs]

/-- A register that is chosen twice, with a CSR of the table and another one between: once
is enough, and the registers may all come first. -/
theorem addAll_declares_again :
    let a0 : Item := .register ⟨10, by decide⟩
    let custom : Item := .csr ⟨0x7C0, by decide⟩
    let cycle : Item := .csr ⟨0xC00, by decide⟩
    (standard.addAll [custom, a0, cycle, a0]).text = (standard.addAll [custom, a0, cycle]).text ∧
      (standard.addAll [a0, custom, cycle]).text = (standard.addAll [custom, a0, cycle]).text ∧
      ((declarations (standard.addAll [custom, a0, cycle]).text).map Prod.fst).Nodup := by
  intro a0 custom cycle
  obtain ⟨-, -, htwice⟩ := addAll_declares [custom, a0, cycle, a0]
  obtain ⟨-, hdeclared, honce⟩ := addAll_declares [custom, a0, cycle]
  have hhas : (standard.addAll [custom, a0, cycle]).Has a0 := by
    show (⟨10, by decide⟩ : Register) ∈ (standard.addAll [custom, a0, cycle]).registers
    decide
  exact ⟨(htwice standard).1 [custom, a0, cycle] a0 [] rfl hhas,
    (honce standard).2 [a0, custom, cycle] rfl rfl, hdeclared.distinct⟩

end Zicsr.Header
