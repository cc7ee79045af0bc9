import Zicsr.Register
import Zicsr.Csr.Basic
import Zicsr.Proofs.Numeral

/-
  Printed names are read back.

  A register text is looked up among the names and then read as `x` and a number, so
  it is read exactly as the register it spells (`Register.read?_eq_some_iff`). A CSR is
  printed by its name or as a numeral; no name looks like a numeral, so both are read
  back, and the numeral of an address that no CSR has is not read at all
  (`Csr.read?_displayAddress`). Names are made of letters and digits, so they are plain:
  they hold no blank and no mark of the line syntax.
-/

namespace Zicsr

/-! ## Plain texts -/

/-- Whether the character is neither blank nor a mark of the line syntax. -/
def Text.isPlain (c : Char) : Bool := !isBlank c && c ∉ ['(', ')', ',', '#', '/']

def Text.Plain (t : Text) : Prop := ∀ c ∈ t, isPlain c = true

instance (t : Text) : Decidable t.Plain :=
  decidable_of_iff (t.all Text.isPlain = true) List.all_eq_true

namespace Text.Plain

variable {t : Text}

theorem noBlank (h : t.Plain) : t.NoBlank := fun c hc => by
  have hp := h c hc
  simp only [isPlain, Bool.and_eq_true, Bool.not_eq_true'] at hp
  exact hp.1

theorem not_mem (h : t.Plain) {c : Char} (hc : isPlain c = false) : c ∉ t := fun hm => by
  simp [h c hm] at hc

end Text.Plain

/-! ## Characters that a text does not hold -/

namespace Text

/-- Whether the text holds none of the marks. -/
def Avoids (marks t : Text) : Prop := ∀ c ∈ marks, c ∉ t

instance (marks t : Text) : Decidable (Avoids marks t) :=
  decidable_of_iff (marks.all (fun c => c ∉ t) = true) (by simp [Avoids])

variable {marks a b : Text}

theorem Avoids.append (ha : Avoids marks a) (hb : Avoids marks b) : Avoids marks (a ++ b) :=
  fun c hc => by
    rw [List.mem_append, not_or]
    exact ⟨ha c hc, hb c hc⟩

end Text

/-! ## Letters and digits -/

/-- Whether the text is made of letters and digits. -/
def Text.Alphanumeric (t : Text) : Prop := ∀ c ∈ t, c.isAlphanum = true

instance (t : Text) : Decidable t.Alphanumeric :=
  decidable_of_iff (t.all Char.isAlphanum = true) List.all_eq_true

theorem Text.toNat_lt_of_isAlphanum {c : Char} (h : c.isAlphanum = true) : c.toNat < 123 := by
  have hc : ((decide ('A'.val ≤ c.val ∧ c.val ≤ 'Z'.val) ||
      (decide ('a'.val ≤ c.val) && decide (c.val ≤ 'z'.val))) ||
      (decide ('0'.val ≤ c.val) && decide (c.val ≤ '9'.val))) = true := h
  simp only [Bool.or_eq_true, Bool.and_eq_true, decide_eq_true_eq, UInt32.le_iff_toNat_le] at hc
  rcases hc with (⟨-, hc⟩ | ⟨-, hc⟩) | ⟨-, hc⟩
  all_goals exact Nat.lt_of_le_of_lt hc (by decide)

namespace Text.Alphanumeric

variable {t : Text}

theorem plain (h : t.Alphanumeric) : t.Plain := fun c hc => by
  have hlt := toNat_lt_of_isAlphanum (h c hc)
  exact Numeral.char_forall (P := fun c => c.isAlphanum = true → isPlain c = true) (n := 123)
    (by decide) (Nat.zero_le _) (by omega) (h c hc)

theorem avoids (h : t.Alphanumeric) {marks : Text} (hmarks : marks.any Char.isAlphanum = false) :
    Avoids marks t := fun c hc hm =>
  List.any_eq_false.mp hmarks c hc (h c hm)

end Text.Alphanumeric

theorem Numeral.AllDigits.avoids {marks t : Text} (h : AllDigits 16 t)
    (hmarks : ∀ d < 16, Nat.digitChar d ∉ marks) : Text.Avoids marks t := fun c hc hm => by
  obtain ⟨d, hd, rfl⟩ := h c hm
  exact hmarks d hd hc

/-! ## Numerals -/

namespace Numeral

theorem isAlphanum_digitChar : ∀ d < 16, (Nat.digitChar d).isAlphanum = true := by decide

theorem AllDigits.alphanumeric {t : Text} (h : AllDigits 16 t) : t.Alphanumeric := fun c hc => by
  obtain ⟨d, hd, rfl⟩ := h c hc
  exact isAlphanum_digitChar d hd

theorem plain_decimal (n : Nat) : (decimal n).Plain :=
  ((allDigits_decimal n).mono (by decide)).alphanumeric.plain

theorem plain_literalPadded (width n : Nat) : (literalPadded width n).Plain :=
  List.forall_mem_cons.mpr ⟨rfl, List.forall_mem_cons.mpr ⟨rfl, (allDigits_hexPadded width n).alphanumeric.plain⟩⟩

end Numeral

/-! ## Registers -/

namespace Register

/-- The registers in order of their numbers. -/
def all : List Register := (List.range 32).filterMap ofIndex?

/-- Every spelling of a register. -/
def spellings (r : Register) : List Text :=
  [r.name, 'x' :: Numeral.decimal r.index] ++ if r.index = 8 then ["fp".toList] else []

theorem mem_all (r : Register) : r ∈ all := by
  refine List.mem_filterMap.mpr ⟨r.index, List.mem_range.mpr r.index_lt, ?_⟩
  rw [ofIndex?, dif_pos r.index_lt]

theorem ofIndex?_eq_some_iff {n : Nat} {r : Register} : ofIndex? n = some r ↔ r.index = n := by
  obtain ⟨m, hm⟩ := r
  unfold ofIndex?
  by_cases h : n < 32
  · rw [dif_pos h]
    simp [eq_comm]
  · rw [dif_neg h]
    simp only [reduceCtorEq, false_iff]
    rintro rfl
    exact h hm

/-- The digits of a plain number are those that it is printed with. -/
theorem eq_decimal_of_plainNumber? {digits : Text} {n : Nat} (h : plainNumber? digits = some n) :
    digits = Numeral.decimal n := by
  unfold plainNumber? at h
  split at h
  · cases h
  next hne =>
  split at h
  · cases h
  next hdigits =>
  split at h
  · cases h
  next hzero =>
  have hall : Numeral.AllDigits 10 digits := fun c hc => by
    simp only [Bool.not_eq_true', Bool.not_eq_false, List.all_eq_true] at hdigits
    exact Numeral.exists_digit_of_isDigit (hdigits c hc)
  cases hread : Numeral.readDigits 10 0 digits with
  | error e =>
    rw [hread] at h
    cases h
  | ok m =>
    rw [hread] at h
    obtain ⟨-, hm⟩ : m < UInt8.size ∧ m = n := by simpa using h
    obtain ⟨hvalue, -⟩ := (hall.readDigits_eq_ok_iff (by decide) (by decide) m).mp hread
    have hcanonical := Numeral.toDigits_valueFrom (by decide) (by decide) hne hall
      fun hhead => Nat.le_of_not_lt fun hlen => hzero ⟨hlen, hhead⟩
    rw [← hm, ← hvalue]
    exact hcanonical.symm

theorem ofSpelling?_of_mem : ∀ r ∈ all, ∀ t ∈ r.spellings, ofSpelling? t = some r := by
  decide

theorem namesIn_subset : ∀ r ∈ all, ∀ t ∈ namesIn (rows.getD r.index []), t ∈ r.spellings := by
  decide

/-- A text spells just the register that has it for a spelling: a name of its row, or `x` and
its number. -/
theorem ofSpelling?_eq_some_iff {t : Text} {r : Register} :
    ofSpelling? t = some r ↔ t ∈ r.spellings := by
  refine ⟨fun h => ?_, ofSpelling?_of_mem r r.mem_all t⟩
  unfold ofSpelling? at h
  cases hrow : rows.findIdx? (fun row => t ∈ namesIn row) with
  | some index =>
    rw [hrow] at h
    obtain rfl := ofIndex?_eq_some_iff.mp h
    obtain ⟨hlt, hmem, -⟩ := List.findIdx?_eq_some_iff_getElem.mp hrow
    apply namesIn_subset r r.mem_all
    rw [List.getD_eq_getElem?_getD, List.getElem?_eq_getElem hlt]
    exact of_decide_eq_true hmem
  | none =>
    rw [hrow] at h
    dsimp only at h
    split at h
    · next digits =>
      obtain ⟨n, hn, hr⟩ := Option.bind_eq_some_iff.mp h
      obtain rfl := ofIndex?_eq_some_iff.mp hr
      rw [eq_decimal_of_plainNumber? hn]
      exact List.mem_append_left _ (List.mem_cons_of_mem _ List.mem_cons_self)
    · cases h

theorem read?_eq_some_iff {t : Text} {r : Register} : read? t = some r ↔ Text.trim t ∈ r.spellings :=
  ofSpelling?_eq_some_iff

theorem alphanumeric_abiNames : ∀ t ∈ abiNames, t.Alphanumeric := by decide

theorem alphanumeric_name (r : Register) : r.name.Alphanumeric := by
  have hlt : r.index < abiNames.length := r.index_lt
  rw [name, nameOf, List.getD_eq_getElem?_getD, List.getElem?_eq_getElem hlt]
  exact alphanumeric_abiNames _ (List.getElem_mem hlt)

theorem plain_nameOf (n : Nat) : (nameOf n).Plain := by
  rw [nameOf, List.getD_eq_getElem?_getD]
  cases h : abiNames[n]? with
  | some t => exact (alphanumeric_abiNames t (List.mem_of_getElem? h)).plain
  | none => decide

theorem read?_nameOf (n : Nat) : read? (nameOf n) = ofIndex? n := by
  by_cases h : n < 32
  · rw [ofIndex?, dif_pos h, read?_eq_some_iff, Text.trim_of_noBlank (plain_nameOf n).noBlank]
    exact List.mem_append_left _ List.mem_cons_self
  · have hname : nameOf n = "<invalid>" := by
      rw [nameOf, List.getD_eq_getElem?_getD, List.getElem?_eq_none (Nat.le_of_not_lt h)]
      rfl
    rw [ofIndex?, dif_neg h, hname]
    decide

theorem plain_spellings (r : Register) : ∀ t ∈ r.spellings, t.Plain := by
  refine List.forall_mem_append.mpr ⟨List.forall_mem_cons.mpr ⟨plain_nameOf r.index, ?numbered⟩, ?fp⟩
  case numbered =>
    refine List.forall_mem_singleton.mpr (List.forall_mem_cons.mpr ⟨by decide, ?_⟩)
    exact Numeral.plain_decimal r.index
  case fp =>
    have hfp : Text.Plain "fp" := by decide
    split
    · exact List.forall_mem_singleton.mpr hfp
    · exact fun t ht => absurd ht List.not_mem_nil

theorem read?_own (r : Register) : read? r.name = some r := by
  rw [name, read?_nameOf, ofIndex?, dif_pos r.index_lt]

end Register

/-! ## Control and status registers -/

namespace Csr

theorem ofAddress?_eq_some_iff {a : Nat} {c : Csr} : ofAddress? a = some c ↔ c.address = a := by
  obtain ⟨b, hb⟩ := c
  unfold ofAddress?
  by_cases h : a < 4096
  · rw [dif_pos h]
    simp [eq_comm]
  · rw [dif_neg h]
    simp only [reduceCtorEq, false_iff]
    intro heq
    subst heq
    exact h hb

theorem addressOf?_of_mem : ∀ row ∈ table, addressOf? row.1 = some row.2 := by decide +kernel

/-- The names of the table are made of letters and digits, and none begins like a numeral. -/
theorem alphanumeric_names : ∀ row ∈ table,
    row.1.Alphanumeric ∧ row.1.head?.any Char.isLower = true := by
  decide +kernel

theorem addressOf?_eq_some_iff {t : Text} {a : Nat} : addressOf? t = some a ↔ (t, a) ∈ table := by
  refine ⟨fun h => ?_, addressOf?_of_mem (t, a)⟩
  obtain ⟨front, back, hsplit, -⟩ := List.lookup_eq_some_iff.mp h
  rw [hsplit]
  exact List.mem_append_right front List.mem_cons_self

theorem ofName?_eq_some_iff {t : Text} {c : Csr} :
    ofName? t = some c ↔ (Text.trim t, c.address) ∈ table := by
  simp only [ofName?, Option.bind_eq_some_iff, addressOf?_eq_some_iff, ofAddress?_eq_some_iff,
    exists_eq_right']

theorem read_name {t : Text} {a : Nat} (h : (t, a) ∈ table) :
    Numeral.read t = .error .invalidDigit :=
  Numeral.read_of_head_isLower (alphanumeric_names _ h).2

/-- A text denotes the register it names, or the one at the address it writes; it
cannot do both. -/
theorem read?_eq_some_iff {t : Text} {c : Csr} :
    read? t = some c ↔ (Text.trim t, c.address) ∈ table ∨ Numeral.read t = .ok c.address := by
  have hnumeral : (Numeral.readBelow? 4096 t).bind ofAddress? = some c ↔
      Numeral.read t = .ok c.address := by
    simp only [Option.bind_eq_some_iff, Numeral.readBelow?_eq_some_iff, ofAddress?_eq_some_iff,
      exists_eq_right', c.address_lt, and_true]
  rw [read?, ← ofName?_eq_some_iff, ← hnumeral]
  cases h : ofName? t with
  | none => simp
  | some c' =>
    -- The text is a name, so it is no numeral.
    have hno := read_name (ofName?_eq_some_iff.mp h)
    rw [Numeral.read_trim] at hno
    simp [hnumeral, hno]

theorem nameOf?_mem {a : Nat} {t : Text} (h : nameOf? a = some t) : (t, a) ∈ table := by
  obtain ⟨row, hrow, rfl⟩ := Option.map_eq_some_iff.mp h
  have ha : row.2 = a := by simpa using List.find?_some hrow
  rw [← ha]
  exact List.mem_of_find?_eq_some hrow

theorem addressOf?_of_head {t : Text} (h : t.head? = some '0') : addressOf? t = none := by
  refine List.lookup_eq_none_iff.mpr fun row hrow => ?_
  rw [bne_iff_ne]
  intro heq
  subst heq
  have hletter := (alphanumeric_names row hrow).2
  rw [h] at hletter
  cases hletter

theorem read?_literalPadded (width a : Nat) : read? (Numeral.literalPadded width a) = ofAddress? a := by
  -- Names are looked up first, but no name begins like a numeral.
  have hname : ofName? (Numeral.literalPadded width a) = none := by
    rw [ofName?, Text.trim_of_noBlank (Numeral.noBlank_literalPadded width a),
      addressOf?_of_head rfl, Option.bind_none]
  rw [read?, hname, Numeral.readBelow?_literalPadded (by decide)]
  by_cases h : a < 4096
  · simp [h]
  · simp [h, ofAddress?]

theorem plain_display (c : Csr) : c.display.Plain := by
  rw [display]
  cases h : c.name? with
  | some t => exact (alphanumeric_names _ (nameOf?_mem h)).1.plain
  | none => exact Numeral.plain_literalPadded 3 c.address

theorem plain_displayAddress (a : Nat) : (displayAddress a).Plain := by
  rw [displayAddress, Numeral.literal_eq_literalPadded]
  cases ofAddress? a with
  | some c => exact plain_display c
  | none => exact Numeral.plain_literalPadded 0 a

theorem read?_display (c : Csr) : read? c.display = some c := by
  rw [display]
  cases h : c.name? with
  | some t =>
    have hmem := nameOf?_mem h
    have hname : ofName? t = some c := by
      rw [ofName?, Text.trim_of_noBlank (alphanumeric_names _ hmem).1.plain.noBlank,
        addressOf?_of_mem _ hmem]
      exact ofAddress?_eq_some_iff.mpr rfl
    rw [Option.getD_some, read?, hname]
  | none =>
    rw [Option.getD_none, read?_literalPadded]
    exact ofAddress?_eq_some_iff.mpr rfl

/-- An address is read back from its text; the text of an address that no
register has is not read. -/
theorem read?_displayAddress (a : Nat) : read? (displayAddress a) = ofAddress? a := by
  rw [displayAddress]
  cases h : ofAddress? a with
  | some c => exact read?_display c
  | none => rw [Numeral.literal_eq_literalPadded, read?_literalPadded, h]

end Csr

end Zicsr
