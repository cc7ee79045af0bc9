import Mathlib.Data.List.Basic
import Zicsr.Proofs.Instruction.Codec

/-
  Decoders of any table.

  A table may say anything: patterns may overlap, function codes may repeat or
  fit no word, and any operation may stand in any row. Two lookups decide a word.
  The patterns are searched in order, so the first that accepts the word wins
  (`find?_patterns`); a function code is entered in place of the one before it, so
  of the rows with that code the last wins (`lookup_dispatch`). Together they
  choose the row of `Row.decides?`, which speaks of the rows alone. Where at most
  one row can be chosen for a word, the order of the rows does not matter
  (`Row.decides?_eq_of_perm`).
-/

namespace Zicsr

/-! ## The rule -/

namespace Row

/-- Whether the row has a pattern and the word has its bits. -/
def Accepts (row : Row) (w : BitVec 32) : Prop := ∃ p, row.pattern? = some p ∧ w &&& p.mask = p.key

/-- Whether the row has no pattern and its function code stands in bits 14:12 of
the word. -/
def HasCode (row : Row) (w : BitVec 32) : Prop :=
  row.pattern? = none ∧ row.funct3 = (w.extractLsb 14 12).toNat

instance (row : Row) (w : BitVec 32) : Decidable (row.Accepts w) :=
  decidable_of_iff (row.pattern?.any (fun p => w &&& p.mask == p.key) = true) (by
    cases h : row.pattern? <;> simp [Accepts, h])

instance (row : Row) (w : BitVec 32) : Decidable (row.HasCode w) :=
  inferInstanceAs (Decidable (_ ∧ _))

/-- The row that decides a word: the first whose pattern accepts it, and where
there is none the last that has its function code. -/
def decides? (rows : List Row) (w : BitVec 32) : Option Row :=
  (rows.find? (fun row => row.Accepts w)).or (rows.findRev? (fun row => row.HasCode w))

/-- Whether no word can be decided by two different rows. -/
structure Unambiguous (rows : List Row) : Prop where
  code : ∀ a ∈ rows, ∀ b ∈ rows, a.pattern? = none → b.pattern? = none → a.funct3 = b.funct3 → a = b
  pattern : ∀ w, ∀ a ∈ rows, ∀ b ∈ rows, a.Accepts w → b.Accepts w → a = b

end Row

namespace Decoder

/-! ## Entering rows -/

theorem lookup_cons_eq (row : Nat × Op) (dispatch : List (Nat × Op)) (code : Nat) :
    (row :: dispatch).lookup code = if code = row.1 then some row.2 else dispatch.lookup code := by
  rw [List.lookup_cons]
  by_cases h : code = row.1
  · rw [if_pos h, beq_iff_eq.mpr h]
  · rw [if_neg h, beq_eq_false_iff_ne.mpr h]

theorem lookup_enter (funct3 : Nat) (op : Op) (dispatch : List (Nat × Op)) (code : Nat) :
    (enter funct3 op dispatch).lookup code =
      if code = funct3 then some op else dispatch.lookup code := by
  induction dispatch with
  | nil => rw [enter, lookup_cons_eq]
  | cons row rest ih =>
    obtain ⟨first, old⟩ := row
    rw [enter]
    by_cases hfirst : first = funct3
    · -- The old operation of the code is replaced where it stands.
      subst hfirst
      rw [if_pos rfl, lookup_cons_eq, lookup_cons_eq]
      by_cases h : code = first
      · rw [if_pos h, if_pos h]
      · rw [if_neg h, if_neg h, if_neg h]
    · rw [if_neg hfirst, lookup_cons_eq, lookup_cons_eq, ih]
      by_cases h : code = first
      · have hne : code ≠ funct3 := fun heq => hfirst (h.symm.trans heq)
        rw [if_pos h, if_neg hne, if_pos h]
      · rw [if_neg h, if_neg h]

theorem lookup_enterRow (dispatch : List (Nat × Op)) (row : Row) (w : BitVec 32) :
    (enterRow dispatch row).lookup (Word.funct3 w) =
      if row.HasCode w then some row.op else dispatch.lookup (Word.funct3 w) := by
  have hcode : row.HasCode w ↔ row.pattern? = none ∧ Word.funct3 w = row.funct3 := by
    rw [Row.HasCode, Instruction.toNat_extractLsb, Word.funct3_eq, eq_comm (a := row.funct3)]
  cases hp : row.pattern? with
  | none => simp only [enterRow, hp, lookup_enter, hcode, true_and]
  | some p => simp only [enterRow, hp, hcode, reduceCtorEq, false_and, if_false]

/-- Of the rows entered, the last one with a function code decides it. -/
theorem lookup_foldl_enterRow (rows : List Row) (dispatch : List (Nat × Op)) (w : BitVec 32) :
    (rows.foldl enterRow dispatch).lookup (Word.funct3 w) =
      ((rows.findRev? (fun row => row.HasCode w)).map Row.op).or
        (dispatch.lookup (Word.funct3 w)) := by
  -- By induction on the rows: a later row is entered over all that came before it.
  induction rows generalizing dispatch with
  | nil => rfl
  | cons row rows ih =>
    rw [List.foldl_cons, ih, lookup_enterRow, List.findRev?]
    cases rows.findRev? (fun row => row.HasCode w) with
    | some last => rfl
    | none => by_cases h : row.HasCode w <;> simp [h]

theorem lookup_dispatch (rows : List Row) (w : BitVec 32) :
    (ofRows rows).dispatch.lookup (Word.funct3 w) =
      (rows.findRev? (fun row => row.HasCode w)).map Row.op := by
  show (rows.foldl enterRow []).lookup (Word.funct3 w) = _
  rw [lookup_foldl_enterRow, List.lookup_nil, Option.or_none]

/-- Of the rows with a pattern, the first that accepts a word is found. -/
theorem find?_patterns (rows : List Row) (w : BitVec 32) :
    ((ofRows rows).patterns.find? (fun row => row.1.accepts w)).map Prod.snd =
      (rows.find? (fun row => row.Accepts w)).map Row.op := by
  unfold ofRows
  induction rows with
  | nil => rfl
  | cons row rows ih =>
    rw [List.find?_cons]
    cases hp : row.pattern? with
    | none =>
      have hno : ¬ row.Accepts w := by simp [Row.Accepts, hp]
      simpa [List.filterMap_cons, hp, hno] using ih
    | some p =>
      have hiff : row.Accepts w ↔ p.accepts w = true := by
        simp [Row.Accepts, hp, BitPattern.accepts]
      by_cases h : row.Accepts w
      · simp [hp, h, hiff.mp h]
      · have hfalse : p.accepts w = false := by simpa [hiff] using h
        simpa [List.filterMap_cons, List.find?_cons, hp, h, hfalse] using ih

theorem find?_ofRows (rows : List Row) (w : BitVec 32) :
    (ofRows rows).find? w = (Row.decides? rows w).map Row.op := by
  have hpatterns := find?_patterns rows w
  unfold find? Row.decides?
  rw [lookup_dispatch]
  cases hrow : rows.find? (fun row => row.Accepts w) with
  | some row =>
    rw [hrow, Option.map_some] at hpatterns
    obtain ⟨found, hfound, hop⟩ := Option.map_eq_some_iff.mp hpatterns
    rw [hfound, Option.some_or, Option.map_some, ← hop]
  | none =>
    rw [hrow, Option.map_none, Option.map_eq_none_iff] at hpatterns
    rw [hpatterns, Option.none_or]

end Decoder

/-! ## The order of the rows -/

/-- What is found first is found in any order, if only one thing can be found. -/
theorem find?_eq_of_perm {α : Type} {p : α → Bool} {l l' : List α} (h : l.Perm l')
    (hone : ∀ a ∈ l, ∀ b ∈ l, p a → p b → a = b) : l.find? p = l'.find? p := by
  cases hf : l.find? p with
  | none =>
    symm
    rw [List.find?_eq_none] at hf ⊢
    exact fun a ha => hf a (h.mem_iff.mpr ha)
  | some a =>
    have ha := List.mem_of_find?_eq_some hf
    cases hf' : l'.find? p with
    | none => exact absurd (List.find?_some hf) (List.find?_eq_none.mp hf' a (h.mem_iff.mp ha))
    | some b =>
      have hb := h.mem_iff.mpr (List.mem_of_find?_eq_some hf')
      rw [hone a ha b hb (List.find?_some hf) (List.find?_some hf')]

theorem Row.decides?_eq_of_perm {rows rows' : List Row} (h : rows.Perm rows')
    (hone : Unambiguous rows) (w : BitVec 32) : decides? rows w = decides? rows' w := by
  have hpattern : rows.find? (fun row => row.Accepts w) = rows'.find? (fun row => row.Accepts w) :=
    find?_eq_of_perm h fun a ha b hb haw hbw =>
      hone.pattern w a ha b hb (of_decide_eq_true haw) (of_decide_eq_true hbw)
  have hperm : rows.reverse.Perm rows'.reverse :=
    (List.reverse_perm rows).trans (h.trans (List.reverse_perm rows').symm)
  have hcode : rows.findRev? (fun row => row.HasCode w) =
      rows'.findRev? (fun row => row.HasCode w) := by
    rw [List.findRev?_eq_find?_reverse, List.findRev?_eq_find?_reverse]
    refine find?_eq_of_perm hperm fun a ha b hb haw hbw => ?_
    obtain ⟨hanone, hacode⟩ := of_decide_eq_true haw
    obtain ⟨hbnone, hbcode⟩ := of_decide_eq_true hbw
    exact hone.code a (List.mem_reverse.mp ha) b (List.mem_reverse.mp hb) hanone hbnone
      (hacode.trans hbcode.symm)
  rw [decides?, decides?, hpattern, hcode]

/-! ## Decoding by tables -/

namespace Decoder

theorem operandsOf_eq (op : Op) (w : BitVec 32) :
    operandsOf op w =
      if op.isCsr then
        some ⟨(w.extractLsb 11 7).toNat, (w.extractLsb 19 15).toNat, (w.extractLsb 31 20).toNat⟩
      else none := by
  simp only [operandsOf, Instruction.toNat_extractLsb, Word.rd_eq, Word.source_eq, Word.csr_eq]

theorem decode?_ofTables (tables : List (List Row)) (w : BitVec 32) :
    (ofTables tables).decode? w =
      if (w.extractLsb 6 0).toNat ≠ 0x73 then none
      else (Row.decides? tables.flatten w).map (fun row => ⟨row.op, operandsOf row.op w⟩) := by
  have hopcode : Word.opcode w = Word.systemOpcode ↔ (w.extractLsb 6 0).toNat = 0x73 := by
    rw [Word.opcode_eq_iff, Instruction.toNat_extractLsb, Nat.pow_zero, Nat.div_one]
  have hrows : tables.foldl (fun rows table => rows ++ table) [] = tables.flatten := by
    show tables.foldl (fun rows table => rows ++ id table) [] = tables.flatten
    rw [List.foldl_append_eq_append, List.map_id, List.nil_append]
  rw [ofTables, hrows, decode?, find?_ofRows, Option.map_map]
  simp only [ne_eq, hopcode]
  rfl

/-- A decoder follows one rule, whatever its tables say. A word of another opcode
is not decoded; else the first row whose pattern accepts it decides it, and where
there is none the last row without pattern that has its function code; else it is
not decoded. The operands stand in their fields. So where no two rows share a
function code or accept one word, tables that hold the same rows decode alike, in
whatever order. -/
theorem decode?_rule :
    (∀ (tables : List (List Row)) (w : BitVec 32),
      (ofTables tables).decode? w =
        if (w.extractLsb 6 0).toNat ≠ 0x73 then none
        else (Row.decides? tables.flatten w).map fun row =>
          ⟨row.op,
            if row.op.isCsr then
              some ⟨(w.extractLsb 11 7).toNat, (w.extractLsb 19 15).toNat,
                (w.extractLsb 31 20).toNat⟩
            else none⟩) ∧
    (∀ tables tables' : List (List Row), tables.flatten.Perm tables'.flatten →
      Row.Unambiguous tables.flatten →
      ∀ w, (ofTables tables).decode? w = (ofTables tables').decode? w) := by
  refine ⟨fun tables w => ?rule, fun tables tables' h hone w => ?order⟩
  case rule => simp only [decode?_ofTables, operandsOf_eq]
  case order => rw [decode?_ofTables, decode?_ofTables, Row.decides?_eq_of_perm h hone]

theorem unambiguous_standard : Row.Unambiguous (csrRows ++ systemRows) where
  code := by
    rw [csrRows_eq, systemRows_eq]
    decide
  pattern := by
    rw [csrRows_eq, systemRows_eq]
    intro w a ha b hb haw hbw
    have hsystem : ∀ row ∈ CsrOp.all.map CsrOp.row ++ SystemOp.all.map SystemOp.row,
        row.Accepts w →
        ∃ s : SystemOp, row = s.row ∧ w = s.word := by
      intro row hrow haccepts
      obtain ⟨p, hp, hkey⟩ := haccepts
      rcases List.mem_append.mp hrow with hrow | hrow
      · obtain ⟨op, -, rfl⟩ := List.mem_map.mp hrow
        cases hp
      · obtain ⟨s, -, rfl⟩ := List.mem_map.mp hrow
        cases hp
        exact ⟨s, rfl, (accepts_exactly s.word w).mp (beq_iff_eq.mpr hkey)⟩
    have hword : ∀ s ∈ SystemOp.all, ∀ t ∈ SystemOp.all, s.word = t.word → s = t := by decide
    obtain ⟨s, rfl, hs⟩ := hsystem a ha haw
    obtain ⟨t, rfl, ht⟩ := hsystem b hb hbw
    rw [hword s s.mem_all t t.mem_all (hs.symm.trans ht)]

/-- Two patterns that overlap, and two operations at one function code, one of
which takes no operands; and the standard tables in another order. -/
theorem decode?_rule_overlap :
    let tables : List (List Row) :=
      [[⟨.csr ⟨.write, false⟩, 2, none⟩,
          ⟨.csr ⟨.set, true⟩, 9, some ⟨0x30000073#32, 0xFF00007F#32⟩⟩],
        [⟨.system .wfi, 2, none⟩, ⟨.system .mret, 0, some (.exactly 0x3002A073#32)⟩]]
    (ofTables tables).decode? 0x3002A073#32 = some ⟨.csr ⟨.set, true⟩, some ⟨0, 5, 0x300⟩⟩ ∧
    (ofTables tables).decode? 0x3402A073#32 = some ⟨.system .wfi, none⟩ ∧
    (ofTables [systemRows, csrRows.reverse]).decode? 0x3402A073#32 =
      some ⟨.csr ⟨.set, false⟩, some ⟨0, 5, 0x340⟩⟩ := by
  intro tables
  have hperm : [csrRows, systemRows].flatten.Perm [systemRows, csrRows.reverse].flatten := by
    rw [systemRows_eq]
    decide
  have horder := decode?_rule.2 [csrRows, systemRows] [systemRows, csrRows.reverse] hperm
    unambiguous_standard 0x3402A073#32
  refine ⟨?_, ?_, horder.symm.trans (by decide)⟩
  · exact (decode?_rule.1 tables _).trans (by decide)
  · exact (decode?_rule.1 tables _).trans (by decide)

end Decoder

end Zicsr
