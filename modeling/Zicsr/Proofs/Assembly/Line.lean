import Zicsr.Assembly.Line
import Zicsr.Instruction.Print
import Zicsr.Proofs.Text.Split

/-
  Lines that are put together and taken apart again.

  A statement is a name, a space and operands; a call is a name and operands in
  parentheses. Taking such a line apart gives back the name and the trimmed
  operands (`read?_code_spell`, `read?_code_spellCall`), whatever the operands
  say, as long as they hold none of the marks by which a line is divided. What
  is left to reading then depends on the name and the operands only
  (`readLine_eq`).
-/

namespace Zicsr

/-- A call: a name, and the operands after it in parentheses. -/
def Instruction.spellCall (name : Text) (operands : List Text) : Text :=
  name ++ '(' :: (List.intercalate ", " operands ++ [')'])

theorem Instruction.spell_eq (n : Text) (ops : List Text) :
    spell n ops = n ++ ' ' :: List.intercalate [',', ' '] ops := rfl

theorem Instruction.spellCall_eq (n : Text) (ops : List Text) :
    spellCall n ops = n ++ '(' :: (List.intercalate [',', ' '] ops ++ [')']) := rfl

namespace Parts

/-! ## Comments -/

/-- Whether no comment begins in the text. -/
def Uncommented (t : Text) : Prop := '#' ∉ t ∧ ¬ ['/', '/'] <:+: t

theorem uncommented_of_not_mem {t : Text} (hh : '#' ∉ t) (hs : '/' ∉ t) : Uncommented t :=
  ⟨hh, fun h => hs (h.subset List.mem_cons_self)⟩

theorem Uncommented.tail {c : Char} {t : Text} (h : Uncommented (c :: t)) : Uncommented t :=
  ⟨fun hm => h.1 (List.mem_cons_of_mem c hm), fun hi => h.2 (List.infix_cons hi)⟩

theorem Uncommented.cons {c : Char} {t : Text} (h : Uncommented t) (hhash : c ≠ '#')
    (hslash : ∀ s, c = '/' → t = '/' :: s → False) : Uncommented (c :: t) := by
  refine ⟨by simp [h.1, hhash.symm], ?_⟩
  rw [List.infix_cons_iff, not_or]
  refine ⟨?_, h.2⟩
  rintro ⟨s, hs⟩
  obtain ⟨hc, ht⟩ := List.cons.inj hs
  exact hslash s hc.symm ht.symm

theorem Uncommented.append_cons {a b : Text} {c : Char} (ha : Uncommented a) (hb : Uncommented b)
    (hh : c ≠ '#') (hs : c ≠ '/') : Uncommented (a ++ c :: b) := by
  refine ⟨by simp [ha.1, hb.1, hh.symm], ?_⟩
  induction a with
  | nil =>
    rw [List.nil_append, List.infix_cons_iff, not_or]
    refine ⟨fun hp => ?_, hb.2⟩
    exact hs (List.cons_prefix_cons.mp hp).1.symm
  | cons d a ih =>
    rw [List.cons_append, List.infix_cons_iff, not_or]
    refine ⟨fun hp => ?_, ih ha.tail⟩
    obtain ⟨hd, hp⟩ := List.cons_prefix_cons.mp hp
    -- A mark that begins at `d` ends at `c` or lies in the first text.
    cases a with
    | nil => exact hs (List.cons_prefix_cons.mp hp).1.symm
    | cons e a =>
      obtain ⟨he, -⟩ := List.cons_prefix_cons.mp hp
      exact ha.2 ⟨[], a, by rw [← hd, ← he]; rfl⟩

/-- A text that begins no comment is kept in front of another one, unless a mark
begins in it and ends in the other. -/
theorem dropComment_append_of_uncommented {a b : Text} (ha : Uncommented a)
    (seam : a.getLast? ≠ some '/' ∨ b.head? ≠ some '/') :
    dropComment (a ++ b) = a ++ dropComment b := by
  induction a with
  | nil => rfl
  | cons c a ih =>
    have hhash : c ≠ '#' := fun h => ha.1 (h ▸ List.mem_cons_self)
    have hslash : ∀ rest, c = '/' → a ++ b = '/' :: rest → False := by
      intro rest hc heq
      cases a with
      | nil =>
        rw [List.nil_append] at heq
        simp [hc, heq] at seam
      | cons d a =>
        obtain ⟨hd, -⟩ := List.cons.inj heq
        exact ha.2 ⟨[], a, by rw [hc, hd]; rfl⟩
    have hseam : a.getLast? ≠ some '/' ∨ b.head? ≠ some '/' := by
      cases a with
      | nil => exact .inl (by simp)
      | cons d a => rwa [List.getLast?_cons_cons] at seam
    rw [List.cons_append, dropComment.eq_4 c (a ++ b) hhash hslash, ih ha.tail hseam]
    rfl

theorem dropComment_append_of_commented {a : Text} (ha : ¬ Uncommented a) (b : Text) :
    dropComment (a ++ b) = dropComment a := by
  fun_induction dropComment a with
  | case1 => exact absurd (uncommented_of_not_mem List.not_mem_nil List.not_mem_nil) ha
  | case2 rest => rfl
  | case3 rest => rfl
  | case4 c rest hhash hslash ih =>
    have hrest : ¬ Uncommented rest := fun hrest => ha (hrest.cons hhash hslash)
    have hslash' : ∀ s, c = '/' → rest ++ b = '/' :: s → False := by
      intro s hc heq
      cases rest with
      | nil => exact hrest (uncommented_of_not_mem List.not_mem_nil List.not_mem_nil)
      | cons d rest => exact hslash rest hc (by rw [(List.cons.inj heq).1])
    rw [List.cons_append, dropComment.eq_4 c (rest ++ b) hhash hslash', ih hrest]

theorem dropComment_of_uncommented {t : Text} (h : Uncommented t) : dropComment t = t := by
  have ht := dropComment_append_of_uncommented (b := []) h (.inr (by decide))
  rwa [List.append_nil, dropComment, List.append_nil] at ht

theorem code_of_uncommented {t : Text} (h : Uncommented t) : code t = Text.trim t := by
  rw [code, dropComment_of_uncommented h]

/-! ## Names and operands -/

/-- A text that may stand as an operand: it holds no comma, no opening
parenthesis and no comment mark. -/
structure IsOperand (t : Text) : Prop where
  comma : ',' ∉ t
  opening : '(' ∉ t
  uncommented : Uncommented t

/-- A text that may stand as a name: it is not empty and holds no blank, no
opening parenthesis and no part of a comment mark. -/
structure IsName (t : Text) : Prop where
  ne_nil : t ≠ []
  noBlank : t.NoBlank
  opening : '(' ∉ t
  hash : '#' ∉ t
  slash : '/' ∉ t

theorem IsName.uncommented {t : Text} (h : IsName t) : Uncommented t :=
  uncommented_of_not_mem h.hash h.slash

/-- What a name keeps of a longer text that it begins. -/
theorem IsName.trim_append {n : Text} (hn : IsName n) (t : Text) :
    Text.trim (n ++ t) = n ++ Text.trimEnd t :=
  Text.trim_append_of_noBlank hn.noBlank hn.ne_nil t

section Joined

variable {ops : List Text}

theorem uncommented_intercalate (h : ∀ o ∈ ops, IsOperand o) :
    Uncommented (List.intercalate [',', ' '] ops) := by
  induction ops with
  | nil => exact uncommented_of_not_mem List.not_mem_nil List.not_mem_nil
  | cons o ops ih =>
    obtain ⟨ho, hops⟩ := List.forall_mem_cons.mp h
    by_cases hnil : ops = []
    · subst hnil
      rw [List.intercalate_singleton]
      exact ho.uncommented
    · -- Neither the comma nor the blank after it is part of a mark.
      have hblank : Uncommented (' ' :: List.intercalate [',', ' '] ops) :=
        Uncommented.append_cons (a := []) (uncommented_of_not_mem List.not_mem_nil List.not_mem_nil)
          (ih hops) (by decide) (by decide)
      rw [List.intercalate_cons_of_ne_nil hnil, List.append_assoc]
      exact ho.uncommented.append_cons hblank (by decide) (by decide)

theorem opening_not_mem_intercalate (h : ∀ o ∈ ops, IsOperand o) :
    '(' ∉ List.intercalate [',', ' '] ops := by
  intro hm
  rcases Text.mem_intercalate hm with hm | ⟨o, ho, hm⟩
  · exact absurd hm (by decide)
  · exact (h o ho).opening hm

theorem comma_mem_intercalate (h2 : 2 ≤ ops.length) : ',' ∈ List.intercalate [',', ' '] ops := by
  match ops, h2 with
  | o :: o' :: ops, _ => simp [List.intercalate_cons_cons]

theorem not_allBlank_intercalate (h2 : 2 ≤ ops.length) :
    ¬ Text.AllBlank (List.intercalate [',', ' '] ops) :=
  Text.not_allBlank_of_mem (comma_mem_intercalate h2) (by decide)

theorem splitOperands_intercalate (h : ∀ o ∈ ops, IsOperand o) (h2 : 2 ≤ ops.length) :
    splitOperands (List.intercalate [',', ' '] ops) = ops.map Text.trim := by
  have hne : ops ≠ [] := List.ne_nil_of_length_pos (by omega)
  have htrim : Text.trim (List.intercalate [',', ' '] ops) ≠ [] :=
    fun hnil => not_allBlank_intercalate h2 (Text.trim_eq_nil_iff.mp hnil)
  rw [splitOperands, if_neg htrim]
  exact Text.map_trim_split_intercalate (by decide) (by decide) hne (fun o ho => (h o ho).comma)

theorem splitOperands_trimEnd (t : Text) : splitOperands (Text.trimEnd t) = splitOperands t := by
  have hsep : ∀ c : Char, (c == ',') = true → Text.isBlank c = false := fun c hc => by
    rw [beq_iff_eq.mp hc]; rfl
  have hpieces : (Text.split (· == ',') (Text.trimEnd t)).map Text.trim =
      (Text.split (· == ',') t).map Text.trim := by
    calc (Text.split (· == ',') (Text.trimEnd t)).map Text.trim
        = (Text.split (· == ',') (Text.trim (Text.trimEnd t))).map Text.trim :=
          (Text.map_trim_split_trim hsep _).symm
      _ = (Text.split (· == ',') (Text.trim t)).map Text.trim := by rw [Text.trim_trimEnd]
      _ = (Text.split (· == ',') t).map Text.trim := Text.map_trim_split_trim hsep t
  rw [splitOperands, splitOperands, Text.trim_trimEnd, hpieces]

end Joined

/-! ## Taking lines apart -/

theorem code_name {n : Text} (hn : IsName n) : code n = n := by
  rw [code_of_uncommented hn.uncommented, Text.trim_of_noBlank hn.noBlank]

theorem read?_name {n : Text} (hn : IsName n) : read? n = some ⟨.statement, n, []⟩ := by
  have hopen : Text.cutAt? (· == '(') n = none :=
    Text.cutAt?_of_forall_not (Text.forall_beq_of_not_mem hn.opening)
  rw [read?, cut?, hopen, Text.cutAt?_of_forall_not hn.noBlank]
  rfl

variable {n : Text} {ops : List Text}

theorem code_spell (hn : IsName n) (hops : ∀ o ∈ ops, IsOperand o) (h2 : 2 ≤ ops.length) :
    code (Instruction.spell n ops) =
      n ++ ' ' :: Text.trimEnd (List.intercalate [',', ' '] ops) := by
  have hjoin : ¬ Text.AllBlank (List.intercalate [',', ' '] ops) := not_allBlank_intercalate h2
  have hline : Uncommented (n ++ ' ' :: List.intercalate [',', ' '] ops) :=
    hn.uncommented.append_cons (uncommented_intercalate hops) (by decide) (by decide)
  rw [Instruction.spell_eq, code_of_uncommented hline, hn.trim_append]
  exact congrArg (n ++ ·) (Text.trimEnd_append hjoin [' '])

theorem read?_code_spell (hn : IsName n) (hops : ∀ o ∈ ops, IsOperand o) (h2 : 2 ≤ ops.length) :
    read? (code (Instruction.spell n ops)) = some ⟨.statement, n, ops.map Text.trim⟩ := by
  have hopen : '(' ∉ n ++ ' ' :: Text.trimEnd (List.intercalate [',', ' '] ops) := by
    rw [List.mem_append, List.mem_cons]
    intro hc
    rcases hc with hc | hc | hc
    · exact hn.opening hc
    · exact absurd hc (by decide)
    · exact opening_not_mem_intercalate hops (Text.trimEnd_subset _ hc)
  -- Without an opening parenthesis the line is no call, and the name ends at the first blank.
  rw [code_spell hn hops h2, read?, cut?,
    Text.cutAt?_of_forall_not (Text.forall_beq_of_not_mem hopen),
    Text.cutAt?_append_cons hn.noBlank (by decide)]
  simp [splitOperands_trimEnd, splitOperands_intercalate hops h2]

/-- A text without comment that starts with a name and ends in a parenthesis is
all code. -/
theorem code_closed {t : Text} (hn : IsName n) (h : Uncommented (n ++ (t ++ [')']))) :
    code (n ++ (t ++ [')'])) = n ++ (t ++ [')']) := by
  have hlast : ¬ Text.AllBlank [')'] := Text.not_allBlank_of_mem List.mem_cons_self (by decide)
  rw [code_of_uncommented h, hn.trim_append, Text.trimEnd_append hlast]
  rfl

theorem code_spellCall (hn : IsName n) (hops : ∀ o ∈ ops, IsOperand o) :
    code (Instruction.spellCall n ops) = Instruction.spellCall n ops := by
  have hline : Uncommented (Instruction.spellCall n ops) :=
    hn.uncommented.append_cons ((uncommented_intercalate hops).append_cons
      (uncommented_of_not_mem List.not_mem_nil List.not_mem_nil) (by decide) (by decide))
      (by decide) (by decide)
  rw [Instruction.spellCall_eq, ← List.cons_append] at hline ⊢
  exact code_closed hn hline

/-- The operands of a call may hold closing parentheses, since the last one ends
the call. -/
theorem read?_code_spellCall (hn : IsName n) (hops : ∀ o ∈ ops, IsOperand o)
    (h2 : 2 ≤ ops.length) :
    read? (code (Instruction.spellCall n ops)) = some ⟨.call, n, ops.map Text.trim⟩ := by
  rw [code_spellCall hn hops, read?, cut?, Instruction.spellCall_eq,
    Text.cutAt?_append_cons (Text.forall_beq_of_not_mem hn.opening) (by decide)]
  simp only [Text.dropEnd?_append_singleton, Option.map_some, Text.trim_of_noBlank hn.noBlank]
  rw [splitOperands_intercalate hops h2]

end Parts

/-! ## Reading a line that has been taken apart -/

theorem Instruction.checked_of_encode {i : Instruction} {w : BitVec 32} (h : i.encode = .ok w) :
    i.checked = .ok i := by
  rw [checked, h]

theorem Instruction.checked_of_encode_error {i : Instruction} {e : EncodeError}
    (h : i.encode = .error e) : i.checked = .error (.encode e) := by
  rw [checked, h]

theorem readLine_eq {line : Text} {p : Parts} (hne : Parts.code line ≠ [])
    (h : Parts.read? (Parts.code line) = some p) :
    readLine line = (p.instruction >>= Instruction.checked).map some := by
  unfold readLine
  rw [if_neg hne, h]
  cases hi : p.instruction with
  | error e => simp [hi, Except.map, bind, Except.bind]
  | ok i =>
    cases hc : i.checked <;> simp [hi, hc, Except.map, bind, Except.bind, pure, Except.pure]

variable {n : Text} {ops : List Text}

theorem readLine_name (hn : Parts.IsName n) :
    readLine n = (Parts.instruction ⟨.statement, n, []⟩ >>= Instruction.checked).map some := by
  refine readLine_eq ?_ ?_
  · rw [Parts.code_name hn]
    exact hn.ne_nil
  · rw [Parts.code_name hn, Parts.read?_name hn]

theorem readLine_spell (hn : Parts.IsName n) (hops : ∀ o ∈ ops, Parts.IsOperand o)
    (h2 : 2 ≤ ops.length) : readLine (Instruction.spell n ops) =
      (Parts.instruction ⟨.statement, n, ops.map Text.trim⟩ >>= Instruction.checked).map some := by
  refine readLine_eq ?_ (Parts.read?_code_spell hn hops h2)
  rw [Parts.code_spell hn hops h2]
  simp

theorem readLine_spellCall (hn : Parts.IsName n) (hops : ∀ o ∈ ops, Parts.IsOperand o)
    (h2 : 2 ≤ ops.length) : readLine (Instruction.spellCall n ops) =
      (Parts.instruction ⟨.call, n, ops.map Text.trim⟩ >>= Instruction.checked).map some := by
  refine readLine_eq ?_ (Parts.read?_code_spellCall hn hops h2)
  rw [Parts.code_spellCall hn hops]
  simp [Instruction.spellCall]

end Zicsr
