import Zicsr.Proofs.Assembly.Line
import Zicsr.Proofs.Text.Padding

/-
  How a line is divided.

  The code of a line ends at the leftmost comment mark (`dropComment_eq_take`).
  Code without an opening parenthesis is a name, alone or with a blank and
  operands after it (`read?_eq_statement_iff`); code with one is a name, perhaps
  blanks, and operands in parentheses that close at its end
  (`read?_eq_call_iff`). The operands are what stands between commas, trimmed,
  and there are none where only blanks stand.
-/

namespace Zicsr.Parts

/-! ## Comments -/

/-- Whether a comment mark stands at the start of the text. -/
def Marked (t : Text) : Prop := ['#'] <+: t ∨ ['/', '/'] <+: t

/-- A comment begins at the leftmost mark, and no comment where there is none. -/
theorem dropComment_eq_take (line : Text) :
    ∃ k, dropComment line = line.take k ∧ (∀ j < k, ¬ Marked (line.drop j)) ∧
      (k = line.length ∨ Marked (line.drop k)) := by
  fun_induction dropComment line with
  | case1 => exact ⟨0, rfl, by omega, .inl rfl⟩
  | case2 rest => exact ⟨0, rfl, by omega, .inr (.inl ⟨rest, rfl⟩)⟩
  | case3 rest => exact ⟨0, rfl, by omega, .inr (.inr ⟨rest, rfl⟩)⟩
  | case4 c rest hhash hslash ih =>
    obtain ⟨k, htake, hbefore, hend⟩ := ih
    refine ⟨k + 1, by rw [htake, List.take_succ_cons], ?_, ?_⟩
    · intro j hj
      cases j with
      | zero =>
        -- A mark here would have ended the code here.
        rintro (⟨s, hs⟩ | ⟨s, hs⟩)
        · exact hhash (List.cons.inj hs).1.symm
        · obtain ⟨hc, htail⟩ := List.cons.inj hs
          exact hslash s hc.symm htail.symm
      | succ j => exact hbefore j (by omega)
    · rcases hend with hend | hend
      · exact .inl (by rw [hend, List.length_cons])
      · exact .inr hend

/-! ## Operands -/

theorem splitOperands_eq_nil_iff {t : Text} : splitOperands t = [] ↔ Text.AllBlank t := by
  rw [← Text.trim_eq_nil_iff, splitOperands]
  by_cases h : Text.trim t = []
  · rw [if_pos h]
    exact iff_of_true rfl h
  · rw [if_neg h, List.map_eq_nil_iff]
    exact iff_of_false (Text.split_ne_nil _ t) h

theorem listed_splitOperands {t : Text} (h : splitOperands t ≠ []) :
    Text.Listed (splitOperands t) t := by
  unfold splitOperands at h ⊢
  by_cases hblank : Text.trim t = []
  · exact absurd (if_pos hblank) h
  · rw [if_neg hblank]
    exact Text.listed_split t

theorem splitOperands_of_listed {ops : List Text} {t : Text} (h : Text.Listed ops t)
    (h2 : 2 ≤ ops.length) (hops : ∀ o ∈ ops, IsOperand o) :
    splitOperands t = ops.map Text.trim := by
  have hne : ops ≠ [] := List.ne_nil_of_length_pos (by omega)
  have hblank : Text.trim t ≠ [] := fun hnil =>
    Text.not_allBlank_of_mem (h.comma_mem h2) (by decide) (Text.trim_eq_nil_iff.mp hnil)
  rw [splitOperands, if_neg hblank, h.map_trim_split hne fun o ho => (hops o ho).comma]

/-! ## Names and operands -/

variable {t n : Text} {ops : List Text}

theorem read?_eq_statement_iff :
    read? t = some ⟨.statement, n, ops⟩ ↔
      '(' ∉ t ∧ ((t.NoBlank ∧ n = t ∧ ops = []) ∨
        ∃ blank rest, Text.isBlank blank = true ∧ n.NoBlank ∧ t = n ++ blank :: rest ∧
          ops = splitOperands rest) := by
  have hcall : '(' ∈ t → ∀ p, cut? t = some p → p.1 = .call := by
    intro hm p hp
    unfold cut? at hp
    split at hp
    · obtain ⟨_, -, rfl⟩ := Option.map_eq_some_iff.mp hp
      rfl
    · next hnone => simpa using Text.cutAt?_eq_none_iff.mp hnone '(' hm
  unfold read?
  rw [Option.map_eq_some_iff]
  by_cases hm : '(' ∈ t
  · constructor
    · intro h
      obtain ⟨⟨style, name, operands⟩, hcut, heq⟩ := h
      have hstyle := hcall hm _ hcut
      cases hstyle
      cases heq
    · exact fun h => absurd hm h.1
  · have hcut : cut? t = some (.statement, (Text.cutAt? Text.isBlank t).getD (t, [])) := by
      rw [cut?, Text.cutAt?_of_forall_not (Text.forall_beq_of_not_mem hm)]
    rw [hcut]
    cases hblank : Text.cutAt? Text.isBlank t with
    | none =>
      have hno : t.NoBlank := Text.cutAt?_eq_none_iff.mp hblank
      constructor
      · intro h
        obtain ⟨_, heq, hparts⟩ := h
        cases heq
        cases hparts
        exact ⟨hm, .inl ⟨hno, rfl, rfl⟩⟩
      · rintro ⟨-, ⟨-, rfl, rfl⟩ | ⟨b, rest, hb, -, rfl, -⟩⟩
        · exact ⟨_, rfl, rfl⟩
        · have hb' := hno b (by simp)
          rw [hb] at hb'
          cases hb'
    | some cut =>
      obtain ⟨name, rest⟩ := cut
      obtain ⟨hname, b, hb, rfl⟩ := Text.cutAt?_eq_some_iff.mp hblank
      constructor
      · intro h
        obtain ⟨_, heq, hparts⟩ := h
        cases heq
        cases hparts
        exact ⟨hm, .inr ⟨b, rest, hb, hname, rfl, rfl⟩⟩
      · rintro ⟨-, ⟨hno, -, -⟩ | ⟨b', rest', hb', hn, heq, rfl⟩⟩
        · have hb' := hno b (by simp)
          rw [hb] at hb'
          cases hb'
        · -- The first blank stands at one place only.
          have hsame := Text.cutAt?_eq_some_iff.mpr ⟨hn, b', hb', heq⟩
          rw [hblank] at hsame
          cases hsame
          exact ⟨_, rfl, rfl⟩

theorem read?_eq_call_iff :
    read? t = some ⟨.call, n, ops⟩ ↔
      ∃ front rest, '(' ∉ front ∧ t = front ++ '(' :: (rest ++ [')']) ∧ n = Text.trim front ∧
        ops = splitOperands rest := by
  constructor
  · intro h
    unfold read? cut? at h
    obtain ⟨⟨style, name, operands⟩, hcut, heq⟩ := Option.map_eq_some_iff.mp h
    cases heq
    split at hcut
    · next front inner hopen =>
      obtain ⟨rest, hclose, heq⟩ := Option.map_eq_some_iff.mp hcut
      cases heq
      obtain ⟨hfront, c, hc, rfl⟩ := Text.cutAt?_eq_some_iff.mp hopen
      obtain rfl := beq_iff_eq.mp hc
      obtain rfl := Text.dropEnd?_eq_some_iff.mp hclose
      refine ⟨front, operands, fun hm => ?_, rfl, rfl, rfl⟩
      simpa using hfront '(' hm
    · cases hcut
  · rintro ⟨front, rest, hfront, rfl, rfl, rfl⟩
    rw [read?, cut?, Text.cutAt?_append_cons (Text.forall_beq_of_not_mem hfront) (by decide)]
    simp only [Text.dropEnd?_append_singleton, Option.map_some]

end Zicsr.Parts
