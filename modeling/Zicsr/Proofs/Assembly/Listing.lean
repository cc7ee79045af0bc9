import Mathlib.Data.List.Forall2
import Zicsr.Assembly.Source
import Zicsr.Proofs.Assembly.Printed

/-
  Listings are assembled to the words they list.

  A word of a source text is the word of one of its lines, so an instruction is
  encoded as it (`encodable_of_assembleFrom`), and the word is decoded as that
  instruction. Both texts of the instruction are lines that are read as the word
  (`Lists.assembleLine_eq`), so lines that list the words one by one are
  assembled to them (`assemble_listing`).
-/

namespace Zicsr

/-! ## The words of lines -/

/-- Whether an instruction is encoded as the word. -/
def Encodable (w : BitVec 32) : Prop := ∃ i : Instruction, i.encode = .ok w

theorem assembleLine_of_readLine {line : Text} {i : Instruction} {w : BitVec 32}
    (hread : readLine line = .ok (some i)) (henc : i.encode = .ok w) :
    assembleLine line = .ok (some w) := by
  simp only [assembleLine, hread, henc, bind, Except.bind]
  rfl

/-- A line that is accepted has the word of the instruction on it, or neither. -/
theorem exists_readLine_of_assembleLine {line : Text} {word? : Option (BitVec 32)}
    (h : assembleLine line = .ok word?) :
    ∃ i? : Option Instruction, readLine line = .ok i? ∧
      List.Forall₂ (fun i w => i.encode = .ok w) i?.toList word?.toList := by
  unfold assembleLine at h
  cases hread : readLine line with
  | error cause => rw [hread] at h; cases h
  | ok i? =>
    rw [hread] at h
    cases i? with
    | none =>
      cases h
      exact ⟨none, rfl, .nil⟩
    | some i =>
      cases henc : i.encode with
      | error cause => simp [bind, Except.bind, henc] at h
      | ok word =>
        simp only [bind, Except.bind, henc, pure, Except.pure, Except.ok.injEq] at h
        subst h
        exact ⟨some i, rfl, .cons henc .nil⟩

theorem encodable_of_assembleLine {line : Text} {w : BitVec 32}
    (h : assembleLine line = .ok (some w)) : Encodable w := by
  obtain ⟨i?, -, hwords⟩ := exists_readLine_of_assembleLine h
  cases i? with
  | none => cases hwords
  | some i =>
    cases hwords with
    | cons henc _ => exact ⟨i, henc⟩

theorem encodable_of_assembleFrom {n : Nat} {lines : List Text} {words : List (BitVec 32)}
    (h : assembleFrom n lines = .ok words) : ∀ w ∈ words, Encodable w := by
  -- By induction on the lines: each adds the word it has, and none if it is blank.
  induction lines generalizing n words with
  | nil =>
    cases h
    simp
  | cons line lines ih =>
    unfold assembleFrom at h
    cases hline : assembleLine line with
    | error cause => rw [hline] at h; cases h
    | ok word? =>
      cases hrest : assembleFrom (n + 1) lines with
      | error cause => rw [hline, hrest] at h; cases h
      | ok rest =>
        rw [hline, hrest] at h
        cases h
        intro w hw
        rcases List.mem_append.mp hw with hw | hw
        · rw [Option.mem_toList] at hw
          exact encodable_of_assembleLine (hw ▸ hline)
        · exact ih hrest w hw

theorem assembleFrom_of_forall₂ {words : List (BitVec 32)} {lines : List Text}
    (h : List.Forall₂ (fun w line => assembleLine line = .ok (some w)) words lines) (n : Nat) :
    assembleFrom n lines = .ok words := by
  induction h generalizing n with
  | nil => rfl
  | cons hline _ ih =>
    unfold assembleFrom
    rw [hline, ih]
    rfl

/-! ## Listings -/

/-- A text that says something on one line. -/
structure Text.IsLine (t : Text) : Prop where
  ne_nil : t ≠ []
  newline : '\n' ∉ t
  carriageReturn : '\r' ∉ t

theorem Instruction.isLine_text (aliases : Bool) (i : Instruction) :
    Text.IsLine (i.text aliases) where
  ne_nil := by
    obtain ⟨f, hf, htext | ⟨o, slots, htext⟩⟩ := i.text_eq_name_or_spell aliases
    · rw [htext]
      exact (Form.alphanumeric_name f (List.mem_append_left _ hf)).2
    · simp [htext, spell_eq]
  newline := i.avoids_text aliases '\n' (by decide)
  carriageReturn := i.avoids_text aliases '\r' (by decide)

/-- Whether the line is one of the texts of the instruction that the word is
decoded as. -/
def Lists (w : BitVec 32) (line : Text) : Prop :=
  ∃ i aliases, Instruction.decode? w = some i ∧ line = i.text aliases

namespace Lists

variable {w : BitVec 32} {line : Text}

theorem isLine (h : Lists w line) : line.IsLine := by
  obtain ⟨i, aliases, -, rfl⟩ := h
  exact i.isLine_text aliases

theorem assembleLine_eq (h : Lists w line) (hw : Encodable w) :
    assembleLine line = .ok (some w) := by
  obtain ⟨i, aliases, hdecode, rfl⟩ := h
  obtain ⟨j, henc⟩ := hw
  -- The word is decoded as one instruction only.
  have hij : j = i := Option.some.inj ((Instruction.decode?_of_encode henc).symm.trans hdecode)
  subst hij
  exact assembleLine_of_readLine (Instruction.readLine_text_of_encode aliases henc) henc

end Lists

theorem isLine_of_forall₂ {words : List (BitVec 32)} {lines : List Text}
    (h : List.Forall₂ Lists words lines) : ∀ line ∈ lines, line.IsLine := by
  induction h with
  | nil => simp
  | cons hline _ ih => exact List.forall_mem_cons.mpr ⟨hline.isLine, ih⟩

/-- What is assembled can be listed and assembled again: each word is that of the
instruction it is decoded as, and lines that list the words in order, each with or
without aliases, are assembled to the same words. -/
theorem assemble_listing {source : Text} {words : List (BitVec 32)}
    (h : assemble source = .ok words) :
    (∀ w ∈ words, ∃ i, Instruction.decode? w = some i ∧ i.encode = .ok w) ∧
    ∀ lines, List.Forall₂ Lists words lines → assemble (List.intercalate ['\n'] lines) = .ok words := by
  have hwords : ∀ w ∈ words, Encodable w := encodable_of_assembleFrom h
  refine ⟨fun w hw => ?_, fun lines hlines => ?_⟩
  · obtain ⟨i, henc⟩ := hwords w hw
    exact ⟨i, Instruction.decode?_of_encode henc, henc⟩
  · -- The lines are given back whole, and each is assembled to its word.
    have hlisted : List.Forall₂ (fun w line => Encodable w ∧ Lists w line) words lines :=
      (List.forall₂_and_left _ _).mpr ⟨hwords, hlines⟩
    have hsplit : Text.lines (List.intercalate ['\n'] lines) = lines := by
      refine Text.lines_intercalate (fun line hline => ?_)
      have hl := isLine_of_forall₂ hlines line hline
      exact ⟨hl.ne_nil, hl.newline, hl.carriageReturn⟩
    rw [assemble, hsplit]
    exact assembleFrom_of_forall₂ (hlisted.imp fun w line hl => hl.2.assembleLine_eq hl.1) 1

/-- Three spellings, a comment and an empty line, listed in both forms. -/
theorem assemble_listing_statements :
    assemble "csrrs t0, cycle, zero # time\n\nCSRWI mstatus, 8\nmret".toList =
      .ok [0xc00022f3#32, 0x30045073#32, 0x30200073#32] ∧
    assemble "csrr t0, cycle\ncsrrwi zero, mstatus, 8\nmret".toList =
      .ok [0xc00022f3#32, 0x30045073#32, 0x30200073#32] := by
  have hsource : assemble "csrrs t0, cycle, zero # time\n\nCSRWI mstatus, 8\nmret".toList =
      .ok [0xc00022f3#32, 0x30045073#32, 0x30200073#32] := by rfl
  refine ⟨hsource, (assemble_listing hsource).2
    ["csrr t0, cycle", "csrrwi zero, mstatus, 8", "mret"] ?_⟩
  exact .cons ⟨_, true, rfl, rfl⟩ (.cons ⟨_, false, rfl, rfl⟩ (.cons ⟨_, true, rfl, rfl⟩ .nil))

end Zicsr
