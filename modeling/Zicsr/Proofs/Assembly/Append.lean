import Zicsr.Assembly.Source
import Zicsr.Proofs.Assembly.Line
import Zicsr.Proofs.Text.Padding

/-
  Source texts one after the other.

  Lines are assembled one by one, so lines after others give their words after
  those of the others and count on from them (`assembleFrom_append`,
  `assembleFrom_add`). A newline between two texts ends the last line of the
  first, even an empty one, and takes a carriage return with it; neither changes
  what the lines are assembled to (`assembleFrom_map_dropReturn`).
-/

namespace Zicsr

/-! ## A carriage return at the end of a line -/

namespace Parts

theorem uncommented_of_allBlank {b : Text} (hb : Text.AllBlank b) : Uncommented b :=
  uncommented_of_not_mem (fun h => absurd (hb _ h) (by decide))
    (fun h => absurd (hb _ h) (by decide))

theorem code_append_of_allBlank {b : Text} (hb : Text.AllBlank b) (t : Text) :
    code (t ++ b) = code t := by
  by_cases h : Uncommented t
  · have hseam : b.head? ≠ some '/' := fun hslash =>
      absurd (hb '/' (List.mem_of_head? hslash)) (by decide)
    rw [code, dropComment_append_of_uncommented h (.inr hseam),
      dropComment_of_uncommented (uncommented_of_allBlank hb), Text.trim_append_of_allBlank hb,
      code_of_uncommented h]
  · rw [code, dropComment_append_of_commented h, code]

theorem code_dropReturn (t : Text) : code (Text.dropReturn t) = code t := by
  unfold Text.dropReturn
  cases h : Text.dropEnd? '\r' t with
  | none => rfl
  | some u =>
    rw [Text.dropEnd?_eq_some_iff.mp h, code_append_of_allBlank (by decide)]
    rfl

end Parts

/-- A carriage return at the end of a line changes nothing, not even an error. -/
theorem assembleLine_dropReturn (t : Text) : assembleLine (Text.dropReturn t) = assembleLine t := by
  have hread : readLine (Text.dropReturn t) = readLine t := by
    unfold readLine
    rw [Parts.code_dropReturn]
  unfold assembleLine
  rw [hread]

/-! ## Lines after lines -/

/-- The error of a text that stands `k` lines further down. -/
def SourceError.shift (k : Nat) (e : SourceError) : SourceError := ⟨e.line + k, e.cause⟩

theorem assembleFrom_add (k n : Nat) (lines : List Text) :
    assembleFrom (n + k) lines = (assembleFrom n lines).mapError (SourceError.shift k) := by
  induction lines generalizing n with
  | nil => rfl
  | cons line lines ih =>
    rw [assembleFrom, assembleFrom, show n + k + 1 = n + 1 + k by omega, ih (n + 1)]
    cases assembleLine line with
    | error cause => rfl
    | ok word? => cases assembleFrom (n + 1) lines <;> rfl

/-- Lines after others give their words after those of the others, unless one of
the others is refused. -/
theorem assembleFrom_append (n : Nat) (before after : List Text) :
    assembleFrom n (before ++ after) =
      assembleFrom n before >>= fun words =>
        (assembleFrom (n + before.length) after).map (words ++ ·) := by
  induction before generalizing n with
  | nil =>
    show assembleFrom n after = (assembleFrom n after).map ([] ++ ·)
    cases assembleFrom n after <;> rfl
  | cons line before ih =>
    rw [List.cons_append, assembleFrom, assembleFrom, ih (n + 1), List.length_cons,
      show n + 1 + before.length = n + (before.length + 1) by omega]
    cases assembleLine line with
    | error cause => rfl
    | ok word? =>
      cases assembleFrom (n + 1) before with
      | error e => rfl
      | ok words =>
        cases assembleFrom (n + (before.length + 1)) after with
        | error e => rfl
        | ok words' =>
          show Except.ok (word?.toList ++ (words ++ words')) =
            Except.ok (word?.toList ++ words ++ words')
          rw [List.append_assoc]

/-- Pieces between newlines are assembled as the lines they make: it matters
neither that a last empty piece is no line nor that lines lose carriage returns. -/
theorem assembleFrom_map_dropReturn (n : Nat) (pieces : List Text) :
    assembleFrom n (pieces.map Text.dropReturn) = assembleFrom n (Text.closeLines pieces) := by
  induction pieces generalizing n with
  | nil => rfl
  | cons piece more ih =>
    cases more with
    | nil =>
      by_cases hnil : piece = []
      · subst hnil
        rfl
      · rw [Text.closeLines, if_neg hnil, List.map_singleton]
        simp only [assembleFrom, assembleLine_dropReturn]
    | cons next more =>
      rw [Text.closeLines_cons (List.cons_ne_nil next more), List.map_cons, assembleFrom,
        assembleFrom, ih (n + 1)]

theorem assembleFrom_closeLines (n : Nat) (pieces : List Text) :
    assembleFrom n (Text.closeLines pieces) = assembleFrom n pieces := by
  rw [← assembleFrom_map_dropReturn]
  induction pieces generalizing n with
  | nil => rfl
  | cons piece more ih =>
    rw [List.map_cons, assembleFrom, assembleFrom, assembleLine_dropReturn, ih (n + 1)]

theorem assemble_append_eq (a b : Text) :
    assemble (a ++ '\n' :: b) =
      assemble a >>= fun words =>
        ((assemble b).mapError (SourceError.shift (a.count '\n' + 1))).map (words ++ ·) := by
  have hcount : ((Text.split (· == '\n') a).map Text.dropReturn).length = a.count '\n' + 1 := by
    rw [List.length_map, Text.length_split, List.count]
  rw [assemble, Text.lines_append_newline, assembleFrom_append, hcount, assembleFrom_add,
    assembleFrom_map_dropReturn]
  rfl

/-- Assembling is compositional. Of two texts with a newline between them, the
words are those of the first and then those of the second; a line that is refused
in the first is refused as there, and one that is refused in the second is refused
as there, counted on by the newlines before it. -/
theorem assemble_append (a b : Text) :
    (∀ e, assemble a = .error e → assemble (a ++ '\n' :: b) = .error e) ∧
    (∀ u v, assemble a = .ok u → assemble b = .ok v →
      assemble (a ++ '\n' :: b) = .ok (u ++ v)) ∧
    (∀ u n cause, assemble a = .ok u → assemble b = .error ⟨n, cause⟩ →
      assemble (a ++ '\n' :: b) = .error ⟨n + a.count '\n' + 1, cause⟩) := by
  rw [assemble_append_eq]
  refine ⟨fun e ha => ?_, fun u v ha hb => ?_, fun u n cause ha hb => ?_⟩
  · rw [ha]
    rfl
  · rw [ha, hb]
    rfl
  · rw [ha, hb]
    rfl

/-- A first text that ends in a carriage return, and a second one with a line that
is refused. -/
theorem assemble_append_refused :
    assemble "csrr t0, cycle\r\n\nmret\r".toList = .ok [0xc00022f3#32, 0x30200073#32] ∧
    assemble "\r\nmret t0\r".toList = .error ⟨2, .operandCount "mret" 0 1⟩ ∧
    assemble ("csrr t0, cycle\r\n\nmret\r".toList ++ '\n' :: "\r\nmret t0\r".toList) =
      .error ⟨5, .operandCount "mret" 0 1⟩ := by
  have ha : assemble "csrr t0, cycle\r\n\nmret\r".toList =
      .ok [0xc00022f3#32, 0x30200073#32] := by rfl
  have hb : assemble "\r\nmret t0\r".toList = .error ⟨2, .operandCount "mret" 0 1⟩ := by rfl
  exact ⟨ha, hb, (assemble_append _ _).2.2 _ _ _ ha hb⟩

end Zicsr
