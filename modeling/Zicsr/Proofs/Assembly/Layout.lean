import Mathlib.Logic.Relation
import Zicsr.Proofs.Assembly.Append
import Zicsr.Proofs.Assembly.Respelled

/-
  What the layout of a source does not say.

  Blanks around a line and a comment behind it are gone before the line is taken
  apart (`readLine_padded`, `readLine_append_mark`), wherever the comment begins
  and however malformed the line is. So a source in which lines are laid out anew
  is assembled as before, down to the error and its line (`assemble_eqvGen`).
-/

namespace Zicsr

/-! ## Blanks and comments -/

namespace Parts

/-- Where a comment follows, nothing is read of it, unless its mark begins one
character early. -/
theorem dropComment_append_mark {l m : Text} (hm : dropComment m = [])
    (seam : l.getLast? ≠ some '/' ∨ m.head? ≠ some '/' ∨ ¬ Uncommented l) :
    dropComment (l ++ m) = dropComment l := by
  by_cases hl : Uncommented l
  · have hseam : l.getLast? ≠ some '/' ∨ m.head? ≠ some '/' :=
      seam.imp_right fun h => h.resolve_right (not_not_intro hl)
    rw [dropComment_append_of_uncommented hl hseam, hm, List.append_nil,
      dropComment_of_uncommented hl]
  · exact dropComment_append_of_commented hl m

theorem code_padded {l t : Text} (h : Text.Padded l t) : code t = code l := by
  obtain ⟨p, q, hp, hq, rfl⟩ := h
  have hstart : p.getLast? ≠ some '/' := fun hslash =>
    absurd (hp '/' (List.mem_of_getLast? hslash)) (by decide)
  have hpadded : Text.Padded (dropComment l) (p ++ dropComment l) :=
    ⟨p, [], hp, by decide, by rw [List.append_nil]⟩
  rw [code_append_of_allBlank hq, code,
    dropComment_append_of_uncommented (uncommented_of_allBlank hp) (.inl hstart), hpadded.trim_eq,
    code]

end Parts

theorem readLine_eq_of_code {l t : Text} (h : Parts.code t = Parts.code l) :
    readLine t = readLine l := by
  unfold readLine
  rw [h]

theorem readLine_padded {l t : Text} (h : Text.Padded l t) : readLine t = readLine l :=
  readLine_eq_of_code (Parts.code_padded h)

theorem readLine_append_mark {l m : Text} (hm : Parts.dropComment m = [])
    (seam : l.getLast? ≠ some '/' ∨ m.head? ≠ some '/' ∨ ¬ Parts.Uncommented l) :
    readLine (l ++ m) = readLine l :=
  readLine_eq_of_code (congrArg Text.trim (Parts.dropComment_append_mark hm seam))

/-! ## Sources laid out anew -/

/-- The second text is the first one with blanks around it or a comment behind it.
What is added holds no newline, so a line stays one line. -/
inductive Layout (l : Text) : Text → Prop where
  | blanks {p q : Text} (hp : Text.AllBlank p) (hq : Text.AllBlank q)
      (hpn : '\n' ∉ p) (hqn : '\n' ∉ q) : Layout l (p ++ l ++ q)
  | hash {c : Text} (hc : '\n' ∉ c) : Layout l (l ++ '#' :: c)
  | slashes {c : Text} (seam : l.getLast? ≠ some '/' ∨ '#' ∈ l ∨ ['/', '/'] <:+: l)
      (hc : '\n' ∉ c) : Layout l (l ++ '/' :: '/' :: c)

theorem not_uncommented_of_mark {l : Text} (h : '#' ∈ l ∨ ['/', '/'] <:+: l) :
    ¬ Parts.Uncommented l := fun hl => h.elim hl.1 hl.2

theorem Layout.readLine_eq {l t : Text} (h : Layout l t) : readLine t = readLine l := by
  cases h with
  | @blanks p q hp hq => exact readLine_padded ⟨p, q, hp, hq, rfl⟩
  | hash => exact readLine_append_mark rfl (.inr (.inl (by simp)))
  | slashes seam =>
    exact readLine_append_mark rfl (seam.imp_right fun h => .inr (not_uncommented_of_mark h))

theorem Layout.newline_mem_iff {l t : Text} (h : Layout l t) : '\n' ∈ t ↔ '\n' ∈ l := by
  cases h with
  | blanks _ _ hpn hqn => simp [hpn, hqn]
  | hash hc => simp [hc]
  | slashes _ hc => simp [hc]

/-- What each of the changes keeps is kept by any number of them, made or undone. -/
theorem Layout.eqvGen_eq {α : Type} (f : Text → α) (hf : ∀ l t, Layout l t → f t = f l) {l t : Text}
    (h : Relation.EqvGen Layout l t) : f t = f l := by
  induction h with
  | rel l t h => exact hf l t h
  | refl l => rfl
  | symm l t _ ih => exact ih.symm
  | trans l t u _ _ ih ih' => exact ih'.trans ih

theorem assembleFrom_congr {lines lines' : List Text}
    (h : List.Forall₂ (fun l t => assembleLine t = assembleLine l) lines lines') (n : Nat) :
    assembleFrom n lines' = assembleFrom n lines := by
  induction h generalizing n with
  | nil => rfl
  | cons hline _ ih => rw [assembleFrom, assembleFrom, hline, ih (n + 1)]

/-- A source is assembled as its pieces between newlines. -/
theorem assemble_intercalate {pieces : List Text} (hne : pieces ≠ [])
    (hpieces : ∀ piece ∈ pieces, '\n' ∉ piece) :
    assemble (List.intercalate ['\n'] pieces) = assembleFrom 1 pieces := by
  rw [assemble, Text.lines, Text.split_intercalate hpieces hne, assembleFrom_closeLines]

theorem newline_not_mem_split {source piece : Text} (h : piece ∈ Text.split (· == '\n') source) :
    '\n' ∉ piece := fun hm => absurd (Text.not_of_mem_split h '\n' hm) (by decide)

/-- A source with its lines laid out anew is assembled as before. -/
theorem assemble_eqvGen {source : Text} {pieces : List Text}
    (h : List.Forall₂ (Relation.EqvGen Layout) (Text.split (· == '\n') source) pieces) :
    assemble (List.intercalate ['\n'] pieces) = assemble source := by
  have hne : pieces ≠ [] := fun hnil =>
    Text.split_ne_nil _ source (List.forall₂_nil_right_iff.mp (hnil ▸ h))
  have hpieces : ∀ piece ∈ pieces, '\n' ∉ piece := by
    intro piece hmem
    obtain ⟨line, hline, hlaid⟩ := Text.exists_of_mem_forall₂ h hmem
    have hnewline : ('\n' ∈ piece) = ('\n' ∈ line) :=
      Layout.eqvGen_eq ('\n' ∈ ·) (fun _ _ hlt => propext hlt.newline_mem_iff) hlaid
    exact hnewline ▸ newline_not_mem_split hline
  have hlines : List.Forall₂ (fun l t => assembleLine t = assembleLine l)
      (Text.split (· == '\n') source) pieces := by
    refine h.imp fun l t hlaid => ?_
    have hread : readLine t = readLine l :=
      Layout.eqvGen_eq readLine (fun _ _ hlt => hlt.readLine_eq) hlaid
    rw [assembleLine, assembleLine, hread]
  calc assemble (List.intercalate ['\n'] pieces)
      = assembleFrom 1 pieces := assemble_intercalate hne hpieces
    _ = assembleFrom 1 (Text.split (· == '\n') source) := assembleFrom_congr hlines 1
    _ = assemble source := (assembleFrom_closeLines 1 _).symm

/-- The layout of a line says nothing: it is read as it is without the blanks
around it, and as it is without a comment behind it, errors included. Only a mark
of two slashes must not follow a slash, unless a comment has begun before. The
case of its name says nothing either, but errors may echo it. So a source in
which any pieces between newlines are laid out anew is assembled as before, with
the same words or the same error in the same line. -/
theorem readLine_layout :
    (∀ l p q, Text.AllBlank p → Text.AllBlank q → readLine (p ++ l ++ q) = readLine l) ∧
    (∀ l c, readLine (l ++ '#' :: c) = readLine l) ∧
    (∀ l c, l.getLast? ≠ some '/' ∨ '#' ∈ l ∨ ['/', '/'] <:+: l →
      readLine (l ++ '/' :: '/' :: c) = readLine l) ∧
    (∀ l l', Respelled l l' →
      (readLine l').mapError LineError.lowerEcho = (readLine l).mapError LineError.lowerEcho) ∧
    (∀ source pieces, List.Forall₂ (Relation.EqvGen Layout) (Text.split (· == '\n') source) pieces →
      assemble (List.intercalate ['\n'] pieces) = assemble source) := by
  refine ⟨?blanks, ?hash, ?slashes, fun _ _ => readLine_respelled, fun _ _ => assemble_eqvGen⟩
  case blanks => exact fun l p q hp hq => readLine_padded ⟨p, q, hp, hq, rfl⟩
  case hash => exact fun l c => readLine_append_mark rfl (.inr (.inl (by simp)))
  case slashes =>
    exact fun l c seam =>
      readLine_append_mark rfl (seam.imp_right fun h => .inr (not_uncommented_of_mark h))

/-- After a slash, a mark of two slashes begins one character early. -/
example : readLine ("mret/".toList ++ "//".toList) = readLine "mret" ∧
    readLine "mret/" ≠ readLine "mret" := by decide

/-- Blanks around a call that is not closed, a comment in a comment, a name with
the letters in the other case, and a source with a comment before the carriage
return of its first line. -/
theorem readLine_layout_refused :
    readLine "\tCSRW(t0, ".toList = .error (.openCall "CSRW(t0,") ∧
    readLine "mret t0 #/".toList = readLine "mret t0 #///".toList ∧
    (readLine "CSRW(t0,".toList).mapError LineError.lowerEcho =
      (readLine "csrw(t0,".toList).mapError LineError.lowerEcho ∧
    assemble "mret# return\r\n\tmret t0".toList = .error ⟨2, .operandCount "mret" 0 1⟩ := by
  obtain ⟨blanks, -, slashes, names, sources⟩ := readLine_layout
  refine ⟨?blanks, ?slashes, ?names, ?source⟩
  case blanks =>
    have hread : readLine "CSRW(t0,".toList = .error (.openCall "CSRW(t0,") := by rfl
    exact (blanks "CSRW(t0," "\t" " " (by decide) (by decide)).trans hread
  case slashes => exact (slashes "mret t0 #/" [] (.inr (.inl (by decide)))).symm
  case names => exact names "csrw(t0," "CSRW(t0," ⟨"CSRW", "(t0,", by decide, by decide, by decide⟩
  case source =>
    have hread : assemble "mret\r\nmret t0".toList = .error ⟨2, .operandCount "mret" 0 1⟩ := by rfl
    -- The carriage return is taken off the line and comes back as the end of the comment.
    have hfirst : Relation.EqvGen Layout "mret\r".toList "mret# return\r".toList :=
      .trans _ "mret".toList _
        (.symm _ _ (.rel _ _ (.blanks (p := []) (q := ['\r']) (by decide) (by decide) (by decide)
          (by decide))))
        (.rel _ _ (.hash (c := " return\r".toList) (by decide)))
    have hsecond : Relation.EqvGen Layout "mret t0".toList "\tmret t0".toList :=
      .rel _ _ (.blanks (p := ['\t']) (q := []) (by decide) (by decide) (by decide) (by decide))
    exact (sources "mret\r\nmret t0" ["mret# return\r", "\tmret t0"]
      (.cons hfirst (.cons hsecond .nil))).trans hread

end Zicsr
