import Zicsr.Cli.Run
import Zicsr.Proofs.Assembly.Append

/-
  The two commands that assemble.

  One takes its source from the command line, cuts it at semicolons and prints each
  word as it comes to it; the other reads the lines of a file and prints all words
  or none. With newlines for the semicolons the segments are the pieces between
  newlines (`split_replace`), and a piece is assembled as the line it makes
  (`assemble_replace`). Both commands then follow the same run: segments that are
  accepted print their words (`encodeSegments_append`), and a run that fails does so
  at a first line, with the lines before it accepted (`exists_of_assembleFrom_error`).
-/

namespace Zicsr

namespace Text

/-- The text with one character in the place of another. -/
def replace (old new : Char) (t : Text) : Text := t.map (fun c => if c = old then new else c)

theorem split_replace {old new : Char} {t : Text} (h : new ∉ t) :
    split (· == new) (replace old new t) = split (· == old) t := by
  induction t with
  | nil => rfl
  | cons c t ih =>
    obtain ⟨hc, ht⟩ := List.ne_and_not_mem_of_not_mem_cons h
    rw [replace, List.map_cons, ← replace, split, split, ih ht]
    by_cases hold : c = old
    · simp [hold]
    · simp [hold, hc.symm]

end Text

/-! ## What outcomes print -/

theorem outputLines_append (a b : List Emission) :
    outputLines (a ++ b) = outputLines a ++ outputLines b :=
  List.filterMap_append

theorem outputLines_map_event (events : List Event) : outputLines (events.map .event) = [] := by
  simp [outputLines, List.filterMap_map, Function.comp_def, Emission.output?]

theorem outputLines_map_output (lines : List Text) :
    outputLines (lines.map .output) = lines := by
  simp [outputLines, List.filterMap_map, Function.comp_def, Emission.output?]

namespace Outcome

theorem printed_after (earlier : List Emission) (o : Outcome) :
    (o.after earlier).printed = outputLines earlier ++ o.printed :=
  outputLines_append _ _

theorem printed_print (lines : List Text) : (print lines).printed = lines :=
  outputLines_map_output lines

end Outcome

theorem outputLines_sourceEvents (lines : List Text) : outputLines (sourceEvents lines) = [] := by
  induction lines with
  | nil => rfl
  | cons line lines ih =>
    rw [sourceEvents]
    cases readLine line with
    | error e => rfl
    | ok i? =>
      cases i? with
      | none => exact ih
      | some i =>
        show outputLines (lineEvents line i ++ sourceEvents lines) = []
        rw [outputLines_append, lineEvents, outputLines_map_event, ih, List.nil_append]

/-! ## The segments of the command line -/

theorem assembleLine_eq (line : Text) :
    assembleLine line = readLine line >>= fun i? =>
      i?.elim (.ok none) fun i => (i.encode.mapError .encode).map some := by
  unfold assembleLine
  cases readLine line with
  | error e => rfl
  | ok i? =>
    cases i? with
    | none => rfl
    | some i =>
      cases hencode : i.encode <;> simp only [bind, Except.bind, hencode, Option.elim_some] <;> rfl

theorem exists_encodeSegments_cons (format : WordFormat) (segment : Text) (rest : List Text) :
    ∃ events : List Event, encodeSegments format (segment :: rest) =
      match assembleLine segment with
      | .error e => .fail (.line e)
      | .ok word? => (encodeSegments format rest).after
          (events.map .event ++ (word?.toList.map format.write).map .output) := by
  rw [assembleLine_eq, encodeSegments]
  cases readLine segment with
  | error e => exact ⟨[], rfl⟩
  | ok i? =>
    cases i? with
    | none => exact ⟨[], rfl⟩
    | some i =>
      refine ⟨readEvents segment i ++ encodedEvents i, ?_⟩
      cases hencode : i.encode <;>
        (simp only [hencode, bind, Except.bind, Option.elim_some]; rfl)

theorem encodeSegments_cons_of_error (format : WordFormat) {segment : Text} {e : LineError}
    (h : assembleLine segment = .error e) (rest : List Text) :
    encodeSegments format (segment :: rest) = .fail (.line e) := by
  obtain ⟨events, hcons⟩ := exists_encodeSegments_cons format segment rest
  rw [hcons, h]

theorem encodeSegments_cons_of_ok (format : WordFormat) {segment : Text}
    {word? : Option (BitVec 32)} (h : assembleLine segment = .ok word?) (rest : List Text) :
    (encodeSegments format (segment :: rest)).printed =
        word?.toList.map format.write ++ (encodeSegments format rest).printed ∧
      (encodeSegments format (segment :: rest)).result = (encodeSegments format rest).result := by
  obtain ⟨events, hcons⟩ := exists_encodeSegments_cons format segment rest
  rw [hcons, h]
  refine ⟨?_, rfl⟩
  rw [Outcome.printed_after, outputLines_append, outputLines_map_event, outputLines_map_output,
    List.nil_append]

theorem encodeSegments_append (format : WordFormat) {n : Nat} {before : List Text}
    {words : List (BitVec 32)} (h : assembleFrom n before = .ok words) (rest : List Text) :
    (encodeSegments format (before ++ rest)).printed =
        words.map format.write ++ (encodeSegments format rest).printed ∧
      (encodeSegments format (before ++ rest)).result = (encodeSegments format rest).result := by
  induction before generalizing n words with
  | nil =>
    cases h
    exact ⟨rfl, rfl⟩
  | cons segment before ih =>
    rw [assembleFrom] at h
    cases hline : assembleLine segment with
    | error e => rw [hline] at h; cases h
    | ok word? =>
      rw [hline] at h
      cases hbefore : assembleFrom (n + 1) before with
      | error e => rw [hbefore] at h; cases h
      | ok words' =>
        rw [hbefore] at h
        cases h
        obtain ⟨hprinted, hresult⟩ := encodeSegments_cons_of_ok format hline (before ++ rest)
        obtain ⟨ihprinted, ihresult⟩ := ih hbefore
        refine ⟨?_, hresult.trans ihresult⟩
        rw [List.cons_append, hprinted, ihprinted, List.map_append, List.append_assoc]

/-! ## Runs that fail -/

/-- A run over lines fails at a first one, and accepts those before it. -/
theorem exists_of_assembleFrom_error {n : Nat} {lines : List Text} {e : SourceError}
    (h : assembleFrom n lines = .error e) :
    ∃ before line after words, lines = before ++ line :: after ∧
      assembleFrom n before = .ok words ∧ assembleLine line = .error e.cause ∧
      e.line = n + before.length := by
  induction lines generalizing n with
  | nil => cases h
  | cons line lines ih =>
    rw [assembleFrom] at h
    cases hline : assembleLine line with
    | error cause =>
      rw [hline] at h
      cases h
      exact ⟨[], line, lines, [], rfl, rfl, hline, rfl⟩
    | ok word? =>
      rw [hline] at h
      cases hlines : assembleFrom (n + 1) lines with
      | ok words => rw [hlines] at h; cases h
      | error e' =>
        rw [hlines] at h
        cases h
        obtain ⟨before, refused, after, words, rfl, hbefore, hrefused, hcount⟩ := ih hlines
        refine ⟨line :: before, refused, after, word?.toList ++ words, rfl, ?_, hrefused, ?_⟩
        · rw [assembleFrom, hline, hbefore]
          rfl
        · rw [hcount, List.length_cons]
          omega

/-! ## Both commands -/

/-- With newlines for the semicolons the segments are assembled as lines. -/
theorem assemble_replace {source : List Text} (h : '\n' ∉ List.intercalate " " source) :
    assemble (Text.replace ';' '\n' (List.intercalate " " source)) =
      assembleFrom 1 (segments source) := by
  rw [assemble, Text.lines, Text.split_replace h, assembleFrom_closeLines, segments]

theorem assembleFile_of_ok {read : FileReader} {path source : Text} (format : WordFormat)
    {words : List (BitVec 32)} (hfile : read path = .ok source) (h : assemble source = .ok words) :
    (assembleFile read path format).printed = words.map format.write ∧
      (assembleFile read path format).result = .ok () := by
  unfold assembleFile
  simp only [hfile, h]
  refine ⟨?_, rfl⟩
  rw [Outcome.printed_after, Outcome.printed_print, outputLines_append, outputLines_sourceEvents]
  rfl

theorem assembleFile_of_error {read : FileReader} {path source : Text} (format : WordFormat)
    {e : SourceError} (hfile : read path = .ok source) (h : assemble source = .error e) :
    (assembleFile read path format).printed = [] ∧
      (assembleFile read path format).result = .error (.source e) := by
  unfold assembleFile
  simp only [hfile, h]
  refine ⟨?_, rfl⟩
  rw [Outcome.printed_after, outputLines_sourceEvents]
  rfl

/-- The two commands agree on a source that holds no newline. If it is assembled,
both print its words, one a line, and nothing else. If its line `n` is refused, both
fail for the same cause; by then the one has printed the words of the `n - 1` segments
before, and the other nothing. -/
theorem encode_agrees_assemble (x : Xlen) (read : FileReader) (path : Text)
    (source : List Text) (format : WordFormat) (hsource : '\n' ∉ List.intercalate " " source)
    (hfile : read path = .ok (Text.replace ';' '\n' (List.intercalate " " source))) :
    let encoded := (Command.encode source format).run x read
    let assembled := (Command.assemble path format).run x read
    (∀ words, assemble (Text.replace ';' '\n' (List.intercalate " " source)) = .ok words →
      encoded.printed = words.map format.write ∧ encoded.result = .ok () ∧
        assembled.printed = words.map format.write ∧ assembled.result = .ok ()) ∧
    ∀ n e, assemble (Text.replace ';' '\n' (List.intercalate " " source)) = .error ⟨n, e⟩ →
      (∃ segment words, 0 < n ∧ (segments source)[n - 1]? = some segment ∧
        assembleLine segment = .error e ∧
        assembleFrom 1 ((segments source).take (n - 1)) = .ok words ∧
        encoded.printed = words.map format.write) ∧
      encoded.result = .error (.line e) ∧
        assembled.printed = [] ∧ assembled.result = .error (.source ⟨n, e⟩) := by
  intro encoded assembled
  constructor
  · intro words h
    obtain ⟨hprinted, hresult⟩ := assembleFile_of_ok format hfile h
    rw [assemble_replace hsource] at h
    have hrun := encodeSegments_append format h []
    rw [List.append_nil] at hrun
    exact ⟨hrun.1.trans (List.append_nil _), hrun.2, hprinted, hresult⟩
  · intro n e h
    have hassembled := assembleFile_of_error format hfile h
    rw [assemble_replace hsource] at h
    obtain ⟨before, segment, after, words, hsplit, hbefore, hrefused, hcount⟩ :=
      exists_of_assembleFrom_error h
    have hn : n = 1 + before.length := hcount
    obtain ⟨hprinted, hresult⟩ := encodeSegments_append format hbefore (segment :: after)
    rw [encodeSegments_cons_of_error format hrefused, ← hsplit] at hprinted hresult
    refine ⟨⟨segment, words, by omega, ?_, hrefused, ?_, hprinted.trans (List.append_nil _)⟩,
      hresult, hassembled⟩
    · rw [hsplit, hn, Nat.add_sub_cancel_left, List.getElem?_append_right (Nat.le_refl _),
        Nat.sub_self]
      rfl
    · rw [hsplit, hn, Nat.add_sub_cancel_left, List.take_left, hbefore]

/-- A source with a carriage return and a blank segment, and one whose third segment
writes a read-only register. -/
theorem encode_agrees_assemble_cycle :
    let accepted : List Text := ["csrr t0,", "cycle\r; ;mret"]
    let refused : List Text := ["wfi;", ";csrw cycle, t0;mret"]
    let printed : List Text := [".word 0xc00022f3", ".word 0x30200073"]
    let file (source : List Text) : FileReader :=
      fun _ => .ok (Text.replace ';' '\n' (List.intercalate " " source))
    (((Command.encode accepted .gnu).run .rv64 (file accepted)).printed = printed ∧
      ((Command.assemble "a.s" .gnu).run .rv64 (file accepted)).printed = printed) ∧
    ((Command.encode refused .hex).run .rv32 (file refused)).printed = ["0x10500073".toList] ∧
      ((Command.encode refused .hex).run .rv32 (file refused)).result =
        .error (.line (.encode (.readOnlyWrite 0xC00))) ∧
      ((Command.assemble "a.s" .hex).run .rv32 (file refused)).printed = [] := by
  intro accepted refused printed file
  obtain ⟨hencoded, -, hassembled, -⟩ :=
    (encode_agrees_assemble .rv64 (file accepted) "a.s" accepted .gnu (by decide) rfl).1
      [0xc00022f3#32, 0x30200073#32] (by rfl)
  obtain ⟨⟨segment, words, -, -, -, hwords, hprinted⟩, hresult, hnothing, -⟩ :=
    (encode_agrees_assemble .rv32 (file refused) "a.s" refused .hex (by decide) rfl).2
      3 (.encode (.readOnlyWrite 0xC00)) (by rfl)
  have hwfi : words = [0x10500073#32] :=
    Except.ok.inj (hwords.symm.trans (by rfl))
  refine ⟨⟨hencoded, hassembled⟩, ?_, hresult, hnothing⟩
  rw [hprinted, hwfi]
  rfl

end Zicsr
