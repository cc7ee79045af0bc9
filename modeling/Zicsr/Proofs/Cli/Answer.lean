import Zicsr.Proofs.Cli.Decode
import Zicsr.Proofs.Csr.FieldView
import Zicsr.Proofs.Header.Selection
import Zicsr.Proofs.Numeral.Literal

/-
  What a command prints before it fails.

  The encoder and the decoder print as they go. They stop at the first text that they
  cannot read, and what they have printed by then stays. The other commands read all
  of their arguments first and print all or nothing.

  `Answer` says so case by case, and what a text denotes is told there by the tables of
  names and by the numerals. Texts are read one after the other, up to a first one that
  denotes nothing (`ReadUntil`), and each loop over texts follows that reading. Each
  case of `Answer` is what the command gives (`Answer.gives`), and one of them applies
  to every command (`exists_answer`).
-/

namespace Zicsr

/-! ## One text after the other -/

section Texts

variable {α : Type} {R : Text → α → Prop} {texts : List Text} {values : List α} {t : Text}
  {stop? : Option Text}

/-- Reading texts one after the other: what those that are read denote, and the first that
denotes nothing, if there is one. -/
inductive ReadUntil (R : Text → α → Prop) : List Text → List α → Option Text → Prop
  | done : ReadUntil R [] [] none
  | stop {t : Text} {rest : List Text} (refused : ∀ a, ¬ R t a) :
      ReadUntil R (t :: rest) [] (some t)
  | next {t : Text} {a : α} {rest : List Text} {values : List α} {stop? : Option Text}
      (read : R t a) (later : ReadUntil R rest values stop?) :
      ReadUntil R (t :: rest) (a :: values) stop?

theorem exists_readUntil (R : Text → α → Prop) (texts : List Text) :
    ∃ values stop?, ReadUntil R texts values stop? := by
  induction texts with
  | nil => exact ⟨[], none, .done⟩
  | cons t rest ih =>
    by_cases ht : ∃ a, R t a
    · obtain ⟨a, ha⟩ := ht
      obtain ⟨values, stop?, hrest⟩ := ih
      exact ⟨a :: values, stop?, .next ha hrest⟩
    · exact ⟨[], some t, .stop (not_exists.mp ht)⟩

/-- The text that stops the reading denotes nothing. -/
theorem ReadUntil.refused (h : ReadUntil R texts values stop?) : ∀ t ∈ stop?, ∀ a, ¬ R t a := by
  induction h with
  | done => exact fun _ ht => absurd ht (Option.not_mem_none _)
  | stop refused =>
    intro t ht
    cases ht
    exact refused
  | next _ _ ih => exact ih

theorem ReadUntil.ne_nil (h : ReadUntil R texts values (some t)) : texts ≠ [] := by
  rintro rfl
  cases h

/-- Reads every text; the first that is not read is the error. -/
def readEach (read? : Text → Option α) (refusal : Text → CommandError) :
    List Text → Except CommandError (List α)
  | [] => .ok []
  | t :: rest =>
    match read? t with
    | none => .error (refusal t)
    | some a => (readEach read? refusal rest).map (a :: ·)

/-- Whether the reader gives just what a text denotes. -/
def Recognizes (read? : Text → Option α) (R : Text → α → Prop) : Prop :=
  ∀ t a, read? t = some a ↔ R t a

variable {read? : Text → Option α}

theorem Recognizes.eq_none (hread : Recognizes read? R) (h : ∀ a, ¬ R t a) : read? t = none :=
  Option.eq_none_iff_forall_ne_some.mpr fun a ha => h a ((hread t a).mp ha)

theorem Recognizes.readEach_eq (hread : Recognizes read? R) (refusal : Text → CommandError)
    (h : ReadUntil R texts values stop?) :
    readEach read? refusal texts = stop?.elim (.ok values) (fun t => .error (refusal t)) := by
  induction h with
  | done => rfl
  | stop refused =>
    rw [readEach, hread.eq_none refused]
    rfl
  | @next t a rest values stop? ha _ ih =>
    rw [readEach, (hread t a).mpr ha, ih]
    cases stop? <;> rfl

end Texts

theorem readRegisters_eq (texts : List Text) :
    readRegisters texts = readEach Register.read? .invalidRegister texts := by
  induction texts with
  | nil => rfl
  | cons t rest ih =>
    rw [readRegisters, readEach, ih]
    cases Register.read? t <;> rfl

theorem readCsrs_eq (texts : List Text) :
    readCsrs texts = readEach Csr.read? (fun t => .invalidCsr (Text.trim t)) texts := by
  induction texts with
  | nil => rfl
  | cons t rest ih =>
    rw [readCsrs, readEach, ih]
    cases Csr.read? t <;> rfl

/-! ## What texts denote -/

/-- Whether the text is a spelling of the register, blanks aside. -/
def Register.Denoted (t : Text) (r : Register) : Prop := Text.trim t ∈ r.spellings

/-- Whether the text is the name of the CSR in the table, blanks aside, or a numeral of
its address. -/
def Csr.Denoted (t : Text) (c : Csr) : Prop :=
  (Text.trim t, c.address) ∈ table ∨ Numeral.Reading t (.ok c.address)

theorem Register.recognizes_denoted : Recognizes read? Denoted := fun _ _ => read?_eq_some_iff

theorem Csr.recognizes_denoted : Recognizes read? Denoted := fun t c => by
  rw [read?_eq_some_iff, Denoted, Numeral.read_eq_iff]

namespace Numeral

variable {w : Nat} {t : Text}

/-- Whether the text is a numeral of the word. -/
def Denoted (t : Text) (v : BitVec w) : Prop := Reading t (.ok v.toNat)

theorem readBelow?_of_denoted {v : BitVec w} (h : Denoted t v) :
    readBelow? (2 ^ w) t = some v.toNat :=
  readBelow?_eq_some_iff.mpr ⟨h.read_eq, v.isLt⟩

theorem readBelow?_of_not_denoted (h : ∀ v : BitVec w, ¬ Denoted t v) :
    readBelow? (2 ^ w) t = none := by
  refine Option.eq_none_iff_forall_ne_some.mpr fun n hn => ?_
  obtain ⟨hread, hlt⟩ := readBelow?_eq_some_iff.mp hn
  -- A number below the bound is that of a word.
  apply h (.ofNat w n)
  rw [Denoted, BitVec.toNat_ofNat, Nat.mod_eq_of_lt hlt]
  exact read_eq_iff.mp hread

end Numeral

def Assembled (segment : Text) (word? : Option (BitVec 32)) : Prop :=
  assembleLine segment = .ok word?

/-! ## The answers -/

/-- Whether the lines are printed and the result is given. -/
def Outcome.Gives (o : Outcome) (lines : List Text) (result : Except CommandError Unit) : Prop :=
  o.printed = lines ∧ o.result = result

theorem Outcome.Gives.print (lines : List Text) : (Outcome.print lines).Gives lines (.ok ()) :=
  ⟨printed_print lines, rfl⟩

theorem Outcome.Gives.fail (e : CommandError) : (Outcome.fail e).Gives [] (.error e) := ⟨rfl, rfl⟩

/-- What a command prints, and how it ends. -/
inductive Answer (x : Xlen) (files : FileReader) :
    Command → List Text → Except CommandError Unit → Prop
  | encode {source format words} (read : ReadUntil Assembled (segments source) words none) :
      Answer x files (.encode source format) (words.reduceOption.map format.write) (.ok ())
  | encodeStops {source format words segment cause}
      (read : ReadUntil Assembled (segments source) words (some segment))
      (refused : assembleLine segment = .error cause) :
      Answer x files (.encode source format) (words.reduceOption.map format.write)
        (.error (.line cause))
  | decode {words aliases values} (read : ReadUntil Numeral.Denoted words values none) :
      Answer x files (.decode words aliases) (values.map (wordShown aliases)) (.ok ())
  | decodeStops {words aliases values t}
      (read : ReadUntil Numeral.Denoted words values (some t)) :
      Answer x files (.decode words aliases) (values.map (wordShown aliases))
        (.error (.invalidValue t))
  | assemble {path format source words} (file : files path = .ok source)
      (assembled : Zicsr.assemble source = .ok words) :
      Answer x files (.assemble path format) (words.map format.write) (.ok ())
  | assembleSource {path format source e} (file : files path = .ok source)
      (refused : Zicsr.assemble source = .error e) :
      Answer x files (.assemble path format) [] (.error (.source e))
  | assembleFile {path format e} (file : files path = .error e) :
      Answer x files (.assemble path format) [] (.error (.file path e))
  | headerStandard : Answer x files (.header [] []) Header.standard.lines (.ok ())
  | header {registers csrs rs cs} (chosen : ¬ (registers = [] ∧ csrs = []))
      (readRegisters : ReadUntil Register.Denoted registers rs none)
      (readCsrs : ReadUntil Csr.Denoted csrs cs none) :
      Answer x files (.header registers csrs) (Header.lines ⟨rs.eraseDups, cs.eraseDups⟩) (.ok ())
  | headerRegister {registers csrs rs t}
      (readRegisters : ReadUntil Register.Denoted registers rs (some t)) :
      Answer x files (.header registers csrs) [] (.error (.invalidRegister t))
  | headerCsr {registers csrs rs cs t}
      (readRegisters : ReadUntil Register.Denoted registers rs none)
      (readCsrs : ReadUntil Csr.Denoted csrs cs (some t)) :
      Answer x files (.header registers csrs) [] (.error (.invalidCsr (Text.trim t)))
  | fields {csr value c fields} {v : x.Word} (named : Csr.Denoted csr c)
      (numeral : Numeral.Denoted value v) (view : c.view? v = some fields) :
      Answer x files (.fields csr value) (valueShown c v :: fields.map fieldShown) (.ok ())
  | fieldsCsr {csr value} (refused : ∀ c, ¬ Csr.Denoted csr c) :
      Answer x files (.fields csr value) [] (.error (.invalidCsr (Text.trim csr)))
  | fieldsValue {csr value c} (named : Csr.Denoted csr c)
      (refused : ∀ v : x.Word, ¬ Numeral.Denoted value v) :
      Answer x files (.fields csr value) [] (.error (.invalidValue value))
  | fieldsView {csr value c} {v : x.Word} (named : Csr.Denoted csr c)
      (numeral : Numeral.Denoted value v)
      (plain : c ∉ [Csr.mstatus, Csr.satp, Csr.mcause, Csr.scause]) :
      Answer x files (.fields csr value) [] (.error (.noFieldView c))
  | shell : Answer x files .shell [] (.error .nestedShell)
  | quit : Answer x files .quit [] (.ok ())

/-! ## Printing as it goes -/

/-- The encoder prints the words up to the segment that stops it, and fails as that does. -/
theorem encodeSegments_gives (format : WordFormat) {segments : List Text}
    {words : List (Option (BitVec 32))} {stop? : Option Text}
    (h : ReadUntil Assembled segments words stop?) :
    (encodeSegments format segments).Gives (words.reduceOption.map format.write)
      (stop?.elim (.ok ()) fun segment =>
        ((assembleLine segment).map fun _ => ()).mapError .line) := by
  induction h with
  | done => exact ⟨rfl, rfl⟩
  | @stop segment rest refused =>
    cases hsegment : assembleLine segment with
    | ok word? => exact absurd hsegment (refused word?)
    | error cause =>
      rw [encodeSegments_cons_of_error format hsegment, Option.elim_some, hsegment]
      exact ⟨rfl, rfl⟩
  | @next segment word? rest words stop? hsegment _ ih =>
    obtain ⟨hprinted, hresult⟩ := encodeSegments_cons_of_ok format hsegment rest
    refine ⟨?_, hresult.trans ih.2⟩
    rw [hprinted, ih.1, ← List.map_append]
    -- A blank segment has no word, and none is printed for it.
    cases word? <;> rfl

/-- The decoder prints a line for each word up to the text that stops it. -/
theorem decodeWords_gives (aliases : Bool) {words : List Text} {values : List (BitVec 32)}
    {stop? : Option Text} (h : ReadUntil Numeral.Denoted words values stop?) :
    (decodeWords aliases words).Gives (values.map (wordShown aliases))
      (stop?.elim (.ok ()) fun t => .error (.invalidValue t)) := by
  induction h with
  | done => exact ⟨rfl, rfl⟩
  | @stop t rest refused =>
    have hread : Numeral.readBelow? UInt32.size t = none :=
      Numeral.readBelow?_of_not_denoted refused
    rw [decodeWords, hread]
    exact ⟨rfl, rfl⟩
  | @next t v rest values stop? hword _ ih =>
    obtain ⟨hprinted, hresult⟩ := decodeWords_cons_of_read aliases hword.read_eq rest
    exact ⟨hprinted.trans (congrArg _ ih.1), hresult.trans ih.2⟩

/-! ## Printing all or nothing -/

theorem Header.addAll_registers_csrs (rs : List Register) (cs : List Csr) :
    empty.addAll (rs.map .register ++ cs.map .csr) = ⟨rs.eraseDups, cs.eraseDups⟩ := by
  rw [addAll_empty, chosenRegisters, chosenCsrs, List.filterMap_append, List.filterMap_append]
  simp [List.filterMap_map, Function.comp_def, Item.register?, Item.csr?]

section Header

variable {registers csrs : List Text} {rs : List Register} {cs : List Csr} {t : Text}

theorem chosenHeader_eq (h : ¬ (registers = [] ∧ csrs = [])) :
    chosenHeader registers csrs = (do
      let rs ← readEach Register.read? .invalidRegister registers
      let cs ← readEach Csr.read? (fun t => .invalidCsr (Text.trim t)) csrs
      return ⟨rs.eraseDups, cs.eraseDups⟩) := by
  rw [chosenHeader, if_neg h, readRegisters_eq, readCsrs_eq]
  simp only [Header.addAll_registers_csrs]

theorem chosenHeader_of_read (hchosen : ¬ (registers = [] ∧ csrs = []))
    (hregisters : ReadUntil Register.Denoted registers rs none)
    (hcsrs : ReadUntil Csr.Denoted csrs cs none) :
    chosenHeader registers csrs = .ok ⟨rs.eraseDups, cs.eraseDups⟩ := by
  rw [chosenHeader_eq hchosen, Register.recognizes_denoted.readEach_eq _ hregisters,
    Csr.recognizes_denoted.readEach_eq _ hcsrs]
  rfl

theorem chosenHeader_of_register (h : ReadUntil Register.Denoted registers rs (some t)) :
    chosenHeader registers csrs = .error (.invalidRegister t) := by
  rw [chosenHeader_eq fun hnone => h.ne_nil hnone.1, Register.recognizes_denoted.readEach_eq _ h]
  rfl

theorem chosenHeader_of_csr (hregisters : ReadUntil Register.Denoted registers rs none)
    (h : ReadUntil Csr.Denoted csrs cs (some t)) :
    chosenHeader registers csrs = .error (.invalidCsr (Text.trim t)) := by
  rw [chosenHeader_eq fun hnone => h.ne_nil hnone.2,
    Register.recognizes_denoted.readEach_eq _ hregisters, Csr.recognizes_denoted.readEach_eq _ h]
  rfl

end Header

section Fields

variable {x : Xlen} {csr value : Text} {c : Csr} {v : x.Word}

theorem one_shiftLeft_bits (x : Xlen) : 1 <<< x.bits = 2 ^ x.bits := by
  rw [Nat.shiftLeft_eq, Nat.one_mul]

theorem printFields_of_csr (h : ∀ c, ¬ Csr.Denoted csr c) :
    printFields x csr value = .fail (.invalidCsr (Text.trim csr)) := by
  rw [printFields, Csr.recognizes_denoted.eq_none h]

theorem printFields_of_value (hcsr : Csr.Denoted csr c)
    (h : ∀ v : x.Word, ¬ Numeral.Denoted value v) :
    printFields x csr value = .fail (.invalidValue value) := by
  rw [printFields, (Csr.recognizes_denoted csr c).mpr hcsr]
  simp only [one_shiftLeft_bits, Numeral.readBelow?_of_not_denoted h]

/-- With both arguments read, the view decides. -/
theorem printFields_of_denoted (hcsr : Csr.Denoted csr c) (hvalue : Numeral.Denoted value v) :
    printFields x csr value =
      (c.view? v).elim (.fail (.noFieldView c)) fun fields =>
        .print (valueShown c v :: fields.map fieldShown) := by
  rw [printFields, (Csr.recognizes_denoted csr c).mpr hcsr]
  simp only [one_shiftLeft_bits, Numeral.readBelow?_of_denoted hvalue, BitVec.ofNat_toNat,
    BitVec.setWidth_eq]
  cases c.view? v <;> rfl

end Fields

/-! ## Every command -/

section Commands

variable {x : Xlen} {files : FileReader}

/-- Each case is what the command gives. -/
theorem Answer.gives {c : Command} {lines : List Text} {result : Except CommandError Unit}
    (h : Answer x files c lines result) : (c.run x files).Gives lines result := by
  cases h with
  | encode read => exact encodeSegments_gives _ read
  | @encodeStops source format words segment cause read refused =>
    have hgives := encodeSegments_gives format read
    rw [Option.elim_some, refused] at hgives
    exact hgives
  | decode read => exact decodeWords_gives _ read
  | decodeStops read => exact decodeWords_gives _ read
  | assemble file assembled => exact assembleFile_of_ok _ file assembled
  | assembleSource file refused => exact assembleFile_of_error _ file refused
  | @assembleFile path format e file =>
    rw [Command.run, Zicsr.assembleFile, file]
    exact .fail _
  | headerStandard => exact .print _
  | header chosen readRegisters readCsrs =>
    rw [Command.run, printHeader, chosenHeader_of_read chosen readRegisters readCsrs]
    exact .print _
  | headerRegister readRegisters =>
    rw [Command.run, printHeader, chosenHeader_of_register readRegisters]
    exact .fail _
  | headerCsr readRegisters readCsrs =>
    rw [Command.run, printHeader, chosenHeader_of_csr readRegisters readCsrs]
    exact .fail _
  | fields named numeral view =>
    rw [Command.run, printFields_of_denoted named numeral, view]
    exact .print _
  | fieldsCsr refused =>
    rw [Command.run, printFields_of_csr refused]
    exact .fail _
  | fieldsValue named refused =>
    rw [Command.run, printFields_of_value named refused]
    exact .fail _
  | fieldsView named numeral plain =>
    rw [Command.run, printFields_of_denoted named numeral, Csr.view?_eq_none_iff.mpr plain]
    exact .fail _
  | shell => exact .fail _
  | quit => exact .print []

/-- One of the cases applies to every command. -/
theorem exists_answer (x : Xlen) (files : FileReader) (c : Command) :
    ∃ lines result, Answer x files c lines result := by
  cases c with
  | encode source format =>
    obtain ⟨words, stop?, hread⟩ := exists_readUntil Assembled (segments source)
    cases stop? with
    | none => exact ⟨_, _, .encode hread⟩
    | some segment =>
      cases hsegment : assembleLine segment with
      | ok word? => exact absurd hsegment (hread.refused segment rfl word?)
      | error cause => exact ⟨_, _, .encodeStops hread hsegment⟩
  | decode words aliases =>
    obtain ⟨values, stop?, hread⟩ := exists_readUntil (Numeral.Denoted (w := 32)) words
    cases stop? with
    | none => exact ⟨_, _, .decode hread⟩
    | some t => exact ⟨_, _, .decodeStops hread⟩
  | assemble path format =>
    cases hfile : files path with
    | error e => exact ⟨_, _, .assembleFile hfile⟩
    | ok source =>
      cases hsource : Zicsr.assemble source with
      | ok words => exact ⟨_, _, .assemble hfile hsource⟩
      | error e => exact ⟨_, _, .assembleSource hfile hsource⟩
  | header registers csrs =>
    obtain ⟨rs, stop?, hregisters⟩ := exists_readUntil Register.Denoted registers
    cases stop? with
    | some t => exact ⟨_, _, .headerRegister hregisters⟩
    | none =>
      obtain ⟨cs, stop?, hcsrs⟩ := exists_readUntil Csr.Denoted csrs
      cases stop? with
      | some t => exact ⟨_, _, .headerCsr hregisters hcsrs⟩
      | none =>
        by_cases hchosen : registers = [] ∧ csrs = []
        · obtain ⟨rfl, rfl⟩ := hchosen
          exact ⟨_, _, .headerStandard⟩
        · exact ⟨_, _, .header hchosen hregisters hcsrs⟩
  | fields csr value =>
    by_cases hcsr : ∃ c, Csr.Denoted csr c
    · obtain ⟨c, hcsr⟩ := hcsr
      by_cases hvalue : ∃ v : x.Word, Numeral.Denoted value v
      · obtain ⟨v, hvalue⟩ := hvalue
        cases hview : c.view? v with
        | none => exact ⟨_, _, .fieldsView hcsr hvalue (Csr.view?_eq_none_iff.mp hview)⟩
        | some fields => exact ⟨_, _, .fields hcsr hvalue hview⟩
      · exact ⟨_, _, .fieldsValue hcsr (not_exists.mp hvalue)⟩
    · exact ⟨_, _, .fieldsCsr (not_exists.mp hcsr)⟩
  | shell => exact ⟨_, _, .shell⟩
  | quit => exact ⟨_, _, .quit⟩

end Commands

/-! ## What a run leaves behind -/

theorem Outcome.outputText_emissions {o : Outcome} {lines : List Text}
    {result : Except CommandError Unit} (h : o.Gives lines result) :
    outputText o.emissions = Text.unlines lines :=
  congrArg Text.unlines h.1

namespace Program

theorem reportOnce_concat_message (reported : Bool) (emissions : List Emission) (line : Text) :
    reportOnce reported (emissions ++ [.message line]) =
      reportOnce reported emissions ++ [.message line] := by
  fun_induction reportOnce reported emissions <;> simp_all [reportOnce]

namespace Invocation

variable {i : Invocation} {x : Xlen} {files : FileReader} {lines : List Text}

theorem emissions_eq (h : i.command ≠ .shell) (input : List Text) :
    i.emissions x files input =
      match (i.command.run x files).result with
      | .ok () => ((i.command.run x files).emissions, .success)
      | .error e => ((i.command.run x files).emissions ++ failure e, .failure) := by
  obtain ⟨level, directory, command⟩ := i
  cases command <;> first | rfl | exact absurd rfl h

theorem report_of_ok (h : i.command ≠ .shell)
    (hgives : (i.command.run x files).Gives lines (.ok ())) (input : List Text) :
    (i.report x files input).code = 0 ∧
      (i.report x files input).output = Text.unlines lines := by
  rw [report, emissions_eq h, hgives.2]
  exact ⟨rfl, Outcome.outputText_emissions hgives⟩

/-- The lines that were printed stay, and the message ends the error stream. -/
theorem report_of_error {e : CommandError} (h : i.command ≠ .shell)
    (hgives : (i.command.run x files).Gives lines (.error e)) (input : List Text) :
    (i.report x files input).code = 1 ∧
      (i.report x files input).output = Text.unlines lines ∧
      Text.unlines ["error: ".toList ++ e.message] <:+ (i.report x files input).error := by
  rw [report, emissions_eq h, hgives.2]
  refine ⟨rfl, ?_, ?_⟩
  -- What a failure adds is an event and a message, and neither goes to the output.
  · show Text.unlines (outputLines (_ ++ failure e)) = _
    rw [outputLines_append, ← hgives.1]
    exact congrArg Text.unlines (List.append_nil _)
  · show _ <:+ Text.unlines (i.errorLines false (_ ++ ([_] ++ [_])))
    rw [errorLines, ← List.append_assoc, reportOnce_concat_message, List.filterMap_append,
      Text.unlines, Text.unlines, List.flatMap_append]
    exact List.suffix_append _ _

end Invocation

end Program

/-- Every command prints and ends as one of the cases says, whatever its arguments and the
files are. So a command that fails has printed nothing, or the words of the segments or of
the numerals before the one it names: the decoder prints a line for each word, also for one
that is no instruction, and stops at the first text that is no numeral of a word. A header
fails for the first text that is no register, and for the first that is no CSR only if all
registers are there; the fields of a value fail for the CSR, then for the value, then for
want of a view. A run of the program leaves just these lines on the output; if the command
fails its code is 1, and its message ends the error stream. -/
theorem run_iff_answer (x : Xlen) (files : FileReader) :
    (∀ (c : Command) (lines : List Text) (result : Except CommandError Unit),
      (c.run x files).Gives lines result ↔ Answer x files c lines result) ∧
    ∀ (i : Program.Invocation) (input lines : List Text) (result : Except CommandError Unit),
      i.command ≠ .shell → Answer x files i.command lines result →
      let report := i.report x files input
      report.output = Text.unlines lines ∧
        match result with
        | .ok () => report.code = 0
        | .error e => report.code = 1 ∧
            Text.unlines ["error: ".toList ++ e.message] <:+ report.error := by
  refine ⟨fun c lines result => ⟨fun h => ?_, Answer.gives⟩, ?report⟩
  case report =>
    intro i input lines result hcommand hanswer
    cases result with
    | ok _ => exact (Program.Invocation.report_of_ok hcommand hanswer.gives input).symm
    | error e =>
      obtain ⟨hcode, houtput, herror⟩ :=
        Program.Invocation.report_of_error hcommand hanswer.gives input
      exact ⟨houtput, hcode, herror⟩
  -- Some answer applies to the command, and it is what the command gives.
  obtain ⟨lines', result', hanswer⟩ := exists_answer x files c
  obtain ⟨hlines, hresult⟩ := hanswer.gives
  rw [← h.1, ← h.2, hlines, hresult]
  exact hanswer

/-- A word that is an instruction, one that is none, and a number that no word has: two lines
are printed. With a bad register and a bad CSR nothing is. -/
theorem run_iff_answer_stops :
    let files : FileReader := fun _ => .error .notText
    let words : List Text := ["0x3020_0073", " 12", "4294967296", "0"]
    let decoding : Program.Invocation := ⟨.off, none, .decode words false⟩
    let heading : Program.Invocation := ⟨.off, none, .header ["t0", "x32", "t7"] ["no"]⟩
    let report (i : Program.Invocation) := i.report .rv64 files []
    (report decoding).output =
        Text.unlines [wordShown false 0x30200073#32, wordShown false 12#32] ∧
      "error: invalid value `4294967296`\n".toList <:+ (report decoding).error ∧
      (report heading).output = [] ∧
      "error: invalid register: x32\n".toList <:+ (report heading).error := by
  intro files words decoding heading report
  have hwords : ReadUntil Numeral.Denoted words [0x30200073#32, 12#32]
      (some "4294967296".toList) := by
    refine .next ?_ (.next ?_ (.stop fun v hv => ?_))
    · exact Numeral.read_eq_iff.mp rfl
    · exact Numeral.read_eq_iff.mp rfl
    · have hbound : (4294967296 : Nat) = v.toNat := Except.ok.inj hv.read_eq
      have hlt := v.isLt
      omega
  have hregisters : ReadUntil Register.Denoted ["t0", "x32", "t7"] [.t0] (some "x32".toList) := by
    refine .next ((Register.recognizes_denoted _ _).mp (by decide)) (.stop fun r hr => ?_)
    have hnone : Register.read? "x32" = none := by decide
    rw [(Register.recognizes_denoted _ r).mpr hr] at hnone
    cases hnone
  obtain ⟨hdecoded, -, hvalue⟩ := (run_iff_answer .rv64 files).2 decoding [] _ _
    (by intro h; cases h) (.decodeStops hwords)
  obtain ⟨hheader, -, hregister⟩ := (run_iff_answer .rv64 files).2 heading [] _ _
    (by intro h; cases h) (.headerRegister hregisters)
  exact ⟨hdecoded, hvalue, hheader, hregister⟩

end Zicsr
