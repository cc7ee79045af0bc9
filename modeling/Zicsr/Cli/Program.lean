import Zicsr.Cli.Shell

/-
  The program.

  A command line chooses a command, the level of the log and where the log goes.
  The program ends with an exit code; on the error stream stand the log and the
  messages, in order.
-/

namespace Zicsr.Program

def levelSwitch : Switch :=
  ⟨"loglevel", none, .one .logLevel (fun t => (LogLevel.ofName? t).isSome)⟩

def directorySwitch : Switch := ⟨"log-dir", none, .one .logDirectory (fun t => !t.isEmpty)⟩

def versionSwitch : Switch := ⟨"version", some 'V', .flag .version⟩

/-- The commands of the program. -/
def setting : Setting :=
  ⟨[.encode, .decode, .assemble, .header, .fields, .shell], [levelSwitch, directorySwitch],
   [Verb.helpSwitch, versionSwitch]⟩

/-- What a command line asks for. -/
structure Invocation where
  level : LogLevel
  logDirectory : Option Text
  command : Command
  deriving DecidableEq, Repr

/-- Reads a command line; an argument after the command goes before one of the
same kind that stands earlier. -/
def read (args : List Text) : Except UsageError Invocation := do
  let (before, after, command) ← setting.read args
  let value? (key : Key) : Option Text := (after.value? key).or (before.value? key)
  return ⟨((value? .logLevel).bind LogLevel.ofName?).getD .standard, value? .logDirectory,
    command⟩

/-! ## The error stream -/

/-- Whether the emissions report that the decoder is ready. -/
def reportsReady (emissions : List Emission) : Bool :=
  emissions.any (fun
    | .event (.decoderReady _) => true
    | _ => false)

/-- The emissions with the first report of the decoder's readiness only. -/
def reportOnce : Bool → List Emission → List Emission
  | _, [] => []
  | reported, .event (.decoderReady n) :: rest =>
    if reported then reportOnce true rest
    else .event (.decoderReady n) :: reportOnce true rest
  | reported, e :: rest => e :: reportOnce reported rest

namespace Invocation

/-- Whether the log shows an event on the error stream. A log that has a
directory shows only warnings and errors there. -/
def shows (i : Invocation) (e : Event) : Bool :=
  i.level.shows e.level && (i.logDirectory.isNone || LogLevel.warn.shows e.level)

/-- The line of an emission on the error stream. -/
def errorLine? (i : Invocation) : Emission → Option Text
  | .output _ => none
  | .event e => if i.shows e then some e.line else none
  | .message line => some line

/-- The lines on the error stream, where the decoder's readiness may have been
reported before. -/
def errorLines (i : Invocation) (reported : Bool) (emissions : List Emission) : List Text :=
  (reportOnce reported emissions).filterMap i.errorLine?

/-- The lines of the log in its directory, where the decoder's readiness may have
been reported before. -/
def logLines (i : Invocation) (reported : Bool) (emissions : List Emission) : List Text :=
  (reportOnce reported emissions).filterMap (fun
    | .event e => if i.level.shows e.level then some e.line else none
    | _ => none)

def failure (e : CommandError) : List Emission :=
  [.event (.failed e.diagnostic), .message ("error: ".toList ++ e.message)]

def emissions (i : Invocation) (x : Xlen) (files : FileReader) (input : List Text) :
    List Emission × Ending :=
  match i.command with
  | .shell => Shell.session x files input
  | command =>
    let o := command.run x files
    match o.result with
    | .ok () => (o.emissions, .success)
    | .error e => (o.emissions ++ failure e, .failure)

end Invocation

/-- What a run leaves behind. -/
structure Report where
  code : Nat
  output : Text
  error : Text
  deriving DecidableEq, Repr

/-- What is said where the log's directory cannot be made. -/
def noLogMessage : Text :=
  "failed to start logger: Log cannot be written, ".toList ++
    "e.g. because the configured output directory is not accessible".toList

/-- The report of a run whose log cannot be written. -/
def noLog : Report := ⟨Ending.failure.code, [], Text.unlines [noLogMessage]⟩

/-- Runs what a command line asks for, on the lines of the input. -/
def Invocation.report (i : Invocation) (x : Xlen) (files : FileReader) (input : List Text) :
    Report :=
  let (emissions, ending) := i.emissions x files input
  ⟨ending.code, outputText emissions, Text.unlines (i.errorLines false emissions)⟩

def usageCode : UsageError → Nat
  | .displayHelp => 0
  | .displayVersion => 0
  | _ => 2

/-- Runs a command line among the files of a directory. -/
def run (x : Xlen) (d : Directory) (args : List Text) (input : Text) :
    Except UsageError Report := do
  let i ← read args
  if (i.logDirectory.map d.canHold).getD true then
    return i.report x d.read (Text.lines input)
  else return noLog

end Zicsr.Program
