import Zicsr.Cli.Program

/-
  The command line program.

  Only this module touches files and streams: it reads what a command needs,
  lets the library run the command, and writes what that emits.
-/

namespace Zicsr.Program

/-- The width of the hart that the program works for. -/
def width : Xlen := .rv64

def prompt : String := "(csr) "

/-- A failure of a number, which may be reported as its negative. -/
def ofSystemCode (code : UInt32) (details : String) : SystemError :=
  .ofCode (min code.toNat (0 - code).toNat) details

/-- A failure as the system reports it. -/
def systemError : IO.Error → SystemError
  | .noFileOrDirectory _ code details => ofSystemCode code details
  | .inappropriateType _ code details => ofSystemCode code details
  | .permissionDenied _ code details => ofSystemCode code details
  | .invalidArgument _ code details => ofSystemCode code details
  | .resourceExhausted _ code details => ofSystemCode code details
  | .otherError code details => ofSystemCode code details
  | e => ⟨0, toString e⟩

def readFile (path : Text) : IO (Except FileError Text) := do
  if '\x00' ∈ path then return .error .nulInPath
  try
    let bytes ← IO.FS.readBinFile (String.ofList path)
    return decodeText bytes.toList
  catch e => return .error (.system (systemError e))

/-- Reads the file that a command needs; every path then gives what it gave. -/
def readFor (command : Command) : IO FileReader := do
  match command.path? with
  | none => return fun _ => .error .notText
  | some path =>
    let content ← readFile path
    return fun _ => content

/-- Writes emissions to the output, the error stream and the log's directory. -/
def write (i : Invocation) (reported : Bool) (emissions : List Emission) : IO Unit := do
  (← IO.getStdout).putStr (String.ofList (outputText emissions))
  (← IO.getStdout).flush
  (← IO.getStderr).putStr (String.ofList (Text.unlines (i.errorLines reported emissions)))
  match i.logDirectory with
  | none => return
  | some directory =>
    let path := String.ofList (directory ++ "/csrasm_rCURRENT.log".toList)
    let log ← IO.FS.Handle.mk path .append
    log.putStr (String.ofList (Text.unlines (i.logLines reported emissions)))

/-- Reads the file that a line of the shell needs. -/
def readForLine : Option Text → IO FileReader
  | none => return fun _ => .error .notText
  | some typed =>
    match Shell.read (Text.trim typed) with
    | .ok command => readFor command
    | .error _ => return fun _ => .error .notText

/-- Answers the lines of the input until one ends the shell. -/
partial def shell (i : Invocation) (interactive reported : Bool) : IO Ending := do
  if interactive then
    (← IO.getStdout).putStr prompt
    (← IO.getStdout).flush
  else write i reported [.event .pipedInput]
  let line ← (← IO.getStdin).getLine
  if line.isEmpty then return .success
  let keys := (Text.lines line.toList).flatten
  let typed? := if interactive then some keys else TypedLine.read? keys
  let (emissions, ending?) := Shell.answer width (← readForLine typed?) typed?
  write i reported emissions
  match ending? with
  | some ending => return ending
  | none => shell i interactive (reported || reportsReady emissions)

/-- Makes the directory of the log, if there is one; whether that went well. -/
def openLog (i : Invocation) : IO Bool := do
  match i.logDirectory with
  | none => return true
  | some directory =>
    try
      IO.FS.createDirAll (String.ofList directory)
      return true
    catch _ => return false

/-- Runs what a command line asks for and gives the exit code. -/
def invoke (i : Invocation) : IO UInt32 := do
  if !(← openLog i) then
    (← IO.getStderr).putStr (String.ofList noLog.error)
    return Ending.failure.code.toUInt32
  match i.command with
  | .shell => return (← shell i (← (← IO.getStdin).isTty) false).code.toUInt32
  | command =>
    let (emissions, ending) := i.emissions width (← readFor command) []
    write i false emissions
    return ending.code.toUInt32

end Zicsr.Program

open Zicsr in
def main (args : List String) : IO UInt32 := do
  match Program.read (args.map String.toList) with
  | .ok i => Program.invoke i
  | .error e =>
    let said := String.ofList (Shell.refusal e)
    if Program.usageCode e = 0 then IO.println said else IO.eprintln said
    return (Program.usageCode e).toUInt32
