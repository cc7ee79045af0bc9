import Zicsr.Cli.Path
import Zicsr.Cli.Run
import Zicsr.Cli.TypedLine

/-
  The shell.

  Each line is a command line of its own. Its first word names the command as a
  program would be named: by the last name of a path, without extension.
-/

namespace Zicsr.Shell

/-- The commands of the shell. -/
def setting : Setting :=
  ⟨[.encode, .decode, .assemble, .header, .fields, .shell, .quit], [], []⟩

/-- The tokens of a line. Where the first word leads to no name, it and the next
word are passed over. -/
def tokens (line : Text) : List Text :=
  match Text.words line with
  | [] => []
  | first :: rest =>
    match Path.stem? first with
    | some name => name :: rest
    | none => rest.drop 1

def read (line : Text) : Except UsageError Command :=
  (setting.read (tokens line)).map (fun (_, _, command) => command)

/-- How the shell answers a line. -/
inductive Reply where
  | done
  | quit
  | refused (e : UsageError)
  | failed (e : CommandError)
  deriving DecidableEq, Repr

def respond (x : Xlen) (files : FileReader) (line : Text) : List Emission × Reply :=
  match read line with
  | .error e => ([], .refused e)
  | .ok .quit => ([], .quit)
  | .ok command =>
    let o := command.run x files
    match o.result with
    | .ok () => (o.emissions, .done)
    | .error e => (o.emissions, .failed e)

/-- What the shell says of a command line that it does not carry out. -/
def refusal : UsageError → Text
  | .invalidSubcommand => "error: unrecognized subcommand"
  | .unknownArgument => "error: unexpected argument found"
  | .invalidValue => "error: invalid value for an argument"
  | .tooManyValues => "error: unexpected value for an argument"
  | .argumentConflict => "error: an argument cannot be used multiple times"
  | .missingRequiredArgument => "error: a required argument was not provided"
  | .missingSubcommand => "error: a subcommand is required"
  | .displayHelpOnMissing => "commands: encode, decode, asm, header, fields, repl, quit, help"
  | .displayHelp => "commands: encode, decode, asm, header, fields, repl, quit, help"
  | .displayVersion => "riscv-csr-asm 0.1.0"

def Reply.message? : Reply → Option Text
  | .done => none
  | .quit => none
  | .refused e => some (refusal e)
  | .failed e => some e.message

/-- What is said where a backspace cuts a character, which ends the shell. -/
def cutMessage : Text := "a backspace cuts a character"

/-- What the shell makes of a line, given as it was typed or not at all: the
emissions, and how the shell ends if it ends there. Blank lines are passed over. -/
def answer (x : Xlen) (files : FileReader) : Option Text → List Emission × Option Ending
  | none => ([.message cutMessage], some .fault)
  | some typed =>
    if Text.trim typed = [] then ([], none)
    else
      let (emissions, reply) := respond x files (Text.trim typed)
      (emissions ++ (reply.message?.map Emission.message).toList,
       if reply = .quit then some .success else none)

/-- The emissions of the lines of an input, up to one that ends the shell, and
how it ends. Every attempt to read a line is reported, also the last one, which
finds none. -/
def session (x : Xlen) (files : FileReader) : List Text → List Emission × Ending
  | [] => ([.event .pipedInput], .success)
  | line :: rest =>
    match answer x files (TypedLine.read? line) with
    | (emissions, some ending) => (.event .pipedInput :: emissions, ending)
    | (emissions, none) =>
      let (later, ending) := session x files rest
      (.event .pipedInput :: (emissions ++ later), ending)

end Zicsr.Shell
