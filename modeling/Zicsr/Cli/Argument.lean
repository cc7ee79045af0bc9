import Zicsr.Text.Basic

/-
  The arguments that a command line may hold.

  A switch is written with dashes, by a long name or a letter, and may take a
  value; a positional argument is a value at its place. A grammar lists both, and
  the names of the commands that may follow.
-/

namespace Zicsr

/-- Why a command line is not carried out. The last three ask for help or for
the version rather than for a command. -/
inductive UsageError where
  | invalidSubcommand
  | unknownArgument
  | invalidValue
  | tooManyValues
  | argumentConflict
  | missingRequiredArgument
  | missingSubcommand
  | displayHelpOnMissing
  | displayHelp
  | displayVersion
  deriving DecidableEq, Repr

/-- What an argument is for. -/
inductive Key where
  | help
  | version
  | logLevel
  | logDirectory
  | format
  | aliases
  | register
  | csr
  | source
  | word
  | path
  | csrName
  | value
  deriving DecidableEq, Repr

/-- An argument: what it is for, whether it takes a value, whether it may be
given again, and the values it accepts. -/
structure Argument where
  key : Key
  takesValue : Bool
  repeats : Bool
  accepts : Text → Bool

namespace Argument

/-- An argument without value. -/
def flag (key : Key) : Argument := ⟨key, false, false, fun _ => true⟩

def one (key : Key) (accepts : Text → Bool) : Argument := ⟨key, true, false, accepts⟩

/-- An argument that may be given again, with any values. -/
def many (key : Key) : Argument := ⟨key, true, true, fun _ => true⟩

end Argument

/-- An argument that is written with dashes. -/
structure Switch where
  long : Text
  short : Option Char
  argument : Argument

/-- The arguments of a command, and the names of the commands below it. -/
structure Grammar where
  switches : List Switch
  positionals : List Argument
  commands : List Text

namespace Grammar

def long? (g : Grammar) (name : Text) : Option Switch :=
  g.switches.find? (fun s => s.long = name)

def short? (g : Grammar) (letter : Char) : Option Switch :=
  g.switches.find? (fun s => s.short = some letter)

end Grammar

/-- The arguments found on a command line, in order, each with its values. -/
structure Found where
  entries : List (Key × List Text)
  deriving DecidableEq, Repr

namespace Found

def none : Found := ⟨[]⟩

def has (f : Found) (key : Key) : Bool := f.entries.any (fun e => e.1 = key)

/-- The values of an argument, over all the times that it was given. -/
def values (f : Found) (key : Key) : List Text :=
  (f.entries.filter (fun e => e.1 = key)).flatMap Prod.snd

/-- The first value of an argument. -/
def value? (f : Found) (key : Key) : Option Text := (f.values key).head?

def add (f : Found) (key : Key) (values : List Text) : Found := ⟨f.entries ++ [(key, values)]⟩

end Found

end Zicsr
