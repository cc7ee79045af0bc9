import Zicsr.Cli.Argument
import Zicsr.Text.Split

/-
  Scanning a command line.

  The scan goes token by token. A switch that waits for its value, and a
  positional argument, are pending until the next argument is met; only then are
  their values judged. An unknown token is an error before that.
-/

namespace Zicsr

/-- An argument whose values have not been judged. -/
structure Pending where
  argument : Argument
  values : List Text
  awaiting : Bool

/-- The state of a scan: whether a double dash was met, what is pending, what was
found, and the positional arguments still to come. -/
structure Scan where
  literal : Bool
  pending : Option Pending
  found : Found
  positionals : List Argument

namespace Scan

def start (g : Grammar) : Scan := ⟨false, none, .none, g.positionals⟩

/-- Whether the next token is the value of a switch. -/
def isAwaiting (s : Scan) : Bool :=
  match s.pending with
  | some p => p.awaiting
  | none => false

/-- Judges an argument and its values, and records them. -/
def record (s : Scan) (a : Argument) (values : List Text) : Except UsageError Scan :=
  if a.takesValue && values.isEmpty then .error .invalidValue
  else if a.key = .help then .error .displayHelp
  else if a.key = .version then .error .displayVersion
  else if !a.repeats && s.found.has a.key then .error .argumentConflict
  else if !values.all a.accepts then .error .invalidValue
  else .ok { s with found := s.found.add a.key values }

def settle (s : Scan) : Except UsageError Scan :=
  match s.pending with
  | none => .ok s
  | some p => record { s with pending := none } p.argument p.values

/-- Records a switch with the values that are attached to it. -/
def take (s : Scan) (a : Argument) (values : List Text) : Except UsageError Scan := do
  (← s.settle).record a values

/-- Lets a switch wait for its value. -/
def await (s : Scan) (a : Argument) : Except UsageError Scan := do
  return { ← s.settle with pending := some ⟨a, [], true⟩ }

/-- A switch by its long name, and its value after an equals sign. -/
def long (g : Grammar) (s : Scan) (body : Text) : Except UsageError Scan :=
  let (name, value?) := match Text.cutAt? (· == '=') body with
    | some (name, value) => (name, some value)
    | none => (body, none)
  match g.long? name with
  | none => .error .unknownArgument
  | some switch =>
    match switch.argument.takesValue, value? with
    | false, none => s.take switch.argument []
    | false, some _ => .error .tooManyValues
    | true, none => s.await switch.argument
    | true, some value => s.take switch.argument [value]

/-- The value attached to a letter; an equals sign may stand between. -/
def attached : Text → Text
  | '=' :: value => value
  | value => value

/-- Switches by their letters; the first that takes a value ends the row. -/
def letters (g : Grammar) : Scan → Text → Except UsageError Scan
  | s, [] => .ok s
  | s, letter :: rest =>
    match g.short? letter with
    | none => .error .unknownArgument
    | some switch =>
      if switch.argument.takesValue then
        if rest.isEmpty then s.await switch.argument
        else s.take switch.argument [attached rest]
      else do letters g (← s.take switch.argument []) rest

def pendingAt? (s : Scan) (key : Key) : Option Pending :=
  s.pending.filter (fun p => p.argument.key = key)

def misplaced (g : Grammar) (s : Scan) (token : Text) : UsageError :=
  if g.commands.isEmpty || (s.literal && g.commands.contains token) then .unknownArgument
  else .invalidSubcommand

/-- A token at a place of its own. An argument that repeats keeps its place and
gathers its tokens. -/
def place (g : Grammar) (s : Scan) (token : Text) : Except UsageError Scan :=
  match s.positionals with
  | [] => .error (s.misplaced g token)
  | a :: rest =>
    if a.repeats then
      match s.pendingAt? a.key with
      | some p => .ok { s with pending := some ⟨a, p.values ++ [token], false⟩ }
      | none => do return { ← s.settle with pending := some ⟨a, [token], false⟩ }
    else do return { ← s.settle with pending := some ⟨a, [token], false⟩, positionals := rest }

def giveValue (s : Scan) (token : Text) : Scan :=
  { s with pending := s.pending.map (fun p => ⟨p.argument, p.values ++ [token], false⟩) }

/-- The state after a token. -/
def token (g : Grammar) (s : Scan) (t : Text) : Except UsageError Scan :=
  if s.literal then s.place g t
  else match t with
    | ['-', '-'] => .ok { s with literal := true }
    | '-' :: '-' :: body => s.long g body
    | '-' :: letter :: rest => s.letters g (letter :: rest)
    | t => if s.isAwaiting then .ok (s.giveValue t) else s.place g t

/-- Scans tokens up to the name of a command; gives that name and the tokens
after it. -/
def run (g : Grammar) : Scan → List Text → Except UsageError (Scan × Option (Text × List Text))
  | s, [] => .ok (s, none)
  | s, t :: rest =>
    if !s.literal && !s.isAwaiting && g.commands.contains t then .ok (s, some (t, rest))
    else do run g (← s.token g t) rest

/-- What a whole command line gives, where every positional argument must be
there. -/
def finish (g : Grammar) (s : Scan) : Except UsageError Found := do
  let s ← s.settle
  if g.positionals.all (fun a => s.found.has a.key) then return s.found
  else .error .missingRequiredArgument

end Scan

end Zicsr
