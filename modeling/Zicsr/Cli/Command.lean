import Zicsr.Cli.Log
import Zicsr.Cli.Scan
import Zicsr.WordFormat

/-
  The commands, and reading one from a command line.

  Each command has names and a grammar. A command line names a command among
  those of its setting, which may add switches of its own that stand before the
  name or after it.
-/

namespace Zicsr

/-- What the program is asked to do. -/
inductive Command where
  | encode (source : List Text) (format : WordFormat)
  | decode (words : List Text) (aliases : Bool)
  | assemble (path : Text) (format : WordFormat)
  | header (registers csrs : List Text)
  | fields (csr value : Text)
  | shell
  | quit
  deriving DecidableEq, Repr

/-- The kinds of command. -/
inductive Verb where
  | encode
  | decode
  | assemble
  | header
  | fields
  | shell
  | quit
  deriving DecidableEq, Repr

namespace Verb

/-- The names of a command, the full one first. -/
def names : Verb → List Text
  | .encode => ["encode", "e"]
  | .decode => ["decode", "d"]
  | .assemble => ["asm"]
  | .header => ["header"]
  | .fields => ["fields", "f"]
  | .shell => ["repl"]
  | .quit => ["quit", "q", "exit"]

/-- The switch that every command has. -/
def helpSwitch : Switch := ⟨"help", some 'h', .flag .help⟩

def formatSwitch : Switch :=
  ⟨"syntax", some 's', .one .format (fun t => (WordFormat.ofName? t).isSome)⟩

/-- The switches of a command's own. -/
def switches : Verb → List Switch
  | .encode => [formatSwitch]
  | .decode => [⟨"aliases", some 'a', .flag .aliases⟩]
  | .assemble => [formatSwitch]
  | .header => [⟨"reg", none, .many .register⟩, ⟨"csr", none, .many .csr⟩]
  | _ => []

/-- The positional arguments of a command; all of them are required. -/
def positionals : Verb → List Argument
  | .encode => [.many .source]
  | .decode => [.many .word]
  | .assemble => [.one .path (fun t => !t.isEmpty)]
  | .fields => [.one .csrName (fun _ => true), .one .value (fun _ => true)]
  | _ => []

/-- The grammar of a command in a setting with switches of its own. -/
def grammar (shared : List Switch) (v : Verb) : Grammar :=
  ⟨v.switches ++ shared ++ [helpSwitch], v.positionals, []⟩

def chosenFormat (f : Found) : WordFormat :=
  ((f.value? .format).bind WordFormat.ofName?).getD .standard

/-- The command with the arguments found. -/
def command (v : Verb) (f : Found) : Command :=
  match v with
  | .encode => .encode (f.values .source) (chosenFormat f)
  | .decode => .decode (f.values .word) (f.has .aliases)
  | .assemble => .assemble ((f.value? .path).getD []) (chosenFormat f)
  | .header => .header (f.values .register) (f.values .csr)
  | .fields => .fields ((f.value? .csrName).getD []) ((f.value? .value).getD [])
  | .shell => .shell
  | .quit => .quit

end Verb

/-- Where a command line is read: the commands there, the switches that all of
them share, and those that stand only before the command. -/
structure Setting where
  verbs : List Verb
  shared : List Switch
  leading : List Switch

namespace Setting

/-- The name of the command that explains the others. -/
def helpName : Text := "help"

/-- The grammar before the command. -/
def grammar (s : Setting) : Grammar :=
  ⟨s.shared ++ s.leading, [], s.verbs.flatMap Verb.names ++ [helpName]⟩

def verb? (s : Setting) (name : Text) : Option Verb :=
  s.verbs.find? (fun v => v.names.contains name)

/-- What help is asked for. A name after the first is below the command that the
first one names, where there is none. -/
def help (s : Setting) : List Text → UsageError
  | [] => .displayHelp
  | [name] => if s.grammar.commands.contains name then .displayHelp else .invalidSubcommand
  | _ => .invalidSubcommand

/-- Reads a command line: the arguments before the command, those after it, and
the command. -/
def read (s : Setting) (tokens : List Text) : Except UsageError (Found × Found × Command) := do
  let (before, rest?) ← Scan.run s.grammar (.start s.grammar) tokens
  match rest? with
  | none =>
    let before ← before.settle
    .error (if before.found = .none then .displayHelpOnMissing else .missingSubcommand)
  | some (name, rest) =>
    match s.verb? name with
    | none => .error (s.help rest)
    | some v =>
      let g := v.grammar s.shared
      let (after, _) ← Scan.run g (.start g) rest
      let after ← after.finish g
      let before ← before.settle
      return (before.found, after, v.command after)

end Setting

end Zicsr
