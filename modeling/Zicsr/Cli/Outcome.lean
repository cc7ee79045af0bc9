import Zicsr.Cli.Error
import Zicsr.Cli.Log

/-
  What running a command gives.

  A run emits lines of output, events of the log and messages to the user, in
  order, and ends well or with an error. What was emitted before an error stays.
-/

namespace Zicsr

/-- Something that a run emits. -/
inductive Emission where
  | output (line : Text)
  | event (e : Event)
  | message (line : Text)
  deriving DecidableEq, Repr

/-- How a run of the program ends: well, with an error that is reported, or by a
fault that it does not get over. -/
inductive Ending where
  | success
  | failure
  | fault
  deriving DecidableEq, Repr

def Ending.code : Ending → Nat
  | .success => 0
  | .failure => 1
  | .fault => 101

/-- The emissions of a command, and how it ended. -/
structure Outcome where
  emissions : List Emission
  result : Except CommandError Unit

namespace Outcome

/-- Nothing is emitted and all is well. -/
def done : Outcome := ⟨[], .ok ()⟩

/-- Nothing is emitted and the command fails. -/
def fail (e : CommandError) : Outcome := ⟨[], .error e⟩

def after (earlier : List Emission) (o : Outcome) : Outcome := ⟨earlier ++ o.emissions, o.result⟩

def print (lines : List Text) : Outcome := ⟨lines.map .output, .ok ()⟩

end Outcome

/-- The line of output of an emission. -/
def Emission.output? : Emission → Option Text
  | .output line => some line
  | _ => none

def outputLines (emissions : List Emission) : List Text := emissions.filterMap Emission.output?

def outputText (emissions : List Emission) : Text := Text.unlines (outputLines emissions)

/-- The lines of output of a command. -/
def Outcome.printed (o : Outcome) : List Text := outputLines o.emissions

end Zicsr
