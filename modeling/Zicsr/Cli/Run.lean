import Zicsr.Assembly.Source
import Zicsr.Cli.Colour
import Zicsr.Cli.Command
import Zicsr.Cli.Outcome
import Zicsr.Csr.FieldView
import Zicsr.Header.Basic

/-
  Running a command.

  `encode` and `decode` print as they go, so that what stands before an error is
  printed; the other commands print all or nothing.
-/

namespace Zicsr

/-! ## Events of assembling -/

/-- The event of encoding an instruction; a fixed word is not worth one. -/
def encodedEvents (i : Instruction) : List Event :=
  match i.op, i.operands, i.encode with
  | .csr op, some o, .ok word => [.encoded op o word]
  | _, _, _ => []

def readEvents (line : Text) (i : Instruction) : List Event :=
  encodedEvents i ++ [.parsed (Parts.code line) i]

def lineEvents (line : Text) (i : Instruction) : List Emission :=
  (readEvents line i ++ encodedEvents i).map .event

/-- The events of assembling lines, up to the first that is refused. -/
def sourceEvents : List Text → List Emission
  | [] => []
  | line :: rest =>
    match readLine line with
    | .error _ => []
    | .ok none => sourceEvents rest
    | .ok (some i) => lineEvents line i ++ sourceEvents rest

/-! ## Encoding -/

/-- The text of the source arguments, cut at semicolons. -/
def segments (source : List Text) : List Text :=
  Text.split (· == ';') (List.intercalate " " source)

/-- Prints the word of each segment. -/
def encodeSegments (format : WordFormat) : List Text → Outcome
  | [] => .done
  | segment :: rest =>
    match readLine segment with
    | .error e => .fail (.line e)
    | .ok none => encodeSegments format rest
    | .ok (some i) =>
      match i.encode with
      | .error cause => .fail (.line (.encode cause))
      | .ok word =>
        (encodeSegments format rest).after
          (lineEvents segment i ++ [.output (format.write word)])

def assembleFile (read : FileReader) (path : Text) (format : WordFormat) : Outcome :=
  match read path with
  | .error e => .fail (.file path e)
  | .ok source =>
    match assemble source with
    | .error e => (Outcome.fail (.source e)).after (sourceEvents (Text.lines source))
    | .ok words =>
      (Outcome.print (words.map format.write)).after
        (sourceEvents (Text.lines source) ++ [.event (.assembled words.length)])

/-! ## Decoding -/

def decodeEvents (word : BitVec 32) : List Event :=
  .decoderReady Decoder.standard.dispatch.length ::
    match Instruction.decode? word with
    | none => [.unknownWord word]
    | some i =>
      match i.operands with
      | some o => if (Csr.nameOf? o.csr).isSome then [] else [.unnamedCsr word o.csr]
      | none => []

/-- What is shown for a word that is no instruction. -/
def invalidText : Text := "<invalid instruction>"

def instructionShown (aliases : Bool) (word : BitVec 32) : Text :=
  match Instruction.decode? word with
  | some i => Role.instruction.paint (i.text aliases)
  | none => Role.invalid.paint invalidText

def wordShown (aliases : Bool) (word : BitVec 32) : Text :=
  Role.word.paint (WordFormat.numeral word) ++ ": ".toList ++ instructionShown aliases word

/-- Prints the instruction of each word. -/
def decodeWords (aliases : Bool) : List Text → Outcome
  | [] => .done
  | t :: rest =>
    match Numeral.readBelow? UInt32.size t with
    | none => .fail (.invalidValue t)
    | some n =>
      let word := BitVec.ofNat 32 n
      (decodeWords aliases rest).after
        ((decodeEvents word).map .event ++ [.output (wordShown aliases word)])

/-! ## Header and fields -/

/-- Reads every text as a register; the first that is none is the error. -/
def readRegisters : List Text → Except CommandError (List Register)
  | [] => .ok []
  | t :: rest =>
    match Register.read? t with
    | none => .error (.invalidRegister t)
    | some r => (readRegisters rest).map (r :: ·)

/-- Reads every text as a CSR; the first that is none is the error. -/
def readCsrs : List Text → Except CommandError (List Csr)
  | [] => .ok []
  | t :: rest =>
    match Csr.read? t with
    | none => .error (.invalidCsr (Text.trim t))
    | some c => (readCsrs rest).map (c :: ·)

/-- The header of the registers and CSRs named; the standard one if none are. -/
def chosenHeader (registers csrs : List Text) : Except CommandError Header :=
  if registers = [] ∧ csrs = [] then .ok .standard
  else do
    let registers ← readRegisters registers
    let csrs ← readCsrs csrs
    return Header.empty.addAll (registers.map .register ++ csrs.map .csr)

def printHeader (registers csrs : List Text) : Outcome :=
  match chosenHeader registers csrs with
  | .error e => .fail e
  | .ok h => .print h.lines

def fieldNameWidth : Nat := 9

def fieldShown (f : Field) : Text :=
  "  ".toList ++ Role.fieldName.paint (Text.padRight fieldNameWidth f.1) ++ " = ".toList ++ f.2

def valueShown {w : Nat} (c : Csr) (value : BitVec w) : Text :=
  Role.csrName.paint c.display ++ " = ".toList ++
    Role.word.paint (Numeral.literal value.toNat)

/-- Prints the fields of a CSR value. -/
def printFields (x : Xlen) (csr value : Text) : Outcome :=
  match Csr.read? csr with
  | none => .fail (.invalidCsr (Text.trim csr))
  | some c =>
    match Numeral.readBelow? (1 <<< x.bits) value with
    | none => .fail (.invalidValue value)
    | some n =>
      let v : x.Word := .ofNat x.bits n
      match c.view? v with
      | none => .fail (.noFieldView c)
      | some fields => .print (valueShown c v :: fields.map fieldShown)

/-- Runs a command. The shell cannot be entered from here. -/
def Command.run (x : Xlen) (read : FileReader) : Command → Outcome
  | .encode source format => encodeSegments format (segments source)
  | .decode words aliases => decodeWords aliases words
  | .assemble path format => assembleFile read path format
  | .header registers csrs => printHeader registers csrs
  | .fields csr value => printFields x csr value
  | .shell => .fail .nestedShell
  | .quit => .done

/-- The file that a command reads. -/
def Command.path? : Command → Option Text
  | .assemble path _ => some path
  | _ => none

end Zicsr
