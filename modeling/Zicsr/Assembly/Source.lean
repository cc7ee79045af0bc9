import Zicsr.Assembly.Line
import Zicsr.Instruction.Decoder
import Zicsr.Instruction.Print

/-
  Assembling a source text, and the listing of a word.

  The words of a source text are those of its lines in order; the first line
  refused is the error. A listing prints a word so that it can be read again.
-/

namespace Zicsr

/-- The words of lines, the first of which is line `n`. -/
def assembleFrom : Nat → List Text → Except SourceError (List (BitVec 32))
  | _, [] => .ok []
  | n, line :: rest =>
    match assembleLine line with
    | .error cause => .error ⟨n, cause⟩
    | .ok word? => (assembleFrom (n + 1) rest).map (word?.toList ++ ·)

/-- The words of a source text. -/
def assemble (source : Text) : Except SourceError (List (BitVec 32)) :=
  assembleFrom 1 (Text.lines source)

/-- Whether the line is read as the word. -/
def denotes (line : Text) (word : BitVec 32) : Bool :=
  match assembleLine line with
  | .ok (some read) => read == word
  | _ => false

/-- Whether both texts of an instruction are read as the word. -/
def Instruction.relists (i : Instruction) (word : BitVec 32) : Bool :=
  denotes i.canonicalText word && denotes i.aliasText word

end Zicsr
