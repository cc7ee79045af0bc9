import Zicsr.Text.GraphemeClass

/-
  Graphemes: what a reader takes for one character.

  A text falls into graphemes by the rules of Unicode's extended grapheme
  clusters. Whether a character goes on with a grapheme depends on the last
  character before it and on three facts about the end of the grapheme so far.
-/

namespace Zicsr.Text

/-- The end of a grapheme: the class of its last character; whether it ends in a
pictograph with extenders (`some`), and a joiner after them (`some true`);
whether it ends in a consonant with extenders (`some`), and a linker among them
(`some true`); and whether it ends in an odd number of regional letters. -/
structure GraphemeEnd where
  last : GraphemeClass
  pictograph : Option Bool
  conjunct : Option Bool
  oddRegional : Bool
  deriving DecidableEq, Repr

namespace GraphemeClass

/-- Whether a grapheme ends before and after a character of this class. -/
def isAlone : GraphemeClass → Bool
  | carriageReturn => true
  | lineFeed => true
  | control => true
  | _ => false

/-- Whether a character of this class goes on with any grapheme that may go on. -/
def isAttached : GraphemeClass → Bool
  | extend => true
  | linker => true
  | joiner => true
  | nonJoiner => true
  | spacingMark => true
  | _ => false

/-- Whether two letters belong to one Hangul syllable. -/
def inSyllable : GraphemeClass → GraphemeClass → Bool
  | lead, lead => true
  | lead, vowel => true
  | lead, leadVowel => true
  | lead, leadVowelTrail => true
  | leadVowel, vowel => true
  | leadVowel, trail => true
  | vowel, vowel => true
  | vowel, trail => true
  | leadVowelTrail, trail => true
  | trail, trail => true
  | _, _ => false

end GraphemeClass

namespace GraphemeEnd

/-- Whether a character of the class goes on with the grapheme. -/
def goesOn (e : GraphemeEnd) (next : GraphemeClass) : Bool :=
  if e.last = .carriageReturn ∧ next = .lineFeed then true
  else if e.last.isAlone || next.isAlone then false
  else e.last.inSyllable next || next.isAttached || e.last = .prepend
    || (e.conjunct = some true && next = .consonant)
    || (e.pictograph = some true && next = .pictograph)
    || (e.oddRegional && next = .regional)

/-- Whether a pictograph with extenders is at the end, after one more character.
A joiner is not an extender here. -/
def nextPictograph (before : Option Bool) : GraphemeClass → Option Bool
  | .pictograph => some false
  | .joiner => if before = some false then some true else none
  | .extend => if before = some false then some false else none
  | .linker => if before = some false then some false else none
  | .nonJoiner => if before = some false then some false else none
  | _ => none

/-- Whether a consonant with extenders is at the end, after one more character. A
joiner is an extender here, and a non-joiner is not. -/
def nextConjunct (before : Option Bool) : GraphemeClass → Option Bool
  | .consonant => some false
  | .extend => before
  | .joiner => before
  | .linker => before.map (fun _ => true)
  | _ => none

/-- The end of the grapheme after one more character. -/
def push (e : GraphemeEnd) (next : GraphemeClass) : GraphemeEnd :=
  ⟨next, nextPictograph e.pictograph next, nextConjunct e.conjunct next,
   next = .regional && !e.oddRegional⟩

/-- The end of a grapheme of one character. -/
def single (first : GraphemeClass) : GraphemeEnd := push ⟨.other, none, none, false⟩ first

end GraphemeEnd

/-- The graphemes of a text that follows a grapheme; the first one is the rest of
that grapheme. -/
def graphemesAfter (e : GraphemeEnd) : Text → List Text
  | [] => [[]]
  | c :: rest =>
    let next := GraphemeClass.ofChar c
    if e.goesOn next then (graphemesAfter (e.push next) rest).modifyHead (c :: ·)
    else [] :: (graphemesAfter (.single next) rest).modifyHead (c :: ·)

def graphemes : Text → List Text
  | [] => []
  | c :: rest =>
    (graphemesAfter (.single (GraphemeClass.ofChar c)) rest).modifyHead (c :: ·)

end Zicsr.Text
