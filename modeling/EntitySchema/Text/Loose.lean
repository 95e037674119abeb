import EntitySchema.Text.LetterCase
import EntitySchema.Text.Quoted

/-! Texts in which halves of surrogate pairs may stand alone. Such a text can be held and compared,
but no encoding has bytes for it. -/
namespace EntitySchema.Text

/-- A part of a text: a character, or one of the 2048 halves, counted from the first. -/
inductive CodePoint where
  | char (c : Char)
  | half (n : Fin 2048)
  deriving DecidableEq, Repr

namespace CodePoint

def number : CodePoint → Nat
  | .char c => c.toNat
  | .half n => 0xd800 + n

def isChar : CodePoint → Bool
  | .char _ => true
  | .half _ => false

end CodePoint

abbrev Loose := List CodePoint

namespace Loose

def ofChars (s : List Char) : Loose := s.map .char

def ofString (s : String) : Loose := ofChars s.toList

theorem ofString_inj {s t : String} : ofString s = ofString t ↔ s = t := by
  rw [ofString, ofString, ofChars, ofChars, List.map_inj_right fun _ _ h => CodePoint.char.inj h,
    String.toList_inj]

def isWhole (t : Loose) : Bool := t.all CodePoint.isChar

def fill (stand : Fin 2048 → List Char) (t : Loose) : String :=
  String.ofList <| t.flatMap fun
    | .char c => [c]
    | .half n => stand n

/-- The text as the error output shows it, a half by its code point. -/
def shown (t : Loose) : String := t.fill fun n => '\\' :: 'u' :: hexPadded 4 (0xd800 + n)

/-- The text as the name of a file. Names are texts with an encoding: a half makes one as unusable as
a null character does. -/
def fileName (t : Loose) : String := t.fill fun _ => ['\x00']

/-- Changes the characters between halves, `run` being those that are read, in reverse. -/
def mapRuns (f : List Char → List Char) (run : List Char) : Loose → Loose
  | [] => ofChars (f run.reverse)
  | .char c :: r => mapRuns f (c :: run) r
  | .half n :: r => ofChars (f run.reverse) ++ .half n :: mapRuns f [] r

/-- The text in lower case. A half has no case and ends a word. -/
def lower (t : Loose) : Loose := t.mapRuns Text.lower []

end Loose

end EntitySchema.Text
