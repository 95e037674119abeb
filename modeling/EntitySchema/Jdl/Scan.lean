import EntitySchema.Text.Blank
import EntitySchema.Text.Word

/-! Reading source text from the left: identifiers, literals, blanks, and the blocks that a text
holds. Every reader returns the rest of the text. -/
namespace EntitySchema.Jdl

open Text (isBlank isWordChar)

def isIdentifierStart (c : Char) : Bool := c.isAlpha || c == '_'

/-- A name in source text: an ASCII letter or underscore, then word characters. -/
structure Identifier where
  first : Char
  rest : List Char
  deriving DecidableEq, Repr

namespace Identifier

def text (i : Identifier) : String := String.ofList (i.first :: i.rest)

theorem text_ne_empty (i : Identifier) : i.text ≠ "" := by
  simp [text, ← String.toList_inj]

def read? : List Char → Option (Identifier × List Char)
  | [] => none
  | c :: r =>
    if isIdentifierStart c then some (⟨c, r.takeWhile isWordChar⟩, r.dropWhile isWordChar) else none

end Identifier

def afterLiteral? : List Char → List Char → Option (List Char)
  | [], s => some s
  | _ :: _, [] => none
  | k :: ks, c :: s => if c = k then afterLiteral? ks s else none

def afterBlanks? : List Char → Option (List Char)
  | c :: r => if isBlank c then some (r.dropWhile isBlank) else none
  | [] => none

/-- Splits a text that starts with `opening` at the next `closing`: what stands between the two,
and what follows. -/
def enclosed? (opening closing : Char) : List Char → Option (List Char × List Char)
  | c :: r =>
    if c = opening then
      match r.span (· != closing) with
      | (inner, _ :: rest) => some (inner, rest)
      | (_, []) => none
    else none
  | [] => none

/-- Whether nothing is left, a single line feed aside. -/
def atEnd (s : List Char) : Bool := s == [] || s == ['\n']

def readHeader? (keyword : List Char) (s : List Char) : Option (Identifier × List Char) := do
  let s ← afterLiteral? keyword s
  let s ← afterBlanks? s
  let (name, s) ← Identifier.read? s
  let s ← afterLiteral? ['{'] (s.dropWhile isBlank)
  return (name, s)

def readBlock? (keyword : List Char) (s : List Char) :
    Option (Identifier × List Char × List Char) := do
  let (name, s) ← readHeader? keyword s
  match (s.dropWhile isBlank).span (· != '}') with
  | (body, _ :: rest) => return (name, body, rest)
  | (_, []) => none

/-- The blocks that `read?` finds, from left to right, each search going on behind the last find.
`read?` is told whether a word character stands right before the text. A find that takes nothing
ends the search. -/
def findBlocks {α : Type} (read? : Bool → List Char → Option (α × List Char)) (afterWord : Bool) :
    List Char → List α
  | [] => []
  | c :: r =>
    match read? afterWord (c :: r) with
    | some (a, rest) =>
      if _h : rest.length < (c :: r).length then a :: findBlocks read? false rest else [a]
    | none => findBlocks read? (isWordChar c) r
termination_by s => s.length
decreasing_by
  · assumption
  · exact Nat.lt_succ_self r.length

/-- A letter in either case; the dotted capital and the dotless small one count as `i`. -/
def matchesLetter (letter c : Char) : Bool :=
  c.toLower == letter || (letter == 'i' && (c.toNat == 0x130 || c.toNat == 0x131))

def afterLetters? : List Char → List Char → Option (List Char)
  | [], s => some s
  | _ :: _, [] => none
  | k :: ks, c :: s => if matchesLetter k c then afterLetters? ks s else none

/-- Whether `letters` occur at the head of a text and no word character follows them. -/
def endsWordHere (letters s : List Char) : Bool :=
  match afterLetters? letters s with
  | some (c :: _) => !isWordChar c
  | some [] => true
  | none => false

/-- Whether `letters` occur in a text, in any letter case, and end a word there. With `whole` they
also start one. -/
def hasLetters (letters : List Char) (whole : Bool) (afterWord : Bool) : List Char → Bool
  | [] => false
  | c :: r =>
    (!(whole && afterWord) && endsWordHere letters (c :: r)) ||
      hasLetters letters whole (isWordChar c) r

end EntitySchema.Jdl
