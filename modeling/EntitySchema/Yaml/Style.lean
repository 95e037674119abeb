import EntitySchema.Yaml.Character
import EntitySchema.Yaml.Tag

/-! The style in which a text is written in YAML: plain when that reads back as the same text, then
in single quotes, and in double quotes when nothing else will do. -/
namespace EntitySchema.Yaml

inductive Style where
  | plain
  | single
  | double
  deriving DecidableEq, Repr

namespace Style

def indicators : List Char := "#,[]\x7b\x7d&*!|>'\"%@`".toList

def startsWithIndicator : List Char → Bool
  | '-' :: '-' :: '-' :: _ | '.' :: '.' :: '.' :: _ => true
  | c :: r => indicators.contains c ||
      ((c == '?' || c == ':' || c == '-') && startsWithSpacing r)
  | [] => false

/-- Whether a colon before spacing or a hash after spacing stands within a text. -/
def hasInnerIndicator : List Char → Bool
  | a :: b :: r =>
    (b == ':' && startsWithSpacing r) || (b == '#' && isSpacing a) || hasInnerIndicator (b :: r)
  | _ => false

def isSpecial (c : Char) : Bool :=
  !(isPrintable c) || c == '\t' || c == '\r' || c.toNat == 0xfeff || c.toNat == 0x10ffff

def hasNeighbours (p : Char → Char → Bool) : List Char → Bool
  | a :: b :: r => p a b || hasNeighbours p (b :: r)
  | _ => false

def isMultiline (s : List Char) : Bool := s.any isBreak

def hasOpenEnds (s : List Char) : Bool :=
  let isOpen (c : Option Char) : Bool := match c with
    | some c => c == ' ' || isBreak c
    | none => false
  isOpen s.head? || isOpen s.getLast?

/-- Whether a text needs double quotes: for a special character, or a space before an end of
line. -/
def needsEscapes (s : List Char) : Bool :=
  s.any isSpecial || hasNeighbours (fun a b => a == ' ' && isBreak b) s

def hasIndentedLine (s : List Char) : Bool := hasNeighbours (fun a b => isBreak a && b == ' ') s

def allowsPlain (s : List Char) : Bool :=
  Tag.ofPlain s == .text && !hasOpenEnds s && !isMultiline s && !needsEscapes s &&
    !startsWithIndicator s && !hasInnerIndicator s

def allowsSingle (s : List Char) : Bool := !needsEscapes s && !hasIndentedLine s

def ofText (s : List Char) : Style :=
  if allowsPlain s then .plain else if allowsSingle s then .single else .double

end Style

end EntitySchema.Yaml
