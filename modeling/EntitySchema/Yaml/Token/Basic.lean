import EntitySchema.Yaml.Character
import EntitySchema.Yaml.Fault

/-! The tokens of a YAML text. -/
namespace EntitySchema.Yaml

/-- A line `%…` before a document. -/
inductive Directive where
  | version (major minor : Nat)
  | handle (name expansion : String)
  | other
  deriving DecidableEq, Repr

inductive Token where
  | directive (d : Directive)
  | documentStart
  | documentEnd
  | openBlockList
  | openBlockMapping
  | closeBlock
  | openList
  | closeList
  | openMapping
  | closeMapping
  | item
  | comma
  | key
  | value
  | alias (name : String)
  | anchor (name : String)
  | tag (handle : Option String) (suffix : String)
  /-- The code points of a scalar, which may be halves of surrogate pairs. -/
  | scalar (codes : List Nat) (isPlain : Bool)
  /-- The place behind which no token can be read. -/
  | broken (f : Fault)
  deriving DecidableEq, Repr

abbrev Reader (α : Type) := List Char → Except Fault (α × List Char)

def takeLine (s : List Char) : List Char × List Char := s.span (!isLineEnd ·)

def afterSpaces (s : List Char) : List Char := s.dropWhile (· == ' ')

def atLineEnd : List Char → Bool
  | c :: _ => isLineEnd c
  | [] => true

def atSpaceOrLineEnd : List Char → Bool
  | c :: _ => isLineEnd c || c == ' '
  | [] => true

def afterBreak (s : List Char) : List Char :=
  match readBreak? s with
  | some (_, rest) => rest
  | none => s

def afterEmptyLine (s : List Char) : Except Fault (List Char) :=
  let s := afterSpaces s
  let s := match s with
    | '#' :: r => (takeLine r).2
    | _ => s
  if atLineEnd s then .ok (afterBreak s) else Offence.badToken.raise

end EntitySchema.Yaml
