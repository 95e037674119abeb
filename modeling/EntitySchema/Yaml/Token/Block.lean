import EntitySchema.Yaml.Token.Basic

/-! Scalars in block style: literal ones behind a bar, folded ones behind an angle bracket. -/
namespace EntitySchema.Yaml.Block

/-- What becomes of the ends of line behind the last line: the last one stays, none, or all. -/
inductive Chomping where
  | clip
  | strip
  | keep
  deriving DecidableEq, Repr

structure Header where
  chomping : Chomping := .clip
  increment : Option Nat := none

def chomping? (c : Char) : Option Chomping :=
  if c = '+' then some .keep else if c = '-' then some .strip else none

def increment? (c : Char) : Option Nat := if c.isDigit then some (c.toNat - 48) else none

def readHeader (s : List Char) : Except Fault (Header × List Char) :=
  let (h, rest) : Header × List Char :=
    match s with
    | a :: r => match chomping? a, increment? a with
      | some c, _ => match r with
        | b :: r' => match increment? b with
          | some n => (⟨c, some n⟩, r')
          | none => (⟨c, none⟩, r)
        | [] => (⟨c, none⟩, [])
      | none, some n => match r with
        | b :: r' => match chomping? b with
          | some c => (⟨c, some n⟩, r')
          | none => (⟨.clip, some n⟩, r)
        | [] => (⟨.clip, some n⟩, [])
      | none, none => ({}, s)
    | [] => ({}, [])
  if h.increment = some 0 || !atSpaceOrLineEnd rest then Offence.badToken.raise
  else .ok (h, rest)

structure Lead where
  breaks : List Char
  column : Nat
  rest : List Char

def skipBreaks (indent : Nat) (s : List Char) : Lead :=
  let spaces := (s.takeWhile (· == ' ')).length
  let column := min indent spaces
  let t := s.drop column
  match h : readBreak? t with
  | some (c, rest) =>
    have : rest.length < s.length :=
      Nat.lt_of_lt_of_le (readBreak?_length h) (List.drop_suffix _ _).length_le
    let l := skipBreaks indent rest
    { l with breaks := c :: l.breaks }
  | none => ⟨[], column, t⟩
termination_by s.length

/-- Skips ends of line and all spaces; the answer also has the widest column that spaces led to. -/
def skipAll (s : List Char) : Lead × Nat :=
  let t := afterSpaces s
  let column := s.length - t.length
  match h : readBreak? t with
  | some (c, rest) =>
    have : rest.length < s.length :=
      Nat.lt_of_lt_of_le (readBreak?_length h) (List.dropWhile_suffix _).length_le
    let (l, widest) := skipAll rest
    ({ l with breaks := c :: l.breaks }, max column widest)
  | none => (⟨[], column, t⟩, column)
termination_by s.length

def startsWithText : List Char → Bool
  | c :: _ => !(c == ' ' || c == '\t')
  | [] => true

/-- The text of the lines from `lead` on, up to one that is indented less, with the last end of
line and the ends of line behind it. `behind` is the end of the line before, and `foldable` tells
whether that line may be joined with the next. -/
def readLines (folded : Bool) (indent : Nat) (behind : Option Char) (foldable : Bool) (fuel : Nat)
    (lead : Lead) : List Char × Option Char × Lead :=
  match fuel with
  | 0 => ([], behind, lead)
  | fuel + 1 =>
    if lead.column ≠ indent ∨ lead.rest = [] then ([], behind, lead)
    else
      let isText := startsWithText lead.rest
      let joint := if behind = none then []
        else if folded && behind == some '\n' && foldable && isText then
          if lead.breaks = [] then [' '] else []
        else behind.toList
      let (line, rest) := takeLine lead.rest
      let next := readBreak? rest
      let after := skipBreaks indent (afterBreak rest)
      let (more, last, lead') :=
        readLines folded indent (next.map (·.1)) isText fuel after
      (joint ++ lead.breaks ++ line ++ more, last, lead')

/-- Reads a scalar from behind its indicator on; its lines are indented further than `parent`. -/
def read (folded : Bool) (parent : Int) (s : List Char) : Except Fault (List Char × List Char) := do
  let (header, s) ← readHeader s
  let s ← afterEmptyLine s
  let least := (max (parent + 1) 1).toNat
  let (indent, lead) := match header.increment with
    | some n => (least + n - 1, skipBreaks (least + n - 1) s)
    | none =>
      let (lead, widest) := skipAll s
      (max least widest, lead)
  let (text, last, lead) := readLines folded indent none true (s.length + 1) lead
  let tail := match header.chomping with
    | .clip => last.toList
    | .strip => []
    | .keep => last.toList ++ lead.breaks
  return (text ++ tail, lead.rest)

end EntitySchema.Yaml.Block
