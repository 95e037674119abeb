import EntitySchema.Yaml.Token.Basic

/-! Plain scalars: words, and the gaps that hold them together. -/
namespace EntitySchema.Yaml.Plain

def isFlowIndicator (c : Char) : Bool :=
  c == ',' || c == '[' || c == ']' || c == '{' || c == '}'

/-- Whether a colon before this text ends a plain scalar. -/
def endsAtColon (inFlow : Bool) : List Char → Bool
  | c :: _ => isSpacing c || (inFlow && isFlowIndicator c)
  | [] => true

def takeWord (inFlow : Bool) : List Char → List Char × List Char
  | [] => ([], [])
  | c :: r =>
    if isSpacing c || (c == ':' && endsAtColon inFlow r) ||
        (inFlow && (isFlowIndicator c || c == '?')) then ([], c :: r)
    else
      let (word, rest) := takeWord inFlow r
      (c :: word, rest)

/-- What follows the first end of line in a gap: further ends of line, and the spaces of the next
line. -/
structure Lines where
  breaks : List Char
  /-- The number of spaces in front of the rest. -/
  column : Nat
  /-- Whether the rest is the mark of a document's start or end. -/
  atMarker : Bool
  rest : List Char

/-- Skips ends of line and spaces up to a character of another kind, or to a marker at the start of
a line. -/
def skipLines (s : List Char) : Lines :=
  let t := afterSpaces s
  match h : readBreak? t with
  | some (c, rest) =>
    have : rest.length < s.length :=
      Nat.lt_of_lt_of_le (readBreak?_length h) (List.dropWhile_suffix _).length_le
    if startsWithMarker rest then ⟨[c], 0, true, rest⟩
    else
      let l := skipLines rest
      { l with breaks := c :: l.breaks }
  | none => ⟨[], s.length - t.length, false, t⟩
termination_by s.length

/-- A gap behind a word: what it stands for within the scalar, where the next word would stand, and
whether the gap holds an end of line. -/
structure Gap where
  text : List Char
  column : Option Nat
  rest : List Char

def Gap.crossesLine (g : Gap) : Bool := g.column.isSome

/-- Reads a gap. An end of line counts as a space, further ones as line feeds. Nothing comes out
before a marker, or when there is no gap. -/
def readGap (s : List Char) : Gap :=
  let (spaces, s) := s.span (· == ' ')
  match readBreak? s with
  | none => ⟨spaces, none, s⟩
  | some (c, rest) =>
    if startsWithMarker rest then ⟨[], some 0, rest⟩
    else
      let l := skipLines rest
      if l.atMarker then ⟨[], some l.column, l.rest⟩
      else
        let first := if c ≠ '\n' then [c] else if l.breaks = [] then [' '] else []
        ⟨first ++ l.breaks, some l.column, l.rest⟩

/-- The scalar at the head of a text. `behind` is the gap in front of it, which counts only when a
word follows; lines are indented to `indent` at least, unless within brackets. The answer also tells
whether the last gap holds an end of line. `fuel` bounds the number of words. -/
def readFrom (inFlow : Bool) (indent : Nat) (behind : List Char) (crossed : Bool) (fuel : Nat)
    (s : List Char) : List Char × Bool × List Char :=
  match fuel, takeWord inFlow s with
  | _, ([], _) | 0, _ => ([], crossed, s)
  | fuel + 1, (w :: word, rest) =>
    let g := readGap rest
    let ends := g.text = [] || g.rest.head? == some '#' ||
      (!inFlow && (g.column.map fun n => decide (n < indent)).getD false)
    if ends then (behind ++ w :: word, g.crossesLine, g.rest)
    else
      let (more, crossed, rest) := readFrom inFlow indent g.text g.crossesLine fuel g.rest
      (behind ++ w :: word ++ more, crossed, rest)

def read (inFlow : Bool) (indent : Nat) (s : List Char) : List Char × Bool × List Char :=
  readFrom inFlow indent [] false s.length s

end EntitySchema.Yaml.Plain
