import EntitySchema.Yaml.Token.Block
import EntitySchema.Yaml.Token.Plain
import EntitySchema.Yaml.Token.Property
import EntitySchema.Yaml.Token.Quoted

/-! The tokens of a whole text. Indentation opens and closes block collections, and a token turns out
to be a key when a colon follows it on its line: the tokens for that are then spliced in before
it. -/
namespace EntitySchema.Yaml

structure Place where
  index : Nat := 0
  line : Nat := 0
  column : Nat := 0
  deriving DecidableEq, Repr

/-- The place behind the given characters. A byte order mark takes no column. -/
def Place.after (p : Place) : List Char → Place
  | [] => p
  | '\r' :: '\n' :: r => after ⟨p.index + 2, p.line + 1, 0⟩ r
  | c :: r =>
    if isLineEnd c then after ⟨p.index + 1, p.line + 1, 0⟩ r
    else after ⟨p.index + 1, p.line, if c.toNat = 0xfeff then p.column else p.column + 1⟩ r

/-- A token that is a key if a colon follows: how many tokens come before it, and where it starts. A
key is required when nothing else may start at its column. -/
structure KeyMark where
  before : Nat
  required : Bool
  place : Place
  deriving DecidableEq, Repr

/-- Where the reading of tokens stands. Tokens are in reverse. There is one place for a key mark at
each level of brackets, the innermost first. -/
structure Stream where
  rest : List Char
  place : Place := {}
  tokens : List Token := []
  indents : List Nat := []
  marks : List (Option KeyMark) := [none]
  keyAllowed : Bool := true
  deriving Repr

namespace Stream

def inFlow (s : Stream) : Bool := 1 < s.marks.length

/-- The column of the innermost open block collection, or one less than any. -/
def indent (s : Stream) : Int := (s.indents.head?.map Int.ofNat).getD (-1)

def column (s : Stream) : Nat := s.place.column

def goTo (s : Stream) (rest : List Char) : Stream :=
  { s with rest, place := s.place.after (s.rest.take (s.rest.length - rest.length)) }

def emit (s : Stream) (t : Token) : Stream := { s with tokens := t :: s.tokens }

/-- Skips spaces, comments and ends of line. A new line allows a key outside of brackets. -/
def skipBlankFrom (s : Stream) (r : List Char) : Stream :=
  let t := afterSpaces r
  let t' := match t with
    | '#' :: _ => (takeLine t).2
    | _ => t
  match readBreak? t' with
  | some (_, rest) =>
    if _h : rest.length < r.length then
      skipBlankFrom { s with keyAllowed := s.keyAllowed || !s.inFlow } rest
    else s.goTo t'
  | none => s.goTo t'
termination_by r.length

def skipBlank (s : Stream) : Stream := s.skipBlankFrom s.rest

/-- Drops the marks that are too far back to be keys. -/
def dropStale (s : Stream) : Except Fault Stream := do
  let marks ← s.marks.mapM fun mark => match mark with
    | some k =>
      if k.place.line ≠ s.place.line ∨ 1024 < s.place.index - k.place.index then
        if k.required then Offence.missingColon.raise else pure none
      else pure mark
    | none => pure none
  return { s with marks }

def setMark (s : Stream) (mark : Option KeyMark) : Stream := { s with marks := mark :: s.marks.tail }

def mark? (s : Stream) : Option KeyMark := s.marks.head?.join

/-- Drops the mark of this level; a required key must not be dropped. -/
def dropMark (s : Stream) : Except Fault Stream :=
  match s.mark? with
  | some k => if k.required then Offence.missingColon.raise else .ok (s.setMark none)
  | none => .ok s

def markKey (s : Stream) : Except Fault Stream :=
  if s.keyAllowed then do
    let required := !s.inFlow && s.indent == s.column
    let s ← s.dropMark
    return s.setMark (some ⟨s.tokens.length, required, s.place⟩)
  else .ok s

def closeBeyond (s : Stream) (column : Int) : Stream :=
  if s.inFlow then s
  else
    let (closed, stay) := s.indents.span fun (n : Nat) => decide (column < Int.ofNat n)
    { s with indents := stay, tokens := closed.map (fun _ => .closeBlock) ++ s.tokens }

/-- Opens a block collection at a column, unless one is open there. -/
def openAt (s : Stream) (column : Nat) : Option Stream :=
  if s.indent < column then some { s with indents := column :: s.indents } else none

/-- Splices tokens in, so that `before` tokens stand in front of them. -/
def splice (s : Stream) (before : Nat) (ts : List Token) : Stream :=
  let later := s.tokens.take (s.tokens.length - before)
  { s with tokens := later ++ ts.reverse ++ s.tokens.drop (s.tokens.length - before) }

def closeAll (s : Stream) : Except Fault Stream := do
  let s ← (s.closeBeyond (-1)).dropMark
  return { s with keyAllowed := false }

def openFlow (s : Stream) (t : Token) (rest : List Char) : Except Fault Stream := do
  let s ← s.markKey
  return { (s.emit t).goTo rest with marks := none :: s.marks, keyAllowed := true }

def closeFlow (s : Stream) (t : Token) (rest : List Char) : Except Fault Stream := do
  let s ← s.dropMark
  let marks := if s.inFlow then s.marks.tail else s.marks
  return { (s.emit t).goTo rest with marks, keyAllowed := false }

def readComma (s : Stream) (rest : List Char) : Except Fault Stream := do
  let s ← s.dropMark
  return { (s.emit .comma).goTo rest with keyAllowed := true }

def openBlock (s : Stream) (t : Token) : Except Fault Stream :=
  if s.inFlow then .ok s
  else if !s.keyAllowed then Offence.misplacedIndicator.raise
  else .ok (((s.openAt s.column).map (·.emit t)).getD s)

def readItem (s : Stream) (rest : List Char) : Except Fault Stream := do
  let s ← (← s.openBlock .openBlockList).dropMark
  return { (s.emit .item).goTo rest with keyAllowed := true }

def readKey (s : Stream) (rest : List Char) : Except Fault Stream := do
  let s ← (← s.openBlock .openBlockMapping).dropMark
  return { (s.emit .key).goTo rest with keyAllowed := !s.inFlow }

/-- A colon: what is marked on this level is a key now. -/
def readValue (s : Stream) (rest : List Char) : Except Fault Stream := do
  match s.mark? with
  | some k =>
    let s := s.setMark none
    let opened := if s.inFlow then none else s.openAt k.place.column
    let s := match opened with
      | some s => s.splice k.before [.openBlockMapping, .key]
      | none => s.splice k.before [.key]
    return { (s.emit .value).goTo rest with keyAllowed := false }
  | none =>
    let s ← (← s.openBlock .openBlockMapping).dropMark
    return { (s.emit .value).goTo rest with keyAllowed := !s.inFlow }

def readProperty (s : Stream) (token : Except Fault (Token × List Char)) : Except Fault Stream := do
  let s ← s.markKey
  let (t, rest) ← token
  return { (s.emit t).goTo rest with keyAllowed := false }

def readBlockScalar (s : Stream) (folded : Bool) (rest : List Char) : Except Fault Stream := do
  let s ← s.dropMark
  let (text, rest) ← Block.read folded s.indent rest
  return { (s.emit (.scalar (Quoted.codes text) false)).goTo rest with keyAllowed := true }

def readPlain (s : Stream) : Except Fault Stream := do
  let s ← s.markKey
  let (text, crossed, rest) := Plain.read s.inFlow (s.indent + 1).toNat s.rest
  return { (s.emit (.scalar (Quoted.codes text) true)).goTo rest with keyAllowed := crossed }

def startsPlain (inFlow : Bool) : List Char → Bool
  | c :: r =>
    !(isSpacing c || "-?:,[]\x7b\x7d#&*!|>'\"%@`".toList.contains c) ||
      (!startsWithSpacing r && (c == '-' || (!inFlow && (c == '?' || c == ':'))))
  | [] => false

def readToken (s : Stream) (c : Char) (r : List Char) : Except Fault Stream :=
  let atStart := s.column = 0
  let spaced := startsWithSpacing r
  if c = '%' ∧ atStart then do
    let s ← s.closeAll
    let (t, rest) ← Property.readDirective r
    return (s.emit t).goTo rest
  else if atStart ∧ startsWithMarker s.rest then do
    let s ← s.closeAll
    return (s.emit (if c = '-' then .documentStart else .documentEnd)).goTo (s.rest.drop 3)
  else if c = '[' then s.openFlow .openList r
  else if c = '{' then s.openFlow .openMapping r
  else if c = ']' then s.closeFlow .closeList r
  else if c = '}' then s.closeFlow .closeMapping r
  else if c = ',' then s.readComma r
  else if c = '-' ∧ spaced then s.readItem r
  else if c = '?' ∧ (s.inFlow ∨ spaced) then s.readKey r
  else if c = ':' ∧ (s.inFlow ∨ spaced) then s.readValue r
  else if c = '*' then s.readProperty ((Property.readName r).map fun (n, rest) => (.alias n, rest))
  else if c = '&' then s.readProperty ((Property.readName r).map fun (n, rest) => (.anchor n, rest))
  else if c = '!' then s.readProperty (Property.readTag r)
  else if c = '|' ∧ ¬s.inFlow then s.readBlockScalar false r
  else if c = '>' ∧ ¬s.inFlow then s.readBlockScalar true r
  else if c = '\'' ∨ c = '"' then
    s.readProperty ((Quoted.read c r).map fun (codes, rest) => (.scalar codes false, rest))
  else if startsPlain s.inFlow s.rest then s.readPlain
  else Offence.badToken.raise

/-- Reads the next tokens; nothing is left to read at the end of the text. -/
def step (s : Stream) : Except Fault Stream := do
  let t ← s.skipBlank.dropStale
  let t := t.closeBeyond t.column
  match t.rest with
  | [] => t.closeAll
  | c :: r => t.readToken c r

/-- The tokens before the place where the reading breaks off. One that may turn out to be a key is not
known before what follows it, so it is not among them, nor are those behind it. -/
def brokenOff (s : Stream) (f : Fault) : List Token :=
  match s.dropStale with
  | .error g => [.broken g]
  | .ok t =>
    let known := (t.marks.filterMap fun m => m.map KeyMark.before).min?.getD s.tokens.length
    s.tokens.reverse.take known ++ [.broken f]

def readAll (s : Stream) : List Token :=
  match s.step with
  | .error f => s.brokenOff f
  | .ok next =>
    if _h : next.rest.length < s.rest.length then next.readAll else next.tokens.reverse
termination_by s.rest.length

end Stream

/-- The tokens of a text. A byte order mark at its start counts for nothing. -/
def tokens (text : List Char) : List Token :=
  if text.all isPrintable then
    match text with
    | c :: r =>
      if c.toNat = 0xfeff then Stream.readAll { rest := r, place := { index := 1 } }
      else Stream.readAll { rest := text }
    | [] => []
  else [.broken (.offence .unprintable)]

end EntitySchema.Yaml
