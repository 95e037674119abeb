import EntitySchema.Value
import EntitySchema.Yaml.Style

/-! Writing of YAML in block style. Long texts are folded at spaces behind column eighty. -/
namespace EntitySchema.Yaml

open Number (Binary64)

/-- The text written so far, in reverse, and where the pen stands: its column, whether spacing
stands before it, and whether only indentation and indicators do so on its line. -/
structure Pen where
  written : List Char := []
  column : Nat := 0
  spaced : Bool := true
  indented : Bool := true
  deriving Repr

/-- The column behind which texts are folded. -/
def width : Nat := 80

namespace Pen

def put (p : Pen) (s : List Char) : Pen :=
  { p with written := s.reverse ++ p.written, column := p.column + s.length }

def endLine (p : Pen) (c : Char) : Pen := ⟨c :: p.written, 0, true, true⟩

/-- Goes to a column, on a new line unless the pen can get there on this one. -/
def indentTo (p : Pen) (indent : Nat) : Pen :=
  let p := if !p.indented || indent < p.column || (p.column == indent && !p.spaced) then
    p.endLine '\n' else p
  if p.column < indent then
    { p.put (List.replicate (indent - p.column) ' ') with spaced := true }
  else p

def indicator (p : Pen) (mark : Char) (needsSpace indented : Bool) : Pen :=
  let p' := p.put (if p.spaced || !needsSpace then [mark] else [' ', mark])
  { p' with spaced := false, indented := p.indented && indented }

/-- Writes a plain text; `indent` is where folded lines go on. -/
def plain (p : Pen) (fold : Bool) (indent : Nat) (s : List Char) : Pen :=
  let p := if p.spaced then p else p.put [' ']
  go { p with spaced := false, indented := false } 0 s
where
  /-- `spaces` of them are read and not yet written. -/
  go (p : Pen) (spaces : Nat) : List Char → Pen
    | [] => p.put (List.replicate spaces ' ')
    | ' ' :: r => go p (spaces + 1) r
    | c :: r =>
      let p := if spaces = 1 ∧ width < p.column ∧ fold then
        { p.indentTo indent with spaced := false, indented := false }
        else p.put (List.replicate spaces ' ')
      go (p.put [c]) 0 r

/-- Writes the body of a text in single quotes. `first` tells that nothing of it is written;
`spaces` and `breaks` are read and not yet written, the latter in reverse. -/
def singleBody (p : Pen) (fold : Bool) (indent : Nat) (first : Bool) (spaces : Nat)
    (breaks : List Char) : List Char → Pen
  | [] => flush p true
  | c :: r =>
    if c = ' ' then
      let p := if breaks = [] then p else flush p false
      singleBody p fold indent (first && breaks = []) (spaces + 1) [] r
    else if isBreak c then
      let p := if spaces = 0 then p else flush p false
      singleBody p fold indent (first && spaces = 0) 0 (c :: breaks) r
    else
      let p := flush p false
      singleBody (p.put (if c = '\'' then ['\'', '\''] else [c])) fold indent false 0 [] r
where
  flush (p : Pen) (atEnd : Bool) : Pen :=
    if breaks ≠ [] then
      let p := if breaks.getLast? = some '\n' then p.endLine '\n' else p
      (breaks.reverse.foldl endLine p).indentTo indent
    else if spaces = 1 ∧ width < p.column ∧ fold ∧ ¬first ∧ ¬atEnd then p.indentTo indent
    else p.put (List.replicate spaces ' ')

def single (p : Pen) (fold : Bool) (indent : Nat) (s : List Char) : Pen :=
  ((p.indicator '\'' true false).singleBody fold indent true 0 [] s).indicator '\'' false false

def hexUpper (width n : Nat) : List Char := (Text.hexPadded width n).map Char.toUpper

def escape? (n : Nat) : Option (List Char) :=
  match n with
  | 0x00 => some ['\\', '0']
  | 0x07 => some ['\\', 'a']
  | 0x08 => some ['\\', 'b']
  | 0x09 => some ['\\', 't']
  | 0x0a => some ['\\', 'n']
  | 0x0b => some ['\\', 'v']
  | 0x0c => some ['\\', 'f']
  | 0x0d => some ['\\', 'r']
  | 0x1b => some ['\\', 'e']
  | 0x22 => some ['\\', '"']
  | 0x5c => some ['\\', '\\']
  | 0x85 => some ['\\', 'N']
  | 0x2028 => some ['\\', 'L']
  | 0x2029 => some ['\\', 'P']
  | _ =>
    if (0x20 ≤ n ∧ n ≤ 0x7e) ∨
        (0xa0 ≤ n ∧ n ≤ 0xfffd ∧ n ≠ 0xfeff ∧ ¬(0xd800 ≤ n ∧ n < 0xe000)) then none
    else if n ≤ 0xff then some ('\\' :: 'x' :: hexUpper 2 n)
    else if n ≤ 0xffff then some ('\\' :: 'u' :: hexUpper 4 n)
    else some ('\\' :: 'U' :: hexUpper 8 n)

/-- Breaks the line of a text in double quotes; a space that the next line starts with is
escaped. -/
def breakDouble (p : Pen) (indent : Nat) (next : Option Nat) : Pen :=
  let p := { (p.put ['\\']).indentTo indent with spaced := false, indented := false }
  if next = some 0x20 then p.put ['\\'] else p

/-- Writes the body of a text in double quotes. `first` tells that the text starts here; `pending`
is read and not yet written, in reverse. Lines break at spaces and next to escapes, and not around
the first or the last code point. -/
def doubleBody (p : Pen) (fold : Bool) (indent : Nat) (first : Bool) (pending : List Char) :
    List Nat → Pen
  | [] => p.put pending.reverse
  | n :: r =>
    let inside := !first && r != []
    match escape? n with
    | some e =>
      let p := (p.put pending.reverse).put e
      let p := if inside ∧ width + 1 < p.column ∧ fold then p.breakDouble indent r.head? else p
      doubleBody p fold indent false [] r
    | none =>
      if inside ∧ (n = 0x20 ∨ pending = []) ∧ width < p.column + pending.length ∧ fold then
        doubleBody ((p.put pending.reverse).breakDouble indent (some n)) fold indent false
          [Char.ofNat n] r
      else doubleBody p fold indent false (Char.ofNat n :: pending) r

def double (p : Pen) (fold : Bool) (indent : Nat) (codes : List Nat) : Pen :=
  ((p.indicator '"' true false).doubleBody fold indent true [] codes).indicator '"' false false

def text (p : Pen) (fold : Bool) (indent : Nat) (s : List Char) : Pen :=
  match Style.ofText s with
  | .plain => p.plain fold indent s
  | .single => p.single fold indent s
  | .double => p.double fold indent (s.map Char.toNat)

end Pen

/-- A number as it is written: in lower case, with a point before an exponent. -/
def floatText (x : Binary64) : String :=
  if x.isNaN then ".nan"
  else if x.isInfinite then if x.negative then "-.inf" else ".inf"
  else
    let s := x.text.toList
    if s.contains '.' then x.text
    else String.ofList (s.flatMap fun c => if c = 'e' then ['.', '0', 'e'] else [c])

def scalarText : Value → String × Tag
  | .null => ("null", .null)
  | .bool b => (if b then "true" else "false", .bool)
  | .int n => (toString n, .int)
  | .float x => (floatText x, .float)
  | .text s => (s, .text)
  | .broken codes => ((Value.broken codes).display, .text)
  | v => (v.display, .timestamp)

/-- Whether a key can stand on one line with the start of its value: it is neither long, empty nor
of several lines. -/
def isSimpleKey (k : Value) : Bool :=
  let (s, tag) := scalarText k
  tag.shorthand.length + s.length < 128 && s != "" && !Style.isMultiline s.toList

namespace Pen

/-- Writes a scalar. Only texts are ever quoted, those with halves of surrogate pairs always. -/
def scalar (p : Pen) (fold : Bool) (indent : Nat) (v : Value) : Pen :=
  match v with
  | .text s => p.text fold indent s.toList
  | .broken codes => p.double fold indent codes
  | v => p.plain fold indent (scalarText v).1.toList

/-- Writes a key and the colon behind it; a key that is not simple gets a line of its own. -/
def key (p : Pen) (step indent : Nat) (k : Value) : Pen :=
  let p := p.indentTo indent
  if isSimpleKey k then (p.scalar false (indent + step) k).indicator ':' false false
  else
    let p := (p.indicator '?' true true).scalar true (indent + step) k
    (p.indentTo indent).indicator ':' true true

mutual

/-- Writes a value within a collection that is indented to `indent`. The items of a list go no
further in below a key than the key itself. -/
def value (p : Pen) (step indent : Nat) (belowKey : Bool) : Value → Pen
  | .list [] => { p.indicator '[' true false with spaced := true }.indicator ']' false false
  | .mapping [] => { p.indicator '{' true false with spaced := true }.indicator '}' false false
  | .list items =>
    p.items step (if belowKey && !p.indented then indent else indent + step) items
  | .mapping entries => p.entries step (indent + step) entries
  | v => p.scalar true (indent + step) v

def items (p : Pen) (step indent : Nat) : List Value → Pen
  | [] => p
  | v :: r =>
    (((p.indentTo indent).indicator '-' true true).value step indent false v).items step indent r

def entries (p : Pen) (step indent : Nat) : List (Value × Value) → Pen
  | [] => p
  | (k, v) :: r => ((p.key step indent k).value step indent true v).entries step indent r

end

end Pen

/-- A mapping as a YAML document. An indent that is not from two up to nine counts as two. -/
def documentText (indent : Int) (entries : List (Value × Value)) : String :=
  let step := if 1 < indent ∧ indent < 10 then indent.toNat else 2
  let start : Pen := {}
  let p := match entries with
    | [] => start.put ['{', '}']
    | es => start.entries step 0 es
  String.ofList (p.endLine '\n').written.reverse

end EntitySchema.Yaml
