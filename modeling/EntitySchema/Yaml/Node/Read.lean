import EntitySchema.Yaml.Node
import EntitySchema.Yaml.Token.Basic

/-! Nodes from tokens. Every node gets its tag, and aliases become references. A place that cannot be
read counts when a token is asked for there, and not before. -/
namespace EntitySchema.Yaml

/-- Where the reading of nodes stands: the tokens that are left, the nodes so far, and their numbers
by anchor. -/
structure Source where
  tokens : List Token
  graph : Graph := {}
  anchors : List (String × Nat) := []
  /-- The number of collections that are open. -/
  depth : Nat := 0

abbrev Handles := List (String × String)

def standardHandles : Handles := [("!", "!"), ("!!", NodeTag.family)]

/-- How many collections may be open at once. -/
def deepest : Nat := 485

namespace Source

def peek (s : Source) : Except Fault (Option Token) :=
  match s.tokens with
  | [] => .ok none
  | .broken f :: _ => .error f
  | t :: _ => .ok (some t)

def skip (s : Source) : Source := { s with tokens := s.tokens.tail }

def add (s : Source) (anchor : Option String) (n : Node) : Except Fault (Nat × Source) :=
  let (graph, number) := s.graph.add n
  match anchor with
  | none => .ok (number, { s with graph })
  | some a =>
    if (s.anchors.lookup a).isSome then Offence.repeatedAnchor.raise
    else .ok (number, { s with graph, anchors := (a, number) :: s.anchors })

def addEmpty (s : Source) : Nat × Source :=
  let (graph, number) := s.graph.add .empty
  (number, { s with graph })

def openAt (s : Source) (anchor : Option String) (n : Node) : Except Fault (Nat × Source) := do
  let (number, s) ← s.add anchor n
  if deepest ≤ s.depth then throw .tooDeep
  return (number, { s with depth := s.depth + 1 })

def close (s : Source) (number : Nat) (n : Node) : Source :=
  { s with graph := s.graph.set number n, depth := s.depth - 1 }

end Source

structure Properties where
  anchor : Option String := none
  tag : Option String := none

namespace Properties

def expand (handles : Handles) : Option String → String → Except Fault String
  | none, suffix => .ok suffix
  | some handle, suffix => match handles.lookup handle with
    | some expansion => .ok (expansion ++ suffix)
    | none => Offence.undefinedHandle.raise

def read (handles : Handles) (s : Source) : Except Fault (Properties × Source) := do
  match ← s.peek with
  | some (.anchor a) => match ← s.skip.peek with
    | some (.tag h t) => return (⟨some a, some (← expand handles h t)⟩, s.skip.skip)
    | _ => return (⟨some a, none⟩, s.skip)
  | some (.tag h t) => match ← s.skip.peek with
    | some (.anchor a) => return (⟨some a, some (← expand handles h t)⟩, s.skip.skip)
    | _ => return (⟨none, some (← expand handles h t)⟩, s.skip)
  | _ => return ({}, s)

def collectionTag (p : Properties) (standard : NodeTag) : NodeTag :=
  match p.tag with
  | none | some "!" => standard
  | some name => .ofName name

/-- A scalar. Without a tag of its own a plain one has a kind by its text, and so has any under the
tag `!`. -/
def scalar (p : Properties) (codes : List Nat) (isPlain : Bool) : Node :=
  let resolved : Tag := .ofPlain (codes.map Char.ofNat)
  let tag := match p.tag with
    | none => .scalar (if isPlain then resolved else .text)
    | some "!" => .scalar resolved
    | some name => NodeTag.ofName name
  .scalar tag codes

def isEmpty (p : Properties) : Bool := p.anchor.isNone && p.tag.isNone

end Properties

/-- A node is missing before a token that cannot start one. -/
def endsBlockEntry (next : Option Token) : Bool :=
  next == some .key || next == some .value || next == some .closeBlock

def endsItem (next : Option Token) : Bool := next == some .item || next == some .closeBlock

def endsFlowKey (closing : Token) (next : Option Token) : Bool :=
  next == some .value || next == some .comma || next == some closing

def endsFlowValue (closing : Token) (next : Option Token) : Bool :=
  next == some .comma || next == some closing

/-- Where a node may stand: in a block, below a key of a block, where the items of a list need no
further indent, or within brackets. -/
inductive Position where
  | block
  | belowKey
  | flow
  deriving DecidableEq, Repr

namespace Source

def afterComma (s : Source) (first : Bool) : Except Fault Source := do
  if first then return s
  match ← s.peek with
  | some .comma => return s.skip
  | _ => Offence.unexpectedToken.raise

def readUnless (s : Source) (isMissing : Option Token → Bool)
    (read : Source → Except Fault (Nat × Source)) : Except Fault (Nat × Source) := do
  if isMissing (← s.peek) then return s.addEmpty else read s

def readValueUnless (s : Source) (isMissing : Option Token → Bool)
    (read : Source → Except Fault (Nat × Source)) : Except Fault (Nat × Source) := do
  match ← s.peek with
  | some .value => s.skip.readUnless isMissing read
  | _ => return s.addEmpty

mutual

/-- Reads a node. All readers take as fuel a bound on the depth of their calls. -/
def read (h : Handles) (fuel : Nat) (position : Position) (s : Source) :
    Except Fault (Nat × Source) :=
  match fuel with
  | 0 => .error .tooDeep
  | fuel + 1 => do
    match ← s.peek with
    | some (.alias a) => match s.anchors.lookup a with
      | some number => return (number, s.skip)
      | none => Offence.undefinedAlias.raise
    | _ =>
      let (p, s) ← Properties.read h s
      readContent h fuel position p s

def readContent (h : Handles) (fuel : Nat) (position : Position) (p : Properties) (s : Source) :
    Except Fault (Nat × Source) :=
  match fuel with
  | 0 => .error .tooDeep
  | fuel + 1 => do
    let readList (s : Source) (items : Source → Except Fault (List Nat × Source)) :
        Except Fault (Nat × Source) := do
      let node := Node.list (p.collectionTag .list)
      let (number, s) ← s.openAt p.anchor (node [])
      let (members, s) ← items s
      return (number, s.close number (node members))
    let readMapping (s : Source) (entries : Source → Except Fault (List (Nat × Nat) × Source)) :
        Except Fault (Nat × Source) := do
      let node := Node.mapping (p.collectionTag .mapping)
      let (number, s) ← s.openAt p.anchor (node [])
      let (members, s) ← entries s
      return (number, s.close number (node members))
    match position, ← s.peek with
    | .belowKey, some .item => readList s (readLooseItems h fuel)
    | _, some (.scalar codes isPlain) => s.skip.add p.anchor (p.scalar codes isPlain)
    | _, some .openList => readList s.skip (readFlowItems h fuel true)
    | _, some .openMapping => readMapping s.skip (readFlowEntries h fuel true)
    | .block, some .openBlockList | .belowKey, some .openBlockList =>
      readList s.skip (readItems h fuel)
    | .block, some .openBlockMapping | .belowKey, some .openBlockMapping =>
      readMapping s.skip (readEntries h fuel)
    | _, _ =>
      if p.isEmpty then Offence.unexpectedToken.raise
      else s.add p.anchor (p.scalar [] p.tag.isNone)

def readItems (h : Handles) (fuel : Nat) (s : Source) : Except Fault (List Nat × Source) :=
  match fuel with
  | 0 => .error .tooDeep
  | fuel + 1 => do
    match ← s.peek with
    | some .item =>
      let (n, s) ← s.skip.readUnless endsItem (read h fuel .block)
      let (items, s) ← readItems h fuel s
      return (n :: items, s)
    | some .closeBlock => return ([], s.skip)
    | _ => Offence.unexpectedToken.raise

/-- Reads the items of a list below a key, which no token closes. -/
def readLooseItems (h : Handles) (fuel : Nat) (s : Source) : Except Fault (List Nat × Source) :=
  match fuel with
  | 0 => .error .tooDeep
  | fuel + 1 => do
    match ← s.peek with
    | some .item =>
      let isMissing (next : Option Token) := endsItem next || endsBlockEntry next
      let (n, s) ← s.skip.readUnless isMissing (read h fuel .block)
      let (items, s) ← readLooseItems h fuel s
      return (n :: items, s)
    | _ => return ([], s)

def readEntries (h : Handles) (fuel : Nat) (s : Source) :
    Except Fault (List (Nat × Nat) × Source) :=
  match fuel with
  | 0 => .error .tooDeep
  | fuel + 1 => do
    match ← s.peek with
    | some .key =>
      let (k, s) ← s.skip.readUnless endsBlockEntry (read h fuel .belowKey)
      let (v, s) ← s.readValueUnless endsBlockEntry (read h fuel .belowKey)
      let (entries, s) ← readEntries h fuel s
      return ((k, v) :: entries, s)
    | some .closeBlock => return ([], s.skip)
    | _ => Offence.unexpectedToken.raise

/-- Reads the items of a list in brackets; an item with a key is a mapping of one entry. -/
def readFlowItems (h : Handles) (fuel : Nat) (first : Bool) (s : Source) :
    Except Fault (List Nat × Source) :=
  match fuel with
  | 0 => .error .tooDeep
  | fuel + 1 => do
    if (← s.peek) == some .closeList then return ([], s.skip)
    let s ← s.afterComma first
    match ← s.peek with
    | some .closeList => return ([], s.skip)
    | some .key =>
      let (n, s) ← s.skip.openAt none (.mapping .mapping [])
      let (k, s) ← s.readUnless (endsFlowKey .closeList) (read h fuel .flow)
      let (v, s) ← s.readValueUnless (endsFlowValue .closeList) (read h fuel .flow)
      let (items, s) ← readFlowItems h fuel false (s.close n (.mapping .mapping [(k, v)]))
      return (n :: items, s)
    | _ =>
      let (n, s) ← read h fuel .flow s
      let (items, s) ← readFlowItems h fuel false s
      return (n :: items, s)

/-- Reads the entries of a mapping in braces; a node without a colon is a key without a value. -/
def readFlowEntries (h : Handles) (fuel : Nat) (first : Bool) (s : Source) :
    Except Fault (List (Nat × Nat) × Source) :=
  match fuel with
  | 0 => .error .tooDeep
  | fuel + 1 => do
    if (← s.peek) == some .closeMapping then return ([], s.skip)
    let s ← s.afterComma first
    match ← s.peek with
    | some .closeMapping => return ([], s.skip)
    | some .key =>
      let (k, s) ← s.skip.readUnless (endsFlowKey .closeMapping) (read h fuel .flow)
      let (v, s) ← s.readValueUnless (endsFlowValue .closeMapping) (read h fuel .flow)
      let (entries, s) ← readFlowEntries h fuel false s
      return ((k, v) :: entries, s)
    | _ =>
      let (k, s) ← read h fuel .flow s
      let (v, s) := s.addEmpty
      let (entries, s) ← readFlowEntries h fuel false s
      return ((k, v) :: entries, s)

end

def readDirectives (fuel : Nat) (seen : Bool) (handles : Handles) (s : Source) :
    Except Fault (Handles × Source) :=
  match fuel with
  | 0 => .error .tooDeep
  | fuel + 1 => do
    match ← s.peek with
    | some (.directive (.version major _)) =>
      if seen then Offence.repeatedDirective.raise
      else if major ≠ 1 then Offence.unsupportedVersion.raise
      else readDirectives fuel true handles s.skip
    | some (.directive (.handle name expansion)) =>
      if (handles.lookup name).isSome then Offence.repeatedDirective.raise
      else readDirectives fuel seen ((name, expansion) :: handles) s.skip
    | some (.directive .other) => readDirectives fuel seen handles s.skip
    | _ => return (handles ++ standardHandles, s)

def afterEnds (fuel : Nat) (s : Source) : Except Fault Source :=
  match fuel with
  | 0 => .ok s
  | fuel + 1 => do
    match ← s.peek with
    | some .documentEnd => afterEnds fuel s.skip
    | _ => return s

def atDocumentEnd : Option Token → Bool
  | none | some .documentStart | some .documentEnd | some (.directive _) => true
  | _ => false

/-- The fuel for a source: no reader calls more than four others for one token. -/
def fuel (s : Source) : Nat := 4 * s.tokens.length + 8

def checkEnd (s : Source) : Except Fault Unit := do
  let s ← s.afterEnds s.fuel
  if (← s.peek).isSome then
    let _ ← s.readDirectives s.fuel false []
    Offence.unexpectedToken.raise

def readRoot (s : Source) (h : Handles) : Except Fault (Nat × Graph) := do
  let (n, s) ← s.read h s.fuel .block
  s.checkEnd
  return (n, s.graph)

/-- Reads the only document, which may be without a node. Nothing comes out when there is none. -/
def readDocument (s : Source) : Except Fault (Option (Nat × Graph)) := do
  match ← s.peek with
  | none => return none
  | some .documentStart | some (.directive _) =>
    let (h, s) ← s.readDirectives s.fuel false []
    if (← s.peek) != some .documentStart then Offence.unexpectedToken.raise
    if atDocumentEnd (← s.skip.peek) then
      s.skip.checkEnd
      return none
    else return some (← s.skip.readRoot h)
  | _ => return some (← s.readRoot standardHandles)

end Source

end EntitySchema.Yaml
