import EntitySchema.Yaml.Node.Merge
import EntitySchema.Yaml.Node.Scalar

/-! What nodes are made into. A collection is made empty, and filled when all that came before it is
filled, so that it may be among its own members; what is wrong with its members shows only then. -/
namespace EntitySchema.Yaml

/-- What a node is made into. Collections refer to their members by the numbers of the nodes. -/
inductive Made where
  | scalar (v : Value)
  | list (items : List Nat)
  | pairs (items : List (Nat × Nat))
  | set (members : List Value)
  | mapping (entries : List (Value × Nat))
  deriving Repr

/-- The text of a scalar; a mapping may give one under the key `=`. `fuel` bounds the number of
mappings on the way to it. -/
def Graph.textOf (g : Graph) : Nat → Nat → Except Fault (List Nat)
  | 0, _ => .error .tooDeep
  | fuel + 1, n =>
    match g.get n with
    | .scalar _ codes => .ok codes
    | .mapping _ entries =>
      match entries.find? fun e => (g.get e.1).tag == .scalar .value with
      | some (_, v) => textOf g fuel v
      | none => Offence.wrongKind.raise
    | .list _ _ => Offence.wrongKind.raise

/-- What is made so far, and the collections that are to be filled. -/
structure Build where
  graph : Graph
  made : Array (Option Made)
  /-- The collections to fill next, and those to fill after them, the last one first. -/
  next : List Nat := []
  later : List Nat := []

namespace Build

def ofGraph (g : Graph) : Build := { graph := g, made := Array.replicate g.size none }

def get? (b : Build) (n : Nat) : Option Made := (b.made[n]?).join

def set (b : Build) (n : Nat) (m : Made) : Build := { b with made := b.made.setIfInBounds n (some m) }

def defer (b : Build) (n : Nat) (m : Made) : Build :=
  { b.set n m with later := n :: b.later }

def setScalar (b : Build) (n : Nat) (read : List Nat → Except Fault Value) : Except Fault Build := do
  let codes ← b.graph.textOf (b.graph.size + 1) n
  return b.set n (.scalar (← read codes))

/-- Makes a node into what its tag says, unless that is done. -/
def make (b : Build) (n : Nat) : Except Fault Build :=
  if (b.get? n).isSome then .ok b
  else match (b.graph.get n).tag, b.graph.get n with
    | .scalar .timestamp, .mapping _ _ => b.setScalar n fun _ => .error .timestampMapping
    | .scalar t, _ => b.setScalar n t.valueOf
    | .bytes, _ => b.setScalar n bytesOf
    | .list, _ => .ok (b.defer n (.list []))
    | .pairs, _ => .ok (b.defer n (.pairs []))
    | .set, _ => .ok (b.defer n (.set []))
    | .mapping, _ => .ok (b.defer n (.mapping []))
    | .other _, _ => Offence.undefinedTag.raise

/-- Makes an entry of a mapping. Only a scalar can be its key. -/
def makeEntry (b : Build) (e : Nat × Nat) : Except Fault (Value × Build) := do
  let b ← b.make e.1
  match b.get? e.1 with
  | some (.scalar k) => return (k, ← b.make e.2)
  | _ => Offence.unusableKey.raise

def makeEntries (b : Build) (n : Nat) : Except Fault (Build × List (Value × Nat)) := do
  match b.graph.get n with
  | .mapping _ _ =>
    let b := { b with graph := ← b.graph.merge n }
    (b.graph.entries n).foldlM (fun (b, made) e => do
      let (k, b) ← b.makeEntry e
      return (b, Value.put k e.2 made)) (b, [])
  | _ => Offence.wrongKind.raise

def soleEntry (b : Build) (n : Nat) : Except Fault (Nat × Nat) :=
  match b.graph.get n with
  | .mapping _ [e] => .ok e
  | _ => Offence.wrongKind.raise

/-- Members of a set in the order in which they are listed: integers by size. -/
def listed (members : List Value) : List Value :=
  let integers := members.filterMap fun v => match v with
    | .int n => some n
    | _ => none
  if integers.length = members.length then (integers.mergeSort (· ≤ ·)).map .int else members

def fill (b : Build) (n : Nat) : Except Fault Build := do
  match b.get? n, b.graph.get n with
  | some (.list _), .list _ items => return (← items.foldlM make b).set n (.list items)
  | some (.pairs _), .list _ items =>
    let (b, pairs) ← items.foldlM (fun (b, pairs) item => do
      let e ← b.soleEntry item
      return (← (← b.make e.1).make e.2, pairs ++ [e])) (b, [])
    return b.set n (.pairs pairs)
  | some (.set _), _ =>
    let (b, entries) ← b.makeEntries n
    return b.set n (.set (listed (entries.map (·.1))))
  | some (.mapping _), _ =>
    let (b, entries) ← b.makeEntries n
    return b.set n (.mapping entries)
  | _, _ => Offence.wrongKind.raise

def fillAll (fuel : Nat) (b : Build) : Except Fault Build :=
  match fuel with
  | 0 => .ok b
  | fuel + 1 =>
    match b.next, b.later.reverse with
    | n :: r, _ => do fillAll fuel (← { b with next := r }.fill n)
    | [], n :: r => do fillAll fuel (← { b with next := r, later := [] }.fill n)
    | [], [] => .ok b

def run (g : Graph) (root : Nat) : Except Fault Build := do
  fillAll (g.size + 1) (← (ofGraph g).make root)

end Build

end EntitySchema.Yaml
