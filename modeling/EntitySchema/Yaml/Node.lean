import EntitySchema.Yaml.Tag

/-! The nodes of a document. Aliases make them a graph: collections refer to their members by number,
and may be members of themselves. -/
namespace EntitySchema.Yaml

inductive NodeTag where
  | scalar (t : Tag)
  | bytes
  | list
  | mapping
  | set
  /-- A list of mappings with one entry each. -/
  | pairs
  | other (name : String)
  deriving DecidableEq, Repr

namespace NodeTag

def family : String := "tag:yaml.org,2002:"

def table : List (String × NodeTag) := [
  ("str", scalar .text), ("null", scalar .null), ("bool", scalar .bool), ("int", scalar .int),
  ("float", scalar .float), ("timestamp", scalar .timestamp), ("merge", scalar .merge),
  ("value", scalar .value), ("binary", bytes), ("seq", list), ("map", mapping), ("set", set),
  ("omap", pairs), ("pairs", pairs)]

def ofName (name : String) : NodeTag :=
  ((table.find? fun e => family ++ e.1 == name).map (·.2)).getD (other name)

end NodeTag

inductive Node where
  | scalar (tag : NodeTag) (codes : List Nat)
  | list (tag : NodeTag) (items : List Nat)
  | mapping (tag : NodeTag) (entries : List (Nat × Nat))
  deriving DecidableEq, Repr

namespace Node

def empty : Node := .scalar (.scalar .null) []

def tag : Node → NodeTag
  | .scalar t _ | .list t _ | .mapping t _ => t

def withTag (t : NodeTag) : Node → Node
  | .scalar _ codes => .scalar t codes
  | .list _ items => .list t items
  | .mapping _ entries => .mapping t entries

end Node

structure Graph where
  nodes : Array Node := #[]
  deriving Repr

namespace Graph

def size (g : Graph) : Nat := g.nodes.size

def get (g : Graph) (n : Nat) : Node := g.nodes.getD n .empty

def add (g : Graph) (n : Node) : Graph × Nat := (⟨g.nodes.push n⟩, g.size)

def set (g : Graph) (n : Nat) (node : Node) : Graph := ⟨g.nodes.setIfInBounds n node⟩

def entries (g : Graph) (n : Nat) : List (Nat × Nat) :=
  match g.get n with
  | .mapping _ entries => entries
  | _ => []

def entryCount (g : Graph) : Nat :=
  g.nodes.foldl (fun count node => match node with
    | .mapping _ entries => count + entries.length
    | _ => count) 0

end Graph

end EntitySchema.Yaml
