import EntitySchema.Yaml.Fault
import EntitySchema.Yaml.Node

/-! Merge keys. A mapping that has one takes in the entries of the mappings that stand behind it, in
front of its own. As mappings may merge each other, the graph itself is changed. -/
namespace EntitySchema.Yaml.Graph

def isMergeKey (g : Graph) (key : Nat) : Bool := (g.get key).tag == .scalar .merge

/-- The sign `=` as a key is a text. -/
def asKey (g : Graph) (key : Nat) : Graph :=
  if (g.get key).tag == .scalar .value then
    g.set key ((g.get key).withTag (.scalar .text))
  else g

def withEntries (g : Graph) (n : Nat) (entries : List (Nat × Nat)) : Graph :=
  match g.get n with
  | .mapping t _ => g.set n (.mapping t entries)
  | _ => g

mutual

/-- Merges into the mapping `n`, with `given` as the entries that it takes in so far. `fuel` bounds
the number of merge keys. -/
def mergeInto (fuel : Nat) (g : Graph) (n : Nat) (given : List (Nat × Nat)) : Except Fault Graph :=
  match fuel with
  | 0 => .ok g
  | fuel + 1 =>
    match (g.entries n).span fun e => !g.isMergeKey e.1 with
    | (own, []) =>
      let g := own.foldl (fun g e => g.asKey e.1) g
      .ok (g.withEntries n (given ++ own))
    | (before, (_, v) :: after) => do
      let (g, entries) ← takeFrom fuel (g.withEntries n (before ++ after)) v
      mergeInto fuel g n (given ++ entries)

/-- The entries that a mapping, or a list of mappings, gives to one that merges it. Of a list the
last comes first, so that the first counts. -/
def takeFrom (fuel : Nat) (g : Graph) (n : Nat) : Except Fault (Graph × List (Nat × Nat)) :=
  match fuel with
  | 0 => .ok (g, [])
  | fuel + 1 =>
    match g.get n with
    | .mapping _ _ => do
      let g ← mergeInto fuel g n []
      return (g, g.entries n)
    | .list _ items => items.foldlM (fun (g, later) item =>
        match g.get item with
        | .mapping _ _ => do
          let g ← mergeInto fuel g item []
          return (g, g.entries item ++ later)
        | _ => Offence.unusableMerge.raise) (g, [])
    | .scalar _ _ => Offence.unusableMerge.raise

end

def merge (g : Graph) (n : Nat) : Except Fault Graph :=
  mergeInto (2 * g.entryCount + 2) g n []

end EntitySchema.Yaml.Graph
