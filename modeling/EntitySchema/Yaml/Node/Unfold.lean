import EntitySchema.Yaml.Node.Build

/-! Values from what nodes are made into. A collection that is a part of itself is unfolded a few times
over; all others are unfolded once, however often they are referred to. -/
namespace EntitySchema.Yaml.Build

/-- How often a collection may stand within itself. -/
def unfoldings : Nat := 2

structure Unfolding where
  known : Array (Option Value)

/-- A value, and the collections around it to which it refers. -/
structure Part where
  value : Value
  around : List Nat := []

def emptied : Option Made → Value
  | some (.mapping _) => .mapping []
  | some (.set _) => .set []
  | _ => .list []

def unfoldAll {α : Type} (unfold : Unfolding → α → Part × Unfolding) (u : Unfolding) :
    List α → List Value × List Nat × Unfolding
  | [] => ([], [], u)
  | a :: r =>
    let (p, u) := unfold u a
    let (values, around, u) := unfoldAll unfold u r
    (p.value :: values, p.around ++ around, u)

/-- The value of a node that lies within the collections `path`; `fuel` bounds their number. -/
def unfold (b : Build) : Nat → List Nat → Unfolding → Nat → Part × Unfolding
  | 0, _, u, n => (⟨emptied (b.get? n), []⟩, u)
  | fuel + 1, path, u, n =>
    match (u.known[n]?).join with
    | some v => (⟨v, []⟩, u)
    | none =>
      if unfoldings ≤ path.count n then (⟨.knot n (emptied (b.get? n)), [n]⟩, u)
      else
        let inner := unfold b fuel (n :: path)
        let (value, around, u) : Value × List Nat × Unfolding := match b.get? n with
          | some (.scalar v) => (v, [], u)
          | some (.set members) => (.set members, [], u)
          | some (.list items) =>
            let (values, around, u) := unfoldAll inner u items
            (.list values, around, u)
          | some (.mapping entries) =>
            let (values, around, u) := unfoldAll inner u (entries.map (·.2))
            (.mapping ((entries.map (·.1)).zip values), around, u)
          | some (.pairs items) =>
            let (values, around, u) := unfoldAll (fun u (e : Nat × Nat) =>
              let (k, u) := inner u e.1
              let (v, u) := inner u e.2
              (⟨.pair k.value v.value, k.around ++ v.around⟩, u)) u items
            (.list values, around, u)
          | none => (.null, [], u)
        let value := if n ∈ around then .knot n value else value
        let around := if path.contains n then around else around.filter (· != n)
        if around = [] then (⟨value, []⟩, ⟨u.known.setIfInBounds n (some value)⟩)
        else (⟨value, around.eraseDups⟩, u)

def value (b : Build) (root : Nat) : Value :=
  (b.unfold ((unfoldings + 1) * b.made.size + 1) [] ⟨Array.replicate b.made.size none⟩ root).1.value

end EntitySchema.Yaml.Build
