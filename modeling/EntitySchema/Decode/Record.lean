import EntitySchema.Decode.Scalar

/-! Decoding of mappings with fixed keys, each of which has two spellings. -/
namespace EntitySchema.Decode

/-- A key and its other spelling, in camel case, which is looked up first. -/
structure Key where
  name : String
  camel : String
  deriving DecidableEq, Repr

namespace Key

def spellings (k : Key) : List String := [k.camel, k.name]

/-- The value of a key, under the spelling that was found first. -/
def find? (k : Key) (entries : List (Value × Value)) : Option (String × Value) :=
  k.spellings.findSome? fun s => (Value.find? (.text s) entries).map fun v => (s, v)

/-- Decodes the value of a key; without one the default holds, or the key is missing. -/
def decode {α : Type} (k : Key) (entries : List (Value × Value)) (default : Option α)
    (f : Value → Except Complaint α) : Checked α :=
  match k.find? entries, default with
  | some (spelling, v), _ => Checked.below (.key spelling) (.ofComplaint (f v))
  | none, some a => .ok a
  | none, none => .error [⟨[.key k.camel], .missing⟩]

end Key

/-- A key as a step of a path: a text, an integer of sixty-four bits, or the text of anything
else. Each octet of half a surrogate pair is shown as one that is unknown. -/
def stepTo : Value → Step
  | .text s => .key s
  | .broken codes => .key <| String.ofList <| codes.flatMap fun n =>
      if Nat.isValidChar n then [Char.ofNat n] else List.replicate 3 (Char.ofNat 0xfffd)
  | .bool b => .index (if b then 1 else 0)
  | .int n => if isWord n then .index n else .key (toString n)
  | v => .key v.display

/-- Problems for all keys that decode nothing: unknown ones, and second spellings. -/
def extras (keys : List Key) (entries : List (Value × Value)) : List Problem :=
  let used := keys.filterMap fun k => (k.find? entries).map (·.1)
  entries.filterMap fun e =>
    match e.1 with
    | .text s => if used.contains s then none else some ⟨[.key s], .unknownKey⟩
    | k => some ⟨[stepTo k], .keyNotText⟩

end EntitySchema.Decode
