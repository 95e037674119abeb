import EntitySchema.Value

/-! Mappings from whatever is made of pairs. Main statement: the entries of a mapping are the mapping
again (`entries?_mapping`). -/
namespace EntitySchema.Value

inductive EntriesFault where
  /-- An element that should be a pair has another number of members. -/
  | wrongLength (index length : Nat)
  | noSequence (index : Nat)
  | noIterable (kind : String)
  | unusableKey (kind : String)
  deriving DecidableEq, Repr

def EntriesFault.message : EntriesFault → String
  | .wrongLength index length => "dictionary update sequence element #" ++ toString index ++
      " has length " ++ toString length ++ "; 2 is required"
  | .noSequence index =>
    "cannot convert dictionary update sequence element #" ++ toString index ++ " to a sequence"
  | .noIterable kind => "'" ++ kind ++ "' object is not iterable"
  | .unusableKey kind => "unhashable type: '" ++ kind ++ "'"

def addElement (base : List (Value × Value)) (element : Value × Nat) :
    Except EntriesFault (List (Value × Value)) :=
  match element.1.members? with
  | none => .error (.noSequence element.2)
  | some [k, v] => match k.unusableKind? with
    | some kind => .error (.unusableKey kind)
    | none => .ok (put k v base)
  | some other => .error (.wrongLength element.2 other.length)

/-- Adds the entries of a mapping, or of anything else that is made of pairs. -/
def addEntries (base : List (Value × Value)) (v : Value) :
    Except EntriesFault (List (Value × Value)) :=
  match v.untied with
  | .mapping m => .ok (m.foldl (fun b e => put e.1 e.2 b) base)
  | v => match v.members? with
    | none => .error (.noIterable v.qualifiedKind)
    | some items => items.zipIdx.foldlM addElement base

def entries? (v : Value) : Except EntriesFault (List (Value × Value)) := addEntries [] v

theorem entries?_mapping (m : List (Value × Value)) :
    entries? (.mapping m) = .ok (ofEntries m) := rfl

end EntitySchema.Value
