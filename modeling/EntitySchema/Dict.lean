/-! Dictionaries with text keys that keep the order in which the keys came. Main statement: setting
a key keeps the list of keys, or adds the key at its end (`keys_insert`). -/
namespace EntitySchema

variable {κ α β : Type} [DecidableEq κ]

/-- Sets a key in a list of entries: a known key keeps its place, a new one goes to the end. -/
def setEntry (key : κ) (value : α) : List (κ × α) → List (κ × α)
  | [] => [(key, value)]
  | e :: r => if e.1 = key then (key, value) :: r else e :: setEntry key value r

theorem keys_setEntry (key : κ) (value : α) (l : List (κ × α)) :
    (setEntry key value l).map Prod.fst =
      if key ∈ l.map Prod.fst then l.map Prod.fst else l.map Prod.fst ++ [key] := by
  induction l with
  | nil => simp [setEntry]
  | cons e r ih =>
    by_cases h : e.1 = key
    · simp [setEntry, h]
    · by_cases hr : key ∈ r.map Prod.fst <;> simp_all [setEntry, Ne.symm h]

theorem setEntry_setEntry (key : κ) (old new : α) (l : List (κ × α)) :
    setEntry key new (setEntry key old l) = setEntry key new l := by
  induction l with
  | nil => simp [setEntry]
  | cons e r ih => by_cases he : e.1 = key <;> simp [setEntry, he, ih]

/-- Entries in order, no key twice. -/
structure Dict (α : Type) where
  entries : List (String × α)
  nodup : (entries.map Prod.fst).Nodup
  deriving DecidableEq, Repr

namespace Dict

def empty : Dict α := ⟨[], List.nodup_nil⟩

instance : Inhabited (Dict α) := ⟨empty⟩

def keys (d : Dict α) : List String := d.entries.map Prod.fst

def values (d : Dict α) : List α := d.entries.map Prod.snd

def size (d : Dict α) : Nat := d.entries.length

def isEmpty (d : Dict α) : Bool := d.entries.isEmpty

def get? (d : Dict α) (key : String) : Option α := d.entries.lookup key

def contains (d : Dict α) (key : String) : Bool := d.keys.contains key

def insert (d : Dict α) (key : String) (value : α) : Dict α where
  entries := setEntry key value d.entries
  nodup := by
    rw [keys_setEntry]
    split
    · exact d.nodup
    · rename_i h
      exact List.nodup_append.2 ⟨d.nodup, by simp, by
        intro a ha b hb e
        simp only [List.mem_singleton] at hb
        exact h (hb ▸ e ▸ ha)⟩

theorem keys_insert (d : Dict α) (key : String) (value : α) :
    (d.insert key value).keys = if key ∈ d.keys then d.keys else d.keys ++ [key] :=
  keys_setEntry key value d.entries

def ofList (l : List (String × α)) : Dict α := l.foldl (fun d e => d.insert e.1 e.2) empty

def modify (d : Dict α) (key : String) (f : α → α) : Dict α where
  entries := d.entries.map fun e => if e.1 = key then (e.1, f e.2) else e
  nodup := by
    have h : (d.entries.map fun e => if e.1 = key then (e.1, f e.2) else e).map Prod.fst =
        d.entries.map Prod.fst := by
      rw [List.map_map]
      exact List.map_congr_left fun e _ => by simp only [Function.comp]; split <;> rfl
    rw [h]
    exact d.nodup

def map (d : Dict α) (f : String → α → β) : Dict β where
  entries := d.entries.map fun e => (e.1, f e.1 e.2)
  nodup := by
    have h : (d.entries.map fun e => (e.1, f e.1 e.2)).map Prod.fst = d.entries.map Prod.fst := by
      rw [List.map_map]
      rfl
    rw [h]
    exact d.nodup

end Dict

end EntitySchema
