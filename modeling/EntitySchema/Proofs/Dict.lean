import EntitySchema.Dict
import Mathlib.Data.List.Basic

/-! Look-ups in dictionaries after each way of change. Main statement: a dictionary that is built
entry by entry has its keys in the order of their first entries, each with the value of its last
(`entries_ofList`). -/
namespace EntitySchema

variable {κ α β : Type} [BEq κ] [LawfulBEq κ]

/-- The keys of a list in the order of their first entries, each with the value of its last. -/
def lastEntries (l : List (String × α)) : List (String × α) :=
  (l.map Prod.fst).eraseDups.filterMap fun key => (l.reverse.lookup key).map (key, ·)

theorem lookup_cons_if [DecidableEq κ] (k : κ) (e : κ × α) (r : List (κ × α)) :
    (e :: r).lookup k = if k = e.1 then some e.2 else r.lookup k := by
  rw [List.lookup_cons]
  by_cases h : k = e.1
  · simp [h]
  · simp [h, beq_eq_false_iff_ne.mpr h]

theorem lookup_setEntry [DecidableEq κ] (key k : κ) (value : α) (l : List (κ × α)) :
    (setEntry key value l).lookup k = if k = key then some value else l.lookup k := by
  induction l with
  | nil => simp [setEntry, lookup_cons_if]
  | cons e r ih =>
    by_cases he : e.1 = key
    · by_cases h : k = key <;> simp [setEntry, lookup_cons_if, he, h]
    · by_cases hk : k = e.1
      · simp [setEntry, lookup_cons_if, hk, he]
      · simp [setEntry, lookup_cons_if, hk, he, ih]

theorem lookup_isSome_iff (k : String) (l : List (String × α)) :
    (l.lookup k).isSome ↔ k ∈ l.map Prod.fst := by
  induction l with
  | nil => simp
  | cons e r ih =>
    by_cases hk : k = e.1
    · simp [lookup_cons_if, hk]
    · simp only [lookup_cons_if, hk, if_false, ih, List.map_cons, List.mem_cons, false_or]

theorem mem_of_lookup {k : String} {v : α} {l : List (String × α)} (h : l.lookup k = some v) :
    (k, v) ∈ l := by
  induction l with
  | nil => simp at h
  | cons e r ih =>
    rw [lookup_cons_if] at h
    by_cases hk : k = e.1
    · rw [if_pos hk, Option.some.injEq] at h
      exact hk ▸ h ▸ List.mem_cons_self
    · rw [if_neg hk] at h
      exact List.mem_cons_of_mem e (ih h)

/-- A look-up among pairs made of members finds the first member with that key. -/
theorem lookup_map (key : β → String) (value : β → α) (k : String) (l : List β) :
    (l.map fun b => (key b, value b)).lookup k = (l.find? (key · == k)).map value := by
  induction l with
  | nil => rfl
  | cons b l ih =>
    by_cases h : k = key b
    · simp [h]
    · have hb : (key b == k) = false := by simp [Ne.symm h]
      simp [lookup_cons_if, h, hb, ih]

theorem mem_iff_lookup {l : List (String × α)} (h : (l.map Prod.fst).Nodup) (k : String) (v : α) :
    (k, v) ∈ l ↔ l.lookup k = some v := by
  induction l with
  | nil => simp
  | cons e r ih =>
    obtain ⟨key, value⟩ := e
    simp only [List.map_cons, List.nodup_cons] at h
    by_cases hk : k = key
    · subst hk
      have hr : (k, v) ∉ r := fun hm => h.1 (List.mem_map_of_mem hm)
      simp [hr, eq_comm]
    · simp only [List.mem_cons, Prod.mk.injEq, hk, false_and, false_or, lookup_cons_if, if_false,
        ih h.2]

namespace Dict

theorem ext {d e : Dict α} (h : d.entries = e.entries) : d = e := by
  cases d
  cases e
  simp_all

@[simp] theorem keys_empty : (empty : Dict α).keys = [] := rfl

@[simp] theorem get?_empty (k : String) : (empty : Dict α).get? k = none := rfl

@[simp] theorem keys_map (d : Dict α) (f : String → α → β) : (d.map f).keys = d.keys := by
  simp [keys, map, Function.comp_def]

@[simp] theorem map_id (d : Dict α) : (d.map fun _ v => v) = d := ext (List.map_id' d.entries)

theorem map_map {γ : Type} (d : Dict α) (f : String → α → β) (g : String → β → γ) :
    (d.map f).map g = d.map fun k v => g k (f k v) :=
  ext (by simp [map])

theorem get?_map (d : Dict α) (f : String → α → β) (k : String) :
    (d.map f).get? k = (d.get? k).map (f k) := by
  have h (l : List (String × α)) :
      (l.map fun e => (e.1, f e.1 e.2)).lookup k = (l.lookup k).map (f k) := by
    induction l with
    | nil => rfl
    | cons e r ih => by_cases hk : k = e.1 <;> simp [lookup_cons_if, hk, ih]
  exact h d.entries

theorem get?_insert (d : Dict α) (key k : String) (value : α) :
    (d.insert key value).get? k = if k = key then some value else d.get? k :=
  lookup_setEntry key k value d.entries

theorem insert_insert (d : Dict α) (key : String) (old new : α) :
    (d.insert key old).insert key new = d.insert key new :=
  ext (setEntry_setEntry key old new d.entries)

@[simp] theorem contains_iff (d : Dict α) (k : String) : d.contains k = true ↔ k ∈ d.keys := by
  simp [contains]

theorem get?_isSome_iff (d : Dict α) (k : String) : (d.get? k).isSome ↔ k ∈ d.keys :=
  lookup_isSome_iff k d.entries

theorem mem_entries_iff (d : Dict α) (k : String) (v : α) :
    (k, v) ∈ d.entries ↔ d.get? k = some v :=
  mem_iff_lookup d.nodup k v

/-- A change that looks its key up first is a change of that value alone. -/
theorem modify_get? (d : Dict α) (key : String) (f : α → α) (other : α) :
    (d.modify key fun _ => f ((d.get? key).getD other)) =
      d.map fun k v => if k = key then f v else v := by
  apply ext
  simp only [modify, map]
  apply List.map_congr_left
  intro e he
  by_cases h : e.1 = key
  · have hv : d.get? key = some e.2 := by
      rw [← h]
      exact (d.mem_entries_iff e.1 e.2).mp he
    simp [h, hv]
  · simp [h]

theorem entries_eq_filterMap (d : Dict α) :
    d.entries = d.keys.filterMap fun k => (d.get? k).map (k, ·) := by
  have h : ∀ e ∈ d.entries, (d.get? e.1).map (e.1, ·) = some e := by
    intro e he
    rw [(d.mem_entries_iff e.1 e.2).mp he, Option.map_some]
  calc d.entries = d.entries.filterMap some := List.filterMap_some.symm
    _ = d.entries.filterMap fun e => (d.get? e.1).map (e.1, ·) :=
      List.filterMap_congr fun e he => (h e he).symm
    _ = d.keys.filterMap fun k => (d.get? k).map (k, ·) := by
      rw [keys, List.filterMap_map, Function.comp_def]

theorem keys_foldl_insert (l : List (String × α)) (d : Dict α) :
    (l.foldl (fun d e => d.insert e.1 e.2) d).keys =
      d.keys ++ ((l.map Prod.fst).removeAll d.keys).eraseDups := by
  induction l generalizing d with
  | nil => simp [List.removeAll]
  | cons e r ih =>
    rw [List.foldl_cons, ih, keys_insert, List.map_cons, List.cons_removeAll]
    by_cases he : e.1 ∈ d.keys
    · simp [he]
    · have hr : ((r.map Prod.fst).removeAll d.keys).filter (fun k => !k == e.1) =
          (r.map Prod.fst).removeAll (d.keys ++ [e.1]) := by
        simp only [List.removeAll, List.filter_filter]
        apply List.filter_congr
        intro k _
        by_cases h : k = e.1 <;> simp [h]
      simp [he, List.eraseDups_cons, hr]

theorem get?_foldl_insert (l : List (String × α)) (d : Dict α) (k : String) :
    (l.foldl (fun d e => d.insert e.1 e.2) d).get? k = (l.reverse.lookup k).or (d.get? k) := by
  induction l generalizing d with
  | nil => rfl
  | cons e r ih =>
    rw [List.foldl_cons, ih, get?_insert, List.reverse_cons, List.lookup_append, Option.or_assoc,
      lookup_cons_if]
    by_cases h : k = e.1 <;> simp [h]

theorem keys_ofList (l : List (String × α)) : (ofList l).keys = (l.map Prod.fst).eraseDups := by
  simp [ofList, keys_foldl_insert]

theorem get?_ofList (l : List (String × α)) (k : String) : (ofList l).get? k = l.reverse.lookup k := by
  rw [ofList, get?_foldl_insert, get?_empty, Option.or_none]

theorem mem_of_mem_ofList {l : List (String × α)} {e : String × α} (h : e ∈ (ofList l).entries) :
    e ∈ l := by
  rw [mem_entries_iff, get?_ofList] at h
  exact List.mem_reverse.mp (mem_of_lookup h)

theorem entries_ofList (l : List (String × α)) : (ofList l).entries = lastEntries l := by
  rw [entries_eq_filterMap, keys_ofList]
  simp only [get?_ofList, lastEntries]

def last (l : List (String × α)) : Dict α where
  entries := lastEntries l
  nodup := by
    rw [← entries_ofList]
    exact (ofList l).nodup

theorem ofList_eq_last (l : List (String × α)) : ofList l = last l := ext (entries_ofList l)

theorem map_insert (d : Dict α) (key : String) (value : α) (f : String → α → β) :
    (d.insert key value).map f = (d.map f).insert key (f key value) := by
  have h (l : List (String × α)) : (setEntry key value l).map (fun e => (e.1, f e.1 e.2)) =
      setEntry key (f key value) (l.map fun e => (e.1, f e.1 e.2)) := by
    induction l with
    | nil => rfl
    | cons e r ih => by_cases he : e.1 = key <;> simp [setEntry, he, ih]
  exact ext (h d.entries)

theorem map_ofList (l : List (String × α)) (f : String → α → β) :
    (ofList l).map f = ofList (l.map fun e => (e.1, f e.1 e.2)) := by
  rw [ofList, ofList, List.foldl_map]
  exact (List.foldl_hom (map · f) fun d e => (map_insert d e.1 e.2 f).symm).symm

end Dict

end EntitySchema
