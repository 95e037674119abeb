import EntitySchema.Proofs.Dict
import EntitySchema.Value.Entries

/-! Mappings with text keys. Setting a key of such a mapping is setting it in a dictionary, so entries
that are set one after the other make the mapping of a dictionary (`ofEntries_text`). -/
namespace EntitySchema

variable {α : Type}

theorem setEntry_of_not_mem {key : String} {value : α} {l : List (String × α)}
    (h : key ∉ l.map Prod.fst) : setEntry key value l = l ++ [(key, value)] := by
  induction l with
  | nil => rfl
  | cons e r ih =>
    simp only [List.map_cons, List.mem_cons, not_or] at h
    rw [setEntry, if_neg (Ne.symm h.1), ih h.2, List.cons_append]

namespace Dict

/-- New keys go to the end, in their order. -/
theorem entries_foldl_insert {l : List (String × α)} {d : Dict α}
    (h : (d.keys ++ l.map Prod.fst).Nodup) :
    (l.foldl (fun d e => d.insert e.1 e.2) d).entries = d.entries ++ l := by
  induction l generalizing d with
  | nil => simp
  | cons e r ih =>
    have hnew : e.1 ∉ d.keys := fun he =>
      (List.nodup_append.mp h).2.2 e.1 he e.1 List.mem_cons_self rfl
    have hentries : (d.insert e.1 e.2).entries = d.entries ++ [e] := setEntry_of_not_mem hnew
    have hnodup : ((d.insert e.1 e.2).keys ++ r.map Prod.fst).Nodup := by
      rw [keys_insert, if_neg hnew, List.append_assoc]
      exact h
    rw [List.foldl_cons, ih hnodup, hentries, List.append_assoc, List.singleton_append]

theorem entries_ofList_of_nodup {l : List (String × α)} (h : (l.map Prod.fst).Nodup) :
    (ofList l).entries = l :=
  entries_foldl_insert (d := empty) h

theorem ofList_entries (d : Dict α) : ofList d.entries = d :=
  ext (entries_ofList_of_nodup d.nodup)

theorem ext_get? {d e : Dict α} (hkeys : d.keys = e.keys) (h : ∀ k, d.get? k = e.get? k) :
    d = e := by
  apply ext
  rw [entries_eq_filterMap, entries_eq_filterMap e, hkeys]
  simp only [h]

theorem insert_of_get? {d : Dict α} {key : String} {value : α} (h : d.get? key = some value) :
    d.insert key value = d := by
  refine ext_get? ?_ fun k => ?_
  · rw [keys_insert, if_pos ((get?_isSome_iff d key).mp (h ▸ rfl))]
  · rw [get?_insert]
    split
    · rename_i hk
      rw [hk, h]
    · rfl

/-- A key that is set twice keeps its place, and others between do not matter to it. -/
theorem foldl_insert_insert {key : String} {l : List (String × α)} (h : key ∉ l.map Prod.fst)
    (d : Dict α) (old new : α) :
    l.foldl (fun d e => d.insert e.1 e.2) (d.insert key new) =
      (l.foldl (fun d e => d.insert e.1 e.2) (d.insert key old)).insert key new := by
  have hsame : (d.insert key new).keys = (d.insert key old).keys := by
    rw [keys_insert, keys_insert]
  have hmem : key ∈ (l.foldl (fun d e => d.insert e.1 e.2) (d.insert key old)).keys := by
    rw [keys_foldl_insert, List.mem_append, keys_insert]
    exact .inl (by split <;> simp [*])
  have hnone : l.reverse.lookup key = none := by
    rw [← Option.not_isSome_iff_eq_none, lookup_isSome_iff, List.map_reverse, List.mem_reverse]
    exact h
  refine ext_get? ?_ fun k => ?_
  · rw [keys_insert, if_pos hmem, keys_foldl_insert, keys_foldl_insert, hsame]
  · simp only [get?_insert, get?_foldl_insert]
    by_cases hk : k = key
    · rw [hk, hnone, if_pos rfl, if_pos rfl, Option.none_or]
    · rw [if_neg hk, if_neg hk, if_neg hk]

end Dict

namespace Value

theorem sameKey_text (s t : String) : (Value.text s).sameKey (.text t) = (s == t) := by
  simp [sameKey]

theorem sameKey_text_iff {k : Value} {s : String} : k.sameKey (.text s) = true ↔ k = .text s := by
  cases k <;> simp [sameKey, sameKey.integer?]

theorem sameKey_broken_iff {k : Value} {codes : List Nat} :
    k.sameKey (.broken codes) = true ↔ k = .broken codes := by
  cases k <;> simp [sameKey, sameKey.integer?]

theorem keys_put (key : Value) (value : α) (l : List (Value × α)) :
    (put key value l).map Prod.fst =
      if l.any (fun e => e.1.sameKey key) then l.map Prod.fst else l.map Prod.fst ++ [key] := by
  induction l with
  | nil => rfl
  | cons e r ih =>
    cases he : e.1.sameKey key with
    | true => simp [put, he]
    | false =>
      rw [put, he, if_neg Bool.false_ne_true, List.map_cons, ih, List.any_cons, he, Bool.false_or]
      split <;> simp

theorem mem_keys_put_of_mem {k key : Value} {value : α} {l : List (Value × α)}
    (h : k ∈ l.map Prod.fst) : k ∈ (put key value l).map Prod.fst := by
  rw [keys_put]
  split
  · exact h
  · exact List.mem_append_left _ h

theorem mem_keys_put_self {key : Value} (hkey : ∀ k : Value, k.sameKey key = true → k = key)
    (value : α) (l : List (Value × α)) : key ∈ (put key value l).map Prod.fst := by
  rw [keys_put]
  split
  · rename_i h
    obtain ⟨e, he, hsame⟩ := List.any_eq_true.mp h
    exact hkey e.1 hsame ▸ List.mem_map_of_mem he
  · simp

/-- A key that is like no other is among those of a mapping that it was set in. -/
theorem mem_keys_ofEntries {key : Value} (hkey : ∀ k : Value, k.sameKey key = true → k = key)
    {l : List (Value × Value)} (h : key ∈ l.map Prod.fst) : key ∈ (ofEntries l).map Prod.fst := by
  have hfold (l m : List (Value × Value)) (h : key ∈ l.map Prod.fst ∨ key ∈ m.map Prod.fst) :
      key ∈ (l.foldl (fun m e => put e.1 e.2 m) m).map Prod.fst := by
    induction l generalizing m with
    | nil => simpa using h
    | cons e r ih =>
      rw [List.foldl_cons]
      apply ih
      rw [List.map_cons, List.mem_cons] at h
      rcases h with (h | h) | h
      · exact .inr (h ▸ mem_keys_put_self (h ▸ hkey) e.2 m)
      · exact .inl h
      · exact .inr (mem_keys_put_of_mem h)
  exact hfold l [] (.inl h)

theorem find?_text (key : String) (l : List (String × Value)) :
    find? (.text key) (l.map fun e => (.text e.1, e.2)) = l.lookup key := by
  induction l with
  | nil => rfl
  | cons e r ih =>
    rw [find?] at ih ⊢
    rw [lookup_cons_if, ← ih, List.map_cons, List.find?_cons, sameKey_text]
    by_cases h : key = e.1
    · rw [if_pos h, beq_iff_eq.mpr h.symm]
      rfl
    · rw [if_neg h, beq_eq_false_iff_ne.mpr (Ne.symm h)]

theorem put_text (key : String) (value : α) (l : List (String × α)) :
    put (.text key) value (l.map fun e => (Value.text e.1, e.2)) =
      (setEntry key value l).map fun e => (Value.text e.1, e.2) := by
  induction l with
  | nil => rfl
  | cons e r ih =>
    by_cases h : e.1 = key
    · simp [put, setEntry, sameKey_text, h]
    · simp [put, setEntry, sameKey_text, h, ih]

theorem ofEntries_text (l : List (String × Value)) :
    ofEntries (l.map fun e => (.text e.1, e.2)) =
      (Dict.ofList l).entries.map fun e => (.text e.1, e.2) := by
  have h (d : Dict Value) : (l.map fun e => (Value.text e.1, e.2)).foldl (fun m e => put e.1 e.2 m)
      (d.entries.map fun e => (.text e.1, e.2)) =
      (l.foldl (fun d e => d.insert e.1 e.2) d).entries.map fun e => (.text e.1, e.2) := by
    induction l generalizing d with
    | nil => rfl
    | cons e r ih =>
      rw [List.map_cons, List.foldl_cons, List.foldl_cons, put_text]
      exact ih (d.insert e.1 e.2)
  exact h .empty

theorem ofEntries_text_of_nodup {l : List (String × Value)} (h : (l.map Prod.fst).Nodup) :
    ofEntries (l.map fun e => (.text e.1, e.2)) = l.map fun e => (.text e.1, e.2) := by
  rw [ofEntries_text, Dict.entries_ofList_of_nodup h]

def IsDistinct (m : List (Value × Value)) : Prop :=
  (m.map Prod.fst).Pairwise fun a b => a.sameKey b = false

variable {m n : List (Value × Value)}

theorem IsDistinct.put (h : IsDistinct m) (key v : Value) : IsDistinct (put key v m) := by
  rw [IsDistinct, keys_put]
  split
  · exact h
  · rename_i hnew
    refine List.pairwise_append.mpr ⟨h, List.pairwise_singleton _ _, fun a ha b hb => ?_⟩
    obtain ⟨e, he, rfl⟩ := List.mem_map.mp ha
    rw [List.mem_singleton.mp hb, ← Bool.not_eq_true]
    exact fun hsame => hnew (List.any_eq_true.mpr ⟨e, he, hsame⟩)

theorem put_of_new {key : Value} (h : ∀ e ∈ m, e.1.sameKey key = false) (v : Value) :
    Value.put key v m = m ++ [(key, v)] := by
  induction m with
  | nil => rfl
  | cons e r ih =>
    rw [List.forall_mem_cons] at h
    rw [Value.put, h.1, if_neg Bool.false_ne_true, ih h.2, List.cons_append]

theorem ofEntries_of_isDistinct (h : IsDistinct m) : ofEntries m = m := by
  have hfold (l m : List (Value × Value)) (h : IsDistinct (m ++ l)) :
      l.foldl (fun m e => Value.put e.1 e.2 m) m = m ++ l := by
    induction l generalizing m with
    | nil => simp
    | cons e r ih =>
      have hnew : ∀ d ∈ m, d.1.sameKey e.1 = false := by
        intro d hd
        rw [IsDistinct, List.map_append, List.pairwise_append] at h
        exact h.2.2 d.1 (List.mem_map_of_mem hd) e.1 (List.mem_map_of_mem List.mem_cons_self)
      rw [List.foldl_cons, put_of_new hnew, ih, List.append_assoc, List.singleton_append]
      rwa [List.append_assoc, List.singleton_append]
  exact hfold m [] h

theorem IsDistinct.addElement (h : IsDistinct m) {element : Value × Nat}
    (hadd : addElement m element = .ok n) : IsDistinct n := by
  rw [Value.addElement] at hadd
  split at hadd
  · cases hadd
  · split at hadd
    · cases hadd
    · cases hadd
      exact h.put _ _
  · cases hadd

theorem isDistinct_of_entries? {v : Value} (h : entries? v = .ok m) : IsDistinct m := by
  have hempty : IsDistinct [] := List.Pairwise.nil
  have hmapping (l m : List (Value × Value)) (h : IsDistinct m) :
      IsDistinct (l.foldl (fun m e => Value.put e.1 e.2 m) m) := by
    induction l generalizing m with
    | nil => exact h
    | cons e r ih => exact ih _ (h.put e.1 e.2)
  have hitems (items : List (Value × Nat)) (base : List (Value × Value)) (hbase : IsDistinct base)
      (hadd : items.foldlM Value.addElement base = .ok m) : IsDistinct m := by
    induction items generalizing base with
    | nil =>
      cases hadd
      exact hbase
    | cons e r ih =>
      rw [List.foldlM_cons] at hadd
      cases hfirst : Value.addElement base e with
      | error f =>
        rw [hfirst] at hadd
        cases hadd
      | ok b =>
        rw [hfirst] at hadd
        exact ih b (hbase.addElement hfirst) hadd
  rw [entries?, addEntries] at h
  split at h
  · cases h
    exact hmapping _ _ hempty
  · split at h
    · cases h
    · exact hitems _ [] hempty h

end Value

end EntitySchema
