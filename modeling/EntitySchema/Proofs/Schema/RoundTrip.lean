import EntitySchema.Proofs.Decode
import EntitySchema.Proofs.Document

/-! Decoding undoes encoding. A field is read back from its entries whichever of its optional parts
are set (`Field.ofValue_toValue`), and a schema from its mapping, in the same order
(`Schema.ofValue_toValue`). -/
namespace EntitySchema

namespace Decode

variable {α β : Type}

theorem listOf_map {f : Value → Checked α} {enc : α → Value} {l : List α}
    (h : ∀ a ∈ l, f (enc a) = .ok a) : listOf f (.list (l.map enc)) = .ok l := by
  have hitems : (l.map enc).zipIdx = l.zipIdx.map fun e => (enc e.1, e.2) := by
    rw [List.zipIdx_map]
    rfl
  have hread : ∀ e ∈ l.zipIdx,
      Checked.below (.index ↑(enc e.1, e.2).2) (f (enc e.1, e.2).1) = .ok e.1 := by
    intro e he
    rw [h e.1 (List.fst_mem_of_mem_zipIdx he), Checked.below_ok]
  rw [listOf, hitems, Checked.mapAll_map hread, List.zipIdx_map_fst]

theorem dictOf_ofDictEntries (enc : α → Value) {f : Value → Checked α} {d : Dict α}
    (h : ∀ e ∈ d.entries, f (enc e.2) = .ok e.2) :
    dictOf f (.ofDictEntries (d.entries.map fun e => (e.1, enc e.2))) = .ok d := by
  rw [Value.ofDictEntries, dictOf, List.map_map]
  rw [Checked.mapAll_map (g := fun e => e)]
  · rw [List.map_id', Except.map, Dict.ofList_entries]
  · intro e he
    simp only [Function.comp_apply, h e he, Checked.below_ok]
    rfl

end Decode

open Decode (Checked Key)

namespace Field

variable (f : Field)

/-- The keys of a field under which there is always something. -/
theorem lookup_entries_of_always :
    f.entries.lookup "name" = some (.text f.name) ∧ f.entries.lookup "type" = some (.text f.type) ∧
      f.entries.lookup "required" = some (.bool f.required) ∧
      f.entries.lookup "nullable" = some (.bool f.nullable) ∧
      f.entries.lookup "isRelationship" = some (.bool f.isRelationship) := by
  simp [entries, lookup_cons_if]

/-- The keys of a field under which there is something where its part is set. -/
theorem lookup_entries_of_optional :
    f.entries.lookup "relationshipType" = f.cardinality.map (fun c => .text c.name) ∧
      f.entries.lookup "targetEntity" = f.target.map .text ∧
      f.entries.lookup "isAudit" = f.isAudit.map .bool ∧
      f.entries.lookup "readOnly" = f.readOnly.map .bool := by
  simp [entries, lookup_cons_if, List.lookup_append, lookup_toList_map]

/-- The keys of a field in the order of its entries. -/
theorem keys_entries_sublist : (f.entries.map Prod.fst).Sublist (keys.map Key.camel) := by
  have hoptional {α : Type} (o : Option α) (key : String) (value : α → Value) :
      ((o.map fun a => (key, value a)).toList.map Prod.fst).Sublist [key] := by
    cases o <;> simp
  simp only [entries, List.map_append]
  exact (((((List.Sublist.refl _).append (hoptional _ _ _)).append (hoptional _ _ _)).append
    (hoptional _ _ _)).append (hoptional _ _ _))

theorem lookup_entries_of_snake {key : String}
    (h : key ∈ ["relationship_type", "target_entity", "is_audit", "read_only"]) :
    f.entries.lookup key = none := by
  rw [← Option.not_isSome_iff_eq_none, lookup_isSome_iff]
  intro hmem
  have hcamel := f.keys_entries_sublist.subset hmem
  revert h hcamel
  exact (by decide : ∀ k ∈ ["relationship_type", "target_entity", "is_audit", "read_only"],
    k ∉ keys.map Key.camel) key

/-- A field is read back from its entries, whichever of its optional parts are set. -/
theorem ofValue_toValue : ofValue f.toValue = .ok f := by
  obtain ⟨hname, htype, hrequired, hnullable, hrelationship⟩ := f.lookup_entries_of_always
  obtain ⟨hcardinality, htarget, haudit, hreadOnly⟩ := f.lookup_entries_of_optional
  -- Where an optional part is unset, its key is looked up under the second spelling too.
  have hsnake := @lookup_entries_of_snake f
  have hnonEmpty {s : String} (hs : s ≠ "") : Decode.nonEmptyText (.text s) = .ok ⟨s, hs⟩ := by
    simp only [Decode.nonEmptyText, Decode.text, dif_neg hs]
  have hextras : Decode.extras keys (f.entries.map fun e => (.text e.1, e.2)) = [] := by
    refine Decode.extras_eq_nil fun e he => ?_
    obtain ⟨k, hk, hcamel⟩ :=
      List.mem_map.mp (f.keys_entries_sublist.subset (List.mem_map_of_mem he))
    exact ⟨k, hk, hcamel⟩
  have hdecoded : ofValue f.toValue = ofEntries (f.entries.map fun e => (.text e.1, e.2)) := rfl
  rw [hdecoded, ofEntries]
  dsimp only
  rw [Key.decode_of_lookup hname (hnonEmpty f.name_ne_empty),
    Key.decode_of_lookup htype (hnonEmpty f.type_ne_empty),
    Key.decode_of_lookup hrequired (Decode.flag_bool _),
    Key.decode_of_lookup hnullable (Decode.flag_bool _),
    Key.decode_of_lookup hrelationship (Decode.flag_bool _),
    Key.decode_optional hcardinality (hsnake (by simp)) Decode.optional_cardinality,
    Key.decode_optional htarget (hsnake (by simp)) Decode.optional_text,
    Key.decode_optional haudit (hsnake (by simp)) Decode.optional_flag,
    Key.decode_optional hreadOnly (hsnake (by simp)) Decode.optional_flag, hextras,
    Checked.guard_nil]
  rfl

end Field

namespace Schema

/-- A schema is read back from its mapping, with its entities, fields, enumerations and values in
their order. -/
theorem ofValue_toValue (s : Schema) : ofValue s.toValue = .ok s := by
  have hfields (e : String × List Field) (_ : e ∈ s.entities.entries) :
      Decode.listOf Field.ofValue (.list (e.2.map Field.toValue)) = .ok e.2 :=
    Decode.listOf_map fun f _ => f.ofValue_toValue
  have hvalues (e : String × List String) (_ : e ∈ s.enums.entries) :
      Decode.listOf (fun v => .ofComplaint (Decode.text v)) (.list (e.2.map .text)) = .ok e.2 :=
    Decode.listOf_map fun _ _ => rfl
  have hentities := Decode.dictOf_ofDictEntries (fun l : List Field => .list (l.map Field.toValue))
    hfields
  have henums := Decode.dictOf_ofDictEntries (fun l : List String => .list (l.map .text)) hvalues
  have hkeys (v w : Value) : Decode.extras keys
      ([("entities", v), ("enums", w)].map fun e => (.text e.1, e.2)) = [] :=
    Decode.extras_eq_nil (by simp [keys])
  have hfindEntities (v w : Value) : (Key.mk "entities" "entities").find?
      ([("entities", v), ("enums", w)].map fun e => (.text e.1, e.2)) = some ("entities", v) := by
    rw [Key.find?_text, lookup_cons_if]
    rfl
  have hfindEnums (v w : Value) : (Key.mk "enums" "enums").find?
      ([("entities", v), ("enums", w)].map fun e => (.text e.1, e.2)) = some ("enums", w) := by
    simp only [Key.find?_text, lookup_cons_if]
    rfl
  rw [toValue, Value.ofDictEntries, ofValue]
  simp only [hkeys, hfindEntities, hfindEnums, hentities, henums, Decode.Checked.below_ok,
    Checked.guard_nil]
  rfl

end Schema

end EntitySchema
