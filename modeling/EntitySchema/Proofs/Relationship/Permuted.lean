import EntitySchema.Proofs.Relationship.ClosedForm
import Mathlib.Data.List.Nodup

/-! Materialization of the same records once more, and in another order. The names that an entity gains
are those of its demands that are not blocked (`mem_names_kept_iff`), whatever the order of the demands;
with these names taken no demand is left (`kept_append_kept`). Which of several demands with one name is
met depends on the order, unless all ask for the same (`materialize_permuted`). -/
namespace EntitySchema

def relationshipNames (fields : List Field) : List String :=
  (fields.filter (·.isRelationship)).map Field.name

/-- The first result over a list does not depend on the order when all members that have a result have
the same. -/
theorem findSome?_eq_of_perm {α β : Type} {f : α → Option β} {l l' : List α} (h : l.Perm l')
    (hsame : ∀ a ∈ l, ∀ b ∈ l, ∀ x y, f a = some x → f b = some y → x = y) :
    l.findSome? f = l'.findSome? f := by
  cases hl : l.findSome? f with
  | none =>
    rw [List.findSome?_eq_none_iff] at hl
    rw [eq_comm, List.findSome?_eq_none_iff]
    exact fun a ha => hl a (h.mem_iff.mpr ha)
  | some x =>
    obtain ⟨a, ha, hx⟩ := List.exists_of_findSome?_eq_some hl
    cases hl' : l'.findSome? f with
    | none =>
      rw [List.findSome?_eq_none_iff.mp hl' a (h.mem_iff.mp ha)] at hx
      cases hx
    | some y =>
      obtain ⟨b, hb, hy⟩ := List.exists_of_findSome?_eq_some hl'
      rw [hsame a ha b (h.mem_iff.mpr hb) x y hx hy]

namespace Demand

variable {fields : List Field} {ds ds' : List Demand}

theorem isBlocked_append (fields more : List Field) (d : Demand) :
    d.isBlocked (fields ++ more) =
      (d.isBlocked fields || more.any fun f => f.isRelationship && f.name == d.name) := by
  simp [isBlocked, List.any_append, Bool.or_assoc]

/-- The names that are met are those of the demands that are not blocked. -/
theorem mem_names_kept_iff {name : String} : name ∈ (kept fields ds).map Demand.name ↔
    ∃ d ∈ ds, d.name = name ∧ d.isBlocked fields = false := by
  constructor
  · intro h
    obtain ⟨d, hd, rfl⟩ := List.mem_map.mp h
    exact ⟨d, (kept_sublist fields ds).subset hd, rfl, not_isBlocked_of_mem_kept hd⟩
  · rintro ⟨d, hd, rfl, hfree⟩
    obtain ⟨e, he⟩ : ∃ e, ds.find? (·.name == d.name) = some e := by
      rw [← Option.isSome_iff_exists, List.find?_isSome]
      exact ⟨d, hd, by simp⟩
    have hname : e.name = d.name := by simpa using List.find?_some he
    refine List.mem_map.mpr ⟨e, mem_kept_iff.mpr ⟨?_, ?_⟩, hname⟩
    · rw [isBlocked_congr hname, hfree]
    · rw [hname, he]

/-- The order of the demands does not matter to the names. -/
theorem perm_names_kept (h : ds.Perm ds') (fields : List Field) :
    ((kept fields ds).map Demand.name).Perm ((kept fields ds').map Demand.name) := by
  rw [List.perm_ext_iff_of_nodup (nodup_map_name_kept _ _) (nodup_map_name_kept _ _)]
  intro name
  simp only [mem_names_kept_iff, h.mem_iff]

/-- Nor to the demands that are met, when the first of each name is the same. -/
theorem perm_kept (h : ∀ name, ds.find? (·.name == name) = ds'.find? (·.name == name))
    (fields : List Field) : (kept fields ds).Perm (kept fields ds') := by
  have hnodup (ds : List Demand) : (kept fields ds).Nodup := (nodup_map_name_kept fields ds).of_map
  rw [List.perm_ext_iff_of_nodup (hnodup ds) (hnodup ds')]
  intro d
  rw [mem_kept_iff, mem_kept_iff, h]

/-- With the fields of the demands that are kept there, all demands are blocked. -/
theorem kept_append_kept (hn : ∀ d ∈ ds, d.name ≠ "") (fields : List Field) :
    kept (fields ++ (kept fields ds).filterMap field?) ds = [] := by
  rw [List.eq_nil_iff_forall_not_mem]
  intro d hd
  have hfree := not_isBlocked_of_mem_kept hd
  rw [isBlocked_append, Bool.or_eq_false_iff, List.any_eq_false] at hfree
  have hmem : d.name ∈ (kept fields ds).map Demand.name :=
    mem_names_kept_iff.mpr ⟨d, (kept_sublist _ ds).subset hd, rfl, hfree.1⟩
  obtain ⟨e, he, hname⟩ := List.mem_map.mp hmem
  obtain ⟨f, hf, hmet⟩ := field?_isSome (hn e ((kept_sublist fields ds).subset he))
  have hnot := hfree.2 f (List.mem_filterMap.mpr ⟨e, he, hf⟩)
  simp [hmet.isRelationship, hmet.name, hname] at hnot

end Demand

namespace RelationshipRecord

/-- Whether no two of the records whose entities are declared demand the same name of the same entity
with different cardinalities or targets. -/
def Agree (declared : List String) (records : List RelationshipRecord) : Prop :=
  ∀ r ∈ records, ∀ t ∈ records, r ≠ t → r.isKnown declared = true → t.isKnown declared = true →
    ∀ d ∈ r.demandTable, ∀ e ∈ t.demandTable, d.owner = e.owner → d.name = e.name →
      d.cardinality = e.cardinality ∧ d.target = e.target

variable {declared : List String} {records records' : List RelationshipRecord}

theorem perm_allDemands (h : records.Perm records') (declared : List String) :
    (allDemands declared records).Perm (allDemands declared records') :=
  (h.filter _).flatMap_right demandTable

/-- The first demand of a name on an entity is that of the first record that has one. -/
theorem find?_on_allDemands (entity name : String) :
    (Demand.on entity (allDemands declared records)).find? (·.name == name) =
      (records.filter (isKnown declared)).findSome? fun r =>
        r.demandTable.find? fun d => decide (d.owner = entity ∧ d.name = name) := by
  rw [Demand.on, List.find?_filter, allDemands, List.find?_flatMap]
  simp

/-- When the records agree, the first demand of a name does not depend on their order. -/
theorem find?_on_eq_of_perm (h : records.Perm records') (hagree : Agree declared records)
    (entity name : String) :
    (Demand.on entity (allDemands declared records)).find? (·.name == name) =
      (Demand.on entity (allDemands declared records')).find? (·.name == name) := by
  rw [find?_on_allDemands, find?_on_allDemands]
  refine findSome?_eq_of_perm (h.filter _) ?_
  intro r hr t ht d e hd he
  by_cases hrt : r = t
  · -- Within one record the order of its two demands is fixed.
    subst hrt
    exact Option.some.inj (hd.symm.trans he)
  · obtain ⟨hr, hrknown⟩ := List.mem_filter.mp hr
    obtain ⟨ht, htknown⟩ := List.mem_filter.mp ht
    have hdp : d.owner = entity ∧ d.name = name := by simpa using List.find?_some hd
    have hep : e.owner = entity ∧ e.name = name := by simpa using List.find?_some he
    obtain ⟨hcardinality, htarget⟩ := hagree r hr t ht hrt hrknown htknown d
      (List.mem_of_find?_eq_some hd) e (List.mem_of_find?_eq_some he)
      (hdp.1.trans hep.1.symm) (hdp.2.trans hep.2.symm)
    cases d
    cases e
    simp_all

end RelationshipRecord

namespace Met

variable {entities : Dict (List Field)} {ds ds' : List Demand} {m m' : Materialization}

theorem again (h : Met entities ds m) (h' : Met m.entities ds m') :
    m'.added = 0 ∧ m'.entities = m.entities := by
  have hkept : ∀ entity fields, m.entities.get? entity = some fields →
      Demand.kept fields (Demand.on entity ds) = [] := by
    intro entity fields hfields
    rw [h.get?_eq, Option.map_eq_some_iff] at hfields
    obtain ⟨own, -, rfl⟩ := hfields
    exact Demand.kept_append_kept (fun d hd => h.named d (List.mem_of_mem_filter hd)) own
  constructor
  · rw [h'.added_eq_sum, List.sum_eq_zero]
    intro n hn
    obtain ⟨e, he, rfl⟩ := List.mem_map.mp hn
    rw [hkept e.1 e.2 ((m.entities.mem_entries_iff e.1 e.2).mp he), List.length_nil]
  · apply Dict.ext
    rw [Dict.entries_eq_filterMap, h'.keys_eq, Dict.entries_eq_filterMap]
    refine List.filterMap_congr fun entity _ => ?_
    rw [h'.get?_eq]
    cases hfields : m.entities.get? entity with
    | none => rfl
    | some fields => simp [hkept entity fields hfields]

theorem added_eq_of_perm (h : Met entities ds m) (h' : Met entities ds' m') (hperm : ds.Perm ds') :
    m'.added = m.added := by
  rw [h.added_eq_sum, h'.added_eq_sum]
  congr 1
  refine List.map_congr_left fun e _ => ?_
  have hlength := (Demand.perm_names_kept (hperm.filter (·.owner == e.1)) e.2).length_eq
  rw [List.length_map, List.length_map] at hlength
  exact hlength.symm

theorem relationshipNames_eq (h : Met entities ds m) (entity : String) (fields : List Field) :
    relationshipNames (fields ++ (Demand.kept fields (Demand.on entity ds)).filterMap Demand.field?) =
      relationshipNames fields ++ (Demand.kept fields (Demand.on entity ds)).map Demand.name := by
  rw [relationshipNames, List.filter_append, List.map_append,
    Demand.map_name_of_forall₂ (h.forall₂_kept entity fields), relationshipNames]

end Met

/-- To materialize the same records once more adds nothing and changes nothing. In any other order they
add as many fields, and give each entity the same names of relationship fields; when the records agree,
they give it the same fields, up to their order. -/
theorem materialize_permuted (entities : Dict (List Field)) (records : List RelationshipRecord)
    (named : ∀ entity ∈ entities.keys, entity ≠ "") :
    let m := materialize entities records
    let again := materialize m.entities records
    (again.nameless = false ∧ again.added = 0 ∧ again.entities = m.entities) ∧
      ∀ records', records.Perm records' →
        let m' := materialize entities records'
        m'.nameless = false ∧ m'.added = m.added ∧ m'.entities.keys = m.entities.keys ∧
          ∀ entity fields, entities.get? entity = some fields → ∃ gained gained',
            m.entities.get? entity = some (fields ++ gained) ∧
              m'.entities.get? entity = some (fields ++ gained') ∧
              (relationshipNames (fields ++ gained)).Perm (relationshipNames (fields ++ gained')) ∧
              (RelationshipRecord.Agree entities.keys records → gained.Perm gained') := by
  intro m again
  have h : Met entities _ m := Met.materialize named records
  have hkeys : m.entities.keys = entities.keys := h.keys_eq
  have hagain : Met m.entities _ again := Met.materialize (by rwa [hkeys]) records
  rw [hkeys] at hagain
  refine ⟨⟨hagain.nameless, h.again hagain⟩, ?_⟩
  intro records' hperm m'
  have h' : Met entities _ m' := Met.materialize named records'
  have hdemands := RelationshipRecord.perm_allDemands hperm entities.keys
  refine ⟨h'.nameless, h.added_eq_of_perm h' hdemands, h'.keys_eq.trans hkeys.symm, ?_⟩
  intro entity fields hfields
  refine ⟨_, _, by rw [h.get?_eq, hfields, Option.map_some],
    by rw [h'.get?_eq, hfields, Option.map_some], ?_, fun hagree => ?_⟩
  · rw [h.relationshipNames_eq, h'.relationshipNames_eq]
    exact (Demand.perm_names_kept (hdemands.filter _) fields).append_left _
  · exact (Demand.perm_kept
      (RelationshipRecord.find?_on_eq_of_perm hperm hagree entity) fields).filterMap Demand.field?

/-- Two records that both name a field `x` on one entity, for different targets, in both orders. -/
theorem materialize_permuted_clash :
    let entities : Dict (List Field) := ⟨[("A", []), ("B", [])], by decide⟩
    let first : RelationshipRecord := ⟨"OneToOne", "A", "B", some "x", none⟩
    let second : RelationshipRecord := ⟨"OneToOne", "A", "A", some "x", none⟩
    let m := materialize entities [first, second]
    m.added = 1 ∧ (materialize m.entities [first, second]).added = 0 ∧
      (materialize entities [second, first]).added = 1 := by
  intro entities first second m
  obtain ⟨⟨-, hagain, -⟩, hperm⟩ := materialize_permuted entities [first, second] (by decide)
  have hadded : m.added = 1 := by decide +kernel
  exact ⟨hadded, hagain, (hperm [second, first] (List.Perm.swap _ _ _)).2.1.trans hadded⟩

end EntitySchema
