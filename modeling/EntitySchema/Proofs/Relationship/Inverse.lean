import EntitySchema.Proofs.Dict
import EntitySchema.Relationship.Inverse
import Mathlib.Tactic.MkIffOfInductiveProp

/-! The far ends of relationship fields. To be opposite is a symmetric relation between places of a
schema; the search for an inverse finds one of the places opposite to its own, if there is one
(`inverse?_isSome_iff`, `exists_opposite_of_inverse?`). -/
namespace EntitySchema

@[simp] theorem Cardinality.inverse_inverse (c : Cardinality) : c.inverse.inverse = c := by
  cases c <;> rfl

theorem Cardinality.selfSide_inverse (c : Cardinality) : c.inverse.selfSide = c.targetSide := by
  cases c <;> rfl

theorem Cardinality.targetSide_inverse (c : Cardinality) : c.inverse.targetSide = c.selfSide := by
  rw [← selfSide_inverse, inverse_inverse]

/-- A place in a schema: an entity, and which of its fields. -/
structure Place where
  entity : String
  index : Nat
  deriving DecidableEq, Repr

def Schema.end? (s : Schema) (p : Place) : Option RelationshipEnd :=
  (s.fields p.entity)[p.index]?.map fun f => ⟨p.entity, f, some p.index⟩

theorem Schema.getElem?_ends (s : Schema) (p : Place) :
    (s.ends p.entity)[p.index]? = s.end? p := by
  simp [ends, end?, List.getElem?_zipIdx, Function.comp_def]

theorem Schema.fields_of_not_mem {s : Schema} {entity : String} (h : entity ∉ s.entities.keys) :
    s.fields entity = [] := by
  have hnone : s.entities.get? entity = none := by
    rw [← Option.not_isSome_iff_eq_none, Dict.get?_isSome_iff]
    exact h
  rw [fields, hnone, Option.getD_none]

theorem Schema.fields_eq_nil_or_mem (s : Schema) (entity : String) :
    s.fields entity = [] ∨ (entity, s.fields entity) ∈ s.entities.entries := by
  rw [Dict.mem_entries_iff, fields]
  cases s.entities.get? entity with
  | none => exact .inl rfl
  | some fields => exact .inr rfl

namespace RelationshipEnd

/-- Two relationship fields at different places that target each other's entities with inverse
cardinalities. -/
@[mk_iff]
structure Opposite (e g : RelationshipEnd) : Prop where
  near : e.field.isRelationship = true
  far : g.field.isRelationship = true
  target : e.field.target = some g.owner
  back : g.field.target = some e.owner
  cardinality : ∃ c : Cardinality, e.field.cardinality = some c ∧
    g.field.cardinality = some c.inverse
  other : ¬(e.owner = g.owner ∧ e.place = g.place)

theorem Opposite.symm {e g : RelationshipEnd} (h : e.Opposite g) : g.Opposite e where
  near := h.far
  far := h.near
  target := h.back
  back := h.target
  cardinality := by
    obtain ⟨c, he, hg⟩ := h.cardinality
    exact ⟨c.inverse, hg, by rw [c.inverse_inverse, he]⟩
  other := fun ⟨ho, hp⟩ => h.other ⟨ho.symm, hp.symm⟩

variable {s : Schema} {e g : RelationshipEnd} {p q : Place}

theorem owner_of_end? (h : s.end? p = some e) : e.owner = p.entity ∧ e.place = some p.index := by
  obtain ⟨f, -, rfl⟩ := Option.map_eq_some_iff.mp h
  exact ⟨rfl, rfl⟩

/-- The filter of the search says of a field just that its place is opposite. -/
theorem isOpposite_iff {f : Field} (he : e.field.isRelationship = true)
    (ht : e.field.target = some p.entity) :
    e.isOpposite p.entity f p.index = true ↔ e.Opposite ⟨p.entity, f, some p.index⟩ := by
  simp only [isOpposite, Bool.and_eq_true, Bool.not_eq_true', Bool.and_eq_false_iff, beq_iff_eq,
    beq_eq_false_iff_ne, Option.isSome_iff_exists]
  constructor
  · rintro ⟨⟨⟨⟨hf, c', hc'⟩, hi⟩, hb⟩, hp⟩
    rw [hc', eq_comm, Option.map_eq_some_iff] at hi
    obtain ⟨c, hc, rfl⟩ := hi
    refine ⟨he, hf, ht, hb, ⟨c, hc, hc'⟩, fun h => ?_⟩
    exact hp.elim (fun ho => ho h.1.symm) fun hp => hp h.2
  · intro h
    obtain ⟨c, hc, hc'⟩ := h.cardinality
    have hp : ¬p.entity = e.owner ∨ ¬e.place = some p.index := by
      by_contra hn
      rw [not_or, not_not, not_not] at hn
      exact h.other ⟨hn.1.symm, hn.2⟩
    exact ⟨⟨⟨⟨h.far, c.inverse, hc'⟩, by rw [hc', hc]; rfl⟩, h.back⟩, hp⟩

/-- The candidates of the search are the fields at the opposite places. -/
theorem mem_candidates_iff (hs : "" ∉ s.entities.keys) {f : Field} :
    f ∈ e.candidates s ↔ ∃ p g, s.end? p = some g ∧ e.Opposite g ∧ g.field = f := by
  constructor
  · intro h
    unfold candidates at h
    split at h
    · rename_i entity ht
      split at h
      · rename_i hr
        rw [Bool.and_eq_true] at hr
        obtain ⟨⟨f', index⟩, hmem, rfl⟩ := List.mem_map.mp h
        obtain ⟨hplace, hopp⟩ := List.mem_filter.mp hmem
        rw [List.mem_zipIdx_iff_getElem?] at hplace
        refine ⟨⟨entity, index⟩, ⟨entity, f', some index⟩, ?_, ?_, rfl⟩
        · rw [Schema.end?, hplace, Option.map_some]
        · exact (isOpposite_iff (p := ⟨entity, index⟩) hr.1 ht).mp hopp
      · simp at h
    · simp at h
  · rintro ⟨p, g, hg, hopp, rfl⟩
    obtain ⟨f, hf, rfl⟩ := Option.map_eq_some_iff.mp hg
    -- The search passes over a target without a name, and no entity is without one.
    have hne : p.entity ≠ "" := by
      intro hempty
      rw [hempty, Schema.fields_of_not_mem hs] at hf
      simp at hf
    have ht : e.field.target = some p.entity := hopp.target
    simp only [candidates, ht, hopp.near, Bool.true_and, bne_iff_ne, ne_eq, hne, not_false_eq_true,
      if_true]
    refine List.mem_map.mpr ⟨(f, p.index), List.mem_filter.mpr ⟨?_, ?_⟩, rfl⟩
    · exact List.mem_zipIdx_iff_getElem?.mpr hf
    · exact (isOpposite_iff hopp.near ht).mpr hopp

/-- Whichever name is preferred, the inverse is one of the candidates. -/
theorem mem_candidates_of_inverse? {f : Field} (h : e.inverse? s = some f) : f ∈ e.candidates s := by
  unfold inverse? at h
  split at h
  · simp at h
  · rename_i g hg
    rw [hg, List.mem_singleton]
    exact (Option.some.inj h).symm
  · rename_i g gs _ hg
    -- Both preferences search the candidates, and the fallback is the first of them.
    rw [hg]
    simp only [Option.orElse_eq_orElse, Option.orElse_eq_or, Option.or_eq_some_iff] at h
    rcases h with h | ⟨-, h | ⟨-, h⟩⟩
    · exact List.mem_of_find?_eq_some h
    · exact List.mem_of_find?_eq_some h
    · exact Option.some.inj h ▸ List.mem_cons_self

theorem inverse?_eq_none_iff : e.inverse? s = none ↔ e.candidates s = [] := by
  constructor
  · intro h
    unfold inverse? at h
    split at h
    · assumption
    · simp at h
    · simp at h
  · intro h
    rw [inverse?, h]

theorem inverse?_isSome_iff (hs : "" ∉ s.entities.keys) :
    (e.inverse? s).isSome ↔ ∃ p g, s.end? p = some g ∧ e.Opposite g := by
  rw [Option.isSome_iff_ne_none, ne_eq, inverse?_eq_none_iff]
  constructor
  · intro hne
    obtain ⟨f, hf⟩ := List.exists_mem_of_ne_nil _ hne
    obtain ⟨p, g, hg, hopp, -⟩ := (mem_candidates_iff hs).mp hf
    exact ⟨p, g, hg, hopp⟩
  · rintro ⟨p, g, hg, hopp⟩
    exact List.ne_nil_of_mem ((mem_candidates_iff hs).mpr ⟨p, g, hg, hopp, rfl⟩)

theorem exists_opposite_of_inverse? (hs : "" ∉ s.entities.keys) {f : Field}
    (h : e.inverse? s = some f) : ∃ p g, s.end? p = some g ∧ e.Opposite g ∧ g.field = f :=
  (mem_candidates_iff hs).mp (mem_candidates_of_inverse? h)

theorem inverse?_of_unique (hs : "" ∉ s.entities.keys) (hg : s.end? p = some g)
    (hopp : e.Opposite g)
    (unique : ∀ q g', s.end? q = some g' → e.Opposite g' → q = p) :
    e.inverse? s = some g.field := by
  obtain ⟨f, hf⟩ := Option.isSome_iff_exists.mp ((inverse?_isSome_iff hs).mpr ⟨p, g, hg, hopp⟩)
  obtain ⟨q, g', hg', hopp', rfl⟩ := exists_opposite_of_inverse? hs hf
  have hpq : q = p := unique q g' hg' hopp'
  subst hpq
  rw [hf, Option.some.inj (hg'.symm.trans hg)]

end RelationshipEnd

end EntitySchema
