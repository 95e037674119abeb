import EntitySchema.Proofs.Relationship.ClosedForm

/-! What materialization reports. Each record is reported on by itself: the findings of a run are those
of its records, whatever fields the entities have by then (`findings_materialize`). A demand whose name
an earlier demand has taken is no finding. -/
namespace EntitySchema

open Jdl (Finding Trace)

@[simp] theorem findings_append (s t : Trace) : (s ++ t).findings = s.findings ++ t.findings := rfl

@[simp] theorem findings_note (level : LogLevel) (source message : String) :
    (Trace.note level source message).findings = [] := rfl

@[simp] theorem findings_find (f : Finding) : (Trace.find f).findings = [f] := rfl

@[simp] theorem findings_empty : Trace.empty.findings = [] := rfl

namespace Demand

/-- A demand is reported when its name is that of the identifier, in some letter case. -/
def findings (d : Demand) : List Finding :=
  if Text.lowered d.name = "id" then [.fieldNamedId (some d.owner) d.name (some d.target)] else []

theorem findings_addRelationshipField {d : Demand} {f : Field} (hm : d.IsMetBy f)
    (fields : List Field) :
    (addRelationshipField fields (some d.owner) f).2.2.findings = d.findings := by
  unfold addRelationshipField findings
  by_cases hid : Text.lowered d.name = "id"
  · simp [Field.isId, hm.name, hm.target, hid]
  · have hid' : f.isId = false := by simp [Field.isId, hm.name, hid]
    rw [if_neg (by simp [hid']), if_neg hid]
    split <;> simp

end Demand

namespace RelationshipRecord

/-- What is reported of a record: that it names undeclared entities, else that its type is unknown,
else which of its demands cannot be met. -/
def findings (declared : List String) (r : RelationshipRecord) : List Finding :=
  let missing := [r.source, r.target].filter (· ∉ declared)
  if missing ≠ [] then [.undeclaredEntity r missing]
  else if r.cardinality? = none then [.unknownType r]
  else r.demandTable.flatMap Demand.findings

/-- Nothing is reported of a record with declared entities and a known type that leaves the name of
the identifier alone. -/
theorem findings_eq_nil_iff (declared : List String) (r : RelationshipRecord) :
    r.findings declared = [] ↔ (r.source ∈ declared ∧ r.target ∈ declared) ∧
      (∃ c, r.cardinality? = some c) ∧ ∀ d ∈ r.demandTable, Text.lowered d.name ≠ "id" := by
  have hmissing : [r.source, r.target].filter (· ∉ declared) = [] ↔
      r.source ∈ declared ∧ r.target ∈ declared := by
    simp
  have hdemands : r.demandTable.flatMap Demand.findings = [] ↔
      ∀ d ∈ r.demandTable, Text.lowered d.name ≠ "id" := by
    simp [List.flatMap_eq_nil_iff, Demand.findings]
  unfold findings
  by_cases hk : r.source ∈ declared ∧ r.target ∈ declared
  · rw [if_neg (not_not.mpr (hmissing.mpr hk))]
    cases hc : r.cardinality? with
    | none => simp
    | some c => simp [hdemands, hk]
  · rw [if_pos (mt hmissing.mp hk)]
    simp [hk]

end RelationshipRecord

namespace Met

variable {entities : Dict (List Field)} {ds : List Demand} {m : Materialization}

theorem findings_meet (h : Met entities ds m) {d : Demand} (hn : d.name ≠ "") :
    (m.meet d.owner d).trace.findings = m.trace.findings ++ d.findings := by
  obtain ⟨f, hf, hm⟩ := Demand.field?_isSome hn
  have hf' : Field.relationship? d.name d.cardinality d.target = some f := hf
  simp only [Materialization.meet, h.nameless, Bool.false_eq_true, if_false, hf', findings_append,
    Demand.findings_addRelationshipField hm]

theorem findings_foldl_meet (h : Met entities ds m) {more : List Demand}
    (hm : ∀ d ∈ more, d.owner ∈ entities.keys ∧ d.name ≠ "") :
    (more.foldl (fun m d => m.meet d.owner d) m).trace.findings =
      m.trace.findings ++ more.flatMap Demand.findings := by
  induction more generalizing ds m with
  | nil => simp
  | cons d more ih =>
    have hd := hm d (by simp)
    rw [List.foldl_cons, ih (h.meet hd.1 hd.2) fun e he => hm e (by simp [he]),
      h.findings_meet hd.2, List.flatMap_cons, List.append_assoc]

theorem findings_apply (h : Met entities ds m) (hn : ∀ entity ∈ entities.keys, entity ≠ "")
    (r : RelationshipRecord) :
    (m.apply r).trace.findings = m.trace.findings ++ r.findings entities.keys := by
  have hmissing : ([r.source, r.target].filter fun e => !m.entities.contains e) =
      [r.source, r.target].filter (· ∉ entities.keys) := by
    simp [Dict.contains, h.keys_eq]
  simp only [Materialization.apply, h.nameless, Bool.false_eq_true, if_false, hmissing,
    RelationshipRecord.findings]
  by_cases hm : [r.source, r.target].filter (· ∉ entities.keys) = []
  · rw [if_neg (not_not.mpr hm), if_neg (not_not.mpr hm)]
    have hst : r.source ∈ entities.keys ∧ r.target ∈ entities.keys := by simpa using hm
    cases hc : r.cardinality? with
    | none => simp [Materialization.skip]
    | some c =>
      rw [Materialization.applyTo_eq hc]
      simpa using h.findings_foldl_meet fun d hd =>
        RelationshipRecord.owner_mem_of_mem_demandTable hn hst.1 hst.2 hd
  · rw [if_pos hm, if_pos hm]
    simp [Materialization.skip]

theorem findings_foldl_apply (h : Met entities ds m) (hn : ∀ entity ∈ entities.keys, entity ≠ "")
    (records : List RelationshipRecord) :
    (records.foldl Materialization.apply m).trace.findings =
      m.trace.findings ++ records.flatMap (·.findings entities.keys) := by
  induction records generalizing ds m with
  | nil => simp
  | cons r records ih =>
    rw [List.foldl_cons, ih (h.apply hn r), h.findings_apply hn r, List.flatMap_cons,
      List.append_assoc]

end Met

/-- The findings of materialization are those of the records, one record after the other. -/
theorem findings_materialize {entities : Dict (List Field)}
    (hn : ∀ entity ∈ entities.keys, entity ≠ "") (records : List RelationshipRecord) :
    (materialize entities records).trace.findings =
      records.flatMap (·.findings entities.keys) := by
  have hfold := (Met.start entities).findings_foldl_apply hn records
  have hmet := (Met.start entities).foldl_apply hn records
  simp only [materialize, hmet.nameless, Bool.false_eq_true, if_false, findings_append, findings_note,
    List.append_nil, hfold]
  rfl

end EntitySchema
