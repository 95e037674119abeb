import EntitySchema.Proofs.Jdl.Invariants
import EntitySchema.Proofs.Relationship.Findings

/-! What becomes of the relationship records of a text. A demand has its field just when no earlier
demand asks for another field of that name (`exists_isMetBy_iff`), and of such a loss nothing is
reported; everything else that keeps a record from being met is (`parse_of_nothing_found`). -/
namespace EntitySchema.Jdl

def firstDemand? (demands : List Demand) (owner name : String) : Option Demand :=
  (Demand.on owner demands).find? (·.name == name)

/-- The findings of a parse: those of the three extractions, then those of the records. -/
theorem findings_parse (text : List Char) :
    (parse text).trace.findings =
      (extractEnums (stripComments text)).2.findings ++
        (extractEntities (stripComments text)).2.findings ++
        (extractRelationships (stripComments text)).2.findings ++
        (parse text).records.flatMap (·.findings (parse text).schema.entities.keys) := by
  have hrecords : (parse text).records = (extractRelationships (stripComments text)).1 := rfl
  have hkeys : (ensureIds (extractEntities (stripComments text)).1).keys =
      (extractEntities (stripComments text)).1.keys := Dict.keys_map _ _
  have hnamed : ∀ entity ∈ (ensureIds (extractEntities (stripComments text)).1).keys,
      entity ≠ "" := by
    intro entity he
    exact ne_empty_of_mem_keys_parse (by rwa [keys_parse, ← hkeys])
  have hm := findings_materialize hnamed (extractRelationships (stripComments text)).1
  rw [hkeys] at hm
  rw [hrecords, keys_parse, ← hm]
  simp only [parse, findings_append, findings_note, List.append_nil]
  split <;> simp

/-- A field that meets a demand meets no other demand on that entity. -/
theorem eq_of_isMetBy {d e : Demand} {f : Field} (ho : d.owner = e.owner) (hd : d.IsMetBy f)
    (he : e.IsMetBy f) : d = e := by
  have hn : d.name = e.name := hd.name.symm.trans he.name
  have hc : d.cardinality = e.cardinality :=
    Option.some.inj (hd.cardinality.symm.trans he.cardinality)
  have ht : d.target = e.target := Option.some.inj (hd.target.symm.trans he.target)
  cases d
  cases e
  simp_all

theorem owner_mem_keys_parse {text : List Char} {d : Demand} (hd : d ∈ demandsOf text) :
    d.owner ∈ (parse text).schema.entities.keys := by
  rw [keys_parse]
  exact (RelationshipRecord.declared_of_mem_allDemands hd).1

/-- The fields of an entity are those of its last block, then those of its demands. Only the name of
the identifier is taken among the former. -/
theorem fields_parse {text : List Char} {entity : String}
    (h : entity ∈ (parse text).schema.entities.keys) :
    ∃ own : List Field, (∀ f ∈ own, f.isRelationship = false) ∧
      (parse text).schema.fields entity =
        own ++ (Demand.kept own (Demand.on entity (demandsOf text))).filterMap Demand.field? := by
  rw [← Dict.get?_isSome_iff, Option.isSome_iff_exists] at h
  obtain ⟨fields, hfields⟩ := h
  obtain ⟨b, -, rfl⟩ := get?_parse hfields
  refine ⟨ensureId b.fields, fun f hf => (isPlain_ensureId b f hf).isRelationship, ?_⟩
  rw [Schema.fields, hfields, Option.getD_some]

/-- A demand has its field just when it leaves the name of the identifier alone and is the first of
its name on its entity. -/
theorem exists_isMetBy_iff {text : List Char} {d : Demand} (hd : d ∈ demandsOf text) :
    (∃ f ∈ (parse text).schema.fields d.owner, d.IsMetBy f) ↔
      Text.lowered d.name ≠ "id" ∧ firstDemand? (demandsOf text) d.owner d.name = some d := by
  obtain ⟨own, hplain, hfields⟩ := fields_parse (owner_mem_keys_parse hd)
  have hblocked : d.isBlocked own = false ↔ Text.lowered d.name ≠ "id" := by
    have hnone : (own.any fun f => f.isRelationship && f.name == d.name) = false := by
      rw [List.any_eq_false]
      intro f hf
      simp [hplain f hf]
    simp [Demand.isBlocked, hnone]
  rw [← hblocked, firstDemand?, ← Demand.mem_kept_iff, hfields]
  constructor
  · rintro ⟨f, hf, hm⟩
    rcases List.mem_append.mp hf with hf | hf
    · -- The fields of the block itself are plain, so none of them meets a demand.
      exact absurd hm.isRelationship (by simp [hplain f hf])
    · obtain ⟨e, he, hef⟩ := List.mem_filterMap.mp hf
      obtain ⟨hmem, howner⟩ := List.mem_filter.mp ((Demand.kept_sublist _ _).subset he)
      obtain ⟨g, hg, hem⟩ := Demand.field?_isSome ((met_parse text).named e hmem)
      have hgf : g = f := Option.some.inj (hg.symm.trans hef)
      exact eq_of_isMetBy (beq_iff_eq.mp howner) (hgf ▸ hem) hm ▸ he
  · intro hk
    obtain ⟨f, hf, hm⟩ := Demand.field?_isSome ((met_parse text).named d hd)
    exact ⟨f, List.mem_append_right own (List.mem_filterMap.mpr ⟨d, hk, hf⟩), hm⟩

theorem exists_firstDemand? {demands : List Demand} {d : Demand} (hd : d ∈ demands) :
    ∃ first ∈ demands, firstDemand? demands d.owner d.name = some first ∧
      first.owner = d.owner ∧ first.name = d.name := by
  have hsome : (firstDemand? demands d.owner d.name).isSome := by
    rw [firstDemand?, List.find?_isSome]
    exact ⟨d, List.mem_filter.mpr ⟨hd, by simp⟩, by simp⟩
  obtain ⟨first, hfirst⟩ := Option.isSome_iff_exists.mp hsome
  obtain ⟨hmem, howner⟩ := List.mem_filter.mp (List.mem_of_find?_eq_some hfirst)
  have hname := List.find?_some hfirst
  exact ⟨first, hmem, hfirst, beq_iff_eq.mp howner, beq_iff_eq.mp hname⟩

/-- Without a record that is passed over, the demands are those of all records. -/
theorem demandsOf_eq {text : List Char}
    (h : ∀ r ∈ (parse text).records, r.source ∈ (parse text).schema.entities.keys ∧
      r.target ∈ (parse text).schema.entities.keys) :
    demandsOf text = (parse text).records.flatMap RelationshipRecord.demandTable := by
  have hknown : (parse text).records.filter
      (RelationshipRecord.isKnown (parse text).schema.entities.keys) = (parse text).records := by
    rw [List.filter_eq_self]
    intro r hr
    simpa [RelationshipRecord.isKnown] using h r hr
  rw [keys_parse] at hknown
  exact congrArg (List.flatMap RelationshipRecord.demandTable) hknown

/-- Each record of a parse that reports nothing is between declared entities, has a cardinality and
leaves the name of the identifier alone. -/
theorem record_of_nothing_found {text : List Char} (h : (parseInto [] text).2 = []) :
    ∀ r ∈ (parse text).records,
      (r.source ∈ (parse text).schema.entities.keys ∧
        r.target ∈ (parse text).schema.entities.keys) ∧
      (∃ c, r.cardinality? = some c) ∧ ∀ d ∈ r.demandTable, Text.lowered d.name ≠ "id" := by
  have hnone : (parse text).trace.findings = [] := by simpa [parseInto, Trace.diagnostics] using h
  rw [findings_parse, List.append_eq_nil_iff, List.flatMap_eq_nil_iff] at hnone
  intro r hr
  exact (RelationshipRecord.findings_eq_nil_iff _ r).mp (hnone.2 r hr)

/-- A parse that reports nothing has met every demand of every record, or else an earlier demand for
a field of the same name. -/
theorem parse_of_nothing_found (text : List Char) (h : (parseInto [] text).2 = []) :
    let s := (parseInto [] text).1
    let demands := (parse text).records.flatMap RelationshipRecord.demandTable
    ∀ r ∈ (parse text).records,
      r.source ∈ s.entities.keys ∧ r.target ∈ s.entities.keys ∧ (∃ c, r.cardinality? = some c) ∧
        ∀ d ∈ r.demandTable, ∃ first, firstDemand? demands d.owner d.name = some first ∧
          (∃ f ∈ s.fields d.owner, first.IsMetBy f) ∧
          ((∃ f ∈ s.fields d.owner, d.IsMetBy f) ↔ first = d) := by
  intro s demands r hr
  have hrecord := record_of_nothing_found h
  have hdemands : demandsOf text = demands := demandsOf_eq fun r hr => (hrecord r hr).1
  obtain ⟨⟨hsource, htarget⟩, hcardinality, hnames⟩ := hrecord r hr
  refine ⟨hsource, htarget, hcardinality, fun d hd => ?_⟩
  have hmem : d ∈ demandsOf text := hdemands ▸ List.mem_flatMap.mpr ⟨r, hr, hd⟩
  obtain ⟨first, hfirst, hfind, howner, hname⟩ := exists_firstDemand? hmem
  have hmet : ∃ f ∈ s.fields first.owner, first.IsMetBy f := by
    apply (exists_isMetBy_iff hfirst).mpr
    rw [howner, hname]
    exact ⟨hnames d hd, hfind⟩
  have hiff := exists_isMetBy_iff hmem
  rw [hfind, Option.some.injEq] at hiff
  exact ⟨first, hdemands ▸ hfind, howner ▸ hmet, hiff.trans (and_iff_right (hnames d hd))⟩

def clashing : List Char :=
  "entity A {}\nentity B {}\nentity C {}\nrelationship OneToOne { A{x} to B, A{x} to C }\n".toList

theorem parseInto_clashing : (parseInto [] clashing).2 = [] := by
  have hnone : (parse clashing).trace.findings = [] := by decide +kernel
  simp [parseInto, Trace.diagnostics, hnone]

theorem parse_of_nothing_found_clashing :
    let s := (parseInto [] clashing).1
    let d : Demand := ⟨"A", "x", .oneToOne, "C"⟩
    ∃ first, firstDemand? ((parse clashing).records.flatMap RelationshipRecord.demandTable) "A" "x" =
        some first ∧ (∃ f ∈ s.fields "A", first.IsMetBy f) ∧
      ((∃ f ∈ s.fields "A", d.IsMetBy f) ↔ first = d) := by
  have hr : ⟨"OneToOne", "A", "C", some "x", none⟩ ∈ (parse clashing).records := by decide +kernel
  obtain ⟨-, -, -, hdemands⟩ := parse_of_nothing_found clashing parseInto_clashing _ hr
  exact hdemands ⟨"A", "x", .oneToOne, "C"⟩ (by decide +kernel)

/-- The later of two statements for one name is lost, and nothing is reported. -/
theorem statement_lost_silently :
    (parseInto [] clashing).2 = [] ∧
      ∃ r ∈ (parse clashing).records, ∃ d ∈ r.demandTable,
        ¬∃ f ∈ (parseInto [] clashing).1.fields d.owner, d.IsMetBy f := by
  refine ⟨parseInto_clashing, ⟨"OneToOne", "A", "C", some "x", none⟩, by decide +kernel,
    ⟨"A", "x", .oneToOne, "C"⟩, by decide +kernel, ?_⟩
  rintro ⟨f, hf, hm⟩
  have htargets : ∀ f ∈ (parseInto [] clashing).1.fields "A", f.target ≠ some "C" := by decide +kernel
  exact htargets f hf hm.target

end EntitySchema.Jdl
