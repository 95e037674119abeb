import EntitySchema.Proofs.Compile.Gate

/-! Links between the relationship fields of a document. To face each other is a symmetric relation
between places, read off the document alone; a field is linked just when some place faces it, and then
to one of those (`linked_document`). -/
namespace EntitySchema.Compile

open Document (entryAt?)

/-- Two entries of relationship fields, each of which targets the entity of the other, with inverse
cardinalities. -/
@[mk_iff]
structure Faces (owner : String) (f : Value) (other : String) (g : Value) : Prop where
  near : f.at? "isRelationship" = some (.bool true)
  far : g.at? "isRelationship" = some (.bool true)
  target : f.at? "targetEntity" = some (.text other)
  back : g.at? "targetEntity" = some (.text owner)
  cardinality : ∃ c : Cardinality, f.at? "relationshipType" = some (.text c.name) ∧
    g.at? "relationshipType" = some (.text c.inverse.name)

/-- The field at one place is a candidate for the far end of the field at another. -/
def Candidate (document : List (String × Value)) (p q : Place) : Prop :=
  p ≠ q ∧ ∃ f g, entryAt? document p = some f ∧ entryAt? document q = some g ∧
    Faces p.entity f q.entity g

/-- What the link to a field in the entry of another asserts of the two. -/
structure IsLink (document : List (String × Value)) (p : Place) (f link : Value) (q : Place)
    (g : Value) (name : String) : Prop where
  text : link = .ofDictEntries [("entity", .text q.entity), ("fieldName", .text name)]
  target : f.at? "targetEntity" = some (.text q.entity)
  found : entryAt? document q = some g
  named : g.at? "name" = some (.text name)
  unique : ∀ q' g', q'.entity = q.entity → entryAt? document q' = some g' →
    g'.at? "name" = some (.text name) → q' = q
  candidate : Candidate document p q
  kinds : ∃ c : Cardinality, f.at? "relKind" = some (.text c.code) ∧
    g.at? "relKind" = some (.text c.inverse.code)
  sides : ∃ self target,
    f.at? "cardinality" = some (.ofDictEntries [("self", self), ("target", target)]) ∧
    g.at? "cardinality" = some (.ofDictEntries [("self", target), ("target", self)])
  back : ∃ other, g.at? "inverse" = some other ∧ other.at? "entity" = some (.text p.entity)

/-- Where a document links relationship fields, and what the links say. -/
structure Linked (document : List (String × Value)) : Prop where
  linked_iff : ∀ p f, entryAt? document p = some f → f.at? "isRelationship" = some (.bool true) →
    ((∃ link, f.at? "inverse" = some link) ↔ ∃ q, Candidate document p q)
  link : ∀ p f link, entryAt? document p = some f → f.at? "isRelationship" = some (.bool true) →
    f.at? "inverse" = some link → ∃ q g name, IsLink document p f link q g name
  answered : ∀ p q f g, entryAt? document p = some f → entryAt? document q = some g →
    Candidate document p q → (∀ p', Candidate document q p' → p' = p) →
    ∃ name, f.at? "name" = some (.text name) ∧ g.at? "inverse" =
      some (.ofDictEntries [("entity", .text p.entity), ("fieldName", .text name)])

variable {s : Schema} {settings : Settings} {p q : Place} {e g : RelationshipEnd}

theorem faces_entry_iff :
    Faces e.owner (e.entry s) g.owner (g.entry s) ∧ ¬(e.owner = g.owner ∧ e.place = g.place) ↔
      e.Opposite g := by
  rw [faces_iff, RelationshipEnd.opposite_iff]
  simp only [RelationshipEnd.at?_isRelationship_iff, RelationshipEnd.at?_targetEntity_iff,
    RelationshipEnd.at?_relationshipType_iff, and_assoc]

/-- The candidates of a document are the opposite places of the schema. -/
theorem candidate_document_iff (hp : s.end? p = some e) (hq : s.end? q = some g) :
    Candidate (s.document settings) p q ↔ e.Opposite g := by
  obtain ⟨howner, hplace⟩ := RelationshipEnd.owner_of_end? hp
  obtain ⟨howner', hplace'⟩ := RelationshipEnd.owner_of_end? hq
  have hne : p ≠ q ↔ ¬(e.owner = g.owner ∧ e.place = g.place) := by
    rw [howner, hplace, howner', hplace', Option.some.injEq, ne_eq, Place.mk.injEq]
  have hentry := Document.entryAt?_document s settings
  rw [← faces_entry_iff (s := s), ← hne, howner, howner', Candidate, hentry, hentry, hp, hq]
  simp [and_comm]

theorem candidate_document_iff_exists (hp : s.end? p = some e) :
    Candidate (s.document settings) p q ↔ ∃ g, s.end? q = some g ∧ e.Opposite g := by
  constructor
  · intro h
    obtain ⟨-, -, v, -, hv, -⟩ := id h
    rw [Document.entryAt?_document, Option.map_eq_some_iff] at hv
    obtain ⟨g, hq, -⟩ := hv
    exact ⟨g, hq, (candidate_document_iff hp hq).mp h⟩
  · rintro ⟨g, hq, h⟩
    exact (candidate_document_iff hp hq).mpr h

structure Linkable (s : Schema) : Prop where
  named : "" ∉ s.entities.keys
  distinct : ∀ entity, ((s.fields entity).map Field.name).Nodup
  cardinality : ∀ entity, ∀ f ∈ s.fields entity, f.isRelationship = true →
    ∃ c, f.cardinality = some c

/-- The entry at a place is that of the end there. -/
theorem exists_end_of_entryAt? {f : Value} (h : entryAt? (s.document settings) p = some f) :
    ∃ e, s.end? p = some e ∧ e.entry s = f := by
  rwa [Document.entryAt?_document, Option.map_eq_some_iff] at h

theorem Linkable.exists_cardinality (h : Linkable s) (hp : s.end? p = some e)
    (hr : e.field.isRelationship = true) : ∃ c, e.field.cardinality = some c := by
  obtain ⟨f, hf, rfl⟩ := Option.map_eq_some_iff.mp hp
  exact h.cardinality p.entity f (List.mem_of_getElem? hf) hr

/-- A field of a name is found in one place of an entity at most. -/
theorem Linkable.place_unique (h : Linkable s) (hp : s.end? p = some e) (hq : s.end? q = some g)
    (hentity : p.entity = q.entity) (hname : e.field.name = g.field.name) : p = q := by
  obtain ⟨f, hf, rfl⟩ := Option.map_eq_some_iff.mp hp
  obtain ⟨f', hf', rfl⟩ := Option.map_eq_some_iff.mp hq
  have hlt : p.index < ((s.fields p.entity).map Field.name).length := by
    rw [List.length_map]
    exact (List.getElem?_eq_some_iff.mp hf).1
  have hindex : p.index = q.index := by
    apply (List.getElem?_inj hlt (h.distinct p.entity)).mp
    rw [List.getElem?_map, List.getElem?_map, hf, hentity, hf', Option.map_some, Option.map_some,
      hname]
  rw [Place.mk.injEq]
  exact ⟨hentity, hindex⟩

theorem exists_link_iff (h : Linkable s) (hp : s.end? p = some e)
    (hr : e.field.isRelationship = true) :
    (∃ link, (e.entry s).at? "inverse" = some link) ↔ ∃ q, Candidate (s.document settings) p q := by
  obtain ⟨c, hc⟩ := h.exists_cardinality hp hr
  rw [RelationshipEnd.at?_inverse hr hc, ← Option.isSome_iff_exists, Option.isSome_map,
    RelationshipEnd.inverse?_isSome_iff h.named]
  exact exists_congr fun q => (candidate_document_iff_exists hp).symm

/-- The link of a field leads to an opposite place, which is linked back to its entity. -/
theorem isLink_of_at?_inverse (h : Linkable s) (hp : s.end? p = some e)
    (hr : e.field.isRelationship = true) {link : Value}
    (hlink : (e.entry s).at? "inverse" = some link) :
    ∃ q g name, IsLink (s.document settings) p (e.entry s) link q g name := by
  obtain ⟨c, hc⟩ := h.exists_cardinality hp hr
  rw [RelationshipEnd.at?_inverse hr hc, Option.map_eq_some_iff] at hlink
  obtain ⟨f, hf, rfl⟩ := hlink
  obtain ⟨q, g, hq, hopp, rfl⟩ := RelationshipEnd.exists_opposite_of_inverse? h.named hf
  have howner := (RelationshipEnd.owner_of_end? hp).1
  have howner' := (RelationshipEnd.owner_of_end? hq).1
  have htarget : e.field.target = some q.entity := howner' ▸ hopp.target
  have hback : g.field.target = some p.entity := howner ▸ hopp.back
  have hc' : g.field.cardinality = some c.inverse := by
    obtain ⟨c', he, hg⟩ := hopp.cardinality
    rw [hg, Option.some.inj (he.symm.trans hc)]
  refine ⟨q, g.entry s, g.field.name, ?_⟩
  exact {
    text := by rw [htarget]; rfl
    target := (e.at?_targetEntity_iff s q.entity).mpr htarget
    found := by rw [Document.entryAt?_document, hq, Option.map_some]
    named := g.at?_name s
    unique := by
      intro q' v hentity hv hname
      obtain ⟨g', hq', rfl⟩ := exists_end_of_entryAt? hv
      rw [g'.at?_name s, Option.some.injEq, Value.text.injEq] at hname
      exact h.place_unique hq' hq hentity hname
    candidate := (candidate_document_iff hp hq).mpr hopp
    kinds := ⟨c, RelationshipEnd.at?_relKind hr hc, RelationshipEnd.at?_relKind hopp.far hc'⟩
    sides := by
      refine ⟨_, _, RelationshipEnd.at?_cardinality hr hc, ?_⟩
      rw [RelationshipEnd.at?_cardinality hopp.far hc', c.selfSide_inverse, c.targetSide_inverse]
    back := by
      -- Facing is symmetric, so the far end has a candidate too, and with it a link.
      have hcandidate : Candidate (s.document settings) q p :=
        (candidate_document_iff hq hp).mpr hopp.symm
      obtain ⟨other, hother⟩ := (exists_link_iff h hq hopp.far).mpr ⟨p, hcandidate⟩
      refine ⟨other, hother, ?_⟩
      rw [RelationshipEnd.at?_inverse hopp.far hc', Option.map_eq_some_iff] at hother
      obtain ⟨f, -, rfl⟩ := hother
      rw [hback, Value.at?_ofDictEntries]
      rfl }

theorem linked_document (h : Linkable s) : Linked (s.document settings) where
  linked_iff := by
    intro p f hf hrel
    obtain ⟨e, hp, rfl⟩ := exists_end_of_entryAt? hf
    exact exists_link_iff h hp ((e.at?_isRelationship_iff s true).mp hrel)
  link := by
    intro p f link hf hrel hlink
    obtain ⟨e, hp, rfl⟩ := exists_end_of_entryAt? hf
    exact isLink_of_at?_inverse h hp ((e.at?_isRelationship_iff s true).mp hrel) hlink
  answered := by
    intro p q f v hf hv hcandidate hunique
    obtain ⟨e, hp, rfl⟩ := exists_end_of_entryAt? hf
    obtain ⟨g, hq, rfl⟩ := exists_end_of_entryAt? hv
    have hopp := (candidate_document_iff hp hq).mp hcandidate
    obtain ⟨c, -, hc⟩ := hopp.cardinality
    have hinverse : g.inverse? s = some e.field := by
      apply RelationshipEnd.inverse?_of_unique h.named hp hopp.symm
      intro p' e' hp' hopp'
      exact hunique p' ((candidate_document_iff hq hp').mpr hopp')
    refine ⟨e.field.name, e.at?_name s, ?_⟩
    rw [RelationshipEnd.at?_inverse hopp.far hc, hinverse, Option.map_some, hopp.back,
      (RelationshipEnd.owner_of_end? hp).1]
    rfl

theorem linkable_parse {text : List Char} (h : Renderable (Jdl.parseSchema text)) :
    Linkable (Jdl.parseSchema text) where
  named := fun hmem => Jdl.ne_empty_of_mem_keys_parse hmem rfl
  distinct := by
    intro entity
    rcases (Jdl.parseSchema text).fields_eq_nil_or_mem entity with hnil | hmem
    · rw [hnil]
      exact List.nodup_nil
    · exact h.distinct _ hmem
  cardinality := by
    intro entity f hf hr
    rcases (Jdl.parseSchema text).fields_eq_nil_or_mem entity with hnil | hmem
    · simp [hnil] at hf
    · have hdeclared := Jdl.isDeclared_parse text _ hmem f hf hr
      exact Option.isSome_iff_exists.mp hdeclared.1

/-- The document of a gated run that succeeds is linked. -/
theorem compileText_linked (text : List Char) (settings : Settings)
    (h : (compileText text settings true).1.success = true) :
    ∃ document, (compileText text settings true).1.document = some document ∧ Linked document := by
  obtain ⟨hdocument, hrenderable⟩ := document_of_success h
  exact ⟨_, hdocument, linked_document (linkable_parse hrenderable)⟩

/-- A tree, which has both ends of its relationship in one entity. -/
def tree : List Char :=
  "entity Node {}\nrelationship OneToMany { Node{children} to Node{parent} }\n".toList

theorem success_tree : (compileText tree ({} : Settings) true).1.success = true := by
  have hpass : Check.passes (Jdl.parseSchema tree) {} = true := by decide +kernel
  have hrun := compileText_outcome tree {} true
  rw [if_neg (by simp [hpass])] at hrun
  exact hrun.1

theorem compileText_linked_tree :
    ∃ document, (compileText tree ({} : Settings) true).1.document = some document ∧ Linked document ∧
      ((entryAt? document ⟨"Node", 1⟩).bind (Value.at? "inverse")).map Value.literal =
        some "\x7b'entity': 'Node', 'fieldName': 'parent'\x7d" := by
  obtain ⟨document, hdocument, hlinked⟩ := compileText_linked tree {} success_tree
  refine ⟨document, hdocument, hlinked, ?_⟩
  have hmade : document = (Jdl.parseSchema tree).document {} :=
    Option.some.inj (hdocument.symm.trans (document_of_success success_tree).1)
  rw [hmade]
  decide +kernel

end EntitySchema.Compile
