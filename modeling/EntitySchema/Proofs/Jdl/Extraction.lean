import EntitySchema.Jdl.EntityBlock
import EntitySchema.Jdl.EnumBlock
import EntitySchema.Jdl.RelationshipBlock
import EntitySchema.Proofs.Dict
import EntitySchema.Proofs.Jdl.Name
import EntitySchema.Proofs.Text.Pieces

/-! What the extractors return: dictionaries built block by block, plain fields with names, values
without blanks around them, and records whose parts are names. -/
namespace EntitySchema.Jdl

open Text (isBlank isWordChar)

theorem mem_findBlocks {α : Type} {read? : Bool → List Char → Option (α × List Char)}
    {afterWord : Bool} {s : List Char} {a : α} (h : a ∈ findBlocks read? afterWord s) :
    ∃ b t rest, read? b t = some (a, rest) := by
  fun_induction findBlocks read? afterWord s with
  | case1 => simp at h
  | case2 b c r a' rest hr hlt ih =>
    rcases List.mem_cons.mp h with rfl | h
    · exact ⟨_, _, _, hr⟩
    · exact ih h
  | case3 b c r a' rest hr hlt =>
    rw [List.mem_singleton] at h
    exact ⟨_, _, _, h ▸ hr⟩
  | case4 b c r hr ih => exact ih h

theorem isName_readBlock? {keyword s body rest : List Char} {name : Identifier}
    (h : readBlock? keyword s = some (name, body, rest)) : isName name.text.toList = true := by
  simp only [readBlock?, readHeader?, Option.bind_eq_bind, Option.bind_eq_some_iff,
    Option.pure_def, Option.some.injEq] at h
  obtain ⟨⟨name', t⟩, ⟨u, -, v, -, ⟨i, w⟩, hi, x, -, he⟩, h⟩ := h
  obtain ⟨rfl, rfl⟩ := Prod.mk.injEq .. ▸ he
  split at h
  · simp only [Option.some.injEq, Prod.mk.injEq] at h
    exact h.1 ▸ isName_read? hi
  · simp at h

/-- A field as a line of source text declares it. -/
structure IsPlain (f : Field) : Prop where
  isName : isName f.name.toList = true
  isRelationship : f.isRelationship = false

theorem isPlain_readFieldLine? {line : List Char} {f : Field} (h : readFieldLine? line = some f) :
    IsPlain f := by
  simp only [readFieldLine?, Option.bind_eq_bind, Option.bind_eq_some_iff, Option.pure_def,
    Option.some.injEq] at h
  obtain ⟨⟨name, s⟩, hname, t, -, ⟨type, u⟩, -, flags, -, rfl⟩ := h
  exact ⟨isName_read? hname, rfl⟩

theorem isPlain_auditFields : ∀ f ∈ auditFields, IsPlain f := by
  have h : ∀ f ∈ auditFields, isName f.name.toList = true ∧ f.isRelationship = false := by decide
  exact fun f hf => ⟨(h f hf).1, (h f hf).2⟩

theorem isId_auditFields : ∀ f ∈ auditFields, f.isId = false := by decide

/-- The audit fields that are added are those whose names are still free, whatever audit fields come
before them. -/
theorem addAuditFields_eq (fields : List Field) :
    addAuditFields fields = fields ++ auditFields.filter fun a => !hasFieldNamed fields a.name := by
  have h (as : List Field) (hp : as.Pairwise fun a b => Text.lowered a.name ≠ Text.lowered b.name)
      (fields : List Field) :
      as.foldl (fun fs f => if hasFieldNamed fs f.name then fs else fs ++ [f]) fields =
        fields ++ as.filter fun a => !hasFieldNamed fields a.name := by
    induction as generalizing fields with
    | nil => simp
    | cons a as ih =>
      rw [List.pairwise_cons] at hp
      rw [List.foldl_cons, ih hp.2]
      by_cases ha : hasFieldNamed fields a.name = true
      · simp [ha]
      · -- The field just added takes no name from those that are still to come.
        have hfilter : (as.filter fun b => !hasFieldNamed (fields ++ [a]) b.name) =
            as.filter fun b => !hasFieldNamed fields b.name := by
          apply List.filter_congr
          intro b hb
          have : (Text.lowered a.name == Text.lowered b.name) = false := by simpa using hp.1 b hb
          simp [hasFieldNamed, this]
        rw [if_neg ha, hfilter]
        simp [ha]
  exact h auditFields (by decide) fields

namespace EntityBlock

theorem isName_name {s : List Char} {b : EntityBlock} (h : b ∈ all s) :
    isName b.name.toList = true := by
  obtain ⟨afterWord, t, rest, hr⟩ := mem_findBlocks h
  simp only [read?] at hr
  split at hr
  · simp at hr
  · simp only [Option.map_eq_some_iff, Prod.mk.injEq, Prod.exists] at hr
    obtain ⟨name, body, rest', hb, rfl, -⟩ := hr
    exact isName_readBlock? hb

theorem isPlain_fields (b : EntityBlock) : ∀ f ∈ b.fields, IsPlain f := by
  have hd : ∀ f ∈ b.declaredFields, IsPlain f := by
    intro f hf
    obtain ⟨line, -, hl⟩ := List.mem_filterMap.mp hf
    exact isPlain_readFieldLine? hl
  intro f hf
  unfold fields at hf
  split at hf
  · rw [addAuditFields_eq] at hf
    rcases List.mem_append.mp hf with hf | hf
    · exact hd f hf
    · exact isPlain_auditFields f (List.mem_of_mem_filter hf)
  · exact hd f hf

def idLines (b : EntityBlock) : Nat :=
  b.lines.countP fun line => (readFieldLine? line).any Field.isId

/-- Audit fields are no identifiers. -/
theorem countP_isId_fields (b : EntityBlock) : b.fields.countP Field.isId = b.idLines := by
  have hd : b.declaredFields.countP Field.isId = b.idLines := by
    rw [declaredFields, idLines, List.countP_filterMap]
    congr 1
    funext line
    cases readFieldLine? line <;> rfl
  unfold fields
  split
  · have ha : (auditFields.filter fun a => !hasFieldNamed b.declaredFields a.name).countP
        Field.isId = 0 := by
      rw [List.countP_eq_zero]
      intro a ha
      simp [isId_auditFields a (List.mem_of_mem_filter ha)]
    rw [addAuditFields_eq, List.countP_append, ha, hd, Nat.add_zero]
  · exact hd

end EntityBlock

theorem extractEntities_fst (s : List Char) :
    (extractEntities s).1 = Dict.ofList ((EntityBlock.all s).map fun b => (b.name, b.fields)) := by
  rw [Dict.ofList, List.foldl_map]
  exact (List.foldl_hom Prod.fst fun acc b => rfl).symm

theorem EnumBlock.declare_fst (d : Dict (List String)) (b : EnumBlock) :
    (b.declare d).1 = if b.values = [] then d else d.insert b.name b.values := by
  unfold EnumBlock.declare
  split <;> rfl

theorem extractEnums_fst (s : List Char) :
    (extractEnums s).1 =
      Dict.ofList (((EnumBlock.all s).filter (·.values ≠ [])).map fun b => (b.name, b.values)) := by
  have h (blocks : List EnumBlock) (d : Dict (List String)) :
      blocks.foldl (fun d b => (b.declare d).1) d =
        (blocks.filter (·.values ≠ [])).foldl (fun d b => d.insert b.name b.values) d := by
    induction blocks generalizing d with
    | nil => rfl
    | cons b blocks ih =>
      rw [List.foldl_cons, ih, EnumBlock.declare_fst]
      by_cases hb : b.values = [] <;> simp [hb]
  rw [Dict.ofList, List.foldl_map, ← h]
  exact (List.foldl_hom Prod.fst fun acc b => rfl).symm

/-- Values are not empty and have no blanks at their ends. -/
theorem EnumBlock.mem_values {b : EnumBlock} {v : String} (h : v ∈ b.values) :
    v ≠ "" ∧ (∀ c ∈ v.toList.head?, isBlank c = false) ∧
      ∀ c ∈ v.toList.getLast?, isBlank c = false := by
  simp only [values, List.mem_map, List.mem_filter, decide_eq_true_eq] at h
  obtain ⟨s, ⟨⟨piece, -, rfl⟩, hne⟩, rfl⟩ := h
  refine ⟨by simpa [← String.toList_inj] using hne, ?_, ?_⟩
  · intro c hc
    rw [String.toList_ofList] at hc
    exact Text.head?_trim hc
  · intro c hc
    rw [String.toList_ofList] at hc
    exact Text.getLast?_trim hc

/-- The parts of a record are names, those of its fields when they are given. -/
structure IsNamed (r : RelationshipRecord) : Prop where
  source : isName r.source.toList = true
  target : isName r.target.toList = true
  sourceField : ∀ name, r.sourceField = some name → isName name.toList = true
  targetField : ∀ name, r.targetField = some name → isName name.toList = true

theorem isName_readFieldSpec? {spec : List Char} {name : String}
    (h : readFieldSpec? spec = some name) : isName name.toList = true := by
  simp only [readFieldSpec?, Option.bind_eq_bind, Option.bind_eq_some_iff] at h
  obtain ⟨⟨i, s⟩, hi, h⟩ := h
  rw [Option.ite_none_right_eq_some, Option.some.injEq] at h
  exact h.2 ▸ isName_read? hi

theorem isName_readSide? {s spec rest : List Char} {entity : Identifier}
    (h : readSide? s = some (entity, spec, rest)) : isName entity.text.toList = true := by
  simp only [readSide?, Option.bind_eq_bind, Option.bind_eq_some_iff] at h
  obtain ⟨⟨i, t⟩, hi, h⟩ := h
  split at h <;>
  · simp only [Option.pure_def, Option.some.injEq, Prod.mk.injEq] at h
    exact h.1 ▸ isName_read? hi

theorem isNamed_readRecord? {type : String} {statement : List Char} {r : RelationshipRecord}
    (h : (readRecord? type statement).1 = some r) : IsNamed r := by
  unfold readRecord? at h
  split at h
  · simp at h
  · rename_i source sourceSpec target targetSpec hs
    simp only [Option.some.injEq] at h
    subst h
    simp only [readStatement?, Option.bind_eq_bind, Option.bind_eq_some_iff] at hs
    obtain ⟨⟨source', sourceSpec', t⟩, hsource, u, -, v, -, w, -, ⟨target', targetSpec', x⟩,
      htarget, hs⟩ := hs
    simp only [Option.ite_none_right_eq_some, Option.some.injEq, Prod.mk.injEq] at hs
    obtain ⟨-, ⟨rfl, rfl⟩, rfl, rfl⟩ := hs
    exact ⟨isName_readSide? hsource, isName_readSide? htarget,
      fun name hn => isName_readFieldSpec? hn, fun name hn => isName_readFieldSpec? hn⟩

theorem isNamed_extractRelationships {s : List Char} {r : RelationshipRecord}
    (h : r ∈ (extractRelationships s).1) : IsNamed r := by
  simp only [extractRelationships, RelationshipBlock.records, List.mem_flatMap,
    List.mem_filterMap] at h
  obtain ⟨b, -, statement, -, hr⟩ := h
  exact isNamed_readRecord? hr

end EntitySchema.Jdl
