import EntitySchema.Proofs.Jdl.Block
import EntitySchema.Proofs.Jdl.Comment
import EntitySchema.Proofs.Jdl.Invariants

/-! Parsing of written documents. The three searches meet in the parser: each returns what the
declarations of its kind say, in their order, and the schema is put together from that alone
(`parse_documentText`). -/
namespace EntitySchema.Jdl

open Text (isBlank isWordChar pieces)

theorem slash_not_mem_block (l : Layout) {keyword name : List Char} {lines : List (List Char)}
    (hk : isName keyword = true) (hn : isName name = true) (hl : ∀ line ∈ lines, '/' ∉ line) :
    '/' ∉ l.block keyword name lines := by
  have hname {s : List Char} (hs : isName s = true) : '/' ∉ s :=
    fun hc => absurd (all_isWordChar_of_isName hs '/' hc) (by decide)
  have hbody : '/' ∉ l.body lines := l.not_mem_body (by decide) hl
  simp [Layout.block, hname hk, hname hn, hbody, List.mem_replicate]

theorem slash_not_mem_text (l : Layout) (d : Declaration) : '/' ∉ d.text l := by
  have hk := d.isName_keyword
  cases d with
  | enum name values _ =>
    apply slash_not_mem_block l hk name.isName_chars
    exact fun line hline => not_mem_valueLine hline (by decide) (by decide)
  | entity audited name fields =>
    have hmark : '/' ∉ if audited then auditMark else [] := by
      cases audited with
      | true => exact (by decide : '/' ∉ auditMark)
      | false => exact List.not_mem_nil
    intro h
    refine (List.mem_append.mp h).elim hmark (slash_not_mem_block l hk name.isName_chars ?_)
    intro line hline
    obtain ⟨f, -, rfl⟩ := List.mem_map.mp hline
    exact f.not_mem_line (by decide) (by decide)
  | relationship type statements =>
    apply slash_not_mem_block l hk type.isName_letters
    intro line hline hc
    obtain ⟨s, -, rfl⟩ := List.mem_map.mp hline
    rcases Statement.mem_line hc with hc | hc
    · exact absurd hc (by decide)
    · exact absurd hc (by decide)

theorem stripComments_documentText (l : Layout) (declarations : List Declaration) :
    stripComments (documentText l declarations) = documentText l declarations := by
  apply stripComments_of_not_mem
  intro h
  obtain ⟨d, -, hc⟩ := List.mem_flatMap.mp h
  exact slash_not_mem_text l d hc

/-- What a search finds declaration by declaration it finds in a document. -/
theorem run_documentText {α : Type} {search : Bool → List Char → List α} {l : Layout}
    {blocks : Declaration → List α} (hnil : search false [] = [])
    (h : ∀ d rest, search false (d.text l ++ rest) = blocks d ++ search false rest)
    (declarations : List Declaration) :
    search false (documentText l declarations) = declarations.flatMap blocks := by
  induction declarations with
  | nil => exact hnil
  | cons d declarations ih =>
    have hshape : documentText l (d :: declarations) = d.text l ++ documentText l declarations := rfl
    rw [hshape, h, ih, List.flatMap_cons]

theorem extractEnums_documentText (l : Layout) (declarations : List Declaration) :
    (extractEnums (documentText l declarations)).1 =
      Dict.last (declarations.flatMap Declaration.enums) := by
  have hall : EnumBlock.all (documentText l declarations) =
      declarations.flatMap (Declaration.enumBlocks l) :=
    run_documentText (by simp [findBlocks]) (enumBlocks_text l) declarations
  have hblocks (d : Declaration) :
      ((d.enumBlocks l).filter (·.values ≠ [])).map (fun b => (b.name, b.values)) = d.enums := by
    cases d with
    | enum name values hne =>
      have hvalues : EnumBlock.values
          ⟨name.text, (l.body (valueLines values)).dropWhile isBlank⟩ = values.map (·.text) := by
        change (pieces _ ((l.body (valueLines values)).dropWhile isBlank)).map String.ofList = _
        rw [Text.pieces_dropWhile, pieces_values, List.map_map]
        rfl
      have hkept : values.map (·.text) ≠ [] := by simpa using hne
      simp only [Declaration.enumBlocks, Declaration.enums]
      rw [List.filter_cons_of_pos (by simpa [hvalues] using hne), List.filter_nil, List.map_singleton,
        hvalues]
    | entity => rfl
    | relationship => rfl
  rw [extractEnums_fst, hall, Dict.ofList_eq_last, List.filter_flatMap, List.map_flatMap]
  simp only [hblocks]

theorem declaredFields_fieldLines (annotations : List Char) (name : String) (l : Layout)
    (fields : List FieldDeclaration) :
    EntityBlock.declaredFields
        ⟨annotations, name, (l.body (fields.map (·.line))).dropWhile isBlank⟩ =
      fields.map (·.field) := by
  change (pieces _ ((l.body (fields.map (·.line))).dropWhile isBlank)).filterMap readFieldLine? = _
  rw [Text.pieces_dropWhile, pieces_fieldLines, List.filterMap_map]
  simp [readFieldLine?_line]

theorem EntityBlock.fields_eq (b : EntityBlock) :
    b.fields = b.declaredFields ++ if b.isAudited then auditFields.filter fun a =>
      b.declaredFields.all fun f => Text.lowered f.name ≠ Text.lowered a.name else [] := by
  have hfree (a : Field) : (!hasFieldNamed b.declaredFields a.name) =
      b.declaredFields.all fun f => Text.lowered f.name ≠ Text.lowered a.name := by
    simp only [hasFieldNamed, List.not_any_eq_all_not, beq_eq_decide, ne_eq, decide_not]
  unfold fields
  split
  · simp only [addAuditFields_eq, hfree]
  · rw [List.append_nil]

theorem EntityBlock.any_isId_fields (b : EntityBlock) :
    b.fields.any Field.isId = b.declaredFields.any fun f => Text.lowered f.name = "id" := by
  have hid : Field.isId = fun f => decide (Text.lowered f.name = "id") := by
    funext f
    rw [Field.isId, beq_eq_decide]
  have haudit : ∀ f ∈ (if b.isAudited then auditFields.filter fun a =>
      b.declaredFields.all fun f => Text.lowered f.name ≠ Text.lowered a.name else []),
      ¬f.isId = true := by
    intro f hf
    split at hf
    · simp [isId_auditFields f (List.mem_of_mem_filter hf)]
    · simp at hf
  rw [fields_eq, List.any_append, List.any_eq_false.mpr haudit, Bool.or_false, hid]

theorem extractEntities_documentText (l : Layout) (declarations : List Declaration) :
    ensureIds (extractEntities (documentText l declarations)).1 =
      Dict.last (declarations.flatMap Declaration.entities) := by
  have hall : EntityBlock.all (documentText l declarations) =
      declarations.flatMap (Declaration.entityBlocks l) :=
    run_documentText (by simp [findBlocks]) (entityBlocks_text l) declarations
  have hblocks (d : Declaration) :
      (d.entityBlocks l).map (fun b => (b.name, ensureId b.fields)) = d.entities := by
    cases d with
    | enum => rfl
    | entity audited name fields =>
      have haudited : EntityBlock.isAudited ⟨if audited then auditMark else [], name.text,
          (l.body (fields.map (·.line))).dropWhile isBlank⟩ = audited := by
        cases audited with
        | true => exact (by decide : hasLetters "@enableaudit".toList false false auditMark = true)
        | false => rfl
      simp only [Declaration.entityBlocks, Declaration.entities, List.map_singleton, ensureId,
        EntityBlock.any_isId_fields]
      rw [EntityBlock.fields_eq, declaredFields_fieldLines, haudited]
      split <;> rfl
    | relationship => rfl
  rw [extractEntities_fst, hall, ensureIds, Dict.map_ofList, Dict.ofList_eq_last, List.map_map,
    List.map_flatMap]
  simp only [Function.comp_def, hblocks]

theorem extractRelationships_documentText (l : Layout) (declarations : List Declaration) :
    (extractRelationships (documentText l declarations)).1 =
      declarations.flatMap Declaration.records := by
  have hall : RelationshipBlocks.closedIn false (documentText l declarations) =
      declarations.flatMap (Declaration.relationshipBlocks l) :=
    run_documentText (by simp [RelationshipBlocks.closedIn, RelationshipBlocks.readFrom])
      (relationshipBlocks_text l) declarations
  have hblocks (d : Declaration) :
      (d.relationshipBlocks l).flatMap (·.records) = d.records := by
    cases d with
    | enum => rfl
    | entity => rfl
    | relationship type statements =>
      have hfeed : isBlank '\n' = true := by decide
      simp only [Declaration.relationshipBlocks, Declaration.records, List.flatMap_singleton]
      change (pieces _ ('\n' :: l.body (statements.map (·.line)))).filterMap _ = _
      rw [Text.pieces_cons_of_blank hfeed, pieces_statements, List.filterMap_map]
      simp [readRecord?_line]
  change (RelationshipBlocks.closedIn false (documentText l declarations)).flatMap _ = _
  rw [hall, List.flatMap_assoc]
  simp only [hblocks]

theorem flatMap_ite_of_mem {κ β : Type} [DecidableEq κ] {keys : List κ} {key : κ}
    (hd : keys.Nodup) (hk : key ∈ keys) (values : List β) :
    keys.flatMap (fun k => if k = key then values else []) = values := by
  induction keys with
  | nil => simp at hk
  | cons k keys ih =>
    rw [List.nodup_cons] at hd
    by_cases h : k = key
    · have hrest : keys.flatMap (fun k => if k = key then values else []) = [] := by
        rw [List.flatMap_eq_nil_iff]
        intro j hj
        have hne : j ≠ key := by
          rintro rfl
          exact hd.1 (h ▸ hj)
        exact if_neg hne
      rw [List.flatMap_cons, if_pos h, hrest, List.append_nil]
    · have hmem : key ∈ keys := (List.mem_cons.mp hk).resolve_left (Ne.symm h)
      rw [List.flatMap_cons, if_neg h, List.nil_append, ih hd.2 hmem]

/-- What only declarations of one kind give is given by the groups in the same order. -/
theorem flatMap_grouped {β : Type} {f : Declaration → List β} {keyword : List Char}
    (hk : keyword ∈ keywords) (h : ∀ d, d.keyword ≠ keyword → f d = [])
    (declarations : List Declaration) :
    (grouped declarations).flatMap f = declarations.flatMap f := by
  have hkept : (declarations.filter (·.keyword = keyword)).flatMap f = declarations.flatMap f := by
    induction declarations with
    | nil => rfl
    | cons d declarations ih =>
      by_cases hd : d.keyword = keyword
      · simp [hd, ih]
      · simp [hd, ih, h d hd]
  have hother (k : List Char) (hne : k ≠ keyword) :
      (declarations.filter (·.keyword = k)).flatMap f = [] := by
    rw [List.flatMap_eq_nil_iff]
    intro d hd
    have hkeyword : d.keyword = k := by simpa using List.of_mem_filter hd
    exact h d (hkeyword ▸ hne)
  have hgroups (k : List Char) : (declarations.filter (·.keyword = k)).flatMap f =
      if k = keyword then declarations.flatMap f else [] := by
    by_cases hkey : k = keyword
    · rw [if_pos hkey, hkey, hkept]
    · rw [if_neg hkey, hother k hkey]
  rw [grouped, List.flatMap_assoc]
  simp only [hgroups]
  exact flatMap_ite_of_mem (by decide) hk _

theorem schema_documentText (l : Layout) (declarations : List Declaration) :
    (parse (documentText l declarations)).schema =
      ⟨(materialize (Dict.last (declarations.flatMap Declaration.entities))
          (declarations.flatMap Declaration.records)).entities,
        Dict.last (declarations.flatMap Declaration.enums)⟩ := by
  rw [← extractEnums_documentText l, ← extractEntities_documentText l,
    ← extractRelationships_documentText l]
  simp only [parse, stripComments_documentText]

/-- A document is parsed into what its declarations say: the last enumeration and the last entity of
each name at the place of the first, and the relationship fields that the statements demand in their
order. How the document is laid out and how declarations of different kinds alternate makes no
difference. -/
theorem parse_documentText (l : Layout) (declarations : List Declaration) :
    (parse (documentText l declarations)).nameless = false ∧
      (parse (documentText l declarations)).records = declarations.flatMap Declaration.records ∧
      (parse (documentText l declarations)).schema =
        ⟨(materialize (Dict.last (declarations.flatMap Declaration.entities))
            (declarations.flatMap Declaration.records)).entities,
          Dict.last (declarations.flatMap Declaration.enums)⟩ ∧
      ∀ other : Layout, (parse (documentText other (grouped declarations))).schema =
        (parse (documentText l declarations)).schema := by
  refine ⟨nameless_parse _, ?_, schema_documentText l declarations, ?_⟩
  · rw [← extractRelationships_documentText l]
    simp only [parse, stripComments_documentText]
  · intro other
    have henums : (grouped declarations).flatMap Declaration.enums =
        declarations.flatMap Declaration.enums := by
      apply flatMap_grouped (show "enum".toList ∈ keywords by decide)
      rintro (_ | _ | _) hd
      · exact absurd rfl hd
      · rfl
      · rfl
    have hentities : (grouped declarations).flatMap Declaration.entities =
        declarations.flatMap Declaration.entities := by
      apply flatMap_grouped (show "entity".toList ∈ keywords by decide)
      rintro (_ | _ | _) hd
      · rfl
      · exact absurd rfl hd
      · rfl
    have hrecords : (grouped declarations).flatMap Declaration.records =
        declarations.flatMap Declaration.records := by
      apply flatMap_grouped (show "relationship".toList ∈ keywords by decide)
      rintro (_ | _ | _) hd
      · rfl
      · rfl
      · exact absurd rfl hd
    rw [schema_documentText, schema_documentText, henums, hentities, hrecords]

end EntitySchema.Jdl
