import EntitySchema.Proofs.Jdl.Header
import EntitySchema.Proofs.Jdl.Inert

/-! Reading of written blocks. Main statements: each search finds the blocks of its own kind with their
whole bodies, passes over the others, and goes on right behind (`enumBlocks_text`,
`entityBlocks_text`, `relationshipBlocks_text`). -/
namespace EntitySchema.Jdl

open Text (isBlank isWordChar pieces)

theorem Layout.block_append (l : Layout) (keyword name : List Char) (lines : List (List Char))
    (rest : List Char) :
    l.block keyword name lines ++ rest = keyword ++ ' ' :: (name ++ ' ' :: '{' :: '\n' ::
      (l.body lines ++ '}' :: (List.replicate l.gap '\n' ++ rest))) := by
  simp only [block, List.append_assoc, List.cons_append]

theorem readBlock?_block (l : Layout) (keyword : List Char) (w : Word) {lines : List (List Char)}
    (h : '}' ∉ l.body lines) (rest : List Char) :
    readBlock? keyword (l.block keyword w.chars lines ++ rest) =
      some (w.toIdentifier, (l.body lines).dropWhile isBlank,
        List.replicate l.gap '\n' ++ rest) := by
  have hheader := HeaderText.spaced keyword w.isName_chars
  have hname : w.toIdentifier.text.toList = w.chars := String.toList_ofList
  refine readBlock?_eq_some_iff.mpr ⟨'\n' :: l.body lines,
    readHeader?_eq_some_iff.mpr ⟨_, hname ▸ hheader, ?_⟩, by simp [h], ?_⟩
  · simp [l.block_append, hname]
  · rw [List.dropWhile_cons_of_pos (by decide)]

namespace Declaration

def enumBlocks (l : Layout) : Declaration → List EnumBlock
  | enum name values _ => [⟨name.text, (l.body (valueLines values)).dropWhile isBlank⟩]
  | _ => []

def entityBlocks (l : Layout) : Declaration → List EntityBlock
  | entity audited name fields =>
    [⟨if audited then auditMark else [], name.text,
      (l.body (fields.map (·.line))).dropWhile isBlank⟩]
  | _ => []

def relationshipBlocks (l : Layout) : Declaration → List RelationshipBlock
  | relationship type statements =>
    [⟨String.ofList type.letters, '\n' :: l.body (statements.map (·.line))⟩]
  | _ => []

end Declaration

theorem EnumBlock.read?_block (l : Layout) (name : Word) (values : List Word) (rest : List Char) :
    read? false (l.block "enum".toList name.chars (valueLines values) ++ rest) =
      some (⟨name.text, (l.body (valueLines values)).dropWhile isBlank⟩,
        List.replicate l.gap '\n' ++ rest) := by
  have hclose : '}' ∉ l.body (valueLines values) :=
    l.not_mem_body (by decide) fun line hline => not_mem_valueLine hline (by decide) (by decide)
  simp only [read?, readBlock?_block l "enum".toList name hclose rest]
  rfl

theorem enumBlocks_text (l : Layout) (d : Declaration) (rest : List Char) :
    findBlocks EnumBlock.read? false (d.text l ++ rest) =
      d.enumBlocks l ++ findBlocks EnumBlock.read? false rest := by
  have hother (hd : d.keyword ≠ "enum".toList) :
      findBlocks EnumBlock.read? false (d.text l ++ rest) = findBlocks EnumBlock.read? false rest :=
    search_enums.inert_text (by decide) (by simp) l hd rest
  cases d with
  | enum name values _ =>
    rw [Declaration.text, findBlocks_of_some (EnumBlock.read?_block l name values rest),
      search_enums.inert_feed.replicate l.gap rest]
    · rfl
    · rw [l.block_append]
      simp only [List.length_append, List.length_cons]
      omega
  | entity audited name fields => exact hother (show "entity".toList ≠ "enum".toList by decide)
  | relationship type statements =>
    exact hother (show "relationship".toList ≠ "enum".toList by decide)

theorem afterAnnotations_mark {s : List Char} (h : s.head? = some 'e') :
    afterAnnotations (auditMark ++ s) = s := by
  have hs : afterAnnotations s = s := afterAnnotations_of_head? (by rw [h]; decide)
  have hblank : ('\n' :: s).dropWhile isBlank = s := by
    cases s with
    | nil => cases h
    | cons c r =>
      obtain rfl := Option.some.inj h
      have hfeed : isBlank '\n' = true := by decide
      have he : isBlank 'e' = false := by decide
      simp [hfeed, he]
  have hname : isName "EnableAudit".toList = true := by decide
  obtain ⟨i, hi, -⟩ := read?_append (s := '\n' :: s) hname (by rintro c ⟨⟩; decide)
  have hmark : afterAnnotation? (auditMark ++ s) = some s := by
    have hshape : auditMark ++ s = '@' :: ("EnableAudit".toList ++ '\n' :: s) := by
      simp only [auditMark, List.cons_append, List.append_assoc, List.nil_append]
    have hnone : enclosed? '(' ')' ('\n' :: s) = none :=
      enclosed?_of_ne (by rintro c ⟨⟩; decide)
    simp only [hshape, afterAnnotation?, hi, Option.bind_eq_bind, Option.bind_some, hnone, hblank]
    rfl
  have hlt : s.length < (auditMark ++ s).length := by
    simp only [auditMark, List.length_append, List.length_cons]
    omega
  unfold afterAnnotations
  simp only [hmark, dif_pos hlt, hs]

theorem EntityBlock.read?_block (l : Layout) (audited : Bool) (name : Word)
    (fields : List FieldDeclaration) (rest : List Char) :
    read? false ((Declaration.entity audited name fields).text l ++ rest) =
      some (⟨if audited then auditMark else [], name.text,
        (l.body (fields.map (·.line))).dropWhile isBlank⟩, List.replicate l.gap '\n' ++ rest) := by
  let mark : List Char := if audited then auditMark else []
  let block := l.block "entity".toList name.chars (fields.map (·.line)) ++ rest
  have hclose : '}' ∉ l.body (fields.map (·.line)) := by
    apply l.not_mem_body (by decide)
    intro line hline
    obtain ⟨f, -, rfl⟩ := List.mem_map.mp hline
    exact f.not_mem_line (by decide) (by decide)
  have hread : readBlock? "entity".toList block = _ :=
    readBlock?_block l "entity".toList name hclose rest
  have hhead : block.head? = some 'e' := by
    have hblock : block = "entity".toList ++ _ := l.block_append _ _ _ rest
    rw [hblock, List.head?_append]
    rfl
  -- The block starts behind the mark, and what stands in front of it are its annotations.
  have hannotations : afterAnnotations (mark ++ block) = block := by
    cases audited with
    | true => exact afterAnnotations_mark hhead
    | false =>
      change afterAnnotations block = block
      exact afterAnnotations_of_head? (by rw [hhead]; decide)
  have htake : (mark ++ block).take ((mark ++ block).length - block.length) = mark := by
    rw [List.length_append, Nat.add_sub_cancel, List.take_left]
  have hshape : (Declaration.entity audited name fields).text l ++ rest = mark ++ block :=
    List.append_assoc _ _ _
  simp only [read?, hshape, hannotations, htake, hread]
  rfl

theorem entityBlocks_text (l : Layout) (d : Declaration) (rest : List Char) :
    findBlocks EntityBlock.read? false (d.text l ++ rest) =
      d.entityBlocks l ++ findBlocks EntityBlock.read? false rest := by
  have hother (hd : d.keyword ≠ "entity".toList) :
      findBlocks EntityBlock.read? false (d.text l ++ rest) =
        findBlocks EntityBlock.read? false rest :=
    search_entities.inert_text (by decide) (fun _ => rfl) l hd rest
  cases d with
  | enum name values _ => exact hother (show "enum".toList ≠ "entity".toList by decide)
  | entity audited name fields =>
    rw [findBlocks_of_some (EntityBlock.read?_block l audited name fields rest),
      search_entities.inert_feed.replicate l.gap rest]
    · rfl
    · simp only [Declaration.text, Layout.block, List.length_append, List.length_cons]
      omega
  | relationship type statements =>
    exact hother (show "relationship".toList ≠ "entity".toList by decide)

/-- A text that leaves the nesting depth as it was, and never ends a block that is open before it. -/
def Balanced (s : List Char) : Prop :=
  ∀ depth rest, 0 < depth → readToClosing depth (s ++ rest) =
    ((readToClosing depth rest).1 + s.length, (readToClosing depth rest).2)

theorem Balanced.append {s t : List Char} (hs : Balanced s) (ht : Balanced t) :
    Balanced (s ++ t) := by
  intro depth rest hd
  rw [List.append_assoc, hs depth (t ++ rest) hd, ht depth rest hd]
  simp only [List.length_append, Prod.mk.injEq, and_true]
  omega

theorem balanced_of_plain {s : List Char} (ho : '{' ∉ s) (hc : '}' ∉ s) : Balanced s := by
  intro depth rest hd
  induction s with
  | nil => rfl
  | cons c s ih =>
    have hchange : depthChange c = 0 := by
      have hopen : c ≠ '{' := fun he => ho (by simp [he])
      have hclose : c ≠ '}' := fun he => hc (by simp [he])
      simp [depthChange, hopen, hclose]
    have hs := ih (fun hm => ho (List.mem_cons_of_mem c hm)) fun hm => hc (List.mem_cons_of_mem c hm)
    rw [List.cons_append, readToClosing, if_pos hd, hchange, Int.add_zero, hs]
    rfl

theorem Balanced.braces {s : List Char} (hs : Balanced s) : Balanced ('{' :: (s ++ ['}'])) := by
  intro depth rest hd
  have hopen : depthChange '{' = 1 := by decide
  have hclose : depthChange '}' = -1 := by decide
  have hinner : 0 < depth + 1 := by omega
  have hback : depth + 1 + -1 = depth := by omega
  rw [List.cons_append, readToClosing, if_pos hd, hopen, List.append_assoc, hs _ _ hinner,
    List.singleton_append, readToClosing, if_pos hinner, hclose, hback]
  simp only [List.length_append, List.length_cons, List.length_nil, Prod.mk.injEq, and_true]
  omega

theorem Balanced.flatMap {β : Type} {f : β → List Char} {l : List β}
    (h : ∀ b ∈ l, Balanced (f b)) : Balanced (l.flatMap f) := by
  induction l with
  | nil => exact balanced_of_plain (by simp) (by simp)
  | cons b l ih =>
    rw [List.flatMap_cons]
    exact (h b (by simp)).append (ih fun a ha => h a (by simp [ha]))

theorem splitAtClosing?_of_balanced {body : List Char} (h : Balanced body) (rest : List Char) :
    splitAtClosing? (body ++ '}' :: rest) = some (body, rest) := by
  have hclose : readToClosing 1 ('}' :: rest) = (1, 0) := by
    have hdepth : (1 : Int) + depthChange '}' = 0 := by decide
    rw [readToClosing, if_pos (by decide), hdepth]
    cases rest with
    | nil => rfl
    | cons c r => simp [readToClosing]
  have hread := h 1 ('}' :: rest) (by decide)
  rw [hclose] at hread
  simp only [splitAtClosing?, hread, if_true]
  have htake : 1 + body.length - 1 = body.length := by omega
  have hdrop : (body ++ '}' :: rest).drop (1 + body.length) = rest := by
    rw [Nat.add_comm, ← List.drop_drop, List.drop_left]
    rfl
  rw [htake, hdrop, List.take_left]

theorem balanced_line (s : Statement) : Balanced s.line := by
  have hword (w : Word) : Balanced w.chars :=
    balanced_of_plain (Word.not_mem (by decide)) (Word.not_mem (by decide))
  have hspec (f : Option Word) : Balanced (Statement.spec f) := by
    cases f with
    | none => exact balanced_of_plain (by simp [Statement.spec]) (by simp [Statement.spec])
    | some f => exact (hword f).braces
  have hto : Balanced (' ' :: ("to".toList ++ [' '])) := balanced_of_plain (by decide) (by decide)
  have hshape : s.line = s.source.chars ++ (Statement.spec s.sourceField ++
      (' ' :: ("to".toList ++ [' ']) ++ (s.target.chars ++ Statement.spec s.targetField))) := by
    simp only [Statement.line, List.append_assoc, List.cons_append, List.nil_append]
  rw [hshape]
  exact (hword s.source).append ((hspec s.sourceField).append
    (hto.append ((hword s.target).append (hspec s.targetField))))

theorem balanced_body (l : Layout) (statements : List Statement) :
    Balanced (l.body (statements.map (·.line))) := by
  apply Balanced.flatMap
  intro line hline
  obtain ⟨s, -, rfl⟩ := List.mem_map.mp hline
  have hindent : Balanced (List.replicate l.indent ' ') :=
    balanced_of_plain (by simp [List.mem_replicate]) (by simp [List.mem_replicate])
  exact (hindent.append (balanced_line s)).append (balanced_of_plain (by decide) (by decide))

theorem readRelationshipHead?_append (type : TypeName) (inner : List Char) :
    readRelationshipHead?
        ("relationship".toList ++ ' ' :: (type.letters ++ ' ' :: '{' :: inner)) =
      some (type.letters, inner) := by
  exact readRelationshipHead?_eq_some_iff.mpr
    ⟨type.isAlpha, _, .spaced "relationship".toList type.isName_letters, by simp⟩

theorem RelationshipBlocks.closedIn_of_head {s type inner body rest : List Char}
    (hhead : readRelationshipHead? s = some (type, inner))
    (hbody : splitAtClosing? inner = some (body, rest)) (hlt : rest.length < s.length) :
    closedIn false s = ⟨String.ofList type, body⟩ :: closedIn false rest := by
  cases s with
  | nil => simp at hlt
  | cons c r =>
    rw [closedIn, readFrom.eq_def]
    simp only [Bool.false_eq_true, if_false, hhead, hbody, dif_pos hlt]
    rw [closed_readFrom _ 0]
    rfl

theorem relationshipBlocks_text (l : Layout) (d : Declaration) (rest : List Char) :
    RelationshipBlocks.closedIn false (d.text l ++ rest) =
      d.relationshipBlocks l ++ RelationshipBlocks.closedIn false rest := by
  have hother (hd : d.keyword ≠ "relationship".toList) :
      RelationshipBlocks.closedIn false (d.text l ++ rest) =
        RelationshipBlocks.closedIn false rest :=
    search_relationships.inert_text (by decide) (by simp) l hd rest
  cases d with
  | enum name values _ => exact hother (show "enum".toList ≠ "relationship".toList by decide)
  | entity audited name fields =>
    exact hother (show "entity".toList ≠ "relationship".toList by decide)
  | relationship type statements =>
    let body := l.body (statements.map (·.line))
    let tail := List.replicate l.gap '\n' ++ rest
    have hfeed : Balanced ['\n'] := balanced_of_plain (by decide) (by decide)
    have hsplit : splitAtClosing? ('\n' :: (body ++ '}' :: tail)) = some ('\n' :: body, tail) :=
      splitAtClosing?_of_balanced (hfeed.append (balanced_body l statements)) tail
    have hhead := readRelationshipHead?_append type ('\n' :: (body ++ '}' :: tail))
    rw [Declaration.text, l.block_append, RelationshipBlocks.closedIn_of_head hhead hsplit,
      search_relationships.inert_feed.replicate l.gap rest]
    · rfl
    · simp only [tail, body, List.length_append, List.length_cons]
      omega

end EntitySchema.Jdl
