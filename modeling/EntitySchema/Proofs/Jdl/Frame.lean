import EntitySchema.Proofs.Jdl.Composition
import EntitySchema.Proofs.Jdl.Extraction
import EntitySchema.Proofs.Jdl.Shape

/-! What the body of a relationship block declares. The searches for entities and enumerations do not
know of relationship blocks. Where no block lies across the braces of one, its body can be searched on
its own (`BlockKind.splits_of_not_covers`), and the blocks of a text are those in front of the body,
those in it and those behind it (`extract_relationship_body`). -/
namespace EntitySchema.Jdl

open Text (isBlank isWordChar)

namespace BlockKind

variable {α : Type} {k : BlockKind}

/-- A text that ends with a brace, and for the search for entities not within an annotation. -/
structure Ends (k : BlockKind) (s : List Char) : Prop where
  brace : ∃ c ∈ s.getLast?, c = '{' ∨ c = '}'
  outside : k = .entity → ¬EndsInParentheses s

theorem Ends.suffix (front : List Char) {s : List Char} (h : k.Ends (front ++ s)) (hs : s ≠ []) :
    k.Ends s where
  brace := List.getLast?_append_of_ne_nil front hs ▸ h.brace
  outside := fun hk hin => h.outside hk (hin.append front)

theorem Ends.endsInWord {s : List Char} (h : k.Ends s) (b : Bool) : endsInWord b s = false := by
  obtain ⟨c, hc, hbrace⟩ := h.brace
  rw [Jdl.endsInWord, Option.mem_def.mp hc]
  rcases hbrace with rfl | rfl
  · exact (by decide : isWordChar '{' = false)
  · exact (by decide : isWordChar '}' = false)

/-- Annotations in such a text are the same when more text follows. -/
theorem Ends.start_append {s : List Char} (h : k.Ends s) (t : List Char) :
    k.start (s ++ t) = k.start s ++ t ∧ k.Ends (k.start s) := by
  cases k with
  | entity =>
    obtain ⟨happend, hstart⟩ := Sealed.afterAnnotations_append ⟨h.brace, h.outside rfl⟩ t
    exact ⟨happend, hstart.brace, fun _ => hstart.outside⟩
  | enum => exact ⟨rfl, h⟩

/-- What is read in a text followed by another one: nothing, or a block of the first text, or a header
there with a body that ends at the first closing brace of the second. -/
theorem Ends.read?_append {s : List Char} (h : k.Ends s) (make : List Char → String → List Char → α)
    (b : Bool) : (∀ t, k.read? make b (s ++ t) = none) ∨
      (∃ a front rest, s = front ++ '}' :: rest ∧
        ∀ t, k.read? make b (s ++ t) = some (a, rest ++ t)) ∨
      ∃ annotations name header inner, s = annotations ++ (header ++ inner) ∧
        HeaderText k.keyword name header ∧ '}' ∉ inner ∧ ∀ body rest, '}' ∉ body →
          k.read? make b (s ++ (body ++ '}' :: rest)) =
            some (make annotations (String.ofList name) ((inner ++ body).dropWhile isBlank), rest) := by
  obtain ⟨annotations, hs, -, -⟩ := k.exists_of_start s
  obtain ⟨-, hstart⟩ := h.start_append []
  have hmark : ∃ c ∈ k.start s, isWordChar c = false ∧ isBlank c = false := by
    obtain ⟨c, hc, rfl | rfl⟩ := hstart.brace
    · exact ⟨'{', List.mem_of_getLast? hc, by decide⟩
    · exact ⟨'}', List.mem_of_getLast? hc, by decide⟩
  have hread (t : List Char) : k.read? make b (s ++ t) =
      if b && annotations.isEmpty then none
      else (readBlock? k.keyword (k.start s ++ t)).map fun block =>
        (make annotations block.1.text block.2.1, block.2.2) := by
    have happend := (h.start_append t).1
    have hparts : s ++ t = annotations ++ k.start (s ++ t) := by
      rw [happend, ← List.append_assoc, ← hs]
    rw [read?_eq make b hparts, happend]
  by_cases hword : (b && annotations.isEmpty) = true
  · exact .inl fun t => by rw [hread, if_pos hword]
  simp only [if_neg hword] at hread
  have hheaders (t : List Char) := readHeader?_append_of_mem k.isName_keyword hmark t
  cases hheader : readHeader? k.keyword (k.start s) with
  | none =>
    refine .inl fun t => ?_
    have hnone : readBlock? k.keyword (k.start s ++ t) = none := by
      rw [Option.eq_none_iff_forall_ne_some]
      rintro ⟨i, body, rest⟩ hblock
      obtain ⟨inner, hi, -⟩ := readBlock?_eq_some_iff.mp hblock
      rw [hheaders, hheader] at hi
      cases hi
    rw [hread, hnone]
    rfl
  | some x =>
    obtain ⟨i, inner⟩ := x
    have hinner (t : List Char) : readHeader? k.keyword (k.start s ++ t) = some (i, inner ++ t) := by
      rw [hheaders, hheader]
      rfl
    obtain ⟨header, hh, hshape⟩ := readHeader?_eq_some_iff.mp hheader
    rw [hshape] at hs
    by_cases hclose : '}' ∈ inner
    · obtain ⟨body, rest, rfl, hbody⟩ := List.eq_append_cons_of_mem hclose
      refine .inr (.inl ⟨make annotations i.text (body.dropWhile isBlank),
        annotations ++ (header ++ body), rest, by simp [hs], fun t => ?_⟩)
      have hblock : readBlock? k.keyword (k.start s ++ t) =
          some (i, body.dropWhile isBlank, rest ++ t) :=
        readBlock?_eq_some_iff.mpr ⟨body, by rw [hinner]; simp, hbody, rfl⟩
      rw [hread, hblock]
      rfl
    · refine .inr (.inr ⟨annotations, i.text.toList, header, inner, hs, hh, hclose, ?_⟩)
      intro body rest hbody
      have hblock : readBlock? k.keyword (k.start s ++ (body ++ '}' :: rest)) =
          some (i, (inner ++ body).dropWhile isBlank, rest) :=
        readBlock?_eq_some_iff.mpr ⟨inner ++ body, by rw [hinner]; simp, by simp [hclose, hbody], rfl⟩
      rw [hread, hblock, String.ofList_toList]
      rfl

/-- A text that ends with a brace can be searched on its own if no block lies across its end. -/
theorem splits_of_not_covers (make : List Char → String → List Char → α) {b : Bool} {s t : List Char}
    {fs : List (Found α)} (h : s ≠ [] → k.Ends s) (hrun : Finds (k.read? make) b (s ++ t) fs)
    (ht : '}' ∈ t) (hcovers : ∀ f ∈ fs, ¬f.Covers t) (u : List Char) :
    Splits (k.read? make) b s u := by
  generalize htext : s ++ t = text at hrun
  obtain ⟨body, behind, rfl, hbody⟩ := List.eq_append_cons_of_mem ht
  induction hrun generalizing s with
  | nil => simp at htext
  | @skip b c r fs hr later ih =>
    cases s with
    | nil => exact splits_nil _ b u
    | cons d s =>
      have hs := h (List.cons_ne_nil d s)
      rw [← htext] at hr
      rcases hs.read?_append make b with hnone | ⟨a, front, rest, -, hsome⟩ | ⟨_, _, _, _, -, -, -, hsome⟩
      · obtain ⟨rfl, hr⟩ := List.cons.inj htext
        exact .skip hnone (ih (fun hne => hs.suffix [d] hne) hcovers hr)
      · rw [hsome] at hr
        cases hr
      · rw [hsome body behind hbody] at hr
        cases hr
  | @find b text rest a fs hr later ih =>
    cases s with
    | nil => exact splits_nil _ b u
    | cons d s =>
      have hs := h (List.cons_ne_nil d s)
      rw [← htext] at hr
      rcases hs.read?_append make b with hnone | ⟨a', front, rest', hshape, hsome⟩ |
        ⟨_, _, _, _, -, -, -, hsome⟩
      · rw [hnone] at hr
        cases hr
      · rw [hsome] at hr
        obtain ⟨rfl, rfl⟩ := Prod.mk.inj (Option.some.inj hr)
        have hrest : rest' ≠ [] → k.Ends rest' := by
          intro hne
          rw [hshape, ← List.singleton_append, ← List.append_assoc] at hs
          exact hs.suffix _ hne
        exact .find (closing_read? k make) hshape hsome
          (ih hrest (fun f hf => hcovers f (List.mem_cons_of_mem _ hf)) rfl)
      · -- A block that is open at the end of the text would lie across it.
        rw [hsome body behind hbody] at hr
        obtain ⟨rfl, rfl⟩ := Prod.mk.inj (Option.some.inj hr)
        refine absurd ⟨?_, ?_⟩ (hcovers _ List.mem_cons_self)
        · simp only [List.length_append, List.length_cons]
          omega
        · simp only [← htext, List.length_append, List.length_cons]
          omega

/-- A block that lies across the end of a text has its header in the text, and is closed at the first
closing brace behind. -/
theorem exists_of_covers (make : List Char → String → List Char → α) {b : Bool} {s t : List Char}
    {fs : List (Found α)} (h : k.Ends s) (hrun : Finds (k.read? make) b (s ++ t) fs) (ht : '}' ∈ t)
    {f : Found α} (hf : f ∈ fs) (hcovers : f.Covers t) : ∃ front annotations name header inner body,
      s = front ++ (header ++ inner) ∧ HeaderText k.keyword name header ∧ '}' ∉ inner ∧
      t = body ++ '}' :: f.behind ∧
      f.block = make annotations (String.ofList name) ((inner ++ body).dropWhile isBlank) := by
  obtain ⟨front, htext, hread⟩ := hrun.exists_of_mem (closing_read? k make) hf
  obtain ⟨w, hw⟩ : t <:+ f.start :=
    List.suffix_of_suffix_length_le ⟨s, htext⟩ ⟨front, rfl⟩ hcovers.2.le
  have hs : s = front ++ w := by
    rw [← List.append_left_inj t, htext, ← hw, List.append_assoc]
  have hne : w ≠ [] := by
    rintro rfl
    exact absurd hcovers.2 (by simp [← hw])
  obtain ⟨body, behind, rfl, hbody⟩ := List.eq_append_cons_of_mem ht
  rw [hs] at h
  rw [← hw] at hread
  rcases (h.suffix front hne).read?_append make (endsInWord b front) with
    hnone | ⟨a, _, rest, -, hsome⟩ | ⟨annotations, name, header, inner, hparts, hh, hinner, hsome⟩
  · rw [hnone] at hread
    cases hread
  · rw [hsome] at hread
    obtain ⟨-, hbehind⟩ := Prod.mk.inj (Option.some.inj hread)
    have hlt := hcovers.1
    rw [← hbehind, List.length_append] at hlt
    omega
  · rw [hsome body behind hbody] at hread
    obtain ⟨hblock, hbehind⟩ := Prod.mk.inj (Option.some.inj hread)
    exact ⟨front ++ annotations, annotations, name, header, inner, body, by rw [hs, hparts]; simp, hh,
      hinner, by rw [hbehind], hblock.symm⟩

/-- No block lies across a closing brace at the end of a text. -/
theorem findBlocks_append_closing (make : List Char → String → List Char → α) {s : List Char}
    (h : k = .entity → ¬EndsInParentheses s) (t : List Char) :
    findBlocks (k.read? make) false (s ++ '}' :: t) =
      findBlocks (k.read? make) false (s ++ ['}']) ++ findBlocks (k.read? make) false t := by
  have hends : k.Ends (s ++ ['}']) := by
    refine ⟨⟨'}', by simp, .inr rfl⟩, fun hk hin => h hk (hin.of_append (by decide))⟩
  have hrun := finds_locate (closing_read? k make) false (s ++ ['}'] ++ ['}'])
  have hseam := splits_of_not_covers make (fun _ => hends) hrun (by simp) (fun f hf hcovers => ?_) t
  · rwa [Splits, endsInWord_brace, List.append_assoc, List.singleton_append] at hseam
  · obtain ⟨front, _, name, header, inner, body, hs, hh, hinner, -⟩ :=
      exists_of_covers make hends hrun (by simp) hf hcovers
    rw [← List.append_assoc] at hs
    obtain ⟨b, hlast, hnil⟩ := exists_of_append_eq_cons_append hinner hs.symm
    obtain ⟨words, rfl, -⟩ := hh.exists_eq_concat k.isName_keyword
    rw [(List.append_eq_nil_iff.mp hnil.symm).1, ← List.append_assoc] at hlast
    exact absurd (List.append_inj' hlast rfl).2 (by decide)

end BlockKind

/-- A text starts within the body of a block that is found in front of it. -/
def InBody {α : Type} (finds : List (Found α)) (body : α → List Char) (s : List Char) : Prop :=
  ∃ f ∈ finds, f.behind.length < s.length ∧ s.length ≤ (body f.block).length + 1 + f.behind.length

instance {α : Type} (finds : List (Found α)) (body : α → List Char) (s : List Char) :
    Decidable (InBody finds body s) := inferInstanceAs (Decidable (∃ f ∈ finds, _))

namespace BlockKind

variable {α : Type} {k : BlockKind}

/-- What is not blank is in front of the end of a body without the blanks at its head. -/
theorem length_le_dropWhile (v : List Char) {s : List Char} (h : ∀ c ∈ s.head?, isBlank c = false) :
    s.length ≤ ((v ++ s).dropWhile isBlank).length := by
  rw [List.dropWhile_append]
  split
  · exact (congrArg List.length (Text.trimStart_of_head? h)).ge
  · rw [List.length_append]
    omega

/-- The blocks around the body of a relationship block, and those in it. -/
theorem findBlocks_around (make : List Char → String → List Char → α) {bodyOf : α → List Char}
    (hmake : ∀ annotations name body, bodyOf (make annotations name body) = body)
    {u type head body rest : List Char} (hhead : HeaderText "relationship".toList type head)
    (hu : k = .entity → ¬EndsInParentheses u)
    (hout : ¬InBody (locate (k.read? make) false (u ++ (head ++ (body ++ '}' :: rest)))) bodyOf
      (head ++ (body ++ '}' :: rest)))
    {inside : List Char} (hinside : k = .entity → ¬EndsInParentheses inside) :
    findBlocks (k.read? make) false (u ++ (head ++ (inside ++ '}' :: rest))) =
      findBlocks (k.read? make) false (u ++ head) ++
        findBlocks (k.read? make) false (inside ++ ['}']) ++
        findBlocks (k.read? make) false rest := by
  have hkeyword : isName "relationship".toList = true := by decide
  have hends : k.Ends (u ++ head) := by
    refine ⟨?_, fun hk hin => hu hk (hin.of_append fun hc => ?_)⟩
    · obtain ⟨words, rfl, -⟩ := hhead.exists_eq_concat hkeyword
      exact ⟨'{', by simp, .inl rfl⟩
    · exact absurd (hhead.eq_brace_of_mem hkeyword hc (by decide) (by decide)) (by decide)
  have hrun := finds_locate (closing_read? k make) false (u ++ head ++ (body ++ '}' :: rest))
  have hseam := splits_of_not_covers make (fun _ => hends) hrun (by simp) (fun f hf hcovers => hout ?_)
    (inside ++ '}' :: rest)
  · rw [Splits, hends.endsInWord, findBlocks_append_closing make hinside, List.append_assoc] at hseam
    rw [hseam, List.append_assoc]
  · obtain ⟨front, _, name, header, inner, within, hs, hh, hinner, htext, hblock⟩ :=
      exists_of_covers make hends hrun (by simp) hf hcovers
    have hheads : u ++ (head ++ []) = front ++ (header ++ inner) := by rw [List.append_nil, hs]
    rcases hhead.trichotomy hkeyword hh k.isName_keyword hheads with
      ⟨hkeywords, -, -⟩ | ⟨v, -, rfl⟩ | ⟨v, -, hnil⟩
    · have hlast := congrArg List.getLast? hkeywords
      cases k <;> simp [keyword] at hlast
    · -- The block has its header in front of that of the relationship block.
      have hlength : (head ++ within).length ≤ (bodyOf f.block).length := by
        have hname : ∀ c ∈ (head ++ within).head?, isBlank c = false := by
          obtain ⟨-, -, -, -⟩ := hhead
          rw [List.append_assoc]
          exact isBlank_head?_of_isName hkeyword _
        rw [hblock, hmake, List.append_nil, List.append_assoc]
        exact length_le_dropWhile v hname
      rw [List.append_assoc] at hf
      have htotal := congrArg List.length htext
      simp only [List.length_append, List.length_cons] at hlength htotal
      refine ⟨f, hf, ?_, ?_⟩
      · simp only [List.length_append, List.length_cons]
        omega
      · simp only [List.length_append, List.length_cons]
        omega
    · obtain ⟨-, -, -, -⟩ := hh
      simp at hnil

end BlockKind

def withBody (before head behind inside : List Char) : List Char :=
  before ++ (head ++ (inside ++ '}' :: behind))

/-- A closed relationship block is found in a text, and its head lies in no body of an entity or an
enumeration. -/
structure HasRelationshipBody (before head behind : List Char) (type : String) (body : List Char) :
    Prop where
  found : ⟨head ++ (body ++ '}' :: behind), .inl ⟨type, body⟩, behind⟩ ∈
    RelationshipBlocks.located (withBody before head behind body)
  entity : ¬InBody (locate EntityBlock.read? false (withBody before head behind body))
    EntityBlock.body (head ++ (body ++ '}' :: behind))
  enum : ¬InBody (locate EnumBlock.read? false (withBody before head behind body))
    EnumBlock.body (head ++ (body ++ '}' :: behind))

instance (before head behind : List Char) (type : String) (body : List Char) :
    Decidable (HasRelationshipBody before head behind type body) :=
  decidable_of_iff (_ ∧ _ ∧ _) ⟨fun h => ⟨h.1, h.2.1, h.2.2⟩, fun h => ⟨h.found, h.entity, h.enum⟩⟩

/-- Whatever the body of a relationship block is replaced by, the enumerations of the text are those in
front of it, those in it and those behind it, and so are the entities when neither the text in front of
the head nor the body ends within an annotation. So a body that holds no such block declares nothing. -/
theorem extract_relationship_body (before head behind : List Char) (type : String) (body : List Char)
    (h : HasRelationshipBody before head behind type body) :
    let text := withBody before head behind
    (∀ inside, EnumBlock.all (text inside) =
        EnumBlock.all (before ++ head) ++ EnumBlock.all (inside ++ ['}']) ++ EnumBlock.all behind) ∧
      (EnumBlock.all (body ++ ['}']) = [] → extractEnums (text body) = extractEnums (text [])) ∧
      (¬EndsInParentheses before →
        (∀ inside, ¬EndsInParentheses inside → EntityBlock.all (text inside) =
          EntityBlock.all (before ++ head) ++ EntityBlock.all (inside ++ ['}']) ++
            EntityBlock.all behind) ∧
        (¬EndsInParentheses body → EntityBlock.all (body ++ ['}']) = [] →
          extractEntities (text body) = extractEntities (text []))) := by
  intro text
  obtain ⟨front, -, hread⟩ :=
    (RelationshipBlocks.finds_located _).exists_of_mem RelationshipBlock.closing_read? h.found
  obtain ⟨letters, header, -, hheader, -, -, hhead⟩ := RelationshipBlock.exists_of_read?_inl hread
  obtain rfl := List.append_cancel_right hhead
  have henums (inside : List Char) : EnumBlock.all (text inside) =
      EnumBlock.all (before ++ head) ++ EnumBlock.all (inside ++ ['}']) ++ EnumBlock.all behind := by
    have hout := h.enum
    rw [EnumBlock.read?_eq] at hout
    simp only [EnumBlock.all, EnumBlock.read?_eq]
    exact BlockKind.enum.findBlocks_around _ (fun _ _ _ => rfl) hheader nofun hout nofun
  have hentities (hbefore : ¬EndsInParentheses before) (inside : List Char)
      (hinside : ¬EndsInParentheses inside) : EntityBlock.all (text inside) =
        EntityBlock.all (before ++ head) ++ EntityBlock.all (inside ++ ['}']) ++
          EntityBlock.all behind :=
    BlockKind.entity.findBlocks_around EntityBlock.mk (fun _ _ _ => rfl) hheader (fun _ => hbefore)
      h.entity (fun _ => hinside)
  refine ⟨henums, fun hbody => ?_, fun hbefore => ⟨hentities hbefore, fun hinside hbody => ?_⟩⟩
  · have hempty : EnumBlock.all ([] ++ ['}']) = [] := by decide +kernel
    have hall : EnumBlock.all (text body) = EnumBlock.all (text []) := by
      rw [henums, henums, hbody, hempty]
    simp only [extractEnums, hall]
  · have hempty : EntityBlock.all ([] ++ ['}']) = [] := by decide +kernel
    have hnil : ¬EndsInParentheses [] := fun h => by simpa using h.mem
    have hall : EntityBlock.all (text body) = EntityBlock.all (text []) := by
      rw [hentities hbefore body hinside, hentities hbefore [] hnil, hbody, hempty]
    simp only [extractEntities, hall]

/-- A body that declares an entity, behind an annotated one. -/
theorem extract_relationship_body_entity :
    let text := withBody "@EnableAudit entity A { x T }\n".toList "relationship OneToOne \x7b".toList
      "\nenum S { ON }".toList
    let body := " A{b} to B, entity C{y} to D ".toList
    EntityBlock.all (text body) =
        [⟨"@EnableAudit ".toList, "A", "x T ".toList⟩, ⟨[], "C", "y".toList⟩] ∧
      extractEnums (text body) = extractEnums (text []) := by
  intro text body
  have hbody : HasRelationshipBody "@EnableAudit entity A { x T }\n".toList
      "relationship OneToOne \x7b".toList "\nenum S { ON }".toList "OneToOne" body := by
    decide +kernel
  obtain ⟨-, henums, hentities⟩ := extract_relationship_body _ _ _ _ _ hbody
  obtain ⟨hblocks, -⟩ := hentities fun h => absurd h.mem (by decide)
  refine ⟨?_, henums (by decide +kernel)⟩
  rw [hblocks body fun h => absurd h.mem (by decide)]
  decide +kernel

/-- Three bodies that change what a text declares: one with the header of an entity in it, one behind an
annotation that is open, and one that leaves an annotation open. -/
theorem relationship_body_declares :
    let head := "relationship OneToOne \x7b".toList
    let declared (before body behind : String) :=
      (extractEntities (withBody before.toList head behind.toList body.toList)).1.values
    (HasRelationshipBody "entity C { a T }\n".toList head [] "OneToOne" " entity C{x} to D ".toList ∧
        declared "entity C { a T }\n" " entity C{x} to D " "" ≠ declared "entity C { a T }\n" "" "") ∧
      (HasRelationshipBody "@EnableAudit(".toList head " ) entity B {}".toList "OneToOne" " ) ".toList ∧
        declared "@EnableAudit(" " ) " " ) entity B {}" ≠ declared "@EnableAudit(" "" " ) entity B {}") ∧
      HasRelationshipBody [] head " ) entity B {}".toList "OneToOne" " @EnableAudit( ".toList ∧
        declared "" " @EnableAudit( " " ) entity B {}" ≠ declared "" "" " ) entity B {}" := by
  decide +kernel

end EntitySchema.Jdl
