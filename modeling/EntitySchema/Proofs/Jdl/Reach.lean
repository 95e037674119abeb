import EntitySchema.Proofs.Jdl.Composition
import EntitySchema.Proofs.Jdl.Records
import EntitySchema.Proofs.Jdl.Shape

/-! Which headers a parse reaches. A header that no block covers starts a block itself
(`BlockKind.exists_block_or_unread`), so one that stands in no closed block is declared, unless its
block is never closed, or an earlier header of its kind that is never closed takes it for a line of its
body, or it stands in the parentheses of an annotation (`BlockKind.declares_or_unread`). Nothing is
reported of a header that is lost so (`header_lost_silently`). -/
namespace EntitySchema.Jdl

open Text (isBlank isWordChar)

/-- A header with the keyword stands in a text, at a word boundary, with `v` behind its brace. -/
def HeaderBefore (keyword before v : List Char) : Prop :=
  ∃ front name header, before = front ++ (header ++ v) ∧ endsInWord false front = false ∧
    HeaderText keyword name header

namespace BlockKind

variable {α : Type} {k : BlockKind}

/-- The text `s` behind `before` starts within the braces of a block of that kind whose braces are
closed. -/
def InClosedBlock (k : BlockKind) (before s : List Char) : Prop :=
  ∃ v body rest, HeaderBefore k.keyword before v ∧ splitAtClosing? (v ++ s) = some (body, rest) ∧
    rest.length < s.length

/-- Why a header at the head of `s`, behind `before`, may be passed over; `inner` follows its brace. -/
inductive Unread (k : BlockKind) (before s inner : List Char) : Prop
  | unclosed (h : '}' ∉ inner)
  | swallowed {v : List Char} (header : HeaderBefore k.keyword before v) (body : '}' ∉ v)
    (h : splitAtClosing? (v ++ s) = none)
  | annotated (hk : k = .entity) (h : EndsInParentheses before)

/-- A mark that ends the first part of a text does not stand in front of a place in that part. -/
theorem not_mem_of_length_lt {inner behind v s : List Char} {c : Char}
    (he : inner ++ c :: behind = v ++ s) (hi : c ∉ inner) (hlt : behind.length < s.length) : c ∉ v := by
  intro hv
  obtain ⟨a, b, rfl⟩ := List.append_of_mem hv
  rw [List.append_assoc, List.cons_append] at he
  obtain ⟨d, rfl, hd⟩ := exists_of_append_eq_append_cons hi he
  have hlength := congrArg List.length hd
  simp only [List.length_cons, List.length_append] at hlength
  omega

/-- A header at a word boundary starts a block, unless no closing brace follows, or an earlier header of
its kind has no closing brace in front of it, or it stands in an annotation. -/
theorem exists_block_or_unread (make : List Char → String → List Char → α)
    {before name header inner : List Char} (hword : endsInWord false before = false)
    (h : HeaderText k.keyword name header) :
    (∃ annotations body, make annotations (String.ofList name) body ∈
        findBlocks (k.read? make) false (before ++ (header ++ inner))) ∨
      '}' ∉ inner ∨ (∃ v, HeaderBefore k.keyword before v ∧ '}' ∉ v) ∨
      k = .entity ∧ EndsInParentheses before := by
  by_cases hclose : '}' ∈ inner
  swap
  · exact .inr (.inl hclose)
  obtain ⟨body, rest, rfl, hbody⟩ := List.eq_append_cons_of_mem hclose
  have hclosing := closing_read? k make
  have hread := read?_header make h hbody rest
  have hrun := finds_locate hclosing false
    (before ++ (header ++ (body ++ '}' :: rest)))
  rw [hrun.findBlocks_eq hclosing]
  by_cases hout : ∀ f ∈ locate (k.read? make) false (before ++ (header ++ (body ++ '}' :: rest))),
      ¬f.Covers (header ++ (body ++ '}' :: rest))
  · exact .inl ⟨[], _, List.mem_map.mpr ⟨_, hrun.mem hclosing (hword ▸ hread) hout, rfl⟩⟩
  · simp only [not_forall, not_not, exists_prop] at hout
    obtain ⟨f, hf, hbehind, hstart⟩ := hout
    obtain ⟨front, htext, hfound⟩ := hrun.exists_of_mem hclosing hf
    obtain ⟨annotations, name', header', inner', hshape, hblock⟩ := exists_of_read? hfound
    rw [hshape.text, ← List.append_assoc front] at htext
    rcases h.trichotomy k.isName_keyword hshape.header k.isName_keyword htext with
      ⟨-, rfl, -⟩ | ⟨v, rfl, hinner⟩ | ⟨v, hfront, -⟩
    · exact .inl ⟨annotations, _, List.mem_map.mpr ⟨f, hf, hblock⟩⟩
    · -- The header stands in the body of the block that is found.
      refine .inr (.inr (.inl ⟨v, ⟨_, _, _, rfl, ?_, hshape.header⟩, fun hv => ?_⟩))
      · rw [endsInWord_append, hshape.boundary]
      · exact not_mem_of_length_lt hinner hshape.body hbehind hv
    · -- It stands in the annotations of the block.
      have hlength : front.length ≤ before.length := by
        have htotal := congrArg List.length htext
        have hfound := congrArg List.length hshape.text
        simp only [List.length_append] at htotal hfound hstart
        omega
      obtain ⟨a, rfl⟩ := List.prefix_of_prefix_length_le ⟨annotations, rfl⟩ ⟨_, hfront.symm⟩ hlength
      rw [List.append_assoc] at hfront
      have ha := List.append_cancel_left hfront
      have hk : k = .entity := by
        cases k with
        | entity => rfl
        | enum =>
          obtain ⟨-, -, -, -⟩ := h
          rw [hshape.plain rfl] at ha
          simp at ha
      exact .inr (.inr (.inr ⟨hk,
        (hshape.annotated.endsInParentheses_of_header h k.isName_keyword ha).append front⟩))

/-- What a parse without earlier diagnostics declares under a name of a kind. An enumeration without
values is reported instead. -/
def Declares (k : BlockKind) (text : List Char) (name : String) : Prop :=
  match k with
  | .entity => name ∈ (parseInto [] text).1.entities.keys
  | .enum => name ∈ (parseInto [] text).1.enums.keys ∨
    (Finding.emptyEnum name).diagnostic ∈ (parseInto [] text).2

theorem declares_entity {text : List Char} {b : EntityBlock}
    (h : b ∈ EntityBlock.all (stripComments text)) : entity.Declares text b.name := by
  have hkeys : (parseInto [] text).1.entities.keys = (extractEntities (stripComments text)).1.keys :=
    keys_parse text
  rw [Declares, hkeys, extractEntities_fst, Dict.keys_ofList, List.mem_eraseDups, List.map_map]
  exact List.mem_map.mpr ⟨b, h, rfl⟩

/-- Declaring blocks keeps what was found before, and finds each block without values. -/
theorem emptyEnum_mem_foldl {b : EnumBlock} (hb : b.values = []) (blocks : List EnumBlock)
    (acc : Dict (List String) × Trace) (h : .emptyEnum b.name ∈ acc.2.findings ∨ b ∈ blocks) :
    .emptyEnum b.name ∈ (blocks.foldl (fun (acc : Dict (List String) × Trace) b =>
      ((b.declare acc.1).1, acc.2 ++ (b.declare acc.1).2)) acc).2.findings := by
  induction blocks generalizing acc with
  | nil => simpa using h
  | cons first blocks ih =>
    refine ih _ ?_
    rw [findings_append, List.mem_append]
    rcases h with h | h
    · exact .inl (.inl h)
    · rcases List.mem_cons.mp h with rfl | h
      · exact .inl (.inr (by simp [EnumBlock.declare, hb]))
      · exact .inr h

theorem declares_enum {text : List Char} {b : EnumBlock}
    (h : b ∈ EnumBlock.all (stripComments text)) : enum.Declares text b.name := by
  by_cases hvalues : b.values = []
  · have hfound := emptyEnum_mem_foldl hvalues (EnumBlock.all (stripComments text)) (.empty, .empty)
      (.inr h)
    have hmem : Finding.emptyEnum b.name ∈ (parse text).trace.findings := by
      rw [findings_parse]
      simp only [List.mem_append]
      exact .inl (.inl (.inl (by simpa [extractEnums] using hfound)))
    exact .inr (List.mem_map.mpr ⟨_, hmem, rfl⟩)
  · have hkeys : (parseInto [] text).1.enums.keys = (extractEnums (stripComments text)).1.keys := rfl
    refine .inl ?_
    rw [hkeys, extractEnums_fst, Dict.keys_ofList, List.mem_eraseDups, List.map_map]
    exact List.mem_map.mpr ⟨b, List.mem_filter.mpr ⟨h, by simpa using hvalues⟩, rfl⟩

/-- A header stands in a text at a word boundary and in no closed block of its kind. Then its name is
declared, unless its block is never closed, or an earlier header of its kind whose block is never closed
takes it for a line of its body, or it stands in the parentheses of an annotation. -/
theorem declares_or_unread (k : BlockKind) (text before name header inner : List Char)
    (htext : stripComments text = before ++ (header ++ inner))
    (hword : endsInWord false before = false) (hheader : HeaderText k.keyword name header)
    (hout : ¬k.InClosedBlock before (header ++ inner)) :
    k.Declares text (String.ofList name) ∨ k.Unread before (header ++ inner) inner := by
  have hread {declared : Prop} (h : declared ∨ '}' ∉ inner ∨
      (∃ v, HeaderBefore k.keyword before v ∧ '}' ∉ v) ∨ k = .entity ∧ EndsInParentheses before) :
      declared ∨ k.Unread before (header ++ inner) inner := by
    refine h.imp_right ?_
    rintro (hclose | ⟨v, hv, hopen⟩ | ⟨hk, hopening⟩)
    · exact .unclosed hclose
    · refine .swallowed hv hopen ?_
      -- A closing brace of the earlier block would stand behind the header, which is in no closed one.
      rw [Option.eq_none_iff_forall_ne_some]
      rintro ⟨body, rest⟩ hsplit
      obtain ⟨within, -, hs⟩ :=
        exists_of_append_eq_append_cons hopen (splitAtClosing?_eq_some hsplit).1
      have hlength : rest.length < (header ++ inner).length := by
        rw [hs, List.length_append, List.length_cons]
        omega
      exact hout ⟨v, body, rest, hv, hsplit, hlength⟩
    · exact .annotated hk hopening
  cases k with
  | entity =>
    refine (hread (exists_block_or_unread EntityBlock.mk hword hheader)).imp_left ?_
    rintro ⟨annotations, body, hb⟩
    rw [← htext] at hb
    exact declares_entity hb
  | enum =>
    refine (hread (exists_block_or_unread (fun _ name body => EnumBlock.mk name body) hword
      hheader)).imp_left ?_
    rintro ⟨annotations, body, hb⟩
    rw [← htext, ← EnumBlock.read?_eq] at hb
    exact declares_enum hb

end BlockKind

/-- Behind the only brace of a text is the only place where a header may end. -/
theorem HeaderBefore.eq_of_single {keyword front v w : List Char}
    (h : HeaderBefore keyword (front ++ '{' :: w) v) (hfront : '{' ∉ front) (hw : '{' ∉ w) : v = w := by
  obtain ⟨front', name, header, he, -, hheader⟩ := h
  obtain ⟨-, -, -, -⟩ := hheader
  rename_i gap space
  have hshape : front ++ '{' :: w = front' ++ keyword ++ gap ++ name ++ space ++ '{' :: v := by
    simpa using he
  exact ((List.append_cons_inj_of_notMem hfront hw).mp hshape).2.2.symm

/-- A header behind a closed block, a comment and an annotation. -/
theorem BlockKind.declares_or_unread_annotated :
    let v := " x T \x7d \n@EnableAudit ".toList
    let text := "entity A { x T } // B\n@EnableAudit entity B {}\n".toList
    stripComments text =
        ("entity A ".toList ++ '{' :: v) ++ ("entity B \x7b".toList ++ "\x7d\n".toList) ∧
      BlockKind.entity.Declares text "B" := by
  intro v text
  have htext : stripComments text =
      ("entity A ".toList ++ '{' :: v) ++ ("entity B \x7b".toList ++ "\x7d\n".toList) := by
    decide +kernel
  have hin {u : List Char} (h : HeaderBefore "entity".toList ("entity A ".toList ++ '{' :: v) u) :
      u = v := h.eq_of_single (by decide) (by decide)
  have hout : ¬BlockKind.entity.InClosedBlock ("entity A ".toList ++ '{' :: v)
      ("entity B \x7b".toList ++ "\x7d\n".toList) := by
    rintro ⟨u, body, rest, hu, hsplit, hlt⟩
    have hclosing : splitAtClosing? (v ++ ("entity B \x7b".toList ++ "\x7d\n".toList)) =
        some (" x T ".toList, " \n@EnableAudit entity B {}\n".toList) := by decide +kernel
    rw [hin hu, hclosing] at hsplit
    obtain ⟨-, rfl⟩ := Prod.mk.inj (Option.some.inj hsplit)
    exact absurd hlt (by decide)
  have hheader : HeaderText "entity".toList ['B'] "entity B \x7b".toList := .spaced _ (by decide)
  refine ⟨htext, (BlockKind.entity.declares_or_unread text _ _ _ _ htext (by decide) hheader
    hout).resolve_right fun hunread => ?_⟩
  cases hunread with
  | unclosed h => exact absurd h (by decide)
  | swallowed header body h =>
    rw [hin header] at body
    exact absurd body (by decide)
  | annotated hk h => exact absurd h.mem (by decide)

/-- An entity without a closing brace is not declared, and nothing is reported. -/
theorem header_lost_silently :
    let inner := "\n  x T\n".toList
    let p := parseInto [] ("entity A \x7b".toList ++ inner)
    stripComments ("entity A \x7b".toList ++ inner) = [] ++ ("entity A \x7b".toList ++ inner) ∧
      HeaderText "entity".toList ['A'] "entity A \x7b".toList ∧
      (∀ k : BlockKind, ¬k.InClosedBlock [] ("entity A \x7b".toList ++ inner)) ∧
      "A" ∉ p.1.entities.keys ∧ p.2 = [] := by
  intro inner p
  refine ⟨by decide +kernel, .spaced _ (by decide), ?_, by decide +kernel, ?_⟩
  · rintro k ⟨v, body, rest, ⟨front, name, header, he, -, hheader⟩, -⟩
    obtain ⟨-, -, -, -⟩ := hheader
    simp at he
  · have hnone : (parse ("entity A \x7b".toList ++ inner)).trace.findings = [] := by decide +kernel
    exact congrArg (List.map Finding.diagnostic) hnone

example : ∀ text ∈ ["enum A \x7b ON", "entity B \x7b\n entity A \x7b\n  x T\n\x7d",
    "@X(entity A {}) entity B {}"], (parse text.toList).trace.findings = [] ∧
      "A" ∉ (parse text.toList).schema.entities.keys ++ (parse text.toList).schema.enums.keys := by
  decide +kernel

end EntitySchema.Jdl
