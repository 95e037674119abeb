import EntitySchema.Proofs.Jdl.Line
import EntitySchema.Proofs.Jdl.Search

/-! Searches among written blocks. Main statement: a search passes over the blocks with other keywords,
whatever stands in their lines (`Search.inert_text`). -/
namespace EntitySchema.Jdl

open Text (isWordChar)

theorem Declaration.isName_keyword (d : Declaration) : isName d.keyword = true := by
  cases d with
  | enum => exact (by decide : isName "enum".toList = true)
  | entity => exact (by decide : isName "entity".toList = true)
  | relationship => exact (by decide : isName "relationship".toList = true)

theorem Word.chars_ne (w : Word) {keyword : List Char} (h : keyword ∈ keywords) :
    w.chars ≠ keyword := by
  rintro rfl
  exact w.not_keyword h

namespace Search

variable {α : Type} {keyword : List Char} {annotated : Bool}
  {search : Bool → List Char → List α}

theorem inert_chars (h : Search keyword annotated search) (hk : keyword ∈ keywords) (w : Word)
    {c : Char} (hc : isWordChar c = false) (ha : annotated = true → c ≠ '@') :
    Inert search (w.chars ++ [c]) :=
  h.inert_word w.isName_chars (w.chars_ne hk) hc ha

theorem inert_feed (h : Search keyword annotated search) : Inert search ['\n'] :=
  h.inert_mark (by decide) fun _ => by decide

theorem inert_valueLine (h : Search keyword annotated search) (hk : keyword ∈ keywords)
    {values : List Word} {line : List Char} (hl : line ∈ valueLines values) :
    Inert search (line ++ ['\n']) := by
  obtain ⟨v, -, rfl | rfl⟩ := mem_valueLines hl
  · exact h.inert_chars hk v (by decide) fun _ => by decide
  · exact (h.inert_chars hk v (by decide) fun _ => by decide).append h.inert_feed

theorem inert_fieldLine (h : Search keyword annotated search) (hk : keyword ∈ keywords)
    (f : FieldDeclaration) : Inert search (f.line ++ ['\n']) := by
  have hname : Inert search (f.name.chars ++ [' ']) :=
    h.inert_chars hk f.name (by decide) fun _ => by decide
  unfold FieldDeclaration.line
  split
  · have htype : Inert search (f.type.chars ++ [' ']) :=
      h.inert_chars hk f.type (by decide) fun _ => by decide
    have hne : "required".toList ≠ keyword :=
      (by decide : ∀ k ∈ keywords, "required".toList ≠ k) keyword hk
    have hrequired : Inert search ("required".toList ++ ['\n']) :=
      h.inert_word (by decide) hne (by decide) fun _ => by decide
    have := hname.append (htype.append hrequired)
    simp only [List.append_assoc, List.cons_append, List.nil_append] at this ⊢
    exact this
  · have htype : Inert search (f.type.chars ++ ['\n']) :=
      h.inert_chars hk f.type (by decide) fun _ => by decide
    have := hname.append htype
    simp only [List.append_assoc, List.cons_append, List.nil_append] at this ⊢
    exact this

theorem inert_side (h : Search keyword annotated search) (hk : keyword ∈ keywords) (w : Word)
    (f : Option Word) {c : Char} (hc : isWordChar c = false) (ha : annotated = true → c ≠ '@') :
    Inert search (w.chars ++ (Statement.spec f ++ [c])) := by
  cases f with
  | none => exact h.inert_chars hk w hc ha
  | some f =>
    have hw : Inert search (w.chars ++ ['{']) := h.inert_chars hk w (by decide) fun _ => by decide
    have hf : Inert search (f.chars ++ ['}']) := h.inert_chars hk f (by decide) fun _ => by decide
    have := hw.append (hf.append (h.inert_mark hc ha))
    simp only [Statement.spec, List.append_assoc, List.cons_append, List.nil_append] at this ⊢
    exact this

theorem inert_statement (h : Search keyword annotated search) (hk : keyword ∈ keywords)
    (s : Statement) : Inert search (s.line ++ ['\n']) := by
  have hsource : Inert search (s.source.chars ++ (Statement.spec s.sourceField ++ [' '])) :=
    h.inert_side hk s.source s.sourceField (by decide) fun _ => by decide
  have htarget : Inert search (s.target.chars ++ (Statement.spec s.targetField ++ ['\n'])) :=
    h.inert_side hk s.target s.targetField (by decide) fun _ => by decide
  have hne : "to".toList ≠ keyword := (by decide : ∀ k ∈ keywords, "to".toList ≠ k) keyword hk
  have hto : Inert search ("to".toList ++ [' ']) :=
    h.inert_word (by decide) hne (by decide) fun _ => by decide
  have := hsource.append (hto.append htarget)
  simp only [Statement.line, List.append_assoc, List.cons_append, List.nil_append] at this ⊢
  exact this

/-- A block with another keyword is passed over when its lines are. -/
theorem inert_block (h : Search keyword annotated search) (l : Layout) {opener name : List Char}
    (ho : isName opener = true) (hne : opener ≠ keyword) (hn : isName name = true) {lines : List (List Char)}
    (hl : ∀ line ∈ lines, Inert search (line ++ ['\n'])) :
    Inert search (l.block opener name lines) := by
  have hspace : Inert search [' '] := h.inert_mark (by decide) fun _ => by decide
  have hclose : Inert search ['}'] := h.inert_mark (by decide) fun _ => by decide
  have hopener : Inert search (opener ++ [' ']) :=
    h.inert_word ho hne (by decide) fun _ => by decide
  have hbody : Inert search (l.body lines) := by
    apply Inert.flatMap
    intro line hline
    rw [List.append_assoc]
    exact (hspace.replicate l.indent).append (hl line hline)
  have htail := h.inert_feed.append (hbody.append (hclose.append (h.inert_feed.replicate l.gap)))
  have := hopener.append ((h.inert_head hn).append htail)
  simp only [Layout.block, List.append_assoc, List.cons_append, List.nil_append] at this ⊢
  exact this

theorem inert_text (h : Search keyword annotated search) (hk : keyword ∈ keywords)
    (ha : annotated = true → keyword = "entity".toList) (l : Layout) {d : Declaration}
    (hd : d.keyword ≠ keyword) : Inert search (d.text l) := by
  have hopener := d.isName_keyword
  cases d with
  | enum name values _ =>
    apply h.inert_block l hopener hd name.isName_chars
    exact fun line hline => h.inert_valueLine hk hline
  | entity audited name fields =>
    have hblock : Inert search (l.block "entity".toList name.chars (fields.map (·.line))) := by
      apply h.inert_block l hopener hd name.isName_chars
      intro line hline
      obtain ⟨f, -, rfl⟩ := List.mem_map.mp hline
      exact h.inert_fieldLine hk f
    cases audited with
    | false => exact hblock
    | true =>
      have hfree : annotated = true → ∀ c, c ≠ '@' := fun hat => absurd (ha hat).symm hd
      have hne : "EnableAudit".toList ≠ keyword :=
        (by decide : ∀ k ∈ keywords, "EnableAudit".toList ≠ k) keyword hk
      have hat : Inert search ['@'] := h.inert_mark (by decide) fun ht => hfree ht '@'
      have hmark : Inert search ("EnableAudit".toList ++ ['\n']) :=
        h.inert_word (by decide) hne (by decide) fun _ => by decide
      exact (hat.append hmark).append hblock
  | relationship type statements =>
    apply h.inert_block l hopener hd type.isName_letters
    intro line hline
    obtain ⟨s, -, rfl⟩ := List.mem_map.mp hline
    exact h.inert_statement hk s

end Search

end EntitySchema.Jdl
