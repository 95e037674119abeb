import EntitySchema.Proofs.Jdl.Line
import EntitySchema.Proofs.Jdl.Search
import Mathlib.Data.List.DropRight

/-! Headers of blocks as they are written. Main statements: the readers of headers accept exactly the
written ones, whatever follows the brace (`readHeader?_eq_some_iff`, `readRelationshipHead?_eq_some_iff`),
so what is behind a brace makes no difference to the headers in front of it
(`readHeader?_append_of_mem`), and two headers in a text do not overlap (`HeaderText.trichotomy`). -/
namespace EntitySchema.Jdl

open Text (isBlank isWordChar)

/-- A header `keyword name {`. Blanks part the keyword from the name and may stand in front of the
brace. -/
inductive HeaderText (keyword name : List Char) : List Char → Prop
  | intro {gap space : List Char} (gap_ne : gap ≠ []) (hgap : ∀ c ∈ gap, isBlank c = true)
    (hname : isName name = true) (hspace : ∀ c ∈ space, isBlank c = true) :
    HeaderText keyword name (keyword ++ (gap ++ (name ++ (space ++ ['{']))))

/-- What a text ends with up to the last character of another kind is determined by the text. -/
theorem append_inj_of_last {p : Char → Bool} {x y u v : List Char} (h : x ++ u = y ++ v)
    (hx : ∀ c ∈ x.getLast?, p c = false) (hy : ∀ c ∈ y.getLast?, p c = false)
    (hu : ∀ c ∈ u, p c = true) (hv : ∀ c ∈ v, p c = true) : x = y := by
  have hdrop {a b : List Char} (ha : ∀ c ∈ a.getLast?, p c = false) (hb : ∀ c ∈ b, p c = true) :
      (a ++ b).rdropWhile p = a := by
    have hself : a.reverse.dropWhile p = a.reverse := by
      cases hr : a.reverse with
      | nil => rfl
      | cons c r =>
        have hc : c ∈ a.getLast? := by rw [← List.head?_reverse, hr, List.head?_cons, Option.mem_some]
        exact List.dropWhile_cons_of_neg (by simp [ha c hc])
    have hrev : ∀ c ∈ b.reverse, p c = true := fun c hc => hb c (List.mem_reverse.mp hc)
    rw [List.rdropWhile, List.reverse_append, List.dropWhile_append_of_pos hrev, hself,
      List.reverse_reverse]
  rw [← hdrop hx hu, h, hdrop hy hv]

/-- A character that does not stand in the first of two texts stands in the second. -/
theorem exists_of_append_eq_append_cons {x y p q : List Char} {c : Char} (hc : c ∉ x)
    (h : x ++ y = p ++ c :: q) : ∃ a, p = x ++ a ∧ y = a ++ c :: q := by
  rcases List.append_eq_append_iff.mp h with ha | ⟨b, rfl, hb⟩
  · exact ha
  · rcases List.cons_eq_append_iff.mp hb with ⟨rfl, rfl⟩ | ⟨d, rfl, -⟩
    · exact ⟨[], by simp, rfl⟩
    · simp at hc

/-- A character that does not stand in the second of two texts stands in the first. -/
theorem exists_of_append_eq_cons_append {x y p q : List Char} {c : Char} (hc : c ∉ y)
    (h : x ++ y = p ++ c :: q) : ∃ b, x = p ++ c :: b ∧ q = b ++ y := by
  rcases List.append_eq_append_iff.mp h with ⟨a, -, rfl⟩ | ⟨a, rfl, ha⟩
  · simp at hc
  · rcases List.cons_eq_append_iff.mp ha with ⟨rfl, rfl⟩ | ⟨b, rfl, rfl⟩
    · simp at hc
    · exact ⟨b, rfl, rfl⟩

theorem isWordChar_getLast? {s : List Char} (h : isName s = true) (x : List Char) :
    ∀ c ∈ (x ++ s).getLast?, isWordChar c = true := by
  intro c hc
  rw [List.getLast?_append_of_ne_nil x (isName_ne_nil h)] at hc
  exact all_isWordChar_of_isName h c (List.mem_of_getLast? hc)

theorem isBlank_of_mem_space : ∀ c ∈ [' '], isBlank c = true := by
  simp only [List.mem_singleton, forall_eq]
  decide

namespace HeaderText

variable {keyword name header : List Char}

theorem spaced (keyword : List Char) (hname : isName name = true) :
    HeaderText keyword name (keyword ++ ([' '] ++ (name ++ ([' '] ++ ['{'])))) :=
  .intro (List.cons_ne_nil ' ' []) isBlank_of_mem_space hname isBlank_of_mem_space

theorem isName_name (h : HeaderText keyword name header) : isName name = true := by
  obtain ⟨-, -, hname, -⟩ := h
  exact hname

/-- In front of its brace a header has word characters and blanks. -/
theorem exists_eq_concat (h : HeaderText keyword name header) (hk : isName keyword = true) :
    ∃ front, header = front ++ ['{'] ∧ ∀ c ∈ front, isWordChar c = true ∨ isBlank c = true := by
  obtain ⟨-, hgap, hname, hspace⟩ := h
  rename_i gap space
  refine ⟨keyword ++ (gap ++ (name ++ space)), by simp only [List.append_assoc], ?_⟩
  intro c hc
  simp only [List.mem_append] at hc
  rcases hc with hc | hc | hc | hc
  · exact .inl (all_isWordChar_of_isName hk c hc)
  · exact .inr (hgap c hc)
  · exact .inl (all_isWordChar_of_isName hname c hc)
  · exact .inr (hspace c hc)

/-- A mark that stands in a header is its brace. -/
theorem eq_brace_of_mem (h : HeaderText keyword name header) (hk : isName keyword = true) {c : Char}
    (hc : c ∈ header) (hw : isWordChar c = false) (hb : isBlank c = false) : c = '{' := by
  obtain ⟨front, rfl, hfront⟩ := h.exists_eq_concat hk
  rcases List.mem_append.mp hc with hc | hc
  · rcases hfront c hc with h | h
    · rw [hw] at h
      cases h
    · rw [hb] at h
      cases h
  · exact List.mem_singleton.mp hc

theorem brace_not_mem_front {front : List Char}
    (hfront : ∀ c ∈ front, isWordChar c = true ∨ isBlank c = true) : '{' ∉ front := by
  intro hc
  rcases hfront '{' hc with h | h
  · exact absurd h (by decide)
  · exact absurd h (by decide)

/-- A header is all in the first of two texts when a mark stands in that text. -/
theorem eq_append_of_mem (h : HeaderText keyword name header) (hk : isName keyword = true)
    {s t inner : List Char} (he : s ++ t = header ++ inner)
    (hs : ∃ c ∈ s, isWordChar c = false ∧ isBlank c = false) :
    ∃ within, s = header ++ within ∧ inner = within ++ t := by
  obtain ⟨c, hc, hword, hblank⟩ := hs
  obtain ⟨front, rfl, hfront⟩ := h.exists_eq_concat hk
  have hnone : c ∉ front := by
    intro hm
    have hbrace := h.eq_brace_of_mem hk (List.mem_append_left _ hm) hword hblank
    exact brace_not_mem_front hfront (hbrace ▸ hm)
  rw [List.append_assoc, List.singleton_append] at he
  rcases List.append_eq_append_iff.mp he with ⟨a, rfl, -⟩ | ⟨a, rfl, ha⟩
  · exact absurd (List.mem_append_left a hc) hnone
  · rcases List.cons_eq_append_iff.mp ha with ⟨rfl, -⟩ | ⟨within, rfl, rfl⟩
    · rw [List.append_nil] at hc
      exact absurd hc hnone
    · exact ⟨within, by simp, rfl⟩

/-- Of two headers that end at the same place, one starts where the other does and has its name. -/
theorem unique (h : HeaderText keyword name header) (hk : isName keyword = true)
    {keyword' name' header' : List Char} (h' : HeaderText keyword' name' header')
    (hk' : isName keyword' = true) {p q : List Char} (he : p ++ header = q ++ header') :
    p ++ keyword = q ++ keyword' ∧ name = name' := by
  obtain ⟨gap_ne, hgap, hname, hspace⟩ := h
  obtain ⟨gap_ne', hgap', hname', hspace'⟩ := h'
  rename_i gap space gap' space'
  simp only [← List.append_assoc] at he
  have hblank {s : List Char} (hs : ∀ c ∈ s.getLast?, isWordChar c = true) :
      ∀ c ∈ s.getLast?, isBlank c = false := fun c hc => isBlank_of_isWordChar (hs c hc)
  have hword {s g : List Char} (hne : g ≠ []) (hg : ∀ c ∈ g, isBlank c = true) :
      ∀ c ∈ (s ++ g).getLast?, isWordChar c = false := by
    intro c hc
    rw [List.getLast?_append_of_ne_nil s hne] at hc
    exact isWordChar_of_isBlank (hg c (List.mem_of_getLast? hc))
  have hspaces := (List.append_inj' he rfl).1
  have hnames := append_inj_of_last hspaces (hblank (isWordChar_getLast? hname _))
    (hblank (isWordChar_getLast? hname' _)) hspace hspace'
  have hgaps := append_inj_of_last hnames (hword gap_ne hgap) (hword gap_ne' hgap')
    (all_isWordChar_of_isName hname) (all_isWordChar_of_isName hname')
  have hkeywords := append_inj_of_last hgaps (hblank (isWordChar_getLast? hk _))
    (hblank (isWordChar_getLast? hk' _)) hgap hgap'
  exact ⟨hkeywords, List.append_cancel_left (hgaps ▸ hnames)⟩

theorem behind (h : HeaderText keyword name header) (hk : isName keyword = true)
    {keyword' name' header' : List Char} (h' : HeaderText keyword' name' header')
    (hk' : isName keyword' = true) {p q a : List Char} (ha : a ≠ [])
    (he : q ++ header' = p ++ header ++ a) : ∃ v, q = p ++ (header ++ v) ∧ a = v ++ header' := by
  obtain ⟨front, rfl, -⟩ := h.exists_eq_concat hk
  obtain ⟨front', rfl, hfront'⟩ := h'.exists_eq_concat hk'
  obtain ⟨b, c, rfl⟩ := (List.eq_nil_or_concat a).resolve_left ha
  rw [List.concat_eq_append, ← List.append_assoc, ← List.append_assoc] at he
  obtain ⟨hfronts, hbrace⟩ := List.append_inj' he rfl
  have hshape : q ++ front' = p ++ front ++ '{' :: b := by simpa using hfronts
  obtain ⟨v, rfl, rfl⟩ := exists_of_append_eq_cons_append (brace_not_mem_front hfront') hshape
  obtain rfl := (List.cons.inj hbrace).1
  exact ⟨v, by simp, by simp⟩

/-- Two headers in a text are one, or one of them stands behind the other. -/
theorem trichotomy (h : HeaderText keyword name header) (hk : isName keyword = true)
    {keyword' name' header' : List Char} (h' : HeaderText keyword' name' header')
    (hk' : isName keyword' = true) {p q inner inner' : List Char}
    (he : p ++ (header ++ inner) = q ++ (header' ++ inner')) :
    (p ++ keyword = q ++ keyword' ∧ name = name' ∧ inner = inner') ∨
      (∃ v, p = q ++ (header' ++ v) ∧ inner' = v ++ (header ++ inner)) ∨
      ∃ v, q = p ++ (header ++ v) ∧ inner = v ++ (header' ++ inner') := by
  have hsame (hends : p ++ header = q ++ header') (hinner : inner = inner') :
      p ++ keyword = q ++ keyword' ∧ name = name' ∧ inner = inner' := by
    obtain ⟨hkeyword, hname⟩ := h.unique hk h' hk' hends
    exact ⟨hkeyword, hname, hinner⟩
  rw [← List.append_assoc, ← List.append_assoc] at he
  rcases List.append_eq_append_iff.mp he with ⟨a, ha, hi⟩ | ⟨a, ha, hi⟩
  · by_cases hne : a = []
    · subst hne
      exact .inl (hsame (by simpa using ha.symm) hi)
    · obtain ⟨v, hq, rfl⟩ := h.behind hk h' hk' hne ha
      exact .inr (.inr ⟨v, hq, by rw [hi, List.append_assoc]⟩)
  · by_cases hne : a = []
    · subst hne
      exact .inl (hsame (by simpa using ha) hi.symm)
    · obtain ⟨v, hp, rfl⟩ := h'.behind hk' h hk hne ha
      exact .inr (.inl ⟨v, hp, by rw [hi, List.append_assoc]⟩)

end HeaderText

theorem afterBlanks?_append {gap s : List Char} (hne : gap ≠ []) (hgap : ∀ c ∈ gap, isBlank c = true)
    (hs : ∀ c ∈ s.head?, isBlank c = false) : afterBlanks? (gap ++ s) = some s := by
  cases gap with
  | nil => exact absurd rfl hne
  | cons c gap =>
    have hrest : ∀ d ∈ gap, isBlank d = true := fun d hd => hgap d (by simp [hd])
    rw [List.cons_append, afterBlanks?, if_pos (hgap c (by simp)), List.dropWhile_append_of_pos hrest]
    exact congrArg some (Text.trimStart_of_head? hs)

theorem exists_of_afterBlanks? {s t : List Char} (h : afterBlanks? s = some t) :
    ∃ gap, gap ≠ [] ∧ (∀ c ∈ gap, isBlank c = true) ∧ s = gap ++ t := by
  cases s with
  | nil => simp [afterBlanks?] at h
  | cons c r =>
    simp only [afterBlanks?, Option.ite_none_right_eq_some, Option.some.injEq] at h
    obtain ⟨hc, rfl⟩ := h
    refine ⟨c :: r.takeWhile isBlank, by simp, ?_, by simp⟩
    intro d hd
    rcases List.mem_cons.mp hd with rfl | hd
    · exact hc
    · exact List.mem_takeWhile_imp hd

theorem eq_append_of_read? {s rest : List Char} {i : Identifier}
    (h : Identifier.read? s = some (i, rest)) :
    s = i.text.toList ++ rest ∧ ∀ c ∈ rest.head?, isWordChar c = false := by
  cases s with
  | nil => simp [Identifier.read?] at h
  | cons c r =>
    simp only [Identifier.read?, Option.ite_none_right_eq_some, Option.some.injEq,
      Prod.mk.injEq] at h
    obtain ⟨-, rfl, rfl⟩ := h
    exact ⟨by simp [Identifier.text], fun d hd => Text.head?_dropWhile hd⟩

/-- A name is read up to where no word character follows. -/
theorem read?_text_append {i : Identifier} (hi : isName i.text.toList = true) {s : List Char}
    (hs : ∀ c ∈ s.head?, isWordChar c = false) :
    Identifier.read? (i.text.toList ++ s) = some (i, s) := by
  obtain ⟨j, hj, he⟩ := read?_append hi hs
  rw [Identifier.text, String.toList_ofList, List.cons.injEq] at he
  rw [hj, Identifier.ext he.1 he.2]

theorem head?_append_brace {space : List Char} (h : ∀ c ∈ space, isBlank c = true) (s : List Char) :
    ∀ c ∈ (space ++ '{' :: s).head?, isWordChar c = false := by
  intro c hc
  cases space with
  | nil => exact (Option.some.inj hc) ▸ (by decide)
  | cons d space => exact isWordChar_of_isBlank (h c (by simp [Option.some.inj hc]))

theorem afterLiteral?_space {space : List Char} (h : ∀ c ∈ space, isBlank c = true) (s : List Char) :
    afterLiteral? ['{'] ((space ++ '{' :: s).dropWhile isBlank) = some s := by
  have hbrace : isBlank '{' = false := by decide
  rw [List.dropWhile_append_of_pos h]
  simp [hbrace, afterLiteral?]

theorem exists_of_afterLiteral?_brace {s t : List Char}
    (h : afterLiteral? ['{'] (s.dropWhile isBlank) = some t) :
    ∃ space, (∀ c ∈ space, isBlank c = true) ∧ s = space ++ '{' :: t := by
  refine ⟨s.takeWhile isBlank, fun c hc => List.mem_takeWhile_imp hc, ?_⟩
  have hs := List.takeWhile_append_dropWhile (p := isBlank) (l := s)
  rw [eq_append_of_afterLiteral? h] at hs
  exact hs.symm

theorem isBlank_head?_of_isName {s : List Char} (h : isName s = true) (t : List Char) :
    ∀ c ∈ (s ++ t).head?, isBlank c = false := by
  intro c hc
  rw [List.head?_append_of_ne_nil s (isName_ne_nil h)] at hc
  exact isBlank_of_isWordChar (all_isWordChar_of_isName h c (List.mem_of_head? hc))

/-- The headers with a keyword are read, and nothing else is. -/
theorem readHeader?_eq_some_iff {keyword s inner : List Char} {i : Identifier} :
    readHeader? keyword s = some (i, inner) ↔
      ∃ header, HeaderText keyword i.text.toList header ∧ s = header ++ inner := by
  constructor
  · intro h
    simp only [readHeader?, Option.bind_eq_bind, Option.bind_eq_some_iff, Option.pure_def,
      Option.some.injEq, Prod.mk.injEq, Prod.exists] at h
    obtain ⟨t, ht, u, hu, j, v, hj, w, hw, rfl, rfl⟩ := h
    obtain ⟨gap, hne, hgap, rfl⟩ := exists_of_afterBlanks? hu
    obtain ⟨rfl, -⟩ := eq_append_of_read? hj
    obtain ⟨space, hspace, rfl⟩ := exists_of_afterLiteral?_brace hw
    refine ⟨_, .intro hne hgap (isName_read? hj) hspace, ?_⟩
    rw [eq_append_of_afterLiteral? ht]
    simp only [List.append_assoc, List.singleton_append]
  · rintro ⟨header, ⟨hne, hgap, hname, hspace⟩, rfl⟩
    rename_i gap space
    have hshape : keyword ++ (gap ++ (i.text.toList ++ (space ++ ['{']))) ++ inner =
        keyword ++ (gap ++ (i.text.toList ++ (space ++ '{' :: inner))) := by
      simp only [List.append_assoc, List.singleton_append]
    have hblanks := afterBlanks?_append hne hgap
      (isBlank_head?_of_isName hname (space ++ '{' :: inner))
    have hread := read?_text_append hname (head?_append_brace hspace inner)
    rw [hshape]
    simp only [readHeader?, afterLiteral?_append, Option.bind_eq_bind, Option.bind_some, hblanks, hread,
      afterLiteral?_space hspace]
    rfl

/-- A header in front of a mark, or with its brace there, is read in the text up to the mark. -/
theorem readHeader?_append_of_mem {keyword s : List Char} (hk : isName keyword = true)
    (hs : ∃ c ∈ s, isWordChar c = false ∧ isBlank c = false) (t : List Char) :
    readHeader? keyword (s ++ t) = (readHeader? keyword s).map fun x => (x.1, x.2 ++ t) := by
  cases h : readHeader? keyword s with
  | some x =>
    obtain ⟨header, hh, rfl⟩ := readHeader?_eq_some_iff.mp h
    exact readHeader?_eq_some_iff.mpr ⟨header, hh, List.append_assoc _ _ _⟩
  | none =>
    rw [Option.map_none, Option.eq_none_iff_forall_ne_some]
    rintro ⟨i, inner⟩ hi
    obtain ⟨header, hh, he⟩ := readHeader?_eq_some_iff.mp hi
    obtain ⟨within, hwithin, -⟩ := hh.eq_append_of_mem hk he hs
    rw [readHeader?_eq_some_iff.mpr ⟨header, hh, hwithin⟩] at h
    cases h

theorem dropWhile_append_cons {c : Char} (hc : isBlank c = false) (body t : List Char) :
    (body ++ c :: t).dropWhile isBlank = body.dropWhile isBlank ++ c :: t := by
  induction body with
  | nil => simp [hc]
  | cons d body ih =>
    by_cases hd : isBlank d = true
    · simpa [hd] using ih
    · simp [hd]

/-- A block is read from its header to the first closing brace. -/
theorem readBlock?_eq_some_iff {keyword s body rest : List Char} {i : Identifier} :
    readBlock? keyword s = some (i, body, rest) ↔
      ∃ inner, readHeader? keyword s = some (i, inner ++ '}' :: rest) ∧ '}' ∉ inner ∧
        body = inner.dropWhile isBlank := by
  have hbrace : isBlank '}' = false := by decide
  constructor
  · intro h
    simp only [readBlock?, Option.bind_eq_bind, Option.bind_eq_some_iff, Prod.exists] at h
    obtain ⟨j, t, hheader, h⟩ := h
    rw [List.span_eq_takeWhile_dropWhile] at h
    split at h
    · rename_i body' c rest' hspan
      simp only [Option.pure_def, Option.some.injEq, Prod.mk.injEq] at h
      obtain ⟨rfl, rfl, rfl⟩ := h
      obtain ⟨htake, hrest⟩ := Prod.mk.inj hspan
      have hstop : (c != '}') = false :=
        Text.head?_dropWhile (p := (· != '}')) (by rw [hrest, List.head?_cons])
      obtain rfl : c = '}' := by simpa using hstop
      have hclose : '}' ∉ body' := by
        intro hm
        have := List.mem_takeWhile_imp (htake ▸ hm)
        simp at this
      have hparts : t.dropWhile isBlank = body' ++ '}' :: rest' := by
        rw [← htake, ← hrest, List.takeWhile_append_dropWhile]
      have hblanks : '}' ∉ t.takeWhile isBlank :=
        fun hm => absurd (List.mem_takeWhile_imp hm) (by simp [hbrace])
      refine ⟨t.takeWhile isBlank ++ body', ?_, by simp [hblanks, hclose], ?_⟩
      · rw [hheader, List.append_assoc, ← hparts, List.takeWhile_append_dropWhile]
      · have ht := dropWhile_append_cons hbrace (t.takeWhile isBlank ++ body') rest'
        rw [List.append_assoc, ← hparts, List.takeWhile_append_dropWhile, hparts] at ht
        exact List.append_cancel_right ht
    · cases h
  · rintro ⟨inner, hheader, hclose, rfl⟩
    have hclose : '}' ∉ inner.dropWhile isBlank :=
      fun hm => hclose ((List.dropWhile_suffix isBlank).subset hm)
    simp only [readBlock?, hheader, Option.bind_eq_bind, Option.bind_some,
      dropWhile_append_cons hbrace, span_append hclose]
    rfl

theorem isName_of_isAlpha {s : List Char} (hne : s ≠ []) (h : ∀ c ∈ s, c.isAlpha = true) :
    isName s = true :=
  TypeName.isName_letters ⟨s, hne, h⟩

/-- The heads of relationship blocks are the headers whose name has nothing but letters. -/
theorem readRelationshipHead?_eq_some_iff {s type inner : List Char} :
    readRelationshipHead? s = some (type, inner) ↔
      (∀ c ∈ type, c.isAlpha = true) ∧
        ∃ header, HeaderText "relationship".toList type header ∧ s = header ++ inner := by
  constructor
  · intro h
    simp only [readRelationshipHead?, List.span_eq_takeWhile_dropWhile, Option.bind_eq_bind,
      Option.bind_eq_some_iff] at h
    obtain ⟨t, ht, u, hu, h⟩ := h
    split at h
    · cases h
    rename_i hne
    simp only [Option.bind_eq_some_iff, Option.pure_def, Option.some.injEq, Prod.mk.injEq] at h
    obtain ⟨w, hw, rfl, rfl⟩ := h
    have halpha : ∀ c ∈ u.takeWhile Char.isAlpha, c.isAlpha = true :=
      fun c hc => List.mem_takeWhile_imp hc
    obtain ⟨gap, hgap_ne, hgap, rfl⟩ := exists_of_afterBlanks? hu
    obtain ⟨space, hspace, hrest⟩ := exists_of_afterLiteral?_brace hw
    refine ⟨halpha, _, .intro hgap_ne hgap (isName_of_isAlpha hne halpha) hspace, ?_⟩
    rw [eq_append_of_afterLiteral? ht]
    simp only [List.append_assoc, List.singleton_append]
    rw [← hrest, List.takeWhile_append_dropWhile]
  · rintro ⟨halpha, header, ⟨hne, hgap, hname, hspace⟩, rfl⟩
    rename_i gap space
    have hshape : "relationship".toList ++ (gap ++ (type ++ (space ++ ['{']))) ++ inner =
        "relationship".toList ++ (gap ++ (type ++ (space ++ '{' :: inner))) := by
      simp only [List.append_assoc, List.singleton_append]
    have hblanks := afterBlanks?_append hne hgap
      (isBlank_head?_of_isName hname (space ++ '{' :: inner))
    have hstop : ∀ c ∈ (space ++ '{' :: inner).head?, c.isAlpha = false := by
      intro c hc
      have hword := head?_append_brace hspace inner c hc
      by_contra ha
      rw [Bool.not_eq_false] at ha
      have := isWordChar_of_isIdentifierStart (show isIdentifierStart c = true by
        rw [isIdentifierStart, ha, Bool.true_or])
      rw [hword] at this
      cases this
    have hspan : (type ++ (space ++ '{' :: inner)).span Char.isAlpha =
        (type, space ++ '{' :: inner) := by
      rw [List.span_eq_takeWhile_dropWhile, List.takeWhile_append_of_pos halpha,
        List.dropWhile_append_of_pos halpha]
      cases hs : space ++ '{' :: inner with
      | nil => simp
      | cons c r => simp [hstop c (by rw [hs]; rfl)]
    rw [hshape]
    simp only [readRelationshipHead?, afterLiteral?_append, Option.bind_eq_bind, Option.bind_some,
      hblanks, hspan, if_neg (isName_ne_nil hname), afterLiteral?_space hspace]
    rfl

end EntitySchema.Jdl
