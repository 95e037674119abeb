import EntitySchema.Jdl.Parse
import Mathlib.Data.List.Basic

/-! Comments in source text. Block comments are removed in a pass of their own, before line comments
are looked for, so a line comment is transparent just when that pass leaves it standing
(`parse_lineComment`, `transparent_iff`). -/
namespace EntitySchema.Jdl

open Text (isBlank)

/-- Whether a block comment is open at the end of a text; `inside` tells whether one is at its
start. -/
def endsInBlock : Bool → List Char → Bool
  | inside, [] => inside
  | false, '/' :: '*' :: r => endsInBlock true r
  | true, '*' :: '/' :: r => endsInBlock false r
  | inside, _ :: r => endsInBlock inside r

/-- Where a line comment may start: behind nothing or a blank, outside block comments. -/
structure IsPlace (a : List Char) : Prop where
  blank : ∀ d ∈ a.getLast?, isBlank d = true
  closed : endsInBlock false a = false

def lineComment (c : List Char) : List Char := '/' :: '/' :: c

def blockComment (c : List Char) : List Char := '/' :: '*' :: (c ++ ['*', '/'])

/-- The comment that says `c` keeps its mark in the pass over block comments and leaves none open. -/
structure Stands (c : List Char) : Prop where
  marked : ['/', '/'] <+: dropBlockComments (lineComment c)
  closed : endsInBlock false (lineComment c) = false

/-- A mark of two characters that a text does not begin with is not made by what follows, unless it
starts with the second of them. -/
theorem not_mark_append {c d e : Char} {r t : List Char} (h : ∀ u, c = d → r = e :: u → False)
    (ht : c = d → r = [] → t.head? ≠ some e) :
    ∀ u, c = d → r ++ t = e :: u → False := by
  intro u hc hr
  cases r with
  | nil =>
    rw [List.nil_append] at hr
    exact ht hc rfl (by rw [hr, List.head?_cons])
  | cons f r =>
    rw [List.cons_append, List.cons.injEq] at hr
    exact h r hc (by rw [hr.1])

theorem getLast?_ne_of_cons {c d : Char} {r : List Char} (h : (c :: r).getLast? ≠ some d) :
    r.getLast? ≠ some d := by
  cases r with
  | nil => simp
  | cons e r => rwa [List.getLast?_cons_cons] at h

theorem endsInBlock_true (s : List Char) :
    endsInBlock true s = ((afterCommentEnd? s).map (endsInBlock false)).getD true := by
  fun_induction afterCommentEnd? s with
  | case1 => rfl
  | case2 r => rfl
  | case3 c r hend ih =>
    have hstep : endsInBlock true (c :: r) = endsInBlock true r := by
      rw [endsInBlock]
      · simp
      · exact fun t _ => hend t
    rw [hstep, ih]

theorem endsInBlock_false_cons {c : Char} {r : List Char}
    (h : ∀ t, c = '/' → r = '*' :: t → False) :
    endsInBlock false (c :: r) = endsInBlock false r := by
  rw [endsInBlock]
  · exact fun t _ => h t
  · simp

theorem endsInBlock_mark (r : List Char) : endsInBlock false ('/' :: '*' :: r) =
    ((afterCommentEnd? r).map (endsInBlock false)).getD true := by
  rw [endsInBlock, endsInBlock_true]

theorem afterCommentEnd?_eq_none_iff (s : List Char) :
    afterCommentEnd? s = none ↔ ¬['*', '/'] <:+: s := by
  fun_induction afterCommentEnd? s with
  | case1 => simp
  | case2 r => simp [List.infix_cons_iff]
  | case3 c r hend ih =>
    have hhead : ¬['*', '/'] <+: c :: r := by
      rintro ⟨t, ht⟩
      simp only [List.cons_append, List.nil_append, List.cons.injEq] at ht
      exact hend t ht.1.symm ht.2.symm
    rw [ih, List.infix_cons_iff, not_or]
    exact (and_iff_right hhead).symm

theorem afterCommentEnd?_append {s rest : List Char} (h : afterCommentEnd? s = some rest)
    (t : List Char) : afterCommentEnd? (s ++ t) = some (rest ++ t) := by
  fun_induction afterCommentEnd? s with
  | case1 => simp at h
  | case2 r =>
    rw [Option.some.injEq] at h
    simp [afterCommentEnd?, h]
  | case3 c r hend ih =>
    have hstep : afterCommentEnd? (c :: (r ++ t)) = afterCommentEnd? (r ++ t) := by
      rw [afterCommentEnd?]
      refine not_mark_append hend fun _ hr => ?_
      -- An end mark across the seam would leave nothing of `r` to find an end in.
      simp [hr, afterCommentEnd?] at h
    rw [List.cons_append, hstep, ih h]

theorem afterCommentEnd?_append_of_none {s t : List Char} (hs : afterCommentEnd? s = none)
    (ht : t.head? ≠ some '/') : afterCommentEnd? (s ++ t) = afterCommentEnd? t := by
  fun_induction afterCommentEnd? s with
  | case1 => rfl
  | case2 => simp at hs
  | case3 c r hend ih =>
    have hstep : afterCommentEnd? (c :: (r ++ t)) = afterCommentEnd? (r ++ t) := by
      rw [afterCommentEnd?]
      exact not_mark_append hend fun _ _ => ht
    rw [List.cons_append, hstep, ih hs]

theorem afterCommentEnd?_eq_none_of_cons {c : Char} {r : List Char}
    (h : afterCommentEnd? (c :: r) = none) : afterCommentEnd? r = none := by
  rw [afterCommentEnd?_eq_none_iff] at h ⊢
  exact fun hi => h (List.infix_cons hi)

/-- What an open comment says up to its end has no end mark in it. -/
theorem exists_of_afterCommentEnd? {s rest : List Char} (h : afterCommentEnd? s = some rest) :
    ∃ c, afterCommentEnd? c = none ∧ s = c ++ '*' :: '/' :: rest := by
  fun_induction afterCommentEnd? s with
  | case1 => simp at h
  | case2 r => exact ⟨[], rfl, by rw [Option.some.inj h, List.nil_append]⟩
  | case3 d r hend ih =>
    obtain ⟨c, hc, rfl⟩ := ih h
    refine ⟨d :: c, ?_, rfl⟩
    rw [afterCommentEnd?, hc]
    rintro u rfl rfl
    exact hend _ rfl rfl

theorem getLast?_blockComment (c : List Char) : (blockComment c).getLast? = some '/' := by
  have hshape : blockComment c = ('/' :: '*' :: (c ++ ['*'])) ++ ['/'] := by simp [blockComment]
  rw [hshape, List.getLast?_concat]

theorem exists_blockComment {r rest : List Char} (h : afterCommentEnd? r = some rest) :
    ∃ c, afterCommentEnd? c = none ∧ '/' :: '*' :: r = blockComment c ++ rest := by
  obtain ⟨c, hc, rfl⟩ := exists_of_afterCommentEnd? h
  exact ⟨c, hc, by simp [blockComment]⟩

theorem dropBlockComments_cons {c : Char} {r : List Char}
    (h : ∀ t, c = '/' → r = '*' :: t → False) :
    dropBlockComments (c :: r) = c :: dropBlockComments r := by
  rw [dropBlockComments]
  exact h

theorem dropBlockComments_mark (r : List Char) : dropBlockComments ('/' :: '*' :: r) =
    ((afterCommentEnd? r).map dropBlockComments).getD ('/' :: '*' :: r) := by
  rw [dropBlockComments]
  split
  · rename_i rest h
    simp [h]
  · rename_i h
    simp [h]

theorem dropBlockComments_of_none {s : List Char} (h : afterCommentEnd? s = none) :
    dropBlockComments s = s := by
  fun_induction dropBlockComments s with
  | case1 => rfl
  | case2 r rest hrest =>
    have hr := afterCommentEnd?_eq_none_of_cons (afterCommentEnd?_eq_none_of_cons h)
    rw [hr] at hrest
    cases hrest
  | case3 => rfl
  | case4 c r hmark ih => rw [ih (afterCommentEnd?_eq_none_of_cons h)]

theorem dropBlockComments_of_not_mem {s : List Char} (h : '/' ∉ s) : dropBlockComments s = s := by
  apply dropBlockComments_of_none
  rw [afterCommentEnd?_eq_none_iff]
  exact fun hi => h (hi.subset (by simp))

/-- The pass over block comments takes two texts one by one when the second neither goes on with a
mark that the first begins nor ends a comment that the first leaves open. -/
theorem dropBlockComments_append {s t : List Char}
    (hseam : s.getLast? = some '/' → t.head? ≠ some '*')
    (h : endsInBlock false s = false ∨ afterCommentEnd? t = none ∧ t.head? ≠ some '/') :
    dropBlockComments (s ++ t) = dropBlockComments s ++ dropBlockComments t := by
  fun_induction dropBlockComments s with
  | case1 => rfl
  | case2 r rest hrest hlt ih =>
    have hlast : rest.getLast? = some '/' → t.head? ≠ some '*' := by
      obtain ⟨c, -, hshape⟩ := exists_blockComment hrest
      intro hslash
      exact hseam (by rw [hshape, List.getLast?_append, hslash, Option.some_or])
    rw [endsInBlock_mark, hrest, Option.map_some, Option.getD_some] at h
    rw [List.cons_append, List.cons_append, dropBlockComments_mark, afterCommentEnd?_append hrest t]
    exact ih hlast h
  | case3 r hrest =>
    obtain ⟨ht, hslash⟩ := h.resolve_left (by simp [endsInBlock_mark, hrest])
    have hall : afterCommentEnd? (r ++ t) = none := by
      rw [afterCommentEnd?_append_of_none hrest hslash, ht]
    rw [List.cons_append, List.cons_append, dropBlockComments_mark, hall,
      dropBlockComments_of_none ht]
    rfl
  | case4 c r hmark ih =>
    have hnext : c = '/' → r = [] → t.head? ≠ some '*' := fun hc hr => hseam (by simp [hc, hr])
    have hlast : r.getLast? = some '/' → t.head? ≠ some '*' := by
      intro hr
      by_contra ht
      exact getLast?_ne_of_cons (fun hc => hseam hc ht) hr
    rw [endsInBlock_false_cons hmark] at h
    rw [List.cons_append, dropBlockComments_cons (not_mark_append hmark hnext), ih hlast h,
      List.cons_append]

theorem dropBlockComments_sublist (s : List Char) : (dropBlockComments s).Sublist s := by
  fun_induction dropBlockComments s with
  | case1 => exact .slnil
  | case2 r rest hrest hlt ih =>
    obtain ⟨c, -, hshape⟩ := exists_blockComment hrest
    rw [hshape]
    exact ih.trans (List.sublist_append_right _ _)
  | case3 => exact List.Sublist.refl _
  | case4 c r hmark ih => exact ih.cons_cons c

/-- Where no block comment is open at its end, a text keeps its last character, unless that may end a
comment. -/
theorem getLast?_dropBlockComments {s : List Char} (hc : endsInBlock false s = false)
    (hs : s.getLast? ≠ some '/') : (dropBlockComments s).getLast? = s.getLast? := by
  fun_induction dropBlockComments s with
  | case1 => rfl
  | case2 r rest hrest hlt ih =>
    rw [endsInBlock_mark, hrest, Option.map_some, Option.getD_some] at hc
    obtain ⟨c, -, hshape⟩ := exists_blockComment hrest
    rw [hshape] at hs ⊢
    cases rest with
    | nil => simp [getLast?_blockComment] at hs
    | cons d rest =>
      rw [List.getLast?_append_of_ne_nil _ (List.cons_ne_nil d rest)] at hs ⊢
      exact ih hc hs
  | case3 => rfl
  | case4 c r hmark ih =>
    rw [endsInBlock_false_cons hmark] at hc
    have ih := ih hc (getLast?_ne_of_cons hs)
    cases r with
    | nil => simp [dropBlockComments]
    | cons d r => rw [List.getLast?_cons, ih, List.getLast?_cons_cons, List.getLast?_cons,
        Option.getD_some]

theorem dropLineCommentsFrom_cons {c : Char} {r : List Char}
    (h : ∀ t, c = '/' → r = '/' :: t → False) :
    dropLineCommentsFrom false (c :: r) = c :: dropLineCommentsFrom false r := by
  rw [dropLineCommentsFrom]
  exact h

theorem dropLineComments_of_not_infix {s : List Char} (h : ¬['/', '/'] <:+: s) :
    dropLineComments s = s := by
  unfold dropLineComments
  induction s with
  | nil => rfl
  | cons c r ih =>
    have hmark : ∀ u, c = '/' → r = '/' :: u → False := by
      rintro u rfl rfl
      exact h ⟨[], u, rfl⟩
    rw [dropLineCommentsFrom_cons hmark, ih fun hi => h (List.infix_cons hi)]

theorem dropLineComments_of_not_mem {s : List Char} (h : '/' ∉ s) : dropLineComments s = s :=
  dropLineComments_of_not_infix fun hi => h (hi.subset (by simp))

/-- The pass over line comments goes on behind a text in a state that the text alone decides. -/
theorem exists_dropLineCommentsFrom_append {s : List Char} (hs : s.getLast? ≠ some '/')
    (inside : Bool) : ∃ after, ∀ t, dropLineCommentsFrom inside (s ++ t) =
      dropLineCommentsFrom inside s ++ dropLineCommentsFrom after t := by
  fun_induction dropLineCommentsFrom inside s with
  | case1 inside => exact ⟨inside, fun t => rfl⟩
  | case2 c r hbreak ih =>
    obtain ⟨after, h⟩ := ih (getLast?_ne_of_cons hs)
    exact ⟨after, fun t => by simp [dropLineCommentsFrom, hbreak, h]⟩
  | case3 c r hbreak ih =>
    obtain ⟨after, h⟩ := ih (getLast?_ne_of_cons hs)
    exact ⟨after, fun t => by simp [dropLineCommentsFrom, hbreak, h]⟩
  | case4 r ih =>
    obtain ⟨after, h⟩ := ih (getLast?_ne_of_cons (getLast?_ne_of_cons hs))
    exact ⟨after, fun t => by simp [dropLineCommentsFrom, h]⟩
  | case5 c r hmark ih =>
    obtain ⟨after, h⟩ := ih (getLast?_ne_of_cons hs)
    refine ⟨after, fun t => ?_⟩
    have hseam : ∀ u, c = '/' → r ++ t = '/' :: u → False := by
      refine not_mark_append hmark fun hc hr => ?_
      simp [hc, hr] at hs
    rw [List.cons_append, dropLineCommentsFrom_cons hseam, h, List.cons_append]

theorem dropLineCommentsFrom_true_append {c : List Char} (hc : ∀ d ∈ c, isLineBreak d = false)
    (t : List Char) : dropLineCommentsFrom true (c ++ t) = dropLineCommentsFrom true t := by
  induction c with
  | nil => rfl
  | cons d c ih =>
    have hd := hc d (by simp)
    have hrest : ∀ e ∈ c, isLineBreak e = false := fun e he => hc e (by simp [he])
    rw [List.cons_append, dropLineCommentsFrom, if_neg (by simp [hd]), ih hrest]

/-- Whether one is open already or not, a line comment is removed up to its line feed. -/
theorem dropLineCommentsFrom_lineComment {c : List Char} (hc : ∀ d ∈ c, isLineBreak d = false)
    (inside : Bool) (t : List Char) :
    dropLineCommentsFrom inside (lineComment c ++ '\n' :: t) =
      dropLineCommentsFrom inside ('\n' :: t) := by
  have hmark : ∀ d ∈ lineComment c, isLineBreak d = false := by
    intro d hd
    simp only [lineComment, List.mem_cons] at hd
    rcases hd with rfl | rfl | hd
    · rfl
    · rfl
    · exact hc d hd
  cases inside with
  | true => exact dropLineCommentsFrom_true_append hmark _
  | false =>
    rw [lineComment, List.cons_append, List.cons_append, dropLineCommentsFrom,
      dropLineCommentsFrom_true_append hc]
    rfl

theorem stripComments_of_not_mem {s : List Char} (h : '/' ∉ s) : stripComments s = s := by
  rw [stripComments, dropBlockComments_of_not_mem h, dropLineComments_of_not_mem h]

/-- A line comment that the pass over block comments leaves standing makes no difference. -/
theorem stripComments_append_lineComment {a c b : List Char} (ha : endsInBlock false a = false)
    (hs : a.getLast? ≠ some '/') (hc : ∀ d ∈ c, isLineBreak d = false)
    (hmark : ['/', '/'] <+: dropBlockComments (lineComment c))
    (hb : endsInBlock false (lineComment c) = false ∨ afterCommentEnd? b = none) :
    stripComments (a ++ (lineComment c ++ '\n' :: b)) = stripComments (a ++ '\n' :: b) := by
  obtain ⟨c', hc'⟩ := hmark
  have hbreak : ∀ d ∈ c', isLineBreak d = false := by
    intro d hd
    have hmem : d ∈ lineComment c := (dropBlockComments_sublist _).subset (by simp [← hc', hd])
    simp only [lineComment, List.mem_cons] at hmem
    rcases hmem with rfl | rfl | hmem
    · rfl
    · rfl
    · exact hc d hmem
  have hfeed : dropBlockComments ('\n' :: b) = '\n' :: dropBlockComments b :=
    dropBlockComments_cons fun t h => by simp at h
  have hend : afterCommentEnd? b = none → afterCommentEnd? ('\n' :: b) = none := by
    intro h
    rw [afterCommentEnd?, h]
    simp
  -- The two texts agree on both sides of the comment already in the pass over block comments.
  have hcomment : dropBlockComments (lineComment c ++ '\n' :: b) =
      lineComment c' ++ '\n' :: dropBlockComments b := by
    rw [dropBlockComments_append (fun _ => by simp) (hb.imp_right fun h => ⟨hend h, by simp⟩), hfeed, ← hc']
    rfl
  have hkeep := getLast?_dropBlockComments ha hs
  obtain ⟨after, hafter⟩ := exists_dropLineCommentsFrom_append (hkeep ▸ hs) false
  rw [stripComments, stripComments, dropLineComments, dropLineComments,
    dropBlockComments_append (fun _ => by simp [lineComment]) (.inl ha), hcomment,
    dropBlockComments_append (fun _ => by simp) (.inl ha), hfeed, hafter, hafter,
    dropLineCommentsFrom_lineComment hbreak]

theorem IsPlace.getLast?_ne {a : List Char} (h : IsPlace a) : a.getLast? ≠ some '/' :=
  fun hs => absurd (h.blank '/' hs) (by decide)

theorem isPlace_nil : IsPlace [] := ⟨by simp, rfl⟩

theorem isPlace_of_getLast? {a : List Char} {d : Char} (h : a.getLast? = some d)
    (hd : isBlank d = true) (hc : endsInBlock false a = false) : IsPlace a where
  blank := by
    intro e he
    rw [h, Option.mem_some_iff] at he
    exact he ▸ hd
  closed := hc

theorem isLineBreak_of_all {c : List Char} (h : c.all (!isLineBreak ·) = true) :
    ∀ d ∈ c, isLineBreak d = false := by
  simpa using h

/-- Of what follows a text that leaves a block comment open, nothing stays up to an end mark in the
next line. -/
theorem mem_of_mem_dropBlockComments {s : List Char} (h : endsInBlock false s = true) {d : Char}
    (hd : d ∈ dropBlockComments (s ++ ['\n', '*', '/'])) : d ∈ s := by
  fun_induction dropBlockComments s with
  | case1 => simp [endsInBlock] at h
  | case2 r rest hrest hlt ih =>
    rw [endsInBlock_mark, hrest] at h
    rw [List.cons_append, List.cons_append, dropBlockComments_mark,
      afterCommentEnd?_append hrest] at hd
    obtain ⟨c, -, hshape⟩ := exists_blockComment hrest
    rw [hshape]
    exact List.mem_append_right _ (ih h hd)
  | case3 r hrest =>
    rw [List.cons_append, List.cons_append, dropBlockComments_mark,
      afterCommentEnd?_append_of_none hrest (by simp)] at hd
    simp [afterCommentEnd?, dropBlockComments] at hd
  | case4 c r hmark ih =>
    rw [endsInBlock_false_cons hmark] at h
    have hseam : ∀ u, c = '/' → r ++ ['\n', '*', '/'] = '*' :: u → False :=
      not_mark_append hmark fun _ _ => by simp
    rw [List.cons_append, dropBlockComments_cons hseam, List.mem_cons] at hd
    rcases hd with rfl | hd
    · exact List.mem_cons_self
    · exact List.mem_cons_of_mem c (ih h hd)

theorem dropLineCommentsFrom_sublist (inside : Bool) (s : List Char) :
    (dropLineCommentsFrom inside s).Sublist s := by
  fun_induction dropLineCommentsFrom inside s with
  | case1 => exact .slnil
  | case2 c r hbreak ih => exact ih.cons_cons c
  | case3 c r hbreak ih => exact ih.cons c
  | case4 r ih => exact (ih.cons '/').cons '/'
  | case5 c r hmark ih => exact ih.cons_cons c

/-- A comment that does not begin with a star is still marked as one after the pass. -/
theorem marked_of_head? {c : List Char} (h : c.head? ≠ some '*') :
    ['/', '/'] <+: dropBlockComments (lineComment c) := by
  have hfirst : ∀ t, '/' = '/' → '/' :: c = '*' :: t → False := by simp
  have hsecond : ∀ t, '/' = '/' → c = '*' :: t → False := by
    rintro t - rfl
    exact h rfl
  rw [lineComment, dropBlockComments_cons hfirst, dropBlockComments_cons hsecond]
  exact ⟨_, rfl⟩

/-- The comment that says `c` makes no difference at any place. -/
def Transparent (c : List Char) : Prop :=
  ∀ a b, IsPlace a →
    stripComments (a ++ (lineComment c ++ '\n' :: b)) = stripComments (a ++ '\n' :: b)

/-- A comment that loses its mark leaves a slash, in a text of this comment alone. -/
theorem marked_of_transparent {c : List Char} (h : Transparent c) :
    ['/', '/'] <+: dropBlockComments (lineComment c) := by
  by_contra hmark
  have hcons : dropBlockComments (lineComment c) = '/' :: dropBlockComments ('/' :: c) :=
    dropBlockComments_cons fun t => by simp
  have hblocks : dropBlockComments (lineComment c ++ ['\n']) =
      '/' :: (dropBlockComments ('/' :: c) ++ ['\n']) := by
    rw [dropBlockComments_append (fun _ => by simp) (.inr ⟨rfl, by simp⟩), hcons,
      dropBlockComments_of_none (s := ['\n']) rfl]
    rfl
  have hnone : ∀ u, '/' = '/' → dropBlockComments ('/' :: c) = '/' :: u → False := by
    intro u _ hu
    exact hmark ⟨u, by rw [hcons, hu]; rfl⟩
  have hseam : ∀ u, '/' = '/' → dropBlockComments ('/' :: c) ++ ['\n'] = '/' :: u → False :=
    not_mark_append hnone fun _ _ => by simp
  have hkept : stripComments (lineComment c ++ ['\n']) =
      '/' :: dropLineCommentsFrom false (dropBlockComments ('/' :: c) ++ ['\n']) := by
    rw [stripComments, hblocks, dropLineComments, dropLineCommentsFrom_cons hseam]
  have hgone : stripComments ['\n'] = ['\n'] := by decide +kernel
  have hsame := h [] [] isPlace_nil
  rw [List.nil_append, List.nil_append, hkept, hgone] at hsame
  simp at hsame

/-- A comment that leaves a block comment open loses its line feed to an end mark in the next
line. -/
theorem closed_of_transparent {c : List Char} (hc : ∀ d ∈ c, isLineBreak d = false)
    (h : Transparent c) : endsInBlock false (lineComment c) = false := by
  by_contra hopen
  rw [Bool.not_eq_false] at hopen
  have hgone : '\n' ∉ stripComments (lineComment c ++ ['\n', '*', '/']) := by
    intro hmem
    have hmem := (dropLineCommentsFrom_sublist false _).subset hmem
    have hmem := mem_of_mem_dropBlockComments hopen hmem
    simp only [lineComment, List.mem_cons] at hmem
    rcases hmem with hd | hd | hd
    · simp at hd
    · simp at hd
    · exact absurd (hc '\n' hd) (by decide)
  have hkept : stripComments ['\n', '*', '/'] = ['\n', '*', '/'] := by decide +kernel
  have hsame := h [] ['*', '/'] isPlace_nil
  rw [List.nil_append, List.nil_append, hkept] at hsame
  rw [hsame] at hgone
  simp at hgone

/-- A line comment is transparent just when it stands. -/
theorem transparent_iff {c : List Char} (hc : ∀ d ∈ c, isLineBreak d = false) :
    Transparent c ↔ Stands c := by
  constructor
  · intro h
    exact ⟨marked_of_transparent h, closed_of_transparent hc h⟩
  · intro h a b ha
    exact stripComments_append_lineComment ha.closed ha.getLast?_ne hc h.marked (.inl h.closed)

/-- A line comment is transparent: the text with it and the text without it are parsed alike. The
comment may hold block comments; what it opens must be closed in it, unless no end mark follows, and
it must not lose its own mark to a block comment that begins with its second slash. -/
theorem parse_lineComment (a b c : List Char) (ha : IsPlace a)
    (hc : ∀ d ∈ c, isLineBreak d = false)
    (hmark : ['/', '/'] <+: dropBlockComments (lineComment c))
    (hb : endsInBlock false (lineComment c) = false ∨ ¬['*', '/'] <:+: b) :
    stripComments (a ++ (lineComment c ++ '\n' :: b)) = stripComments (a ++ '\n' :: b) ∧
      parse (a ++ (lineComment c ++ '\n' :: b)) = parse (a ++ '\n' :: b) := by
  have hstrip := stripComments_append_lineComment ha.closed ha.getLast?_ne hc hmark
    (hb.imp_right (afterCommentEnd?_eq_none_iff b).mpr)
  refine ⟨hstrip, ?_⟩
  rw [parse, parse, hstrip]

/-- Block comments before, in and after a line comment. -/
theorem parse_lineComment_note :
    parse ("enum E { A /* b */ } ".toList ++
        (lineComment " see /* note */ src".toList ++ '\n' :: "entity B {} /* end */".toList)) =
      parse ("enum E { A /* b */ } ".toList ++ '\n' :: "entity B {} /* end */".toList) :=
  (parse_lineComment _ _ _ (isPlace_of_getLast? (d := ' ') (by decide) (by decide) (by decide))
    (isLineBreak_of_all (by decide)) (marked_of_head? (by decide)) (.inl (by decide))).2

/-- A comment that opens a block comment hides what is declared up to the next end mark, and one that
begins with a star can lose its mark. -/
theorem lineComment_not_transparent :
    let c := " src/*".toList
    let b := "entity A {}\n/* end */\n".toList
    IsPlace [] ∧ (∀ d ∈ c, isLineBreak d = false) ∧
      stripComments (lineComment c ++ '\n' :: b) ≠ stripComments ('\n' :: b) ∧
      (parseSchema (lineComment c ++ '\n' :: b)).entities.keys = [] ∧
      (parseSchema ('\n' :: b)).entities.keys = ["A"] ∧
      stripComments (lineComment "* note */".toList ++ ['\n']) = ['/', '\n'] := by
  refine ⟨isPlace_nil, isLineBreak_of_all (by decide), by decide +kernel, by decide +kernel,
    by decide +kernel, by decide +kernel⟩

end EntitySchema.Jdl
