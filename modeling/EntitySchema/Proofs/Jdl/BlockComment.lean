import EntitySchema.Proofs.Jdl.Comment

/-! Block comments in source text. One is transparent at every place outside another
(`parse_blockComment`). What stripping leaves has no line comment in it, and a block comment only
where comments stood between a slash and a star (`stripComments_leftover`). -/
namespace EntitySchema.Jdl

theorem afterCommentEnd?_comment {c : List Char} (hc : afterCommentEnd? c = none) (s : List Char) :
    afterCommentEnd? (c ++ '*' :: '/' :: s) = some s := by
  rw [afterCommentEnd?_append_of_none hc (by simp), afterCommentEnd?]

theorem blockComment_append (c s : List Char) :
    blockComment c ++ s = '/' :: '*' :: (c ++ '*' :: '/' :: s) := by
  simp [blockComment]

theorem endsInBlock_blockComment {c : List Char} (hc : afterCommentEnd? c = none) (s : List Char) :
    endsInBlock false (blockComment c ++ s) = endsInBlock false s := by
  rw [blockComment_append, endsInBlock_mark, afterCommentEnd?_comment hc]
  rfl

theorem dropBlockComments_blockComment {c : List Char} (hc : afterCommentEnd? c = none)
    (s : List Char) : dropBlockComments (blockComment c ++ s) = dropBlockComments s := by
  rw [blockComment_append, dropBlockComments_mark, afterCommentEnd?_comment hc]
  rfl

/-- Behind a text that leaves none open, a comment is removed whatever follows it. -/
theorem dropBlockComments_append_blockComment {a c : List Char} (ha : endsInBlock false a = false)
    (hc : afterCommentEnd? c = none) (s : List Char) :
    dropBlockComments (a ++ (blockComment c ++ s)) =
      dropBlockComments a ++ dropBlockComments s := by
  rw [dropBlockComments_append (fun _ => by simp [blockComment]) (.inl ha),
    dropBlockComments_blockComment hc]

/-- A block comment is transparent: the text with it and the text without it are parsed alike. It
may say anything but an end mark, and the text before it may end within a line comment. -/
theorem parse_blockComment (a b c : List Char) (ha : IsPlace a) (hc : ¬['*', '/'] <:+: c) :
    stripComments (a ++ (blockComment c ++ b)) = stripComments (a ++ b) ∧
      parse (a ++ (blockComment c ++ b)) = parse (a ++ b) := by
  have hc : afterCommentEnd? c = none := (afterCommentEnd?_eq_none_iff c).mpr hc
  have hblocks : dropBlockComments (a ++ (blockComment c ++ b)) = dropBlockComments (a ++ b) := by
    rw [dropBlockComments_append_blockComment ha.closed hc,
      dropBlockComments_append (fun hs => absurd hs ha.getLast?_ne) (.inl ha.closed)]
  have hstrip : stripComments (a ++ (blockComment c ++ b)) = stripComments (a ++ b) := by
    rw [stripComments, stripComments, hblocks]
  refine ⟨hstrip, ?_⟩
  rw [parse, parse, hstrip]

/-- A comment of two lines with marks in it and at its ends, inside a line comment. -/
theorem parse_blockComment_marks :
    let a := "enum E { A /* b */ } // see ".toList
    let c := "/ a // b /*\n c **".toList
    let b := "src/*\nentity B {}\n".toList
    IsPlace a ∧ ¬['*', '/'] <:+: c ∧ parse (a ++ (blockComment c ++ b)) = parse (a ++ b) := by
  intro a c b
  have ha : IsPlace a :=
    isPlace_of_getLast? (d := ' ') (by decide +kernel) (by decide) (by decide +kernel)
  have hc : ¬['*', '/'] <:+: c := (afterCommentEnd?_eq_none_iff c).mp (by decide +kernel)
  exact ⟨ha, hc, (parse_blockComment a b c ha hc).2⟩

/-- A whole block comment stands somewhere in the text: a mark of its beginning and, behind that, a
mark of its end. -/
def HoldsBlock (s : List Char) : Prop := ∃ c, blockComment c <:+: s

theorem holdsBlock_cons_iff {d : Char} {r : List Char} :
    HoldsBlock (d :: r) ↔ (∃ c, blockComment c <+: d :: r) ∨ HoldsBlock r := by
  simp only [HoldsBlock, List.infix_cons_iff, exists_or]

theorem exists_of_blockComment_prefix {d : Char} {r : List Char}
    (h : ∃ c, blockComment c <+: d :: r) :
    d = '/' ∧ ∃ c w, r = '*' :: (c ++ '*' :: '/' :: w) := by
  obtain ⟨c, w, h⟩ := h
  rw [blockComment_append, List.cons.injEq] at h
  exact ⟨h.1.symm, c, w, h.2.symm⟩

/-- The end of a block comment lies behind its beginning. -/
theorem end_infix_of_holdsBlock {d e : Char} {r : List Char} (h : HoldsBlock (d :: e :: r)) :
    ['*', '/'] <:+: r := by
  rcases holdsBlock_cons_iff.mp h with h | h
  · obtain ⟨-, c, w, h⟩ := exists_of_blockComment_prefix h
    rw [List.cons.injEq] at h
    exact ⟨c, w, by simp [h.2]⟩
  rcases holdsBlock_cons_iff.mp h with h | ⟨c, h⟩
  · obtain ⟨-, c, w, rfl⟩ := exists_of_blockComment_prefix h
    exact ⟨'*' :: c, w, by simp⟩
  · exact List.IsInfix.trans ⟨'/' :: '*' :: c, [], by simp [blockComment]⟩ h

theorem dropBlockComments_eq_self_iff (s : List Char) :
    dropBlockComments s = s ↔ ¬HoldsBlock s := by
  fun_induction dropBlockComments s with
  | case1 => simp [HoldsBlock, blockComment]
  | case2 r rest hrest hlt ih =>
    obtain ⟨c, hc, hshape⟩ := exists_blockComment hrest
    have hholds : HoldsBlock (blockComment c ++ rest) := ⟨c, [], rest, by simp⟩
    have hshort : dropBlockComments rest ≠ blockComment c ++ rest := by
      intro h
      have hle := (dropBlockComments_sublist rest).length_le
      rw [h, List.length_append, blockComment, List.length_cons] at hle
      omega
    rw [hshape]
    exact iff_of_false hshort (not_not_intro hholds)
  | case3 r hrest =>
    refine iff_of_true rfl fun h => ?_
    exact (afterCommentEnd?_eq_none_iff r).mp hrest (end_infix_of_holdsBlock h)
  | case4 d r hmark ih =>
    have hhead : ¬∃ c, blockComment c <+: d :: r := by
      intro h
      obtain ⟨hd, c, w, hr⟩ := exists_of_blockComment_prefix h
      exact hmark _ hd hr
    rw [List.cons.injEq, and_iff_right rfl, ih, holdsBlock_cons_iff, or_iff_right hhead]

/-- The pass removes the comment that says `c`, which stands behind `u` and before a star. Of `u` it
keeps a slash as the last, and behind the star it keeps an end mark. -/
structure Joint (u c v : List Char) : Prop where
  comment : afterCommentEnd? c = none
  closed : endsInBlock false u = false
  slash : (dropBlockComments u).getLast? = some '/'
  ended : ['*', '/'] <:+: dropBlockComments v

/-- Somewhere in the text, removed comments stand between a slash and a star. -/
def Joins (t : List Char) : Prop := ∃ u c v, t = u ++ (blockComment c ++ '*' :: v) ∧ Joint u c v

theorem dropBlockComments_star (v : List Char) :
    dropBlockComments ('*' :: v) = '*' :: dropBlockComments v :=
  dropBlockComments_cons fun t h => by simp at h

theorem Joins.cons {d : Char} {r : List Char} (hmark : ∀ t, d = '/' → r = '*' :: t → False)
    (h : Joins r) : Joins (d :: r) := by
  obtain ⟨u, c, v, rfl, h⟩ := h
  have hu : ∀ t, d = '/' → u = '*' :: t → False := by
    rintro t hd rfl
    exact hmark _ hd rfl
  refine ⟨d :: u, c, v, rfl, h.comment, ?_, ?_, h.ended⟩
  · rw [endsInBlock_false_cons hu, h.closed]
  · rw [dropBlockComments_cons hu, List.getLast?_cons, h.slash, Option.getD_some]

theorem Joins.behind {c r : List Char} (hc : afterCommentEnd? c = none) (h : Joins r) :
    Joins (blockComment c ++ r) := by
  obtain ⟨u, d, v, rfl, h⟩ := h
  refine ⟨blockComment c ++ u, d, v, by rw [List.append_assoc], h.comment, ?_, ?_, h.ended⟩
  · rw [endsInBlock_blockComment hc, h.closed]
  · rw [dropBlockComments_blockComment hc, h.slash]

/-- A star that the pass brings to the front stood behind comments. -/
theorem exists_of_star {s q : List Char} (h : dropBlockComments s = '*' :: q)
    (hs : s.head? ≠ some '*') :
    ∃ u c v, s = u ++ (blockComment c ++ '*' :: v) ∧ afterCommentEnd? c = none ∧
      endsInBlock false u = false ∧ dropBlockComments u = [] ∧ dropBlockComments v = q := by
  fun_induction dropBlockComments s with
  | case1 => simp at h
  | case2 r rest hrest hlt ih =>
    obtain ⟨c, hc, hshape⟩ := exists_blockComment hrest
    rw [hshape]
    by_cases hstar : rest.head? = some '*'
    · obtain ⟨v, rfl⟩ := List.head?_eq_some_iff.mp hstar
      rw [dropBlockComments_star, List.cons.injEq] at h
      exact ⟨[], c, v, rfl, hc, rfl, dropBlockComments_of_none rfl, h.2⟩
    · obtain ⟨u, d, v, rfl, hd, hu, hnone, hq⟩ := ih h hstar
      refine ⟨blockComment c ++ u, d, v, by rw [List.append_assoc], hd, ?_, ?_, hq⟩
      · rw [endsInBlock_blockComment hc, hu]
      · rw [dropBlockComments_blockComment hc, hnone]
  | case3 => simp at h
  | case4 d r hmark ih =>
    rw [List.cons.injEq] at h
    simp [h.1] at hs

/-- A slash that the pass keeps, and brings in front of a star that did not follow it before. -/
theorem joins_of_star {r c w : List Char} (hstar : r.head? ≠ some '*')
    (h : dropBlockComments r = '*' :: (c ++ '*' :: '/' :: w)) : Joins ('/' :: r) := by
  obtain ⟨u, d, v, rfl, hd, hu, hnone, hv⟩ := exists_of_star h hstar
  have hseam : ∀ t, '/' = '/' → u = '*' :: t → False := by
    rintro t - rfl
    exact hstar rfl
  refine ⟨'/' :: u, d, v, rfl, hd, ?_, ?_, ?_⟩
  · rw [endsInBlock_false_cons hseam, hu]
  · rw [dropBlockComments_cons hseam, hnone]
    rfl
  · exact ⟨c, w, by rw [hv, List.append_assoc]; rfl⟩

theorem joins_of_holdsBlock {t : List Char} (h : HoldsBlock (dropBlockComments t)) : Joins t := by
  fun_induction dropBlockComments t with
  | case1 => simp [HoldsBlock, blockComment] at h
  | case2 r rest hrest hlt ih =>
    obtain ⟨c, hc, hshape⟩ := exists_blockComment hrest
    rw [hshape]
    exact (ih h).behind hc
  | case3 r hrest =>
    exact absurd (end_infix_of_holdsBlock h) ((afterCommentEnd?_eq_none_iff r).mp hrest)
  | case4 d r hmark ih =>
    rcases holdsBlock_cons_iff.mp h with h | h
    · obtain ⟨rfl, c, w, hr⟩ := exists_of_blockComment_prefix h
      have hstar : r.head? ≠ some '*' := by
        intro hhead
        obtain ⟨t, rfl⟩ := List.head?_eq_some_iff.mp hhead
        exact hmark t rfl rfl
      exact joins_of_star hstar hr
    · exact (ih h).cons hmark

/-- The pass over block comments leaves whole ones just where it joins their marks. -/
theorem holdsBlock_dropBlockComments_iff (t : List Char) :
    HoldsBlock (dropBlockComments t) ↔ Joins t := by
  refine ⟨joins_of_holdsBlock, ?_⟩
  rintro ⟨u, c, v, rfl, h⟩
  obtain ⟨p, hp⟩ := List.getLast?_eq_some_iff.mp h.slash
  obtain ⟨c', w, hv⟩ := h.ended
  refine ⟨c', p, w, ?_⟩
  rw [dropBlockComments_append_blockComment h.closed h.comment, dropBlockComments_star, hp, ← hv]
  simp [blockComment]

/-- Behind a removed line comment goes on the end of its line. -/
theorem isLineBreak_of_dropLineCommentsFrom {r out : List Char} {d : Char}
    (h : dropLineCommentsFrom true r = d :: out) : isLineBreak d = true := by
  induction r with
  | nil => simp [dropLineCommentsFrom] at h
  | cons c r ih =>
    rw [dropLineCommentsFrom] at h
    split at h
    · rename_i hbreak
      exact (List.cons.inj h).1 ▸ hbreak
    · exact ih h

/-- A first character that is no line break was the first before the pass. -/
theorem exists_of_dropLineCommentsFrom {r out : List Char} {d : Char}
    (h : dropLineCommentsFrom false r = d :: out) (hd : isLineBreak d = false) :
    ∃ r', r = d :: r' ∧ dropLineCommentsFrom false r' = out := by
  cases r with
  | nil => simp [dropLineCommentsFrom] at h
  | cons c r =>
    by_cases hmark : c = '/' ∧ ∃ t, r = '/' :: t
    · obtain ⟨rfl, t, rfl⟩ := hmark
      rw [dropLineCommentsFrom] at h
      simp [isLineBreak_of_dropLineCommentsFrom h] at hd
    · rw [dropLineCommentsFrom_cons fun t hc hr => hmark ⟨hc, t, hr⟩, List.cons.injEq] at h
      obtain ⟨rfl, h⟩ := h
      exact ⟨r, rfl, h⟩

/-- The pass over line comments joins nothing but lines: two characters that stand side by side
behind it did so before. -/
theorem pair_infix_of_dropLineCommentsFrom {d e : Char} {inside : Bool} {s : List Char}
    (hd : isLineBreak d = false) (he : isLineBreak e = false)
    (h : [d, e] <:+: dropLineCommentsFrom inside s) : [d, e] <:+: s := by
  fun_induction dropLineCommentsFrom inside s with
  | case1 => exact h
  | case2 c r hbreak ih =>
    rcases List.infix_cons_iff.mp h with ⟨w, h⟩ | h
    · rw [List.cons_append, List.cons.injEq] at h
      simp [← h.1, hd] at hbreak
    · exact List.infix_cons (ih h)
  | case3 c r hbreak ih => exact List.infix_cons (ih h)
  | case4 r ih => exact List.infix_cons (List.infix_cons (ih h))
  | case5 c r hmark ih =>
    rcases List.infix_cons_iff.mp h with ⟨w, h⟩ | h
    · rw [List.cons_append, List.cons.injEq] at h
      obtain ⟨r', rfl, -⟩ := exists_of_dropLineCommentsFrom h.2.symm he
      exact ⟨[], r', by rw [h.1]; rfl⟩
    · exact List.infix_cons (ih h)

/-- A line comment goes up to the end of its line, so none begins across one. -/
theorem not_slashes_infix_dropLineCommentsFrom (inside : Bool) (s : List Char) :
    ¬['/', '/'] <:+: dropLineCommentsFrom inside s := by
  fun_induction dropLineCommentsFrom inside s with
  | case1 => simp
  | case2 c r hbreak ih =>
    intro h
    rcases List.infix_cons_iff.mp h with ⟨w, h⟩ | h
    · rw [List.cons_append, List.cons.injEq] at h
      simp [← h.1, isLineBreak] at hbreak
    · exact ih h
  | case3 c r hbreak ih => exact ih
  | case4 r ih => exact ih
  | case5 c r hmark ih =>
    intro h
    rcases List.infix_cons_iff.mp h with ⟨w, h⟩ | h
    · rw [List.cons_append, List.cons.injEq] at h
      obtain ⟨r', rfl, -⟩ := exists_of_dropLineCommentsFrom h.2.symm (by decide)
      exact hmark r' h.1.symm rfl
    · exact ih h

theorem holdsBlock_of_dropLineCommentsFrom {inside : Bool} {s : List Char}
    (h : HoldsBlock (dropLineCommentsFrom inside s)) : HoldsBlock s := by
  fun_induction dropLineCommentsFrom inside s with
  | case1 => exact h
  | case2 c r hbreak ih =>
    rcases holdsBlock_cons_iff.mp h with h | h
    · obtain ⟨rfl, -⟩ := exists_of_blockComment_prefix h
      simp [isLineBreak] at hbreak
    · exact holdsBlock_cons_iff.mpr (.inr (ih h))
  | case3 c r hbreak ih => exact holdsBlock_cons_iff.mpr (.inr (ih h))
  | case4 r ih => exact holdsBlock_cons_iff.mpr (.inr (holdsBlock_cons_iff.mpr (.inr (ih h))))
  | case5 c r hmark ih =>
    rcases holdsBlock_cons_iff.mp h with h | h
    · obtain ⟨rfl, c, w, h⟩ := exists_of_blockComment_prefix h
      obtain ⟨r', rfl, hout⟩ := exists_of_dropLineCommentsFrom h (by decide)
      have hend : ['*', '/'] <:+: dropLineCommentsFrom false r' :=
        ⟨c, w, by rw [hout, List.append_assoc]; rfl⟩
      obtain ⟨c', w', rfl⟩ := pair_infix_of_dropLineCommentsFrom (by decide) (by decide) hend
      exact ⟨c', [], w', by simp [blockComment]⟩
    · exact holdsBlock_cons_iff.mpr (.inr (ih h))

/-- Stripping again changes nothing just when no whole block comment is left. -/
theorem stripComments_stripComments_iff (t : List Char) :
    stripComments (stripComments t) = stripComments t ↔ ¬HoldsBlock (stripComments t) := by
  rw [← dropBlockComments_eq_self_iff]
  constructor
  · intro h
    have hlines : (stripComments (stripComments t)).Sublist (dropBlockComments (stripComments t)) :=
      dropLineCommentsFrom_sublist false _
    rw [h] at hlines
    exact (dropBlockComments_sublist _).antisymm hlines
  · intro h
    rw [stripComments, h]
    exact dropLineComments_of_not_infix (not_slashes_infix_dropLineCommentsFrom false _)

/-- What stripping leaves. There is no mark of a line comment in it. Whole block comments are left
by the first pass just where it removed comments from between a slash and a star, with an end mark
behind them, and by both passes only there; when none is left, stripping again changes nothing. -/
theorem stripComments_leftover (t : List Char) :
    ¬['/', '/'] <:+: stripComments t ∧
      (HoldsBlock (dropBlockComments t) ↔ Joins t) ∧ (HoldsBlock (stripComments t) → Joins t) ∧
      (stripComments (stripComments t) = stripComments t ↔ ¬HoldsBlock (stripComments t)) := by
  refine ⟨not_slashes_infix_dropLineCommentsFrom false _, holdsBlock_dropBlockComments_iff t, ?_,
    stripComments_stripComments_iff t⟩
  intro h
  exact (holdsBlock_dropBlockComments_iff t).mp (holdsBlock_of_dropLineCommentsFrom h)

/-- A comment between a slash and a star is removed, and the two make the beginning of another. -/
theorem block_left_behind :
    let t := "//*x*/*y*/".toList
    stripComments t = "/*y*/".toList ∧ HoldsBlock (stripComments t) ∧
      stripComments (stripComments t) ≠ stripComments t := by
  have hleft : stripComments "//*x*/*y*/".toList = "/*y*/".toList := by decide +kernel
  refine ⟨hleft, ?_, by decide +kernel⟩
  rw [hleft]
  exact ⟨['y'], [], [], by decide +kernel⟩

end EntitySchema.Jdl
