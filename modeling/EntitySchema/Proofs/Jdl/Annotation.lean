import EntitySchema.Proofs.Jdl.Find
import EntitySchema.Proofs.Jdl.Header

/-! Annotations in front of a keyword. Main statements: in a text that ends with a brace outside
annotations they are read alike when more text follows (`Sealed.afterAnnotations_append`), a word behind
them starts at a word boundary (`AnnotatedBy.endsInWord`), and a brace that stands in them stands in the
parentheses of one (`AnnotatedBy.endsInParentheses`). -/
namespace EntitySchema.Jdl

open Text (isBlank isWordChar)

def EndsInParentheses (s : List Char) : Prop :=
  ∃ before name inner, s = before ++ '@' :: (name ++ '(' :: inner) ∧ isName name = true ∧ ')' ∉ inner

theorem EndsInParentheses.append {s : List Char} (h : EndsInParentheses s) (before : List Char) :
    EndsInParentheses (before ++ s) := by
  obtain ⟨front, name, inner, rfl, hname, hinner⟩ := h
  exact ⟨before ++ front, name, inner, (List.append_assoc _ _ _).symm, hname, hinner⟩

theorem EndsInParentheses.mem {s : List Char} (h : EndsInParentheses s) : '(' ∈ s := by
  obtain ⟨before, name, inner, rfl, -, -⟩ := h
  simp

/-- Where no parenthesis is opened, a text that ends within an annotation started within it. -/
theorem EndsInParentheses.of_append {s t : List Char} (h : EndsInParentheses (s ++ t)) (ht : '(' ∉ t) :
    EndsInParentheses s := by
  obtain ⟨before, name, inner, he, hname, hinner⟩ := h
  rw [← List.cons_append, ← List.append_assoc] at he
  obtain ⟨within, rfl, rfl⟩ := exists_of_append_eq_cons_append ht he
  exact ⟨before, name, within, by simp, hname, fun hc => hinner (by simp [hc])⟩

theorem eq_of_enclosed? {opening closing : Char} {s inner rest : List Char}
    (h : enclosed? opening closing s = some (inner, rest)) :
    closing ∉ inner ∧ s = opening :: (inner ++ closing :: rest) := by
  cases s with
  | nil => cases h
  | cons c r =>
    rw [enclosed?, List.span_eq_takeWhile_dropWhile] at h
    split at h
    · rename_i hc
      split at h
      · rename_i inner' d rest' hspan
        obtain ⟨rfl, rfl⟩ := Prod.mk.inj (Option.some.inj h)
        obtain ⟨htake, hrest⟩ := Prod.mk.inj hspan
        have hstop : (d != closing) = false :=
          Text.head?_dropWhile (p := (· != closing)) (by rw [hrest, List.head?_cons])
        have hd : d = closing := by simpa using hstop
        refine ⟨fun hm => ?_, ?_⟩
        · have hne := List.mem_takeWhile_imp (htake ▸ hm)
          simp at hne
        · rw [hc, ← hd, ← htake, ← hrest, List.takeWhile_append_dropWhile]
      · cases h
    · cases h

/-- An annotation is its name, perhaps parentheses, and the blanks behind it. -/
theorem exists_of_afterAnnotation? {s rest : List Char} (h : afterAnnotation? s = some rest) :
    ∃ name args blanks, s = '@' :: (name ++ (args ++ (blanks ++ rest))) ∧ isName name = true ∧
      (args = [] ∨ ∃ inner, ')' ∉ inner ∧ args = '(' :: (inner ++ [')'])) ∧
      (∀ c ∈ blanks, isBlank c = true) ∧
      (∀ c ∈ (args ++ (blanks ++ rest)).head?, isWordChar c = false) ∧
      ∀ c ∈ rest.head?, isBlank c = false := by
  unfold afterAnnotation? at h
  split at h
  · rename_i r
    simp only [Option.bind_eq_bind, Option.bind_eq_some_iff, Option.pure_def, Option.some.injEq,
      Prod.exists] at h
    obtain ⟨i, t, hi, h⟩ := h
    obtain ⟨rfl, hhead⟩ := eq_append_of_read? hi
    have hblanks (u : List Char) : ∀ c ∈ u.takeWhile isBlank, isBlank c = true :=
      fun c hc => List.mem_takeWhile_imp hc
    have hstop (u : List Char) : ∀ c ∈ (u.dropWhile isBlank).head?, isBlank c = false :=
      fun c hc => Text.head?_dropWhile hc
    split at h
    · rename_i inner u henclosed
      obtain ⟨hinner, rfl⟩ := eq_of_enclosed? henclosed
      subst h
      refine ⟨_, _, u.takeWhile isBlank, ?_, isName_read? hi, .inr ⟨inner, hinner, rfl⟩, hblanks u, ?_,
        hstop u⟩
      · rw [List.takeWhile_append_dropWhile]
        simp
      · simpa using hhead
    · subst h
      refine ⟨_, [], t.takeWhile isBlank, ?_, isName_read? hi, .inl rfl, hblanks t, ?_, hstop t⟩
      · rw [List.nil_append, List.takeWhile_append_dropWhile]
      · rwa [List.nil_append, List.takeWhile_append_dropWhile]
  · cases h

theorem takeWhile_append_of_stop {p : Char → Bool} {s : List Char} (h : ∃ c ∈ s, p c = false)
    (t : List Char) : (s ++ t).takeWhile p = s.takeWhile p := by
  induction s with
  | nil => simp at h
  | cons c s ih =>
    by_cases hc : p c = true
    · have hs : ∃ d ∈ s, p d = false := by simpa [hc] using h
      simp [hc, ih hs]
    · simp [hc]

theorem dropWhile_append_of_stop {p : Char → Bool} {s : List Char} (h : ∃ c ∈ s, p c = false)
    (t : List Char) : (s ++ t).dropWhile p = s.dropWhile p ++ t := by
  induction s with
  | nil => simp at h
  | cons c s ih =>
    by_cases hc : p c = true
    · have hs : ∃ d ∈ s, p d = false := by simpa [hc] using h
      simp [hc, ih hs]
    · simp [hc]

/-- A name that ends in a text is read in the text alone. -/
theorem read?_append_of_stop {s : List Char} (h : ∃ c ∈ s, isWordChar c = false) (t : List Char) :
    Identifier.read? (s ++ t) = (Identifier.read? s).map fun x => (x.1, x.2 ++ t) := by
  cases s with
  | nil => simp at h
  | cons d r =>
    rw [List.cons_append, Identifier.read?, Identifier.read?]
    by_cases hd : isIdentifierStart d = true
    · have hr : ∃ c ∈ r, isWordChar c = false := by
        simpa [isWordChar_of_isIdentifierStart hd] using h
      rw [if_pos hd, if_pos hd, takeWhile_append_of_stop hr, dropWhile_append_of_stop hr]
      rfl
    · rw [if_neg hd, if_neg hd]
      rfl

/-- Parentheses that are closed in a text, if it starts with one, are read in the text alone. -/
theorem enclosed?_append_of_closed {opening closing : Char} {s : List Char} (hs : s ≠ [])
    (h : ∀ r, s = opening :: r → closing ∈ r) (t : List Char) :
    enclosed? opening closing (s ++ t) = (enclosed? opening closing s).map fun x => (x.1, x.2 ++ t) := by
  cases s with
  | nil => exact absurd rfl hs
  | cons c r =>
    by_cases hc : c = opening
    · subst hc
      obtain ⟨inner, rest, rfl, hinner⟩ := List.eq_append_cons_of_mem (h r rfl)
      rw [List.cons_append, List.append_assoc, List.cons_append, enclosed?_append hinner,
        enclosed?_append hinner]
      rfl
    · have hne (u : List Char) : ∀ d, (c :: u).head? = some d → d ≠ opening := by
        rintro d ⟨⟩
        exact hc
      rw [enclosed?_of_ne (hne r), List.cons_append, enclosed?_of_ne (hne (r ++ t))]
      rfl

/-- A text that ends with a brace, and not within an annotation. Annotations in it are read alike
whatever follows. -/
structure Sealed (s : List Char) : Prop where
  brace : ∃ c ∈ s.getLast?, c = '{' ∨ c = '}'
  outside : ¬EndsInParentheses s

namespace Sealed

variable {s : List Char}

theorem exists_mem (h : Sealed s) : ∃ c ∈ s, isWordChar c = false ∧ isBlank c = false := by
  obtain ⟨c, hc, rfl | rfl⟩ := h.brace
  · exact ⟨'{', List.mem_of_getLast? hc, by decide⟩
  · exact ⟨'}', List.mem_of_getLast? hc, by decide⟩

theorem exists_not_isWordChar (h : Sealed s) : ∃ c ∈ s, isWordChar c = false := by
  obtain ⟨c, hc, hword, -⟩ := h.exists_mem
  exact ⟨c, hc, hword⟩

theorem exists_not_isBlank (h : Sealed s) : ∃ c ∈ s, isBlank c = false := by
  obtain ⟨c, hc, -, hblank⟩ := h.exists_mem
  exact ⟨c, hc, hblank⟩

theorem behind (front : List Char) (h : Sealed (front ++ s))
    (hf : ∀ c ∈ front.getLast?, c ≠ '{' ∧ c ≠ '}') : Sealed s where
  brace := by
    have hs : s ≠ [] := by
      rintro rfl
      obtain ⟨c, hlast, hc⟩ := h.brace
      rw [List.append_nil] at hlast
      exact hc.elim (hf c hlast).1 (hf c hlast).2
    exact List.getLast?_append_of_ne_nil front hs ▸ h.brace
  outside := fun hs => h.outside (hs.append front)

theorem behind_at (h : Sealed ('@' :: s)) : Sealed s :=
  behind ['@'] h (by simp)

theorem behind_name {name : List Char} (h : Sealed (name ++ s)) (hname : isName name = true) :
    Sealed s := by
  refine behind _ h fun c hc => ?_
  have hword := isWordChar_getLast? hname [] c hc
  exact ⟨ne_of_isWordChar hword (by decide), ne_of_isWordChar hword (by decide)⟩

theorem behind_parentheses {inner : List Char} (h : Sealed ('(' :: (inner ++ ')' :: s))) :
    Sealed s := by
  have hshape : '(' :: (inner ++ ')' :: s) = ('(' :: inner) ++ [')'] ++ s := by simp
  refine behind _ (hshape ▸ h) fun c hc => ?_
  rw [List.getLast?_concat, Option.mem_some] at hc
  subst hc
  decide

theorem behind_blanks {blanks : List Char} (h : Sealed (blanks ++ s))
    (hb : ∀ c ∈ blanks, isBlank c = true) : Sealed s := by
  refine behind _ h fun c hc => ?_
  have hblank := hb c (List.mem_of_getLast? hc)
  constructor <;>
  · rintro rfl
    exact absurd hblank (by decide)

theorem behind_first {rest : List Char} (h : Sealed s) (hr : afterAnnotation? s = some rest) :
    Sealed rest := by
  obtain ⟨name, args, blanks, rfl, hname, hargs, hblanks, -, -⟩ := exists_of_afterAnnotation? hr
  have hbehind := h.behind_at.behind_name hname
  rcases hargs with rfl | ⟨inner, -, rfl⟩
  · rw [List.nil_append] at hbehind
    exact hbehind.behind_blanks hblanks
  · rw [List.cons_append, List.append_assoc, List.singleton_append] at hbehind
    exact hbehind.behind_parentheses.behind_blanks hblanks

theorem afterAnnotation?_append (h : Sealed s) (t : List Char) :
    afterAnnotation? (s ++ t) = (afterAnnotation? s).map (· ++ t) := by
  cases s with
  | nil => simpa using h.brace
  | cons c r =>
    by_cases hat : c = '@'
    · subst hat
      have hr := h.behind_at
      simp only [List.cons_append, afterAnnotation?, Option.bind_eq_bind,
        read?_append_of_stop hr.exists_not_isWordChar]
      cases hi : Identifier.read? r with
      | none => rfl
      | some x =>
        obtain ⟨i, u⟩ := x
        obtain ⟨rfl, -⟩ := eq_append_of_read? hi
        have hname := isName_read? hi
        have hu := hr.behind_name hname
        have hne : u ≠ [] := by
          rintro rfl
          simpa using hu.brace
        have hclosed : ∀ v, u = '(' :: v → ')' ∈ v := by
          rintro v rfl
          by_contra hv
          exact h.outside ⟨[], _, v, rfl, hname, hv⟩
        simp only [Option.map_some, Option.bind_some, enclosed?_append_of_closed hne hclosed]
        cases henclosed : enclosed? '(' ')' u with
        | none => simp [dropWhile_append_of_stop hu.exists_not_isBlank]
        | some y =>
          obtain ⟨inner, v⟩ := y
          obtain ⟨-, rfl⟩ := eq_of_enclosed? henclosed
          simp [dropWhile_append_of_stop hu.behind_parentheses.exists_not_isBlank]
    · have hnone (u : List Char) : afterAnnotation? (c :: u) = none := by
        unfold afterAnnotation?
        split
        · rename_i hc
          exact absurd (List.cons.inj hc).1 hat
        · rfl
      rw [List.cons_append, hnone, hnone]
      rfl

/-- All annotations at the head of a sealed text are in it, and leave a sealed text. -/
theorem afterAnnotations_append (h : Sealed s) (t : List Char) :
    afterAnnotations (s ++ t) = afterAnnotations s ++ t ∧ Sealed (afterAnnotations s) := by
  fun_induction afterAnnotations s with
  | case1 s rest hr hlt ih =>
    have hread : afterAnnotation? (s ++ t) = some (rest ++ t) := by
      rw [h.afterAnnotation?_append, hr]
      rfl
    have hlt : (rest ++ t).length < (s ++ t).length := by
      simp only [List.length_append]
      omega
    rw [afterAnnotations, hread]
    simp only [dif_pos hlt]
    exact ih (h.behind_first hr)
  | case2 s rest hr hlt =>
    have hread : afterAnnotation? (s ++ t) = some (rest ++ t) := by
      rw [h.afterAnnotation?_append, hr]
      rfl
    have hlt : ¬(rest ++ t).length < (s ++ t).length := by
      simp only [List.length_append]
      omega
    rw [afterAnnotations, hread]
    simp only [dif_neg hlt]
    exact ⟨trivial, h⟩
  | case3 s hr =>
    have hread : afterAnnotation? (s ++ t) = none := by
      rw [h.afterAnnotation?_append, hr]
      rfl
    rw [afterAnnotations, hread]
    exact ⟨rfl, h⟩

end Sealed

inductive AnnotatedBy : List Char → List Char → Prop
  | none (rest : List Char) : AnnotatedBy [] rest
  | cons {one annotations rest : List Char}
    (first : afterAnnotation? (one ++ (annotations ++ rest)) = some (annotations ++ rest))
    (later : AnnotatedBy annotations rest) : AnnotatedBy (one ++ annotations) rest

theorem exists_of_afterAnnotations (s : List Char) :
    ∃ annotations, s = annotations ++ afterAnnotations s ∧
      AnnotatedBy annotations (afterAnnotations s) := by
  fun_induction afterAnnotations s with
  | case1 s rest hr hlt ih =>
    obtain ⟨annotations, hrest, hlater⟩ := ih
    obtain ⟨name, args, blanks, hs, -⟩ := exists_of_afterAnnotation? hr
    have hshape : s = '@' :: (name ++ (args ++ blanks)) ++ (annotations ++ afterAnnotations rest) := by
      rw [← hrest, hs]
      simp
    refine ⟨'@' :: (name ++ (args ++ blanks)) ++ annotations, ?_, .cons ?_ hlater⟩
    · rw [List.append_assoc, ← hshape]
    · rw [← hshape, ← hrest, hr]
  | case2 s rest hr hlt => exact ⟨[], rfl, .none s⟩
  | case3 s hr => exact ⟨[], rfl, .none s⟩

namespace AnnotatedBy

variable {annotations rest : List Char}

/-- A brace that stands in annotations stands in the parentheses of one. -/
theorem endsInParentheses (h : AnnotatedBy annotations rest) {p q : List Char}
    (he : annotations = p ++ '{' :: q) : EndsInParentheses p := by
  induction h generalizing p with
  | none => simp at he
  | @cons one annotations rest first later ih =>
    obtain ⟨name, args, blanks, hs, hname, hargs, hblanks, -, -⟩ := exists_of_afterAnnotation? first
    obtain rfl : one = '@' :: (name ++ (args ++ blanks)) := by
      rw [← List.append_left_inj (annotations ++ rest)]
      rw [hs]
      simp
    have hatname : '{' ∉ '@' :: name := by
      rw [List.mem_cons, not_or]
      exact ⟨by decide, fun hc => absurd (all_isWordChar_of_isName hname _ hc) (by decide)⟩
    have hblank : '{' ∉ blanks := fun hc => absurd (hblanks _ hc) (by decide)
    have hshape : '@' :: name ++ (args ++ (blanks ++ annotations)) = p ++ '{' :: q := by
      rw [← he]
      simp
    obtain ⟨a, rfl, ha⟩ := exists_of_append_eq_append_cons hatname hshape
    have hlater {front b : List Char} (hb : blanks ++ annotations = b ++ '{' :: q) :
        EndsInParentheses (front ++ b) := by
      obtain ⟨d, rfl, hd⟩ := exists_of_append_eq_append_cons hblank hb
      rw [← List.append_assoc]
      exact (ih hd).append _
    rcases hargs with rfl | ⟨inner, hinner, rfl⟩
    · exact hlater ha
    · rw [List.cons_append, ← List.singleton_append, List.append_assoc] at ha
      obtain ⟨i, rfl, hi⟩ := exists_of_append_eq_append_cons (by decide) ha
      by_cases hclose : ')' ∈ i
      · -- The parentheses are closed in front of the brace, so it stands in a later annotation.
        rcases List.append_eq_append_iff.mp hi with ⟨d, rfl, hd⟩ | ⟨d, rfl, -⟩
        · obtain ⟨b, rfl, hb⟩ := exists_of_append_eq_append_cons (by decide) hd
          rw [← List.append_assoc, ← List.append_assoc, ← List.append_assoc]
          exact hlater hb
        · exact absurd (List.mem_append_left d hclose) hinner
      · exact ⟨[], name, i, by simp, hname, hclose⟩

/-- A header that stands in annotations stands in the parentheses of one. -/
theorem endsInParentheses_of_header (h : AnnotatedBy annotations rest) {keyword name header : List Char}
    (hh : HeaderText keyword name header) (hk : isName keyword = true) {p q : List Char}
    (he : annotations = p ++ (header ++ q)) : EndsInParentheses p := by
  have hopen : '(' ∉ header := fun hc =>
    absurd (hh.eq_brace_of_mem hk hc (by decide) (by decide)) (by decide)
  obtain ⟨words, rfl, -⟩ := hh.exists_eq_concat hk
  have hbrace : annotations = p ++ words ++ '{' :: q := by simp [he]
  exact (h.endsInParentheses hbrace).of_append fun hc => hopen (List.mem_append_left _ hc)

/-- A word behind annotations starts at a word boundary. -/
theorem endsInWord (h : AnnotatedBy annotations rest) (hne : annotations ≠ []) (b : Bool)
    (hrest : ∃ c ∈ rest.head?, isWordChar c = true) : endsInWord b annotations = false := by
  induction h generalizing b with
  | none => exact absurd rfl hne
  | @cons one annotations rest first later ih =>
    obtain ⟨name, args, blanks, hs, -, hargs, hblanks, hhead, -⟩ := exists_of_afterAnnotation? first
    obtain rfl : one = '@' :: (name ++ (args ++ blanks)) := by
      rw [← List.append_left_inj (annotations ++ rest)]
      rw [hs]
      simp
    rw [endsInWord_append]
    by_cases hlater : annotations = []
    · subst hlater
      rw [← List.cons_append, endsInWord_append, endsInWord_append]
      rcases List.eq_nil_or_concat blanks with rfl | ⟨blanks, c, rfl⟩
      · rcases hargs with rfl | ⟨inner, -, rfl⟩
        · -- The name of the annotation takes all word characters.
          obtain ⟨c, hc, hword⟩ := hrest
          rw [hhead c hc] at hword
          cases hword
        · rw [← List.cons_append, endsInWord_append]
          exact (by decide : isWordChar ')' = false)
      · rw [List.concat_eq_append, endsInWord_append]
        exact isWordChar_of_isBlank (hblanks c (by simp))
    · exact ih hlater _ hrest

end AnnotatedBy

end EntitySchema.Jdl
