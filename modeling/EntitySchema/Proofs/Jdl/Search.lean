import EntitySchema.Proofs.Jdl.Declaration
import EntitySchema.Proofs.Jdl.Name
import Mathlib.Data.List.TakeDrop

/-! The three searches for blocks. Main statements: a search passes over every character at which its
keyword opens nothing (`search_enums`, `search_entities`, `search_relationships`), and so over words
other than its keyword (`Search.inert_word`) and over a keyword that no name follows
(`Search.inert_head`). -/
namespace EntitySchema.Jdl

open Text (isBlank isWordChar)

variable {α : Type}

theorem afterLiteral?_append (keyword s : List Char) :
    afterLiteral? keyword (keyword ++ s) = some s := by
  induction keyword with
  | nil => rfl
  | cons k ks ih => simpa [afterLiteral?] using ih

theorem eq_append_of_afterLiteral? {keyword s t : List Char}
    (h : afterLiteral? keyword s = some t) : s = keyword ++ t := by
  fun_induction afterLiteral? keyword s with
  | case1 s => simpa using h
  | case2 k ks => simp at h
  | case3 k ks s ih => rw [List.cons_append, ← ih h]
  | case4 k ks c s hc => simp at h

/-- The keyword stands at the head, then blanks and the start of a name. -/
def Opens (keyword s : List Char) : Prop :=
  ∃ t u, afterLiteral? keyword s = some t ∧ afterBlanks? t = some u ∧ (Identifier.read? u).isSome

/-- Where a keyword opens a block, the word at the head is the keyword itself. -/
theorem takeWhile_of_opens {keyword s : List Char} (hk : isName keyword = true)
    (h : Opens keyword s) : s.takeWhile isWordChar = keyword := by
  obtain ⟨t, u, ht, hu, -⟩ := h
  cases t with
  | nil => simp [afterBlanks?] at hu
  | cons c r =>
    have hc : isBlank c = true := by
      by_contra hb
      simp [afterBlanks?, hb] at hu
    have hw := isWordChar_of_isBlank hc
    -- The blank behind the keyword ends the word.
    rw [eq_append_of_afterLiteral? ht,
      List.takeWhile_append_of_pos (all_isWordChar_of_isName hk)]
    simp [hw]

/-- A search that passes over every character at which its keyword opens nothing; where annotations
may stand in front of the keyword, it may stop at `@` too. -/
structure Search (keyword : List Char) (annotated : Bool) (search : Bool → List Char → List α) :
    Prop where
  isName_keyword : isName keyword = true
  skip : ∀ afterWord c r, (annotated = true → c ≠ '@') →
    (afterWord = true ∨ ¬Opens keyword (c :: r)) →
    search afterWord (c :: r) = search (isWordChar c) r

/-- A text that a search passes over, whatever follows. -/
def Inert (search : Bool → List Char → List α) (s : List Char) : Prop :=
  ∀ rest, search false (s ++ rest) = search false rest

theorem inert_nil (search : Bool → List Char → List α) : Inert search [] := fun _ => rfl

theorem Inert.append {search : Bool → List Char → List α} {s t : List Char} (hs : Inert search s)
    (ht : Inert search t) : Inert search (s ++ t) := by
  intro rest
  rw [List.append_assoc, hs, ht]

theorem Inert.cons {search : Bool → List Char → List α} {c : Char} {s : List Char}
    (hc : Inert search [c]) (hs : Inert search s) : Inert search (c :: s) :=
  hc.append hs

theorem Inert.replicate {search : Bool → List Char → List α} {c : Char} (hc : Inert search [c])
    (n : Nat) : Inert search (List.replicate n c) := by
  induction n with
  | zero => exact inert_nil search
  | succ n ih => exact hc.cons ih

theorem Inert.flatMap {search : Bool → List Char → List α} {β : Type} {f : β → List Char}
    {l : List β} (h : ∀ b ∈ l, Inert search (f b)) : Inert search (l.flatMap f) := by
  induction l with
  | nil => exact inert_nil search
  | cons b l ih =>
    rw [List.flatMap_cons]
    exact (h b (by simp)).append (ih fun a ha => h a (by simp [ha]))

namespace Search

variable {keyword : List Char} {annotated : Bool} {search : Bool → List Char → List α}

theorem within (h : Search keyword annotated search) {w : List Char}
    (hw : ∀ c ∈ w, isWordChar c = true) (rest : List Char) :
    search true (w ++ rest) = search true rest := by
  induction w with
  | nil => rfl
  | cons c w ih =>
    have hc : isWordChar c = true := hw c (by simp)
    have hat : c ≠ '@' := ne_of_isWordChar hc (by decide)
    rw [List.cons_append, h.skip true c (w ++ rest) (fun _ => hat) (.inl rfl), hc]
    exact ih fun d hd => hw d (by simp [hd])

theorem inert_mark (h : Search keyword annotated search) {c : Char} (hc : isWordChar c = false)
    (ha : annotated = true → c ≠ '@') : Inert search [c] := by
  intro rest
  have hopens : ¬Opens keyword (c :: rest) := by
    intro ho
    have hk := takeWhile_of_opens h.isName_keyword ho
    rw [List.takeWhile_cons_of_neg (by simp [hc])] at hk
    exact isName_ne_nil h.isName_keyword hk.symm
  rw [List.singleton_append, h.skip false c rest ha (.inr hopens), hc]

/-- A whole word is passed over when the keyword does not open a block at its start. -/
theorem pass_word (h : Search keyword annotated search) {w rest : List Char} {c : Char}
    (hw : isName w = true) (hc : isWordChar c = false) (ha : annotated = true → c ≠ '@')
    (ho : ¬Opens keyword (w ++ c :: rest)) : search false (w ++ c :: rest) = search false rest := by
  have hall := all_isWordChar_of_isName hw
  cases w with
  | nil => simp [isName] at hw
  | cons d w =>
    have hd : isWordChar d = true := hall d (by simp)
    have hat : d ≠ '@' := ne_of_isWordChar hd (by decide)
    rw [List.cons_append] at ho ⊢
    rw [h.skip false d (w ++ c :: rest) (fun _ => hat) (.inr ho), hd,
      h.within fun e he => hall e (by simp [he]), h.skip true c rest ha (.inl rfl), hc]

theorem inert_word (h : Search keyword annotated search) {w : List Char} {c : Char}
    (hw : isName w = true) (hk : w ≠ keyword) (hc : isWordChar c = false)
    (ha : annotated = true → c ≠ '@') : Inert search (w ++ [c]) := by
  intro rest
  rw [List.append_assoc, List.singleton_append]
  apply h.pass_word hw hc ha
  intro ho
  have hword := takeWhile_of_opens h.isName_keyword ho
  rw [List.takeWhile_append_of_pos (all_isWordChar_of_isName hw), List.takeWhile_cons_of_neg (by simp [hc]),
    List.append_nil] at hword
  exact hk hword

/-- A word in front of an opening brace is passed over, even the keyword. -/
theorem inert_head (h : Search keyword annotated search) {w : List Char}
    (hw : isName w = true) : Inert search (w ++ [' ', '{']) := by
  intro rest
  have hbrace : Inert search ['{'] := h.inert_mark (by decide) fun _ => by decide
  have hopens : ¬Opens keyword (w ++ ' ' :: '{' :: rest) := by
    intro ho
    have hword := takeWhile_of_opens h.isName_keyword ho
    rw [List.takeWhile_append_of_pos (all_isWordChar_of_isName hw), List.takeWhile_cons_of_neg (by decide),
      List.append_nil] at hword
    obtain ⟨t, u, ht, hu, hi⟩ := ho
    rw [hword, afterLiteral?_append, Option.some.injEq] at ht
    subst ht
    have : u = '{' :: rest := by simpa [afterBlanks?, isBlank] using hu.symm
    simp [this, Identifier.read?, isIdentifierStart] at hi
  have := h.pass_word hw (by decide) (fun _ => by decide) hopens
  rw [List.append_assoc]
  exact this.trans (hbrace rest)

end Search

theorem findBlocks_cons_of_none {read? : Bool → List Char → Option (α × List Char)}
    {afterWord : Bool} {c : Char} {r : List Char} (h : read? afterWord (c :: r) = none) :
    findBlocks read? afterWord (c :: r) = findBlocks read? (isWordChar c) r := by
  rw [findBlocks, h]

theorem findBlocks_of_some {read? : Bool → List Char → Option (α × List Char)}
    {afterWord : Bool} {s rest : List Char} {a : α} (h : read? afterWord s = some (a, rest))
    (hlt : rest.length < s.length) :
    findBlocks read? afterWord s = a :: findBlocks read? false rest := by
  cases s with
  | nil => simp at hlt
  | cons c r =>
    rw [findBlocks, h]
    simp only [dif_pos hlt]

theorem opens_of_readBlock? {keyword s : List Char} {x : Identifier × List Char × List Char}
    (h : readBlock? keyword s = some x) : Opens keyword s := by
  simp only [readBlock?, readHeader?, Option.bind_eq_bind, Option.bind_eq_some_iff] at h
  obtain ⟨y, ⟨t, ht, u, hu, i, hi, -⟩, -⟩ := h
  exact ⟨t, u, ht, hu, by simp [hi]⟩

theorem readBlock?_of_not_opens {keyword s : List Char} (h : ¬Opens keyword s) :
    readBlock? keyword s = none := by
  rw [Option.eq_none_iff_forall_ne_some]
  exact fun x hx => h (opens_of_readBlock? hx)

theorem opens_of_readRelationshipHead? {s : List Char} {x : List Char × List Char}
    (h : readRelationshipHead? s = some x) : Opens "relationship".toList s := by
  simp only [readRelationshipHead?, Option.bind_eq_bind, Option.bind_eq_some_iff] at h
  obtain ⟨t, ht, u, hu, hv⟩ := h
  refine ⟨t, u, ht, hu, ?_⟩
  have htype : (u.span Char.isAlpha).1 ≠ [] := by
    intro hn
    rw [if_pos hn] at hv
    simp at hv
  rw [List.span_eq_takeWhile_dropWhile] at htype
  cases u with
  | nil => simp at htype
  | cons c r =>
    by_cases hc : c.isAlpha = true
    · simp [Identifier.read?, isIdentifierStart, hc]
    · simp [hc] at htype

theorem search_enums : Search "enum".toList false (findBlocks EnumBlock.read?) where
  isName_keyword := by decide
  skip := by
    intro afterWord c r _ ho
    apply findBlocks_cons_of_none
    unfold EnumBlock.read?
    cases afterWord with
    | true => rfl
    | false =>
      rw [readBlock?_of_not_opens (ho.resolve_left (by simp))]
      rfl

theorem afterAnnotations_of_head? {s : List Char} (h : s.head? ≠ some '@') :
    afterAnnotations s = s := by
  have hnone : afterAnnotation? s = none := by
    unfold afterAnnotation?
    split
    · exact absurd rfl h
    · rfl
  unfold afterAnnotations
  rw [hnone]

theorem search_entities : Search "entity".toList true (findBlocks EntityBlock.read?) where
  isName_keyword := by decide
  skip := by
    intro afterWord c r hat ho
    apply findBlocks_cons_of_none
    have hhead : (c :: r).head? ≠ some '@' := fun hc => hat rfl (Option.some.inj hc)
    simp only [EntityBlock.read?, afterAnnotations_of_head? hhead, Nat.sub_self, List.take_zero,
      List.isEmpty_nil, Bool.and_true]
    cases afterWord with
    | true => rfl
    | false =>
      rw [readBlock?_of_not_opens (ho.resolve_left (by simp))]
      rfl

namespace RelationshipBlocks

/-- Which blocks are closed does not depend on where the text starts. -/
theorem closed_readFrom (offset other : Nat) (afterWord : Bool) (s : List Char) :
    (readFrom offset afterWord s).closed = (readFrom other afterWord s).closed := by
  -- Both offsets move with the text, so neither stays fixed in the induction.
  fun_induction readFrom offset afterWord s generalizing other with
  | case1 offset afterWord => simp [readFrom]
  | case2 offset afterWord c r type inner hhead body rest hbody block hlt later ih =>
    rw [dite_eq_ite] at hhead
    rw [readFrom.eq_def other]
    simp only [hhead, hbody, dif_pos hlt]
    exact congrArg (block :: ·) (ih _)
  | case3 offset afterWord c r type inner hhead body rest hbody block hlt =>
    rw [dite_eq_ite] at hhead
    rw [readFrom.eq_def other]
    simp only [hhead, hbody, dif_neg hlt]
    rfl
  | case4 offset afterWord c r type inner hhead hbody =>
    rw [dite_eq_ite] at hhead
    rw [readFrom.eq_def other]
    simp only [hhead, hbody]
  | case5 offset afterWord c r hhead ih =>
    rw [dite_eq_ite] at hhead
    rw [readFrom.eq_def other]
    simp only [hhead]
    exact ih _

def closedIn (afterWord : Bool) (s : List Char) : List RelationshipBlock :=
  (readFrom 0 afterWord s).closed

end RelationshipBlocks

theorem search_relationships :
    Search "relationship".toList false RelationshipBlocks.closedIn where
  isName_keyword := by decide
  skip := by
    intro afterWord c r _ ho
    have hnone : (if afterWord then none else readRelationshipHead? (c :: r)) = none := by
      cases afterWord with
      | true => rfl
      | false =>
        rw [if_neg (by simp), Option.eq_none_iff_forall_ne_some]
        exact fun x hx => (ho.resolve_left (by simp)) (opens_of_readRelationshipHead? hx)
    rw [RelationshipBlocks.closedIn, RelationshipBlocks.readFrom.eq_def]
    simp only [hnone]
    exact RelationshipBlocks.closed_readFrom _ _ _ _

end EntitySchema.Jdl
