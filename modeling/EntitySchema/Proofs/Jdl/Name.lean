import EntitySchema.Jdl.Scan
import EntitySchema.Proofs.Noun.Shape
import EntitySchema.Proofs.Text.Ascii
import Mathlib.Data.List.TakeWhile

/-! Names: an ASCII letter or underscore, then word characters. Main statement: the plural of a name,
its suffix or irregular form included, is a name again (`isName_plural`). -/
namespace EntitySchema.Jdl

open Text (ascii_of_isAlphanum_or forall_ascii isBlank isWordChar lower upper lowerChar upperChar)

def isName : List Char → Bool
  | [] => false
  | c :: r => isIdentifierStart c && r.all isWordChar

theorem ascii_of_isIdentifierStart {c : Char} (h : isIdentifierStart c = true) : c.toNat < 128 := by
  apply ascii_of_isAlphanum_or
  rw [isIdentifierStart, Bool.or_eq_true] at h
  rw [Bool.or_eq_true, Char.isAlphanum, Bool.or_eq_true]
  exact h.imp_left .inl

theorem isWordChar_of_isIdentifierStart {c : Char} (h : isIdentifierStart c = true) :
    isWordChar c = true :=
  forall_ascii (P := fun c => isIdentifierStart c = true → isWordChar c = true) (by decide)
    (ascii_of_isIdentifierStart h) h

theorem isWordChar_of_isBlank {c : Char} (h : isBlank c = true) : isWordChar c = false := by
  have hcodes : ∀ n ∈ List.range' 9 5 ++ List.range' 28 5 ++ List.range' 0x2000 11 ++
      [0x85, 0xa0, 0x1680, 0x2028, 0x2029, 0x202f, 0x205f, 0x3000],
      isWordChar (Char.ofNat n) = false := by decide +kernel
  rw [← Char.ofNat_toNat c]
  apply hcodes
  simp only [isBlank, Bool.or_eq_true, Bool.and_eq_true, decide_eq_true_eq, beq_iff_eq] at h
  simp only [List.mem_append, List.mem_range'_1, List.mem_cons, List.not_mem_nil]
  omega

theorem isBlank_of_isWordChar {c : Char} (h : isWordChar c = true) : isBlank c = false := by
  by_contra hb
  rw [Bool.not_eq_false] at hb
  rw [isWordChar_of_isBlank hb] at h
  cases h

theorem ne_of_isWordChar {c d : Char} (hc : isWordChar c = true) (hd : isWordChar d = false) :
    c ≠ d := by
  rintro rfl
  rw [hc] at hd
  cases hd

theorem isName_ne_nil {s : List Char} (h : isName s = true) : s ≠ [] := by
  rintro rfl
  simp [isName] at h

theorem all_isWordChar_of_isName {s : List Char} (h : isName s = true) :
    ∀ c ∈ s, isWordChar c = true := by
  cases s with
  | nil => simp
  | cons c r =>
    simp only [isName, Bool.and_eq_true, List.all_eq_true] at h
    intro d hd
    rcases List.mem_cons.mp hd with rfl | hd
    · exact isWordChar_of_isIdentifierStart h.1
    · exact h.2 d hd

theorem isName_append {s t : List Char} (hs : isName s = true) (ht : ∀ c ∈ t, isWordChar c = true) :
    isName (s ++ t) = true := by
  cases s with
  | nil => simp [isName] at hs
  | cons c r =>
    simp only [isName, Bool.and_eq_true, List.all_eq_true] at hs
    simp only [List.cons_append, isName, Bool.and_eq_true, List.all_eq_true, List.mem_append]
    exact ⟨hs.1, fun d hd => hd.elim (hs.2 d) (ht d)⟩

theorem isName_take {s : List Char} (h : isName s = true) (n : Nat) :
    s.take n = [] ∨ isName (s.take n) = true := by
  cases s with
  | nil => simp [isName] at h
  | cons c r =>
    cases n with
    | zero => exact .inl rfl
    | succ n =>
      simp only [isName, Bool.and_eq_true, List.all_eq_true] at h
      simp only [List.take_succ_cons, isName, Bool.and_eq_true, List.all_eq_true]
      exact .inr ⟨h.1, fun d hd => h.2 d (List.mem_of_mem_take hd)⟩

/-- Part of a name with another name behind it is a name, even when nothing is left of the first. -/
theorem isName_take_append {s t : List Char} (hs : isName s = true) (ht : isName t = true)
    (n : Nat) : isName (s.take n ++ t) = true := by
  rcases isName_take hs n with h | h
  · rwa [h, List.nil_append]
  · exact isName_append h (all_isWordChar_of_isName ht)

theorem isName_read? {s rest : List Char} {i : Identifier}
    (h : Identifier.read? s = some (i, rest)) : isName i.text.toList = true := by
  cases s with
  | nil => simp [Identifier.read?] at h
  | cons c r =>
    simp only [Identifier.read?] at h
    split at h
    · rename_i hc
      simp only [Option.some.injEq, Prod.mk.injEq] at h
      obtain ⟨rfl, -⟩ := h
      simp only [Identifier.text, String.toList_ofList, isName, hc, Bool.true_and,
        List.all_eq_true]
      exact fun d hd => List.mem_takeWhile_imp hd
    · simp at h

theorem isName_lowerFirst {s : List Char} (h : isName s = true) :
    isName (Noun.lowerFirst s) = true := by
  cases s with
  | nil => simp [isName] at h
  | cons c r =>
    simp only [isName, Bool.and_eq_true, List.all_eq_true] at h
    have hc := ascii_of_isIdentifierStart h.1
    have hl : isIdentifierStart c.toLower = true :=
      forall_ascii (P := fun c => isIdentifierStart c = true → isIdentifierStart c.toLower = true)
        (by decide) hc h.1
    simp only [Noun.lowerFirst, lowerChar, hc, if_true, List.singleton_append, isName, hl,
      Bool.true_and, List.all_eq_true]
    exact h.2

theorem isName_plural {word : List Char} (h : isName word = true) :
    isName (Noun.plural [] word) = true := by
  rcases Noun.plural_shape word with hw | ⟨n, suffix, hs, hw⟩ | hw
  · rwa [hw]
  · rw [hw]
    exact isName_take_append h ((by decide : ∀ s ∈ Noun.pluralSuffixes, isName s = true) suffix hs) n
  · exact (by decide : ∀ s ∈ Noun.irregularForms, isName s = true) _ hw

end EntitySchema.Jdl
