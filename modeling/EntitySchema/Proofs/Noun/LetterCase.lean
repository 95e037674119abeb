import EntitySchema.Proofs.Noun.Shape
import EntitySchema.Proofs.Text.Ascii

/-! Forms that take over the letter case of a word. In lower case such a form is what it was before,
whether it follows the whole word (`lower_matchCase`) or its last character
(`Spelled.matchCaseOfLast`). -/
namespace EntitySchema.Noun

open Text (IsAscii lower upper upperChar)

/-- The text is `suffix`, written in any letter case. -/
structure Spelled (suffix : String) (s : List Char) : Prop where
  ascii : IsAscii s
  low : lower s = suffix.toList

namespace Spelled

variable {suffix : String} {s : List Char}

theorem length (h : Spelled suffix s) : s.length = suffix.length := by
  rw [← Text.length_lower h.ascii, h.low, String.length_toList]

theorem ne_nil (h : Spelled suffix s) (hsuffix : suffix ≠ "") : s ≠ [] := by
  rintro rfl
  exact hsuffix (String.toList_eq_nil_iff.mp h.low.symm)

theorem matchCaseOfLast (h : IsAscii suffix.toList ∧ lower suffix.toList = suffix.toList)
    (word : List Char) : Spelled suffix (matchCaseOfLast word suffix.toList) := by
  have hcase := matchCaseOfLast_mem word suffix.toList
  simp only [List.mem_cons, List.not_mem_nil, or_false] at hcase
  rcases hcase with hcase | hcase
  · rw [hcase, h.2]
    exact ⟨h.1, h.2⟩
  · rw [hcase]
    exact ⟨Text.isAscii_upper h.1, (Text.lower_upper h.1).trans h.2⟩

end Spelled

theorem matchCaseOfLast_append {stem ending : List Char} (h : ending ≠ []) (suffix : List Char) :
    matchCaseOfLast (stem ++ ending) suffix = matchCaseOfLast ending suffix := by
  rw [matchCaseOfLast, matchCaseOfLast, List.getLast?_append_of_ne_nil stem h]

variable {form : List Char}

theorem lower_upperFirst (h : IsAscii form) : lower (upperFirst form) = lower form := by
  cases form with
  | nil => rfl
  | cons c r =>
    obtain ⟨hc, hr⟩ := List.forall_mem_cons.mp h
    have hfirst : IsAscii [c] := List.forall_mem_singleton.mpr hc
    have hupper : upperChar c = upper [c] := (List.append_nil _).symm
    rw [upperFirst, hupper, Text.lower_append (Text.isAscii_upper hfirst) hr,
      Text.lower_upper hfirst, ← Text.lower_append hfirst hr, List.singleton_append]

theorem lower_matchCase (h : IsAscii form) (word : List Char) :
    lower (matchCase word form) = lower form := by
  have hcase := matchCase_mem word form
  simp only [List.mem_cons, List.not_mem_nil, or_false] at hcase
  rcases hcase with hcase | hcase | hcase | hcase
  · rw [hcase]
  · rw [hcase, Text.lower_upper h]
  · rw [hcase, Text.lower_lower h]
  · rw [hcase, lower_upperFirst h]

end EntitySchema.Noun
