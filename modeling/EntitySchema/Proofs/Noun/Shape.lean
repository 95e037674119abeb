import EntitySchema.Noun
import EntitySchema.Proofs.Text.Blank
import Mathlib.Data.List.Basic
import Mathlib.Tactic.SplitIfs

/-! The shape of a plural: the word, a part of it with one of a few suffixes behind it, or one of the
irregular forms. -/
namespace EntitySchema.Noun

open Text (lower upper)

def pluralSuffixes : List (List Char) :=
  ["ies", "es", "ves", "s"].flatMap fun s => [lower s.toList, upper s.toList]

def irregularForms : List (List Char) :=
  irregular.flatMap fun e =>
    [e.2.toList, upper e.2.toList, lower e.2.toList, upperFirst e.2.toList]

theorem matchCaseOfLast_mem (word suffix : List Char) :
    matchCaseOfLast word suffix ∈ [lower suffix, upper suffix] := by
  unfold matchCaseOfLast
  split
  · split <;> simp
  · simp

theorem matchCase_mem (word form : List Char) :
    matchCase word form ∈ [form, upper form, lower form, upperFirst form] := by
  unfold matchCase
  split
  · simp
  · split_ifs <;> simp

theorem regularPlural_shape (word : List Char) :
    (endsWith "s" (lower word) = true ∧ regularPlural word = word) ∨
      ∃ n, ∃ suffix ∈ pluralSuffixes, regularPlural word = word.take n ++ suffix := by
  have put (cut : Nat) (suffix : String) (h : suffix ∈ ["ies", "es", "ves", "s"]) :
      ∃ n, ∃ t ∈ pluralSuffixes,
        word.take (word.length - cut) ++ matchCaseOfLast word suffix.toList = word.take n ++ t :=
    ⟨_, _, List.mem_flatMap.mpr ⟨suffix, h, matchCaseOfLast_mem word suffix.toList⟩, rfl⟩
  dsimp only [regularPlural]
  split_ifs with hs
  · exact .inl ⟨hs, rfl⟩
  all_goals exact .inr (put _ _ (by simp))

theorem irregularPlural_shape {low form : List Char} (word : List Char)
    (h : irregularPlural? low = some form) : matchCase word form ∈ irregularForms := by
  simp only [irregularPlural?, Option.map_eq_some_iff] at h
  obtain ⟨e, he, rfl⟩ := h
  exact List.mem_flatMap.mpr ⟨e, List.mem_of_find?_eq_some he, matchCase_mem word e.2.toList⟩

theorem plural_of_ne_nil {word : List Char} (h : word ≠ []) :
    plural [] word = match irregularPlural? (lower word) with
      | some form => matchCase word form
      | none => regularPlural word := by
  rw [plural, if_neg h]
  rfl

/-- Without overrides every plural has one of three shapes. -/
theorem plural_shape (word : List Char) :
    plural [] word = word ∨
      (∃ n, ∃ suffix ∈ pluralSuffixes, plural [] word = word.take n ++ suffix) ∨
      plural [] word ∈ irregularForms := by
  by_cases hw : word = []
  · exact .inl (by simp [plural, hw])
  · rw [plural_of_ne_nil hw]
    cases hi : irregularPlural? (lower word) with
    | some form => exact .inr (.inr (irregularPlural_shape word hi))
    | none => exact (regularPlural_shape word).imp And.right .inl

theorem plural_ne_nil {word : List Char} (h : word ≠ []) : plural [] word ≠ [] := by
  rcases plural_shape word with hw | ⟨n, suffix, hs, hw⟩ | hw
  · rwa [hw]
  · rw [hw]
    have : suffix ≠ [] := (by decide : ∀ s ∈ pluralSuffixes, s ≠ []) suffix hs
    simp [this]
  · exact (by decide : ∀ s ∈ irregularForms, s ≠ []) _ hw

theorem lowerFirst_ne_nil {word : List Char} (h : word ≠ []) : lowerFirst word ≠ [] := by
  cases word with
  | nil => exact absurd rfl h
  | cons c r => simp [lowerFirst, Text.lowerChar_ne_nil c]

end EntitySchema.Noun
