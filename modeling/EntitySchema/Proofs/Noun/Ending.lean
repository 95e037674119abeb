import EntitySchema.Proofs.Noun.Inverted

/-! Plural and singular as one operation (`plural_eq`, `singular_eq`): a word takes a known form in its
own letter case, or else another ending in the letter case of its last character. The rules see the
word in lower case only, so that letter case goes through the operation (`lower_inflect`). -/
namespace EntitySchema.Noun

open Text (IsAscii Lacks lower upper withoutLastFeed)

/-- What a rule does to the end of a word: how many characters go and what comes in their place. -/
structure Ending where
  cut : Nat
  suffix : String
  deriving DecidableEq

def withEnding (word : List Char) (e : Ending) : List Char :=
  word.take (word.length - e.cut) ++ matchCaseOfLast word e.suffix.toList

def pluralEnding (low : List Char) : Ending :=
  if endsWith "s" low then ⟨0, ""⟩
  else if endsWithAfter isConsonant "y" (withoutLastFeed low) then ⟨1, "ies"⟩
  else if sibilants.any fun s => endsWith s (withoutLastFeed low) then ⟨0, "es"⟩
  else if endsWithLone "fe" (withoutLastFeed low) then ⟨2, "ves"⟩
  else if endsWithLone "f" (withoutLastFeed low) then ⟨1, "ves"⟩
  else if endsWith "o" low && !endsWithAfter isVowel "o" (withoutLastFeed low) then ⟨0, "es"⟩
  else ⟨0, "s"⟩

def singularEnding (low : List Char) : Ending :=
  if sibilants.any fun s => endsWith (s ++ "es") (withoutLastFeed low) then ⟨2, ""⟩
  else if endsWith "ies" low then ⟨3, "y"⟩
  else if endsWith "ves" low then ⟨3, "f"⟩
  else if endsWith "s" low && !endsWith "ss" low then ⟨1, ""⟩
  else ⟨0, ""⟩

/-- The word in a known form, or else with the ending that a rule gives to it. -/
def inflect (form? : Option (List Char)) (rule : List Char → Ending) (word : List Char) : List Char :=
  if word = [] then []
  else match form? with
    | some form => matchCase word form
    | none => withEnding word (rule (lower word))

theorem inflect_some {word : List Char} (h : word ≠ []) (form : List Char)
    (rule : List Char → Ending) : inflect (some form) rule word = matchCase word form :=
  if_neg h

theorem inflect_none {word : List Char} (h : word ≠ []) (rule : List Char → Ending) :
    inflect none rule word = withEnding word (rule (lower word)) :=
  if_neg h

theorem withEnding_empty (word : List Char) (cut : Nat) :
    withEnding word ⟨cut, ""⟩ = word.take (word.length - cut) := by
  have hnone : matchCaseOfLast word [] = [] := by
    have hmem := matchCaseOfLast_mem word []
    have hcases : [lower [], upper []] = [[], []] := rfl
    rw [hcases] at hmem
    simpa using hmem
  simp [withEnding, hnone]

theorem regularPlural_eq (word : List Char) :
    regularPlural word = withEnding word (pluralEnding (lower word)) := by
  dsimp only [regularPlural, pluralEnding]
  split_ifs
  · simp [withEnding_empty]
  all_goals rfl

theorem regularSingular_eq (word : List Char) :
    regularSingular word = withEnding word (singularEnding (lower word)) := by
  dsimp only [regularSingular, singularEnding]
  split_ifs
  · rw [withEnding_empty]
  · rfl
  · rfl
  · rw [withEnding_empty]
  · simp [withEnding_empty]

theorem plural_eq (overrides : List Override) (word : List Char) :
    plural overrides word =
      inflect (overridden? overrides (lower word) <|> irregularPlural? (lower word)) pluralEnding
        word := by
  by_cases hne : word = []
  · subst hne
    rfl
  cases hform : overridden? overrides (lower word) <|> irregularPlural? (lower word) with
  | some form => simp only [plural, if_neg hne, hform, inflect_some hne]
  | none => simp only [plural, if_neg hne, hform, inflect_none hne, regularPlural_eq]

theorem singular_eq (overrides : List Override) (word : List Char) :
    singular overrides word =
      inflect (overridden? (Override.ofDict (inverted overrides)) (lower word) <|>
        irregularSingular? (lower word)) singularEnding word := by
  by_cases hne : word = []
  · subst hne
    rfl
  cases hform : overridden? (Override.ofDict (inverted overrides)) (lower word) <|>
      irregularSingular? (lower word) with
  | some form => simp only [singular, if_neg hne, hform, inflect_some hne]
  | none => simp only [singular, if_neg hne, hform, inflect_none hne, regularSingular_eq]

def PutsLower (rule : List Char → Ending) : Prop :=
  ∀ low, Lacks Char.isUpper (rule low).suffix.toList

theorem putsLower_plural : PutsLower pluralEnding := by
  intro low
  unfold pluralEnding
  split_ifs <;> decide

theorem putsLower_singular : PutsLower singularEnding := by
  intro low
  unfold singularEnding
  split_ifs <;> decide

section LetterCase

variable {word suffix : List Char} {rule : List Char → Ending} {form? : Option (List Char)}

theorem matchCaseOfLast_of_lower (h : Lacks Char.isUpper word) (suffix : List Char) :
    matchCaseOfLast word suffix = lower suffix := by
  unfold matchCaseOfLast
  cases hlast : word.getLast? with
  | none => rfl
  | some c =>
    have hone : Lacks Char.isUpper [c] :=
      List.forall_mem_singleton.mpr (h c (List.mem_of_getLast? hlast))
    exact if_neg fun hupper => hupper.2 (Text.lacks_isUpper_iff.mp hone).2.symm

theorem isAscii_withEnding (hword : IsAscii word) {e : Ending}
    (he : Lacks Char.isUpper e.suffix.toList) : IsAscii (withEnding word e) := by
  have hput := Spelled.matchCaseOfLast (Text.lacks_isUpper_iff.mp he) word
  exact Text.isAscii_append.mpr ⟨Text.isAscii_take hword _, hput.ascii⟩

/-- A word with another ending is in lower case what the word in lower case is with that ending. -/
theorem lower_withEnding (hword : IsAscii word) {e : Ending}
    (he : Lacks Char.isUpper e.suffix.toList) :
    lower (withEnding word e) = withEnding (lower word) e := by
  have hsuffix := Text.lacks_isUpper_iff.mp he
  have hput := Spelled.matchCaseOfLast hsuffix word
  rw [withEnding, withEnding, Text.lower_append (Text.isAscii_take hword _) hput.ascii, hput.low,
    Text.lower_take hword, Text.length_lower hword,
    matchCaseOfLast_of_lower (Text.lacks_lower hword), hsuffix.2]

/-- Up to letter case an inflected word does not depend on the letter case of the word. -/
theorem lower_inflect (hword : IsAscii word) (hform : ∀ form ∈ form?, IsAscii form)
    (hrule : PutsLower rule) :
    lower (inflect form? rule word) = lower (inflect form? rule (lower word)) := by
  by_cases hne : word = []
  · subst hne
    rfl
  have hlow : lower word ≠ [] := mt Text.lower_eq_nil_iff.mp hne
  cases form? with
  | some form =>
    rw [inflect_some hne, inflect_some hlow, lower_matchCase (hform form rfl),
      lower_matchCase (hform form rfl)]
  | none =>
    rw [inflect_none hne, inflect_none hlow, lower_withEnding hword (hrule _),
      lower_withEnding (Text.isAscii_lower hword) (hrule _), Text.lower_lower hword]

end LetterCase

end EntitySchema.Noun
