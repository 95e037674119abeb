import EntitySchema.Proofs.Noun.Ending
import EntitySchema.Proofs.Noun.RoundTrip

/-! The letter case of plurals and singulars. A word in one letter case leads to a form in that letter
case, and up to letter case the form does not depend on that of the word
(`plural_singular_letterCase`). -/
namespace EntitySchema.Noun

open Text (IsAscii Lacks lower upper)

section Uniform

variable {word : List Char} {rule : List Char → Ending} {form? : Option (List Char)}

theorem matchCase_of_lower (hword : Lacks Char.isUpper word) (hletter : ∃ c ∈ word, c.isAlpha = true)
    (form : List Char) : matchCase word form = lower form := by
  obtain ⟨c, hc, halpha⟩ := hletter
  obtain ⟨d, r, rfl⟩ := List.exists_cons_of_ne_nil (List.ne_nil_of_mem hc)
  have hmixed : upper (d :: r) ≠ d :: r := by
    intro hupper
    have hlower := Text.lacks_isLower_iff.mpr ⟨fun c hc => (hword c hc).1, hupper⟩
    rw [Text.isAlpha_eq, (hword c hc).2, (hlower c hc).2] at halpha
    cases halpha
  rw [matchCase, if_neg hmixed, if_pos (Text.lacks_isUpper_iff.mp hword).2]

theorem matchCase_of_upper (hword : Lacks Char.isLower word) (hne : word ≠ [])
    (form : List Char) : matchCase word form = upper form := by
  obtain ⟨d, r, rfl⟩ := List.exists_cons_of_ne_nil hne
  rw [matchCase, if_pos (Text.lacks_isLower_iff.mp hword).2]

theorem matchCaseOfLast_of_upper (hword : Lacks Char.isLower word)
    (hlast : ∃ c ∈ word.getLast?, c.isAlpha = true) (suffix : List Char) :
    matchCaseOfLast word suffix = upper suffix := by
  obtain ⟨c, hc, halpha⟩ := hlast
  obtain ⟨hascii, hlower⟩ := hword c (List.mem_of_getLast? hc)
  have hcapital : [c] = upper [c] ∧ [c] ≠ lower [c] := by
    have hone : IsAscii [c] := List.forall_mem_singleton.mpr hascii
    rw [Text.upper_of_ascii hone, Text.lower_of_ascii hone]
    exact Text.forall_ascii (P := fun c => c.isAlpha = true → c.isLower = false →
      [c] = [c].map Char.toUpper ∧ [c] ≠ [c].map Char.toLower) (by decide) hascii halpha hlower
  rw [matchCaseOfLast, hc]
  exact if_pos hcapital

theorem lacks_isUpper_inflect (hword : Lacks Char.isUpper word)
    (hletter : ∃ c ∈ word, c.isAlpha = true) (hform : ∀ form ∈ form?, IsAscii form)
    (hrule : PutsLower rule) : Lacks Char.isUpper (inflect form? rule word) := by
  have hne : word ≠ [] := by
    obtain ⟨c, hc, -⟩ := hletter
    exact List.ne_nil_of_mem hc
  obtain ⟨hascii, hlow⟩ := Text.lacks_isUpper_iff.mp hword
  cases form? with
  | some form =>
    rw [inflect_some hne, matchCase_of_lower hword hletter]
    exact Text.lacks_lower (hform form rfl)
  | none =>
    rw [inflect_none hne, Text.lacks_isUpper_iff, lower_withEnding hascii (hrule _), hlow]
    exact ⟨isAscii_withEnding hascii (hrule _), rfl⟩

theorem lacks_isLower_inflect (hword : Lacks Char.isLower word)
    (hlast : ∃ c ∈ word.getLast?, c.isAlpha = true) (hform : ∀ form ∈ form?, IsAscii form)
    (hrule : PutsLower rule) : Lacks Char.isLower (inflect form? rule word) := by
  have hne : word ≠ [] := by
    obtain ⟨c, hc, -⟩ := hlast
    exact List.ne_nil_of_mem (List.mem_of_getLast? hc)
  cases form? with
  | some form =>
    rw [inflect_some hne, matchCase_of_upper hword hne]
    exact Text.lacks_upper (hform form rfl)
  | none =>
    rw [inflect_none hne, withEnding, Text.lacks_append, matchCaseOfLast_of_upper hword hlast]
    have hsuffix := (Text.lacks_isUpper_iff.mp (hrule (lower word))).1
    exact ⟨fun c hc => hword c (List.mem_of_mem_take hc), Text.lacks_upper hsuffix⟩

end Uniform

section Known

variable {overrides : Dict String} {word low : List Char}

theorem isAscii_of_overridden (h : ∀ e ∈ overrides.entries, IsAscii e.1.toList ∧ IsAscii e.2.toList) :
    ∀ form ∈ overridden? (Override.ofDict overrides) low, IsAscii form := by
  intro form hform
  rw [Option.mem_def, overridden?_ofDict, Option.map_eq_some_iff] at hform
  obtain ⟨e, he, rfl⟩ := hform
  exact (h e (List.mem_of_find?_eq_some he)).2

theorem isAscii_inverted (h : ∀ e ∈ overrides.entries, IsAscii e.1.toList ∧ IsAscii e.2.toList) :
    ∀ e ∈ (inverted (Override.ofDict overrides)).entries,
      IsAscii e.1.toList ∧ IsAscii e.2.toList := by
  intro e he
  obtain ⟨o, ho, rfl⟩ := List.mem_map.mp (Dict.mem_of_mem_ofList he)
  obtain ⟨d, hd, rfl⟩ := List.mem_map.mp (List.mem_filter.mp ho).1
  obtain ⟨hkey, hplural⟩ := h d hd
  rw [toList_lowered, toList_lowered]
  exact ⟨Text.isAscii_lower hplural, Text.isAscii_lower hkey⟩

theorem isAscii_irregular : ∀ e ∈ irregular, IsAscii e.1.toList ∧ IsAscii e.2.toList := by decide

theorem isAscii_orElse {first second : Option (List Char)} (hfirst : ∀ form ∈ first, IsAscii form)
    (hsecond : ∀ form ∈ second, IsAscii form) : ∀ form ∈ (first <|> second), IsAscii form := by
  cases first with
  | none => exact hsecond
  | some form => exact hfirst

/-- The form that a word is known to have, by overrides or else by the irregular nouns. `side` is the
side of an irregular noun that has the form. -/
theorem isAscii_known (side : String × String → String)
    (hside : ∀ e ∈ irregular, IsAscii (side e).toList) (found : String × String → Bool)
    (h : ∀ e ∈ overrides.entries, IsAscii e.1.toList ∧ IsAscii e.2.toList) (low : List Char) :
    ∀ form ∈ (overridden? (Override.ofDict overrides) low <|>
      (irregular.find? found).map fun e => (side e).toList), IsAscii form := by
  refine isAscii_orElse (isAscii_of_overridden h) fun form hform => ?_
  obtain ⟨e, he, rfl⟩ := Option.map_eq_some_iff.mp hform
  exact hside e (List.mem_of_find?_eq_some he)

/-- A word in `s` is its own plural: no irregular noun ends so. -/
theorem plural_of_s (h : "s".toList <:+ lower word) : plural [] word = word := by
  have hirregular : irregularPlural? (lower word) = none := by
    rw [irregularPlural?, Option.map_eq_none_iff, List.find?_eq_none]
    intro e he hsame
    have hlast : ∀ e ∈ irregular, e.1.toList.getLast? ≠ some 's' := by decide
    exact hlast e he (getLast?_of_suffix rfl (beq_iff_eq.mp hsame ▸ h))
  have hne : word ≠ [] := by
    rintro rfl
    exact absurd h (by decide)
  rw [plural_of_ne_nil hne, hirregular]
  exact if_pos (endsWith_iff.mpr h)

/-- Letter case goes through plurals and singulars. Up to letter case they do not depend on that of
the word; a word in lower case with a letter leads to lower case, and a word in upper case that ends
with a letter has its plural in upper case. The plural of a word that is no irregular noun is its own
plural. -/
theorem plural_singular_letterCase
    (hoverrides : ∀ e ∈ overrides.entries, IsAscii e.1.toList ∧ IsAscii e.2.toList)
    (hword : IsAscii word) :
    let given := Override.ofDict overrides
    (lower (plural given word) = lower (plural given (lower word)) ∧
        lower (singular given word) = lower (singular given (lower word))) ∧
      (Lacks Char.isUpper word → (∃ c ∈ word, c.isAlpha = true) →
        Lacks Char.isUpper (plural given word) ∧ Lacks Char.isUpper (singular given word)) ∧
      (Lacks Char.isLower word → (∃ c ∈ word.getLast?, c.isAlpha = true) →
        Lacks Char.isLower (plural given word)) ∧
      (irregularPlural? (lower word) = none → plural [] (plural [] word) = plural [] word) := by
  intro given
  have hplural := isAscii_known Prod.snd (fun e he => (isAscii_irregular e he).2)
    (·.1.toList == lower word) hoverrides (lower word)
  have hsingular := isAscii_known Prod.fst (fun e he => (isAscii_irregular e he).1)
    (·.2.toList == lower word) (isAscii_inverted hoverrides) (lower word)
  refine ⟨⟨?_, ?_⟩, fun hlow hletter => ⟨?_, ?_⟩, fun hupper hlast => ?_, fun hregular => ?_⟩
  · rw [plural_eq, plural_eq, Text.lower_lower hword]
    exact lower_inflect hword hplural putsLower_plural
  · rw [singular_eq, singular_eq, Text.lower_lower hword]
    exact lower_inflect hword hsingular putsLower_singular
  · rw [plural_eq]
    exact lacks_isUpper_inflect hlow hletter hplural putsLower_plural
  · rw [singular_eq]
    exact lacks_isUpper_inflect hlow hletter hsingular putsLower_singular
  · rw [plural_eq]
    exact lacks_isLower_inflect hupper hlast hplural putsLower_plural
  · by_cases hne : word = []
    · subst hne
      rfl
    · rw [plural_of_ne_nil hne, hregular]
      exact plural_of_s (s_suffix_regularPlural hword)

/-- A word in lower case that has an override, one in upper case without one, and one in mixed case. -/
theorem plural_singular_letterCase_styles :
    let overrides : Dict String := .ofList [("Fax", "faxEN"), ("OX", "")]
    let given := Override.ofDict overrides
    (∀ e ∈ overrides.entries, IsAscii e.1.toList ∧ IsAscii e.2.toList) ∧
      (IsAscii "fax".toList ∧ Lacks Char.isUpper "fax".toList ∧
        (∃ c ∈ "fax".toList, c.isAlpha = true) ∧ plural given "fax".toList = "faxen".toList ∧
        Lacks Char.isUpper (plural given "fax".toList)) ∧
      (IsAscii "MY_2BABY".toList ∧ Lacks Char.isLower "MY_2BABY".toList ∧
        (∃ c ∈ "MY_2BABY".toList.getLast?, c.isAlpha = true) ∧
        plural given "MY_2BABY".toList = "MY_2BABIES".toList ∧
        Lacks Char.isLower (plural given "MY_2BABY".toList)) ∧
      IsAscii "oXYgeN".toList ∧ irregularPlural? (lower "oXYgeN".toList) = none ∧
        lower (plural given "oXYgeN".toList) = lower (plural given (lower "oXYgeN".toList)) ∧
        plural [] "oXYgeN".toList = "oXYgeNS".toList ∧
        plural [] (plural [] "oXYgeN".toList) = plural [] "oXYgeN".toList := by
  intro overrides given
  have hoverrides : ∀ e ∈ overrides.entries, IsAscii e.1.toList ∧ IsAscii e.2.toList := by decide
  have hfax : Lacks Char.isUpper "fax".toList := by decide
  have hbaby : Lacks Char.isLower "MY_2BABY".toList := by decide
  have hletter : ∃ c ∈ "fax".toList, c.isAlpha = true := ⟨'f', by decide, by decide⟩
  have hlast : ∃ c ∈ "MY_2BABY".toList.getLast?, c.isAlpha = true := ⟨'Y', rfl, by decide⟩
  have hregular : irregularPlural? (lower "oXYgeN".toList) = none := by decide
  have hascii : IsAscii "fax".toList ∧ IsAscii "MY_2BABY".toList ∧ IsAscii "oXYgeN".toList := by
    decide
  obtain ⟨-, hlow, -⟩ := plural_singular_letterCase hoverrides hascii.1
  obtain ⟨-, -, hupper, -⟩ := plural_singular_letterCase hoverrides hascii.2.1
  obtain ⟨hmixed, -, -, hagain⟩ := plural_singular_letterCase hoverrides hascii.2.2
  exact ⟨hoverrides, ⟨hascii.1, hfax, hletter, by decide, (hlow hfax hletter).1⟩,
    ⟨hascii.2.1, hbaby, hlast, by decide, hupper hbaby hlast⟩,
    hascii.2.2, hregular, hmixed.1, by decide, hagain hregular⟩

end Known

end EntitySchema.Noun
