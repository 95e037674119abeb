import EntitySchema.Proofs.Noun.CaseStyle

/-! The first letter of a plural. It has the letter case of the word's first letter, unless an ending
takes the whole word away and the last letter of the word differs in case from the first
(`head_plural_iff`). -/
namespace EntitySchema.Noun

open Text (IsAscii lower withoutLastFeed)

variable {c d : Char} {rest form low : List Char}

theorem isUpper_of_ascii (h : c.toNat < 128) : Text.isUpper c = c.isUpper := if_pos h

/-- The first letter of a form in lower case takes over the letter case of a word's first letter. -/
theorem head_matchCase (hword : IsAscii (c :: rest)) (hletter : c.isAlpha = true)
    (hform : IsAscii (d :: form)) (hlow : d.isLower = true) :
    ∃ e more, matchCase (c :: rest) (d :: form) = e :: more ∧ Text.isUpper e = Text.isUpper c := by
  have hc : Text.isUpper c = c.isUpper := isUpper_of_ascii (hword c List.mem_cons_self)
  have hd : d.toNat < 128 := hform d List.mem_cons_self
  have hcapital : Text.isUpper d.toUpper = true := Text.forall_ascii
    (P := fun d => d.isLower = true → Text.isUpper d.toUpper = true) (by decide) hd hlow
  have hsmall : Text.isUpper d.toLower = false ∧ Text.isUpper d = false := Text.forall_ascii
    (P := fun d => d.isLower = true → Text.isUpper d.toLower = false ∧ Text.isUpper d = false)
    (by decide) hd hlow
  rw [matchCase]
  split_ifs with hupper hlower hfirst
  · have hother := (Text.lacks_isLower_iff.mpr ⟨hword, hupper⟩ c List.mem_cons_self).2
    rw [Text.isAlpha_eq, hother, Bool.or_false] at hletter
    rw [Text.upper_of_ascii hform]
    exact ⟨d.toUpper, _, rfl, by rw [hcapital, hc, hletter]⟩
  · have hother := (Text.lacks_isUpper_iff.mpr ⟨hword, hlower⟩ c List.mem_cons_self).2
    rw [Text.lower_of_ascii hform]
    exact ⟨d.toLower, _, rfl, by rw [hsmall.1, hc, hother]⟩
  · rw [upperFirst, Text.upperChar, if_pos hd]
    exact ⟨d.toUpper, _, rfl, by rw [hcapital, hfirst]⟩
  · exact ⟨d, form, rfl, by rw [hsmall.2, Bool.eq_false_iff.mpr hfirst]⟩

theorem head_withEnding {e : Ending} (h : e.cut < (c :: rest).length) :
    ∃ more, withEnding (c :: rest) e = c :: more := by
  obtain ⟨n, hn⟩ := Nat.exists_eq_add_of_lt h
  have htake : (c :: rest).length - e.cut = n + 1 := by omega
  rw [withEnding, htake, List.take_succ_cons]
  exact ⟨_, rfl⟩

theorem length_lt_or_eq_of_suffix {t : List Char} (h : t <:+ low) :
    t.length < low.length ∨ low = t := by
  rcases Nat.lt_or_ge t.length low.length with hlt | hge
  · exact .inl hlt
  · exact .inr (h.eq_of_length_le hge).symm

/-- The plural takes the whole of two words only. -/
theorem cut_pluralEnding (hlow : low ≠ []) (hfeed : withoutLastFeed low = low) :
    (pluralEnding low).cut < low.length ∨ low = "f".toList ∨ low = "fe".toList := by
  have hpos : 0 < low.length := List.length_pos_iff.mpr hlow
  rw [pluralEnding, hfeed]
  split_ifs with hs hy hx hfe hf ho
  · exact .inl hpos
  · obtain ⟨c, -, hend⟩ := endsWithAfter_iff.mp hy
    exact .inl hend.length_le
  · exact .inl hpos
  · exact (length_lt_or_eq_of_suffix (endsWithLone_iff.mp hfe).1).imp_right .inr
  · exact (length_lt_or_eq_of_suffix (endsWithLone_iff.mp hf).1).imp_right .inl
  · exact .inl hpos
  · exact .inl hpos

def takenWords : List (List Char) := ["f", "F", "fe", "fE", "Fe", "FE"].map String.toList

theorem mem_takenWords (hword : IsAscii (c :: rest))
    (h : lower (c :: rest) = "f".toList ∨ lower (c :: rest) = "fe".toList) :
    c :: rest ∈ takenWords := by
  have hspelled {a : Char} (ha : a.toNat < 128) :
      (a.toLower = 'f' → a = 'f' ∨ a = 'F') ∧ (a.toLower = 'e' → a = 'e' ∨ a = 'E') :=
    Text.forall_ascii (P := fun a => (a.toLower = 'f' → a = 'f' ∨ a = 'F') ∧
      (a.toLower = 'e' → a = 'e' ∨ a = 'E')) (by decide) ha
  obtain ⟨hc, hrest⟩ := List.forall_mem_cons.mp hword
  rw [Text.lower_of_ascii hword, List.map_cons] at h
  rcases h with h | h
  · obtain ⟨hf, hnil⟩ := List.cons.inj h
    rw [List.map_eq_nil_iff.mp hnil]
    rcases (hspelled hc).1 hf with rfl | rfl <;> decide
  · obtain ⟨hf, hmore⟩ := List.cons.inj h
    obtain ⟨a, more, rfl, he, hnil⟩ := List.map_eq_cons_iff.mp hmore
    rw [List.map_eq_nil_iff.mp hnil]
    rcases (hspelled hc).1 hf with rfl | rfl <;>
      rcases (hspelled (hrest a List.mem_cons_self)).2 he with rfl | rfl <;> decide

/-- The words whose plural begins in the other letter case: the ending takes all of the word, and it
follows the last letter, which differs in case from the first. -/
def turnedWords : List (List Char) := ["Fe".toList, "fE".toList]

theorem head_irregular {word form : List Char} (h : irregularPlural? word = some form) :
    IsAscii form ∧ ∃ d more, form = d :: more ∧ d.isLower = true := by
  have hlower : ∀ e ∈ irregular, e.2.toList.head?.any Char.isLower = true := by decide
  obtain ⟨e, he, rfl⟩ := Option.map_eq_some_iff.mp h
  have hmem := List.mem_of_find?_eq_some he
  refine ⟨(isAscii_irregular e hmem).2, ?_⟩
  cases hform : e.2.toList with
  | nil => simpa [hform] using hlower e hmem
  | cons d more => exact ⟨d, more, rfl, by simpa [hform] using hlower e hmem⟩

/-- The first letter of a plural has the letter case of the word's first letter, but for two words. -/
theorem head_plural_iff (hletter : c.isAlpha = true)
    (hword : ∀ a ∈ c :: rest, (a.isAlphanum || a == '_') = true) :
    ∃ e more, plural [] (c :: rest) = e :: more ∧
      (Text.isUpper e = Text.isUpper c ↔ c :: rest ∉ turnedWords) := by
  have hascii : IsAscii (c :: rest) := fun a ha => Text.ascii_of_isAlphanum_or (hword a ha)
  have hne : c :: rest ≠ [] := List.cons_ne_nil c rest
  have hturned : ∀ w ∈ turnedWords, irregularPlural? (lower w) = none ∧
      ¬(pluralEnding (lower w)).cut < w.length := by decide
  rw [plural_of_ne_nil hne]
  cases hirregular : irregularPlural? (lower (c :: rest)) with
  | some form =>
    obtain ⟨hform, d, more, rfl, hlow⟩ := head_irregular hirregular
    obtain ⟨e, more, heq, hcase⟩ := head_matchCase hascii hletter hform hlow
    refine ⟨e, more, heq, iff_of_true hcase fun hmem => ?_⟩
    rw [(hturned _ hmem).1] at hirregular
    cases hirregular
  | none =>
    dsimp only
    rw [regularPlural_eq]
    have hcut := cut_pluralEnding (mt Text.lower_eq_nil_iff.mp hne) (withoutLastFeed_lower hword)
    rw [Text.length_lower hascii] at hcut
    rcases hcut with hcut | htaken
    · obtain ⟨more, heq⟩ := head_withEnding hcut
      exact ⟨c, more, heq, iff_of_true rfl fun hmem => (hturned _ hmem).2 hcut⟩
    · have hmem := mem_takenWords hascii htaken
      simp only [takenWords, List.map_cons, List.map_nil, List.mem_cons, List.not_mem_nil,
        or_false] at hmem
      rcases hmem with h | h | h | h | h | h <;> cases h
      all_goals exact ⟨_, _, rfl, by decide⟩

/-- A word of one letter, the plural of which is all ending, and a word in which the case turns. -/
theorem head_plural_iff_short :
    ('F'.isAlpha = true ∧ (∀ a ∈ ['F'], (a.isAlphanum || a == '_') = true) ∧
      ∃ e more, plural [] ['F'] = e :: more ∧ Text.isUpper e = Text.isUpper 'F') ∧
    (∀ a ∈ ['F', 'e'], (a.isAlphanum || a == '_') = true) ∧
      ∃ e more, plural [] ['F', 'e'] = e :: more ∧ Text.isUpper e ≠ Text.isUpper 'F' := by
  have hone : ∀ a ∈ ['F'], (a.isAlphanum || a == '_') = true := List.all_eq_true.mp (by decide)
  have htwo : ∀ a ∈ ['F', 'e'], (a.isAlphanum || a == '_') = true :=
    List.all_eq_true.mp (by decide)
  obtain ⟨e, more, heq, hkept⟩ := head_plural_iff (c := 'F') (by decide) hone
  obtain ⟨e', more', heq', hturned⟩ := head_plural_iff (c := 'F') (by decide) htwo
  exact ⟨⟨by decide, hone, e, more, heq, hkept.mpr (by decide)⟩, htwo, e', more', heq',
    fun hsame => hturned.mp hsame (by decide)⟩

/-- The plural of a capitalised word need not begin with a capital. -/
theorem capital_lost :
    (∀ a ∈ "Fe".toList, (a.isAlphanum || a == '_') = true) ∧ 'F'.isAlpha = true ∧
      plural [] "Fe".toList = "ves".toList ∧ Text.isUpper 'F' = true ∧ Text.isUpper 'v' = false := by
  exact ⟨List.all_eq_true.mp (by decide), by decide, by decide, by decide, by decide⟩

end EntitySchema.Noun
