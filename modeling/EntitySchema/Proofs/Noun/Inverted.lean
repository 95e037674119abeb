import EntitySchema.Proofs.Noun.LetterCase
import EntitySchema.Proofs.Noun.Override
import EntitySchema.Proofs.Value.Entries

/-! Overrides read backwards. A plural leads back to its word where no other word has it
(`overridden?_inverted`), so the singular of the plural of an overridden word is the word again, up to
letter case (`lower_singular_plural`). -/
namespace EntitySchema.Noun

open Text (IsAscii lower)

/-- No two words have the same plural in any letter case. Words without a plural do not count. -/
def PluralsDiffer (overrides : Dict String) : Prop :=
  ((overrides.values.filter (· != "")).map Text.lowered).Nodup

instance (overrides : Dict String) : Decidable (PluralsDiffer overrides) := by
  unfold PluralsDiffer
  infer_instance

variable {overrides : Dict String} {word form : List Char}

theorem PluralsDiffer.nodup (h : PluralsDiffer overrides) :
    ((overrides.entries.filter (·.2 != "")).map fun e => Text.lowered e.2).Nodup := by
  rw [PluralsDiffer, Dict.values, List.filter_map, List.map_map] at h
  exact h

theorem entries_inverted (h : PluralsDiffer overrides) :
    (inverted (Override.ofDict overrides)).entries =
      (overrides.entries.filter (·.2 != "")).map fun e =>
        (Text.lowered e.2, Text.lowered e.1) := by
  have hlist : (((Override.ofDict overrides).filter fun o => o.plural != "").map fun o =>
        (Text.lowered o.plural, Text.lowered o.word)) =
      (overrides.entries.filter (·.2 != "")).map fun e =>
        (Text.lowered e.2, Text.lowered e.1) := by
    rw [Override.ofDict, List.filter_map, List.map_map]
    rfl
  rw [inverted, hlist]
  apply Dict.entries_ofList_of_nodup
  rw [List.map_map]
  exact h.nodup

theorem toList_lowered (s : String) : (Text.lowered s).toList = lower s.toList :=
  String.toList_ofList

theorem overridden?_inverted (hdiffer : PluralsDiffer overrides)
    (hascii : ∀ e ∈ overrides.entries, IsAscii e.1.toList ∧ IsAscii e.2.toList)
    {e : String × String} (he : e ∈ overrides.entries) (hword : e.1 ≠ "") (hplural : e.2 ≠ "") :
    overridden? (Override.ofDict (inverted (Override.ofDict overrides))) (lower e.2.toList) =
      some (lower e.1.toList) := by
  have hmem : e ∈ overrides.entries.filter (·.2 != "") := by simp [he, hplural]
  have hoffered : Text.lowered e.1 ≠ "" := by
    intro hnone
    have hempty : lower e.1.toList = [] := by rw [← toList_lowered, hnone]; rfl
    exact hword (String.toList_eq_nil_iff.mp (Text.lower_eq_nil_iff.mp hempty))
  rw [overridden?_ofDict, entries_inverted hdiffer, List.find?_map, Option.map_map]
  cases hfind : (overrides.entries.filter (·.2 != "")).find? _ with
  | none =>
    have hown := List.find?_eq_none.mp hfind e hmem
    simp [hoffered, toList_lowered, Text.lower_lower (hascii e he).2] at hown
  | some d =>
    have hd := List.mem_of_find?_eq_some hfind
    have hfound := List.find?_some hfind
    have hplain := (hascii d (List.mem_filter.mp hd).1).2
    simp only [Function.comp_apply, Bool.and_eq_true, beq_iff_eq, toList_lowered,
      Text.lower_lower hplain] at hfound
    have hplurals : Text.lowered d.2 = Text.lowered e.2 := congrArg String.ofList hfound.2
    have hsame : d = e := List.inj_on_of_nodup_map hdiffer.nodup hd hmem hplurals
    simp [hsame, toList_lowered]

theorem plural_of_overridden {overrides : List Override} (hword : word ≠ [])
    (h : overridden? overrides (lower word) = some form) :
    plural overrides word = matchCase word form := by
  simp [plural, hword, h]

theorem singular_of_overridden {overrides : List Override} (hword : word ≠ [])
    (h : overridden? (Override.ofDict (inverted overrides)) (lower word) = some form) :
    singular overrides word = matchCase word form := by
  simp [singular, hword, h]

/-- Where no two words have the same plural, the singular leads from the plural of a word back to the
word, up to letter case. Irregular nouns and suffix rules do not interfere. -/
theorem lower_singular_plural (hdiffer : PluralsDiffer overrides)
    (hascii : ∀ e ∈ overrides.entries, IsAscii e.1.toList ∧ IsAscii e.2.toList)
    (hword : IsAscii word)
    (hkey : ∃ e ∈ overrides.entries, e.2 ≠ "" ∧ lower e.1.toList = lower word) :
    lower (singular (Override.ofDict overrides) (plural (Override.ofDict overrides) word)) =
      lower word := by
  by_cases hempty : word = []
  · subst hempty
    rfl
  obtain ⟨e, hfirst⟩ : ∃ e, overrides.entries.find? (fun e =>
      e.2 != "" && lower e.1.toList == lower word) = some e := by
    rw [← Option.isSome_iff_exists, List.find?_isSome]
    obtain ⟨e, he, hplural, hsame⟩ := hkey
    exact ⟨e, he, by simp [hplural, hsame]⟩
  have he := List.mem_of_find?_eq_some hfirst
  have hfound := List.find?_some hfirst
  simp only [Bool.and_eq_true, bne_iff_ne, beq_iff_eq] at hfound
  obtain ⟨hplural, hsame⟩ := hfound
  obtain ⟨hkey, hform⟩ := hascii e he
  have hnamed : e.1 ≠ "" := by
    intro hnone
    rw [hnone] at hsame
    exact hempty (Text.lower_eq_nil_iff.mp hsame.symm)
  have hforward : plural (Override.ofDict overrides) word = matchCase word e.2.toList := by
    apply plural_of_overridden hempty
    rw [overridden?_ofDict, hfirst]
    rfl
  have hlower : lower (matchCase word e.2.toList) = lower e.2.toList := lower_matchCase hform word
  have hne : matchCase word e.2.toList ≠ [] := by
    rw [Ne, ← Text.lower_eq_nil_iff, hlower, Text.lower_eq_nil_iff, String.toList_eq_nil_iff]
    exact hplural
  have hbackward := overridden?_inverted hdiffer hascii he hnamed hplural
  rw [← hlower] at hbackward
  rw [hforward, singular_of_overridden hne hbackward, lower_matchCase (Text.isAscii_lower hkey),
    Text.lower_lower hkey, hsame]

/-- Two spellings of one word, a plural that is the irregular one of another and one that the suffix
rules would make something else of. -/
theorem lower_singular_plural_spellings :
    let overrides : Dict String :=
      .ofList [("ox", ""), ("Mouse", "MEN"), ("mouse", "Buses"), ("Bus", "mouse")]
    PluralsDiffer overrides ∧
      (∀ e ∈ overrides.entries, IsAscii e.1.toList ∧ IsAscii e.2.toList) ∧
      IsAscii "mOUSE".toList ∧
      (∃ e ∈ overrides.entries, e.2 ≠ "" ∧ lower e.1.toList = lower "mOUSE".toList) ∧
      plural (Override.ofDict overrides) "mOUSE".toList = "MEN".toList ∧
      lower (singular (Override.ofDict overrides)
        (plural (Override.ofDict overrides) "mOUSE".toList)) = lower "mOUSE".toList := by
  intro overrides
  have hdiffer : PluralsDiffer overrides := by decide
  have hascii : ∀ e ∈ overrides.entries, IsAscii e.1.toList ∧ IsAscii e.2.toList := by decide
  have hword : IsAscii "mOUSE".toList := by decide
  have hkey : ∃ e ∈ overrides.entries, e.2 ≠ "" ∧ lower e.1.toList = lower "mOUSE".toList := by
    decide
  exact ⟨hdiffer, hascii, hword, hkey, by decide, lower_singular_plural hdiffer hascii hword hkey⟩

end EntitySchema.Noun
