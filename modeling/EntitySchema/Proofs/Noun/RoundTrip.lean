import EntitySchema.Proofs.Noun.LetterCase

/-! Singular after plural by suffix rules. The singular knows a plural by its ending alone, so words
with an ending that looks like a part of one do not come back. Main statement: all others do
(`singular_plural_iff`). -/
namespace EntitySchema.Noun

open Text (IsAscii lower withoutLastFeed)

/-- The text ends with `suffix`, and none of the barred characters stands before it. -/
def EndsBare (suffix barred : String) (s : List Char) : Prop :=
  suffix.toList <:+ s ∧ ∀ c ∈ barred.toList, ¬c :: suffix.toList <:+ s

/-- Endings that, with an `s` behind them, are taken for endings of other plurals. -/
def mistakenEndings : List String := ["ie", "ve", "se", "xe", "ze", "che", "she"]

/-- The words, in lower case, that their plurals do not give back. -/
def IsLossy (s : List Char) : Prop :=
  EndsBare "s" "s" s ∨ EndsBare "o" "aeiou" s ∨ EndsBare "fe" "f" s ∨
    ∃ e ∈ mistakenEndings, e.toList <:+ s

instance (suffix barred : String) (s : List Char) : Decidable (EndsBare suffix barred s) :=
  @instDecidableAnd _ _ inferInstance (List.decidableBAll (¬· :: suffix.toList <:+ s) _)

instance (s : List Char) : Decidable (IsLossy s) :=
  inferInstanceAs (Decidable (_ ∨ _ ∨ _ ∨ ∃ e ∈ mistakenEndings, e.toList <:+ s))

section Endings

variable {suffix : String} {s : List Char} {c : Char}

theorem endsWith_iff : endsWith suffix s = true ↔ suffix.toList <:+ s :=
  List.isSuffixOf_iff_suffix

theorem take_append_toList (stem : List Char) (suffix : String) :
    (stem ++ suffix.toList).take ((stem ++ suffix.toList).length - suffix.length) = stem := by
  apply List.take_left'
  rw [List.length_append, String.length_toList, Nat.add_sub_cancel]

theorem cons_suffix_append_iff {stem t : List Char} :
    c :: t <:+ stem ++ t ↔ stem.getLast? = some c := by
  rw [List.getLast?_eq_some_iff]
  constructor
  · rintro ⟨init, h⟩
    have hsame : stem ++ t = init ++ [c] ++ t := by
      rw [← h, List.append_assoc, List.singleton_append]
    exact ⟨init, List.append_cancel_right hsame⟩
  · rintro ⟨init, rfl⟩
    exact ⟨init, by rw [List.append_assoc, List.singleton_append]⟩

theorem endsWithAfter_iff {isBefore : Char → Bool} :
    endsWithAfter isBefore suffix s = true ↔
      ∃ c, isBefore c = true ∧ c :: suffix.toList <:+ s := by
  rw [endsWithAfter, Bool.and_eq_true, endsWith_iff]
  constructor
  · rintro ⟨⟨stem, rfl⟩, h⟩
    rw [take_append_toList] at h
    cases hlast : stem.getLast? with
    | none => simp [hlast] at h
    | some c => exact ⟨c, by simpa [hlast] using h, cons_suffix_append_iff.mpr hlast⟩
  · rintro ⟨c, hc, hs⟩
    obtain ⟨stem, rfl⟩ := (List.suffix_cons c suffix.toList).trans hs
    refine ⟨List.suffix_append stem _, ?_⟩
    rw [take_append_toList, cons_suffix_append_iff.mp hs]
    simpa using hc

theorem endsWithLone_iff : endsWithLone suffix s = true ↔ EndsBare suffix "f" s := by
  rw [endsWithLone, Bool.and_eq_true, endsWith_iff]
  apply and_congr_right
  rintro ⟨stem, rfl⟩
  have hf : (∀ c ∈ "f".toList, ¬c :: suffix.toList <:+ stem ++ suffix.toList) ↔
      ¬stem.getLast? = some 'f' := by
    rw [← cons_suffix_append_iff]
    exact List.forall_mem_singleton
  rw [take_append_toList, hf]
  cases stem.getLast? <;> simp

theorem endsBare_o_iff :
    (endsWith "o" s && !endsWithAfter isVowel "o" s) = true ↔ EndsBare "o" "aeiou" s := by
  rw [Bool.and_eq_true, endsWith_iff, Bool.not_eq_true', ← Bool.not_eq_true, endsWithAfter_iff]
  apply and_congr_right'
  constructor
  · exact fun h c hc hs => h ⟨c, List.contains_iff_mem.mpr hc, hs⟩
  · exact fun h ⟨c, hc, hs⟩ => h c (List.contains_iff_mem.mp hc) hs

theorem getLast?_of_suffix {t : List Char} (ht : t.getLast? = some c) (h : t <:+ s) :
    s.getLast? = some c := by
  obtain ⟨stem, rfl⟩ := h
  rw [List.getLast?_append, ht, Option.some_or]

theorem withoutLastFeed_append {stem t : List Char} (ht : t ≠ []) (hfeed : '\n' ∉ t) :
    withoutLastFeed (stem ++ t) = stem ++ t := by
  rw [withoutLastFeed, if_neg]
  intro h
  rw [List.getLast?_append_of_ne_nil stem ht] at h
  exact hfeed (List.mem_of_getLast? h)

theorem exists_ending {word : List Char} (h : IsAscii word) (hs : suffix.toList <:+ lower word) :
    ∃ stem ending, word = stem ++ ending ∧ IsAscii stem ∧ Spelled suffix ending := by
  obtain ⟨u, hu⟩ := hs
  rw [Text.lower_of_ascii h, eq_comm, List.map_eq_append_iff] at hu
  obtain ⟨stem, ending, rfl, -, hlow⟩ := hu
  obtain ⟨hstem, hending⟩ := Text.isAscii_append.mp h
  exact ⟨stem, ending, rfl, hstem, hending, (Text.lower_of_ascii hending).trans hlow⟩

end Endings

section Lossy

variable {s : List Char} {c : Char}

theorem IsLossy.last (h : IsLossy s) :
    EndsBare "s" "s" s ∨ s.getLast? = some 'o' ∨ s.getLast? = some 'e' := by
  rcases h with h | h | h | ⟨e, he, h⟩
  · exact .inl h
  · exact .inr (.inl (getLast?_of_suffix rfl h.1))
  · exact .inr (.inr (getLast?_of_suffix rfl h.1))
  · have hlast : ∀ e ∈ mistakenEndings, e.toList.getLast? = some 'e' := by decide
    exact .inr (.inr (getLast?_of_suffix (hlast e he) h))

def lossyLasts : List (Option Char) := [none, some 's', some 'o', some 'e']

theorem not_isLossy_of_suffix {t : List Char} (h : t <:+ s) (ht : t.getLast? ∉ lossyLasts) :
    ¬IsLossy s := by
  intro hlossy
  cases hlast : t.getLast? with
  | none => exact ht (hlast ▸ by decide)
  | some c =>
    have hsame := getLast?_of_suffix hlast h
    rw [hlast, ← hsame] at ht
    rcases hlossy.last with hbare | ho | he
    · have hs : s.getLast? = some 's' := getLast?_of_suffix rfl hbare.1
      exact ht (hs ▸ by decide)
    · exact ht (ho ▸ by decide)
    · exact ht (he ▸ by decide)

theorem isLossy_iff_of_s (h : "s".toList <:+ s) : IsLossy s ↔ ¬"ss".toList <:+ s := by
  have hs : s.getLast? = some 's' := getLast?_of_suffix rfl h
  constructor
  · intro hlossy
    rcases hlossy.last with hbare | ho | he
    · exact hbare.2 's' List.mem_cons_self
    · rw [hs] at ho
      exact absurd ho (by decide)
    · rw [hs] at he
      exact absurd he (by decide)
  · exact fun hdouble => .inl ⟨h, List.forall_mem_singleton.mpr hdouble⟩

end Lossy

section Singular

/-! The singular of a stem with an ending behind it. -/

variable {stem ending word : List Char}

def replacedEndings : List (String × String) := [("ies", "y"), ("ves", "f")]

theorem regularSingular_replaced {e : String × String} (he : e ∈ replacedEndings)
    (hstem : IsAscii stem) (h : Spelled e.1 ending) :
    regularSingular (stem ++ ending) = stem ++ matchCaseOfLast ending e.2.toList := by
  have hthree : ∀ e ∈ replacedEndings, e.1.length = 3 := by decide
  have hlength := h.length.trans (hthree e he)
  have hne : ending ≠ [] := List.ne_nil_of_length_eq_add_one hlength
  dsimp only [regularSingular]
  rw [Text.lower_append hstem h.ascii, h.low, matchCaseOfLast_append hne, matchCaseOfLast_append hne]
  simp only [replacedEndings, List.mem_cons, List.not_mem_nil, or_false] at he
  rcases he with rfl | rfl
  all_goals
    rw [withoutLastFeed_append (by decide) (by decide)]
    simp [sibilants, endsWith, List.isSuffixOf, hlength]

theorem regularSingular_sibilant (hsibilant : ∃ e ∈ sibilants, e.toList <:+ lower stem)
    (hstem : IsAscii stem) (h : Spelled "es" ending) : regularSingular (stem ++ ending) = stem := by
  have hlength : ending.length = 2 := h.length
  obtain ⟨e, he, u, hu⟩ := hsibilant
  dsimp only [regularSingular]
  rw [Text.lower_append hstem h.ascii, h.low, withoutLastFeed_append (by decide) (by decide), if_pos]
  · rw [List.length_append, hlength, Nat.add_sub_cancel, List.take_left]
  · refine List.any_eq_true.mpr ⟨e, he, endsWith_iff.mpr ⟨u, ?_⟩⟩
    rw [← hu, String.toList_append, List.append_assoc]

/-- Of the ending `oes` only the last letter goes. -/
theorem length_regularSingular_oes (ho : "o".toList <:+ lower stem) (hstem : IsAscii stem)
    (h : Spelled "es" ending) : (regularSingular (stem ++ ending)).length = stem.length + 1 := by
  have hlength : ending.length = 2 := h.length
  obtain ⟨u, hu⟩ := ho
  dsimp only [regularSingular]
  rw [Text.lower_append hstem h.ascii, h.low, ← hu, withoutLastFeed_append (by decide) (by decide)]
  simp [sibilants, endsWith, List.isSuffixOf, List.isPrefixOf, hlength]

theorem regularSingular_double (h : "ss".toList <:+ lower word) : regularSingular word = word := by
  obtain ⟨u, hu⟩ := h
  dsimp only [regularSingular]
  rw [← hu, withoutLastFeed_append (by decide) (by decide)]
  simp [sibilants, endsWith, List.isSuffixOf]

theorem endsWith_append_s_iff {e : String} {s : List Char} :
    endsWith (e ++ "s") (s ++ "s".toList) = true ↔ e.toList <:+ s := by
  rw [endsWith_iff, String.toList_append]
  constructor
  · rintro ⟨u, h⟩
    exact ⟨u, List.append_cancel_right (by rwa [← List.append_assoc] at h)⟩
  · rintro ⟨u, rfl⟩
    exact ⟨u, by rw [List.append_assoc]⟩

theorem mistakenEndings_eq : mistakenEndings = "ie" :: "ve" :: sibilants.map (· ++ "e") := by decide

/-- A single `s` goes alone, unless more is taken for a part of the ending. -/
theorem regularSingular_bare (hbare : ¬"s".toList <:+ lower stem) (hstem : IsAscii stem)
    (h : Spelled "s" ending) :
    (∃ e ∈ mistakenEndings, e.toList <:+ lower stem) ∧
        (regularSingular (stem ++ ending)).length < stem.length ∨
      (∀ e ∈ mistakenEndings, ¬e.toList <:+ lower stem) ∧
        regularSingular (stem ++ ending) = stem := by
  have hlength : ending.length = 1 := h.length
  have hlong {e : String} (he : e.toList <:+ lower stem) : e.length ≤ stem.length := by
    rw [← String.length_toList, ← Text.length_lower hstem]
    exact he.length_le
  have hone : "e".length = 1 ∧ "y".length = 1 ∧ "f".length = 1 := by decide
  have htwo : "ie".length = 2 ∧ "ve".length = 2 := by decide
  have hes (e : String) : endsWith (e ++ "es") (lower stem ++ "s".toList) = true ↔
      (e ++ "e").toList <:+ lower stem := by
    rw [← endsWith_append_s_iff, String.append_assoc]
    rfl
  have hies : endsWith "ies" (lower stem ++ "s".toList) = true ↔ "ie".toList <:+ lower stem :=
    endsWith_append_s_iff (e := "ie")
  have hves : endsWith "ves" (lower stem ++ "s".toList) = true ↔ "ve".toList <:+ lower stem :=
    endsWith_append_s_iff (e := "ve")
  have hss : endsWith "ss" (lower stem ++ "s".toList) = true ↔ "s".toList <:+ lower stem :=
    endsWith_append_s_iff (e := "s")
  dsimp only [regularSingular]
  rw [Text.lower_append hstem h.ascii, h.low, withoutLastFeed_append (by decide) (by decide),
    mistakenEndings_eq]
  split_ifs with h1 h2 h3 h4
  · obtain ⟨e, he, hend⟩ := List.any_eq_true.mp h1
    have hend := (hes e).mp hend
    have hleast := hlong hend
    rw [String.length_append] at hleast
    refine .inl ⟨⟨e ++ "e", by simp [he], hend⟩, ?_⟩
    rw [List.length_take, List.length_append, hlength]
    omega
  · have hleast := hlong (hies.mp h2)
    refine .inl ⟨⟨"ie", by simp, hies.mp h2⟩, ?_⟩
    rw [List.length_append, (Spelled.matchCaseOfLast (by decide) _).length, List.length_take,
      List.length_append, hlength]
    omega
  · have hleast := hlong (hves.mp h3)
    refine .inl ⟨⟨"ve", by simp, hves.mp h3⟩, ?_⟩
    rw [List.length_append, (Spelled.matchCaseOfLast (by decide) _).length, List.length_take,
      List.length_append, hlength]
    omega
  · refine .inr ⟨?_, ?_⟩
    · rw [List.forall_mem_cons, List.forall_mem_cons, List.forall_mem_map]
      exact ⟨mt hies.mpr h2, mt hves.mpr h3, fun e he hend =>
        h1 (List.any_eq_true.mpr ⟨e, he, (hes e).mpr hend⟩)⟩
    · rw [List.length_append, hlength, Nat.add_sub_cancel, List.take_left]
  · refine absurd ?_ h4
    rw [endsWith_iff.mpr (List.suffix_append _ _), Bool.true_and, Bool.not_eq_true']
    exact Bool.eq_false_iff.mpr (mt hss.mp hbare)

end Singular

section Plural

variable {word : List Char}

/-- The singular gives the last letter back that the plural took, in its letter case. -/
theorem matchCaseOfLast_replaced {e : String × String} (he : e ∈ replacedEndings)
    {ending : List Char} (h : Spelled e.2 ending) :
    matchCaseOfLast (matchCaseOfLast ending e.1.toList) e.2.toList = ending := by
  have hletter {c : Char} (hc : c.toNat < 128) : [c.toLower] = e.2.toList →
      matchCaseOfLast (matchCaseOfLast [c] e.1.toList) e.2.toList = [c] := by
    simp only [replacedEndings, List.mem_cons, List.not_mem_nil, or_false] at he
    rcases he with rfl | rfl
    all_goals exact Text.forall_ascii (P := fun c => [c.toLower] = _ →
      matchCaseOfLast (matchCaseOfLast [c] _) _ = [c]) (by decide) hc
  have hone : ∀ e ∈ replacedEndings, e.2.length = 1 := by decide
  obtain ⟨c, rfl⟩ := List.length_eq_one_iff.mp (h.length.trans (hone e he))
  exact hletter (h.ascii c List.mem_cons_self) ((Text.lower_of_ascii h.ascii).symm.trans h.low)

theorem undone_replaced {e : String × String} (he : e ∈ replacedEndings) (hword : IsAscii word)
    (hend : e.2.toList <:+ lower word) :
    regularSingular (word.take (word.length - 1) ++ matchCaseOfLast word e.1.toList) = word ↔
      ¬IsLossy (lower word) := by
  have hlower : ∀ e ∈ replacedEndings,
      IsAscii e.1.toList ∧ lower e.1.toList = e.1.toList := by decide
  have hone : ∀ e ∈ replacedEndings, e.2.length = 1 ∧ e.2 ≠ "" := by decide
  have hlast : ∀ e ∈ replacedEndings, e.2.toList.getLast? ∉ lossyLasts := by decide
  refine iff_of_true ?_ (not_isLossy_of_suffix hend (hlast e he))
  obtain ⟨stem, ending, rfl, hstem, h⟩ := exists_ending hword hend
  rw [List.length_append, h.length, (hone e he).1, Nat.add_sub_cancel, List.take_left,
    matchCaseOfLast_append (h.ne_nil (hone e he).2),
    regularSingular_replaced he hstem (.matchCaseOfLast (hlower e he) ending),
    matchCaseOfLast_replaced he h]

/-- A word in `s` is its own plural, and comes back when it ends with two of them. -/
theorem undone_s (hword : IsAscii word) (hend : "s".toList <:+ lower word) :
    regularSingular word = word ↔ ¬IsLossy (lower word) := by
  rw [isLossy_iff_of_s hend, not_not]
  refine ⟨fun hsame => ?_, regularSingular_double⟩
  by_contra hdouble
  obtain ⟨stem, ending, rfl, hstem, h⟩ := exists_ending hword hend
  have hbare : ¬"s".toList <:+ lower stem := by
    rintro ⟨u, hu⟩
    refine hdouble ⟨u, ?_⟩
    rw [Text.lower_append hstem h.ascii, h.low, ← hu, List.append_assoc]
    rfl
  have hshorter : (regularSingular (stem ++ ending)).length ≤ stem.length := by
    rcases regularSingular_bare hbare hstem h with ⟨-, hless⟩ | ⟨-, heq⟩
    · exact hless.le
    · rw [heq]
  have hone : ending.length = 1 := h.length
  rw [hsame, List.length_append, hone] at hshorter
  omega

theorem undone_sibilant (hword : IsAscii word) (hs : ¬"s".toList <:+ lower word)
    (hsibilant : ∃ e ∈ sibilants, e.toList <:+ lower word) :
    regularSingular (word ++ matchCaseOfLast word "es".toList) = word ↔
      ¬IsLossy (lower word) := by
  refine iff_of_true
    (regularSingular_sibilant hsibilant hword (.matchCaseOfLast (by decide) word)) ?_
  obtain ⟨e, he, hend⟩ := hsibilant
  have hlast : ∀ e ∈ sibilants, e = "s" ∨ e.toList.getLast? ∉ lossyLasts := by decide
  rcases hlast e he with rfl | hlast
  · exact absurd hend hs
  · exact not_isLossy_of_suffix hend hlast

theorem undone_fe (hword : IsAscii word) (hend : EndsBare "fe" "f" (lower word)) :
    regularSingular (word.take (word.length - 2) ++ matchCaseOfLast word "ves".toList) = word ↔
      ¬IsLossy (lower word) := by
  refine iff_of_false (fun hsame => ?_) (not_not.mpr (.inr (.inr (.inl hend))))
  obtain ⟨stem, ending, rfl, hstem, h⟩ := exists_ending hword hend.1
  have htwo : ending.length = 2 := h.length
  rw [List.length_append, htwo, Nat.add_sub_cancel, List.take_left,
    regularSingular_replaced (e := ("ves", "f")) (by decide) hstem
      (.matchCaseOfLast (by decide) _), List.append_cancel_left_eq] at hsame
  have hput : Spelled "f" (matchCaseOfLast (matchCaseOfLast (stem ++ ending) "ves".toList)
    "f".toList) := .matchCaseOfLast (by decide) _
  have hone := hput.length
  rw [hsame, htwo] at hone
  exact absurd hone (by decide)

theorem undone_o (hword : IsAscii word) (hend : EndsBare "o" "aeiou" (lower word)) :
    regularSingular (word ++ matchCaseOfLast word "es".toList) = word ↔
      ¬IsLossy (lower word) := by
  refine iff_of_false (fun hsame => ?_) (not_not.mpr (.inr (.inl hend)))
  have hput : Spelled "es" (matchCaseOfLast word "es".toList) := .matchCaseOfLast (by decide) word
  have hlonger := length_regularSingular_oes hend.1 hword hput
  rw [hsame] at hlonger
  omega

/-- Any other word comes back, but for those whose ending is mistaken. -/
theorem undone_other (hword : IsAscii word) (hs : ¬"s".toList <:+ lower word)
    (hfe : ¬EndsBare "fe" "f" (lower word)) (ho : ¬EndsBare "o" "aeiou" (lower word)) :
    regularSingular (word ++ matchCaseOfLast word "s".toList) = word ↔ ¬IsLossy (lower word) := by
  have hlossy : IsLossy (lower word) ↔ ∃ e ∈ mistakenEndings, e.toList <:+ lower word := by
    refine ⟨?_, fun h => .inr (.inr (.inr h))⟩
    rintro (h | h | h | h)
    · exact absurd h.1 hs
    · exact absurd h ho
    · exact absurd h hfe
    · exact h
  rw [hlossy]
  have hput : Spelled "s" (matchCaseOfLast word "s".toList) := .matchCaseOfLast (by decide) word
  rcases regularSingular_bare hs hword hput with ⟨hmistaken, hless⟩ | ⟨hnone, hsame⟩
  · exact iff_of_false (fun hsame => absurd (hsame ▸ hless) (lt_irrefl _)) (not_not.mpr hmistaken)
  · refine iff_of_true hsame ?_
    rintro ⟨e, he, hend⟩
    exact hnone e he hend

theorem withoutLastFeed_lower (hword : ∀ c ∈ word, (c.isAlphanum || c == '_') = true) :
    withoutLastFeed (lower word) = lower word := by
  have hascii : IsAscii word := fun c hc => Text.ascii_of_isAlphanum_or (hword c hc)
  rw [withoutLastFeed, if_neg]
  intro hlast
  have hmem := List.mem_of_getLast? hlast
  rw [Text.lower_of_ascii hascii] at hmem
  obtain ⟨c, hc, hfeed⟩ := List.mem_map.mp hmem
  exact Text.forall_ascii
    (P := fun c => (c.isAlphanum || c == '_') = true → c.toLower ≠ '\n') (by decide)
    (hascii c hc) (hword c hc) hfeed

theorem regularSingular_regularPlural_iff
    (hword : ∀ c ∈ word, (c.isAlphanum || c == '_') = true) :
    regularSingular (regularPlural word) = word ↔ ¬IsLossy (lower word) := by
  have hascii : IsAscii word := fun c hc => Text.ascii_of_isAlphanum_or (hword c hc)
  dsimp only [regularPlural]
  rw [withoutLastFeed_lower hword, Nat.sub_zero, List.take_length]
  split_ifs with hs hy hx hfe hf ho
  · exact undone_s hascii (endsWith_iff.mp hs)
  · obtain ⟨c, -, hend⟩ := endsWithAfter_iff.mp hy
    exact undone_replaced (e := ("ies", "y")) (by decide) hascii
      ((List.suffix_cons c _).trans hend)
  · obtain ⟨e, he, hend⟩ := List.any_eq_true.mp hx
    exact undone_sibilant hascii (mt endsWith_iff.mpr hs) ⟨e, he, endsWith_iff.mp hend⟩
  · exact undone_fe hascii (endsWithLone_iff.mp hfe)
  · exact undone_replaced (e := ("ves", "f")) (by decide) hascii (endsWithLone_iff.mp hf).1
  · exact undone_o hascii (endsBare_o_iff.mp ho)
  · exact undone_other hascii (mt endsWith_iff.mpr hs) (mt endsWithLone_iff.mpr hfe)
      (mt endsBare_o_iff.mpr ho)

theorem s_suffix_regularPlural (hword : IsAscii word) :
    "s".toList <:+ lower (regularPlural word) := by
  have hsuffix : ∀ s ∈ pluralSuffixes, IsAscii s ∧ "s".toList <:+ lower s := by decide
  rcases regularPlural_shape word with ⟨hs, hsame⟩ | ⟨n, suffix, hmem, hput⟩
  · rw [hsame]
    exact endsWith_iff.mp hs
  · have hstem : IsAscii (word.take n) := Text.isAscii_take hword n
    obtain ⟨hascii, hend⟩ := hsuffix suffix hmem
    rw [hput, Text.lower_append hstem hascii]
    exact hend.trans (List.suffix_append _ _)

/-- No irregular plural ends with an `s`. -/
theorem singular_of_s (h : "s".toList <:+ lower word) :
    singular [] word = regularSingular word := by
  have hirregular : irregularSingular? (lower word) = none := by
    rw [irregularSingular?, Option.map_eq_none_iff, List.find?_eq_none]
    intro e he hsame
    have hlast : ∀ e ∈ irregular, e.2.toList.getLast? ≠ some 's' := by decide
    exact hlast e he (getLast?_of_suffix rfl (beq_iff_eq.mp hsame ▸ h))
  have hne : word ≠ [] := by
    rintro rfl
    exact absurd h (by decide)
  have hinverted : inverted [] = .empty := rfl
  simp [singular, hne, hinverted, overridden?, Override.ofDict, Dict.empty, hirregular]

/-- Of the words that are no irregular nouns, the singular of the plural is the word itself for all
but those with an ending that the plural loses. -/
theorem singular_plural_iff (hword : ∀ c ∈ word, (c.isAlphanum || c == '_') = true)
    (hregular : irregularPlural? (lower word) = none) :
    singular [] (plural [] word) = word ↔ ¬IsLossy (lower word) := by
  by_cases hne : word = []
  · subst hne
    exact iff_of_true rfl (by decide)
  have hascii : IsAscii word := fun c hc => Text.ascii_of_isAlphanum_or (hword c hc)
  rw [plural_of_ne_nil hne, hregular]
  dsimp only
  rw [singular_of_s (s_suffix_regularPlural hascii), regularSingular_regularPlural_iff hword]

/-- A word in mixed case that comes back, and one that does not. -/
theorem singular_plural_iff_mixed :
    ((∀ c ∈ "CitY".toList, (c.isAlphanum || c == '_') = true) ∧
      irregularPlural? (lower "CitY".toList) = none ∧ ¬IsLossy (lower "CitY".toList) ∧
      singular [] (plural [] "CitY".toList) = "CitY".toList) ∧
    (∀ c ∈ "Knife".toList, (c.isAlphanum || c == '_') = true) ∧
      irregularPlural? (lower "Knife".toList) = none ∧ IsLossy (lower "Knife".toList) ∧
      singular [] (plural [] "Knife".toList) ≠ "Knife".toList := by
  have hcity : ∀ c ∈ "CitY".toList, (c.isAlphanum || c == '_') = true :=
    List.all_eq_true.mp (by decide)
  have hknife : ∀ c ∈ "Knife".toList, (c.isAlphanum || c == '_') = true :=
    List.all_eq_true.mp (by decide)
  have hkept : ¬IsLossy (lower "CitY".toList) := by decide
  have hlost : IsLossy (lower "Knife".toList) := by decide
  exact ⟨⟨hcity, by decide, hkept, (singular_plural_iff hcity (by decide)).mpr hkept⟩,
    hknife, by decide, hlost, fun hsame => (singular_plural_iff hknife (by decide)).mp hsame hlost⟩

end Plural

end EntitySchema.Noun
