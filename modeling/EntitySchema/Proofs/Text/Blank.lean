import EntitySchema.Proofs.Text.Ascii
import EntitySchema.Proofs.Text.Pieces

/-! Blank texts: those of which trimming leaves nothing (`trim_eq_nil_iff`). No blank has a
counterpart in lower case, and none is one, so that a text in lower case is blank exactly when the
text itself is (`all_isBlank_lower`). -/
namespace EntitySchema.Text

theorem trim_eq_nil_iff {s : List Char} : trim s = [] ↔ s.all isBlank = true := by
  have hend (t : List Char) : trimEnd t = [] ↔ t.all isBlank = true := by
    simp [trimEnd, List.dropWhile_eq_nil_iff]
  have hstart : (trimStart s).all isBlank = s.all isBlank := by
    conv_rhs => rw [← List.takeWhile_append_dropWhile (p := isBlank) (l := s), List.all_append,
      List.all_takeWhile, Bool.true_and]
    rfl
  rw [trim, hend, hstart]

def blankRanges : List (Nat × Nat) := [(9, 13), (28, 32), (0x85, 0x85), (0xa0, 0xa0),
  (0x1680, 0x1680), (0x2000, 0x200a), (0x2028, 0x2029), (0x202f, 0x202f), (0x205f, 0x205f),
  (0x3000, 0x3000)]

theorem isBlank_eq_inRanges (c : Char) : isBlank c = inRanges blankRanges c.toNat := by
  rw [Bool.eq_iff_iff]
  simp only [isBlank, inRanges, blankRanges, List.any_cons, List.any_nil, Bool.or_false,
    Bool.or_eq_true, Bool.and_eq_true, decide_eq_true_eq, beq_iff_eq]
  omega

/-- No run of the lower-case mapping starts from a blank or leads to one. -/
theorem lowerRuns_not_blank : ∀ r ∈ lowerRuns, ∀ b ∈ blankRanges,
    (r.last < b.1 ∨ b.2 < r.first) ∧
      ((r.last : Int) + r.offset < b.1 ∨ (b.2 : Int) < r.first + r.offset) := by
  decide +kernel

theorem inRanges_eq_false_iff {ranges : List (Nat × Nat)} {n : Nat} :
    inRanges ranges n = false ↔ ∀ b ∈ ranges, n < b.1 ∨ b.2 < n := by
  simp only [inRanges, List.any_eq_false, Bool.and_eq_true, decide_eq_true_eq]
  exact forall₂_congr fun b _ => by omega

theorem not_blank_of_runTarget {n m : Nat} (h : runTarget? lowerRuns n = some m) :
    inRanges blankRanges n = false ∧ inRanges blankRanges m = false := by
  obtain ⟨r, hr, rfl⟩ := Option.map_eq_some_iff.mp h
  have hmem := List.mem_of_find?_eq_some hr
  have hrun := List.find?_some hr
  simp only [Bool.and_eq_true, decide_eq_true_eq] at hrun
  simp only [inRanges_eq_false_iff]
  refine ⟨fun b hb => ?_, fun b hb => ?_⟩
  · have := (lowerRuns_not_blank r hmem b hb).1
    omega
  · have hstart : ∀ b ∈ blankRanges, 0 < b.1 := by decide
    have := hstart b hb
    have := (lowerRuns_not_blank r hmem b hb).2
    omega

theorem isBlank_ofNat_of_not_blank {n : Nat} (h : inRanges blankRanges n = false) :
    isBlank (Char.ofNat n) = false := by
  rw [isBlank_eq_inRanges]
  by_cases hvalid : n.isValidChar
  · rwa [Char.ofNat, dif_pos hvalid]
  · rw [Char.ofNat, dif_neg hvalid]
    decide

theorem isBlank_toLower {c : Char} (h : c.toNat < 128) : isBlank c.toLower = isBlank c :=
  forall_ascii (P := fun c => isBlank c.toLower = isBlank c) (by decide) h

theorem isBlank_of_mem_lowerChar {c d : Char} (h : d ∈ lowerChar c) : isBlank d = isBlank c := by
  unfold lowerChar at h
  split_ifs at h with hascii hdotted
  · rw [List.mem_singleton.mp h, isBlank_toLower hascii]
  · have hc : isBlank c = false := by
      rw [isBlank_eq_inRanges, hdotted]
      decide
    rw [hc]
    rcases List.mem_cons.mp h with rfl | h
    · decide
    · rw [List.mem_singleton.mp h]
      decide
  · split at h
    · rename_i n hn
      have hblank := not_blank_of_runTarget hn
      rw [List.mem_singleton.mp h, isBlank_ofNat_of_not_blank hblank.2, isBlank_eq_inRanges,
        hblank.1]
    · rw [List.mem_singleton.mp h]

theorem lowerChar_ne_nil (c : Char) : lowerChar c ≠ [] := by
  unfold lowerChar
  split_ifs
  · simp
  · simp
  · split <;> simp

/-- A capital sigma and its two small forms are no blanks. -/
theorem isBlank_sigma : ∀ n ∈ [0x3a3, 0x3c2, 0x3c3], isBlank (Char.ofNat n) = false := by decide

theorem all_isBlank_lowerChar (c : Char) : (lowerChar c).all isBlank = isBlank c := by
  cases hc : lowerChar c with
  | nil => exact absurd hc (lowerChar_ne_nil c)
  | cons d r =>
    have hall : ∀ e ∈ d :: r, isBlank e = isBlank c := fun e he =>
      isBlank_of_mem_lowerChar (hc ▸ he)
    rw [List.forall_mem_cons] at hall
    rw [List.all_cons, hall.1]
    cases hblank : isBlank c with
    | false => rfl
    | true => simpa [hblank] using hall.2

theorem all_isBlank_lowerAfter (before s : List Char) :
    (lowerAfter before s).all isBlank = s.all isBlank := by
  induction s generalizing before with
  | nil => rfl
  | cons c r ih =>
    have hsigma : c.toNat = 0x3a3 → isBlank c = false := by
      intro hc
      rw [← Char.ofNat_toNat c, hc]
      exact isBlank_sigma _ (by simp)
    rw [lowerAfter, List.all_append, ih, List.all_cons]
    by_cases hc : c.toNat = 0x3a3
    · rw [if_pos hc, hsigma hc]
      split <;> simp [isBlank_sigma]
    · rw [if_neg hc, all_isBlank_lowerChar]

/-- A text in lower case is blank exactly when the text is. -/
theorem all_isBlank_lower (s : List Char) : (lower s).all isBlank = s.all isBlank :=
  all_isBlank_lowerAfter [] s

theorem lower_eq_nil_iff {s : List Char} : lower s = [] ↔ s = [] := by
  cases s with
  | nil => simp [lower, lowerAfter]
  | cons c r =>
    have hc : ¬lowerChar c = [] := lowerChar_ne_nil c
    simp only [lower, lowerAfter, List.append_eq_nil_iff]
    split <;> simp [hc]

end EntitySchema.Text
