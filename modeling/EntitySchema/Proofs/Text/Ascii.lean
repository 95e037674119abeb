import EntitySchema.Text.LetterCase
import Mathlib.Data.List.Basic

/-! ASCII. Letters and digits are of it, and letter case changes in it character by character, so that
a text in either case is in lower case what the text itself is (`lower_lower`, `lower_upper`), and is
in lower case already when it lacks upper-case letters (`lacks_isUpper_iff`). -/
namespace EntitySchema.Text

def IsAscii (s : List Char) : Prop := ∀ c ∈ s, c.toNat < 128

instance (s : List Char) : Decidable (IsAscii s) := List.decidableBAll (fun c : Char => c.toNat < 128) s

/-- What holds of all ASCII characters by evaluation holds of each. -/
theorem forall_ascii {P : Char → Prop} (h : ∀ n < 128, P (Char.ofNat n)) {c : Char}
    (hc : c.toNat < 128) : P c := by
  have := h c.toNat hc
  rwa [Char.ofNat_toNat] at this

theorem isAlpha_eq (c : Char) : c.isAlpha = (c.isUpper || c.isLower) := rfl

theorem ascii_of_isAlphanum {c : Char} (h : c.isAlphanum = true) : c.toNat < 128 := by
  have hclasses : c.isAlphanum = ((decide (c.val ≥ 'A'.val ∧ c.val ≤ 'Z'.val) ||
      (decide (c.val ≥ 'a'.val) && decide (c.val ≤ 'z'.val))) ||
      (decide (c.val ≥ '0'.val) && decide (c.val ≤ '9'.val))) := rfl
  rw [hclasses] at h
  simp only [Bool.or_eq_true, Bool.and_eq_true, decide_eq_true_eq, ge_iff_le,
    UInt32.le_iff_toNat_le] at h
  rcases h with (h | h) | h
  all_goals exact Nat.lt_of_le_of_lt h.2 (by decide)

theorem ascii_of_isAlphanum_or {c : Char} (h : (c.isAlphanum || c == '_') = true) :
    c.toNat < 128 := by
  rw [Bool.or_eq_true, beq_iff_eq] at h
  rcases h with h | rfl
  · exact ascii_of_isAlphanum h
  · decide

variable {s t : List Char}

theorem isAscii_append : IsAscii (s ++ t) ↔ IsAscii s ∧ IsAscii t := List.forall_mem_append

theorem isAscii_take (h : IsAscii s) (n : Nat) : IsAscii (s.take n) :=
  fun c hc => h c (List.mem_of_mem_take hc)

theorem lower_of_ascii (h : IsAscii s) : lower s = s.map Char.toLower := by
  have hafter (before : List Char) : lowerAfter before s = s.map Char.toLower := by
    induction s generalizing before with
    | nil => rfl
    | cons c r ih =>
      obtain ⟨hc, hr⟩ := List.forall_mem_cons.mp h
      have hsigma : c.toNat ≠ 0x3a3 := by omega
      rw [lowerAfter, if_neg hsigma, lowerChar, if_pos hc, ih hr, List.singleton_append,
        List.map_cons]
  exact hafter []

theorem upper_of_ascii (h : IsAscii s) : upper s = s.map Char.toUpper := by
  induction s with
  | nil => rfl
  | cons c r ih =>
    obtain ⟨hc, hr⟩ := List.forall_mem_cons.mp h
    rw [upper, List.flatMap_cons, ← upper, ih hr, upperChar, if_pos hc, List.singleton_append,
      List.map_cons]

theorem lower_append (hs : IsAscii s) (ht : IsAscii t) : lower (s ++ t) = lower s ++ lower t := by
  rw [lower_of_ascii (isAscii_append.mpr ⟨hs, ht⟩), lower_of_ascii hs, lower_of_ascii ht,
    List.map_append]

theorem lower_take (h : IsAscii s) (n : Nat) : lower (s.take n) = (lower s).take n := by
  rw [lower_of_ascii (isAscii_take h n), lower_of_ascii h, List.map_take]

theorem length_lower (h : IsAscii s) : (lower s).length = s.length := by
  rw [lower_of_ascii h, List.length_map]

theorem isAscii_lower (h : IsAscii s) : IsAscii (lower s) := by
  rw [lower_of_ascii h]
  intro c hc
  obtain ⟨d, hd, rfl⟩ := List.mem_map.mp hc
  exact forall_ascii (P := fun c => c.toLower.toNat < 128) (by decide) (h d hd)

theorem isAscii_upper (h : IsAscii s) : IsAscii (upper s) := by
  rw [upper_of_ascii h]
  intro c hc
  obtain ⟨d, hd, rfl⟩ := List.mem_map.mp hc
  exact forall_ascii (P := fun c => c.toUpper.toNat < 128) (by decide) (h d hd)

theorem lower_lower (h : IsAscii s) : lower (lower s) = lower s := by
  rw [lower_of_ascii (isAscii_lower h), lower_of_ascii h, List.map_map]
  exact List.map_congr_left fun c hc =>
    forall_ascii (P := fun c => c.toLower.toLower = c.toLower) (by decide) (h c hc)

theorem lower_upper (h : IsAscii s) : lower (upper s) = lower s := by
  rw [lower_of_ascii (isAscii_upper h), upper_of_ascii h, lower_of_ascii h, List.map_map]
  exact List.map_congr_left fun c hc =>
    forall_ascii (P := fun c => c.toUpper.toLower = c.toLower) (by decide) (h c hc)

theorem upper_upper (h : IsAscii s) : upper (upper s) = upper s := by
  rw [upper_of_ascii (isAscii_upper h), upper_of_ascii h, List.map_map]
  exact List.map_congr_left fun c hc =>
    forall_ascii (P := fun c => c.toUpper.toUpper = c.toUpper) (by decide) (h c hc)

/-- The text is of ASCII and has no character of the class. -/
def Lacks (isClass : Char → Bool) (s : List Char) : Prop :=
  ∀ c ∈ s, c.toNat < 128 ∧ isClass c = false

instance (isClass : Char → Bool) (s : List Char) : Decidable (Lacks isClass s) :=
  List.decidableBAll (fun c : Char => c.toNat < 128 ∧ isClass c = false) s

variable {isClass : Char → Bool}

theorem lacks_append : Lacks isClass (s ++ t) ↔ Lacks isClass s ∧ Lacks isClass t :=
  List.forall_mem_append

/-- A text lacks the characters that a mapping changes when the mapping leaves it as it is. -/
theorem lacks_iff_map {f : Char → Char}
    (hf : ∀ n < 128, isClass (Char.ofNat n) = false ↔ f (Char.ofNat n) = Char.ofNat n) :
    Lacks isClass s ↔ IsAscii s ∧ s.map f = s := by
  have hsame : s.map f = s ↔ ∀ c ∈ s, f c = c := by
    conv_lhs => rhs; rw [← List.map_id s]
    exact List.map_inj_left
  rw [hsame, IsAscii, ← forall₂_and]
  refine forall₂_congr fun c _ => and_congr_right fun hascii => ?_
  exact forall_ascii (P := fun c => isClass c = false ↔ f c = c) hf hascii

theorem lacks_isUpper_iff : Lacks Char.isUpper s ↔ IsAscii s ∧ lower s = s := by
  rw [lacks_iff_map (f := Char.toLower) (by decide)]
  exact and_congr_right fun h => by rw [lower_of_ascii h]

theorem lacks_isLower_iff : Lacks Char.isLower s ↔ IsAscii s ∧ upper s = s := by
  rw [lacks_iff_map (f := Char.toUpper) (by decide)]
  exact and_congr_right fun h => by rw [upper_of_ascii h]

theorem lacks_lower (h : IsAscii s) : Lacks Char.isUpper (lower s) :=
  lacks_isUpper_iff.mpr ⟨isAscii_lower h, lower_lower h⟩

theorem lacks_upper (h : IsAscii s) : Lacks Char.isLower (upper s) :=
  lacks_isLower_iff.mpr ⟨isAscii_upper h, upper_upper h⟩

end EntitySchema.Text
