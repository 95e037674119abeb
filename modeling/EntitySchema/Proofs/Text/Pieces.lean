import EntitySchema.Text.Blank
import EntitySchema.Text.Lines
import Mathlib.Data.List.Basic
import Mathlib.Data.List.TakeWhile

/-! Trimmed pieces of a text. Main statements: what is trimmed has no blank at its ends
(`head?_trim`, `getLast?_trim`), and the pieces of a text are those before a separator, then those
after it (`pieces_append_cons`). -/
namespace EntitySchema.Text

def pieces (isSeparator : Char → Bool) (s : List Char) : List (List Char) :=
  ((splitAll isSeparator s).map trim).filter (· ≠ [])

theorem head?_dropWhile {p : Char → Bool} {s : List Char} {c : Char}
    (h : (s.dropWhile p).head? = some c) : p c = false := by
  induction s with
  | nil => simp at h
  | cons a r ih =>
    by_cases ha : p a = true
    · exact ih (by rwa [List.dropWhile_cons_of_pos ha] at h)
    · rw [List.dropWhile_cons_of_neg ha, List.head?_cons, Option.some.injEq] at h
      simpa [← h] using ha

theorem trimEnd_prefix (s : List Char) : trimEnd s <+: s := by
  rw [trimEnd, ← List.reverse_suffix, List.reverse_reverse]
  exact List.dropWhile_suffix isBlank

theorem head?_trim {s : List Char} {c : Char} (h : (trim s).head? = some c) :
    isBlank c = false := by
  obtain ⟨t, ht⟩ := trimEnd_prefix (trimStart s)
  apply head?_dropWhile (p := isBlank) (s := s)
  rw [← trimStart, ← ht, List.head?_append]
  simp only [trim] at h
  rw [h, Option.some_or]

theorem getLast?_trim {s : List Char} {c : Char} (h : (trim s).getLast? = some c) :
    isBlank c = false := by
  rw [trim, trimEnd, List.getLast?_reverse] at h
  exact head?_dropWhile h

theorem trimStart_of_head? {s : List Char} (h : ∀ c, s.head? = some c → isBlank c = false) :
    trimStart s = s := by
  cases s with
  | nil => rfl
  | cons c r => exact List.dropWhile_cons_of_neg (by simp [h c rfl])

theorem trimEnd_of_getLast? {s : List Char} (h : ∀ c, s.getLast? = some c → isBlank c = false) :
    trimEnd s = s := by
  have : s.reverse.dropWhile isBlank = s.reverse :=
    trimStart_of_head? fun c hc => h c (by rwa [List.head?_reverse] at hc)
  rw [trimEnd, this, List.reverse_reverse]

theorem trim_of_ends {s : List Char} (hs : ∀ c, s.head? = some c → isBlank c = false)
    (he : ∀ c, s.getLast? = some c → isBlank c = false) : trim s = s := by
  rw [trim, trimStart_of_head? hs, trimEnd_of_getLast? he]

/-- A text that starts and ends in other characters than blanks is trimmed, whatever it holds
between. -/
theorem trim_between {u w : List Char} (hu : ∀ c ∈ u, isBlank c = false) (hu0 : u ≠ [])
    (hw : ∀ c ∈ w, isBlank c = false) (hw0 : w ≠ []) (v : List Char) :
    trim (u ++ (v ++ w)) = u ++ (v ++ w) := by
  apply trim_of_ends
  · intro c hc
    rw [List.head?_append_of_ne_nil u hu0] at hc
    exact hu c (List.mem_of_head? hc)
  · intro c hc
    rw [← List.append_assoc, List.getLast?_append_of_ne_nil _ hw0] at hc
    exact hw c (List.mem_of_getLast? hc)

theorem trim_cons_of_blank {c : Char} (h : isBlank c = true) (s : List Char) :
    trim (c :: s) = trim s := by
  rw [trim, trimStart, List.dropWhile_cons_of_pos h]
  rfl

theorem splitAll_ne_nil (p : Char → Bool) (s : List Char) : splitAll p s ≠ [] := by
  cases s with
  | nil => simp [splitAll]
  | cons c r =>
    unfold splitAll
    split
    · simp
    · split <;> simp

/-- The pieces of a text, none with a separator in it, where one separator stands between each two. -/
inductive IsSplit (isSeparator : Char → Bool) : List Char → List (List Char) → Prop
  | last {s : List Char} (h : ∀ c ∈ s, isSeparator c = false) : IsSplit isSeparator s [s]
  | cons {s r : List Char} {c : Char} {pieces : List (List Char)}
    (h : ∀ d ∈ s, isSeparator d = false) (hc : isSeparator c = true)
    (rest : IsSplit isSeparator r pieces) : IsSplit isSeparator (s ++ c :: r) (s :: pieces)

/-- A character in front of a split text lengthens its first piece. -/
theorem IsSplit.cons_head {p : Char → Bool} {c : Char} (hc : p c = false) {s piece : List Char}
    {rest : List (List Char)} (h : IsSplit p s (piece :: rest)) :
    IsSplit p (c :: s) ((c :: piece) :: rest) := by
  cases h with
  | last h => exact .last (List.forall_mem_cons.mpr ⟨hc, h⟩)
  | cons h hd later => exact .cons (s := c :: piece) (List.forall_mem_cons.mpr ⟨hc, h⟩) hd later

theorem isSplit_splitAll (p : Char → Bool) (s : List Char) : IsSplit p s (splitAll p s) := by
  induction s with
  | nil => exact .last (by simp)
  | cons c s ih =>
    rw [splitAll]
    by_cases hc : p c = true
    · rw [if_pos hc]
      exact .cons (s := []) (by simp) hc ih
    · rw [if_neg hc]
      cases hs : splitAll p s with
      | nil => exact absurd hs (splitAll_ne_nil p s)
      | cons piece rest =>
        rw [hs] at ih
        exact ih.cons_head (by simpa using hc)

theorem splitAll_append_cons {p : Char → Bool} {c : Char} (h : p c = true) (u v : List Char) :
    splitAll p (u ++ c :: v) = splitAll p u ++ splitAll p v := by
  induction u with
  | nil => simp [splitAll, h]
  | cons a u ih =>
    obtain ⟨piece, rest, hu⟩ := List.exists_cons_of_ne_nil (splitAll_ne_nil p u)
    by_cases ha : p a = true
    · simp [splitAll, ha, ih]
    · simp [splitAll, ha, ih, hu]

theorem splitAll_of_none {p : Char → Bool} {s : List Char} (h : ∀ c ∈ s, p c = false) :
    splitAll p s = [s] := by
  induction s with
  | nil => rfl
  | cons c r ih => simp [splitAll, h c (by simp), ih fun d hd => h d (by simp [hd])]

theorem pieces_append_cons {p : Char → Bool} {c : Char} (h : p c = true) (u v : List Char) :
    pieces p (u ++ c :: v) = pieces p u ++ pieces p v := by
  simp [pieces, splitAll_append_cons h]

@[simp] theorem pieces_nil (p : Char → Bool) : pieces p [] = [] := by
  simp [pieces, splitAll, trim, trimStart, trimEnd]

/-- Blanks at the start make no difference, whether they are separators or not. -/
theorem pieces_cons_of_blank {c : Char} (h : isBlank c = true) (p : Char → Bool) (s : List Char) :
    pieces p (c :: s) = pieces p s := by
  by_cases hc : p c = true
  · have := pieces_append_cons hc [] s
    rwa [pieces_nil, List.nil_append, List.nil_append] at this
  · obtain ⟨piece, rest, hs⟩ := List.exists_cons_of_ne_nil (splitAll_ne_nil p s)
    simp [pieces, splitAll, hc, hs, trim_cons_of_blank h]

theorem pieces_append_of_blank {u : List Char} (h : ∀ c ∈ u, isBlank c = true) (p : Char → Bool)
    (s : List Char) : pieces p (u ++ s) = pieces p s := by
  induction u with
  | nil => rfl
  | cons c u ih =>
    rw [List.cons_append, pieces_cons_of_blank (h c (by simp)), ih fun d hd => h d (by simp [hd])]

theorem pieces_dropWhile (p : Char → Bool) (s : List Char) :
    pieces p (s.dropWhile isBlank) = pieces p s := by
  have h := pieces_append_of_blank (u := s.takeWhile isBlank)
    (fun c hc => List.mem_takeWhile_imp hc) p (s.dropWhile isBlank)
  rw [List.takeWhile_append_dropWhile] at h
  exact h.symm

theorem pieces_of_none {p : Char → Bool} {s : List Char} (h : ∀ c ∈ s, p c = false)
    (hn : s ≠ []) (ht : trim s = s) : pieces p s = [s] := by
  simp [pieces, splitAll_of_none h, ht, hn]

end EntitySchema.Text
