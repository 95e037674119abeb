import EntitySchema.Proofs.Jdl.Search

/-! The finds of a search and their places in the text. Main statements: each find is read where it
starts (`Finds.exists_of_mem`), starts behind the finds before it (`Finds.pairwise`), and what can be
read at a place that no find covers is a find (`Finds.mem`). Where what is read at each place of a text
does not depend on what follows, the text can be searched on its own (`Splits`). -/
namespace EntitySchema.Jdl

open Text (isWordChar)

/-- A find of a search: the text from its start on, the block, and the text behind it. -/
structure Found (α : Type) where
  start : List Char
  block : α
  behind : List Char
  deriving DecidableEq

/-- The place where `s` starts lies within a find, behind the start of the find. -/
def Found.Covers {α : Type} (f : Found α) (s : List Char) : Prop :=
  f.behind.length < s.length ∧ s.length < f.start.length

variable {α : Type} {read? : Bool → List Char → Option (α × List Char)}

def locate (read? : Bool → List Char → Option (α × List Char)) (afterWord : Bool) (s : List Char) :
    List (Found α) :=
  findBlocks (fun b s => (read? b s).map fun x => (⟨s, x.1, x.2⟩, x.2)) afterWord s

/-- Whether a word character stands at the end of a text; `afterWord` tells whether one stands in front
of the text. -/
def endsInWord (afterWord : Bool) (s : List Char) : Bool := (s.getLast?.map isWordChar).getD afterWord

theorem endsInWord_append (b : Bool) (s t : List Char) :
    endsInWord b (s ++ t) = endsInWord (endsInWord b s) t := by
  rcases List.eq_nil_or_concat t with rfl | ⟨t, c, rfl⟩
  · rw [List.append_nil]
    rfl
  · rw [List.concat_eq_append, ← List.append_assoc]
    simp [endsInWord]

theorem endsInWord_cons (b : Bool) (c : Char) (s : List Char) :
    endsInWord b (c :: s) = endsInWord (isWordChar c) s :=
  endsInWord_append b [c] s

theorem endsInWord_brace (b : Bool) (s : List Char) : endsInWord b (s ++ ['}']) = false := by
  rw [endsInWord_append]
  exact (by decide : isWordChar '}' = false)

/-- A search whose finds end with a closing brace; the last may take the rest of the text instead. -/
structure Closing (read? : Bool → List Char → Option (α × List Char)) : Prop where
  shape : ∀ {b : Bool} {s rest : List Char} {a : α}, read? b s = some (a, rest) →
    (∃ front, s = front ++ '}' :: rest) ∨ s ≠ [] ∧ rest = []

theorem Closing.suffix (h : Closing read?) {b : Bool} {s rest : List Char} {a : α}
    (hr : read? b s = some (a, rest)) : rest <:+ s := by
  rcases h.shape hr with ⟨front, rfl⟩ | ⟨-, rfl⟩
  · exact ⟨front ++ ['}'], List.append_assoc _ _ _⟩
  · exact List.nil_suffix

theorem Closing.length_lt (h : Closing read?) {b : Bool} {s rest : List Char} {a : α}
    (hr : read? b s = some (a, rest)) : rest.length < s.length := by
  rcases h.shape hr with ⟨front, rfl⟩ | ⟨hs, rfl⟩
  · simp only [List.length_append, List.length_cons]
    omega
  · exact List.length_pos_of_ne_nil hs

/-- The run of a search: it goes on at the next character where it reads nothing, and behind what it
finds. -/
inductive Finds (read? : Bool → List Char → Option (α × List Char)) :
    Bool → List Char → List (Found α) → Prop
  | nil {b : Bool} : Finds read? b [] []
  | skip {b : Bool} {c : Char} {r : List Char} {fs : List (Found α)} (hr : read? b (c :: r) = none)
    (later : Finds read? (isWordChar c) r fs) : Finds read? b (c :: r) fs
  | find {b : Bool} {s rest : List Char} {a : α} {fs : List (Found α)}
    (hr : read? b s = some (a, rest)) (later : Finds read? false rest fs) :
    Finds read? b s (⟨s, a, rest⟩ :: fs)

theorem finds_locate (h : Closing read?) (b : Bool) (s : List Char) :
    Finds read? b s (locate read? b s) := by
  unfold locate
  fun_induction findBlocks (fun b s => (read? b s).map fun x => ((⟨s, x.1, x.2⟩ : Found α), x.2)) b s with
  | case1 => exact .nil
  | case2 b c r f rest hr hlt ih =>
    rw [Option.map_eq_some_iff] at hr
    obtain ⟨x, hx, hf⟩ := hr
    obtain ⟨rfl, rfl⟩ := Prod.mk.inj hf
    exact .find hx ih
  | case3 b c r f rest hr hlt =>
    rw [Option.map_eq_some_iff] at hr
    obtain ⟨x, hx, hf⟩ := hr
    obtain ⟨rfl, rfl⟩ := Prod.mk.inj hf
    exact absurd (h.length_lt hx) hlt
  | case4 b c r hr ih => exact .skip (Option.map_eq_none_iff.mp hr) ih

/-- The blocks of the finds are those that the search returns. -/
theorem Finds.findBlocks_eq (h : Closing read?) {b : Bool} {s : List Char} {fs : List (Found α)}
    (hf : Finds read? b s fs) : findBlocks read? b s = fs.map Found.block := by
  induction hf with
  | nil => simp [findBlocks]
  | skip hr later ih => rw [findBlocks_cons_of_none hr, ih]
  | find hr later ih => rw [findBlocks_of_some hr (h.length_lt hr), ih, List.map_cons]

theorem Finds.exists_of_mem (h : Closing read?) {b : Bool} {s : List Char} {fs : List (Found α)}
    (hrun : Finds read? b s fs) {f : Found α} (hf : f ∈ fs) : ∃ before, s = before ++ f.start ∧
      read? (endsInWord b before) f.start = some (f.block, f.behind) := by
  induction hrun with
  | nil => cases hf
  | @skip b c r fs hr later ih =>
    obtain ⟨before, hbefore, hread⟩ := ih hf
    exact ⟨c :: before, by rw [hbefore, List.cons_append], by rwa [endsInWord_cons]⟩
  | @find b s rest a fs hr later ih =>
    rcases List.mem_cons.mp hf with rfl | hf
    · exact ⟨[], rfl, hr⟩
    · obtain ⟨before, hbefore, hread⟩ := ih hf
      rcases h.shape hr with ⟨front, rfl⟩ | ⟨-, rfl⟩
      · refine ⟨front ++ ['}'] ++ before, by simp [hbefore], ?_⟩
        rwa [endsInWord_append, endsInWord_brace]
      · have hlt := h.length_lt hread
        simp [(List.append_eq_nil_iff.mp hbefore.symm).2] at hlt

theorem Finds.behind_last {b : Bool} {s : List Char} {fs : List (Found α)}
    (hrun : Finds read? b s fs) {last : Found α} (hlast : fs.getLast? = some last) :
    Finds read? false last.behind [] := by
  induction hrun with
  | nil => cases hlast
  | skip hr later ih => exact ih hlast
  | @find b s rest a fs hr later ih =>
    cases fs with
    | nil => exact Option.some.inj hlast ▸ later
    | cons f fs => exact ih (by simpa using hlast)

/-- Finds do not overlap: each starts behind those before it. -/
theorem Finds.pairwise (h : Closing read?) {b : Bool} {s : List Char} {fs : List (Found α)}
    (hrun : Finds read? b s fs) : fs.Pairwise fun f g => g.start <:+ f.behind := by
  induction hrun with
  | nil => exact .nil
  | skip hr later ih => exact ih
  | find hr later ih =>
    refine .cons (fun g hg => ?_) ih
    obtain ⟨before, hbefore, -⟩ := later.exists_of_mem h hg
    exact ⟨before, hbefore.symm⟩

/-- What can be read at a place that no find covers is a find. -/
theorem Finds.mem (h : Closing read?) {b : Bool} {before s rest : List Char} {a : α}
    {fs : List (Found α)} (hrun : Finds read? b (before ++ s) fs)
    (hr : read? (endsInWord b before) s = some (a, rest)) (hout : ∀ f ∈ fs, ¬f.Covers s) :
    ⟨s, a, rest⟩ ∈ fs := by
  generalize hs : before ++ s = t at hrun
  have hpos : 0 < s.length := Nat.zero_lt_of_lt (h.length_lt hr)
  induction hrun generalizing before with
  | nil => simp [List.append_eq_nil_iff.mp hs] at hpos
  | @skip b c r fs hnone later ih =>
    cases before with
    | nil =>
      rw [List.nil_append] at hs
      rw [hs] at hr
      simp [endsInWord, hnone] at hr
    | cons d before =>
      obtain ⟨rfl, hs'⟩ := List.cons.inj hs
      rw [endsInWord_cons] at hr
      exact ih hr hout hs'
  | @find b t rest' a' fs hr' later ih =>
    have hout' : ∀ f ∈ fs, ¬f.Covers s := fun f hf => hout f (List.mem_cons_of_mem _ hf)
    cases before with
    | nil =>
      obtain rfl : s = t := hs
      have hsame := Option.some.inj (hr.symm.trans hr')
      obtain ⟨rfl, rfl⟩ := Prod.mk.inj hsame
      exact List.mem_cons_self
    | cons d before =>
      have hstart : s.length < t.length := by
        rw [← hs, List.length_append, List.length_cons]
        omega
      have hbehind : s.length ≤ rest'.length := by
        by_contra hlt
        exact hout _ List.mem_cons_self ⟨Nat.lt_of_not_le hlt, hstart⟩
      rcases h.shape hr' with ⟨front, ht⟩ | ⟨-, rfl⟩
      · obtain ⟨middle, hmiddle⟩ := List.suffix_of_suffix_length_le ⟨_, hs⟩ (h.suffix hr') hbehind
        have hbefore : d :: before = front ++ ['}'] ++ middle := by
          rw [← List.append_left_inj s]
          rw [hs, ht, ← hmiddle]
          simp
        rw [hbefore, endsInWord_append, endsInWord_brace] at hr
        exact List.mem_cons_of_mem _ (ih hr hout' hmiddle)
      · rw [List.length_nil] at hbehind
        omega

/-- The blocks of a text with another one behind it are those of the first and then those of the
second. -/
def Splits (read? : Bool → List Char → Option (α × List Char)) (b : Bool) (s t : List Char) : Prop :=
  findBlocks read? b (s ++ t) = findBlocks read? b s ++ findBlocks read? (endsInWord b s) t

theorem splits_nil (read? : Bool → List Char → Option (α × List Char)) (b : Bool) (t : List Char) :
    Splits read? b [] t := by
  rw [Splits, findBlocks]
  rfl

theorem Splits.skip {b : Bool} {c : Char} {s t : List Char}
    (hnone : ∀ u, read? b (c :: (s ++ u)) = none) (h : Splits read? (isWordChar c) s t) :
    Splits read? b (c :: s) t := by
  have hself := hnone []
  rw [List.append_nil] at hself
  rw [Splits, List.cons_append, findBlocks_cons_of_none (hnone t), findBlocks_cons_of_none hself,
    endsInWord_cons, h]

theorem Splits.find (hclosing : Closing read?) {b : Bool} {a : α} {s front rest t : List Char}
    (hs : s = front ++ '}' :: rest) (hsome : ∀ u, read? b (s ++ u) = some (a, rest ++ u))
    (h : Splits read? false rest t) : Splits read? b s t := by
  have hself := hsome []
  rw [List.append_nil, List.append_nil] at hself
  have hends : endsInWord b s = endsInWord false rest := by
    rw [hs, ← List.singleton_append, ← List.append_assoc, endsInWord_append, endsInWord_brace]
  rw [Splits, findBlocks_of_some (hsome t) (hclosing.length_lt (hsome t)),
    findBlocks_of_some hself (hclosing.length_lt hself), hends, h, List.cons_append]

end EntitySchema.Jdl
