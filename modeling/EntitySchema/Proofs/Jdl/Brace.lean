import EntitySchema.Jdl.Brace
import Mathlib.Data.List.Basic
import Mathlib.Order.Bounds.Basic
import Mathlib.Tactic.SplitIfs

/-! Matching braces. A cursor looks for a closing brace by single steps (`findClosing_eq`), and after
any number of them its depth is the depth at the start plus the balance of what it has read
(`Steps.shape`). So it stops behind the first brace with which the depth is used up, or at the end of
a text without one (`findClosing_matching`). Blocks are split at that brace
(`splitAtClosing?_drop_iff`). -/
namespace EntitySchema.Jdl

/-- How many more braces a text opens than it closes. -/
def balance (s : List Char) : Int := s.count '{' - s.count '}'

theorem balance_nil : balance [] = 0 := rfl

theorem balance_cons (c : Char) (s : List Char) : balance (c :: s) = depthChange c + balance s := by
  by_cases hopen : c = '{'
  · subst hopen
    simp [balance, depthChange]
    omega
  · by_cases hclose : c = '}'
    · subst hclose
      simp [balance, depthChange]
      omega
    · simp [balance, depthChange, hopen, hclose]

/-- A character takes at most one from the depth. -/
theorem neg_one_le_depthChange (c : Char) : -1 ≤ depthChange c := by
  unfold depthChange
  split_ifs <;> decide

/-- At place `e` the text from `start` on has closed `depth` more braces than it has opened. -/
def Closes (text : List Char) (start : Nat) (depth : Int) (e : Nat) : Prop :=
  start ≤ e ∧ e < text.length ∧
    ((text.extract start (e + 1)).count '}' : Int) = (text.extract start (e + 1)).count '{' + depth

/-- A place closes what is open exactly when the balance up to it takes the depth to zero. -/
theorem closes_iff {text : List Char} {start e : Nat} {depth : Int} :
    Closes text start depth e ↔ start ≤ e ∧ e < text.length ∧
      depth + balance (text.extract start (e + 1)) = 0 := by
  rw [Closes, balance]
  apply and_congr_right'
  apply and_congr_right'
  omega

namespace BraceCursor

def ReadsOn (c : BraceCursor) : Prop := 0 < c.depth ∧ ¬c.exhausted

instance (c : BraceCursor) : Decidable c.ReadsOn := inferInstanceAs (Decidable (_ ∧ _))

def closing? (c : BraceCursor) : Option Int := if c.depth = 0 then some (c.position - 1) else none

variable {c : BraceCursor} {x : Char} {r s : List Char}

/-- Behind a character that it takes, a cursor meets what followed the character. -/
theorem upcoming?_next (h : c.upcoming? = some (x :: r)) (depth : Int) :
    upcoming? ⟨c.text, c.position + 1, depth⟩ = some r := by
  unfold upcoming? at h ⊢
  dsimp only
  split_ifs at h with hpos hneg
  · have htail := congrArg List.tail (Option.some.inj h)
    rw [List.tail_drop, List.tail_cons] at htail
    have hnext : (c.position + 1).toNat = c.position.toNat + 1 := by omega
    rw [if_pos (by omega), hnext, htail]
  · -- A negative position stands before the end of the text, and meets all of it behind that end.
    have hlt : (c.text.length + c.position).toNat < c.text.length := by omega
    rw [List.drop_eq_getElem_cons hlt, List.cons_append] at h
    have hrest := (List.cons.inj (Option.some.inj h)).2
    by_cases hlast : c.position = -1
    · have hend : (c.text.length + c.position).toNat + 1 = c.text.length := by omega
      have hstart : (c.position + 1).toNat = 0 := by omega
      rw [hend, List.drop_length, List.nil_append] at hrest
      rw [if_pos (by omega), hstart, List.drop_zero, hrest]
    · have hnext : (c.text.length + (c.position + 1)).toNat =
          (c.text.length + c.position).toNat + 1 := by omega
      rw [if_neg (by omega), if_pos (by omega), hnext, hrest]

/-- A cursor within its text has exhausted it exactly when it meets nothing more. -/
theorem exhausted_iff (h : c.upcoming? = some s) : c.exhausted = true ↔ s = [] := by
  unfold upcoming? at h
  rw [exhausted, decide_eq_true_eq]
  split_ifs at h with hpos hneg
  · rw [← Option.some.inj h, List.drop_eq_nil_iff]
    omega
  · rw [← Option.some.inj h, List.append_eq_nil_iff, ← List.length_eq_zero_iff (l := c.text)]
    omega

theorem findClosing_of_not_readsOn (h : ¬c.ReadsOn) : c.findClosing = .ok (c.closing?, c) :=
  if_neg h

theorem readToClosing_of_not_readsOn (h : ¬c.ReadsOn) (hup : c.upcoming? = some s) :
    readToClosing c.depth s = (0, c.depth) := by
  cases s with
  | nil => rfl
  | cons x r =>
    have hleft : ¬c.exhausted := fun he => by simpa using (exhausted_iff hup).mp he
    rw [readToClosing, if_neg fun hdepth => h ⟨hdepth, hleft⟩]

/-- Where a search comes to that meets some text. -/
theorem findClosing_of_upcoming (hup : c.upcoming? = some s) :
    c.findClosing =
      let after : BraceCursor :=
        ⟨c.text, c.position + (readToClosing c.depth s).1, (readToClosing c.depth s).2⟩
      .ok (after.closing?, after) := by
  by_cases hmore : c.ReadsOn
  · have hopen : 0 < c.depth ∧ ¬c.exhausted := hmore
    rw [findClosing, if_pos hopen, hup]
    rfl
  · have hread := readToClosing_of_not_readsOn hmore hup
    rw [findClosing_of_not_readsOn hmore, hread]
    simp

/-- The search for a closing brace is a loop of single steps. -/
theorem findClosing_eq (c : BraceCursor) :
    c.findClosing = if c.ReadsOn then c.step >>= fun x => x.2.findClosing
      else .ok (c.closing?, c) := by
  split_ifs with hmore
  · cases hup : c.upcoming? with
    | none =>
      have hopen : 0 < c.depth ∧ ¬c.exhausted := hmore
      rw [findClosing, if_pos hopen, step, hup]
      rfl
    | some s =>
      cases s with
      | nil => exact absurd ((exhausted_iff hup).mpr rfl) hmore.2
      | cons x r =>
        have hstep : c.step = .ok (x, ⟨c.text, c.position + 1, c.depth + depthChange x⟩) := by
          rw [step, hup]
        have hnext := upcoming?_next hup (c.depth + depthChange x)
        rw [hstep, findClosing_of_upcoming hup, readToClosing, if_pos hmore.1]
        change _ = findClosing ⟨c.text, c.position + 1, c.depth + depthChange x⟩
        rw [findClosing_of_upcoming hnext]
        simp only [Int.natCast_add, Int.cast_ofNat_Int, Int.add_assoc, Int.add_comm 1]
  · exact findClosing_of_not_readsOn hmore

/-- A number of steps of a search, each from where it reads on. -/
inductive Steps : Nat → BraceCursor → BraceCursor → Prop
  | refl (c : BraceCursor) : Steps 0 c c
  | next {n : Nat} {c c' after : BraceCursor} {x : Char} (hmore : c.ReadsOn)
      (hstep : c.step = .ok (x, c')) (hrest : Steps n c' after) : Steps (n + 1) c after

theorem Steps.findClosing_eq {n : Nat} {c after : BraceCursor} (h : Steps n c after) :
    c.findClosing = after.findClosing := by
  induction h with
  | refl => rfl
  | next hmore hstep _ ih =>
    rw [BraceCursor.findClosing_eq, if_pos hmore, hstep]
    exact ih

section Within

/-! A cursor within its text. -/

variable {text : List Char} {start n : Nat} {depth : Int} {after : BraceCursor}

theorem readsOn_iff : ReadsOn ⟨text, start, depth⟩ ↔ 0 < depth ∧ start < text.length := by
  simp [ReadsOn, exhausted]

theorem step_eq (h : start < text.length) :
    step ⟨text, start, depth⟩ =
      .ok (text[start], ⟨text, (start + 1 : Nat), depth + depthChange text[start]⟩) := by
  have hup : upcoming? ⟨text, start, depth⟩ = some (text[start] :: text.drop (start + 1)) := by
    rw [upcoming?, if_pos (by simp), Int.toNat_natCast, List.drop_eq_getElem_cons h]
  rw [step, hup]
  rfl

theorem extract_succ (h : start < text.length) (n : Nat) :
    text.extract start (start + (n + 1)) =
      text[start] :: text.extract (start + 1) (start + 1 + n) := by
  rw [List.extract_eq_take_drop, List.extract_eq_take_drop, Nat.add_sub_cancel_left,
    Nat.add_sub_cancel_left, List.drop_eq_getElem_cons h, List.take_succ_cons]

/-- Where a search has come to after some steps: the depth has changed by the balance of what it has
read, was positive before each step and is not negative. -/
theorem Steps.shape (h : Steps n ⟨text, start, depth⟩ after) (hstart : start ≤ text.length)
    (hdepth : 0 ≤ depth) :
    after = ⟨text, (start + n : Nat), depth + balance (text.extract start (start + n))⟩ ∧
      start + n ≤ text.length ∧ 0 ≤ after.depth ∧
      ∀ k < n, 0 < depth + balance (text.extract start (start + k)) := by
  induction n generalizing start depth with
  | zero =>
    cases h
    simp [balance_nil, hstart, hdepth]
  | succ n ih =>
    cases h with
    | next hmore hstep hrest =>
      obtain ⟨hopen, hlt⟩ := readsOn_iff.mp hmore
      rw [step_eq hlt, Except.ok.injEq, Prod.mk.injEq] at hstep
      rw [← hstep.2] at hrest
      have hchange := neg_one_le_depthChange text[start]
      obtain ⟨hafter, hle, hnonneg, hpositive⟩ := ih hrest hlt (by omega)
      have hwhere : start + 1 + n = start + (n + 1) := by omega
      refine ⟨?_, by omega, hnonneg, fun k hk => ?_⟩
      · rw [hafter, extract_succ hlt, balance_cons, hwhere, Int.add_assoc]
      · cases k with
        | zero => simpa [balance_nil] using hopen
        | succ k =>
          rw [extract_succ hlt, balance_cons, ← Int.add_assoc]
          exact hpositive k (by omega)

theorem exists_steps (hstart : start ≤ text.length) (depth : Int) :
    ∃ n after, Steps n ⟨text, start, depth⟩ after ∧ ¬after.ReadsOn := by
  induction hleft : text.length - start generalizing start depth with
  | zero => exact ⟨0, _, .refl _, fun h => by have := (readsOn_iff.mp h).2; omega⟩
  | succ m ih =>
    by_cases hmore : ReadsOn ⟨text, start, depth⟩
    · have hlt := (readsOn_iff.mp hmore).2
      have hlater : start + 1 ≤ text.length := hlt
      obtain ⟨n, after, hsteps, hstop⟩ :=
        ih hlater (depth + depthChange text[start]) (by omega)
      exact ⟨n + 1, after, .next hmore (step_eq hlt) hsteps, hstop⟩
    · exact ⟨0, _, .refl _, hmore⟩

/-- Where the depth is used up, the search stands behind the first place that closes what is open. -/
theorem Steps.found (h : Steps n ⟨text, start, depth⟩ after) (hstart : start ≤ text.length)
    (hdepth : 0 < depth) (hzero : after.depth = 0) :
    ∃ e : Nat, IsLeast {k | Closes text start depth k} e ∧ after = ⟨text, e + 1, 0⟩ := by
  obtain ⟨rfl, hle, -, hpositive⟩ := h.shape hstart hdepth.le
  dsimp only at hzero
  cases n with
  | zero =>
    simp only [Nat.add_zero, List.extract_eq_take_drop, Nat.sub_self, List.take_zero,
      balance_nil] at hzero
    omega
  | succ m =>
    refine ⟨start + m, ⟨closes_iff.mpr ⟨by omega, by omega, hzero⟩, fun k hk => ?_⟩, ?_⟩
    · obtain ⟨hfrom, -, hclosed⟩ := closes_iff.mp hk
      by_contra hless
      obtain ⟨i, rfl⟩ := Nat.exists_eq_add_of_le hfrom
      have hstill := hpositive (i + 1) (by omega)
      rw [← Nat.add_assoc, hclosed] at hstill
      exact absurd hstill (lt_irrefl 0)
    · rw [hzero]
      rfl

/-- Where the depth is not used up, the search has met the end of the text and no place closes what
is open. -/
theorem Steps.missing (h : Steps n ⟨text, start, depth⟩ after) (hstart : start ≤ text.length)
    (hdepth : 0 < depth) (hstop : ¬after.ReadsOn) (hopen : after.depth ≠ 0) :
    (∀ e, ¬Closes text start depth e) ∧
      after = ⟨text, text.length, depth + balance (text.drop start)⟩ := by
  obtain ⟨rfl, hle, hnonneg, hpositive⟩ := h.shape hstart hdepth.le
  dsimp only at hopen hnonneg
  have hend : start + n = text.length := by
    rw [readsOn_iff] at hstop
    omega
  have hrest : text.extract start (start + n) = text.drop start := by
    rw [List.extract_eq_take_drop, hend, ← List.length_drop, List.take_length]
  refine ⟨fun e he => ?_, by rw [hrest, hend]⟩
  obtain ⟨hfrom, hlt, hclosed⟩ := closes_iff.mp he
  obtain ⟨i, rfl⟩ := Nat.exists_eq_add_of_le hfrom
  rw [Nat.add_assoc] at hclosed
  rcases Nat.lt_or_eq_of_le (show i + 1 ≤ n by omega) with hbefore | rfl
  · have hstill := hpositive (i + 1) hbefore
    omega
  · exact hopen hclosed

/-- From a place within the text and with something open, the search for the closing brace comes to
its end, after no more steps than there are characters left. It answers with the first place that
closes what is open and stands behind that place, or with none where there is none and stands at the
end of the text. A second search changes nothing. -/
theorem findClosing_matching (hstart : start ≤ text.length) (hdepth : 1 ≤ depth) :
    ∃ n result after, n ≤ text.length - start ∧ Steps n ⟨text, start, depth⟩ after ∧
      ¬after.ReadsOn ∧ findClosing ⟨text, start, depth⟩ = .ok (result, after) ∧
      (∀ e : Int, result = some e ↔
        ∃ k : Nat, e = k ∧ IsLeast {k | Closes text start depth k} k) ∧
      (∀ e, result = some e → after = ⟨text, e + 1, 0⟩) ∧
      (result = none ↔ ∀ e, ¬Closes text start depth e) ∧
      (result = none → after = ⟨text, text.length, depth + balance (text.drop start)⟩) ∧
      findClosing after = .ok (result, after) := by
  obtain ⟨n, after, hsteps, hstop⟩ := exists_steps hstart depth
  have hagain := findClosing_of_not_readsOn hstop
  have hfirst := hsteps.findClosing_eq.trans hagain
  have hle : n ≤ text.length - start := by
    have := (hsteps.shape hstart (by omega)).2.1
    omega
  refine ⟨n, after.closing?, after, hle, hsteps, hstop, hfirst, ?_⟩
  by_cases hzero : after.depth = 0
  · obtain ⟨e, hleast, rfl⟩ := hsteps.found hstart hdepth hzero
    have hresult : closing? ⟨text, e + 1, 0⟩ = some (e : Int) := by simp [closing?]
    rw [hresult] at hagain ⊢
    refine ⟨fun d => ⟨?_, ?_⟩, ?_, ?_, ?_, hagain⟩
    · intro hd
      exact ⟨e, (Option.some.inj hd).symm, hleast⟩
    · rintro ⟨k, rfl, hk⟩
      rw [hleast.unique hk]
    · intro d hd
      rw [Option.some.inj hd]
    · simpa using ⟨e, hleast.1⟩
    · simp
  · obtain ⟨hnone, hafter⟩ := hsteps.missing hstart hdepth hstop hzero
    have hresult : after.closing? = none := if_neg hzero
    rw [hresult] at hagain ⊢
    refine ⟨fun d => ⟨by simp, ?_⟩, by simp, by simpa using hnone, fun _ => hafter, hagain⟩
    rintro ⟨k, -, hk⟩
    exact absurd hk.1 (hnone k)

/-- A block with another one in it, and the same block without its last brace. -/
theorem findClosing_matching_nested :
    let closed := "x\x7ba{b}c\x7dd".toList
    let cut := "x\x7ba{b}c".toList
    (1 : Int) ≤ 1 ∧
      (2 ≤ closed.length ∧ findClosing ⟨closed, 2, 1⟩ = .ok (some 7, ⟨closed, 8, 0⟩) ∧
        IsLeast {k | Closes closed 2 1 k} 7) ∧
      2 ≤ cut.length ∧ findClosing ⟨cut, 2, 1⟩ = .ok (none, ⟨cut, 7, 1⟩) ∧
        ∀ e, ¬Closes cut 2 1 e := by
  intro closed cut
  have hone : (1 : Int) ≤ 1 := by decide
  have hclosed : 2 ≤ closed.length := by decide
  have hcut : 2 ≤ cut.length := by decide
  have hfound : findClosing ⟨closed, 2, 1⟩ = .ok (some 7, ⟨closed, 8, 0⟩) := by rfl
  have hmissing : findClosing ⟨cut, 2, 1⟩ = .ok (none, ⟨cut, 7, 1⟩) := by rfl
  refine ⟨hone, ⟨hclosed, hfound, ?_⟩, hcut, hmissing, ?_⟩
  · obtain ⟨-, result, after, -, -, -, hfirst, hsome, -⟩ := findClosing_matching hclosed hone
    have hresult := Except.ok.inj (hfirst.symm.trans hfound)
    obtain ⟨k, hk, hleast⟩ := (hsome 7).mp (congrArg Prod.fst hresult)
    have hplace : k = 7 := by omega
    exact hplace ▸ hleast
  · obtain ⟨-, result, after, -, -, -, hfirst, -, -, hnone, -⟩ := findClosing_matching hcut hone
    have hresult := Except.ok.inj (hfirst.symm.trans hmissing)
    exact hnone.mp (congrArg Prod.fst hresult)

end Within

end BraceCursor

/-- A block is split at the first place that closes it. -/
theorem splitAtClosing?_drop_iff {text body rest : List Char} {start : Nat}
    (hstart : start ≤ text.length) :
    splitAtClosing? (text.drop start) = some (body, rest) ↔
      ∃ e : Nat, IsLeast {k | Closes text start 1 k} e ∧ body = text.extract start e ∧
        rest = text.drop (e + 1) := by
  obtain ⟨n, after, hsteps, hstop⟩ := BraceCursor.exists_steps hstart 1
  have hup : BraceCursor.upcoming? ⟨text, start, 1⟩ = some (text.drop start) := by
    rw [BraceCursor.upcoming?, if_pos (by simp), Int.toNat_natCast]
  have hrun := hsteps.findClosing_eq.trans (BraceCursor.findClosing_of_not_readsOn hstop)
  have hread := BraceCursor.findClosing_of_upcoming hup
  have hafter := congrArg Prod.snd (Except.ok.inj (hrun.symm.trans hread))
  dsimp only at hafter
  simp only [splitAtClosing?]
  by_cases hzero : after.depth = 0
  · obtain ⟨e, hleast, rfl⟩ := hsteps.found hstart Int.one_pos hzero
    obtain ⟨-, hposition, hdepth⟩ := BraceCursor.mk.inj hafter
    have hfrom : start ≤ e := hleast.1.1
    have hlength : (readToClosing 1 (text.drop start)).1 = e - start + 1 := by omega
    have hbehind : start + (e - start + 1) = e + 1 := by omega
    rw [if_pos hdepth.symm, hlength, Nat.add_sub_cancel, ← List.extract_eq_take_drop, List.drop_drop,
      hbehind, Option.some.injEq, Prod.mk.injEq]
    constructor
    · rintro ⟨rfl, rfl⟩
      exact ⟨e, hleast, rfl, rfl⟩
    · rintro ⟨k, hk, rfl, rfl⟩
      rw [hleast.unique hk]
      exact ⟨rfl, rfl⟩
  · obtain ⟨hnone, -⟩ := hsteps.missing hstart Int.one_pos hstop hzero
    rw [hafter] at hzero
    rw [if_neg hzero]
    constructor
    · intro h
      cases h
    · rintro ⟨e, he, -⟩
      exact absurd he.1 (hnone e)

end EntitySchema.Jdl
