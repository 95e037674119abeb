import EntitySchema.Files.Store
import EntitySchema.Proofs.Dict

/-! What becomes of a store. A draft that cannot take the place of its file leaves nothing behind
(`replace_refused`), and a refused write nothing but directories on the way to its path
(`writeText_refused`). -/
namespace EntitySchema.Files

namespace Path

/-- The key that a path stands for once there is a way to it. -/
def key (p : Path) : List String :=
  p.steps.foldl Store.stepTo (match p.origin with
    | .root mark => [mark]
    | _ => [])

/-- Whether another path leads past the end of this one, or ends there. -/
def IsOn (q p : Path) : Prop := q.origin = p.origin ∧ q.steps <+: p.steps

/-- Whether a path leads to a directory on the way to another. -/
def IsAbove (q p : Path) : Prop := q.IsOn p.parent

/-- Whether a path has the one character that no store can have in a path. -/
def HasNull (p : Path) : Prop := '\x00' ∈ p.text.toList

theorem isOn_refl (p : Path) : p.IsOn p := ⟨rfl, List.prefix_rfl⟩

theorem IsAbove.isOn {q p : Path} (h : q.IsAbove p) : q.IsOn p :=
  ⟨h.1, h.2.trans (List.dropLast_prefix p.steps)⟩

theorem mem_intercalate_iff {c : Char} {mark : List Char} (h : c ∉ mark) (l : List (List Char)) :
    c ∈ mark.intercalate l ↔ ∃ s ∈ l, c ∈ s := by
  induction l with
  | nil => simp
  | cons s r ih =>
    by_cases hr : r = []
    · simp [hr]
    · simp [List.intercalate_cons_of_ne_nil hr, h, ih]

theorem hasNull_iff (p : Path) :
    p.HasNull ↔ (∃ s, (p.origin = .named s ∨ p.origin = .root s) ∧ '\x00' ∈ s.toList) ∨
      ∃ step ∈ p.steps, '\x00' ∈ step.toList := by
  have hsteps : '\x00' ∈ ("/".intercalate p.steps).toList ↔
      ∃ step ∈ p.steps, '\x00' ∈ step.toList := by
    simp [String.toList_intercalate, mem_intercalate_iff]
  unfold HasNull text
  by_cases hnil : p.steps = []
  · cases p.origin <;> simp [hnil]
  · cases p.origin <;> simp [hnil, hsteps, -String.toList_intercalate]

theorem hasNull_of_parent {p : Path} (h : p.parent.HasNull) : p.HasNull := by
  rw [hasNull_iff] at h ⊢
  refine h.imp_right ?_
  rintro ⟨step, hstep, hnull⟩
  exact ⟨step, List.dropLast_subset p.steps hstep, hnull⟩

end Path

namespace Store

variable {s s' : Store} {p : Path} {key k : List String} {e : Refusal}

theorem node?_set (s : Store) (key k : List String) (n : Node) :
    (s.set key n).node? k = if isGiven key = false ∧ k = key then some n else s.node? k := by
  unfold set
  by_cases hk : isGiven key = true
  · simp [hk]
  · have hnot : isGiven key = false := by simpa using hk
    rw [if_neg hk]
    by_cases hkey : k = key
    · subst hkey
      simp [node?, hnot, lookup_setEntry]
    · simp [node?, lookup_setEntry, hkey]

theorem set_set (s : Store) (key : List String) (n m : Node) :
    (s.set key n).set key m = s.set key m := by
  unfold set
  split <;> simp [setEntry_setEntry]

theorem filter_setEntry {l : List (List String × Node)} (h : l.lookup key = none) (n : Node) :
    (setEntry key n l).filter (·.1 != key) = l := by
  induction l with
  | nil => simp [setEntry]
  | cons e r ih =>
    rw [lookup_cons_if, ite_eq_iff] at h
    have hne : e.1 ≠ key := by
      rintro rfl
      simp at h
    have hr : r.lookup key = none := by simpa [Ne.symm hne] using h
    simp [setEntry, hne, ih hr]

theorem erase_set (h : s.node? key = none) (n : Node) : (s.set key n).erase key = s := by
  have hgiven : ¬isGiven key = true := by
    intro hg
    simp [node?, hg] at h
  rw [node?, if_neg hgiven] at h
  rw [set, if_neg hgiven, erase]
  simp only [filter_setEntry h]

theorem walk_ok {here steps : List String} (h : walk s p here steps = .ok key) :
    key = steps.foldl stepTo here := by
  fun_induction walk s p here steps with
  | case1 here => exact (Except.ok.inj h).symm
  | case2 => cases h
  | case3 here step r hnode hlength ih => exact ih h
  | case4 | case5 | case6 => cases h

theorem walk_error {here steps : List String} (h : walk s p here steps = .error e) :
    e = .tooLong p ∨ e = .notDirectory p ∨ e = .notFound p := by
  fun_induction walk s p here steps with
  | case1 here => cases h
  | case2 => exact .inl (Except.error.inj h).symm
  | case3 here step r hnode hlength ih => exact ih h
  | case4 | case5 => exact .inr (.inl (Except.error.inj h).symm)
  | case6 => exact .inr (.inr (Except.error.inj h).symm)

theorem locate_of_hasNull (s : Store) (h : p.HasNull) : s.locate p = .error .unusable := by
  rw [locate, if_pos (List.contains_iff_mem.mpr h)]

theorem locate_ok (h : s.locate p = .ok key) : key = p.key ∧ ¬p.HasNull := by
  have hnull : ¬p.HasNull := by
    intro hnull
    rw [locate_of_hasNull s hnull] at h
    cases h
  rw [locate, if_neg (fun hc => hnull (List.contains_iff_mem.mp hc))] at h
  split at h
  · cases h
  · refine ⟨?_, hnull⟩
    unfold Path.key
    cases horigin : p.origin <;> simp only [horigin] at h <;> exact walk_ok h

theorem locate_error (h : s.locate p = .error e) :
    e = .unusable ∧ p.HasNull ∨ e = .tooLong p ∨ e = .notDirectory p ∨ e = .notFound p := by
  rw [locate] at h
  split at h
  · rename_i hnull
    exact .inl ⟨(Except.error.inj h).symm, List.contains_iff_mem.mp hnull⟩
  · right
    split at h
    · exact .inl (Except.error.inj h).symm
    · split at h <;> exact walk_error h

theorem locate_unusable_iff : s.locate p = .error .unusable ↔ p.HasNull := by
  refine ⟨fun h => ?_, locate_of_hasNull s⟩
  rcases locate_error h with ⟨-, hnull⟩ | hf | hf | hf
  · exact hnull
  all_goals cases hf

theorem look_error_iff : s.look p = .error e ↔ s.locate p = .error (.tooLong p) ∧ e = .tooLong p := by
  unfold look
  cases hl : s.locate p with
  | ok key => simp
  | error f =>
    rcases locate_error hl with ⟨rfl, -⟩ | rfl | rfl | rfl <;> simp [eq_comm]

theorem isFile_error_iff :
    s.isFile p = .error e ↔ s.locate p = .error (.tooLong p) ∧ e = .tooLong p := by
  rw [← look_error_iff, isFile]
  cases s.look p <;> simp [Except.map]

theorem locate_ne_of_isFile {there : Bool} (h : s.isFile p = .ok there) :
    s.locate p ≠ .error (.tooLong p) := by
  intro hlong
  rw [isFile_error_iff.mpr ⟨hlong, rfl⟩] at h
  cases h

theorem isDirectory_error_iff :
    s.isDirectory p = .error e ↔ s.locate p = .error (.tooLong p) ∧ e = .tooLong p := by
  rw [← look_error_iff, isDirectory]
  cases s.look p <;> simp [Except.map]

/-- A file that is there can be read, or it is locked. -/
theorem isFile_true_iff : s.isFile p = .ok true ↔
    (∃ bytes, s.readBytes p = .ok bytes) ∨ s.readBytes p = .error (.denied p) := by
  unfold isFile look readBytes
  cases hl : s.locate p with
  | ok key =>
    rcases hn : s.node? key with _ | _ | bytes | bytes <;>
      simp [hn, Except.map, bind, Except.bind, pure, Except.pure, throw, throwThe,
        MonadExceptOf.throw]
  | error f =>
    rcases locate_error hl with ⟨rfl, -⟩ | rfl | rfl | rfl <;> simp [Except.map, bind, Except.bind]

/-- Whether all that a store has more than another are directories, at keys of paths of one kind. -/
def Grows (among : Path → Prop) (s s' : Store) : Prop :=
  ∀ k, s'.node? k = s.node? k ∨
    s.node? k = none ∧ s'.node? k = some .directory ∧ ∃ q, among q ∧ k = q.key

namespace Grows

variable {among among' : Path → Prop} {s'' : Store}

theorem refl (among : Path → Prop) (s : Store) : Grows among s s := fun _ => .inl rfl

theorem trans (h : Grows among s s') (h' : Grows among s' s'') : Grows among s s'' := by
  intro k
  rcases h k, h' k with ⟨hk | hk, hk' | hk'⟩
  · exact .inl (hk'.trans hk)
  · exact .inr ⟨hk.symm.trans hk'.1, hk'.2⟩
  · exact .inr ⟨hk.1, hk'.trans hk.2.1, hk.2.2⟩
  · exact .inr ⟨hk.1, hk'.2⟩

theorem mono (h : Grows among s s') (himp : ∀ q, among q → among' q) : Grows among' s s' := by
  intro k
  refine (h k).imp_right ?_
  rintro ⟨hnone, hnew, q, hq, hk⟩
  exact ⟨hnone, hnew, q, himp q hq, hk⟩

theorem file_iff (h : Grows among s s') (k : List String) {n : Node} (hn : n ≠ .directory) :
    s'.node? k = some n ↔ s.node? k = some n := by
  rcases h k with hk | ⟨hnone, hnew, -⟩
  · rw [hk]
  · simp [hnone, hnew, Ne.symm hn]

end Grows

theorem makeDirectory_ok (h : s.makeDirectory p = .ok s') :
    s.node? p.key = none ∧ s' = s.set p.key .directory := by
  unfold makeDirectory at h
  cases hl : s.locate p with
  | error f => simp [hl, bind, Except.bind] at h
  | ok key =>
    obtain ⟨rfl, -⟩ := locate_ok hl
    cases hn : s.node? p.key with
    | some n => simp [hl, hn, bind, Except.bind] at h
    | none => simpa [hl, hn, bind, Except.bind, pure, Except.pure, eq_comm] using h

theorem grows_makeDirectory (h : s.makeDirectory p = .ok s') : Grows (·.IsOn p) s s' := by
  obtain ⟨hnone, rfl⟩ := makeDirectory_ok h
  intro k
  rw [node?_set]
  split
  · rename_i hk
    exact .inr ⟨hk.2 ▸ hnone, rfl, p, p.isOn_refl, hk.2⟩
  · exact .inl rfl

theorem grows_ensureDirectory (h : s.ensureDirectory p = .ok s') : Grows (·.IsOn p) s s' := by
  unfold ensureDirectory at h
  split at h
  · rcases hd : s.isDirectory p with f | _ | _
    · simp [hd, Except.bind] at h
    · simp [hd, Except.bind] at h
    · simp only [hd, Except.bind, if_true, Except.ok.injEq] at h
      exact h ▸ .refl _ s
  · exact grows_makeDirectory h

theorem grows_ofChange {among : Path → Prop} {change : Except Refusal Store}
    (h : ∀ s', change = .ok s' → Grows among s s') :
    Grows among s (Written.ofChange s change).store := by
  cases change with
  | ok s' => exact h s' rfl
  | error e => exact .refl among s

theorem grows_makeDirectoriesWithin (fuel : Nat) (s : Store) (p : Path) :
    Grows (·.IsOn p) s (makeDirectoriesWithin fuel s p).store := by
  induction fuel generalizing p with
  | zero => exact grows_ofChange fun s' h => grows_ensureDirectory h
  | succ fuel ih =>
    -- What is made above stays also when `p` itself is refused afterwards.
    have habove := (ih p.parent).mono fun _ => Path.IsAbove.isOn
    rw [makeDirectoriesWithin]
    split
    · dsimp only
      split
      · exact habove.trans (grows_ofChange fun s' h => grows_ensureDirectory h)
      · exact habove
    · exact grows_ofChange fun s' h => grows_ensureDirectory h

theorem grows_makeDirectories (s : Store) (p : Path) :
    Grows (·.IsAbove p) s (s.makeDirectories p.parent).store :=
  grows_makeDirectoriesWithin _ s p.parent

theorem makeDirectory_unusable (h : s.makeDirectory p = .error .unusable) : p.HasNull := by
  unfold makeDirectory at h
  cases hl : s.locate p with
  | error f =>
    simp only [hl, bind, Except.bind, Except.error.injEq] at h
    exact locate_unusable_iff.mp (h ▸ hl)
  | ok key =>
    cases hn : s.node? key <;> simp [hl, hn, bind, Except.bind, pure, Except.pure, throw,
      throwThe, MonadExceptOf.throw] at h

theorem ensureDirectory_unusable (h : s.ensureDirectory p = .error .unusable) : p.HasNull := by
  unfold ensureDirectory at h
  split at h
  · cases hd : s.isDirectory p with
    | error f =>
      obtain ⟨-, rfl⟩ := isDirectory_error_iff.mp hd
      simp [hd, Except.bind] at h
    | ok there => cases there <;> simp [hd, Except.bind] at h
  · exact makeDirectory_unusable h

theorem makeDirectoriesWithin_unusable (fuel : Nat) {s : Store} {p : Path}
    (h : (makeDirectoriesWithin fuel s p).result = .error .unusable) : p.HasNull := by
  have hself {t : Store} {q : Path} (h : (Written.ofChange t (t.ensureDirectory q)).result =
      .error .unusable) : q.HasNull := by
    apply ensureDirectory_unusable (s := t)
    cases he : t.ensureDirectory q <;> simp_all [Written.ofChange]
  induction fuel generalizing p with
  | zero => exact hself h
  | succ fuel ih =>
    rw [makeDirectoriesWithin] at h
    split at h
    · dsimp only at h
      split at h
      · exact hself h
      · -- The refused path is one above, so its null character is one of `p` too.
        exact Path.hasNull_of_parent (ih h)
    · exact hself h

theorem draftKey_ok (h : s.draftKey p = .ok key) : s.node? key = none := by
  unfold draftKey at h
  split at h
  · cases h
  · split at h
    · cases h
    · split at h
      · cases h
      · dsimp only at h
        split at h
        · rename_i found hfound
          obtain rfl := Except.ok.inj h
          simpa using List.find?_some hfound
        · cases h

theorem draftKey_unusable_iff : s.draftKey p = .error .unusable ↔ p.HasNull := by
  have hnull : p.text.toList.contains '\x00' = true ↔ p.HasNull := List.contains_iff_mem
  unfold draftKey
  split
  · rename_i hc
    exact iff_of_true rfl (hnull.mp hc)
  · rename_i hc
    refine iff_of_false ?_ fun h => hc (hnull.mpr h)
    intro h
    split at h
    · cases h
    · split at h
      · rename_i f hl
        obtain rfl := Except.error.inj h
        exact hc (hnull.mpr (Path.hasNull_of_parent (locate_unusable_iff.mp hl)))
      · dsimp only at h
        split at h <;> cases h

theorem moveTo_unusable {source : List String} (h : s.moveTo source p = .error .unusable) :
    p.HasNull := by
  unfold moveTo at h
  split at h
  · rename_i f hl
    obtain rfl := Except.error.inj h
    exact locate_unusable_iff.mp hl
  · split at h
    · cases h
    · split at h <;> cases h

theorem fill_spec (s : Store) (key : List String) (bytes : List UInt8) :
    ∃ kept, (s.fill key bytes).store = s.set key (.file kept) ∧
      ((s.fill key bytes).result = .ok () ∧ kept = bytes ∨
        (s.fill key bytes).result = .error .tooLarge) := by
  refine ⟨_, rfl, ?_⟩
  dsimp only [fill]
  split
  · rename_i hkept
    exact .inl ⟨rfl, hkept⟩
  · exact .inr rfl

/-- A refused replacement leaves the store as it was: its draft is taken away again. -/
theorem replace_refused {bytes : List UInt8} (h : (s.replace p bytes).result = .error e) :
    (s.replace p bytes).store = s := by
  unfold replace at h ⊢
  cases hd : s.draftKey p with
  | error f => rfl
  | ok draft =>
    simp only [hd] at h ⊢
    split
    · rename_i moved hmoved
      simp [hmoved] at h
    · -- Opening the draft and filling it set one free key, so that erasing the key undoes both.
      obtain ⟨kept, hkept, -⟩ := fill_spec (s.set draft (.file [])) draft bytes
      rw [hkept, set_set, erase_set (draftKey_ok hd)]

theorem replace_unusable_iff (bytes : List UInt8) :
    (s.replace p bytes).result = .error .unusable ↔ p.HasNull := by
  rw [← draftKey_unusable_iff (s := s)]
  unfold replace
  cases hd : s.draftKey p with
  | error f => simp
  | ok draft =>
    refine iff_of_false ?_ (by simp)
    intro h
    have hnull : ¬p.HasNull := by simp [← draftKey_unusable_iff (s := s), hd]
    obtain ⟨kept, -, ⟨hfill, -⟩ | hfill⟩ := fill_spec (s.set draft (.file [])) draft bytes
    · simp only [hfill, Except.bind] at h
      split at h
      · cases h
      · rename_i f hmove
        obtain rfl := Except.error.inj h
        exact hnull (moveTo_unusable hmove)
    · simp [hfill, Except.bind] at h

/-- A refused write leaves at most new directories on the way to its path. -/
theorem writeText_refused {content : List Char}
    (h : (s.writeText p content true).result = .error e) :
    Grows (·.IsAbove p) s (s.writeText p content true).store := by
  have hmade := grows_makeDirectories s p
  unfold writeText at h ⊢
  cases hr : (s.makeDirectories p.parent).result with
  | error f => simpa only [hr] using hmade
  | ok u =>
    simp only [hr, if_true] at h ⊢
    cases hp : ((s.makeDirectories p.parent).store.replace p (Text.Utf8.encode content)).result with
    | error f => rwa [replace_refused hp]
    | ok v => simp [hp, Except.map] at h

/-- A null character in a path is what a write is refused for, unless the directories on the way are
refused for something else before. -/
theorem writeText_unusable_iff {content : List Char} :
    (s.writeText p content true).result = .error .unusable ↔
      p.HasNull ∧ ∀ f, (s.makeDirectories p.parent).result = .error f → f = .unusable := by
  unfold writeText
  cases hr : (s.makeDirectories p.parent).result with
  | error f =>
    simp only [hr, Except.error.injEq]
    constructor
    · rintro rfl
      exact ⟨Path.hasNull_of_parent (makeDirectoriesWithin_unusable _ hr), fun _ h => h.symm⟩
    · exact fun h => h.2 f rfl
  | ok u =>
    simp only [hr, if_true, reduceCtorEq, false_imp_iff, implies_true, and_true]
    rw [← replace_unusable_iff (s := (s.makeDirectories p.parent).store) (Text.Utf8.encode content)]
    cases ((s.makeDirectories p.parent).store.replace p (Text.Utf8.encode content)).result <;>
      simp [Except.map]

theorem readText_of_readBytes {bytes : List UInt8} (h : s.readBytes p = .ok bytes) :
    s.readText p = ((Text.Utf8.decode bytes).mapError .undecodable).map Text.unifyLineFeeds := by
  unfold readText
  rw [h]
  simp only [Except.mapError, bind, Except.bind]
  cases Text.Utf8.decode bytes <;> rfl

theorem readText_ok_iff {bytes : List UInt8} {content : List Char} (h : s.readBytes p = .ok bytes) :
    s.readText p = .ok content ↔
      ∃ text, Text.Utf8.decode bytes = .ok text ∧ Text.unifyLineFeeds text = content := by
  rw [readText_of_readBytes h]
  cases Text.Utf8.decode bytes <;> simp [Except.mapError, Except.map]

theorem readText_of_denied (h : s.readBytes p = .error (.denied p)) :
    s.readText p = .error (.refused (.denied p)) := by
  simp [readText, h, Except.mapError, bind, Except.bind]

theorem isFile_of_readText {content : List Char} (h : s.readText p = .ok content) :
    s.isFile p = .ok true := by
  rw [isFile_true_iff]
  cases hb : s.readBytes p with
  | error f => simp [readText, hb, Except.mapError, bind, Except.bind] at h
  | ok bytes => exact .inl ⟨bytes, rfl⟩

end Store

end EntitySchema.Files
