import EntitySchema.Proofs.Files.Store
import EntitySchema.Proofs.Text.Utf8

/-! What was written is there. A file takes its place under conditions on the store alone
(`replace_ok_iff`), and they hold of the store with the file in it too (`Takes.again`). So a write that
was not refused can be read (`readBytes_writeText`), and written again it changes nothing
(`writeText_again`). -/
namespace EntitySchema

namespace Text

theorem cr_not_mem_unifyLineFeeds (s : List Char) : '\r' ∉ unifyLineFeeds s := by
  fun_induction unifyLineFeeds s with
  | case1 => simp
  | case2 r ih => simpa using ih
  | case3 c r hpair ih =>
    rw [List.mem_cons, not_or]
    refine ⟨?_, ih⟩
    split
    · decide
    · exact fun h => ‹¬c = '\r'› h.symm

/-- Only carriage returns are lost when a text is read. -/
theorem unifyLineFeeds_eq_self_iff {s : List Char} : unifyLineFeeds s = s ↔ '\r' ∉ s := by
  constructor
  · intro h
    rw [← h]
    exact cr_not_mem_unifyLineFeeds s
  · intro h
    fun_induction unifyLineFeeds s with
    | case1 => rfl
    | case2 r ih => simp at h
    | case3 c r hpair ih =>
      rw [List.mem_cons, not_or] at h
      rw [if_neg (Ne.symm h.1), ih h.2]

theorem unifyLineFeeds_append_crlf {s : List Char} (h : '\r' ∉ s) (r : List Char) :
    unifyLineFeeds (s ++ '\r' :: '\n' :: r) = s ++ '\n' :: unifyLineFeeds r := by
  induction s with
  | nil => rw [List.nil_append, List.nil_append, unifyLineFeeds]
  | cons c s ih =>
    rw [List.mem_cons, not_or] at h
    simp [unifyLineFeeds, ih h.2, Ne.symm h.1]

end Text

namespace Files

namespace Path

theorem key_eq_stepTo {p : Path} (h : p.steps ≠ []) : p.key = Store.stepTo p.parent.key p.name := by
  have hsteps : p.steps = p.steps.dropLast ++ [p.name] := by
    rw [name, List.getLastD_eq_getLast?, List.getLast?_eq_getLast_of_ne_nil h, Option.getD_some,
      List.dropLast_append_getLast]
  rw [key, hsteps, List.foldl_append]
  rfl

end Path

namespace Store

variable {s s' : Store} {p : Path} {key : List String} {bytes : List UInt8} {content : List Char}

theorem isGiven_of_node? (h : s.node? key ≠ some .directory) : isGiven key = false := by
  by_contra hgiven
  exact h (if_pos (Bool.of_not_eq_false hgiven))

theorem node?_set_self (h : s.node? key ≠ some .directory) (n : Node) :
    (s.set key n).node? key = some n := by
  rw [node?_set, if_pos ⟨isGiven_of_node? h, rfl⟩]

def DirectoriesIn (s s' : Store) : Prop :=
  ∀ k, s.node? k = some .directory → s'.node? k = some .directory

theorem directoriesIn_set (h : s.node? key ≠ some .directory) (n : Node) :
    s.DirectoriesIn (s.set key n) := by
  intro k hk
  have hne : k ≠ key := by
    rintro rfl
    exact h hk
  rw [node?_set, if_neg fun hkey => hne hkey.2, hk]

theorem directoriesIn_of_set_file (bytes : List UInt8) :
    (s.set key (.file bytes)).DirectoriesIn s := by
  intro k hk
  rw [node?_set] at hk
  split at hk
  · cases hk
  · exact hk

theorem walk_mono (hdir : s.DirectoriesIn s') {here steps : List String}
    (h : walk s p here steps = .ok key) : walk s' p here steps = .ok key := by
  fun_induction walk s p here steps with
  | case1 here => exact h
  | case2 => cases h
  | case3 here step r hnode hlength ih =>
    rw [walk, hdir here hnode]
    dsimp only
    rw [if_neg hlength]
    exact ih h
  | case4 | case5 | case6 => cases h

/-- The way to a path is through directories alone. -/
theorem locate_mono (hdir : s.DirectoriesIn s') (h : s.locate p = .ok key) :
    s'.locate p = .ok key := by
  rw [locate] at h ⊢
  split at h
  · cases h
  · rename_i hnull
    rw [if_neg hnull]
    split at h
    · cases h
    · rename_i hlength
      rw [if_neg hlength]
      cases horigin : p.origin <;> simp only [horigin] at h <;> exact walk_mono hdir h

theorem isDirectory_true_iff :
    s.isDirectory p = .ok true ↔ ∃ key, s.locate p = .ok key ∧ s.node? key = some .directory := by
  unfold isDirectory look
  cases hl : s.locate p with
  | ok key => simp [Except.map]
  | error f => rcases locate_error hl with ⟨rfl, -⟩ | rfl | rfl | rfl <;> simp [Except.map]

theorem isDirectory_mono (hdir : s.DirectoriesIn s') (h : s.isDirectory p = .ok true) :
    s'.isDirectory p = .ok true := by
  obtain ⟨key, hlocate, hnode⟩ := isDirectory_true_iff.mp h
  exact isDirectory_true_iff.mpr ⟨key, locate_mono hdir hlocate, hdir key hnode⟩

theorem isDirectory_makeDirectory (h : s.makeDirectory p = .ok s') :
    s'.isDirectory p = .ok true := by
  obtain ⟨hnone, rfl⟩ := makeDirectory_ok h
  have hnot : s.node? p.key ≠ some .directory := by simp [hnone]
  obtain ⟨key, hl⟩ : ∃ key, s.locate p = .ok key := by
    cases hl : s.locate p with
    | error f => simp [makeDirectory, hl, bind, Except.bind] at h
    | ok key => exact ⟨key, rfl⟩
  obtain ⟨rfl, -⟩ := locate_ok hl
  exact isDirectory_true_iff.mpr
    ⟨p.key, locate_mono (directoriesIn_set hnot _) hl, node?_set_self hnot _⟩

theorem isDirectory_ensureDirectory (h : s.ensureDirectory p = .ok s') :
    s'.isDirectory p = .ok true := by
  unfold ensureDirectory at h
  split at h
  · rcases hd : s.isDirectory p with f | _ | _
    · simp [hd, Except.bind] at h
    · simp [hd, Except.bind] at h
    · simp only [hd, Except.bind, if_true, Except.ok.injEq] at h
      rwa [← h]
  · exact isDirectory_makeDirectory h

theorem ensureDirectory_of_isDirectory (h : s.isDirectory p = .ok true) :
    s.ensureDirectory p = .ok s := by
  obtain ⟨key, hlocate, hnode⟩ := isDirectory_true_iff.mp h
  have hmake : s.makeDirectory p = .error (.exists p) := by
    simp only [makeDirectory, hlocate, bind, Except.bind, hnode]
    rfl
  simp [ensureDirectory, hmake, h, Except.bind]

theorem isDirectory_of_ofChange {change : Except Refusal Store}
    (hchange : ∀ s', change = .ok s' → s'.isDirectory p = .ok true)
    (h : (Written.ofChange s change).result = .ok ()) :
    (Written.ofChange s change).store.isDirectory p = .ok true := by
  cases change with
  | ok s' => exact hchange s' rfl
  | error e => cases h

theorem isDirectory_makeDirectories (h : (s.makeDirectories p).result = .ok ()) :
    (s.makeDirectories p).store.isDirectory p = .ok true := by
  unfold makeDirectories at h ⊢
  cases hfuel : p.steps.length with
  | zero =>
    rw [hfuel, makeDirectoriesWithin] at h
    rw [makeDirectoriesWithin]
    exact isDirectory_of_ofChange (fun _ => isDirectory_ensureDirectory) h
  | succ fuel =>
    rw [hfuel, makeDirectoriesWithin] at h
    rw [makeDirectoriesWithin]
    split at h
    · dsimp only at h ⊢
      split at h
      · exact isDirectory_of_ofChange (fun _ => isDirectory_ensureDirectory) h
      · rename_i habove
        rw [habove] at h
        cases h
    · exact isDirectory_of_ofChange (fun _ => isDirectory_ensureDirectory) h

theorem makeDirectories_of_isDirectory (h : s.isDirectory p = .ok true) :
    s.makeDirectories p = ⟨s, .ok ()⟩ := by
  have hensure := ensureDirectory_of_isDirectory h
  unfold makeDirectories
  cases p.steps.length <;> simp only [makeDirectoriesWithin, hensure, Written.ofChange]

theorem draftName_ne (name : String) (n : Nat) : draftName name n ≠ name := by
  intro h
  have hlength := congrArg String.length h
  simp only [draftName, String.length_append] at hlength
  have hdot : ".".length = 1 := rfl
  omega

/-- What it takes to put a file at a path, whatever file is there already. -/
structure Takes (s : Store) (p : Path) (bytes : List UInt8) : Prop where
  /-- A draft has a free place beside the file. -/
  draft : ∃ key, s.draftKey p = .ok key
  located : s.locate p = .ok p.key
  steps : p.steps ≠ []
  name : p.name ≠ ".."
  free : s.node? p.key ≠ some .directory
  fits : bytes.take (s.longestFile.getD bytes.length) = bytes

theorem longestFile_set (s : Store) (key : List String) (n : Node) :
    (s.set key n).longestFile = s.longestFile := by
  unfold set
  split <;> rfl

/-- A move takes its source away, which must be there, to where no directory is. -/
theorem moveTo_ok_iff {source : List String} {moved : Store} :
    s.moveTo source p = .ok moved ↔ s.locate p = .ok p.key ∧ p.steps ≠ [] ∧ p.name ≠ ".." ∧
      s.node? p.key ≠ some .directory ∧
      ∃ n, s.node? source = some n ∧ moved = (s.erase source).set p.key n := by
  unfold moveTo
  cases hl : s.locate p with
  | error e => simp
  | ok key =>
    obtain ⟨rfl, -⟩ := locate_ok hl
    by_cases horigin : p.steps = [] ∨ p.name = ".."
    · rcases horigin with h | h <;> simp [h]
    · obtain ⟨hsteps, hname⟩ := not_or.mp horigin
      simp only [hsteps, hname, ne_eq, not_false_eq_true, true_and]
      rcases hk : s.node? p.key with _ | _ | there | there <;>
        cases hsource : s.node? source <;> simp [eq_comm]

/-- The draft of a replacement, which is at a free key. -/
theorem opened_fill (s : Store) (draft : List String) (bytes : List UInt8) :
    (s.set draft (.file [])).fill draft bytes =
      ⟨s.set draft (.file (bytes.take (s.longestFile.getD bytes.length))),
        if bytes.take (s.longestFile.getD bytes.length) = bytes then .ok () else .error .tooLarge⟩ := by
  rw [fill, longestFile_set, set_set]

theorem replace_of_takes (h : s.Takes p bytes) :
    s.replace p bytes = ⟨s.set p.key (.file bytes), .ok ()⟩ := by
  obtain ⟨draft, hdraft⟩ := h.draft
  have hfree := draftKey_ok hdraft
  have hnot : s.node? draft ≠ some .directory := by simp [hfree]
  have hmove : (s.set draft (.file bytes)).moveTo draft p = .ok (s.set p.key (.file bytes)) := by
    rw [moveTo_ok_iff]
    refine ⟨locate_mono (directoriesIn_set hnot _) h.located, h.steps, h.name,
      fun hdir => h.free (directoriesIn_of_set_file bytes _ hdir), .file bytes,
      node?_set_self hnot _, ?_⟩
    rw [erase_set hfree]
  rw [replace, hdraft]
  simp only [opened_fill, h.fits, if_true, Except.bind, hmove]

theorem takes_of_replace (h : (s.replace p bytes).result = .ok ()) : s.Takes p bytes := by
  unfold replace at h
  cases hdraft : s.draftKey p with
  | error e => simp [hdraft] at h
  | ok draft =>
    have hfree := draftKey_ok hdraft
    have hnot : s.node? draft ≠ some .directory := by simp [hfree]
    simp only [hdraft, opened_fill] at h
    by_cases hfits : bytes.take (s.longestFile.getD bytes.length) = bytes
    · simp only [hfits, if_true, Except.bind] at h
      cases hmove : (s.set draft (.file bytes)).moveTo draft p with
      | error e => simp [hmove] at h
      | ok moved =>
        obtain ⟨hlocate, hsteps, hname, hdir, -⟩ := moveTo_ok_iff.mp hmove
        exact ⟨⟨draft, hdraft⟩, locate_mono (directoriesIn_of_set_file bytes) hlocate, hsteps, hname,
          fun h => hdir (directoriesIn_set hnot _ _ h), hfits⟩
    · simp [hfits, Except.bind] at h

theorem replace_ok_iff : (s.replace p bytes).result = .ok () ↔ s.Takes p bytes :=
  ⟨takes_of_replace, fun h => by rw [replace_of_takes h]⟩

theorem length_setEntry (key : List String) (n : Node) (l : List (List String × Node)) :
    l.length ≤ (setEntry key n l).length := by
  induction l with
  | nil => simp
  | cons e r ih =>
    rw [setEntry]
    split
    · simp
    · simpa using ih

theorem length_nodes_set (s : Store) (key : List String) (n : Node) :
    s.nodes.length ≤ (s.set key n).nodes.length := by
  unfold set
  split
  · exact Nat.le_refl _
  · exact length_setEntry key n s.nodes

theorem draftKey_ok_iff : (∃ draft, s.draftKey p = .ok draft) ↔ ¬p.HasNull ∧
    p.name.utf8ByteSize + draftExcess ≤ longestName ∧ s.locate p.parent = .ok p.parent.key ∧
    ∃ n ≤ s.nodes.length, s.node? (p.parent.key ++ [draftName p.name n]) = none := by
  have hnull : p.text.toList.contains '\x00' = true ↔ p.HasNull := List.contains_iff_mem
  unfold draftKey
  by_cases hn : p.HasNull
  · rw [if_pos (hnull.mpr hn)]
    simp [hn]
  rw [if_neg fun h => hn (hnull.mp h)]
  by_cases hlength : longestName < p.name.utf8ByteSize + draftExcess
  · rw [if_pos hlength]
    simp [Nat.not_le.mpr hlength]
  rw [if_neg hlength]
  cases hl : s.locate p.parent with
  | error e => simp
  | ok directory =>
    obtain ⟨rfl, -⟩ := locate_ok hl
    simp only [hn, not_false_eq_true, Nat.not_lt.mp hlength, true_and]
    split
    · rename_i found hfound
      obtain ⟨n, hmem, rfl⟩ := List.mem_map.mp (List.mem_of_find?_eq_some hfound)
      have hfree : s.node? (p.parent.key ++ [draftName p.name n]) = none := by
        simpa using List.find?_some hfound
      exact iff_of_true ⟨_, rfl⟩ ⟨n, Nat.lt_succ_iff.mp (List.mem_range.mp hmem), hfree⟩
    · rename_i hnone
      refine iff_of_false (by simp) ?_
      rintro ⟨n, hle, hfree⟩
      have := List.find?_eq_none.mp hnone _
        (List.mem_map.mpr ⟨n, List.mem_range.mpr (Nat.lt_succ_of_le hle), rfl⟩)
      simp [hfree] at this

theorem Takes.again (h : s.Takes p bytes) : (s.set p.key (.file bytes)).Takes p bytes := by
  have hdir : s.DirectoriesIn (s.set p.key (.file bytes)) := directoriesIn_set h.free _
  obtain ⟨hnull, hlength, hparent, n, hle, hfree⟩ := draftKey_ok_iff.mp h.draft
  have hne : p.parent.key ++ [draftName p.name n] ≠ p.key := by
    rw [Path.key_eq_stepTo h.steps, stepTo, if_neg h.name]
    intro hkey
    exact draftName_ne p.name n (by simpa using hkey)
  refine ⟨draftKey_ok_iff.mpr ⟨hnull, hlength, locate_mono hdir hparent, n,
    Nat.le_trans hle (length_nodes_set s _ _), ?_⟩, locate_mono hdir h.located, h.steps, h.name, ?_, ?_⟩
  · rw [node?_set, if_neg fun hkey => hne hkey.2, hfree]
  · rw [node?_set_self h.free]
    simp
  · rw [longestFile_set, h.fits]

theorem Takes.any (h : s.Takes p bytes) (hlongest : s.longestFile = none) (other : List UInt8) :
    s.Takes p other :=
  { h with fits := by simp [hlongest] }

/-- A write that is not refused makes the directories on the way, then puts the file there. -/
theorem writeText_ok {size : Nat} (h : (s.writeText p content true).result = .ok size) :
    let made := (s.makeDirectories p.parent).store
    made.isDirectory p.parent = .ok true ∧ made.Takes p (Text.Utf8.encode content) ∧
      (s.writeText p content true).store =
        made.set p.key (.file (Text.Utf8.encode content)) := by
  intro made
  unfold writeText at h ⊢
  cases hr : (s.makeDirectories p.parent).result with
  | error f => simp [hr] at h
  | ok u =>
    simp only [hr, if_true] at h ⊢
    have htakes : made.Takes p (Text.Utf8.encode content) := by
      apply takes_of_replace
      cases hput : (made.replace p (Text.Utf8.encode content)).result with
      | error f => simp [made, hput, Except.map] at h
      | ok v => rfl
    exact ⟨isDirectory_makeDirectories hr, htakes, by rw [replace_of_takes htakes]⟩

theorem writeText_of_takes (hdir : s.isDirectory p.parent = .ok true)
    (h : s.Takes p (Text.Utf8.encode content)) :
    s.writeText p content true = ⟨s.set p.key (.file (Text.Utf8.encode content)),
      .ok (Text.Utf8.encode content).length⟩ := by
  simp only [writeText, makeDirectories_of_isDirectory hdir, if_true, replace_of_takes h,
    Except.map]

theorem readBytes_writeText {size : Nat} (h : (s.writeText p content true).result = .ok size) :
    (s.writeText p content true).store.readBytes p = .ok (Text.Utf8.encode content) := by
  obtain ⟨-, htakes, hstore⟩ := writeText_ok h
  rw [hstore, readBytes, locate_mono (directoriesIn_set htakes.free _) htakes.located]
  simp only [bind, Except.bind, node?_set_self htakes.free]
  rfl

theorem writeText_again {size : Nat} (h : (s.writeText p content true).result = .ok size) :
    let after := (s.writeText p content true).store
    after.writeText p content true = ⟨after, .ok (Text.Utf8.encode content).length⟩ := by
  intro after
  obtain ⟨hdir, htakes, hstore⟩ := writeText_ok h
  have hafter : after = (s.makeDirectories p.parent).store.set p.key
      (.file (Text.Utf8.encode content)) := hstore
  have hparent : after.isDirectory p.parent = .ok true := by
    rw [hafter]
    exact isDirectory_mono (directoriesIn_set htakes.free _) hdir
  have hagain : after.Takes p (Text.Utf8.encode content) := by
    rw [hafter]
    exact htakes.again
  rw [writeText_of_takes hparent hagain]
  congr 1
  rw [hafter, set_set]

end Store

end Files

end EntitySchema
