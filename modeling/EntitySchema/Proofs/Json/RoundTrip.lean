import EntitySchema.Json.Read
import EntitySchema.Proofs.Json.Quoted
import EntitySchema.Proofs.Value.Entries

/-! Written JSON is read back. A part of a text takes the reading machine from one state to another,
and parts compose (`Reads.trans`); the text of a value takes it from waiting for a value to having
read that one, at any indent and depth (`Nested.reads_write`). Line feeds are the only control
characters in such a text (`Nested.laidOut_write`). -/
namespace EntitySchema.Json

/-- What the text of a document is made of: texts, truth values and nothing, in lists and in mappings
with distinct text keys, of which at most `levels` stand one inside the other. -/
inductive Nested : Nat → Value → Prop
  | null {levels : Nat} : Nested levels .null
  | bool {levels : Nat} (b : Bool) : Nested levels (.bool b)
  | text {levels : Nat} (s : String) : Nested levels (.text s)
  | list {levels : Nat} {items : List Value} (h : ∀ v ∈ items, Nested levels v) :
    Nested (levels + 1) (.list items)
  | mapping {levels : Nat} {entries : List (String × Value)}
    (distinct : (entries.map Prod.fst).Nodup) (h : ∀ e ∈ entries, Nested levels e.2) :
    Nested (levels + 1) (.ofDictEntries entries)

/-- Reading a part of a text takes the machine from one state to another in no more steps than the
part has characters, whatever follows. -/
def Reads (state : State) (part : List Char) (next : State) : Prop :=
  ∃ steps ≤ part.length, ∀ fuel rest,
    run (fuel + steps) state (part ++ rest) = run fuel next rest

theorem quote_eq (s : String) : quote s = '"' :: (s.toList.flatMap escape ++ ['"']) := rfl

theorem run_space {c : Char} (hc : isSpace c = true) (fuel : Nat) (state : State)
    (s : List Char) : run fuel state (c :: s) = run fuel state s := by
  rw [run.eq_def, run.eq_def fuel state s, List.dropWhile_cons_of_pos hc]

theorem run_step {c : Char} {s rest : List Char} {state next : State}
    (hc : isSpace c = false) (h : state.step (c :: s) = .ok (next, rest)) (fuel : Nat) :
    run (fuel + 1) state (c :: s) = run fuel next rest := by
  have hdrop : (c :: s).dropWhile isSpace = c :: s := List.dropWhile_cons_of_neg (by simp [hc])
  rw [run.eq_def]
  simp only [hdrop, h]
  rfl

namespace Reads

variable {a b c : State} {s t : List Char}

theorem trans (h : Reads a s b) (k : Reads b t c) : Reads a (s ++ t) c := by
  obtain ⟨m, hm, h⟩ := h
  obtain ⟨n, hn, k⟩ := k
  refine ⟨n + m, by rw [List.length_append]; omega, fun fuel rest => ?_⟩
  rw [List.append_assoc, ← Nat.add_assoc, h, k]

theorem spaces (a : State) (h : ∀ c ∈ s, isSpace c = true) : Reads a s a := by
  refine ⟨0, Nat.zero_le _, fun fuel rest => ?_⟩
  induction s with
  | nil => rfl
  | cons c s ih =>
    rw [List.cons_append, Nat.add_zero, run_space (h c List.mem_cons_self)]
    exact ih fun d hd => h d (List.mem_cons_of_mem c hd)

theorem step {c : Char} (hc : isSpace c = false)
    (h : ∀ rest, a.step (c :: (s ++ rest)) = .ok (b, rest)) : Reads a (c :: s) b :=
  ⟨1, by simp, fun fuel rest => run_step hc (h rest) fuel⟩

theorem read_eq {v : Value} (h : Reads (.value false []) s (.done v [])) : Json.read s = .ok v := by
  obtain ⟨steps, hsteps, h⟩ := h
  have hrun := h (s.length - steps) []
  rw [List.append_nil, Nat.sub_add_cancel hsteps] at hrun
  rw [Json.read, hrun]
  cases s.length - steps <;> rfl

end Reads

theorem isSpace_of_mem_lineStart {indent depth : Nat} {c : Char} (h : c ∈ lineStart indent depth) :
    isSpace c = true := by
  unfold lineStart at h
  split at h
  · simp at h
  · rcases List.mem_cons.mp h with rfl | h
    · rfl
    · rw [List.eq_of_mem_replicate h]
      rfl

theorem reads_lineStart (a : State) (indent depth : Nat) : Reads a (lineStart indent depth) a :=
  .spaces a fun _ => isSpace_of_mem_lineStart

theorem exists_separator (indent depth : Nat) :
    ∃ spaces, separator indent depth = ',' :: spaces ∧ ∀ c ∈ spaces, isSpace c = true := by
  unfold separator
  split
  · exact ⟨[' '], rfl, by simp [isSpace]⟩
  · exact ⟨_, rfl, fun _ => isSpace_of_mem_lineStart⟩

variable {first : Bool} {stack : List Container} {indent depth : Nat}

theorem reads_scalar {c : Char} {s : List Char} {v : Value}
    (hc : isSpace c = false) (hopen : c ∉ [']', '[', '\x7b'])
    (h : ∀ rest, readScalar (c :: (s ++ rest)) = .ok (v, rest)) :
    Reads (.value first stack) (c :: s) (.done v stack) :=
  .step hc fun rest => by
    simp only [List.mem_cons, List.not_mem_nil, or_false, not_or] at hopen
    simp [State.step, hopen, h, Except.map]

theorem reads_quote (s : String) : Reads (.value first stack) (quote s) (.done (.text s) stack) := by
  rw [quote_eq]
  exact reads_scalar rfl (by decide) fun rest => by
    rw [List.append_assoc]
    exact readText_quote s rest

theorem reads_key (k : String) (entries : List (Value × Value)) :
    Reads (.key first entries stack) (writeKey (.text k)) (.colon entries (.text k) stack) := by
  have hkey : writeKey (.text k) = '"' :: (k.toList.flatMap escape ++ ['"']) := quote_eq k
  rw [hkey]
  refine .step rfl fun rest => ?_
  rw [State.step, List.append_assoc, List.singleton_append, readText_quote]
  rfl

theorem reads_colon (k : Value) (entries : List (Value × Value)) :
    Reads (.colon entries k stack) [':', ' '] (.value false (.mapping entries k :: stack)) :=
  (Reads.step (s := []) rfl fun _ => rfl).trans (.spaces _ (s := [' ']) (by simp [isSpace]))

theorem reads_opening (isMapping : Bool) (h : stack.length < deepest) :
    Reads (.value first stack) [if isMapping then '\x7b' else '[']
      (if isMapping then .key true [] stack else .value true (.list [] :: stack)) :=
  .step (by cases isMapping <;> rfl) fun rest => by
    have hopen : ¬deepest ≤ stack.length := by omega
    cases isMapping <;> simp [State.step, State.open?, hopen, Except.map]

theorem reads_separator {a b : State}
    (h : ∀ rest, a.step (',' :: rest) = .ok (b, rest)) : Reads a (separator indent depth) b := by
  obtain ⟨spaces, hs, hspaces⟩ := exists_separator indent depth
  rw [hs]
  exact (Reads.step (s := []) rfl h).trans (.spaces b hspaces)

theorem reads_members {items : List Value}
    (h : ∀ v ∈ items, ∀ members, Reads (.value false (.list members :: stack))
      (write indent (depth + 1) v) (.done v (.list members :: stack)))
    (last : Value) (members : List Value) :
    Reads (.done last (.list members :: stack))
      (writeMembers indent (depth + 1) items ++ (lineStart indent depth ++ [']']))
      (.done (.list (members.reverse ++ last :: items)) stack) := by
  induction items generalizing last members with
  | nil =>
    refine (reads_lineStart _ indent depth).trans (.step (s := []) rfl fun rest => ?_)
    simp [State.step, State.closeList]
  | cons v r ih =>
    have hrest := ih (fun w hw => h w (List.mem_cons_of_mem v hw)) v (last :: members)
    rw [List.reverse_cons, List.append_assoc, List.singleton_append] at hrest
    rw [writeMembers, List.append_assoc, List.append_assoc]
    exact (reads_separator fun _ => rfl).trans ((h v List.mem_cons_self _).trans hrest)

theorem reads_entries {entries : List (String × Value)}
    (h : ∀ e ∈ entries, ∀ before k, Reads (.value false (.mapping before k :: stack))
      (write indent (depth + 1) e.2) (.done e.2 (.mapping before k :: stack)))
    (last : Value) (before : List (Value × Value)) (k : Value) :
    Reads (.done last (.mapping before k :: stack))
      (writeEntries indent (depth + 1) (entries.map fun e => (.text e.1, e.2)) ++
        (lineStart indent depth ++ ['\x7d']))
      (.done (.mapping (Value.ofEntries
        (before.reverse ++ (k, last) :: entries.map fun e => (.text e.1, e.2)))) stack) := by
  induction entries generalizing last before k with
  | nil =>
    refine (reads_lineStart _ indent depth).trans (.step (s := []) rfl fun rest => ?_)
    simp [State.step, State.closeMapping]
  | cons e r ih =>
    have hrest := ih (fun d hd => h d (List.mem_cons_of_mem e hd)) e.2 ((k, last) :: before)
      (.text e.1)
    rw [List.reverse_cons, List.append_assoc, List.singleton_append] at hrest
    have hwritten : writeEntries indent (depth + 1) ((e :: r).map fun e => (.text e.1, e.2)) =
        separator indent (depth + 1) ++ (writeKey (.text e.1) ++ ([':', ' '] ++
          (write indent (depth + 1) e.2 ++
            writeEntries indent (depth + 1) (r.map fun e => (.text e.1, e.2))))) := by
      simp [writeEntries]
    rw [hwritten]
    simp only [List.append_assoc]
    exact (reads_separator fun _ => rfl).trans ((reads_key e.1 _).trans
      ((reads_colon _ _).trans ((h e List.mem_cons_self _ _).trans hrest)))

theorem write_list_cons (v : Value) (r : List Value) :
    write indent depth (.list (v :: r)) =
      ['['] ++ (lineStart indent (depth + 1) ++ (write indent (depth + 1) v ++
        (writeMembers indent (depth + 1) r ++ (lineStart indent depth ++ [']'])))) := by
  simp [write]

theorem write_mapping_cons (k v : Value) (r : List (Value × Value)) :
    write indent depth (.mapping ((k, v) :: r)) =
      ['\x7b'] ++ (lineStart indent (depth + 1) ++ (writeKey k ++ ([':', ' '] ++
        (write indent (depth + 1) v ++
          (writeEntries indent (depth + 1) r ++ (lineStart indent depth ++ ['\x7d'])))))) := by
  simp [write]

/-- The text of a value takes the machine from waiting for a value to having read this one, as long
as there is room for its levels. -/
theorem Nested.reads_write {levels : Nat} {v : Value} (h : Nested levels v)
    (hroom : stack.length + levels ≤ deepest) :
    Reads (.value first stack) (write indent depth v) (.done v stack) := by
  induction h generalizing first stack depth with
  | null => exact reads_scalar rfl (by decide) fun _ => rfl
  | bool b =>
    cases b
    · exact reads_scalar rfl (by decide) fun _ => rfl
    · exact reads_scalar rfl (by decide) fun _ => rfl
  | text s => exact reads_quote s
  | @list levels items h ih =>
    have hopening : Reads (.value first stack) ['['] (.value true (.list [] :: stack)) :=
      reads_opening false (by omega)
    -- Members are read with one collection more on the stack, and are nested one level less.
    have hmember (v : Value) (hv : v ∈ items) (first : Bool) (members : List Value) :
        Reads (.value first (.list members :: stack)) (write indent (depth + 1) v)
          (.done v (.list members :: stack)) :=
      ih v hv (by rw [List.length_cons]; omega)
    cases items with
    | nil => exact hopening.trans (.step (s := []) rfl fun _ => rfl)
    | cons v r =>
      rw [write_list_cons]
      exact hopening.trans ((reads_lineStart _ _ _).trans
        ((hmember v List.mem_cons_self true []).trans
          (reads_members (fun w hw members => hmember w (List.mem_cons_of_mem v hw) false members)
            v [])))
  | @mapping levels entries distinct h ih =>
    have hopening : Reads (.value first stack) ['\x7b'] (.key true [] stack) :=
      reads_opening true (by omega)
    have hentry (e : String × Value) (he : e ∈ entries) (before : List (Value × Value)) (k : Value) :
        Reads (.value false (.mapping before k :: stack)) (write indent (depth + 1) e.2)
          (.done e.2 (.mapping before k :: stack)) :=
      ih e he (by rw [List.length_cons]; omega)
    cases entries with
    | nil => exact hopening.trans (.step (s := []) rfl fun _ => rfl)
    | cons e r =>
      have hrest := reads_entries (fun d hd => hentry d (List.mem_cons_of_mem e hd)) e.2 []
        (.text e.1)
      have hsame : Value.ofEntries ((.text e.1, e.2) :: r.map fun e => (.text e.1, e.2)) =
          (.text e.1, e.2) :: r.map fun e => (.text e.1, e.2) :=
        Value.ofEntries_text_of_nodup distinct
      rw [List.reverse_nil, List.nil_append, hsame] at hrest
      rw [Value.ofDictEntries, List.map_cons, write_mapping_cons]
      exact hopening.trans ((reads_lineStart _ _ _).trans ((reads_key e.1 []).trans
        ((reads_colon _ _).trans ((hentry e List.mem_cons_self _ _).trans hrest))))

theorem Nested.read_write {levels : Nat} {v : Value} (h : Nested levels v)
    (hlevels : levels ≤ deepest) {spaces : List Char} (hspaces : ∀ c ∈ spaces, isSpace c = true) :
    read (write indent 0 v ++ spaces) = .ok v :=
  ((h.reads_write (by simpa using hlevels)).trans (.spaces _ hspaces)).read_eq

/-- A text whose only control characters are line feeds, and none of these without an indent. -/
def LaidOut (indent : Nat) (s : List Char) : Prop :=
  ∀ c ∈ s, 32 ≤ c.toNat ∨ c = '\n' ∧ indent ≠ 0

namespace LaidOut

variable {s t : List Char}

theorem append (hs : LaidOut indent s) (ht : LaidOut indent t) : LaidOut indent (s ++ t) :=
  List.forall_mem_append.mpr ⟨hs, ht⟩

theorem of_le (h : ∀ c ∈ s, 32 ≤ c.toNat) : LaidOut indent s := fun c hc => .inl (h c hc)

theorem of_all (h : s.all (fun c => decide (32 ≤ c.toNat)) = true) : LaidOut indent s :=
  of_le fun c hc => of_decide_eq_true (List.all_eq_true.mp h c hc)

theorem lineStart (indent depth : Nat) : LaidOut indent (lineStart indent depth) := by
  intro c hc
  unfold Json.lineStart at hc
  split at hc
  · simp at hc
  · rename_i hindent
    rcases List.mem_cons.mp hc with rfl | hc
    · exact .inr ⟨rfl, hindent⟩
    · rw [List.eq_of_mem_replicate hc]
      exact .inl (by decide)

theorem separator (indent depth : Nat) : LaidOut indent (separator indent depth) := by
  unfold Json.separator
  split
  · exact of_all (by decide)
  · exact (of_all (s := [',']) (by decide)).append (.lineStart indent depth)

theorem writeMembers {items : List Value} (h : ∀ v ∈ items, LaidOut indent (write indent depth v)) :
    LaidOut indent (writeMembers indent depth items) := by
  induction items with
  | nil => exact fun c hc => absurd hc List.not_mem_nil
  | cons v r ih =>
    rw [List.forall_mem_cons] at h
    exact ((LaidOut.separator indent depth).append h.1).append (ih h.2)

theorem writeEntries {entries : List (Value × Value)}
    (h : ∀ e ∈ entries, LaidOut indent (write indent depth e.2)) :
    LaidOut indent (writeEntries indent depth entries) := by
  induction entries with
  | nil => exact fun c hc => absurd hc List.not_mem_nil
  | cons e r ih =>
    rw [List.forall_mem_cons] at h
    have hentry : LaidOut indent (':' :: ' ' :: write indent depth e.2) :=
      (of_all (s := [':', ' ']) (by decide)).append h.1
    exact (((LaidOut.separator indent depth).append (of_le (le_of_mem_quote _))).append
      hentry).append (ih h.2)

end LaidOut

/-- Line feeds are the only control characters in the text of a value. -/
theorem Nested.laidOut_write {levels : Nat} {v : Value} (h : Nested levels v) :
    LaidOut indent (write indent depth v) := by
  induction h generalizing depth with
  | null => exact .of_all (s := "null".toList) (by decide)
  | bool b =>
    cases b
    · exact .of_all (s := "false".toList) (by decide)
    · exact .of_all (s := "true".toList) (by decide)
  | text s => exact .of_le (le_of_mem_quote s)
  | @list levels items h ih =>
    cases items with
    | nil => exact .of_all (s := ['[', ']']) (by decide)
    | cons v r =>
      rw [List.forall_mem_cons] at ih
      rw [write_list_cons]
      exact (LaidOut.of_all (by decide)).append ((LaidOut.lineStart _ _).append (ih.1.append
        ((LaidOut.writeMembers fun w hw => ih.2 w hw).append
          ((LaidOut.lineStart _ _).append (.of_all (by decide))))))
  | @mapping levels entries distinct h ih =>
    cases entries with
    | nil => exact .of_all (s := ['\x7b', '\x7d']) (by decide)
    | cons e r =>
      rw [List.forall_mem_cons] at ih
      have hrest : ∀ d ∈ r.map fun e => (Value.text e.1, e.2),
          LaidOut indent (write indent (depth + 1) d.2) := by
        intro d hd
        obtain ⟨e, he, rfl⟩ := List.mem_map.mp hd
        exact ih.2 e he
      rw [Value.ofDictEntries, List.map_cons, write_mapping_cons]
      exact (LaidOut.of_all (by decide)).append ((LaidOut.lineStart _ _).append
        ((LaidOut.of_le (le_of_mem_quote _)).append ((LaidOut.of_all (by decide)).append
          (ih.1.append ((LaidOut.writeEntries hrest).append
            ((LaidOut.lineStart _ _).append (.of_all (by decide))))))))

end EntitySchema.Json
