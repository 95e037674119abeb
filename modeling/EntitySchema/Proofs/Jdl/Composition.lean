import EntitySchema.Proofs.Jdl.Find
import EntitySchema.Proofs.Jdl.Header

/-! Relationship blocks of two texts, one behind the other. A find in the first text is the same find
when more text follows, and where the first text ends in blanks behind its last block no head lies
across the seam, so the search takes the two texts one by one (`extractRelationships_append`). -/
namespace EntitySchema.Jdl

open Text (isBlank isWordChar)

/-- Where the depth gets back to zero, the last character that is read closes a block, and what follows
makes no difference. -/
theorem readToClosing_zero {depth : Int} {s : List Char} {n : Nat} (hd : 0 < depth)
    (h : readToClosing depth s = (n, 0)) :
    ∃ front rest, s = front ++ '}' :: rest ∧ n = front.length + 1 ∧
      ∀ t, readToClosing depth (s ++ t) = (n, 0) := by
  induction s generalizing depth n with
  | nil =>
    have : depth = 0 := congrArg Prod.snd h
    omega
  | cons c r ih =>
    have hread (t : List Char) : readToClosing depth (c :: t) =
        ((readToClosing (depth + depthChange c) t).1 + 1,
          (readToClosing (depth + depthChange c) t).2) := by
      rw [readToClosing, if_pos hd]
    obtain ⟨hn, hzero⟩ := Prod.mk.inj ((hread r).symm.trans h)
    by_cases hnext : 0 < depth + depthChange c
    · obtain ⟨front, rest, rfl, hlength, hmore⟩ := ih hnext (Prod.ext rfl hzero)
      refine ⟨c :: front, rest, rfl, by rw [List.length_cons, ← hlength, hn], fun t => ?_⟩
      rw [List.cons_append, hread, hmore, hn]
    · have hclose : c = '}' ∧ depth + depthChange c = 0 := by
        unfold depthChange at hnext ⊢
        split at hnext
        · omega
        · split at hnext
          · rename_i hopen hc
            rw [if_neg hopen, if_pos hc]
            exact ⟨hc, by omega⟩
          · omega
      have hstop (t : List Char) : readToClosing 0 t = (0, 0) := by
        cases t <;> simp [readToClosing]
      rw [hclose.2, hstop] at hn
      refine ⟨[], r, by rw [hclose.1]; rfl, hn.symm, fun t => ?_⟩
      rw [List.cons_append, hread, hclose.2, hstop, hn]

/-- A body ends at a closing brace, and is the same when more text follows. -/
theorem splitAtClosing?_eq_some {s body rest : List Char} (h : splitAtClosing? s = some (body, rest)) :
    s = body ++ '}' :: rest ∧ ∀ t, splitAtClosing? (s ++ t) = some (body, rest ++ t) := by
  simp only [splitAtClosing?, Option.ite_none_right_eq_some, Option.some.injEq,
    Prod.mk.injEq] at h
  obtain ⟨hzero, rfl, rfl⟩ := h
  obtain ⟨front, rest, hs, hn, hmore⟩ := readToClosing_zero (by decide)
    (show readToClosing 1 s = ((readToClosing 1 s).1, 0) from Prod.ext rfl hzero)
  have htake (t : List Char) : (s ++ t).take ((readToClosing 1 s).1 - 1) = front := by
    rw [hn, hs, Nat.add_sub_cancel, List.append_assoc, List.take_left]
  have hdrop (t : List Char) : (s ++ t).drop (readToClosing 1 s).1 = rest ++ t := by
    have hlength : front.length + 1 = (front ++ ['}']).length := by simp
    have hshape : front ++ '}' :: rest ++ t = front ++ ['}'] ++ (rest ++ t) := by simp
    rw [hn, hs, hlength, hshape, List.drop_left]
  have htakeSelf := htake []
  have hdropSelf := hdrop []
  rw [List.append_nil] at htakeSelf hdropSelf
  rw [htakeSelf, hdropSelf, List.append_nil]
  refine ⟨hs, fun t => ?_⟩
  simp only [splitAtClosing?, hmore t, if_true, htake, hdrop]

namespace RelationshipBlock

/-- Reads the block at the head of a text. One that is never closed takes the rest of the text; it is
known by its type and the length of the text from its head on. -/
def read? (afterWord : Bool) (s : List Char) :
    Option ((RelationshipBlock ⊕ String × Nat) × List Char) :=
  if afterWord then none
  else (readRelationshipHead? s).map fun (type, inner) =>
    match splitAtClosing? inner with
    | some (body, rest) => (.inl ⟨String.ofList type, body⟩, rest)
    | none => (.inr (String.ofList type, s.length), [])

theorem read?_of_closed {s type inner body rest : List Char}
    (hhead : readRelationshipHead? s = some (type, inner))
    (hbody : splitAtClosing? inner = some (body, rest)) :
    read? false s = some (.inl ⟨String.ofList type, body⟩, rest) := by
  simp [read?, hhead, hbody]

theorem read?_of_unterminated {s type inner : List Char}
    (hhead : readRelationshipHead? s = some (type, inner)) (hbody : splitAtClosing? inner = none) :
    read? false s = some (.inr (String.ofList type, s.length), []) := by
  simp [read?, hhead, hbody]

theorem read?_eq_none_iff {afterWord : Bool} {s : List Char} :
    read? afterWord s = none ↔ (if afterWord then none else readRelationshipHead? s) = none := by
  unfold read?
  split <;> simp

theorem exists_of_read? {afterWord : Bool} {s rest : List Char} {x : RelationshipBlock ⊕ String × Nat}
    (h : read? afterWord s = some (x, rest)) :
    afterWord = false ∧ ∃ type inner, readRelationshipHead? s = some (type, inner) := by
  unfold read? at h
  split at h
  · cases h
  · rename_i hword
    rw [Option.map_eq_some_iff] at h
    obtain ⟨⟨type, inner⟩, hhead, -⟩ := h
    exact ⟨by simpa using hword, type, inner, hhead⟩

/-- A closed block has its head, its body and its brace in front of what follows. -/
theorem exists_of_read?_inl {afterWord : Bool} {s rest : List Char} {b : RelationshipBlock}
    (h : read? afterWord s = some (.inl b, rest)) :
    ∃ type header, (∀ c ∈ type, c.isAlpha = true) ∧
      HeaderText "relationship".toList type header ∧ b.type = String.ofList type ∧
      splitAtClosing? (b.body ++ '}' :: rest) = some (b.body, rest) ∧
      s = header ++ (b.body ++ '}' :: rest) := by
  obtain ⟨rfl, type, inner, hhead⟩ := exists_of_read? h
  cases hbody : splitAtClosing? inner with
  | none =>
    rw [read?_of_unterminated hhead hbody] at h
    cases h
  | some split =>
    obtain ⟨body, rest'⟩ := split
    rw [read?_of_closed hhead hbody] at h
    cases h
    obtain ⟨halpha, header, hheader, rfl⟩ := readRelationshipHead?_eq_some_iff.mp hhead
    have hinner := (splitAtClosing?_eq_some hbody).1
    exact ⟨type, header, halpha, hheader, rfl, hinner ▸ hbody, congrArg (header ++ ·) hinner⟩

theorem of_read?_inr {afterWord : Bool} {s rest : List Char} {u : String × Nat}
    (h : read? afterWord s = some (.inr u, rest)) : u.2 = s.length ∧ rest = [] := by
  obtain ⟨rfl, type, inner, hhead⟩ := exists_of_read? h
  cases hbody : splitAtClosing? inner with
  | none =>
    rw [read?_of_unterminated hhead hbody] at h
    cases h
    exact ⟨rfl, rfl⟩
  | some split =>
    rw [read?_of_closed hhead hbody] at h
    cases h

theorem brace_mem_of_read? {afterWord : Bool} {s rest : List Char}
    {x : RelationshipBlock ⊕ String × Nat} (h : read? afterWord s = some (x, rest)) : '{' ∈ s := by
  obtain ⟨-, type, inner, hhead⟩ := exists_of_read? h
  obtain ⟨-, header, ⟨-, -, -, -⟩, rfl⟩ := readRelationshipHead?_eq_some_iff.mp hhead
  simp

theorem read?_cons_of_blank {c : Char} (h : isBlank c = true) (afterWord : Bool) (s : List Char) :
    read? afterWord (c :: s) = none := by
  rw [Option.eq_none_iff_forall_ne_some]
  rintro ⟨x, rest⟩ hx
  obtain ⟨-, type, inner, hhead⟩ := exists_of_read? hx
  obtain ⟨-, header, ⟨-, -, -, -⟩, he⟩ := readRelationshipHead?_eq_some_iff.mp hhead
  obtain rfl : c = 'r' := (List.cons.inj he).1
  exact absurd h (by decide)

theorem closing_read? : Closing read? where
  shape := by
    rintro b s rest (block | cut) h
    · obtain ⟨type, header, -, -, -, -, rfl⟩ := exists_of_read?_inl h
      exact .inl ⟨header ++ block.body, by simp⟩
    · exact .inr ⟨List.ne_nil_of_mem (brace_mem_of_read? h), (of_read?_inr h).2⟩

theorem read?_append_of_inl {afterWord : Bool} {s rest : List Char} {b : RelationshipBlock}
    (h : read? afterWord s = some (.inl b, rest)) (t : List Char) :
    read? afterWord (s ++ t) = some (.inl b, rest ++ t) := by
  obtain ⟨rfl, -⟩ := exists_of_read? h
  obtain ⟨type, header, halpha, hheader, htype, hbody, rfl⟩ := exists_of_read?_inl h
  have hhead : readRelationshipHead? (header ++ (b.body ++ '}' :: rest) ++ t) =
      some (type, b.body ++ '}' :: rest ++ t) :=
    readRelationshipHead?_eq_some_iff.mpr ⟨halpha, header, hheader, by simp⟩
  rw [read?_of_closed hhead ((splitAtClosing?_eq_some hbody).2 t), ← htype]

/-- A head whose brace stands in the first of two texts is read in that text alone. -/
theorem read?_eq_none_append {afterWord : Bool} {s : List Char} (h : read? afterWord s = none)
    (hs : '{' ∈ s) (t : List Char) : read? afterWord (s ++ t) = none := by
  rw [Option.eq_none_iff_forall_ne_some]
  rintro ⟨x, rest⟩ hx
  obtain ⟨rfl, type, inner, hhead⟩ := exists_of_read? hx
  obtain ⟨halpha, header, hheader, he⟩ := readRelationshipHead?_eq_some_iff.mp hhead
  obtain ⟨within, hwithin, -⟩ := hheader.eq_append_of_mem (by decide) he
    ⟨'{', hs, by decide, by decide⟩
  have hread := readRelationshipHead?_eq_some_iff.mpr ⟨halpha, header, hheader, hwithin⟩
  rw [read?_eq_none_iff, if_neg (by decide), hread] at h
  cases h

end RelationshipBlock

namespace RelationshipBlocks

/-- The search with offsets returns what the blocks in turn are; the place of one that is never closed
is told by the length of the text from there on. -/
theorem readFrom_eq (offset : Nat) (afterWord : Bool) (s : List Char) :
    readFrom offset afterWord s =
      ⟨(findBlocks RelationshipBlock.read? afterWord s).filterMap Sum.getLeft?,
        ((findBlocks RelationshipBlock.read? afterWord s).findSome? Sum.getRight?).map fun u =>
          (u.1, offset + s.length - u.2)⟩ := by
  fun_induction readFrom offset afterWord s with
  | case1 => simp [findBlocks]
  | case2 offset afterWord c r type inner hhead body rest hbody block hlt later ih =>
    rw [dite_eq_ite, Option.ite_none_left_eq_some, Bool.not_eq_true] at hhead
    obtain ⟨rfl, hhead⟩ := hhead
    have hread := RelationshipBlock.read?_of_closed hhead hbody
    have hoffset : offset + ((c :: r).length - rest.length) + rest.length =
        offset + (c :: r).length := by omega
    rw [hoffset] at ih
    rw [findBlocks, hread]
    simp only [dif_pos hlt, later, ih]
    rfl
  | case3 offset afterWord c r type inner hhead body rest hbody block hlt =>
    rw [dite_eq_ite, Option.ite_none_left_eq_some, Bool.not_eq_true] at hhead
    obtain ⟨rfl, hhead⟩ := hhead
    have hread := RelationshipBlock.read?_of_closed hhead hbody
    exact absurd (RelationshipBlock.closing_read?.length_lt hread) hlt
  | case4 offset afterWord c r type inner hhead hbody =>
    rw [dite_eq_ite, Option.ite_none_left_eq_some, Bool.not_eq_true] at hhead
    obtain ⟨rfl, hhead⟩ := hhead
    have hread := RelationshipBlock.read?_of_unterminated hhead hbody
    rw [findBlocks, hread]
    simp [findBlocks]
  | case5 offset afterWord c r hhead ih =>
    rw [dite_eq_ite] at hhead
    rw [findBlocks_cons_of_none (RelationshipBlock.read?_eq_none_iff.mpr hhead), ih]
    congr 2
    funext u
    rw [List.length_cons]
    congr 1
    omega

def located (s : List Char) : List (Found (RelationshipBlock ⊕ String × Nat)) :=
  locate RelationshipBlock.read? false s

/-- What stands behind the last block of a text: all of the text when it has none. -/
def remainder (s : List Char) : List Char := ((located s).getLast?.map Found.behind).getD s

theorem finds_located (s : List Char) : Finds RelationshipBlock.read? false s (located s) :=
  finds_locate RelationshipBlock.closing_read? false s

theorem findBlocks_eq_map_located (s : List Char) :
    findBlocks RelationshipBlock.read? false s = (located s).map Found.block :=
  (finds_located s).findBlocks_eq RelationshipBlock.closing_read?

/-- No block is left open just when all blocks are closed ones. -/
theorem unterminated_read_eq_none_iff (s : List Char) :
    (read s).unterminated = none ↔ ∀ f ∈ located s, ∃ b, f.block = .inl b := by
  rw [read, readFrom_eq, Option.map_eq_none_iff, findBlocks_eq_map_located, List.findSome?_eq_none_iff]
  simp only [List.mem_map, forall_exists_index, and_imp, forall_apply_eq_imp_iff₂,
    Sum.getRight?_eq_none_iff, Sum.isLeft_iff]

/-- A text ends within a head: its last words begin one that can be finished in the lines behind. -/
def EndsInHead (afterWord : Bool) (s : List Char) : Prop :=
  ∃ before front t, s = before ++ front ∧ endsInWord afterWord before = false ∧ '{' ∉ front ∧
    (readRelationshipHead? (front ++ '\n' :: t)).isSome

theorem EndsInHead.cons {afterWord : Bool} {c : Char} {s : List Char}
    (h : EndsInHead (isWordChar c) s) : EndsInHead afterWord (c :: s) := by
  obtain ⟨before, front, t, rfl, hword, hbrace, hhead⟩ := h
  exact ⟨c :: before, front, t, rfl, by rwa [endsInWord_cons], hbrace, hhead⟩

theorem not_endsInHead_of_blank {afterWord : Bool} {s : List Char} (h : ∀ c ∈ s, isBlank c = true) :
    ¬EndsInHead afterWord s := by
  rintro ⟨before, front, t, rfl, -, -, hhead⟩
  have hfeed : ∀ c ∈ (front ++ '\n' :: t).head?, isBlank c = true := by
    intro c hc
    cases front with
    | nil => exact Option.some.inj hc ▸ (by decide)
    | cons d front => exact h c (by simp [Option.some.inj hc])
  obtain ⟨⟨type, inner⟩, hhead⟩ := Option.isSome_iff_exists.mp hhead
  obtain ⟨-, header, ⟨-, -, -, -⟩, he⟩ := readRelationshipHead?_eq_some_iff.mp hhead
  rw [he] at hfeed
  exact absurd (hfeed 'r' rfl) (by decide)

/-- A search that finds nothing in a text finds in its lines and those behind it what it finds in the
latter, unless the text ends within a head. -/
theorem findBlocks_append_of_none {afterWord : Bool} {s : List Char}
    (hrun : Finds RelationshipBlock.read? afterWord s []) (hend : ¬EndsInHead afterWord s)
    (t : List Char) : findBlocks RelationshipBlock.read? afterWord (s ++ '\n' :: t) =
      findBlocks RelationshipBlock.read? false t := by
  generalize hfs : ([] : List (Found (RelationshipBlock ⊕ String × Nat))) = fs at hrun
  induction hrun with
  | @nil afterWord =>
    have hfeed : isWordChar '\n' = false := by decide
    rw [List.nil_append, findBlocks_cons_of_none, hfeed]
    exact RelationshipBlock.read?_cons_of_blank (by decide) afterWord t
  | @skip afterWord c r fs hr later ih =>
    have hskip : RelationshipBlock.read? afterWord (c :: r ++ '\n' :: t) = none := by
      rw [Option.eq_none_iff_forall_ne_some]
      rintro ⟨x, rest⟩ hx
      obtain ⟨rfl, type, inner, hhead⟩ := RelationshipBlock.exists_of_read? hx
      by_cases hbrace : '{' ∈ c :: r
      · rw [RelationshipBlock.read?_eq_none_append hr hbrace] at hx
        cases hx
      · exact hend ⟨[], c :: r, t, rfl, rfl, hbrace, by rw [hhead]; rfl⟩
    rw [List.cons_append] at hskip ⊢
    rw [findBlocks_cons_of_none hskip, ih (fun h => hend h.cons) hfs]
  | find => cases hfs

/-- Behind a text with closed blocks the search goes on right behind the last of them. -/
theorem findBlocks_append_of_last {afterWord : Bool} {s : List Char}
    {fs : List (Found (RelationshipBlock ⊕ String × Nat))}
    {last : Found (RelationshipBlock ⊕ String × Nat)}
    (hrun : Finds RelationshipBlock.read? afterWord s fs) (hclosed : ∀ f ∈ fs, ∃ b, f.block = .inl b)
    (hlast : fs.getLast? = some last) (t : List Char) :
    findBlocks RelationshipBlock.read? afterWord (s ++ t) =
      fs.map Found.block ++ findBlocks RelationshipBlock.read? false (last.behind ++ t) := by
  induction hrun with
  | nil => cases hlast
  | skip hr later ih =>
    -- What would be read across the seam has its brace in the text, in front of the last block.
    obtain ⟨before, rfl, hread⟩ := later.exists_of_mem RelationshipBlock.closing_read?
      (List.mem_of_getLast? hlast)
    have hbrace := RelationshipBlock.brace_mem_of_read? hread
    have hskip := RelationshipBlock.read?_eq_none_append hr (by simp [hbrace]) t
    rw [List.cons_append] at hskip ⊢
    rw [findBlocks_cons_of_none hskip, ih hclosed hlast]
  | @find afterWord s rest a fs hr later ih =>
    obtain ⟨b, rfl⟩ := hclosed _ List.mem_cons_self
    have hread := RelationshipBlock.read?_append_of_inl hr t
    rw [findBlocks_of_some hread (RelationshipBlock.closing_read?.length_lt hread)]
    cases fs with
    | nil =>
      obtain rfl := Option.some.inj hlast
      rfl
    | cons f fs =>
      rw [ih (fun f hf => hclosed f (List.mem_cons_of_mem _ hf)) (by simpa using hlast)]
      rfl

/-- Behind a text whose blocks are closed, and in which no head is begun behind the last of them, the
search goes on as at the start of a text. -/
theorem findBlocks_append {s : List Char} (hclosed : ∀ f ∈ located s, ∃ b, f.block = .inl b)
    (hend : ¬EndsInHead false (remainder s)) (t : List Char) :
    findBlocks RelationshipBlock.read? false (s ++ '\n' :: t) =
      findBlocks RelationshipBlock.read? false s ++ findBlocks RelationshipBlock.read? false t := by
  have hrun := finds_located s
  rw [findBlocks_eq_map_located s]
  unfold remainder at hend
  cases hlast : (located s).getLast? with
  | none =>
    rw [List.getLast?_eq_none_iff] at hlast
    rw [hlast] at hrun hend ⊢
    exact findBlocks_append_of_none hrun hend t
  | some last =>
    rw [hlast] at hend
    rw [findBlocks_append_of_last hrun hclosed hlast,
      findBlocks_append_of_none (hrun.behind_last hlast) hend]

/-- A block that is never closed is known by a length of what is left of the text. -/
theorem length_le_of_findSome? {t : List Char} {u : String × Nat}
    (h : (findBlocks RelationshipBlock.read? false t).findSome? Sum.getRight? = some u) :
    u.2 ≤ t.length := by
  obtain ⟨x, hx, hu⟩ := List.exists_of_findSome?_eq_some h
  rw [findBlocks_eq_map_located] at hx
  obtain ⟨f, hf, rfl⟩ := List.mem_map.mp hx
  obtain ⟨before, rfl, hread⟩ := (finds_located t).exists_of_mem RelationshipBlock.closing_read? hf
  rw [Sum.getRight?_eq_some_iff] at hu
  rw [hu] at hread
  rw [(RelationshipBlock.of_read?_inr hread).1, List.length_append]
  exact Nat.le_add_left _ _

end RelationshipBlocks

/-- The blocks and records of two texts, one behind the other, are those of the first and then those of
the second, when the first leaves no block open and has only blanks behind its last block, or at least
no head there that the second might finish. A block that is never closed keeps its type and has its
place moved. Blocks do not overlap: each starts behind the one before it, so no head within a body
starts a block. -/
theorem extractRelationships_append (a b : List Char)
    (hclosed : (RelationshipBlocks.read a).unterminated = none)
    (hend : (∀ c ∈ RelationshipBlocks.remainder a, isBlank c = true) ∨
      ¬RelationshipBlocks.EndsInHead false (RelationshipBlocks.remainder a)) :
    (extractRelationships (a ++ '\n' :: b)).1 =
        (extractRelationships a).1 ++ (extractRelationships b).1 ∧
      RelationshipBlocks.read (a ++ '\n' :: b) =
        ⟨(RelationshipBlocks.read a).closed ++ (RelationshipBlocks.read b).closed,
          (RelationshipBlocks.read b).unterminated.map fun u => (u.1, a.length + 1 + u.2)⟩ ∧
      (RelationshipBlocks.located a).Pairwise fun f g => g.start <:+ f.behind := by
  have hleft := (RelationshipBlocks.unterminated_read_eq_none_iff a).mp hclosed
  have hfind := RelationshipBlocks.findBlocks_append hleft
    (hend.elim RelationshipBlocks.not_endsInHead_of_blank id) b
  have hread : RelationshipBlocks.read (a ++ '\n' :: b) =
      ⟨(RelationshipBlocks.read a).closed ++ (RelationshipBlocks.read b).closed,
        (RelationshipBlocks.read b).unterminated.map fun u => (u.1, a.length + 1 + u.2)⟩ := by
    have hnone := hclosed
    rw [RelationshipBlocks.read, RelationshipBlocks.readFrom_eq, Option.map_eq_none_iff] at hnone
    simp only [RelationshipBlocks.read, RelationshipBlocks.readFrom_eq, hfind, List.filterMap_append,
      List.findSome?_append, hnone, Option.none_or, Option.map_map]
    congr 1
    refine Option.map_congr fun u hu => ?_
    have hle := RelationshipBlocks.length_le_of_findSome? hu
    simp only [Function.comp_apply, List.length_append, List.length_cons, Prod.mk.injEq, true_and]
    omega
  refine ⟨?_, hread, (RelationshipBlocks.finds_located a).pairwise RelationshipBlock.closing_read?⟩
  change (RelationshipBlocks.read (a ++ '\n' :: b)).closed.flatMap _ = _
  rw [hread, List.flatMap_append]
  rfl

/-- A head within a body of the first text, and a block that the second never closes. -/
theorem extractRelationships_append_nested :
    let a := ("relationship OneToOne \x7b\n  A{b} to B,\n  relationship OneToMany { C to D }\n" ++
      "\x7d\n  ").toList
    let b := "relationship ManyToOne { E to F }\nrelationship OneToOne \x7b G to H".toList
    (extractRelationships (a ++ '\n' :: b)).1 =
        [⟨"OneToOne", "A", "B", some "b", none⟩, ⟨"ManyToOne", "E", "F", none, none⟩] ∧
      (RelationshipBlocks.read (a ++ '\n' :: b)).unterminated =
        some ("OneToOne", a.length + 1 + 34) := by
  intro a b
  have hclosed : (RelationshipBlocks.read a).unterminated = none := by decide +kernel
  have hblank : (RelationshipBlocks.remainder a).all isBlank = true := by decide +kernel
  obtain ⟨hrecords, hblocks, -⟩ :=
    extractRelationships_append a b hclosed (.inl (List.all_eq_true.mp hblank))
  have ha : (extractRelationships a).1 = [⟨"OneToOne", "A", "B", some "b", none⟩] := by decide +kernel
  have hb : (extractRelationships b).1 = [⟨"ManyToOne", "E", "F", none, none⟩] := by decide +kernel
  have hcut : (RelationshipBlocks.read b).unterminated = some ("OneToOne", 34) := by decide +kernel
  exact ⟨by rw [hrecords, ha, hb]; rfl, by rw [hblocks, hcut]; rfl⟩

end EntitySchema.Jdl
