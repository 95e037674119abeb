import EntitySchema.Proofs.Jdl.Collect
import EntitySchema.Proofs.Jdl.Composition
import EntitySchema.Proofs.Jdl.Document
import EntitySchema.Proofs.Jdl.Records
import EntitySchema.Proofs.Jdl.Shape

/-! An entity written on one line, with commas between its fields. Only line feeds part the fields of an
entity, so the line declares its first field and all behind the comma counts as flags: the other fields
are lost without a finding, and the first is required if any word of theirs is `required`
(`parse_oneLine`). -/
namespace EntitySchema.Jdl

open Text (isBlank isWordChar pieces trim)

section Words

variable {letters : List Char}

def isSpelled (letters w : List Char) : Bool := afterLetters? letters w == some []

/-- The word ends here: what follows is neither a word character nor one of the letters. -/
def EndsWord (letters s : List Char) : Prop :=
  ∀ c ∈ s.head?, isWordChar c = false ∧ ∀ k ∈ letters, matchesLetter k c = false

theorem endsWordHere_append {w s : List Char} (hw : ∀ c ∈ w, isWordChar c = true)
    (hs : EndsWord letters s) : endsWordHere letters (w ++ s) = isSpelled letters w := by
  induction letters generalizing w with
  | nil =>
    cases w with
    | nil =>
      cases s with
      | nil => rfl
      | cons c s => simp [endsWordHere, isSpelled, afterLetters?, (hs c rfl).1]
    | cons c w => simp [endsWordHere, isSpelled, afterLetters?, hw c (by simp)]
  | cons k letters ih =>
    have hlater : EndsWord letters s := fun c hc =>
      ⟨(hs c hc).1, fun k hk => (hs c hc).2 k (List.mem_cons_of_mem _ hk)⟩
    cases w with
    | nil =>
      cases s with
      | nil => rfl
      | cons c s => simp [endsWordHere, isSpelled, afterLetters?, (hs c rfl).2 k (by simp)]
    | cons c w =>
      by_cases hc : matchesLetter k c = true
      · have hword := ih (fun d hd => hw d (List.mem_cons_of_mem _ hd)) hlater
        simpa [endsWordHere, isSpelled, afterLetters?, hc] using hword
      · simp [endsWordHere, isSpelled, afterLetters?, hc]

theorem hasLetters_of_endsWord (hne : letters ≠ []) {s : List Char} (hs : EndsWord letters s)
    (b : Bool) : hasLetters letters true b s = hasLetters letters true false s.tail := by
  cases s with
  | nil => rfl
  | cons c s =>
    obtain ⟨k, rest, rfl⟩ := List.exists_cons_of_ne_nil hne
    obtain ⟨hword, hletters⟩ := hs c rfl
    have hhere : endsWordHere (k :: rest) (c :: s) = false := by
      simp [endsWordHere, afterLetters?, hletters k (by simp)]
    rw [hasLetters, hhere, hword, Bool.and_false, Bool.false_or, List.tail_cons]

/-- Letters are found as a word in a text when its first word is spelled so, or behind it. -/
theorem hasLetters_word (hne : letters ≠ []) {w s : List Char} (hw : isName w = true)
    (hs : EndsWord letters s) : hasLetters letters true false (w ++ s) =
      (isSpelled letters w || hasLetters letters true false s.tail) := by
  have hwords := all_isWordChar_of_isName hw
  obtain ⟨c, w, rfl⟩ := List.exists_cons_of_ne_nil (isName_ne_nil hw)
  have hwithin (u : List Char) (hu : ∀ d ∈ u, isWordChar d = true) :
      hasLetters letters true true (u ++ s) = hasLetters letters true false s.tail := by
    induction u with
    | nil => exact hasLetters_of_endsWord hne hs true
    | cons d u ih =>
      rw [List.cons_append, hasLetters, hu d (by simp), ih fun e he => hu e (by simp [he])]
      rfl
  have hhere := endsWordHere_append hwords hs
  rw [List.cons_append] at hhere ⊢
  rw [hasLetters, hhere, hwords c (by simp), hwithin w fun d hd => hwords d (by simp [hd])]
  rfl

end Words

/-- A field `name Type` or `name Type required`, with any names. -/
structure InlineField where
  name : List Char
  type : List Char
  required : Bool
  isName_name : isName name = true
  isName_type : isName type = true

namespace InlineField

def flags (d : InlineField) : List Char := if d.required then ' ' :: "required".toList else []

def text (d : InlineField) : List Char := d.name ++ ' ' :: (d.type ++ d.flags)

def field (d : InlineField) : Field where
  name := String.ofList d.name
  type := String.ofList d.type
  required := d.required
  nullable := !d.required
  name_ne_empty := fun h => isName_ne_nil d.isName_name (String.ofList_eq_empty_iff.mp h)
  type_ne_empty := fun h => isName_ne_nil d.isName_type (String.ofList_eq_empty_iff.mp h)

def saysRequired (d : InlineField) : Bool :=
  isSpelled "required".toList d.name || isSpelled "required".toList d.type || d.required

def behind (ds : List InlineField) : List Char := ds.flatMap fun d => ',' :: ' ' :: d.text

def line : List InlineField → List Char
  | [] => []
  | d :: ds => d.text ++ behind ds

/-- What a line of fields declares: the first of them, required if any of them says so. -/
def kept : List InlineField → List Field
  | [] => []
  | d :: ds =>
    let required := d.required || ds.any saysRequired
    [{ d.field with required, nullable := !required }]

theorem mem_text {d : InlineField} {c : Char} (h : c ∈ d.text) : isWordChar c = true ∨ c = ' ' := by
  simp only [text, flags, List.mem_append, List.mem_cons] at h
  rcases h with h | rfl | h | h
  · exact .inl (all_isWordChar_of_isName d.isName_name c h)
  · exact .inr rfl
  · exact .inl (all_isWordChar_of_isName d.isName_type c h)
  · split at h
    · have hrequired : isName "required".toList = true := by decide
      rcases List.mem_cons.mp h with rfl | h
      · exact .inr rfl
      · exact .inl (all_isWordChar_of_isName hrequired c h)
    · simp at h

theorem mem_behind {ds : List InlineField} {c : Char} (h : c ∈ behind ds) :
    isWordChar c = true ∨ c = ' ' ∨ c = ',' := by
  obtain ⟨d, -, hc⟩ := List.mem_flatMap.mp h
  rcases List.mem_cons.mp hc with rfl | hc
  · exact .inr (.inr rfl)
  · rcases List.mem_cons.mp hc with rfl | hc
    · exact .inr (.inl rfl)
    · exact (mem_text hc).imp_right .inl

theorem endsWord_of_mem {c : Char} (hc : c ∈ [' ', ',']) (s : List Char) :
    EndsWord "required".toList (c :: s) := by
  have hmarks : [' ', ','].all (fun c =>
      !isWordChar c && "required".toList.all fun k => !matchesLetter k c) = true := by decide
  have hmark := List.all_eq_true.mp hmarks c hc
  rw [Bool.and_eq_true, Bool.not_eq_true', List.all_eq_true] at hmark
  rintro d ⟨⟩
  exact ⟨hmark.1, fun k hk => by simpa using hmark.2 k hk⟩

theorem endsWord_behind (ds : List InlineField) : EndsWord "required".toList (behind ds) := by
  cases ds with
  | nil => rintro c ⟨⟩
  | cons d ds => exact endsWord_of_mem (by simp) _

theorem endsWord_flags (d : InlineField) (ds : List InlineField) :
    EndsWord "required".toList (d.flags ++ behind ds) := by
  unfold flags
  split
  · exact endsWord_of_mem (by simp) _
  · exact endsWord_behind ds

theorem hasLetters_flags (d : InlineField) (ds : List InlineField) :
    hasLetters "required".toList true false (d.flags ++ behind ds).tail =
      (d.required || hasLetters "required".toList true false (behind ds).tail) := by
  unfold flags
  split
  · rename_i h
    have hword := hasLetters_word (by decide) (by decide : isName "required".toList = true)
      (endsWord_behind ds)
    rw [h]
    exact hword
  · rename_i h
    simp [h]

/-- Behind the first field, `required` is found when a later field has it among its words. -/
theorem hasLetters_behind (ds : List InlineField) :
    hasLetters "required".toList true false (behind ds).tail = ds.any saysRequired := by
  induction ds with
  | nil => rfl
  | cons d ds ih =>
    have hshape : (behind (d :: ds)).tail =
        ' ' :: (d.name ++ ' ' :: (d.type ++ (d.flags ++ behind ds))) := by
      simp [behind, text]
    have hname := hasLetters_word (by decide) d.isName_name
      (endsWord_of_mem (by simp : ' ' ∈ [' ', ',']) (d.type ++ (d.flags ++ behind ds)))
    have htype := hasLetters_word (by decide) d.isName_type (endsWord_flags d ds)
    rw [hshape, hasLetters_of_endsWord (by decide) (endsWord_of_mem (by simp) _), List.tail_cons, hname,
      List.tail_cons, htype, hasLetters_flags, ih, List.any_cons, saysRequired]
    simp only [Bool.or_assoc]

theorem readFlags?_space {s : List Char} (hs : ∀ c ∈ s.head?, isBlank c = false) (hfeed : '\n' ∉ s) :
    readFlags? (' ' :: s) = some s := by
  have hdrop : s.dropWhile isBlank = s := Text.trimStart_of_head? hs
  have hlast : '\n' ∉ s.dropLast := fun h => hfeed (List.mem_of_mem_dropLast h)
  have hspace : isBlank ' ' = true := by decide
  simp [readFlags?, hdrop, hlast, hspace]

def withoutComma (s : List Char) : List Char :=
  match s with
  | ',' :: r => r
  | _ => s

/-- Behind the type of the first field all is flags. -/
theorem readFlags?_withoutComma (d : InlineField) (ds : List InlineField) :
    (readFlags? (withoutComma (d.flags ++ behind ds))).map (hasLetters "required".toList true false) =
      some (d.required || ds.any saysRequired) := by
  have hfeed : '\n' ∉ behind ds := by
    intro h
    rcases mem_behind h with h | h | h
    · exact absurd h (by decide)
    · exact absurd h (by decide)
    · exact absurd h (by decide)
  have hrequired := hasLetters_flags d ds
  rw [hasLetters_behind] at hrequired
  unfold flags at hrequired ⊢
  split at hrequired
  · have hread : readFlags? (' ' :: ("required".toList ++ behind ds)) =
        some ("required".toList ++ behind ds) := by
      refine readFlags?_space (isBlank_head?_of_isName (by decide) _) ?_
      exact fun h => (List.mem_append.mp h).elim (absurd · (by decide)) hfeed
    rename_i h
    rw [if_pos h]
    change (readFlags? (' ' :: ("required".toList ++ behind ds))).map _ = _
    rw [hread, Option.map_some]
    exact congrArg some hrequired
  · rename_i h
    rw [if_neg h, List.nil_append]
    rw [List.nil_append] at hrequired
    cases ds with
    | nil => simp [behind, withoutComma, readFlags?, hasLetters, h]
    | cons e ds =>
      have hshape : behind (e :: ds) = ',' :: ' ' :: (e.text ++ behind ds) := by simp [behind]
      rw [hshape] at hfeed hrequired ⊢
      have hread : readFlags? (' ' :: (e.text ++ behind ds)) = some (e.text ++ behind ds) := by
        refine readFlags?_space ?_ fun h => hfeed (by simp [h])
        rw [text, List.append_assoc]
        exact isBlank_head?_of_isName e.isName_name _
      rw [List.tail_cons, hasLetters_of_endsWord (by decide) (endsWord_of_mem (by simp) _),
        List.tail_cons] at hrequired
      change (readFlags? (' ' :: (e.text ++ behind ds))).map _ = _
      rw [hread, Option.map_some, hrequired]

theorem readFieldLine?_line (d : InlineField) (ds : List InlineField) :
    readFieldLine? (line (d :: ds)) = (kept (d :: ds)).head? := by
  obtain ⟨flags, hflags, hrequired⟩ := Option.map_eq_some_iff.mp (readFlags?_withoutComma d ds)
  have hspace : ∀ c ∈ (' ' :: (d.type ++ (d.flags ++ behind ds))).head?, isWordChar c = false := by
    rintro c ⟨⟩
    decide
  obtain ⟨i, hi, hiname⟩ := read?_append d.isName_name hspace
  obtain ⟨j, hj, hjname⟩ := read?_append d.isName_type (fun c hc => (endsWord_flags d ds c hc).1)
  have hblanks : afterBlanks? (' ' :: (d.type ++ (d.flags ++ behind ds))) =
      some (d.type ++ (d.flags ++ behind ds)) :=
    afterBlanks?_append (List.cons_ne_nil ' ' []) isBlank_of_mem_space
      (isBlank_head?_of_isName d.isName_type _)
  have hline : line (d :: ds) = d.name ++ ' ' :: (d.type ++ (d.flags ++ behind ds)) := by
    simp [line, text]
  rw [hline]
  simp only [readFieldLine?, Option.bind_eq_bind, hi, Option.bind_some, hblanks, hj]
  change (readFlags? (withoutComma (d.flags ++ behind ds))).bind _ = _
  rw [hflags, Option.bind_some]
  simp only [hrequired, kept, field, List.head?_cons, ← hiname, ← hjname]
  rfl

theorem line_cons_cons (d e : InlineField) (ds : List InlineField) :
    line (d :: e :: ds) = d.text ++ [',', ' '] ++ line (e :: ds) := by
  simp [line, behind]

theorem isWordChar_getLast?_line (d : InlineField) (ds : List InlineField) :
    ∀ c ∈ (line (d :: ds)).getLast?, isWordChar c = true := by
  induction ds generalizing d with
  | nil =>
    rw [line, behind, List.flatMap_nil, List.append_nil, text, flags]
    split
    · have hshape : d.name ++ ' ' :: (d.type ++ ' ' :: "required".toList) =
          d.name ++ ' ' :: (d.type ++ [' ']) ++ "required".toList := by simp
      rw [hshape]
      exact isWordChar_getLast? (by decide) _
    · have hshape : d.name ++ ' ' :: (d.type ++ []) = d.name ++ [' '] ++ d.type := by simp
      rw [hshape]
      exact isWordChar_getLast? d.isName_type _
  | cons e ds ih =>
    have hne : line (e :: ds) ≠ [] := by simp [line, text]
    rw [line_cons_cons, List.getLast?_append_of_ne_nil _ hne]
    exact ih e

theorem mem_line {ds : List InlineField} {c : Char} (h : c ∈ line ds) :
    isWordChar c = true ∨ c = ' ' ∨ c = ',' := by
  cases ds with
  | nil => cases h
  | cons d ds =>
    rcases List.mem_append.mp h with h | h
    · exact (mem_text h).imp_right .inl
    · exact mem_behind h

theorem not_mem_line (ds : List InlineField) {c : Char} (hw : isWordChar c = false)
    (hc : c ∉ [' ', ',']) : c ∉ line ds := by
  intro h
  rcases mem_line h with h | h | h
  · rw [hw] at h
    cases h
  · simp [h] at hc
  · simp [h] at hc

theorem pieces_line (d : InlineField) (ds : List InlineField) :
    pieces (· == '\n') (' ' :: (line (d :: ds) ++ [' '])) = [line (d :: ds)] := by
  have hne : line (d :: ds) ≠ [] := by simp [line, text]
  have hspace : isBlank ' ' = true := by decide
  have hfeed : ∀ c ∈ line (d :: ds) ++ [' '], (c == '\n') = false := by
    intro c hc
    rw [beq_eq_false_iff_ne]
    rintro rfl
    rcases List.mem_append.mp hc with hc | hc
    · exact not_mem_line _ (by decide) (by decide) hc
    · exact absurd hc (by decide)
  have htrim : trim (line (d :: ds) ++ [' ']) = line (d :: ds) := by
    have hstart : ∀ c ∈ (line (d :: ds) ++ [' ']).head?, isBlank c = false := by
      rw [line, text, List.append_assoc, List.append_assoc]
      exact isBlank_head?_of_isName d.isName_name _
    have hend : Text.trimEnd (line (d :: ds) ++ [' ']) = Text.trimEnd (line (d :: ds)) := by
      simp [Text.trimEnd, hspace]
    rw [trim, Text.trimStart_of_head? hstart, hend]
    exact Text.trimEnd_of_getLast? fun c hc => isBlank_of_isWordChar (isWordChar_getLast?_line d ds c hc)
  rw [Text.pieces_cons_of_blank hspace]
  simp [pieces, Text.splitAll_of_none hfeed, htrim, hne]

theorem ensureId_kept_eq_iff (ds : List InlineField) :
    ensureId (kept ds) = ensureId (ds.map field) ↔ ds.length ≤ 1 := by
  match ds with
  | [] => exact iff_of_true rfl (Nat.zero_le 1)
  | [d] =>
    have hself : kept [d] = [d.field] := by
      simp [kept, field]
    exact iff_of_true (by rw [hself]; rfl) le_rfl
  | d :: e :: ds =>
    refine iff_of_false (fun h => ?_) (by simp)
    unfold ensureId at h
    split at h <;> split at h
    · simp [kept] at h
    · simp [kept] at h
    · rename_i hkept _
      have hfirst : Field.id = d.field := (List.cons.inj h).1
      have hid : d.field.isId = true := by
        rw [← hfirst]
        decide
      exact hkept (by simpa [kept, Field.isId] using hid)
    · simp [kept] at h

end InlineField

def entityLine (name : List Char) (ds : List InlineField) : List Char :=
  "entity".toList ++ ' ' :: (name ++ ' ' :: '{' :: ' ' :: (InlineField.line ds ++ [' ', '}']))

/-- The line is the header of an entity, its fields and a closing brace; no other brace is in it. -/
theorem exists_of_entityLine {name : List Char} (hname : isName name = true) (ds : List InlineField) :
    ∃ header, HeaderText "entity".toList name header ∧
      entityLine name ds = header ++ (' ' :: (InlineField.line ds ++ [' ']) ++ ['}']) ∧
      '{' ∉ InlineField.line ds ∧ '}' ∉ InlineField.line ds := by
  have hopen : '{' ∉ InlineField.line ds := InlineField.not_mem_line ds (by decide) (by decide)
  have hclose : '}' ∉ InlineField.line ds := InlineField.not_mem_line ds (by decide) (by decide)
  refine ⟨_, .spaced "entity".toList hname, ?_, hopen, hclose⟩
  change "entity".toList ++ ' ' :: (name ++ ' ' :: '{' :: ' ' :: (InlineField.line ds ++ [' ', '}'])) = _
  simp only [List.append_assoc, List.cons_append, List.nil_append]

/-- A header that is found in a text with a single one is that header. -/
theorem HeaderText.keyword_eq_of_single {keyword name header keyword' name' header' : List Char}
    (h : HeaderText keyword name header) (hk : isName keyword = true)
    (h' : HeaderText keyword' name' header') (hk' : isName keyword' = true)
    {front inner rest : List Char} (hrest : '{' ∉ rest)
    (he : header ++ rest = front ++ (header' ++ inner)) : front ++ keyword' = keyword := by
  rcases h.trichotomy hk h' hk' (p := []) he with ⟨hkeyword, -, -⟩ | ⟨v, hnil, -⟩ | ⟨v, -, rfl⟩
  · simpa using hkeyword.symm
  · obtain ⟨-, -, -, -⟩ := h'
    simp at hnil
  · obtain ⟨-, -, -, -⟩ := h'
    simp at hrest

section Searches

variable {name : List Char} (hname : isName name = true) (ds : List InlineField)
include hname

theorem entityBlocks_entityLine : EntityBlock.all (entityLine name ds) =
    [⟨[], String.ofList name, (' ' :: (InlineField.line ds ++ [' '])).dropWhile isBlank⟩] := by
  obtain ⟨header, hh, hline, -, hclose⟩ := exists_of_entityLine hname ds
  have hbody : '}' ∉ ' ' :: (InlineField.line ds ++ [' ']) := by simp [hclose]
  have hread := BlockKind.entity.read?_header EntityBlock.mk hh hbody []
  rw [← hline] at hread
  have hlength := (BlockKind.entity.closing_read? EntityBlock.mk).length_lt hread
  rw [EntityBlock.all, EntityBlock.read?_eq, findBlocks_of_some hread hlength, findBlocks]

/-- The only brace that is opened in the line is that of its header. -/
theorem eq_keyword_of_header {keyword name' header front inner : List Char}
    (hk : isName keyword = true) (hh : HeaderText keyword name' header)
    (he : entityLine name ds = front ++ (header ++ inner)) : front ++ keyword = "entity".toList := by
  obtain ⟨header', hh', hline, hopen, -⟩ := exists_of_entityLine hname ds
  rw [hline] at he
  exact hh'.keyword_eq_of_single (by decide) hh hk (by simp [hopen]) he

theorem enumBlocks_entityLine : EnumBlock.all (entityLine name ds) = [] := by
  have hclosing := BlockKind.enum.closing_read? fun _ name body => EnumBlock.mk name body
  have hrun := finds_locate hclosing false (entityLine name ds)
  rw [EnumBlock.all, EnumBlock.read?_eq, hrun.findBlocks_eq hclosing, List.map_eq_nil_iff,
    List.eq_nil_iff_forall_not_mem]
  intro f hf
  obtain ⟨front, htext, hread⟩ := hrun.exists_of_mem hclosing hf
  obtain ⟨annotations, name', header, inner, hshape, -⟩ := BlockKind.exists_of_read? hread
  rw [hshape.text, ← List.append_assoc] at htext
  have hkeyword := eq_keyword_of_header hname ds (by decide) hshape.header htext
  have hlast := congrArg List.getLast? hkeyword
  simp [BlockKind.keyword] at hlast

theorem located_entityLine : RelationshipBlocks.located (entityLine name ds) = [] := by
  rw [List.eq_nil_iff_forall_not_mem]
  intro f hf
  obtain ⟨front, htext, hread⟩ := (RelationshipBlocks.finds_located _).exists_of_mem
    RelationshipBlock.closing_read? hf
  obtain ⟨-, type, inner, hhead⟩ := RelationshipBlock.exists_of_read? hread
  obtain ⟨-, header, hheader, hstart⟩ := readRelationshipHead?_eq_some_iff.mp hhead
  rw [hstart] at htext
  have hlast := congrArg List.getLast? (eq_keyword_of_header hname ds (by decide) hheader htext)
  simp at hlast

/-- No relationship block is read in the line. -/
theorem relationships_entityLine : RelationshipBlocks.read (entityLine name ds) = ⟨[], none⟩ := by
  rw [RelationshipBlocks.read, RelationshipBlocks.readFrom_eq,
    RelationshipBlocks.findBlocks_eq_map_located, located_entityLine hname ds]
  rfl

end Searches

namespace InlineField

/-- The lines of a block with these fields between its braces: none, or one. -/
theorem lines_block (name : String) (ds : List InlineField) :
    (EntityBlock.mk [] name ((' ' :: (line ds ++ [' '])).dropWhile isBlank)).lines =
      if ds = [] then [] else [line ds] := by
  change pieces (· == '\n') _ = _
  rw [Text.pieces_dropWhile]
  cases ds with
  | nil => decide
  | cons d ds => rw [pieces_line, if_neg (List.cons_ne_nil d ds)]

theorem declared_block (name : String) (ds : List InlineField) :
    let b := EntityBlock.mk [] name ((' ' :: (line ds ++ [' '])).dropWhile isBlank)
    b.fields = kept ds ∧ b.trace.findings = [] := by
  intro b
  have hlines : b.lines = if ds = [] then [] else [line ds] := lines_block name ds
  have hplain : b.isAudited = false := rfl
  rw [b.findings_trace, EntityBlock.fields, hplain, EntityBlock.declaredFields, hlines]
  cases ds with
  | nil => exact ⟨rfl, rfl⟩
  | cons d ds =>
    simp [readFieldLine?_line, EntityBlock.lineFindings, kept]

end InlineField

/-- An entity on one line declares the first of its fields only, required if any word behind asks for
it, and nothing is found. So all fields are there just when there is at most one. -/
theorem parse_entityLine (name : List Char) (hname : isName name = true) (ds : List InlineField) :
    let p := parseInto [] (entityLine name ds)
    p.2 = [] ∧ p.1.enums.entries = [] ∧
      p.1.entities.entries = [(String.ofList name, ensureId (InlineField.kept ds))] ∧
      (p.1.entities.get? (String.ofList name) = some (ensureId (ds.map InlineField.field)) ↔
        ds.length ≤ 1) := by
  intro p
  have hclean : stripComments (entityLine name ds) = entityLine name ds := by
    obtain ⟨header, hh, hline, -, -⟩ := exists_of_entityLine hname ds
    have hheader : '/' ∉ header := fun h =>
      absurd (hh.eq_brace_of_mem (by decide) h (by decide) (by decide)) (by decide)
    have hfields : '/' ∉ InlineField.line ds := InlineField.not_mem_line ds (by decide) (by decide)
    refine stripComments_of_not_mem ?_
    simp [hline, hheader, hfields]
  obtain ⟨hfields, hfindings⟩ := InlineField.declared_block (String.ofList name) ds
  have hblocks := entityBlocks_entityLine hname ds
  have henums := enumBlocks_entityLine hname ds
  have hrelationships := relationships_entityLine hname ds
  have hrecords : (extractRelationships (entityLine name ds)).1 = [] := by
    simp [extractRelationships, hrelationships]
  have hdeclared : (extractEntities (entityLine name ds)).1 =
      Dict.ofList [(String.ofList name, InlineField.kept ds)] := by
    rw [extractEntities_fst, hblocks, List.map_singleton, hfields]
  have hentities : p.1.entities.entries = [(String.ofList name, ensureId (InlineField.kept ds))] := by
    have hschema : p.1.entities = ensureIds (extractEntities (entityLine name ds)).1 := by
      simp [p, parseInto, parse, hclean, hrecords, materialize]
    rw [hschema, hdeclared]
    rfl
  have hnothing : (parse (entityLine name ds)).trace.findings = [] := by
    have hempty : (EntityBlock.declare Dict.empty
        ⟨[], String.ofList name, (' ' :: (InlineField.line ds ++ [' '])).dropWhile isBlank⟩).2.findings =
          [] := by
      rw [EntityBlock.declare, findings_append, hfindings]
      rfl
    rw [findings_parse, hclean]
    have hparsed : (parse (entityLine name ds)).records = [] := by
      simp [parse, hclean, hrecords]
    simp [extractEnums, henums, extractEntities, hblocks, hempty, extractRelationships, hrelationships,
      hparsed]
  refine ⟨congrArg (List.map Finding.diagnostic) hnothing, ?_, hentities, ?_⟩
  · have hschema : p.1.enums = (extractEnums (entityLine name ds)).1 := by
      simp [p, parseInto, parse, hclean]
    rw [hschema, extractEnums_fst, henums]
    rfl
  · rw [Dict.get?, hentities]
    simp [InlineField.ensureId_kept_eq_iff]

def twoFields : List InlineField :=
  [⟨"a".toList, "String".toList, false, rfl, rfl⟩, ⟨"b".toList, "Integer".toList, true, rfl, rfl⟩]

theorem parse_entityLine_two :
    (parseInto [] (entityLine ['E'] twoFields)).1.entities.entries =
      [("E", [Field.id, {
        name := "a"
        type := "String"
        required := true
        nullable := false
        name_ne_empty := by decide
        type_ne_empty := by decide }])] := by
  obtain ⟨-, -, hentities, -⟩ := parse_entityLine ['E'] rfl twoFields
  rw [hentities]
  decide +kernel

/-- The second of two fields is lost, and nothing is reported. -/
theorem field_lost_silently :
    entityLine ['E'] twoFields = "entity E { a String, b Integer required }".toList ∧
      (parseInto [] (entityLine ['E'] twoFields)).2 = [] ∧
      ∀ fields, (parseInto [] (entityLine ['E'] twoFields)).1.entities.get? "E" = some fields →
        ∀ f ∈ fields, f.name ≠ "b" := by
  have hnone : (parse (entityLine ['E'] twoFields)).trace.findings = [] := by decide +kernel
  have hfields : ∀ fields ∈ (parseInto [] (entityLine ['E'] twoFields)).1.entities.get? "E",
      ∀ f ∈ fields, f.name ≠ "b" := by decide +kernel
  exact ⟨by decide +kernel, congrArg (List.map Finding.diagnostic) hnone, hfields⟩

end EntitySchema.Jdl
