import EntitySchema.Proofs.Jdl.Declaration
import EntitySchema.Proofs.Text.Pieces
import Mathlib.Data.List.TakeDrop

/-! Reading of written lines. Main statements: the readers of field lines and statements return what
was written (`readFieldLine?_line`, `readRecord?_line`), and the pieces of a body are its values, field
lines or statements (`pieces_values`, `pieces_fieldLines`, `pieces_statements`). -/
namespace EntitySchema.Jdl

open Text (isBlank isWordChar trim pieces)

theorem Identifier.ext {i j : Identifier} (hf : i.first = j.first) (hr : i.rest = j.rest) : i = j := by
  cases i
  cases j
  simp_all

theorem read?_append {name s : List Char} (hn : isName name = true)
    (h : ∀ c, s.head? = some c → isWordChar c = false) :
    ∃ i : Identifier, Identifier.read? (name ++ s) = some (i, s) ∧ i.first :: i.rest = name := by
  cases name with
  | nil => simp [isName] at hn
  | cons c r =>
    simp only [isName, Bool.and_eq_true, List.all_eq_true] at hn
    have hs : s.takeWhile isWordChar = [] ∧ s.dropWhile isWordChar = s := by
      cases s with
      | nil => exact ⟨rfl, rfl⟩
      | cons d t => simp [h d rfl]
    refine ⟨⟨c, r⟩, ?_, rfl⟩
    simp [Identifier.read?, hn.1, List.takeWhile_append_of_pos hn.2,
      List.dropWhile_append_of_pos hn.2, hs]

theorem TypeName.isName_letters (type : TypeName) : isName type.letters = true := by
  obtain ⟨c, r, hletters⟩ := List.exists_cons_of_ne_nil type.ne_nil
  have hstart : ∀ d ∈ type.letters, isIdentifierStart d = true := by
    intro d hd
    rw [isIdentifierStart, type.isAlpha d hd, Bool.true_or]
  rw [hletters] at hstart ⊢
  simp only [isName, Bool.and_eq_true, List.all_eq_true]
  exact ⟨hstart c (by simp), fun d hd => isWordChar_of_isIdentifierStart (hstart d (by simp [hd]))⟩

namespace Word

theorem isName_chars (w : Word) : isName w.chars = true := by
  have hrest : ∀ c ∈ w.rest, isWordChar c = true := by
    intro c hc
    have hascii : c.toNat < 128 := by
      rcases w.isAscii c hc with h | rfl
      · exact Text.ascii_of_isAlphanum h
      · decide
    simpa [isWordChar, hascii] using w.isAscii c hc
  simpa [chars, isName, w.isStart] using hrest

theorem isWordChar_of_mem {w : Word} {c : Char} (h : c ∈ w.chars) : isWordChar c = true :=
  all_isWordChar_of_isName w.isName_chars c h

theorem not_mem {w : Word} {c : Char} (h : isWordChar c = false) : c ∉ w.chars :=
  fun hc => ne_of_isWordChar (isWordChar_of_mem hc) h rfl

theorem isBlank_of_mem {w : Word} {c : Char} (h : c ∈ w.chars) : isBlank c = false :=
  isBlank_of_isWordChar (isWordChar_of_mem h)

theorem chars_ne_nil (w : Word) : w.chars ≠ [] := List.cons_ne_nil _ _

theorem trim_chars (w : Word) : trim w.chars = w.chars :=
  Text.trim_of_ends (fun _ hc => isBlank_of_mem (List.mem_of_head? hc))
    fun _ hc => isBlank_of_mem (List.mem_of_getLast? hc)

theorem read?_chars (w : Word) {s : List Char}
    (h : ∀ c, s.head? = some c → isWordChar c = false) :
    Identifier.read? (w.chars ++ s) = some (w.toIdentifier, s) := by
  obtain ⟨i, hi, hw⟩ := read?_append w.isName_chars h
  obtain ⟨hfirst, hrest⟩ := List.cons.inj hw
  rw [hi, show i = w.toIdentifier from Identifier.ext hfirst hrest]

theorem afterBlanks?_chars (w : Word) (s : List Char) :
    afterBlanks? (' ' :: (w.chars ++ s)) = some (w.chars ++ s) := by
  have hfirst : isBlank w.first = false := isBlank_of_mem List.mem_cons_self
  have hspace : isBlank ' ' = true := by decide
  simp [afterBlanks?, chars, hfirst, hspace]

end Word

theorem span_append {closing : Char} {inner : List Char} (h : closing ∉ inner) (s : List Char) :
    (inner ++ closing :: s).span (· != closing) = (inner, closing :: s) := by
  have hi : ∀ c ∈ inner, (c != closing) = true := by
    intro c hc
    simpa using fun he : c = closing => h (he ▸ hc)
  rw [List.span_eq_takeWhile_dropWhile, List.takeWhile_append_of_pos hi,
    List.dropWhile_append_of_pos hi]
  simp

theorem enclosed?_append {opening closing : Char} {inner : List Char} (h : closing ∉ inner)
    (s : List Char) :
    enclosed? opening closing (opening :: (inner ++ closing :: s)) = some (inner, s) := by
  rw [enclosed?, if_pos rfl, span_append h]

theorem enclosed?_of_ne {opening closing : Char} {s : List Char}
    (h : ∀ c, s.head? = some c → c ≠ opening) : enclosed? opening closing s = none := by
  cases s with
  | nil => rfl
  | cons c r => rw [enclosed?, if_neg (h c rfl)]

theorem readFieldLine?_line (f : FieldDeclaration) : readFieldLine? f.line = some f.field := by
  obtain ⟨name, type, required⟩ := f
  have hname (s : List Char) : Identifier.read? (name.chars ++ ' ' :: s) =
      some (name.toIdentifier, ' ' :: s) := name.read?_chars (by rintro c ⟨⟩; decide)
  cases required with
  | true =>
    have htype : Identifier.read? (type.chars ++ ' ' :: "required".toList) =
        some (type.toIdentifier, ' ' :: "required".toList) :=
      type.read?_chars (by rintro c ⟨⟩; decide)
    have hflags : readFlags? (' ' :: "required".toList) = some "required".toList := by decide
    have hrequired : hasLetters "required".toList true false "required".toList = true := by decide
    simp only [readFieldLine?, FieldDeclaration.line, if_true, hname, Option.bind_eq_bind,
      Option.bind_some, Word.afterBlanks?_chars, htype]
    change (readFlags? (' ' :: "required".toList)).bind _ = _
    simp only [hflags, Option.bind_some, hrequired]
    rfl
  | false =>
    have htype : Identifier.read? (type.chars ++ []) = some (type.toIdentifier, []) :=
      type.read?_chars (by simp)
    have hrequired : hasLetters "required".toList true false [] = false := rfl
    simp only [readFieldLine?, FieldDeclaration.line, Bool.false_eq_true, if_false, hname,
      Option.bind_eq_bind, Option.bind_some, Word.afterBlanks?_chars, htype, readFlags?, hrequired]
    rfl

theorem readFieldSpec?_chars (w : Word) : readFieldSpec? w.chars = some w.text := by
  have hread : Identifier.read? w.chars = some (w.toIdentifier, []) := by
    simpa using w.read?_chars (s := []) (by simp)
  simp [readFieldSpec?, w.trim_chars, hread, enclosed?, atEnd]

theorem readSide?_spec (w : Word) (f : Option Word) {s : List Char}
    (h : ∀ c, s.head? = some c → c = ' ') :
    readSide? (w.chars ++ (Statement.spec f ++ s)) =
      some (w.toIdentifier, (f.map Word.chars).getD [], s) := by
  cases f with
  | none =>
    have hread : Identifier.read? (w.chars ++ s) = some (w.toIdentifier, s) := by
      apply w.read?_chars
      intro c hc
      rw [h c hc]
      decide
    have hspec : enclosed? '{' '}' s = none := by
      apply enclosed?_of_ne
      intro c hc
      rw [h c hc]
      decide
    simp [Statement.spec, readSide?, hread, hspec]
  | some f =>
    have hread : Identifier.read? (w.chars ++ '{' :: (f.chars ++ '}' :: s)) =
        some (w.toIdentifier, '{' :: (f.chars ++ '}' :: s)) :=
      w.read?_chars (by rintro c ⟨⟩; decide)
    have hspec : enclosed? '{' '}' ('{' :: (f.chars ++ '}' :: s)) = some (f.chars, s) :=
      enclosed?_append (Word.not_mem (by decide)) s
    simp [Statement.spec, readSide?, hread, hspec, f.trim_chars]

theorem readStatement?_line (s : Statement) :
    readStatement? s.line =
      some ((s.source.toIdentifier, (s.sourceField.map Word.chars).getD []),
        (s.target.toIdentifier, (s.targetField.map Word.chars).getD [])) := by
  have hsource (r : List Char) : readSide? (s.source.chars ++ (Statement.spec s.sourceField ++ ' ' :: r)) =
      some (s.source.toIdentifier, (s.sourceField.map Word.chars).getD [], ' ' :: r) :=
    readSide?_spec s.source s.sourceField (by rintro c ⟨⟩; rfl)
  have htarget : readSide? (s.target.chars ++ Statement.spec s.targetField) =
      some (s.target.toIdentifier, (s.targetField.map Word.chars).getD [], []) := by
    simpa using readSide?_spec s.target s.targetField (s := []) (by simp)
  have hto (r : List Char) : afterBlanks? (' ' :: ("to".toList ++ r)) = some ("to".toList ++ r) := by
    have hspace : isBlank ' ' = true := by decide
    have ht : isBlank 't' = false := by decide
    simp [afterBlanks?, hspace, ht]
  have hliteral (r : List Char) : afterLiteral? "to".toList ("to".toList ++ r) = some r := by
    simp [afterLiteral?]
  simp only [readStatement?, Statement.line, hsource, Option.bind_eq_bind, Option.bind_some, hto,
    hliteral, Word.afterBlanks?_chars, htarget]
  rfl

theorem readRecord?_line (type : TypeName) (s : Statement) :
    (readRecord? (String.ofList type.letters) s.line).1 = some (s.record type) := by
  have hspec (f : Option Word) :
      readFieldSpec? ((f.map Word.chars).getD []) = f.map (·.text) := by
    cases f with
    | none => rfl
    | some f => exact readFieldSpec?_chars f
  simp only [readRecord?, readStatement?_line, hspec]
  rfl

theorem FieldDeclaration.mem_line {f : FieldDeclaration} {c : Char} (h : c ∈ f.line) :
    isWordChar c = true ∨ c = ' ' := by
  simp only [line, List.mem_append, List.mem_cons] at h
  rcases h with h | rfl | h | h
  · exact .inl (Word.isWordChar_of_mem h)
  · exact .inr rfl
  · exact .inl (Word.isWordChar_of_mem h)
  · split at h
    · have hrequired : isName "required".toList = true := by decide
      rcases List.mem_cons.mp h with rfl | h
      · exact .inr rfl
      · exact .inl (all_isWordChar_of_isName hrequired c h)
    · simp at h

theorem Statement.mem_spec {f : Option Word} {c : Char} (h : c ∈ spec f) :
    isWordChar c = true ∨ c ∈ ['{', '}'] := by
  cases f with
  | none => simp [spec] at h
  | some f =>
    simp only [spec, List.mem_cons, List.mem_append, List.not_mem_nil, or_false] at h
    rcases h with rfl | h | rfl
    · exact .inr (by simp)
    · exact .inl (Word.isWordChar_of_mem h)
    · exact .inr (by simp)

theorem Statement.mem_line {s : Statement} {c : Char} (h : c ∈ s.line) :
    isWordChar c = true ∨ c ∈ [' ', '{', '}'] := by
  have hspec {f : Option Word} (hc : c ∈ spec f) : isWordChar c = true ∨ c ∈ [' ', '{', '}'] :=
    (mem_spec hc).imp_right (List.mem_cons_of_mem ' ')
  have hto : isName "to".toList = true := by decide
  simp only [line, List.mem_append, List.mem_cons] at h
  rcases h with h | h | rfl | h | rfl | h | h
  · exact .inl (Word.isWordChar_of_mem h)
  · exact hspec h
  · exact .inr (by simp)
  · exact .inl (all_isWordChar_of_isName hto c h)
  · exact .inr (by simp)
  · exact .inl (Word.isWordChar_of_mem h)
  · exact hspec h

theorem mem_valueLines {values : List Word} {line : List Char} (h : line ∈ valueLines values) :
    ∃ v ∈ values, line = v.chars ∨ line = v.chars ++ [','] := by
  fun_induction valueLines values with
  | case1 => simp at h
  | case2 v => exact ⟨v, by simp, .inl (by simpa using h)⟩
  | case3 v r hr ih =>
    rcases List.mem_cons.mp h with rfl | h
    · exact ⟨v, by simp, .inr rfl⟩
    · obtain ⟨w, hw, hline⟩ := ih h
      exact ⟨w, List.mem_cons_of_mem v hw, hline⟩

theorem not_mem_valueLine {values : List Word} {line : List Char} (h : line ∈ valueLines values)
    {c : Char} (hw : isWordChar c = false) (hc : c ≠ ',') : c ∉ line := by
  obtain ⟨v, -, rfl | rfl⟩ := mem_valueLines h
  · exact Word.not_mem hw
  · simp [Word.not_mem hw, hc]

theorem FieldDeclaration.not_mem_line (f : FieldDeclaration) {c : Char} (hw : isWordChar c = false)
    (hc : c ≠ ' ') : c ∉ f.line := by
  intro h
  rcases mem_line h with h | h
  · exact ne_of_isWordChar h hw rfl
  · exact hc h

theorem Layout.not_mem_body (l : Layout) {lines : List (List Char)} {c : Char}
    (hc : c ∉ [' ', '\n']) (hl : ∀ line ∈ lines, c ∉ line) : c ∉ l.body lines := by
  simp only [List.mem_cons, List.not_mem_nil, or_false, not_or] at hc
  intro h
  obtain ⟨line, hline, h⟩ := List.mem_flatMap.mp h
  simp [List.mem_replicate, hc, hl line hline] at h

theorem pieces_body {p : Char → Bool} (hp : p '\n' = true) (l : Layout) (lines : List (List Char)) :
    pieces p (l.body lines) = lines.flatMap (pieces p) := by
  have hblank : ∀ c ∈ List.replicate l.indent ' ', isBlank c = true := by
    intro c hc
    rw [List.eq_of_mem_replicate hc]
    decide
  induction lines with
  | nil => simp [Layout.body]
  | cons line lines ih =>
    have hbody : l.body (line :: lines) =
        List.replicate l.indent ' ' ++ (line ++ '\n' :: l.body lines) := by
      simp [Layout.body]
    rw [hbody, Text.pieces_append_of_blank hblank, Text.pieces_append_cons hp, ih, List.flatMap_cons]

theorem Word.pieces_chars (w : Word) {p : Char → Bool}
    (hp : ∀ c, isWordChar c = true → p c = false) : pieces p w.chars = [w.chars] :=
  Text.pieces_of_none (fun c hc => hp c (isWordChar_of_mem hc)) w.chars_ne_nil w.trim_chars

theorem pieces_values (l : Layout) (values : List Word) :
    pieces (fun c => c == ',' || c == ';' || c == '\n') (l.body (valueLines values)) =
      values.map Word.chars := by
  have hword : ∀ c, isWordChar c = true → (c == ',' || c == ';' || c == '\n') = false := by
    intro c hc
    simp only [Bool.or_eq_false_iff, beq_eq_false_iff_ne]
    exact ⟨⟨ne_of_isWordChar hc (by decide), ne_of_isWordChar hc (by decide)⟩,
      ne_of_isWordChar hc (by decide)⟩
  rw [pieces_body (by decide)]
  fun_induction valueLines values with
  | case1 => rfl
  | case2 v => simp [v.pieces_chars hword]
  | case3 v r hr ih =>
    have hcomma : pieces (fun c => c == ',' || c == ';' || c == '\n') (v.chars ++ [',']) =
        [v.chars] := by
      rw [Text.pieces_append_cons (by decide), v.pieces_chars hword, Text.pieces_nil,
        List.append_nil]
    rw [List.flatMap_cons, hcomma, ih, List.map_cons, List.singleton_append]

theorem FieldDeclaration.trim_line (f : FieldDeclaration) : trim f.line = f.line := by
  have htype : ∀ c ∈ f.type.chars, isBlank c = false := fun c => Word.isBlank_of_mem
  have hname : ∀ c ∈ f.name.chars, isBlank c = false := fun c => Word.isBlank_of_mem
  unfold line
  split
  · have hisName : isName "required".toList = true := by decide
    have hrequired : ∀ c ∈ "required".toList, isBlank c = false :=
      fun c hc => isBlank_of_isWordChar (all_isWordChar_of_isName hisName c hc)
    simpa using Text.trim_between hname f.name.chars_ne_nil hrequired (isName_ne_nil hisName)
      (' ' :: (f.type.chars ++ [' ']))
  · simpa using Text.trim_between hname f.name.chars_ne_nil htype f.type.chars_ne_nil [' ']

theorem pieces_fieldLines (l : Layout) (fields : List FieldDeclaration) :
    pieces (· == '\n') (l.body (fields.map (·.line))) = fields.map (·.line) := by
  have hline (f : FieldDeclaration) : pieces (· == '\n') f.line = [f.line] := by
    have hne : f.line ≠ [] := List.append_ne_nil_of_left_ne_nil f.name.chars_ne_nil _
    have hfeed : ∀ c ∈ f.line, (c == '\n') = false := by
      intro c hc
      rw [beq_eq_false_iff_ne]
      rcases FieldDeclaration.mem_line hc with h | rfl
      · exact ne_of_isWordChar h (by decide)
      · decide
    exact Text.pieces_of_none hfeed hne f.trim_line
  rw [pieces_body rfl, List.flatMap_map, List.map_eq_flatMap]
  simp only [hline]

theorem Statement.trim_line (s : Statement) : trim s.line = s.line := by
  have hsource : ∀ c ∈ s.source.chars, isBlank c = false := fun c => Word.isBlank_of_mem
  have htarget : ∀ c ∈ s.target.chars ++ spec s.targetField, isBlank c = false := by
    intro c hc
    rcases List.mem_append.mp hc with h | h
    · exact Word.isBlank_of_mem h
    · rcases mem_spec h with h | h
      · exact isBlank_of_isWordChar h
      · simp only [List.mem_cons, List.not_mem_nil, or_false] at h
        rcases h with rfl | rfl
        · decide
        · decide
  have hne : s.target.chars ++ spec s.targetField ≠ [] :=
    List.append_ne_nil_of_left_ne_nil s.target.chars_ne_nil _
  have hshape : s.line = s.source.chars ++ ((spec s.sourceField ++ ' ' :: ("to".toList ++ [' '])) ++
      (s.target.chars ++ spec s.targetField)) := by
    simp only [line, List.append_assoc, List.cons_append, List.nil_append]
  rw [hshape]
  exact Text.trim_between hsource s.source.chars_ne_nil htarget hne _

theorem pieces_statements (l : Layout) (statements : List Statement) :
    pieces (fun c => c == '\n' || c == ',') (l.body (statements.map (·.line))) =
      statements.map (·.line) := by
  have hline (s : Statement) : pieces (fun c => c == '\n' || c == ',') s.line = [s.line] := by
    have hne : s.line ≠ [] := List.append_ne_nil_of_left_ne_nil s.source.chars_ne_nil _
    have hend : ∀ c ∈ s.line, (c == '\n' || c == ',') = false := by
      intro c hc
      rcases Statement.mem_line hc with h | h
      · simp only [Bool.or_eq_false_iff, beq_eq_false_iff_ne]
        exact ⟨ne_of_isWordChar h (by decide), ne_of_isWordChar h (by decide)⟩
      · simp only [List.mem_cons, List.not_mem_nil, or_false] at h
        rcases h with rfl | rfl | rfl
        all_goals decide
    exact Text.pieces_of_none hend hne s.trim_line
  rw [pieces_body rfl, List.flatMap_map, List.map_eq_flatMap]
  simp only [hline]

end EntitySchema.Jdl
