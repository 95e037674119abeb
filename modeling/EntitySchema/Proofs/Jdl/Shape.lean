import EntitySchema.Proofs.Jdl.Annotation

/-! The extent of a block in the text. Entities and enumerations are read by one reader with their own
keyword, and only entities have annotations. Main statements: what is read is annotations, a header, a
body without a closing brace and the brace (`BlockKind.exists_of_read?`), and every header that a closing
brace follows is read (`BlockKind.read?_header`). -/
namespace EntitySchema.Jdl

open Text (isBlank isWordChar)

inductive BlockKind
  | entity
  | enum
  deriving DecidableEq

namespace BlockKind

def keyword : BlockKind → List Char
  | .entity => "entity".toList
  | .enum => "enum".toList

/-- What is left of a text behind the annotations that may stand in front of the keyword. -/
def start : BlockKind → List Char → List Char
  | .entity => afterAnnotations
  | .enum => id

variable {α : Type}

/-- Reads a block of a kind; `make` puts its annotations, name and body together. -/
def read? (k : BlockKind) (make : List Char → String → List Char → α) (afterWord : Bool)
    (s : List Char) : Option (α × List Char) :=
  let annotations := s.take (s.length - (k.start s).length)
  if afterWord && annotations.isEmpty then none
  else (readBlock? k.keyword (k.start s)).map fun (name, body, rest) =>
    (make annotations name.text body, rest)

theorem isName_keyword (k : BlockKind) : isName k.keyword = true := by
  cases k <;> decide

end BlockKind

theorem EntityBlock.read?_eq : EntityBlock.read? = BlockKind.entity.read? EntityBlock.mk := rfl

theorem EnumBlock.read?_eq :
    EnumBlock.read? = BlockKind.enum.read? fun _ name body => ⟨name, body⟩ := by
  funext afterWord s
  simp only [EnumBlock.read?, BlockKind.read?, BlockKind.start, id_eq, Nat.sub_self, List.take_zero,
    List.isEmpty_nil, Bool.and_true]
  rfl

namespace BlockKind

variable {α : Type} {k : BlockKind}

/-- Annotations stand in front of a keyword, and none do in front of that of an enumeration. -/
theorem exists_of_start (k : BlockKind) (s : List Char) :
    ∃ annotations, s = annotations ++ k.start s ∧ AnnotatedBy annotations (k.start s) ∧
      (k = .enum → annotations = []) := by
  cases k with
  | entity =>
    obtain ⟨annotations, hs, hannotated⟩ := exists_of_afterAnnotations s
    exact ⟨annotations, hs, hannotated, fun h => by cases h⟩
  | enum => exact ⟨[], rfl, .none s, fun _ => rfl⟩

theorem start_header {name header : List Char} (h : HeaderText k.keyword name header)
    (inner : List Char) : k.start (header ++ inner) = header ++ inner := by
  cases k with
  | entity =>
    obtain ⟨-, -, -, -⟩ := h
    exact afterAnnotations_of_head? (by simp [keyword])
  | enum => rfl

/-- The annotations that are read are those in front of the keyword. -/
theorem read?_eq (make : List Char → String → List Char → α) (b : Bool) {s annotations : List Char}
    (hs : s = annotations ++ k.start s) : k.read? make b s =
      if b && annotations.isEmpty then none
      else (readBlock? k.keyword (k.start s)).map fun (name, body, rest) =>
        (make annotations name.text body, rest) := by
  have htake : s.take (s.length - (k.start s).length) = annotations := by
    have hlength : s.length - (k.start s).length = annotations.length := by
      have := congrArg List.length hs
      rw [List.length_append] at this
      omega
    rw [hlength, hs]
    exact List.take_left
  rw [read?, htake]

/-- A text starts with a block: annotations, a header at a word boundary, and a body up to the first
closing brace. -/
structure Shape (k : BlockKind) (afterWord : Bool) (s annotations name header inner rest : List Char) :
    Prop where
  text : s = annotations ++ (header ++ (inner ++ '}' :: rest))
  annotated : AnnotatedBy annotations (header ++ (inner ++ '}' :: rest))
  plain : k = .enum → annotations = []
  boundary : endsInWord afterWord annotations = false
  header : HeaderText k.keyword name header
  body : '}' ∉ inner

/-- What is read at the head of a text is a block there. -/
theorem exists_of_read? {make : List Char → String → List Char → α} {afterWord : Bool}
    {s rest : List Char} {a : α} (h : k.read? make afterWord s = some (a, rest)) : ∃ annotations name header inner,
      k.Shape afterWord s annotations name header inner rest ∧
      a = make annotations (String.ofList name) (inner.dropWhile isBlank) := by
  obtain ⟨annotations, hs, hannotated, hplain⟩ := k.exists_of_start s
  rw [read?_eq make afterWord hs] at h
  simp only [Option.ite_none_left_eq_some, Option.map_eq_some_iff, Prod.mk.injEq, Prod.exists] at h
  obtain ⟨hword, i, body, rest', hread, rfl, rfl⟩ := h
  obtain ⟨inner, hheader, hbody, rfl⟩ := readBlock?_eq_some_iff.mp hread
  obtain ⟨header, hh, hstart⟩ := readHeader?_eq_some_iff.mp hheader
  rw [hstart] at hs hannotated
  refine ⟨annotations, i.text.toList, header, inner, ⟨hs, hannotated, hplain, ?_, hh, hbody⟩,
    by rw [String.ofList_toList]⟩
  by_cases hne : annotations = []
  · have hfront : afterWord = false := by simpa [hne] using hword
    rw [hne, hfront]
    rfl
  · refine hannotated.endsInWord hne afterWord ?_
    obtain ⟨-, -, -, -⟩ := hh
    cases k <;> exact ⟨'e', rfl, by decide⟩

/-- A header at a word boundary that a closing brace follows starts a block. -/
theorem read?_header (make : List Char → String → List Char → α) {name header inner : List Char}
    (h : HeaderText k.keyword name header) (hi : '}' ∉ inner) (rest : List Char) :
    k.read? make false (header ++ (inner ++ '}' :: rest)) =
      some (make [] (String.ofList name) (inner.dropWhile isBlank), rest) := by
  obtain ⟨i, hname⟩ : ∃ i : Identifier, i.text.toList = name := by
    obtain ⟨c, r, rfl⟩ := List.exists_cons_of_ne_nil (isName_ne_nil h.isName_name)
    exact ⟨⟨c, r⟩, by rw [Identifier.text, String.toList_ofList]⟩
  have hread : readBlock? k.keyword (header ++ (inner ++ '}' :: rest)) =
      some (i, inner.dropWhile isBlank, rest) :=
    readBlock?_eq_some_iff.mpr ⟨inner, readHeader?_eq_some_iff.mpr ⟨header, hname ▸ h, rfl⟩, hi, rfl⟩
  simp only [read?, start_header h, hread, Nat.sub_self, List.take_zero, Bool.false_and, Option.map_some,
    ← hname, String.ofList_toList]
  rfl

theorem closing_read? (k : BlockKind) (make : List Char → String → List Char → α) :
    Closing (k.read? make) where
  shape := by
    intro b s rest a h
    obtain ⟨annotations, name, header, inner, hshape, -⟩ := exists_of_read? h
    exact .inl ⟨annotations ++ (header ++ inner), by rw [hshape.text]; simp⟩

end BlockKind

end EntitySchema.Jdl
