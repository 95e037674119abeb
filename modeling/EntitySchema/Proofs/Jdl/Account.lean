import EntitySchema.Proofs.Jdl.Collect
import EntitySchema.Proofs.Text.Pieces
import Mathlib.Data.List.Forall2

/-! Nothing of a text is lost without a word. Each line of an entity's body and each statement of a
relationship block leads to one result or to one warning, in their order (`Becomes`). The blocks are
accounted for one after the other: what is true of the blocks so far, the dictionary and the collector
stays true when a block is declared (`EntitiesAccounted.declare`, `EnumsAccounted.declare`), and so it is
true of a whole text (`extraction_accounts`). -/
namespace EntitySchema.Jdl

section

variable {α β : Type}

def withCode (code : String) (ds : Diagnostics) : Diagnostics := ds.filter (·.code == code)

theorem withCode_append (code : String) (ds es : Diagnostics) :
    withCode code (ds ++ es) = withCode code ds ++ withCode code es := List.filter_append ..

theorem length_withCode_append (code : String) (ds es : Diagnostics) :
    (withCode code (ds ++ es)).length = (withCode code ds).length + (withCode code es).length := by
  rw [withCode_append, List.length_append]

theorem withCode_eq_self {code : String} {ds : Diagnostics} (h : ∀ d ∈ ds, d.code = code) :
    withCode code ds = ds :=
  List.filter_eq_self.mpr fun d hd => beq_iff_eq.mpr (h d hd)

theorem withCode_eq_nil {code other : String} {ds : Diagnostics} (h : ∀ d ∈ ds, d.code = other)
    (hne : other ≠ code) : withCode code ds = [] :=
  List.filter_eq_nil_iff.mpr fun d hd => by simp [h d hd, hne]

/-- A part of a text leads to what is read from it, or else to a warning of it. -/
inductive Becomes (read : List Char → Option α) (warning : List Char → Diagnostic) :
    List Char → α ⊕ Diagnostic → Prop
  | given {part : List Char} {a : α} (h : read part = some a) : Becomes read warning part (.inl a)
  | warned {part : List Char} (h : read part = none) :
    Becomes read warning part (.inr (warning part))

/-- What becomes of the parts of a body that are not blank, in their order. -/
def Accounts (isSeparator : Char → Bool) (read : List Char → Option α)
    (warning : List Char → Diagnostic) (body : List Char) (outcomes : List (α ⊕ Diagnostic)) : Prop :=
  ∃ raw, Text.IsSplit isSeparator body raw ∧
    List.Forall₂ (Becomes read warning) ((raw.map Text.trim).filter (· ≠ [])) outcomes

def results (outcomes : List (α ⊕ Diagnostic)) : List α := outcomes.filterMap Sum.getLeft?

def warnings (outcomes : List (α ⊕ Diagnostic)) : Diagnostics := outcomes.filterMap Sum.getRight?

theorem length_results_add_warnings (outcomes : List (α ⊕ Diagnostic)) :
    (results outcomes).length + (warnings outcomes).length = outcomes.length := by
  induction outcomes with
  | nil => rfl
  | cons o outcomes ih =>
    rw [results, warnings] at ih
    cases o with
    | inl a =>
      simp only [results, warnings, List.filterMap_cons, Sum.getLeft?_inl, Sum.getRight?_inl,
        List.length_cons]
      omega
    | inr d =>
      simp only [results, warnings, List.filterMap_cons, Sum.getLeft?_inr, Sum.getRight?_inr,
        List.length_cons]
      omega

def outcome (read : List Char → Option α) (warning : List Char → Diagnostic) (part : List Char) :
    α ⊕ Diagnostic :=
  match read part with
  | some a => .inl a
  | none => .inr (warning part)

variable (read : List Char → Option α) (warning : List Char → Diagnostic)

theorem becomes_outcome (part : List Char) : Becomes read warning part (outcome read warning part) := by
  unfold outcome
  cases h : read part with
  | some a => exact .given h
  | none => exact .warned h

theorem accounts_pieces (isSeparator : Char → Bool) (body : List Char) :
    Accounts isSeparator read warning body
      ((Text.pieces isSeparator body).map (outcome read warning)) := by
  refine ⟨_, Text.isSplit_splitAll isSeparator body, ?_⟩
  rw [Text.pieces, List.forall₂_map_right_iff, List.forall₂_same]
  exact fun part _ => becomes_outcome read warning part

theorem results_map_outcome (parts : List (List Char)) :
    results (parts.map (outcome read warning)) = parts.filterMap read := by
  rw [results, List.filterMap_map]
  refine List.filterMap_congr fun part _ => ?_
  simp only [Function.comp_apply, outcome]
  cases read part <;> rfl

theorem warnings_map_outcome (parts : List (List Char)) :
    warnings (parts.map (outcome read warning)) =
      parts.flatMap fun part => if (read part).isNone then [warning part] else [] := by
  induction parts with
  | nil => rfl
  | cons part parts ih =>
    rw [List.map_cons, List.flatMap_cons, ← ih, warnings, List.filterMap_cons, warnings, outcome]
    cases read part <;> rfl

/-- All warnings of parts have the code of the warning. -/
theorem code_of_mem_warnings {code : String} (h : ∀ part, (warning part).code = code)
    (parts : List (List Char)) :
    ∀ d ∈ warnings (parts.map (outcome read warning)), d.code = code := by
  intro d hd
  rw [warnings_map_outcome, List.mem_flatMap] at hd
  obtain ⟨part, -, hd⟩ := hd
  split at hd
  · rw [List.mem_singleton.mp hd, h]
  · cases hd

/-- A loop over members, each of which takes the members so far, the result and the collector from one
account to the next. -/
theorem run_foldlM {step : β → α → Collecting β} {P : List α → β → Diagnostics → Prop}
    (h : ∀ done b ds a, P done b ds → ∃ b' ds',
      (step b a).run.run (some ds) = (some b', some ds') ∧ P (done ++ [a]) b' ds')
    (l : List α) {done : List α} {b : β} {ds : Diagnostics} (hp : P done b ds) :
    ∃ b' ds', (l.foldlM step b).run.run (some ds) = (some b', some ds') ∧ P (done ++ l) b' ds' := by
  induction l generalizing done b ds with
  | nil => exact ⟨b, ds, rfl, by rwa [List.append_nil]⟩
  | cons a l ih =>
    obtain ⟨b', ds', hstep, hp'⟩ := h done b ds a hp
    obtain ⟨b'', ds'', hrun, hp''⟩ := ih hp'
    refine ⟨b'', ds'', ?_, by rwa [List.append_assoc] at hp''⟩
    rw [List.foldlM_cons, OptionT.run_bind, Option.elimM, StateT.run_bind, hstep]
    exact hrun

end

theorem eraseDups_concat (names : List String) (name : String) :
    (names ++ [name]).eraseDups =
      if name ∈ names.eraseDups then names.eraseDups else names.eraseDups ++ [name] := by
  rw [List.eraseDups_append]
  by_cases h : name ∈ names <;> simp [List.removeAll, List.eraseDups_cons, h]

/-- A dictionary with the names of blocks in the order of their first blocks, each with the value of its
last. -/
structure LastWins {α β : Type} (name : β → String) (value : β → α) (blocks : List β) (d : Dict α) :
    Prop where
  keys : d.keys = (blocks.map name).eraseDups
  last : ∀ k, d.get? k = (blocks.reverse.find? (name · == k)).map value

namespace LastWins

variable {α β : Type} {name : β → String} {value : β → α} {blocks : List β} {d : Dict α}

theorem start : LastWins name value [] (.empty : Dict α) := ⟨rfl, by simp⟩

theorem insert (h : LastWins name value blocks d) (b : β) :
    LastWins name value (blocks ++ [b]) (d.insert (name b) (value b)) := by
  constructor
  · rw [Dict.keys_insert, h.keys, List.map_append, List.map_singleton, eraseDups_concat]
  · intro k
    rw [Dict.get?_insert, h.last, List.reverse_append, List.reverse_singleton,
      List.singleton_append, List.find?_cons]
    by_cases hk : k = name b
    · simp [hk]
    · rw [if_neg hk, beq_eq_false_iff_ne.mpr (Ne.symm hk)]

end LastWins

def repeatedWarning {α : Type} (d : Dict α) (name : String) (f : Finding) : Diagnostics :=
  if d.contains name then [f.diagnostic] else []

theorem code_of_mem_repeatedWarning {α : Type} {d : Dict α} {name : String} {f : Finding} :
    ∀ e ∈ repeatedWarning d name f, e.code = f.code := by
  intro e he
  unfold repeatedWarning at he
  split at he
  · rw [List.mem_singleton.mp he]
    rfl
  · cases he

/-- A name that is set is a new one, or it is warned of. -/
theorem length_repeatedWarning {α : Type} (d : Dict α) (name : String) (value : α) (f : Finding) :
    (repeatedWarning d name f).length + (d.insert name value).keys.length = d.keys.length + 1 := by
  rw [repeatedWarning, Dict.keys_insert]
  by_cases h : name ∈ d.keys
  · simp [h, Nat.add_comm]
  · simp [h]

namespace EntityBlock

variable (b : EntityBlock)

def lineWarning (line : List Char) : Diagnostic :=
  (Finding.unmatchedFieldLine b.name (String.ofList line)).diagnostic

def outcomes : List (Field ⊕ Diagnostic) := b.lines.map (outcome readFieldLine? b.lineWarning)

theorem accounts_outcomes :
    Accounts (· == '\n') readFieldLine? b.lineWarning b.body b.outcomes :=
  accounts_pieces readFieldLine? b.lineWarning (· == '\n') b.body

theorem warnings_outcomes : warnings b.outcomes = b.trace.findings.map Finding.diagnostic := by
  rw [findings_trace, outcomes, warnings_map_outcome, List.map_flatMap]
  congr 1
  funext line
  unfold lineFindings
  split <;> rfl

theorem code_of_mem_warnings : ∀ d ∈ warnings b.outcomes, d.code = "UNMATCHED_FIELD_LINE" :=
  Jdl.code_of_mem_warnings readFieldLine? b.lineWarning (fun _ => rfl) b.lines

/-- The fields of the lines, and behind them the audit fields that are asked for and whose names are
free. -/
theorem fields_eq_results : b.fields = results b.outcomes ++ if b.isAudited then
    auditFields.filter fun a => !hasFieldNamed (results b.outcomes) a.name else [] := by
  rw [outcomes, results_map_outcome, fields, addAuditFields_eq, declaredFields]
  split <;> simp

end EntityBlock

/-- How entity blocks are accounted for. Their lines are, one by one; each name has the fields of its
last block, and all blocks but one of a name are warned of. -/
structure EntitiesAccounted (blocks : List EntityBlock) (entities : Dict (List Field))
    (ds : Diagnostics) : Prop where
  lines : ∀ b ∈ blocks, Accounts (· == '\n') readFieldLine? b.lineWarning b.body b.outcomes
  unmatched : withCode "UNMATCHED_FIELD_LINE" ds = blocks.flatMap fun b => warnings b.outcomes
  names : LastWins EntityBlock.name EntityBlock.fields blocks entities
  fields : ∀ b ∈ blocks, b.fields = results b.outcomes ++ if b.isAudited then
    auditFields.filter fun a => !hasFieldNamed (results b.outcomes) a.name else []
  repeated : (withCode "DUPLICATE_ENTITY" ds).length + entities.keys.length = blocks.length
  codes : ∀ d ∈ ds, d.code = "UNMATCHED_FIELD_LINE" ∨ d.code = "DUPLICATE_ENTITY"

namespace EntitiesAccounted

variable {blocks : List EntityBlock} {entities : Dict (List Field)} {ds : Diagnostics}

theorem start : EntitiesAccounted [] .empty [] where
  lines := by simp
  unmatched := rfl
  names := .start
  fields := by simp
  repeated := rfl
  codes := by simp

theorem declare (h : EntitiesAccounted blocks entities ds) (b : EntityBlock) :
    EntitiesAccounted (blocks ++ [b]) (b.declare entities).1
      (ds ++ (b.declare entities).2.findings.map Finding.diagnostic) := by
  have hadded : (b.declare entities).2.findings.map Finding.diagnostic =
      warnings b.outcomes ++ repeatedWarning entities b.name (.repeatedEntity b.name) := by
    rw [b.warnings_outcomes, EntityBlock.declare, findings_append, List.map_append, repeatedWarning]
    split <;> rfl
  have hcode : ∀ d ∈ repeatedWarning entities b.name (.repeatedEntity b.name),
      d.code = "DUPLICATE_ENTITY" := code_of_mem_repeatedWarning
  rw [hadded]
  constructor
  · intro c hc
    exact c.accounts_outcomes
  · rw [withCode_append, withCode_append, h.unmatched, withCode_eq_self b.code_of_mem_warnings,
      withCode_eq_nil hcode (by decide), List.flatMap_append]
    simp
  · exact h.names.insert b
  · intro c hc
    exact c.fields_eq_results
  · have hcount := h.repeated
    have hinsert := length_repeatedWarning entities b.name b.fields (.repeatedEntity b.name)
    rw [length_withCode_append, length_withCode_append,
      withCode_eq_nil b.code_of_mem_warnings (by decide), withCode_eq_self hcode, List.length_nil,
      List.length_append, List.length_singleton]
    simp only [EntityBlock.declare]
    omega
  · intro d hd
    rcases List.mem_append.mp hd with hd | hd
    · exact h.codes d hd
    · rcases List.mem_append.mp hd with hd | hd
      · exact .inl (b.code_of_mem_warnings d hd)
      · exact .inr (hcode d hd)

theorem run (s : List Char) : ∃ entities ds,
    (Collect.entities s).run.run (some []) = (some entities, some ds) ∧
      EntitiesAccounted (EntityBlock.all s) entities ds :=
  run_foldlM (P := EntitiesAccounted)
    (fun _ d _ b h => ⟨_, _, collects_declareEntity d b _, h.declare b⟩) (EntityBlock.all s) start

end EntitiesAccounted

/-- How enumeration blocks are accounted for. Those without values are warned of; of the others each
name has the values of its last block, and all blocks but one of a name are warned of. -/
structure EnumsAccounted (blocks : List EnumBlock) (enums : Dict (List String)) (ds : Diagnostics) :
    Prop where
  empty : (withCode "EMPTY_ENUM" ds).length + (blocks.filter (·.values ≠ [])).length = blocks.length
  names : LastWins EnumBlock.name EnumBlock.values (blocks.filter (·.values ≠ [])) enums
  count : (withCode "EMPTY_ENUM" ds).length + (withCode "DUPLICATE_ENUM" ds).length +
    enums.keys.length = blocks.length
  codes : ∀ d ∈ ds, d.code = "EMPTY_ENUM" ∨ d.code = "DUPLICATE_ENUM"

namespace EnumsAccounted

variable {blocks : List EnumBlock} {enums : Dict (List String)} {ds : Diagnostics}

theorem start : EnumsAccounted [] .empty [] where
  empty := rfl
  names := .start
  count := rfl
  codes := by simp

theorem declare_empty (h : EnumsAccounted blocks enums ds) {b : EnumBlock} (hvalues : b.values = []) :
    EnumsAccounted (blocks ++ [b]) enums (ds ++ [(Finding.emptyEnum b.name).diagnostic]) := by
  have hcode : ∀ d ∈ [(Finding.emptyEnum b.name).diagnostic], d.code = "EMPTY_ENUM" := by
    simp [Finding.diagnostic, Finding.code]
  have hblocks : (blocks ++ [b]).filter (·.values ≠ []) = blocks.filter (·.values ≠ []) := by
    simp [hvalues]
  constructor
  · have hempty := h.empty
    rw [hblocks, length_withCode_append, withCode_eq_self hcode, List.length_append,
      List.length_singleton, List.length_singleton]
    omega
  · rw [hblocks]
    exact h.names
  · have hcount := h.count
    rw [length_withCode_append, length_withCode_append, withCode_eq_self hcode,
      withCode_eq_nil hcode (by decide), List.length_append, List.length_nil, List.length_singleton,
      List.length_singleton]
    omega
  · exact List.forall_mem_append.mpr ⟨h.codes, fun d hd => .inl (hcode d hd)⟩

theorem declare_values (h : EnumsAccounted blocks enums ds) {b : EnumBlock} (hvalues : b.values ≠ []) :
    EnumsAccounted (blocks ++ [b]) (enums.insert b.name b.values)
      (ds ++ repeatedWarning enums b.name (.repeatedEnum b.name)) := by
  have hcode : ∀ d ∈ repeatedWarning enums b.name (.repeatedEnum b.name),
      d.code = "DUPLICATE_ENUM" := code_of_mem_repeatedWarning
  have hblocks : (blocks ++ [b]).filter (·.values ≠ []) =
      blocks.filter (·.values ≠ []) ++ [b] := by
    simp [hvalues]
  constructor
  · have hempty := h.empty
    rw [hblocks, length_withCode_append, withCode_eq_nil hcode (by decide), List.length_append,
      List.length_append, List.length_nil, List.length_singleton]
    omega
  · rw [hblocks]
    exact h.names.insert b
  · have hcount := h.count
    have hinsert := length_repeatedWarning enums b.name b.values (.repeatedEnum b.name)
    rw [length_withCode_append, length_withCode_append, withCode_eq_self hcode,
      withCode_eq_nil hcode (by decide), List.length_append, List.length_nil, List.length_singleton]
    omega
  · exact List.forall_mem_append.mpr ⟨h.codes, fun d hd => .inr (hcode d hd)⟩

theorem declare (h : EnumsAccounted blocks enums ds) (b : EnumBlock) :
    EnumsAccounted (blocks ++ [b]) (b.declare enums).1
      (ds ++ (b.declare enums).2.findings.map Finding.diagnostic) := by
  rw [EnumBlock.declare_fst]
  by_cases hvalues : b.values = []
  · have hadded : (b.declare enums).2.findings.map Finding.diagnostic =
        [(Finding.emptyEnum b.name).diagnostic] := by
      simp [EnumBlock.declare, hvalues]
    rw [hadded, if_pos hvalues]
    exact h.declare_empty hvalues
  · have hadded : (b.declare enums).2.findings.map Finding.diagnostic =
        repeatedWarning enums b.name (.repeatedEnum b.name) := by
      rw [EnumBlock.declare, if_neg hvalues, repeatedWarning]
      dsimp only
      split <;> rfl
    rw [hadded, if_neg hvalues]
    exact h.declare_values hvalues

theorem run (s : List Char) : ∃ enums ds,
    (Collect.enums s).run.run (some []) = (some enums, some ds) ∧
      EnumsAccounted (EnumBlock.all s) enums ds :=
  run_foldlM (P := EnumsAccounted)
    (fun _ d _ b h => ⟨_, _, collects_declareEnum d b _, h.declare b⟩) (EnumBlock.all s) start

end EnumsAccounted

namespace RelationshipBlock

variable (b : RelationshipBlock)

def statementWarning (statement : List Char) : Diagnostic :=
  (Finding.unmatchedStatement b.type (String.ofList statement)).diagnostic

def outcomes : List (RelationshipRecord ⊕ Diagnostic) :=
  b.statements.map (outcome (fun s => (readRecord? b.type s).1) b.statementWarning)

theorem accounts_outcomes : Accounts (fun c => c == '\n' || c == ',')
    (fun s => (readRecord? b.type s).1) b.statementWarning b.body b.outcomes :=
  accounts_pieces (fun s => (readRecord? b.type s).1) b.statementWarning
    (fun c => c == '\n' || c == ',') b.body

theorem results_outcomes : results b.outcomes = b.records :=
  results_map_outcome (fun s => (readRecord? b.type s).1) b.statementWarning b.statements

/-- What is found in a statement that leads to a record is about its field specs. -/
theorem code_of_mem_readRecord? {type : String} {statement : List Char} {f : Finding}
    (h : f ∈ (readRecord? type statement).2.findings) : f.code = "INVALID_INJECTED_FIELD" := by
  unfold readRecord? at h
  split at h
  · cases h
  · simp only [findings_append, List.mem_append] at h
    rcases h with h | h <;> split at h <;> simp_all [Finding.code]

/-- No other finding of a statement has the code of its warning. -/
theorem withCode_statementFindings (statement : List Char) :
    withCode "UNMATCHED_RELATIONSHIP_STATEMENT"
        ((b.statementFindings statement).map Finding.diagnostic) =
      if (readRecord? b.type statement).1.isNone then [b.statementWarning statement] else [] := by
  have hspecs : ∀ d ∈ (readRecord? b.type statement).2.findings.map Finding.diagnostic,
      d.code = "INVALID_INJECTED_FIELD" := by
    intro d hd
    obtain ⟨f, hf, rfl⟩ := List.mem_map.mp hd
    exact code_of_mem_readRecord? hf
  rw [statementFindings, List.map_append, withCode_append, withCode_eq_nil hspecs (by decide),
    List.nil_append]
  split
  · exact withCode_eq_self (by simp [Finding.diagnostic, Finding.code])
  · rfl

theorem withCode_findings : withCode "UNMATCHED_RELATIONSHIP_STATEMENT"
    (b.trace.findings.map Finding.diagnostic) = warnings b.outcomes := by
  rw [findings_trace, outcomes, warnings_map_outcome, List.map_flatMap, withCode,
    List.filter_flatMap]
  congr 1
  funext statement
  exact b.withCode_statementFindings statement

theorem code_of_mem_findings : ∀ f ∈ b.trace.findings,
    f.code = "INVALID_INJECTED_FIELD" ∨ f.code = "UNMATCHED_RELATIONSHIP_STATEMENT" := by
  intro f hf
  rw [findings_trace, List.mem_flatMap] at hf
  obtain ⟨statement, -, hf⟩ := hf
  rw [statementFindings, List.mem_append] at hf
  rcases hf with hf | hf
  · exact .inl (code_of_mem_readRecord? hf)
  · split at hf
    · rw [List.mem_singleton.mp hf]
      exact .inr rfl
    · cases hf

end RelationshipBlock

/-- How relationship blocks are accounted for. The statements of those that are closed are, one by one,
with the records in the order of their statements; a block that is never closed is warned of at the
end. -/
structure RelationshipsAccounted (blocks : RelationshipBlocks) (records : List RelationshipRecord)
    (ds : Diagnostics) : Prop where
  statements : ∀ b ∈ blocks.closed, Accounts (fun c => c == '\n' || c == ',')
    (fun s => (readRecord? b.type s).1) b.statementWarning b.body b.outcomes
  records_eq : records = blocks.closed.flatMap fun b => results b.outcomes
  unmatched : withCode "UNMATCHED_RELATIONSHIP_STATEMENT" ds =
    blocks.closed.flatMap fun b => warnings b.outcomes
  count : records.length + (withCode "UNMATCHED_RELATIONSHIP_STATEMENT" ds).length =
    (blocks.closed.flatMap RelationshipBlock.statements).length
  cut : ∃ before, withCode "UNTERMINATED_RELATIONSHIP_BLOCK" before = [] ∧
    ds = before ++ (blocks.unterminated.map fun u =>
      (Finding.unterminatedBlock u.1 u.2).diagnostic).toList
  codes : ∀ d ∈ ds, d.code = "INVALID_INJECTED_FIELD" ∨
    d.code = "UNMATCHED_RELATIONSHIP_STATEMENT" ∨ d.code = "UNTERMINATED_RELATIONSHIP_BLOCK"

namespace RelationshipsAccounted

theorem of_findings (blocks : RelationshipBlocks) :
    RelationshipsAccounted blocks (blocks.closed.flatMap (·.records))
      (blocks.findings.map Finding.diagnostic) := by
  set before := blocks.closed.flatMap fun b => b.trace.findings.map Finding.diagnostic with hbefore
  set cut := (blocks.unterminated.map fun u =>
    (Finding.unterminatedBlock u.1 u.2).diagnostic).toList with hcut
  have hds : blocks.findings.map Finding.diagnostic = before ++ cut := by
    rw [RelationshipBlocks.findings, List.map_append, List.map_flatMap, hcut]
    cases blocks.unterminated <;> rfl
  have hcutcode : ∀ d ∈ cut, d.code = "UNTERMINATED_RELATIONSHIP_BLOCK" := by
    rw [hcut]
    cases blocks.unterminated <;> simp [Finding.diagnostic, Finding.code]
  have hcode : ∀ d ∈ before, d.code = "INVALID_INJECTED_FIELD" ∨
      d.code = "UNMATCHED_RELATIONSHIP_STATEMENT" := by
    intro d hd
    obtain ⟨b, -, hd⟩ := List.mem_flatMap.mp hd
    obtain ⟨f, hf, rfl⟩ := List.mem_map.mp hd
    exact b.code_of_mem_findings f hf
  have hunmatched : withCode "UNMATCHED_RELATIONSHIP_STATEMENT" (before ++ cut) =
      blocks.closed.flatMap fun b => warnings b.outcomes := by
    rw [withCode_append, withCode_eq_nil hcutcode (by decide), List.append_nil, hbefore, withCode,
      List.filter_flatMap]
    congr 1
    funext b
    exact b.withCode_findings
  have hrecords : (blocks.closed.flatMap (·.records)) =
      blocks.closed.flatMap fun b => results b.outcomes := by
    simp only [RelationshipBlock.results_outcomes]
  rw [hds]
  refine ⟨fun b _ => b.accounts_outcomes, hrecords, hunmatched, ?_, ⟨before, ?_, rfl⟩, ?_⟩
  · rw [hunmatched, hrecords, List.length_flatMap, List.length_flatMap, List.length_flatMap,
      ← List.sum_map_add]
    congr 1
    refine List.map_congr_left fun b _ => ?_
    rw [length_results_add_warnings, RelationshipBlock.outcomes, List.length_map]
  · refine List.filter_eq_nil_iff.mpr fun d hd => ?_
    rcases hcode d hd with h | h <;> simp [h]
  · intro d hd
    rcases List.mem_append.mp hd with hd | hd
    · rcases hcode d hd with h | h
      · exact .inl h
      · exact .inr (.inl h)
    · exact .inr (.inr (hcutcode d hd))

theorem run (s : List Char) : ∃ records ds,
    (Collect.recordsFrom 0 false s).run.run (some []) = (some records, some ds) ∧
      RelationshipsAccounted (RelationshipBlocks.read s) records ds :=
  ⟨_, _, collects_recordsFrom 0 false s _, of_findings _⟩

end RelationshipsAccounted

/-- Extraction accounts for every part of a text. With a fresh collector each of the three stages comes to
its end. Every line of an entity block that is not blank is one field or one warning, every statement of
a closed relationship block one record or one warning, in their order; every block is under its name,
has been replaced by a later one with a warning, or is empty with a warning. -/
theorem extraction_accounts (s : List Char) :
    (∃ entities ds, (Collect.entities s).run.run (some []) = (some entities, some ds) ∧
      EntitiesAccounted (EntityBlock.all s) entities ds) ∧
    (∃ enums ds, (Collect.enums s).run.run (some []) = (some enums, some ds) ∧
      EnumsAccounted (EnumBlock.all s) enums ds) ∧
    ∃ records ds, (Collect.recordsFrom 0 false s).run.run (some []) = (some records, some ds) ∧
      RelationshipsAccounted (RelationshipBlocks.read s) records ds :=
  ⟨EntitiesAccounted.run s, EnumsAccounted.run s, RelationshipsAccounted.run s⟩

end EntitySchema.Jdl
