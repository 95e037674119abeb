import EntitySchema.Compile.Pipeline
import EntitySchema.Proofs.Document.Configuration
import EntitySchema.Proofs.Jdl.Invariants

/-! The gate of a compilation. A run is the parse, the verdict of the checks and, unless the gate is
closed on errors, the document (`finished_run`); the verdict on a parsed schema is exact. -/
namespace EntitySchema.Compile

/-- An ASCII letter or underscore, then ASCII letters, digits and underscores. -/
def IsAsciiIdentifier (s : String) : Prop :=
  ∃ c r, s.toList = c :: r ∧ (c.isAlpha = true ∨ c = '_') ∧
    ∀ d ∈ r, d.isAlphanum = true ∨ d = '_'

/-- What renderers rely on in the fields of a schema. -/
structure Renderable (s : Schema) : Prop where
  oneId : ∀ e ∈ s.entities.entries, ∃ f, e.2.filter (Text.lowered ·.name = "id") = [f]
  distinct : ∀ e ∈ s.entities.entries, (e.2.map Field.name).Nodup
  identifiers : ∀ e ∈ s.entities.entries, ∀ f ∈ e.2, IsAsciiIdentifier f.name

/-- In a document, the entry of every relationship field names a target that has an entry itself. -/
def TargetsPresent (document : List (String × Value)) : Prop :=
  ∃ entities, document.lookup "entities" = some (.mapping entities) ∧
    ∀ e ∈ entities, ∃ items, e.2 = .list items ∧ ∀ item ∈ items, ∃ entries, item = .mapping entries ∧
      ((.text "isRelationship", .bool true) ∈ entries →
        ∃ target, (.text "targetEntity", .text target) ∈ entries ∧
          .text target ∈ entities.map Prod.fst)

/-- A report that no step has failed or finished yet, on a run whose checks have found `found`. -/
structure Pending (found : Option Diagnostics) (r : Report) : Prop where
  validation : r.validation = found
  failures : r.failures = []
  document : r.document = none
  rendered : r.rendered = none

theorem pending_parseStep {r : Report} (h : Pending none r) (text : List Char) :
    (parseStep r text).1 = Jdl.parseSchema text ∧ Pending none (parseStep r text).2.1 :=
  ⟨rfl, h.validation, h.failures, h.document, h.rendered⟩

theorem pending_checkStep {r : Report} (h : Pending none r) (s : Schema) (settings : Settings) :
    Pending (some (Check.diagnostics (Check.full s settings))) (checkStep r s settings).1 :=
  ⟨rfl, h.failures, h.document, h.rendered⟩

theorem validationErrors_eq_nil_iff {s : Schema} {settings : Settings} {r : Report}
    (h : r.validation = some (Check.diagnostics (Check.full s settings))) :
    r.validationErrors = [] ↔ Check.passes s settings = true := by
  simp [Report.validationErrors, h, Check.passes, Diagnostics.isValid, Diagnostics.hasErrors]

theorem renderStep_fst (r : Report) (s : Schema) (c : Configuration) :
    (renderStep r s c).1.document = some (c.document s) ∧
      (renderStep r s c).1.rendered.isSome = true ∧
      (renderStep r s c).1.failures = r.failures ∧
      (renderStep r s c).1.validation = r.validation := ⟨rfl, rfl, rfl, rfl⟩

theorem finish_fst (r : Report) (gated : Bool) :
    ((finish r gated).1.success = true ↔
      r.failures = [] ∧ ¬(gated = true ∧ r.validationErrors ≠ []) ∧ r.rendered.isSome = true) ∧
      (finish r gated).1.document = r.document ∧ (finish r gated).1.rendered = r.rendered := by
  refine ⟨?_, rfl, rfl⟩
  have h : (finish r gated).1.success =
      (decide (¬(r.failures ≠ [] ∨ (r.validationErrors ≠ [] ∧ gated))) && r.rendered.isSome) := rfl
  rw [h, Bool.and_eq_true, decide_eq_true_eq, not_or, not_not, and_assoc, and_comm (a := gated = true)]

/-- A run ends behind the checks when the gate is closed on errors, else behind the document. -/
theorem run_fst (r : Report) (text : List Char) (c : Configuration) (gated : Bool) :
    let s := (parseStep r text).1
    let checked := (checkStep (parseStep r text).2.1 s c.shown).1
    (run r text c gated).1 =
      if gated = true ∧ checked.validationErrors ≠ [] then (finish checked gated).1
      else (finish (renderStep checked s c).1 gated).1 := by
  intro s checked
  by_cases h : gated = true ∧ checked.validationErrors ≠ []
  · have hb : (gated && decide (checked.validationErrors ≠ [])) = true := by simpa using h
    rw [if_pos h, run]
    simp only [checked, s] at hb
    simp only [hb, if_true, checked, s]
  · have hb : (gated && decide (checked.validationErrors ≠ [])) = false := by
      simpa [Bool.and_eq_false_iff, ← Decidable.or_iff_not_not_and_not] using h
    rw [if_neg h, run]
    simp only [checked, s] at hb
    simp only [hb, Bool.false_eq_true, if_false, checked, s]

def rendering (s : Schema) (c : Configuration) : String :=
  c.format.render c.indent.val ((c.document s).map fun e => (Value.text e.1, e.2))

/-- The report of a run that has read its text: it succeeds, with the document of the schema and its
text, when the gate is open or the checks pass; otherwise there is neither. -/
structure Finished (s : Schema) (c : Configuration) (gated : Bool) (r : Report) : Prop where
  validation : r.validation = some (Check.diagnostics (Check.full s c.shown))
  failures : r.failures = []
  made : if gated = true ∧ Check.passes s c.shown = false then
      r.success = false ∧ r.document = none ∧ r.rendered = none
    else r.success = true ∧ r.document = some (c.document s) ∧ r.rendered = some (rendering s c)

theorem finished_run {r : Report} (h : Pending none r) (text : List Char) (c : Configuration)
    (gated : Bool) : Finished (Jdl.parseSchema text) c gated (run r text c gated).1 := by
  obtain ⟨hs, hp⟩ := pending_parseStep h text
  have hc := pending_checkStep hp (Jdl.parseSchema text) c.shown
  have herrors := validationErrors_eq_nil_iff hc.validation
  have hrun := run_fst r text c gated
  dsimp only at hrun
  rw [hs] at hrun
  set s := Jdl.parseSchema text
  set checked := (checkStep (parseStep r text).2.1 s c.shown).1
  by_cases hgate : gated = true ∧ Check.passes s c.shown = false
  · have hne : gated = true ∧ checked.validationErrors ≠ [] := ⟨hgate.1, by simp [herrors, hgate.2]⟩
    obtain ⟨hsuccess, hdocument, hrendered⟩ := finish_fst checked gated
    rw [if_pos hne] at hrun
    rw [hrun]
    refine ⟨hc.validation, hc.failures, ?_⟩
    rw [if_pos hgate, hdocument, hrendered]
    refine ⟨?_, hc.document, hc.rendered⟩
    rw [← Bool.not_eq_true, hsuccess]
    exact fun h => h.2.1 hne
  · have hne : ¬(gated = true ∧ checked.validationErrors ≠ []) := by
      simpa [herrors] using hgate
    obtain ⟨hmade, htext, hfailures, hvalidation⟩ := renderStep_fst checked s c
    obtain ⟨hsuccess, hdocument, hrendered⟩ := finish_fst (renderStep checked s c).1 gated
    have hsame : (renderStep checked s c).1.validationErrors = checked.validationErrors := by
      rw [Report.validationErrors, hvalidation, Report.validationErrors]
    rw [if_neg hne] at hrun
    rw [hrun]
    refine ⟨hc.validation, hc.failures, ?_⟩
    rw [if_neg hgate, hdocument, hrendered, hsuccess, hfailures, hsame]
    exact ⟨⟨hc.failures, hne, htext⟩, hmade, rfl⟩

namespace Finished

variable {s : Schema} {c : Configuration} {gated : Bool} {r : Report}

theorem validationErrors_eq_nil_iff (h : Finished s c gated r) :
    r.validationErrors = [] ↔ Check.passes s c.shown = true :=
  Compile.validationErrors_eq_nil_iff h.validation

theorem of_passes (h : Finished s c gated r) (hp : Check.passes s c.shown = true) :
    r.success = true ∧ r.rendered = some (rendering s c) := by
  have hmade := h.made
  rw [if_neg (by simp [hp])] at hmade
  exact ⟨hmade.1, hmade.2.2⟩

theorem of_fails (h : Finished s c true r) (hp : Check.passes s c.shown = false) :
    r.success = false ∧ r.rendered = none := by
  have hmade := h.made
  rw [if_pos ⟨rfl, hp⟩] at hmade
  exact ⟨hmade.1, hmade.2.2⟩

end Finished

/-- The outcome of a run: it succeeds, with a document and its text, when the gate is open or the
checks pass; otherwise there is neither. -/
theorem compileText_outcome (text : List Char) (settings : Settings) (gated : Bool) :
    let s := Jdl.parseSchema text
    let r := (compileText text settings gated).1
    if gated = true ∧ Check.passes s settings = false then
      r.success = false ∧ r.document = none ∧ r.rendered = none
    else r.success = true ∧ r.document = some (s.document settings) ∧ r.rendered.isSome = true := by
  intro s r
  have hmade := (finished_run (r := .start settings) ⟨rfl, rfl, rfl, rfl⟩ text settings gated).made
  rw [settings.shown_configuration, settings.document_configuration] at hmade
  split
  · rename_i hgate
    rwa [if_pos hgate] at hmade
  · rename_i hgate
    rw [if_neg hgate] at hmade
    exact ⟨hmade.1, hmade.2.1, Option.isSome_of_mem hmade.2.2⟩

/-- A line feed at the end, which the check of names lets pass, is in no name of source text. -/
theorem withoutLastFeed_of_isName {s : List Char} (h : Jdl.isName s = true) :
    Text.withoutLastFeed s = s := by
  unfold Text.withoutLastFeed
  split
  · rename_i hlast
    have := Jdl.all_isWordChar_of_isName h '\n' (List.mem_of_getLast? hlast)
    exact absurd this (by decide)
  · rfl

theorem isIdentifier_iff (s : String) :
    Check.isIdentifier s.toList = true ↔ IsAsciiIdentifier s := by
  unfold IsAsciiIdentifier
  cases s.toList with
  | nil => simp [Check.isIdentifier]
  | cons c r => simp [Check.isIdentifier]

theorem countP_isId_eq_one_iff (fields : List Field) :
    fields.countP Field.isId = 1 ↔ ∃ f, fields.filter (Text.lowered ·.name = "id") = [f] := by
  rw [List.countP_eq_length_filter, List.length_eq_one_iff]
  rfl

/-- On a parsed schema the verdict of the checks is exactly what renderers rely on. -/
theorem passes_parse_iff (text : List Char) (settings : Settings) :
    Check.passes (Jdl.parseSchema text) settings = true ↔ Renderable (Jdl.parseSchema text) := by
  have hname (e : String × List Field) (he : e ∈ (Jdl.parseSchema text).entities.entries) (f : Field)
      (hf : f ∈ e.2) : Check.isIdentifier (Text.withoutLastFeed f.name.toList) = true ↔
        IsAsciiIdentifier f.name := by
    rw [withoutLastFeed_of_isName (Jdl.isName_parse text e he f hf), isIdentifier_iff]
  rw [Check.passes_iff]
  constructor
  · intro h
    exact ⟨fun e he => (countP_isId_eq_one_iff e.2).mp (h.ids e he), h.distinct,
      fun e he f hf => (hname e he f hf).mp (h.identifiers e he f hf)⟩
  · intro h
    exact ⟨fun e he => (countP_isId_eq_one_iff e.2).mpr (h.oneId e he), h.distinct,
      fun e he f hf => (hname e he f hf).mpr (h.identifiers e he f hf), Jdl.isDeclared_parse text,
      fun e he => ((Jdl.invariant_parse text).values e he).1⟩

/-- A run that succeeds with the gate closed has the document of a schema that passes the checks. -/
theorem document_of_success {text : List Char} {settings : Settings}
    (h : (compileText text settings true).1.success = true) :
    (compileText text settings true).1.document =
        some ((Jdl.parseSchema text).document settings) ∧ Renderable (Jdl.parseSchema text) := by
  have hrun := compileText_outcome text settings true
  by_cases hgate : true = true ∧ Check.passes (Jdl.parseSchema text) settings = false
  · rw [if_pos hgate] at hrun
    simp [hrun.1] at h
  · rw [if_neg hgate] at hrun
    have hpass : Check.passes (Jdl.parseSchema text) settings = true := by simpa using hgate
    exact ⟨hrun.2.1, (passes_parse_iff text settings).mp hpass⟩

/-- The entry of a field says of itself whether it is one of a relationship, and then of what. -/
theorem isRelationship_of_mem_entry {s : Schema} {e : RelationshipEnd}
    (h : ("isRelationship", Value.bool true) ∈ e.field.entries ++ e.metadata s) :
    e.field.isRelationship = true := by
  rcases List.mem_append.mp h with h | h
  · simpa [Field.entries] using h
  · simpa using RelationshipEnd.key_of_mem_metadata h

theorem targetsPresent_document (text : List Char) (settings : Settings) :
    TargetsPresent ((Jdl.parseSchema text).document settings) := by
  set s := Jdl.parseSchema text
  refine ⟨_, rfl, ?_⟩
  intro e he
  simp only [List.map_map, List.mem_map, Function.comp_apply] at he
  obtain ⟨entity, -, rfl⟩ := he
  refine ⟨_, rfl, ?_⟩
  intro item hitem
  obtain ⟨x, hx, rfl⟩ := List.mem_map.mp hitem
  refine ⟨_, rfl, ?_⟩
  intro hrel
  have htext (k : String) (v : Value) : (Value.text k, v) ∈
      (x.field.entries ++ x.metadata s).map (fun e => (Value.text e.1, e.2)) ↔
        (k, v) ∈ x.field.entries ++ x.metadata s := by
    simp only [List.mem_map, Prod.mk.injEq, Value.text.injEq, Prod.exists]
    constructor
    · rintro ⟨k', v', h, rfl, rfl⟩
      exact h
    · exact fun h => ⟨k, v, h, rfl, rfl⟩
  have hfield : x.field ∈ s.fields entity := by
    obtain ⟨p, hp, rfl⟩ := List.mem_map.mp hx
    exact (List.mem_zipIdx hp).2.2 ▸ List.getElem_mem _
  obtain ⟨fields, hfields⟩ : ∃ fields, s.entities.get? entity = some fields := by
    cases hf : s.entities.get? entity with
    | none => simp [Schema.fields, hf] at hfield
    | some fields => exact ⟨fields, rfl⟩
  rw [Schema.fields, hfields, Option.getD_some] at hfield
  have hr := isRelationship_of_mem_entry ((htext _ _).mp hrel)
  have hinv := (Jdl.invariant_parse text).relationships (entity, fields)
    ((Dict.mem_entries_iff _ _ _).mpr hfields) x.field hfield hr
  obtain ⟨target, hk, ht⟩ := hinv.target
  refine ⟨target, (htext _ _).mpr (List.mem_append_left _ ?_), ?_⟩
  · simp [Field.entries, ht]
  · have hk : target ∈ s.entities.keys := hk
    simpa using hk

/-- The gate is exact: a gated run succeeds on just those texts whose schema renderers can rely on.
It then has the document of the schema, with all targets in it, and else no document at all. A run
without the gate always succeeds, with the same document. -/
theorem compileText_gate (text : List Char) (settings : Settings) :
    let s := Jdl.parseSchema text
    let gated := (compileText text settings true).1
    let ungated := (compileText text settings false).1
    (gated.success = true ↔ Renderable s) ∧
      (gated.success = true →
        gated.document = some (s.document settings) ∧ TargetsPresent (s.document settings)) ∧
      (gated.success = false → gated.document = none ∧ gated.rendered = none) ∧
      ungated.success = true ∧ (gated.success = true → ungated.document = gated.document) := by
  intro s gated ungated
  have hpass : Check.passes s settings = true ↔ Renderable s := passes_parse_iff text settings
  have hungated : ungated.success = true ∧ ungated.document = some (s.document settings) ∧
      ungated.rendered.isSome = true := compileText_outcome text settings false
  have hgated : if true = true ∧ Check.passes s settings = false then
      gated.success = false ∧ gated.document = none ∧ gated.rendered = none
    else gated.success = true ∧ gated.document = some (s.document settings) ∧
      gated.rendered.isSome = true := compileText_outcome text settings true
  cases hp : Check.passes s settings with
  | true =>
    rw [if_neg (by simp [hp])] at hgated
    have htargets := targetsPresent_document text settings
    refine ⟨iff_of_true hgated.1 (hpass.mp hp), fun _ => ⟨hgated.2.1, htargets⟩, ?_, hungated.1,
      fun _ => hungated.2.1.trans hgated.2.1.symm⟩
    intro hfalse
    simp [hgated.1] at hfalse
  | false =>
    rw [if_pos ⟨rfl, hp⟩] at hgated
    have hnot : ¬gated.success = true := by simp [hgated.1]
    have hbad : ¬Renderable s := fun h => by simp [hpass.mpr h] at hp
    exact ⟨iff_of_false hnot hbad, fun h => absurd h hnot, fun _ => hgated.2, hungated.1,
      fun h => absurd h hnot⟩

end EntitySchema.Compile
