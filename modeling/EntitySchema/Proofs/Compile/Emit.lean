import EntitySchema.Compile.Emit
import EntitySchema.Proofs.Compile.Gate
import EntitySchema.Proofs.Files.Store

/-! How a compilation fares with its files. A report tells whether the input could be read
(`compileFile_ok`), and it records every failed write but those of an output path with a null
character and of an output file that is to be compared with the document and is no text
(`emit_error_iff`). -/
namespace EntitySchema.Compile

open Files (Path Refusal Store)
open Text (Loose)

variable {store : Store} {path target : Path} {c : Configuration} {settings : Settings}
  {gated force : Bool} {content : List Char} {r : Report} {f : Store.Fault}

/-- The report of a run that could not read its input. -/
structure Unread (r : Report) : Prop where
  failures : r.failures ≠ []
  success : r.success = false
  validation : r.validation = none
  rendered : r.rendered = none

/-- A failure of a write that no report records. -/
inductive Unrecorded (store : Store) (target : Path) (force : Bool) : Store.Fault → Prop
  /-- The file that is there is to be compared with the document, and is no text. -/
  | noText {bytes : List UInt8} {f : Text.Utf8.Fault} : force = false →
      store.readBytes target = .ok bytes → Text.Utf8.decode bytes = .error f →
      Unrecorded store target force (.undecodable f)
  /-- The path has a null character, and nothing else kept its parents from being made. -/
  | noPath : target.HasNull →
      (∀ e, (store.makeDirectories target.parent).result = .error e → e = .unusable) →
      Unrecorded store target force (.refused .unusable)

theorem loadText_error_iff {e : Refusal} :
    loadText store path = .error e ↔
      store.locate path = .error (.tooLong path) ∧ e = .tooLong path := by
  rw [← Store.isFile_error_iff, loadText]
  rcases store.isFile path with f | _ | _ <;> simp [bind, Except.bind, pure, Except.pure]

theorem loadText_ok {loaded : Except String (List Char)} (h : loadText store path = .ok loaded)
    (text : List Char) : loaded = .ok text ↔ store.readText path = .ok text := by
  unfold loadText at h
  rcases hfile : store.isFile path with f | _ | _
  · simp [hfile, bind, Except.bind] at h
  · simp only [hfile, bind, Except.bind, Bool.false_eq_true, if_false] at h
    refine iff_of_false (by rintro rfl; cases h) fun htext => ?_
    simp [Store.isFile_of_readText htext] at hfile
  · simp only [hfile, bind, Except.bind, pure, Except.pure, if_true, Except.ok.injEq] at h
    rw [← h]
    cases store.readText path <;> simp [Except.mapError]

theorem compileFile_error_iff {e : Refusal} :
    compileFile store path c gated = .error e ↔
      store.locate path = .error (.tooLong path) ∧ e = .tooLong path := by
  rw [← loadText_error_iff, compileFile]
  rcases loadText store path with f | f | text <;> simp [bind, Except.bind, pure, Except.pure]

/-- A compilation that ends with a report has read its input, or the report says that it could
not. -/
theorem compileFile_ok {log : Log} (h : compileFile store path c gated = .ok (r, log)) :
    (∃ text, store.readText path = .ok text ∧ Finished (Jdl.parseSchema text) c gated r) ∨
      (∀ text, store.readText path ≠ .ok text) ∧ Unread r := by
  unfold compileFile at h
  rcases hload : loadText store path with e | failure | text
  · simp [hload, bind, Except.bind] at h
  · have hread := loadText_ok hload
    right
    refine ⟨fun text htext => by simpa using (hread text).mpr htext, ?_⟩
    simp only [hload, bind, Except.bind, pure, Except.pure, Except.ok.injEq, Prod.mk.injEq] at h
    obtain ⟨rfl, -⟩ := h
    exact ⟨by simp [finish, Report.addStep], by simp [finish, Report.addStep], rfl, rfl⟩
  · have hread := (loadText_ok hload text).mp rfl
    left
    simp only [hload, bind, Except.bind, pure, Except.pure, Except.ok.injEq, Prod.mk.injEq] at h
    obtain ⟨rfl, -⟩ := h
    exact ⟨text, hread, finished_run ⟨rfl, rfl, rfl, rfl⟩ text c gated⟩

theorem compileFile_of_readText {text : List Char} (h : store.readText path = .ok text)
    (c : Configuration) (gated : Bool) :
    ∃ r log, compileFile store path c gated = .ok (r, log) ∧
      Finished (Jdl.parseSchema text) c gated r := by
  rcases hc : compileFile store path c gated with e | ⟨r, log⟩
  · have hlong := Store.isFile_error_iff.mpr (compileFile_error_iff.mp hc)
    simp [Store.isFile_of_readText h] at hlong
  · rcases compileFile_ok hc with ⟨text', htext, hfinished⟩ | ⟨hnone, -⟩
    · obtain rfl : text = text' := by simpa [h] using htext
      exact ⟨r, log, rfl, hfinished⟩
    · exact absurd h (hnone text)

theorem compileFile_of_unreadable (hlong : store.locate path ≠ .error (.tooLong path))
    (h : ∀ text, store.readText path ≠ .ok text) (c : Configuration) (gated : Bool) :
    ∃ r log, compileFile store path c gated = .ok (r, log) ∧ Unread r := by
  rcases hc : compileFile store path c gated with e | ⟨r, log⟩
  · exact absurd (compileFile_error_iff.mp hc).1 hlong
  · rcases compileFile_ok hc with ⟨text, htext, -⟩ | ⟨-, hunread⟩
    · exact absurd htext (h text)
    · exact ⟨r, log, rfl, hunread⟩

theorem heldText_of_hasNull (h : target.HasNull) (force : Bool) :
    heldText store target force = .ok none := by
  have hfile : store.isFile target = .ok false := by
    rw [Store.isFile, Store.look, store.locate_of_hasNull h]
    rfl
  cases force <;> simp [heldText, hfile, Except.mapError, bind, Except.bind, pure, Except.pure]

theorem heldText_error_iff :
    heldText store target force = .error f ↔ force = false ∧
      (store.locate target = .error (.tooLong target) ∧ f = .refused (.tooLong target) ∨
        store.readBytes target = .error (.denied target) ∧ f = .refused (.denied target) ∨
        ∃ bytes g, store.readBytes target = .ok bytes ∧ Text.Utf8.decode bytes = .error g ∧
          f = .undecodable g) := by
  cases force with
  | true => simp [heldText, pure, Except.pure]
  | false =>
    have hreadable := Store.isFile_true_iff (s := store) (p := target)
    rcases hfile : store.isFile target with e | _ | _
    · obtain ⟨hlong, rfl⟩ := Store.isFile_error_iff.mp hfile
      obtain ⟨hnone, hopen⟩ : (∀ bytes, store.readBytes target ≠ .ok bytes) ∧
          store.readBytes target ≠ .error (.denied target) := by simpa [hfile] using hreadable
      simp [heldText, hfile, hlong, hnone, hopen, Except.mapError, bind, Except.bind, eq_comm]
    · have hlong := Store.locate_ne_of_isFile hfile
      obtain ⟨hnone, hopen⟩ : (∀ bytes, store.readBytes target ≠ .ok bytes) ∧
          store.readBytes target ≠ .error (.denied target) := by simpa [hfile] using hreadable
      simp [heldText, hfile, hlong, hnone, hopen, Except.mapError, bind, Except.bind, pure,
        Except.pure]
    · have hlong := Store.locate_ne_of_isFile hfile
      rcases hreadable.mp hfile with ⟨bytes, hbytes⟩ | hdenied
      · have hread := Store.readText_of_readBytes hbytes
        cases hdecode : Text.Utf8.decode bytes <;>
          simp [heldText, hfile, hread, hbytes, hdecode, hlong, Except.mapError, Except.map, bind,
            Except.bind, pure, Except.pure, eq_comm (a := f)]
      · simp [heldText, hfile, Store.readText_of_denied hdenied, hdenied, hlong, Except.mapError,
          bind, Except.bind, eq_comm (a := f)]

theorem writeIfChanged_error_iff :
    (writeIfChanged store target content force).result = .error f ↔
      heldText store target force = .error f ∨
        ∃ held e, heldText store target force = .ok held ∧ held ≠ some content ∧
          (store.writeText target content true).result = .error e ∧ f = .refused e := by
  unfold writeIfChanged writeLogged
  cases heldText store target force with
  | error g => simp
  | ok held =>
    by_cases hsame : held = some content
    · simp [hsame]
    · cases hw : (store.writeText target content true).result with
      | error e => simp [hsame, hw, eq_comm]
      | ok n => simp [hsame, hw]

/-- A failed write leaves at most new directories on the way to its path. -/
theorem writeIfChanged_failed (h : (writeIfChanged store target content force).result = .error f) :
    Store.Grows (·.IsAbove target) store (writeIfChanged store target content force).store := by
  unfold writeIfChanged writeLogged at h ⊢
  cases hheld : heldText store target force with
  | error g => exact .refl _ store
  | ok held =>
    by_cases hsame : held = some content
    · simp [hheld, hsame] at h
    · cases hw : (store.writeText target content true).result with
      | error e => simpa [hsame, hw] using Store.writeText_refused hw
      | ok n => simp [hheld, hsame, hw] at h

theorem grows_failToEncode (store : Store) (target : Path) (force : Bool) :
    Store.Grows (·.IsAbove target) store (failToEncode store target force).store := by
  unfold failToEncode
  split
  · exact .refl _ store
  · exact .refl _ store
  · have hmade := Store.grows_makeDirectories store target
    dsimp only
    split <;> exact hmade

theorem writeDocument_failed {output : Loose} {rendered : String}
    (h : (writeDocument store c output rendered).result = .error f) :
    Store.Grows (·.IsAbove (.ofText output.fileName)) store
      (writeDocument store c output rendered).store := by
  unfold writeDocument at h ⊢
  dsimp only at h ⊢
  split
  · rename_i hencodable
    rw [if_pos hencodable] at h
    exact writeIfChanged_failed h
  · exact grows_failToEncode _ _ _

theorem recorded?_eq_none_iff : recorded? f = none ↔
    f = .refused .unusable ∨ f = .unencodable ∨ ∃ g, f = .undecodable g := by
  rcases f with e | g | _
  · cases e <;> simp [recorded?]
  all_goals simp [recorded?]

/-- Which failures of a write go unrecorded, whatever is to be written. -/
theorem writeIfChanged_unrecorded_iff (content : List Char) :
    (writeIfChanged store target content force).result = .error f ∧ recorded? f = none ↔
      Unrecorded store target force f := by
  rw [writeIfChanged_error_iff, heldText_error_iff, recorded?_eq_none_iff]
  constructor
  · rintro ⟨⟨hforce, ⟨-, rfl⟩ | ⟨-, rfl⟩ | ⟨bytes, g, hbytes, hdecode, rfl⟩⟩ |
      ⟨held, e, -, -, hwrite, rfl⟩, hnone⟩
    · simp at hnone
    · simp at hnone
    · exact .noText hforce hbytes hdecode
    · obtain rfl : e = .unusable := by simpa using hnone
      obtain ⟨hnull, hmade⟩ := Store.writeText_unusable_iff.mp hwrite
      exact .noPath hnull hmade
  · intro h
    cases h with
    | noText hforce hbytes hdecode =>
      exact ⟨.inl ⟨hforce, .inr (.inr ⟨_, _, hbytes, hdecode, rfl⟩)⟩, .inr (.inr ⟨_, rfl⟩)⟩
    | noPath hnull hmade =>
      exact ⟨.inr ⟨none, .unusable, heldText_of_hasNull hnull force, by simp,
        Store.writeText_unusable_iff.mpr ⟨hnull, hmade⟩, rfl⟩, .inl rfl⟩

theorem emit_of_none (store : Store) (h : r.rendered = none ∨ c.output? = none) :
    emit store r c = { report := r, store } := by
  unfold emit
  split
  · rename_i rendered output hr ho
    simp [hr, ho] at h
  · rfl

/-- That an emission writes a document: the name of its file in messages, and what the write comes
to. -/
inductive Emits (store : Store) (r : Report) (c : Configuration) : String → WriteOutcome → Prop
  | intro {rendered : String} {output : Loose} : r.rendered = some rendered →
      c.output? = some output → Emits store r c (Path.ofText output.shown).text
        (writeDocument store c output rendered)

theorem writeDocument_settings (store : Store) (settings : Settings) (output rendered : String) :
    writeDocument store settings (.ofString output) rendered =
      writeIfChanged store (.ofText output) rendered.toList settings.force := by
  rw [writeDocument, settings.isEncodable_configuration, if_pos rfl, Loose.fileName_ofString]
  rfl

theorem emits_settings {rendered output : String} (hr : r.rendered = some rendered)
    (ho : settings.output? = some output) (store : Store) :
    Emits store r settings (Path.ofText output).text
      (writeIfChanged store (.ofText output) rendered.toList settings.force) := by
  have hwrite : Emits store r settings _ _ :=
    .intro hr (Settings.output?_configuration_eq_some ho)
  rwa [Loose.shown_ofString, writeDocument_settings] at hwrite

section

variable {name : String} {w : WriteOutcome} (h : Emits store r c name w)

include h

theorem emit_store : (emit store r c).store = w.store := by
  obtain ⟨hr, ho⟩ := h
  simp only [emit, hr, ho]
  split
  · rfl
  · split <;> rfl

theorem emit_of_ok {written : Bool} (hw : w.result = .ok written) :
    let e := emit store r c
    e.result = .ok written ∧ e.report.success = r.success ∧ e.report.failures = r.failures ∧
      e.report.validation = r.validation ∧ e.report.rendered = r.rendered := by
  obtain ⟨hr, ho⟩ := h
  simp only [emit, hr, ho, hw]
  exact ⟨rfl, rfl, rfl, rfl, hr.symm ▸ rfl⟩

theorem emit_flags {written : Bool} (hw : w.result = .ok written) :
    (emit store r c).report.written = written ∧
      (emit store r c).report.skipped = (!written && r.success) := by
  obtain ⟨hr, ho⟩ := h
  simp only [emit, hr, ho, hw]
  exact ⟨rfl, rfl⟩

/-- The report of a write that fails says why, and that the run failed. -/
theorem emit_of_recorded {e : Refusal} (hw : w.result = .error f) (hf : recorded? f = some e) :
    let after := emit store r c
    after.result = .ok false ∧ after.report.success = false ∧
      after.report.failures = r.failures ++ ["Cannot write " ++ name ++ ": " ++ f.message] ∧
      after.report.validation = r.validation ∧ after.report.rendered = r.rendered := by
  intro after
  have hmessage : f.message = e.message := by
    rcases f with e' | g | _
    · cases e' <;> simp_all [recorded?, Store.Fault.message]
    all_goals simp [recorded?] at hf
  obtain ⟨hr, ho⟩ := h
  simp only [after, emit, hr, ho, hw, hf, hmessage]
  exact ⟨rfl, rfl, rfl, rfl, hr.symm ▸ rfl⟩

theorem emit_of_unrecorded (hw : w.result = .error f) (hf : recorded? f = none) :
    (emit store r c).result = .error f := by
  obtain ⟨hr, ho⟩ := h
  simp only [emit, hr, ho, hw, hf]

end

/-- Exactly the failures that no report records end an emission without a report. -/
theorem emit_error_iff :
    (emit store r settings).result = .error f ↔ r.rendered.isSome = true ∧
      ∃ output, settings.output? = some output ∧
        Unrecorded store (.ofText output) settings.force f := by
  cases hr : r.rendered with
  | none => simp [emit_of_none store (.inl hr)]
  | some rendered =>
    cases ho : settings.output? with
    | none => simp [emit_of_none store (.inr (Settings.output?_configuration_eq_none ho))]
    | some output =>
      simp only [Option.isSome_some, Option.some.injEq, exists_eq_left', true_and]
      rw [← writeIfChanged_unrecorded_iff rendered.toList]
      have hemits := emits_settings hr ho store
      cases hw : (writeIfChanged store (.ofText output) rendered.toList settings.force).result with
      | ok written => simp [(emit_of_ok hemits hw).1]
      | error g =>
        cases hg : recorded? g with
        | some e =>
          rw [(emit_of_recorded hemits hw hg).1]
          refine iff_of_false (by simp) ?_
          rintro ⟨heq, hnone⟩
          obtain rfl := Except.error.inj heq
          simp [hg] at hnone
        | none =>
          rw [emit_of_unrecorded hemits hw hg]
          exact ⟨fun heq => ⟨heq, Except.error.inj heq ▸ hg⟩, fun h => h.1⟩

end EntitySchema.Compile
