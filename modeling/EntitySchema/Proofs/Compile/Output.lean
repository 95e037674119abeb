import EntitySchema.Proofs.Compile.Emit
import EntitySchema.Proofs.Document.Rendered
import EntitySchema.Proofs.Files.Written

/-! The output file. It is compared with the document as a text, whose line ends have all become line
feeds, so that a file is left alone whose bytes differ from the document's in carriage returns. Other
bytes than the document's are never there after an emission (`emit_output`), and to emit the same
document again changes nothing but them (`recompile`). -/
namespace EntitySchema

namespace Files.Store

variable {s : Store} {p : Path} {content : List Char}

theorem readText_eq_ok_iff : s.readText p = .ok content ↔ ∃ text,
    s.readBytes p = .ok (Text.Utf8.encode text) ∧ Text.unifyLineFeeds text = content := by
  cases hb : s.readBytes p with
  | error f => simp [readText, hb, Except.mapError, bind, Except.bind]
  | ok bytes =>
    rw [readText_ok_iff hb]
    simp [Text.Utf8.decode_eq_ok_iff]

end Files.Store

namespace Compile

open Files (Path Refusal Store)

variable {store : Store} {target : Path} {settings : Settings} {force written : Bool}
  {content : List Char} {r : Report} {rendered output : String}

theorem heldText_eq_some_iff {text : List Char} :
    heldText store target force = .ok (some text) ↔
      force = false ∧ store.readText target = .ok text := by
  cases force with
  | true => simp [heldText, pure, Except.pure]
  | false =>
    rcases hfile : store.isFile target with e | _ | _
    · refine iff_of_false (by simp [heldText, hfile, Except.mapError, bind, Except.bind]) ?_
      rintro ⟨-, hread⟩
      simp [Store.isFile_of_readText hread] at hfile
    · refine iff_of_false (by simp [heldText, hfile, Except.mapError, bind, Except.bind, pure,
        Except.pure]) ?_
      rintro ⟨-, hread⟩
      simp [Store.isFile_of_readText hread] at hfile
    · cases hread : store.readText target <;>
        simp [heldText, hfile, hread, Except.mapError, bind, Except.bind, pure, Except.pure]

theorem writeIfChanged_of_held (h : heldText store target force = .ok (some content)) :
    (writeIfChanged store target content force).result = .ok false ∧
      (writeIfChanged store target content force).store = store := by
  simp [writeIfChanged, h]

theorem writeIfChanged_of_written {held : Option (List Char)} {size : Nat}
    (hheld : heldText store target force = .ok held) (hne : held ≠ some content)
    (hw : (store.writeText target content true).result = .ok size) :
    (writeIfChanged store target content force).result = .ok true ∧
      (writeIfChanged store target content force).store =
        (store.writeText target content true).store := by
  simp [writeIfChanged, writeLogged, hheld, hne, hw]

theorem writeIfChanged_ok (h : (writeIfChanged store target content force).result = .ok written) :
    written = false ∧ heldText store target force = .ok (some content) ∧
        (writeIfChanged store target content force).store = store ∨
      written = true ∧ (∃ size, (store.writeText target content true).result = .ok size) ∧
        (writeIfChanged store target content force).store =
          (store.writeText target content true).store := by
  cases hheld : heldText store target force with
  | error f => simp [writeIfChanged, hheld] at h
  | ok held =>
    by_cases hsame : held = some content
    · obtain ⟨hresult, hstore⟩ := writeIfChanged_of_held (hsame ▸ hheld)
      rw [hresult, Except.ok.injEq] at h
      exact .inl ⟨h.symm, by rw [hsame], hstore⟩
    · cases hw : (store.writeText target content true).result with
      | error e => simp [writeIfChanged, writeLogged, hheld, hsame, hw] at h
      | ok size =>
        obtain ⟨hresult, hstore⟩ := writeIfChanged_of_written hheld hsame hw
        rw [hresult, Except.ok.injEq] at h
        exact .inr ⟨h.symm, ⟨size, rfl⟩, hstore⟩

theorem writeText_of_writeIfChanged
    (h : (writeIfChanged store target content force).result = .ok true) :
    (∃ size, (store.writeText target content true).result = .ok size) ∧
      (writeIfChanged store target content force).store =
        (store.writeText target content true).store := by
  rcases writeIfChanged_ok h with ⟨hfalse, -⟩ | ⟨-, hwritten⟩
  · cases hfalse
  · exact hwritten

/-- What the file holds when a write has not failed: the content, or a text that is read as it. -/
theorem readBytes_writeIfChanged
    (h : (writeIfChanged store target content force).result = .ok written) : ∃ text,
      (writeIfChanged store target content force).store.readBytes target =
        .ok (Text.Utf8.encode text) ∧
      (written = true → text = content) ∧
      (written = false → Text.unifyLineFeeds text = content ∧
        (writeIfChanged store target content force).store = store) := by
  rcases writeIfChanged_ok h with ⟨rfl, hheld, hstore⟩ | ⟨rfl, ⟨size, hw⟩, hstore⟩
  · obtain ⟨-, hread⟩ := heldText_eq_some_iff.mp hheld
    obtain ⟨text, hbytes, htext⟩ := Store.readText_eq_ok_iff.mp hread
    exact ⟨text, by rw [hstore, hbytes], nofun, fun _ => ⟨htext, hstore⟩⟩
  · exact ⟨content, by rw [hstore, Store.readBytes_writeText hw], fun _ => rfl, nofun⟩

theorem cr_mem_encode_iff (s : List Char) : 0x0d ∈ Text.Utf8.encode s ↔ '\r' ∈ s :=
  Text.Utf8.mem_encode_iff (c := '\r') (by decide) s

theorem encode_injective {s t : List Char} (h : Text.Utf8.encode s = Text.Utf8.encode t) : s = t := by
  have hs := Text.Utf8.decode_eq_ok_iff.mpr (rfl : Text.Utf8.encode s = _)
  have ht := Text.Utf8.decode_eq_ok_iff.mpr h
  rwa [hs, Except.ok.injEq] at ht

/-- A text whose line ends are line feeds is told apart from another text that is read as the same
one by the carriage returns of that. -/
theorem encode_eq_iff_of_unify {text : List Char} (h : Text.unifyLineFeeds text = content) :
    Text.Utf8.encode text = Text.Utf8.encode content ↔ 0x0d ∉ Text.Utf8.encode text := by
  rw [cr_mem_encode_iff, ← Text.unifyLineFeeds_eq_self_iff, h]
  exact ⟨fun heq => (encode_injective heq).symm, fun heq => by rw [heq]⟩

section

variable (hr : r.rendered = some rendered) (ho : settings.output? = some output)

include hr ho

/-- An emission that ends without a new failure is a write that did. -/
theorem emit_ok_iff : (emit store r settings).result = .ok written ∧
      (emit store r settings).report.failures = r.failures ↔
    (writeIfChanged store (.ofText output) rendered.toList settings.force).result = .ok written := by
  cases hw : (writeIfChanged store (.ofText output) rendered.toList settings.force).result with
  | ok done =>
    obtain ⟨hresult, -, hfailures, -⟩ := emit_of_ok (emits_settings hr ho store) hw
    simp only [hresult, hfailures, and_true]
  | error f =>
    refine iff_of_false ?_ (by simp)
    rintro ⟨hresult, hfailures⟩
    cases hf : recorded? f with
    | some e => simp [(emit_of_recorded (emits_settings hr ho store) hw hf).2.2.1] at hfailures
    | none => simp [emit_of_unrecorded (emits_settings hr ho store) hw hf] at hresult

end

def rewriting (settings : Settings) : Settings := { settings with force := true }

/-- What an emission comes to that finds its document in the output file. -/
structure Skipped (store : Store) (r : Report) (e : Emission) : Prop where
  result : e.result = .ok false
  skipped : e.report.skipped = true
  written : e.report.written = false
  failures : e.report.failures = r.failures
  store : e.store = store

/-- What an emission comes to that leaves the output file with the given bytes written. -/
structure Rewritten (target : Path) (bytes : List UInt8) (r : Report) (e : Emission) : Prop where
  result : e.result = .ok true
  skipped : e.report.skipped = false
  written : e.report.written = true
  failures : e.report.failures = r.failures
  bytes : e.store.readBytes target = .ok bytes

section

variable (hr : r.rendered = some rendered) (ho : settings.output? = some output)

include hr ho

theorem skipped_emit (hsuccess : r.success = true) (hforce : settings.force = false)
    (hread : store.readText (.ofText output) = .ok rendered.toList) :
    Skipped store r (emit store r settings) := by
  obtain ⟨hresult, hstore⟩ :=
    writeIfChanged_of_held (heldText_eq_some_iff.mpr ⟨hforce, hread⟩)
  obtain ⟨hwritten, hskipped⟩ := emit_flags (emits_settings hr ho store) hresult
  obtain ⟨hemitted, -, hfailures, -⟩ := emit_of_ok (emits_settings hr ho store) hresult
  exact ⟨hemitted, by simp [hskipped, hsuccess], hwritten, hfailures,
    (emit_store (emits_settings hr ho store)).trans hstore⟩

theorem rewritten_emit (hforce : settings.force = true) {size : Nat}
    (hw : (store.writeText (.ofText output) rendered.toList true).result = .ok size) :
    Rewritten (.ofText output) (Text.Utf8.encode rendered.toList) r (emit store r settings) ∧
      (emit store r settings).store =
        (store.writeText (.ofText output) rendered.toList true).store := by
  have hheld : heldText store (.ofText output) settings.force = .ok none := by
    simp [heldText, hforce, pure, Except.pure]
  obtain ⟨hresult, hstore⟩ := writeIfChanged_of_written hheld (by simp) hw
  obtain ⟨hwritten, hskipped⟩ := emit_flags (emits_settings hr ho store) hresult
  obtain ⟨hemitted, -, hfailures, -⟩ := emit_of_ok (emits_settings hr ho store) hresult
  have hafter := (emit_store (emits_settings hr ho store)).trans hstore
  exact ⟨⟨hemitted, hskipped, hwritten, hfailures, by
    rw [hafter, Store.readBytes_writeText hw]⟩, hafter⟩

/-- What was written is written once more, which changes nothing. -/
theorem rewritten_again (hforce : settings.force = true) {size : Nat}
    (hw : (store.writeText (.ofText output) rendered.toList true).result = .ok size) :
    let after := (store.writeText (.ofText output) rendered.toList true).store
    Rewritten (.ofText output) (Text.Utf8.encode rendered.toList) r (emit after r settings) ∧
      (emit after r settings).store = after := by
  intro after
  have hagain : after.writeText (.ofText output) rendered.toList true =
      ⟨after, .ok (Text.Utf8.encode rendered.toList).length⟩ := Store.writeText_again hw
  have hwritten : (after.writeText (.ofText output) rendered.toList true).result =
      .ok (Text.Utf8.encode rendered.toList).length := by
    rw [hagain]
  obtain ⟨hrewritten, hstore⟩ := rewritten_emit hr ho hforce hwritten
  exact ⟨hrewritten, hstore.trans (by rw [hagain])⟩

/-- An emission whose report is that of a success has written its document or left it alone. -/
theorem writeIfChanged_of_success (hresult : (emit store r settings).result = .ok written)
    (hsuccess : (emit store r settings).report.success = true) :
    (writeIfChanged store (.ofText output) rendered.toList settings.force).result = .ok written ∧
      r.success = true := by
  cases hw : (writeIfChanged store (.ofText output) rendered.toList settings.force).result with
  | ok done =>
    obtain ⟨hemitted, hsame, -⟩ := emit_of_ok (emits_settings hr ho store) hw
    exact ⟨hemitted.symm.trans hresult, hsame.symm.trans hsuccess⟩
  | error f =>
    cases hf : recorded? f with
    | some e => simp [(emit_of_recorded (emits_settings hr ho store) hw hf).2.1] at hsuccess
    | none => simp [emit_of_unrecorded (emits_settings hr ho store) hw hf] at hresult

end

theorem success_of_emit (hresult : (emit store r settings).result = .ok written)
    (hsuccess : (emit store r settings).report.success = true) : r.success = true := by
  cases hr : r.rendered with
  | none => rwa [emit_of_none store (.inl hr)] at hsuccess
  | some rendered =>
    cases ho : settings.output? with
    | none => rwa [emit_of_none store (.inr (Settings.output?_configuration_eq_none ho))] at hsuccess
    | some output => exact (writeIfChanged_of_success hr ho hresult hsuccess).2

theorem Finished.rendered_of_success {s : Schema} {gated : Bool} (h : Finished s settings gated r)
    (hsuccess : r.success = true) : r.rendered = some (rendering s settings) := by
  have hmade := h.made
  split at hmade
  · simp [hmade.1] at hsuccess
  · exact hmade.2.2

/-- Only what becomes of the output file depends on whether it must be rewritten. -/
theorem Finished.forced {s : Schema} {gated : Bool} {r' : Report}
    (h : Finished s settings gated r) (h' : Finished s (rewriting settings) gated r')
    (hsuccess : r.success = true) : r'.rendered = some (rendering s settings) := by
  apply h'.rendered_of_success
  have hmade := h.made
  have hmade' := h'.made
  have hsame : Check.passes s (rewriting settings).configuration.shown =
      Check.passes s settings.configuration.shown := by
    rw [Settings.shown_configuration, Settings.shown_configuration]
    rfl
  rw [hsame] at hmade'
  split at hmade
  · simp [hmade.1] at hsuccess
  · rename_i hgate
    rw [if_neg hgate] at hmade'
    exact hmade'.1

theorem finished_compileText (text : List Char) (settings : Settings) (gated : Bool) :
    Finished (Jdl.parseSchema text) settings gated (compileText text settings gated).1 :=
  finished_run ⟨rfl, rfl, rfl, rfl⟩ text settings gated

/-- A JSON document ends in a line feed and has no carriage return, whatever texts are in its
schema. -/
theorem exists_rendering_eq (s : Schema) (settings : Settings) (h : settings.format = .json) :
    ∃ body, (rendering s settings).toList = body ++ ['\n'] ∧ '\r' ∉ body := by
  have hlaid : Json.LaidOut settings.indent.val
      (Json.write settings.indent.val 0 (.ofDictEntries (s.document settings))) :=
    (s.nested_document settings).laidOut_write
  have hwritten : (rendering s settings).toList =
      Json.write settings.indent.val 0 (.ofDictEntries (s.document settings)) ++ ['\n'] := by
    have hindent : settings.configuration.indent = settings.indent := rfl
    simp [rendering, h, Format.render, Json.text, Value.ofDictEntries, hindent,
      settings.document_configuration]
  refine ⟨_, hwritten, fun hcr => ?_⟩
  simpa using hlaid '\r' hcr

theorem cr_not_mem_rendering (s : Schema) (settings : Settings) (h : settings.format = .json) :
    '\r' ∉ (rendering s settings).toList := by
  obtain ⟨body, hbody, hcr⟩ := exists_rendering_eq s settings h
  simp [hbody, hcr]

def intoOutput : Settings := { outputFile := some "out.json" }

def compiledNil : Report := (compileText [] intoOutput true).1

theorem compiledNil_success : compiledNil.success = true ∧
    compiledNil.rendered = some (rendering (Jdl.parseSchema []) intoOutput) := by
  have hpass : Check.passes (Jdl.parseSchema []) intoOutput = true := by decide +kernel
  exact (finished_compileText [] intoOutput true).of_passes hpass

def recompiledNil : Report := (compileText [] (rewriting intoOutput) true).1

theorem recompiledNil_rendered :
    recompiledNil.rendered = some (rendering (Jdl.parseSchema []) intoOutput) :=
  (finished_compileText [] intoOutput true).forced
    (finished_compileText [] (rewriting intoOutput) true) compiledNil_success.1

theorem takes_nil (bytes : List UInt8) : ({} : Store).Takes (.ofText "out.json") bytes where
  draft := ⟨[Store.draftName "out.json" 0], by decide +kernel⟩
  located := by decide +kernel
  steps := by decide +kernel
  name := by decide +kernel
  free := by decide +kernel
  fits := by simp

theorem writeIfChanged_nil (content : List Char) :
    (writeIfChanged {} (.ofText "out.json") content intoOutput.force).result = .ok true := by
  have hheld : heldText {} (.ofText "out.json") false = .ok none := by decide +kernel
  have hdirectory : ({} : Store).isDirectory (Path.ofText "out.json").parent = .ok true := by
    decide +kernel
  exact (writeIfChanged_of_written hheld (by simp)
    (by rw [Store.writeText_of_takes hdirectory (takes_nil _)])).1

theorem emit_nil : (emit {} compiledNil intoOutput).result = .ok true ∧
    (emit {} compiledNil intoOutput).report.success = compiledNil.success ∧
    (emit {} compiledNil intoOutput).report.failures = compiledNil.failures := by
  have hw := writeIfChanged_nil (rendering (Jdl.parseSchema []) intoOutput).toList
  obtain ⟨hresult, hsuccess, hfailures, -⟩ :=
    emit_of_ok (emits_settings compiledNil_success.2 rfl {}) hw
  exact ⟨hresult, hsuccess, hfailures⟩

/-- The document of an empty text, with a carriage return before its last line feed. -/
def carriagedNil : List Char :=
  (rendering (Jdl.parseSchema []) intoOutput).toList.dropLast ++ ['\r', '\n']

def carriaged : Store :=
  ({} : Store).set ["out.json"] (.file (Text.Utf8.encode carriagedNil))

theorem readBytes_carriaged :
    carriaged.readBytes (.ofText "out.json") = .ok (Text.Utf8.encode carriagedNil) := by
  rfl

theorem readText_carriaged : carriaged.readText (.ofText "out.json") =
    .ok (rendering (Jdl.parseSchema []) intoOutput).toList := by
  obtain ⟨body, hbody, hcr⟩ := exists_rendering_eq (Jdl.parseSchema []) intoOutput rfl
  refine Store.readText_eq_ok_iff.mpr ⟨carriagedNil, readBytes_carriaged, ?_⟩
  rw [carriagedNil, hbody, List.dropLast_concat, Text.unifyLineFeeds_append_crlf hcr]
  rfl

theorem carriaged_ne :
    Text.Utf8.encode carriagedNil ≠
      Text.Utf8.encode (rendering (Jdl.parseSchema []) intoOutput).toList := by
  intro heq
  have hcr := cr_not_mem_rendering (Jdl.parseSchema []) intoOutput rfl
  rw [← encode_injective heq] at hcr
  simp [carriagedNil] at hcr

theorem skipped_carriaged : Skipped carriaged compiledNil (emit carriaged compiledNil intoOutput) :=
  skipped_emit compiledNil_success.2 rfl compiledNil_success.1 rfl readText_carriaged

theorem rewritten_carriaged {r : Report}
    (hr : r.rendered = some (rendering (Jdl.parseSchema []) intoOutput)) :
    Rewritten (.ofText "out.json")
      (Text.Utf8.encode (rendering (Jdl.parseSchema []) intoOutput).toList) r
      (emit carriaged r (rewriting intoOutput)) := by
  have hdirectory : carriaged.isDirectory (Path.ofText "out.json").parent = .ok true := by
    rfl
  have htakes := (takes_nil (Text.Utf8.encode carriagedNil)).again.any rfl
    (Text.Utf8.encode (rendering (Jdl.parseSchema []) intoOutput).toList)
  have hwrite := Store.writeText_of_takes (s := carriaged) hdirectory htakes
  exact (rewritten_emit hr rfl rfl (by rw [hwrite])).1

/-- After an emission without a new failure the output file holds the document. Its bytes are the
document's, unless it was left alone with a carriage return in it: then it was the same store and the
same file before, which reads as the document. -/
theorem emit_output (hr : r.rendered = some rendered) (ho : settings.output? = some output)
    (hresult : (emit store r settings).result = .ok written)
    (hfailures : (emit store r settings).report.failures = r.failures) :
    let after := (emit store r settings).store
    ∃ bytes, after.readBytes (.ofText output) = .ok bytes ∧
      (bytes = Text.Utf8.encode rendered.toList ↔ written = true ∨ 0x0d ∉ bytes) ∧
      (written = false → after = store ∧
        ∃ text, bytes = Text.Utf8.encode text ∧ Text.unifyLineFeeds text = rendered.toList) := by
  intro after
  have hafter : after = (writeIfChanged store (.ofText output) rendered.toList
    settings.force).store := emit_store (emits_settings hr ho store)
  obtain ⟨text, hbytes, htext, hheld⟩ :=
    readBytes_writeIfChanged ((emit_ok_iff hr ho).mp ⟨hresult, hfailures⟩)
  refine ⟨_, by rw [hafter, hbytes], ?_⟩
  cases written with
  | true =>
    obtain rfl := htext rfl
    exact ⟨iff_of_true rfl (.inl rfl), nofun⟩
  | false =>
    obtain ⟨hunified, hstore⟩ := hheld rfl
    refine ⟨?_, fun _ => ⟨hafter.trans hstore, text, rfl, hunified⟩⟩
    rw [encode_eq_iff_of_unify hunified]
    simp

/-- An emission where no file was before. -/
theorem emit_output_nil :
    let document := (rendering (Jdl.parseSchema []) intoOutput).toList
    (emit {} compiledNil intoOutput).store.readBytes (.ofText "out.json") =
      .ok (Text.Utf8.encode document) := by
  intro document
  obtain ⟨hresult, -, hfailures⟩ := emit_nil
  obtain ⟨bytes, hbytes, hsame, -⟩ := emit_output compiledNil_success.2 rfl hresult hfailures
  rw [hbytes, hsame.mpr (.inl rfl)]

/-- An emission without any failure after which the file has other bytes than the document. -/
theorem emit_keeps_carriage :
    let document := (rendering (Jdl.parseSchema []) intoOutput).toList
    let e := emit carriaged compiledNil intoOutput
    compiledNil.success = true ∧ compiledNil.rendered.map String.toList = some document ∧
      e.result = .ok false ∧ e.report.failures = compiledNil.failures ∧
      e.store.readBytes (.ofText "out.json") ≠ .ok (Text.Utf8.encode document) := by
  intro document e
  have he : Skipped carriaged compiledNil e := skipped_carriaged
  refine ⟨compiledNil_success.1, by rw [compiledNil_success.2]; rfl, he.result, he.failures, ?_⟩
  rw [he.store, readBytes_carriaged]
  exact fun heq => carriaged_ne (Except.ok.inj heq)

/-- Compiling the same text once more. The output file holds the bytes that the first emission left,
and as long as it does, an emission of the same document leaves it alone. One that must rewrite it
can do so when the first wrote it, and changes nothing then; wherever it can, the file holds the
document's own bytes afterwards. These are the ones that were there, unless the first emission left
the file alone with a carriage return in it. -/
theorem recompile {text : List Char} {gated : Bool} (hformat : settings.format = .json)
    (hforce : settings.force = false) (ho : settings.output? = some output)
    (hresult : (emit store (compileText text settings gated).1 settings).result = .ok written)
    (hsuccess : (emit store (compileText text settings gated).1 settings).report.success = true) :
    let compiled := (compileText text settings gated).1
    let after := (emit store compiled settings).store
    let forced := rewriting settings
    let recompiled := (compileText text forced gated).1
    let document := (rendering (Jdl.parseSchema text) settings).toList
    ∃ bytes, after.readBytes (.ofText output) = .ok bytes ∧
      (∀ later : Store, later.readBytes (.ofText output) = .ok bytes →
        Skipped later compiled (emit later compiled settings)) ∧
      (written = true → Rewritten (.ofText output) bytes recompiled (emit after recompiled forced) ∧
        (emit after recompiled forced).store = after) ∧
      (∀ (later : Store) (size : Nat),
        (later.writeText (.ofText output) document true).result = .ok size →
          Rewritten (.ofText output) (Text.Utf8.encode document) recompiled
            (emit later recompiled forced)) ∧
      (bytes = Text.Utf8.encode document ↔ 0x0d ∉ bytes) ∧
      (written = true → bytes = Text.Utf8.encode document) := by
  intro compiled after forced recompiled document
  have hfinished := finished_compileText text settings gated
  have ho' : forced.output? = some output := ho
  have hcompiled : compiled.success = true := success_of_emit hresult hsuccess
  have hr := hfinished.rendered_of_success hcompiled
  have hr' : recompiled.rendered = some (rendering (Jdl.parseSchema text) settings) :=
    hfinished.forced (finished_compileText text forced gated) hcompiled
  have hdocument : Text.unifyLineFeeds document = document :=
    Text.unifyLineFeeds_eq_self_iff.mpr (cr_not_mem_rendering _ _ hformat)
  have hw := (writeIfChanged_of_success hr ho hresult hsuccess).1
  have hafter : after = _ := emit_store (emits_settings hr ho store)
  obtain ⟨content, hbytes, hcontent, hheld⟩ := readBytes_writeIfChanged hw
  -- Written or left alone, the file is read as the document.
  have hunified : Text.unifyLineFeeds content = document := by
    cases written with
    | true => rw [hcontent rfl, hdocument]
    | false => exact (hheld rfl).1
  refine ⟨_, by rw [hafter, hbytes], fun later hlater => skipped_emit hr ho hcompiled hforce
    (Store.readText_eq_ok_iff.mpr ⟨content, hlater, hunified⟩), ?_, fun later size hlater =>
    (rewritten_emit hr' ho' rfl hlater).1, encode_eq_iff_of_unify hunified,
    fun hwritten => by rw [hcontent hwritten]⟩
  intro hwritten
  subst hwritten
  obtain ⟨⟨size, hwrite⟩, hstore⟩ := writeText_of_writeIfChanged hw
  have hstored : after = (store.writeText (.ofText output) document true).store :=
    hafter.trans hstore
  rw [hcontent rfl, hstored]
  exact rewritten_again hr' ho' rfl hwrite

/-- A second compilation after one into a store without files. -/
theorem recompile_nil :
    (emit {} compiledNil intoOutput).result = .ok true ∧
      Skipped (emit {} compiledNil intoOutput).store compiledNil
        (emit (emit {} compiledNil intoOutput).store compiledNil intoOutput) ∧
      (emit (emit {} compiledNil intoOutput).store recompiledNil
        (rewriting intoOutput)).store = (emit {} compiledNil intoOutput).store := by
  obtain ⟨hresult, hsame, -⟩ := emit_nil
  obtain ⟨bytes, hbytes, hskipped, hrewritten, -⟩ :=
    recompile rfl rfl rfl hresult (hsame.trans compiledNil_success.1)
  exact ⟨hresult, hskipped _ hbytes, (hrewritten rfl).2⟩

/-- A second emission of the same document that changes the file which the first left alone. -/
theorem recompile_drops_carriage :
    (emit carriaged compiledNil intoOutput).result = .ok false ∧
      (emit carriaged compiledNil intoOutput).report.success = true ∧
      (emit (emit carriaged compiledNil intoOutput).store recompiledNil
        (rewriting intoOutput)).result = .ok true ∧
      (emit (emit carriaged compiledNil intoOutput).store recompiledNil
        (rewriting intoOutput)).store.readBytes (.ofText "out.json") ≠
          (emit carriaged compiledNil intoOutput).store.readBytes (.ofText "out.json") := by
  have hagain := rewritten_carriaged recompiledNil_rendered
  rw [skipped_carriaged.store]
  refine ⟨skipped_carriaged.result, ?_, hagain.result, ?_⟩
  · obtain ⟨hw, -⟩ := writeIfChanged_of_held (heldText_eq_some_iff.mpr ⟨rfl, readText_carriaged⟩)
    exact (emit_of_ok (emits_settings compiledNil_success.2 rfl carriaged) hw).2.1.trans
      compiledNil_success.1
  · rw [hagain.bytes, readBytes_carriaged]
    exact fun heq => carriaged_ne (Except.ok.inj heq).symm

end Compile

end EntitySchema
