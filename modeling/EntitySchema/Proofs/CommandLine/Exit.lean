import EntitySchema.Proofs.CommandLine.Run

/-! The exits of runs. Which failures of files end a run without an exit code, and without a report
that records them, is exact (`failures_recorded`); a run that only checks its input comes to the same
verdict on it as one that compiles it (`check_agrees`). -/
namespace EntitySchema.CommandLine

open Compile
open Files (Path Refusal Store)
open Text (Loose)

variable {store : Store} {c : Configuration} {settings : Settings} {a : Arguments} {input : Path}
  {console : Console}

theorem writtenExit_error_iff {result : Except Store.Fault Bool} :
    (∃ c, writtenExit result = .error c) ↔ ∃ f, result = .error f ∧ recorded? f = none := by
  rcases result with f | written
  · cases hf : recorded? f <;> simp [writtenExit, hf]
  · simp [writtenExit]

/-- Whether the document of an input is made, but can neither be written nor the failure be
recorded. -/
def LosesDocument (store : Store) (settings : Settings) (input : Path) : Prop :=
  ∃ text output f, store.readText input = .ok text ∧
    Check.passes (Jdl.parseSchema text) settings = true ∧ settings.output? = some output ∧
      Unrecorded store (.ofText output) settings.force f

theorem printedExit_settings (console : Console) (settings : Settings) :
    printedExit console settings = .ok .success := by
  simp [printedExit, Console.takesDocument]

theorem runOn_error_iff (ha : a.check = false) :
    (∃ e, (runOn store a settings input .strict).exit = .error e) ↔
      store.locate input = .error (.tooLong input) ∨ LosesDocument store settings input := by
  have hshown : settings.configuration.shown = settings := settings.shown_configuration
  unfold LosesDocument
  cases inputCase store settings input with
  | tooLong hlong => simp [runOn_of_tooLong hlong, hlong]
  | unreadable hlong hread =>
    simp [(runOn_of_unreadable a settings .strict hlong hread).2.1, hlong, hread]
  | fails text hread hp =>
    have hlong := Store.locate_ne_of_isFile (Store.isFile_of_readText hread)
    have hexit := (runOn_of_fails .strict hread (by rwa [hshown]) ha).2.1
    simp [hexit, hlong, hread, hp]
  | passes text hread hp =>
    have hlong := Store.locate_ne_of_isFile (Store.isFile_of_readText hread)
    have hpass : Check.passes (Jdl.parseSchema text) settings.configuration.shown = true := by
      rwa [hshown]
    cases ho : settings.output? with
    | none =>
      have hexit := (runOn_of_output_none .strict hread hpass ha
        (Settings.output?_configuration_eq_none ho)).2.1
      simp [hexit, printedExit_settings, hlong]
    | some output =>
      have hexit := (runOn_of_output_some .strict hread hpass ha
        (Settings.output?_configuration_eq_some ho)).2.1
      rw [hexit, writeDocument_settings, writtenExit_error_iff]
      simp [writeIfChanged_unrecorded_iff, hlong, hread, hp]

theorem runWith_error_iff (ha : a.check = false) :
    (∃ c, (runWith store a settings).exit = .error c) ↔
      ∃ file, settings.jdlFile.filter (· != "") = some file ∧
        (store.locate (.ofText file) = .error (.tooLong (.ofText file)) ∨
          LosesDocument store settings (.ofText file)) := by
  cases hf : settings.jdlFile.filter (· != "") with
  | none => simp [runWith, hf]
  | some file =>
    simp only [Option.some.injEq, exists_eq_left']
    rw [← runOn_error_iff ha]
    rcases hfile : store.isFile (.ofText file) with e | _ | _
    · obtain ⟨hlong, -⟩ := Store.isFile_error_iff.mp hfile
      simp [runWith, hf, hfile, runOn_of_tooLong hlong]
    · have hread : ∀ text, store.readText (.ofText file) ≠ .ok text := by
        intro text htext
        rw [Store.isFile_of_readText htext] at hfile
        cases hfile
      simp [runWith, hf, hfile,
        (runOn_of_unreadable a settings .strict (Store.locate_ne_of_isFile hfile) hread).2.1]
    · obtain ⟨messages, hrun⟩ := runWith_of_isFile (a := a) hf hfile
      rw [hrun, Outcome.after_exit]

/-- Failures of files are recorded in the report, all but three: the path of the input is too long,
the output file is to be compared with the document and is no text, or the output path has a null
character. Only those end a compilation, or a run of the command line that has its settings, without
a report and without an exit code. This is so for stores whose directories may all be entered and
changed, while files may be locked, and for texts without halves of surrogate pairs. -/
theorem failures_recorded (store : Store) (settings : Settings) :
    (∀ input gated, (∃ e, compileFile store input settings gated = .error e) ↔
      store.locate input = .error (.tooLong input)) ∧
    (∀ input gated r log, compileFile store input settings gated = .ok (r, log) →
      (r.failures ≠ [] ↔ ∀ text, store.readText input ≠ .ok text) ∧
      (r.failures ≠ [] → r.success = false) ∧
      (∀ f, (emit store r settings).result = .error f ↔ r.rendered.isSome = true ∧
        ∃ output, settings.output? = some output ∧
          Unrecorded store (.ofText output) settings.force f) ∧
      ∀ rendered output f, r.rendered = some rendered → settings.output? = some output →
        (writeIfChanged store (.ofText output) rendered.toList settings.force).result = .error f →
        ¬Unrecorded store (.ofText output) settings.force f →
          (emit store r settings).result = .ok false ∧
          (emit store r settings).report.success = false ∧
          (emit store r settings).report.failures =
            r.failures ++ ["Cannot write " ++ (Path.ofText output).text ++ ": " ++ f.message]) ∧
    ∀ a : Arguments, a.check = false →
      ((∃ c, (runWith store a settings).exit = .error c) ↔
        ∃ file, settings.jdlFile.filter (· != "") = some file ∧
          (store.locate (.ofText file) = .error (.tooLong (.ofText file)) ∨
            LosesDocument store settings (.ofText file))) := by
  refine ⟨fun input gated => by simp [compileFile_error_iff], ?_, fun a ha => runWith_error_iff ha⟩
  intro input gated r log hc
  refine ⟨?_, ?_, fun f => emit_error_iff, ?_⟩
  · rcases compileFile_ok hc with ⟨text, hread, hfinished⟩ | ⟨hread, hunread⟩
    · simp [hfinished.failures, hread]
    · exact iff_of_true hunread.failures hread
  · rcases compileFile_ok hc with ⟨text, hread, hfinished⟩ | ⟨hread, hunread⟩
    · exact fun h => absurd hfinished.failures h
    · exact fun _ => hunread.success
  · intro rendered output f hr ho hw hrecorded
    cases hf : recorded? f with
    | none => exact absurd ((writeIfChanged_unrecorded_iff _).mp ⟨hw, hf⟩) hrecorded
    | some e =>
      obtain ⟨hresult, hfailed, hfailures, -⟩ :=
        emit_of_recorded (emits_settings hr ho store) hw hf
      exact ⟨hresult, hfailed, hfailures⟩

def intoFile : Settings := { outputFile := some "out.json" }

theorem passes_nil : Check.passes (Jdl.parseSchema []) intoFile = true := by decide +kernel

def besideDirectory : Store := inputOnly.set ["out.json"] .directory

theorem readText_besideDirectory : besideDirectory.readText (.ofText "a.jdl") = .ok [] := by
  decide +kernel

theorem write_besideDirectory :
    (writeIfChanged besideDirectory (.ofText "out.json")
      (rendering (Jdl.parseSchema []) intoFile).toList intoFile.force).result =
        .error (.refused (.replacesDirectory (.ofText "out.json"))) := by
  decide +kernel

theorem failures_recorded_directory :
    ∃ r log, compileFile besideDirectory (.ofText "a.jdl") intoFile true = .ok (r, log) ∧
      (emit besideDirectory r intoFile).report.success = false ∧
      (emit besideDirectory r intoFile).report.failures =
        ["Cannot write out.json: [Errno 21] Is a directory: '<tmp>' -> 'out.json'"] := by
  have hmessage : "Cannot write " ++ (Path.ofText "out.json").text ++ ": " ++
      (Store.Fault.refused (.replacesDirectory (.ofText "out.json"))).message =
        "Cannot write out.json: [Errno 21] Is a directory: '<tmp>' -> 'out.json'" := by
    decide +kernel
  obtain ⟨r, log, hc, hfinished⟩ := compileFile_of_readText readText_besideDirectory intoFile true
  obtain ⟨-, hrendered⟩ := hfinished.of_passes passes_nil
  obtain ⟨-, -, -, hrecorded⟩ := (failures_recorded besideDirectory intoFile).2.1 _ _ r log hc
  obtain ⟨-, hfailed, hfailures⟩ := hrecorded _ _ _ hrendered rfl write_besideDirectory nofun
  refine ⟨r, log, hc, hfailed, ?_⟩
  rw [hfailures, hfinished.failures, hmessage, List.nil_append]

def besideBytes : Store := inputOnly.set ["out.json"] (.file [0xff])

/-- A failure that ends an emission without a report, though the input has been compiled: the old
output cannot be compared with the new one. -/
theorem failure_unrecorded :
    ∃ r log f, compileFile besideBytes (.ofText "a.jdl") intoFile true = .ok (r, log) ∧
      (emit besideBytes r intoFile).result = .error (.undecodable f) := by
  have hread : besideBytes.readText (.ofText "a.jdl") = .ok [] := by decide +kernel
  have hbytes : besideBytes.readBytes (.ofText "out.json") = .ok [0xff] := by decide +kernel
  have hdecode : Text.Utf8.decode [0xff] = .error ⟨0xff, 0, 1, .invalidStart⟩ := by decide
  obtain ⟨r, log, hc, hfinished⟩ := compileFile_of_readText hread intoFile true
  obtain ⟨-, hrendered⟩ := hfinished.of_passes passes_nil
  exact ⟨r, log, _, hc, emit_error_iff.mpr
    ⟨by simp [hrendered], "out.json", rfl, .noText rfl hbytes hdecode⟩⟩

/-- The exit code that a compilation of an input calls for: it tells first whether the input can be
read and is a text, then whether the checks find an error, and then whether the document could be
written. -/
def codeFor (store : Store) (c : Configuration) (input : Path) : Nat :=
  match store.readBytes input with
  | .error _ => 4
  | .ok bytes =>
    match Text.Utf8.decode bytes with
    | .error _ => 4
    | .ok text =>
      let s := Jdl.parseSchema (Text.unifyLineFeeds text)
      if (Check.diagnostics (Check.full s c.shown)).hasErrors then 1
      else match c.output? with
        | none => 0
        | some output =>
          match (writeDocument store c output (rendering s c)).result with
          | .error _ => 3
          | .ok _ => 0

theorem codeFor_of_unreadable (c : Configuration) (h : ∀ text, store.readText input ≠ .ok text) :
    codeFor store c input = 4 := by
  unfold codeFor
  cases hbytes : store.readBytes input with
  | error e => rfl
  | ok bytes =>
    cases hdecode : Text.Utf8.decode bytes with
    | error f => simp [hdecode]
    | ok text => exact absurd ((Store.readText_ok_iff hbytes).mpr ⟨text, hdecode, rfl⟩) (h _)

theorem codeFor_of_readText {content : List Char} (c : Configuration)
    (h : store.readText input = .ok content) : codeFor store c input =
      if Check.passes (Jdl.parseSchema content) c.shown = false then 1
      else match c.output? with
        | none => 0
        | some output =>
          match (writeDocument store c output (rendering (Jdl.parseSchema content) c)).result with
          | .error _ => 3
          | .ok _ => 0 := by
  cases hbytes : store.readBytes input with
  | error e => simp [Store.readText, hbytes, Except.mapError, bind, Except.bind] at h
  | ok bytes =>
    obtain ⟨text, hdecode, rfl⟩ := (Store.readText_ok_iff hbytes).mp h
    simp only [codeFor, hbytes, hdecode, Check.hasErrors_full]
    simp

/-- That a run that compiles an input and one that checks it end alike, but for what became of the
document. -/
structure Agree (compiled : Except Crash Exit) (checked : Exit) : Prop where
  input : (∃ exit, compiled = .ok exit ∧ exit.code = 4) ↔ checked.code = 4
  checks : (∃ exit, compiled = .ok exit ∧ exit.code = 1) ↔ checked.code = 1
  document : ∀ exit, compiled = .ok exit → exit.code = 0 ∨ exit.code = 3 → checked.code = 0

theorem agree_self {exit : Exit} (h : exit.code ≠ 0 ∧ exit.code ≠ 3) : Agree (.ok exit) exit where
  input := by simp
  checks := by simp
  document := by
    rintro _ ⟨⟩ hcode
    exact absurd hcode (not_or.mpr h)

theorem agree_of_document {compiled : Except Crash Exit}
    (h : ∀ exit, compiled = .ok exit → exit.code = 0 ∨ exit.code = 3) :
    Agree compiled .success := by
  have hother (n : Nat) (hn : n ≠ 0 ∧ n ≠ 3) : ¬∃ exit, compiled = .ok exit ∧ exit.code = n := by
    rintro ⟨exit, hexit, hcode⟩
    have := h exit hexit
    omega
  exact ⟨iff_of_false (hother 4 (by decide)) (by decide),
    iff_of_false (hother 1 (by decide)) (by decide), fun _ _ _ => rfl⟩

/-- The exit of a run that came to the document is the one that is called for. -/
theorem code_of_passes {content : List Char} (hread : store.readText input = .ok content)
    (hp : Check.passes (Jdl.parseSchema content) c.shown = true) (ha : a.check = false) {exit : Exit}
    (h : (runOn store a c input console).exit = .ok exit) :
    exit.code = codeFor store c input ∧ (exit.code = 0 ∨ exit.code = 3) := by
  rw [codeFor_of_readText c hread, if_neg (by simp [hp])]
  cases ho : c.output? with
  | none =>
    rw [(runOn_of_output_none console hread hp ha ho).2.1, printedExit] at h
    split at h
    · obtain rfl := Except.ok.inj h
      exact ⟨rfl, .inl rfl⟩
    · cases h
  | some output =>
    rw [(runOn_of_output_some console hread hp ha ho).2.1] at h
    dsimp only
    cases hw : (writeDocument store c output (rendering (Jdl.parseSchema content) c)).result with
    | ok written =>
      rw [hw, writtenExit] at h
      obtain rfl := Except.ok.inj h
      exact ⟨rfl, .inl rfl⟩
    | error f =>
      rw [hw, writtenExit] at h
      split at h
      · obtain rfl := Except.ok.inj h
        exact ⟨rfl, .inr rfl⟩
      · cases h

theorem checkedExit_unprintable_iff {passes : Bool} :
    checkedExit console c passes = .error .unprintable ↔
      ∃ word ∈ c.words, console.takes word = false := by
  have htakes : (∃ word ∈ c.words, console.takes word = false) ↔ console.takesWords c = false := by
    simp [Console.takesWords]
  rw [htakes, checkedExit]
  cases console.takesWords c <;> simp

theorem checkedExit_ok {passes : Bool} (h : checkedExit console c passes ≠ .error .unprintable) :
    checkedExit console c passes = .ok (if passes then .success else .checkError) := by
  unfold checkedExit at h ⊢
  split
  · rfl
  · rename_i htakes
    exact absurd (if_neg htakes) h

example : codeFor { nodes := [(["a.jdl"], .locked [])] } {} (.ofText "a.jdl") = 4 := by rfl

/-- Asks for a YAML file, with a word that has half of a surrogate pair in it. -/
def halfWord : Configuration where
  outputFile := some (.ofString "out.json")
  askedFormat := some .yaml
  overrides := [([.half 0], .ofString "halves")]
  distinct := by decide

theorem write_halfWord :
    (writeDocument besideDirectory halfWord (.ofString "out.json")
      (rendering (Jdl.parseSchema []) halfWord)).result =
        .error (.refused (.replacesDirectory (.ofText "out.json"))) := by
  decide +kernel

theorem exit_halfWord (console : Console) :
    (runOn besideDirectory {} halfWord (.ofText "a.jdl") console).exit = .ok .writeError := by
  have hpass : Check.passes (Jdl.parseSchema []) halfWord.shown = true := by decide +kernel
  have hexit := (runOn_of_output_some (a := {}) console readText_besideDirectory hpass rfl
    (rfl : halfWord.output? = some (.ofString "out.json"))).2.1
  rwa [write_halfWord] at hexit

end EntitySchema.CommandLine
