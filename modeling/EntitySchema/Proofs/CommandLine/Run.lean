import EntitySchema.CommandLine.Run
import EntitySchema.Proofs.Compile.Emit

/-! What runs of the command line come to, by what their input holds, and what they leave behind: a
run that fails leaves nothing but directories on the way to its output file (`run_failed`). -/
namespace EntitySchema.CommandLine

open Compile
open Files (Path Refusal Store)
open Text (Loose)

variable {store : Store} {c : Configuration} {settings : Settings} {a : Arguments} {input : Path}
  {text : List Char} {s : Schema} {r : Report} {output : Loose} {console : Console}

@[simp] theorem Outcome.after_store (o : Outcome) (messages : List Message) :
    (o.after messages).store = o.store := rfl

@[simp] theorem Outcome.after_exit (o : Outcome) (messages : List Message) :
    (o.after messages).exit = o.exit := rfl

@[simp] theorem Outcome.after_output (o : Outcome) (messages : List Message) :
    (o.after messages).output = o.output := rfl

def writtenExit : Except Store.Fault Bool → Except Crash Exit
  | .ok _ => .ok .success
  | .error f => if (recorded? f).isSome then .ok .writeError else .error (.store f)

theorem exitOf_of_unread (h : Unread r) : exitOf r = .inputError := by
  simp [exitOf, h.success, h.failures, h.rendered, Report.validationErrors, h.validation]

theorem exitOf_of_fails (h : Finished s c true r) (hp : Check.passes s c.shown = false) :
    exitOf r = .checkError := by
  have herrors : r.validationErrors ≠ [] := by simp [h.validationErrors_eq_nil_iff, hp]
  simp [exitOf, (h.of_fails hp).1, herrors]

theorem runCompile_of_failure (store : Store) (c : Configuration) (h : r.success = false)
    (showReport : Bool) (console : Console) :
    let o := runCompile store r c showReport console
    o.store = store ∧ o.exit = .ok (exitOf r) ∧ o.output = "" := by
  simp [runCompile, h]

def printedExit (console : Console) (c : Configuration) : Except Crash Exit :=
  if console.takesDocument c then .ok .success else .error .unprintable

theorem runCompile_of_output_none (store : Store) (h : Finished s c true r)
    (hp : Check.passes s c.shown = true) (ho : c.output? = none) (showReport : Bool)
    (console : Console) :
    let o := runCompile store r c showReport console
    o.store = store ∧ o.exit = printedExit console c ∧
      o.output = if console.takesDocument c then rendering s c else "" := by
  obtain ⟨hsuccess, hrendered⟩ := h.of_passes hp
  cases htakes : console.takesDocument c <;>
    simp [runCompile, hsuccess, ho, hrendered, exitOf, printedExit, htakes]

theorem runCompile_of_output_some (store : Store) (h : Finished s c true r)
    (hp : Check.passes s c.shown = true) (ho : c.output? = some output) (showReport : Bool)
    (console : Console) :
    let o := runCompile store r c showReport console
    let w := writeDocument store c output (rendering s c)
    o.store = w.store ∧ o.exit = writtenExit w.result ∧ o.output = "" := by
  obtain ⟨hsuccess, hrendered⟩ := h.of_passes hp
  have herrors := h.validationErrors_eq_nil_iff.mpr hp
  intro o w
  have hemits : Emits store r c _ w := .intro hrendered ho
  have hstore := emit_store hemits
  have ho' : o.output = "" := by
    simp only [o, runCompile, hsuccess, ho]
    split
    · rfl
    · split <;> rfl
  cases hw : w.result with
  | ok written =>
    obtain ⟨hresult, hkept, -⟩ := emit_of_ok hemits hw
    simp [o, runCompile, hsuccess, ho, hresult, hkept, hstore, exitOf, writtenExit, w]
  | error f =>
    cases hf : recorded? f with
    | some e =>
      obtain ⟨hresult, hfailed, hfailures, hvalidation, hkept⟩ := emit_of_recorded hemits hw hf
      have herrors' : (emit store r c).report.validationErrors = [] := by
        rwa [Report.validationErrors, hvalidation]
      simp [o, runCompile, hsuccess, ho, hresult, hfailed, hfailures, hkept, herrors', hrendered,
        hstore, exitOf, writtenExit, hf, w]
    | none =>
      have hresult := emit_of_unrecorded hemits hw hf
      simp [o, runCompile, hsuccess, ho, hresult, hstore, writtenExit, hf, w]

theorem runCheck_of_unread (store : Store) (h : Unread r) (c : Configuration) (showInfo : Bool)
    (console : Console) :
    let o := runCheck store r c showInfo console
    o.store = store ∧ o.exit = .ok .inputError ∧ o.output = "" := by
  simp [runCheck, h.failures]

def checkedExit (console : Console) (c : Configuration) (passes : Bool) : Except Crash Exit :=
  if console.takesWords c then .ok (if passes then .success else .checkError)
  else .error .unprintable

theorem runCheck_of_finished (store : Store) {gated : Bool} (h : Finished s c gated r)
    (showInfo : Bool) (console : Console) :
    let o := runCheck store r c showInfo console
    o.store = store ∧ o.exit = checkedExit console c (Check.passes s c.shown) := by
  cases htakes : console.takesWords c <;>
    simp [runCheck, h.failures, h.validationErrors_eq_nil_iff, checkedExit, htakes]

/-- What an input can hold, for a run: a path that is too long, no text, or a text whose schema fails
or passes the checks. -/
inductive InputCase (store : Store) (settings : Settings) (input : Path) : Prop
  | tooLong (hlong : store.locate input = .error (.tooLong input))
  | unreadable (hlong : store.locate input ≠ .error (.tooLong input))
      (hread : ∀ text, store.readText input ≠ .ok text)
  | fails (text : List Char) (hread : store.readText input = .ok text)
      (hp : Check.passes (Jdl.parseSchema text) settings = false)
  | passes (text : List Char) (hread : store.readText input = .ok text)
      (hp : Check.passes (Jdl.parseSchema text) settings = true)

theorem inputCase (store : Store) (settings : Settings) (input : Path) :
    InputCase store settings input := by
  cases hread : store.readText input with
  | error f =>
    by_cases hlong : store.locate input = .error (.tooLong input)
    · exact .tooLong hlong
    · exact .unreadable hlong (by simp [hread])
  | ok text =>
    cases hp : Check.passes (Jdl.parseSchema text) settings with
    | false => exact .fails text hread hp
    | true => exact .passes text hread hp

theorem runOn_of_compileFile (a : Arguments) (console : Console) {log : Log}
    (h : compileFile store input c true = .ok (r, log)) :
    ∃ messages, runOn store a c input console =
      (if a.check then runCheck store r c a.showsInfo console
        else runCompile store r c a.report console).after messages := by
  rw [runOn, h]
  exact ⟨_, rfl⟩

theorem runOn_of_tooLong (h : store.locate input = .error (.tooLong input)) :
    runOn store a c input console =
      { store, exit := .error (.store (.refused (.tooLong input))) } := by
  have hc : compileFile store input c true = .error (.tooLong input) :=
    compileFile_error_iff.mpr ⟨h, rfl⟩
  rw [runOn, hc]

theorem runOn_of_unreadable (a : Arguments) (c : Configuration) (console : Console)
    (hlong : store.locate input ≠ .error (.tooLong input))
    (hread : ∀ text, store.readText input ≠ .ok text) :
    let o := runOn store a c input console
    o.store = store ∧ o.exit = .ok .inputError ∧ o.output = "" := by
  obtain ⟨r, log, hc, hunread⟩ := compileFile_of_unreadable hlong hread c true
  obtain ⟨messages, ho⟩ := runOn_of_compileFile a console hc
  rw [ho]
  cases a.check with
  | true => exact runCheck_of_unread store hunread c a.showsInfo console
  | false =>
    rw [← exitOf_of_unread hunread]
    exact runCompile_of_failure store c hunread.success a.report console

theorem runOn_check (hread : store.readText input = .ok text) (c : Configuration)
    (console : Console) (ha : a.check = true) :
    let o := runOn store a c input console
    o.store = store ∧
      o.exit = checkedExit console c (Check.passes (Jdl.parseSchema text) c.shown) := by
  obtain ⟨r, log, hc, hfinished⟩ := compileFile_of_readText hread c true
  obtain ⟨messages, ho⟩ := runOn_of_compileFile a console hc
  rw [ho, ha]
  exact runCheck_of_finished store hfinished a.showsInfo console

theorem runOn_of_fails (console : Console) (hread : store.readText input = .ok text)
    (hp : Check.passes (Jdl.parseSchema text) c.shown = false) (ha : a.check = false) :
    let o := runOn store a c input console
    o.store = store ∧ o.exit = .ok .checkError ∧ o.output = "" := by
  obtain ⟨r, log, hc, hfinished⟩ := compileFile_of_readText hread c true
  obtain ⟨messages, ho⟩ := runOn_of_compileFile a console hc
  rw [ho, ha, ← exitOf_of_fails hfinished hp]
  exact runCompile_of_failure store c (hfinished.of_fails hp).1 a.report console

theorem runOn_of_output_none (console : Console) (hread : store.readText input = .ok text)
    (hp : Check.passes (Jdl.parseSchema text) c.shown = true) (ha : a.check = false)
    (ho : c.output? = none) :
    let o := runOn store a c input console
    o.store = store ∧ o.exit = printedExit console c ∧
      o.output = if console.takesDocument c then rendering (Jdl.parseSchema text) c else "" := by
  obtain ⟨r, log, hc, hfinished⟩ := compileFile_of_readText hread c true
  obtain ⟨messages, hrun⟩ := runOn_of_compileFile a console hc
  rw [hrun, ha]
  exact runCompile_of_output_none store hfinished hp ho a.report console

theorem runOn_of_output_some (console : Console) (hread : store.readText input = .ok text)
    (hp : Check.passes (Jdl.parseSchema text) c.shown = true) (ha : a.check = false)
    (ho : c.output? = some output) :
    let o := runOn store a c input console
    let w := writeDocument store c output (rendering (Jdl.parseSchema text) c)
    o.store = w.store ∧ o.exit = writtenExit w.result ∧ o.output = "" := by
  obtain ⟨r, log, hc, hfinished⟩ := compileFile_of_readText hread c true
  obtain ⟨messages, hrun⟩ := runOn_of_compileFile a console hc
  rw [hrun, ha]
  exact runCompile_of_output_some store hfinished hp ho a.report console

theorem runWith_of_isFile {file : String} (hf : settings.jdlFile.filter (· != "") = some file)
    (h : store.isFile (.ofText file) = .ok true) :
    ∃ messages, runWith store a settings =
      (runOn store a settings (.ofText file) .strict).after messages := by
  rw [runWith, hf]
  dsimp only
  rw [h]
  exact ⟨_, rfl⟩

/-- Whether the settings of a run, if they can be had, name an output file with this path. -/
def IsOutput (store : Store) (working : Path) (words : List String) (p : Path) : Prop :=
  ∃ a settings output, Arguments.read words = .ok a ∧
    (loadSettings store working a).1 = .ok settings ∧ settings.output? = some output ∧
      p = .ofText output

/-- The outcome of a run that wrote no document: nothing is on its output, and its store has at most
more directories than before, on the way to an output file. -/
def LeavesNothing (isOutput : Path → Prop) (store : Store) (o : Outcome) : Prop :=
  o.output = "" ∧ Store.Grows (fun q => ∃ p, isOutput p ∧ q.IsAbove p) store o.store

theorem leavesNothing_of_store {o : Outcome} (isOutput : Path → Prop) (houtput : o.output = "")
    (hstore : o.store = store) : LeavesNothing isOutput store o := by
  refine ⟨houtput, ?_⟩
  rw [hstore]
  exact .refl _ store

theorem runOn_failed (ha : a.check = false) (c : Configuration) (input : Path) (console : Console)
    (h : (runOn store a c input console).exit ≠ .ok .success) :
    LeavesNothing (fun p => ∃ output, c.output? = some output ∧ p = .ofText output.fileName) store
      (runOn store a c input console) := by
  cases inputCase store c.shown input with
  | tooLong hlong =>
    rw [runOn_of_tooLong hlong]
    exact leavesNothing_of_store _ rfl rfl
  | unreadable hlong hread =>
    obtain ⟨hstore, -, houtput⟩ := runOn_of_unreadable a c console hlong hread
    exact leavesNothing_of_store _ houtput hstore
  | fails text hread hp =>
    obtain ⟨hstore, -, houtput⟩ := runOn_of_fails console hread hp ha
    exact leavesNothing_of_store _ houtput hstore
  | passes text hread hp =>
    cases ho : c.output? with
    | none =>
      obtain ⟨hstore, hexit, houtput⟩ := runOn_of_output_none console hread hp ha ho
      have htakes : console.takesDocument c = false := by
        by_contra htakes
        rw [Bool.not_eq_false] at htakes
        simp [hexit, printedExit, htakes] at h
      exact leavesNothing_of_store _ (by simp [houtput, htakes]) hstore
    | some output =>
      obtain ⟨hstore, hexit, houtput⟩ := runOn_of_output_some console hread hp ha ho
      refine ⟨houtput, ?_⟩
      cases hw : (writeDocument store c output (rendering (Jdl.parseSchema text) c)).result with
      | ok written => simp [hexit, hw, writtenExit] at h
      | error f =>
        rw [hstore]
        exact (writeDocument_failed hw).mono fun q hq => ⟨_, ⟨output, rfl, rfl⟩, hq⟩

theorem runWith_failed (ha : a.check = false) (h : (runWith store a settings).exit ≠ .ok .success) :
    LeavesNothing (fun p => ∃ output, settings.output? = some output ∧ p = .ofText output) store
      (runWith store a settings) := by
  cases hf : settings.jdlFile.filter (· != "") with
  | none =>
    exact leavesNothing_of_store _ (by simp [runWith, hf]) (by simp [runWith, hf])
  | some file =>
    rcases hfile : store.isFile (.ofText file) with e | _ | _
    case ok.true =>
      obtain ⟨messages, hrun⟩ := runWith_of_isFile (a := a) hf hfile
      rw [hrun] at h ⊢
      obtain ⟨houtput, hgrows⟩ := runOn_failed ha settings _ .strict h
      refine ⟨houtput, hgrows.mono ?_⟩
      rintro q ⟨p, ⟨output, ho, hp⟩, hq⟩
      rw [settings.output?_configuration, Option.map_eq_some_iff] at ho
      obtain ⟨output', ho', rfl⟩ := ho
      exact ⟨p, ⟨output', ho', by rw [hp, Loose.fileName_ofString]⟩, hq⟩
    all_goals
      exact leavesNothing_of_store _ (by simp [runWith, hf, hfile]) (by simp [runWith, hf, hfile])

/-- A run that does not end in success, be it by an exit code or without one, leaves no trace: it
writes nothing to its output, every file, locked or not, has the bytes it had, there is no new file,
and all that is new are directories on the way to the output file. -/
theorem run_failed (store : Store) (working : Path) (words : List String)
    (hcheck : ∀ a, Arguments.read words = .ok a → a.check = false)
    (h : (run store working words).exit ≠ .ok .success) :
    let o := run store working words
    o.output = "" ∧
      (∀ key node, node ≠ .directory →
        (o.store.node? key = some node ↔ store.node? key = some node)) ∧
      ∀ key, o.store.node? key ≠ store.node? key →
        store.node? key = none ∧ o.store.node? key = some .directory ∧
          ∃ p q : Path, IsOutput store working words p ∧ q.IsAbove p ∧ key = q.key := by
  intro o
  have hleaves : LeavesNothing (IsOutput store working words) store o := by
    unfold o
    unfold run at h ⊢
    -- Help and version end in success. Nothing is written for a misuse, nor without settings.
    cases hread : Arguments.read words with
    | error stop =>
      rcases stop with _ | _ | m
      · simp [hread] at h
      · simp [hread] at h
      · exact leavesNothing_of_store _ rfl rfl
    | ok a =>
      have ha := hcheck a hread
      simp only [hread] at h ⊢
      rcases hload : (loadSettings store working a).1 with (message | c) | settings
      · simp only [hload] at h ⊢
        exact leavesNothing_of_store _ rfl rfl
      · simp only [hload] at h ⊢
        exact leavesNothing_of_store _ rfl rfl
      · simp only [hload] at h ⊢
        obtain ⟨houtput, hgrows⟩ := runWith_failed ha h
        refine ⟨houtput, hgrows.mono ?_⟩
        rintro q ⟨p, ⟨output, ho, hp⟩, hq⟩
        exact ⟨p, ⟨a, settings, output, hread, hload, ho, hp⟩, hq⟩
  refine ⟨hleaves.1, fun key _ hnode => hleaves.2.file_iff key hnode, fun key hkey => ?_⟩
  obtain ⟨hnone, hnew, q, ⟨p, hp, hq⟩, hk⟩ := (hleaves.2 key).resolve_left hkey
  exact ⟨hnone, hnew, p, q, hp, hq, hk⟩

def inputOnly : Store := { nodes := [(["a.jdl"], .file [])] }

/-- Asks for an output file where the working directory is. -/
def ontoDirectory : List String := ["a.jdl", "-o", "new/.."]

theorem run_failed_ontoDirectory :
    let o := run inputOnly ⟨.named "/work", []⟩ ontoDirectory
    o.exit.toOption = some .writeError ∧ o.output = "" ∧
      o.store.node? ["a.jdl"] = some (.file []) ∧ o.store.node? ["new"] = some .directory := by
  intro o
  have hend : o.exit.toOption = some .writeError ∧ o.store.node? ["new"] = some .directory := by
    decide +kernel
  have hcheck : (Arguments.read ontoDirectory).toOption.map (·.check) = some false := by
    decide +kernel
  obtain ⟨houtput, hfiles, -⟩ := run_failed inputOnly ⟨.named "/work", []⟩ ontoDirectory
    (fun a ha => by simpa [ha, Except.toOption] using hcheck)
    (fun hsuccess => by simp [o, hsuccess, Except.toOption] at hend)
  exact ⟨hend.1, houtput, (hfiles _ (.file []) nofun).mpr (by decide +kernel), hend.2⟩

end EntitySchema.CommandLine
