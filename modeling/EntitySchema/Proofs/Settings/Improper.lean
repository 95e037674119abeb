import EntitySchema.CommandLine.Run
import EntitySchema.Proofs.Settings.Merge

/-! Plural overrides of a file that are no mapping. Alone they are refused. With others set on top of
them they are taken for the mapping that they can be made into, or for none (`build_improper`). -/
namespace EntitySchema.Settings

open Decode (Problem)

/-- Whether a value may stand for plural overrides: null, or a mapping. -/
def isProper (v : Value) : Bool :=
  match v.untied with
  | .null | .mapping _ => true
  | _ => false

def improperOverrides : Problem := ⟨[.key Setting.pluralOverrides.name], .mappingExpected⟩

/-- The mapping that plural overrides are taken for when others are set on top of them. -/
def takenFor (v : Value) : Except Value.EntriesFault (List (Value × Value)) :=
  if v.truthy then Value.entries? v else .ok []

variable {v : Value} {d data extra : Dict Value} {m given raw overrides : List (Value × Value)}

theorem readOverrides_of_improper (h : isProper v = false) :
    Setting.readOverrides v = .error [⟨[], .mappingExpected⟩] := by
  rw [isProper] at h
  rw [Setting.readOverrides]
  generalize v.untied = w at h
  cases w with
  | null => cases h
  | mapping m => cases h
  | _ => rfl

theorem mem_assignAll {setting : Setting} {l : List Setting} {p : Problem} (hmem : setting ∈ l)
    (h : ∀ s, p ∈ (assignOne m setting s).2) (s : Settings) : p ∈ (assignAll m l s).2 := by
  induction l generalizing s with
  | nil => cases hmem
  | cons other r ih =>
    rw [assignAll_cons, List.mem_append]
    rcases List.mem_cons.mp hmem with rfl | hmem
    · exact .inl (h s)
    · exact .inr (ih hmem _)

theorem ofEntries_of_improper (hnamed : Named d)
    (hheld : d.get? Setting.pluralOverrides.name = some v) (himproper : isProper v = false) :
    ∃ ps, ofEntries (d.entries.map fun e => (.text e.1, e.2)) = .error ps ∧
      improperOverrides ∈ ps := by
  have hfind := find?_of_named hnamed .pluralOverrides
  rw [hheld] at hfind
  have hone (s : Settings) : improperOverrides ∈
      (assignOne (d.entries.map fun e => (.text e.1, e.2)) .pluralOverrides s).2 := by
    rw [assignOne, hfind]
    dsimp only [Option.map_some, Setting.assign]
    rw [readOverrides_of_improper himproper]
    exact List.mem_singleton_self _
  have hmem := mem_assignAll (l := Setting.all) (by decide) hone {}
  rw [ofEntries, extras_of_named hnamed]
  dsimp only
  rw [List.append_nil]
  split
  · rename_i hnil
    rw [hnil] at hmem
    cases hmem
  · exact ⟨_, rfl, hmem⟩

theorem takenFor_mapping (h : takenFor v = .ok m) : takenFor (.mapping m) = .ok m := by
  have hdistinct : Value.IsDistinct m := by
    rw [takenFor] at h
    split at h
    · exact Value.isDistinct_of_entries? h
    · cases h
      exact List.Pairwise.nil
  rw [takenFor]
  split
  · exact congrArg Except.ok (Value.ofEntries_of_isDistinct hdistinct)
  · rename_i hempty
    have hnil : m = [] := by simpa [Value.truthy] using hempty
    rw [hnil]

theorem mergePlurals_mapping (data : Dict Value) (given : List (Value × Value)) :
    mergePlurals data (.mapping given) =
      match takenFor ((data.get? Setting.pluralOverrides.name).getD .null) with
      | .error f => .error (.noEntries f)
      | .ok m => .ok (data.insert Setting.pluralOverrides.name
          (.mapping (given.foldl (fun m e => Value.put e.1 e.2 m) m))) := by
  rw [mergePlurals, takenFor]
  dsimp only
  split
  · cases Value.entries? ((data.get? Setting.pluralOverrides.name).getD .null) <;> rfl
  · rfl

/-- What stands for the overrides of the first side does not matter to its other settings. -/
theorem withOthers_insert (hheld : data.get? Setting.pluralOverrides.name = some v) (w : Value) :
    withOthers (data.insert Setting.pluralOverrides.name w) extra =
      (withOthers data extra).insert Setting.pluralOverrides.name w := by
  have hnone : Setting.pluralOverrides.name ∉ (otherEntries extra).map Prod.fst := by
    intro hmem
    obtain ⟨e, he, hname⟩ := List.mem_map.mp hmem
    simpa [hname] using (List.mem_filter.mp he).2
  have hsame := Dict.foldl_insert_insert hnone data v w
  rwa [Dict.insert_of_get? hheld] at hsame

theorem merge_of_improper (hheld : data.get? Setting.pluralOverrides.name = some v)
    (hextra : extra.get? Setting.pluralOverrides.name = some (.mapping given))
    (hgiven : given ≠ []) :
    merge data extra = match takenFor v with
      | .error f => .error (.noEntries f)
      | .ok m => merge (data.insert Setting.pluralOverrides.name (.mapping m)) extra := by
  have htruthy : (Value.mapping given).truthy = true := by simpa [Value.truthy] using hgiven
  have hmerged (data : Dict Value) :
      merged data extra = mergePlurals (withOthers data extra) (.mapping given) := by
    rw [merged, hextra]
    exact if_pos htruthy
  rw [merge_eq, hmerged, mergePlurals_mapping, get?_withOthers, hheld, Option.getD_some]
  cases htaken : takenFor v with
  | error f => rfl
  | ok m =>
    dsimp only
    rw [merge_eq, hmerged, mergePlurals_mapping, get?_withOthers, Dict.get?_insert, if_pos rfl,
      Option.getD_some, takenFor_mapping htaken, withOthers_insert hheld]
    dsimp only
    rw [Dict.insert_insert]

theorem merge_refused (hdata : Named data) (hextra : Named extra)
    (hheld : data.get? Setting.pluralOverrides.name = some v) (himproper : isProper v = false)
    (hnone : (extra.get? Setting.pluralOverrides.name).getD (.mapping []) = .mapping []) :
    ∃ ps, merge data extra = .error (.invalid ps) ∧ improperOverrides ∈ ps := by
  have hmerged : merged data extra = .ok (withOthers data extra) := by
    rw [merged]
    split
    · rename_i w hw
      rw [hw, Option.getD_some] at hnone
      rw [hnone]
      rfl
    · rfl
  obtain ⟨ps, hps, hmem⟩ := ofEntries_of_improper (hdata.withOthers hextra)
    ((get?_withOthers data extra).trans hheld) himproper
  refine ⟨ps, ?_, hmem⟩
  rw [merge_eq, hmerged]
  simp only [Except.bind, hps, Except.mapError]

/-- Improper overrides of a file are refused when no others are given. With others on top of them the
settings are those of a file that has the mapping instead which they are taken for, and a value that
cannot be taken for one is a fault of another kind. -/
theorem build_improper
    (hheld : (normalize raw).1.get? Setting.pluralOverrides.name = some v)
    (himproper : isProper v = false)
    (hgiven : ((normalize (counted overrides)).1.get? Setting.pluralOverrides.name).getD
      (.mapping []) = .mapping given) :
    (given = [] → ∃ ps, (build (.mapping raw) (.mapping overrides)).1 = .error (.invalid ps) ∧
      improperOverrides ∈ ps) ∧
    (given ≠ [] → (build (.mapping raw) (.mapping overrides)).1 = match takenFor v with
      | .error f => .error (.noEntries f)
      | .ok m => (build (.mapping (raw ++ [(.text Setting.pluralOverrides.name, .mapping m)]))
          (.mapping overrides)).1) := by
  simp only [build_mapping, normalize_concat]
  constructor
  · rintro rfl
    exact merge_refused (named_normalize _) (named_normalize _) hheld himproper hgiven
  · intro hne
    cases hextra : (normalize (counted overrides)).1.get? Setting.pluralOverrides.name with
    | none =>
      rw [hextra] at hgiven
      cases hgiven
      exact absurd rfl hne
    | some w =>
      rw [hextra, Option.getD_some] at hgiven
      exact merge_of_improper hheld (hextra.trans (congrArg some hgiven)) hne

/-- A number with overrides on top of it is a fault that the command line does not report. -/
theorem build_improper_number :
    let raw : List (Value × Value) := [(.text "plural_overrides", .int 5)]
    let given : List (Value × Value) := [(.text "a", .text "b")]
    let overrides : List (Value × Value) := [(.text "plural_overrides", .mapping given)]
    (normalize raw).1.get? Setting.pluralOverrides.name = some (.int 5) ∧
      isProper (.int 5) = false ∧
      ((normalize (counted overrides)).1.get? Setting.pluralOverrides.name).getD (.mapping []) =
        .mapping given ∧
      (build (.mapping raw) (.mapping overrides)).1 = .error (.noEntries (.noIterable "int")) ∧
      CommandLine.isReported (.unusable (.noEntries (.noIterable "int"))) = false := by
  intro raw given overrides
  have hheld : (normalize raw).1.get? Setting.pluralOverrides.name = some (.int 5) := rfl
  have hgiven : ((normalize (counted overrides)).1.get? Setting.pluralOverrides.name).getD
    (.mapping []) = .mapping given := rfl
  exact ⟨hheld, rfl, hgiven, (build_improper hheld rfl hgiven).2 (by simp [given]), rfl⟩

/-- An empty list with overrides on top of it is no fault at all. -/
theorem build_emptyList :
    (build (.mapping [(.text "plural_overrides", .list [])])
      (.mapping [(.text "plural_overrides", .mapping [(.text "a", .text "b")])])).1 =
      .ok { pluralOverrides := .ofList [("a", "b")] } := rfl

end EntitySchema.Settings
