import EntitySchema.CommandLine.Run
import EntitySchema.Proofs.Noun.Override
import EntitySchema.Proofs.Settings.Merge

/-! Plural overrides from the command line. They are set on top of those of a configuration file, and
each names the resources of its entities, unless the file holds a rival that is spelled otherwise
(`resource_of_items`). -/
namespace EntitySchema.CommandLine

/-- Items that are words with plurals make a dictionary of these. -/
theorem pluralOverrides_of_items {items : List String} {given : List (String × String)}
    (h : items.map pluralOverride? = given.map some) :
    pluralOverrides (items.map .text) = .ok (.ofList given) := by
  rw [pluralOverrides, Dict.ofList]
  generalize (Dict.empty : Dict String) = d
  induction items generalizing given d with
  | nil =>
    rw [List.map_eq_nil_iff.mp h.symm]
    rfl
  | cons item r ih =>
    obtain ⟨e, given, rfl⟩ := List.exists_cons_of_ne_nil (l := given) (by rintro rfl; simp at h)
    rw [List.map_cons, List.map_cons, List.cons.injEq] at h
    rw [List.map_cons, List.foldlM_cons, List.foldl_cons, ← ih h.2]
    simp only [h.1]
    rfl

namespace Arguments

def options (a : Arguments) : List (Value × Value) :=
  match a.overrides .empty with
  | .mapping m => m
  | _ => []

theorem overrides_eq (a : Arguments) (plurals : Dict String) :
    a.overrides plurals = .mapping (a.options ++ if plurals.isEmpty then [] else
      [(.text Setting.pluralOverrides.name,
        .ofDictEntries (plurals.entries.map fun e => (e.1, .text e.2)))]) := by
  have hempty : (Dict.empty : Dict String).isEmpty = true := rfl
  cases h : plurals.isEmpty <;> simp [overrides, options, h, hempty]

theorem ofSpelling?_of_mem_options {a : Arguments} {e : Value × Value} (h : e ∈ a.options) :
    Setting.ofSpelling? e.1.display ≠ some .pluralOverrides := by
  have hname : ∃ setting : Setting, setting ≠ .pluralOverrides ∧ e.1 = .text setting.name := by
    simp only [options, overrides, Dict.isEmpty, Dict.empty, List.isEmpty_nil, if_true,
      Option.map_none, Option.toList_none, List.append_nil, List.mem_append, Option.mem_toList,
      Option.map_eq_some_iff] at h
    rcases h with (((⟨v, -, rfl⟩ | ⟨v, -, rfl⟩) | ⟨v, -, rfl⟩) | ⟨v, -, rfl⟩) | ⟨v, -, rfl⟩
    · exact ⟨.jdlFile, by decide, rfl⟩
    · exact ⟨.outputFile, by decide, rfl⟩
    · exact ⟨.outputFormat, by decide, rfl⟩
    · exact ⟨.payloadMode, by decide, rfl⟩
    · exact ⟨.force, by decide, rfl⟩
  obtain ⟨setting, hsetting, hname⟩ := hname
  have hdisplay : e.1.display = setting.name := by rw [hname]; rfl
  rw [hdisplay, Setting.ofSpelling?_name]
  simpa using hsetting

end Arguments

/-- The command line's own overrides are set on top of those of the configuration file, and its other
settings are as without them. -/
theorem build_overrides {raw m : List (Value × Value)} {file : Dict String} {a : Arguments}
    {given : List (String × String)} {base : Settings}
    (hfile : Settings.HoldsOverrides (Settings.normalize raw).1 m file)
    (hbase : (Settings.build (.mapping raw) (a.overrides .empty)).1 = .ok base)
    (hnodup : (given.map Prod.fst).Nodup)
    (honce : Setting.WrittenOnce (given.map Prod.fst) m) :
    (Settings.build (.mapping raw) (a.overrides (.ofList given))).1 =
      .ok { base with
        pluralOverrides := given.foldl (fun d e => d.insert e.1 e.2) file } := by
  have hnamed := Settings.named_normalize
  have hnone : (Settings.normalize (Settings.counted a.options)).1.get?
      Setting.pluralOverrides.name = none :=
    Settings.get?_normalize_of_forall fun e he =>
      Arguments.ofSpelling?_of_mem_options (List.mem_filter.mp he).1
  have hdefault : a.overrides .empty = .mapping a.options := by
    have hempty : (Dict.empty : Dict String).isEmpty = true := rfl
    rw [Arguments.overrides_eq, if_pos hempty, List.append_nil]
  have hmerge := hbase
  rw [hdefault, Settings.build_mapping] at hmerge
  -- Without items the command line holds no overrides at all, and those of the file are kept.
  by_cases hgiven : given = []
  · have hsame := Settings.pluralOverrides_of_merge (hnamed raw) (hnamed _) hnone hmerge hfile
    rw [hgiven, List.foldl_nil, ← hsame]
    exact hbase
  · have hentries : (Dict.ofList given).entries = given := Dict.entries_ofList_of_nodup hnodup
    have hfilled : (Dict.ofList given).isEmpty = false := by
      simpa [Dict.isEmpty, hentries] using hgiven
    rw [Arguments.overrides_eq, hfilled, if_neg Bool.false_ne_true, Settings.build_mapping,
      Value.ofDictEntries, Settings.counted_concat_mapping, Settings.normalize_concat, hentries]
    exact Settings.merge_overrides (hnamed raw) (hnamed _) hnone hmerge hfile hgiven
      (fun e he => List.mem_map_of_mem he) honce

/-- Items `WORD=PLURAL` on top of a configuration file, for words that differ by more than letter
case and with plurals that are not empty. The settings are those without the items, but for the
overrides. In a document the resource of an entity with such a word for its name is the plural in
lower case, unless the file holds a rival: an override for the name as it is spelled, or one for the
name that stands before the word and is spelled otherwise.

The words must be written once: no key that stands behind one of them in the file may be another
value with the same text, such as the number behind the text that spells it. The two become one key
only after the item has been set, and then the file wins. -/
theorem resource_of_items {raw m : List (Value × Value)} {file : Dict String} {a : Arguments}
    {items : List String} {given : List (String × String)} {base : Settings}
    (hfile : Settings.HoldsOverrides (Settings.normalize raw).1 m file)
    (hbase : (Settings.build (.mapping raw) (a.overrides .empty)).1 = .ok base)
    (hitems : a.pluralOverrides = items.map .text)
    (hgiven : items.map pluralOverride? = given.map some)
    (hwords : (given.map fun e => Text.lowered e.1).Nodup) (hplurals : ∀ e ∈ given, e.2 ≠ "")
    (honce : Setting.WrittenOnce (given.map Prod.fst) m) :
    ∃ plurals settings, pluralOverrides a.pluralOverrides = .ok plurals ∧
      (Settings.build (.mapping raw) (a.overrides plurals)).1 = .ok settings ∧
      settings = { base with
        pluralOverrides := given.foldl (fun d e => d.insert e.1 e.2) file } ∧
      ∀ s : Schema, ∀ entity ∈ s.entities.keys, ∀ e ∈ given,
        Text.lowered e.1 = Text.lowered entity →
        Document.resource? (s.document settings) entity =
          some (.text ("/" ++ Text.lowered ((Noun.rival? file e.1 entity).getD e).2)) := by
  have hnodup : (given.map Prod.fst).Nodup := by
    have hlowered : (given.map Prod.fst).map Text.lowered =
        given.map fun e => Text.lowered e.1 := List.map_map
    exact List.Nodup.of_map Text.lowered (hlowered ▸ hwords)
  refine ⟨.ofList given, _, ?_, build_overrides hfile hbase hnodup honce, rfl, ?_⟩
  · rw [hitems, pluralOverrides_of_items hgiven]
  · intro s entity hentity e he hsame
    rw [Document.resource?_document hentity, Noun.resourcePath_eq,
      Noun.deciding?_foldl_insert hwords hplurals he hsame]

/-- Of two items one wins over the file, where its word is spelled like there, and the other loses
against a word in capitals. -/
theorem resource_of_items_capitals :
    let raw : List (Value × Value) := [(.text "pluralOverrides", .ofDictEntries
      [("PERSON", .text "folks"), ("blog", .text "weblogs")])]
    let a : Arguments := { pluralOverrides := [.text "blog=Journals", .text "person=people"] }
    let s : Schema := ⟨.ofList [("Blog", [Field.id]), ("Person", [Field.id])], .empty⟩
    ∃ plurals settings, pluralOverrides a.pluralOverrides = .ok plurals ∧
      (Settings.build (.mapping raw) (a.overrides plurals)).1 = .ok settings ∧
      Document.resource? (s.document settings) "Blog" = some (.text "/journals") ∧
      Document.resource? (s.document settings) "Person" = some (.text "/folks") := by
  intro raw a s
  have hfile : Settings.HoldsOverrides (Settings.normalize raw).1
      [(.text "PERSON", .text "folks"), (.text "blog", .text "weblogs")]
      (.ofList [("PERSON", "folks"), ("blog", "weblogs")]) := ⟨.inr rfl, rfl, rfl⟩
  have hbase : (Settings.build (.mapping raw) (a.overrides .empty)).1 =
      .ok { pluralOverrides := .ofList [("PERSON", "folks"), ("blog", "weblogs")] } := rfl
  have hgiven : ["blog=Journals", "person=people"].map pluralOverride? =
      [("blog", "Journals"), ("person", "people")].map some := by decide +kernel
  obtain ⟨plurals, settings, hplurals, hsettings, -, hresource⟩ :=
    resource_of_items hfile hbase rfl hgiven (by decide +kernel) (by decide)
      (by simp [Setting.WrittenOnce, Value.display])
  have hblog := hresource s "Blog" (by decide +kernel) ("blog", "Journals") (by decide)
    (by decide +kernel)
  have hperson := hresource s "Person" (by decide +kernel) ("person", "people") (by decide)
    (by decide +kernel)
  have hjournals : "/" ++ Text.lowered ((Noun.rival?
      (.ofList [("PERSON", "folks"), ("blog", "weblogs")]) "blog" "Blog").getD
        ("blog", "Journals")).2 = "/journals" := by decide +kernel
  have hfolks : "/" ++ Text.lowered ((Noun.rival?
      (.ofList [("PERSON", "folks"), ("blog", "weblogs")]) "person" "Person").getD
        ("person", "people")).2 = "/folks" := by decide +kernel
  exact ⟨plurals, settings, hplurals, hsettings, hjournals ▸ hblog, hfolks ▸ hperson⟩

/-- The file's word in capitals names the resource of a person, although the command line has a plural
for the word in small letters. -/
theorem item_loses_to_capitals :
    let raw : List (Value × Value) :=
      [(.text "pluralOverrides", .ofDictEntries [("PERSON", .text "folks")])]
    let a : Arguments := { pluralOverrides := [.text "person=people"] }
    let s : Schema := ⟨.ofList [("Person", [Field.id])], .empty⟩
    ∃ plurals settings, pluralOverrides a.pluralOverrides = .ok plurals ∧
      (Settings.build (.mapping raw) (a.overrides plurals)).1 = .ok settings ∧
      plurals.entries = [("person", "people")] ∧
      Text.lowered "person" = Text.lowered "Person" ∧
      Document.resource? (s.document settings) "Person" = some (.text "/folks") ∧
      Document.resource? (s.document settings) "Person" ≠
        some (.text ("/" ++ Text.lowered "people")) := by
  intro raw a s
  have hpath : Schema.resourcePath (.ofList [("PERSON", "folks"), ("person", "people")]) "Person" =
      "/folks" := by decide +kernel
  have hresource : Document.resource? (s.document
      { pluralOverrides := .ofList [("PERSON", "folks"), ("person", "people")] }) "Person" =
        some (.text "/folks") := by
    rw [Document.resource?_document (by decide +kernel), hpath]
  have hpeople : "/folks" ≠ "/" ++ Text.lowered "people" := by decide +kernel
  refine ⟨.ofList [("person", "people")],
    { pluralOverrides := .ofList [("PERSON", "folks"), ("person", "people")] }, rfl, rfl, rfl,
    by decide +kernel, hresource, ?_⟩
  rw [hresource]
  simpa using hpeople

end EntitySchema.CommandLine
