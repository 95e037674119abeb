import EntitySchema.Proofs.Check.Overrides
import EntitySchema.Proofs.Relationship.Permuted

/-! What plural overrides do to a document. An override decides on no entity but those that it names in
some letter case, so the resources stay as they are without the overrides that name none, and in any
order of the overrides of different words (`Schema.document_overrides`). -/
namespace EntitySchema

/-- A search that takes at most one member finds it in any order. -/
theorem find?_eq_of_perm {α : Type} {p : α → Bool} {l l' : List α} (h : l.Perm l')
    (hsame : ∀ a ∈ l, ∀ b ∈ l, p a = true → p b = true → a = b) : l.find? p = l'.find? p := by
  rw [List.find?_eq_findSome?_guard, List.find?_eq_findSome?_guard]
  refine findSome?_eq_of_perm h fun a ha b hb x y hx hy => ?_
  rw [Option.guard_eq_some_iff] at hx hy
  rw [← hx.1, ← hy.1]
  exact hsame a ha b hb hx.2 hy.2

namespace Noun

variable {overrides others : Dict String} {entity : String}

/-- Whether no two words with a plural are equal in some letter case. -/
def WordsDiffer (overrides : Dict String) : Prop :=
  ((overrides.entries.filter (·.2 != "")).map fun e => Text.lowered e.1).Nodup

instance (overrides : Dict String) : Decidable (WordsDiffer overrides) :=
  inferInstanceAs (Decidable (List.Nodup _))

/-- An entity is decided on without the keys that do not name it. -/
theorem deciding?_without {keys : List String}
    (h : ∀ word ∈ keys, Text.lowered word ≠ Text.lowered entity) :
    deciding? (overrides.without keys) entity = deciding? overrides entity := by
  have hkept (e : String × String) (he : isAny entity e = true) :
      (!keys.contains e.1) = true := by
    rw [Bool.not_eq_true', ← Bool.not_eq_true, List.contains_iff_mem]
    exact fun hmem => h e.1 hmem (isAny_iff.mp he).2
  rw [deciding?, deciding?, Dict.without,
    Check.find?_filter_of_find? fun e he => hkept e (isAny_of_isExact (List.find?_some he)),
    Check.find?_filter_of_find? fun e he => hkept e (List.find?_some he)]

/-- Of words that differ one decides, whatever their order. -/
theorem deciding?_of_perm (hdiffer : WordsDiffer overrides)
    (h : overrides.entries.Perm others.entries) :
    deciding? overrides entity = deciding? others entity := by
  have hsame : ∀ a ∈ overrides.entries, ∀ b ∈ overrides.entries, isAny entity a = true →
      isAny entity b = true → a = b := by
    intro a ha b hb hfora hforb
    rw [isAny_iff] at hfora hforb
    have hmem {e : String × String} (he : e ∈ overrides.entries) (hplural : e.2 ≠ "") :
        e ∈ overrides.entries.filter (·.2 != "") := by simp [he, hplural]
    exact List.inj_on_of_nodup_map hdiffer (hmem ha hfora.1) (hmem hb hforb.1)
      (hfora.2.trans hforb.2.symm)
  rw [deciding?, deciding?, find?_eq_of_perm h hsame,
    find?_eq_of_perm h fun a ha b hb hfora hforb =>
      hsame a ha b hb (isAny_of_isExact hfora) (isAny_of_isExact hforb)]

end Noun

namespace Check

def reportedUnknown (s : Schema) (settings : Settings) : List String :=
  reportedWords "PLURAL_OVERRIDE_UNKNOWN_ENTITY" (diagnostics (full s settings))

variable (s : Schema) (settings : Settings)

/-- The words reported are those that name no entity in any letter case, in their order. -/
theorem reportedUnknown_eq :
    reportedUnknown s settings = settings.pluralOverrides.keys.filter fun word =>
      !(s.entities.keys.map Text.lowered).contains (Text.lowered word) := by
  rw [reportedUnknown, reportedWords_diagnostics, wordsUnder_full, overrides_eq,
    wordsUnder_map_other (by simp [Issue.code]), List.nil_append, overrideWords,
    wordsUnder_map .unknownOverride (fun _ => rfl) fun _ => rfl]

def withoutUnknown : Settings :=
  { settings with
    pluralOverrides := settings.pluralOverrides.without (reportedUnknown s settings) }

variable {s}

/-- The overrides reported decide on no entity. -/
theorem deciding?_withoutUnknown {entity : String} (h : entity ∈ s.entities.keys) :
    Noun.deciding? (withoutUnknown s settings).pluralOverrides entity =
      Noun.deciding? settings.pluralOverrides entity := by
  refine Noun.deciding?_without fun word hword hsame => ?_
  rw [reportedUnknown_eq, List.mem_filter, Bool.not_eq_true', ← Bool.not_eq_true,
    List.contains_iff_mem] at hword
  exact hword.2 (hsame ▸ List.mem_map_of_mem h)

end Check

namespace Schema

/-- The resources of a document depend on the overrides through those that decide. -/
theorem lookup_resources_congr {s : Schema} {settings settings' : Settings}
    (h : ∀ entity ∈ s.entities.keys, Noun.deciding? settings'.pluralOverrides entity =
      Noun.deciding? settings.pluralOverrides entity) :
    (s.document settings').lookup "resources" = (s.document settings).lookup "resources" := by
  rw [lookup_resources_document, lookup_resources_document]
  refine congrArg (fun l => some (Value.ofDictEntries l)) (List.map_congr_left fun entity he => ?_)
  rw [Noun.resourcePath_eq, Noun.resourcePath_eq, h entity he]

/-- Overrides act only on the entities that they name. The resources of a document stay as they are
without the overrides reported as matching no entity, and in any order of overrides of which no two
with a plural name the same word in some letter case. They are one path for each entity, in the order
of the entities. The rest of the schema in the document does not depend on the overrides. -/
theorem document_overrides (s : Schema) (settings : Settings) :
    (s.document (Check.withoutUnknown s settings)).lookup "resources" =
        (s.document settings).lookup "resources" ∧
      (∀ overrides, ∀ key ∈ ["entities", "enums"],
        (s.document { settings with pluralOverrides := overrides }).lookup key =
          (s.document settings).lookup key) ∧
      (∃ paths : List (String × String), (s.document settings).lookup "resources" =
          some (.ofDictEntries (paths.map fun e => (e.1, .text e.2))) ∧
        paths.map Prod.fst = s.entities.keys) ∧
      (Noun.WordsDiffer settings.pluralOverrides →
        ∀ overrides : Dict String, settings.pluralOverrides.entries.Perm overrides.entries →
          (s.document { settings with pluralOverrides := overrides }).lookup "resources" =
            (s.document settings).lookup "resources") := by
  refine ⟨?_, ?_, ?_, ?_⟩
  · exact lookup_resources_congr fun _ he => Check.deciding?_withoutUnknown settings he
  · intro overrides key hkey
    simp only [List.mem_cons, List.not_mem_nil, or_false] at hkey
    rcases hkey with rfl | rfl <;> simp [document, documentWith, lookup_cons_if]
  · refine ⟨s.resources settings.pluralOverrides, ?_, ?_⟩
    · simp [document, documentWith, lookup_cons_if]
    · simp [resources, Function.comp_def]
  · intro hdiffer overrides hperm
    exact lookup_resources_congr fun _ _ => (Noun.deciding?_of_perm hdiffer hperm).symm

/-- Overrides in two orders, of which one is empty and one names no entity. -/
theorem document_overrides_reordered :
    let s : Schema := ⟨.ofList [("Person", [Field.id]), ("Box", [Field.id])], .empty⟩
    let given : Dict String :=
      .ofList [("person", ""), ("Ghost", "ghosts"), ("PERSON", "Folk"), ("box", "boxen")]
    let reordered : Dict String :=
      .ofList [("box", "boxen"), ("PERSON", "Folk"), ("Ghost", "ghosts"), ("person", "")]
    let settings : Settings := { pluralOverrides := given }
    Noun.WordsDiffer given ∧ given.entries.Perm reordered.entries ∧
      Check.reportedUnknown s settings = ["Ghost"] ∧
      s.resources given = [("Person", "/folk"), ("Box", "/boxen")] ∧
      (s.document (Check.withoutUnknown s settings)).lookup "resources" =
        (s.document settings).lookup "resources" ∧
      (s.document { settings with pluralOverrides := reordered }).lookup "resources" =
        (s.document settings).lookup "resources" := by
  intro s given reordered settings
  have hdiffer : Noun.WordsDiffer given := by decide +kernel
  have hperm : given.entries.Perm reordered.entries := by decide +kernel
  obtain ⟨hunknown, -, -, horder⟩ := document_overrides s settings
  exact ⟨hdiffer, hperm, by decide +kernel, by decide +kernel, hunknown,
    horder hdiffer reordered hperm⟩

end Schema

end EntitySchema
