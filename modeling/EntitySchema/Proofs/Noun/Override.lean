import EntitySchema.Proofs.Document
import EntitySchema.Proofs.Noun.Shape
import EntitySchema.Proofs.Text.Blank
import Mathlib.Data.List.Nodup

/-! Which override counts. The resource of an entity is named by one override of a dictionary or by
none of them (`resource_eq`), and a plural that is made up is never blank (`plural_not_blank`). Of
overrides that are set on top of others one decides on its word, unless the others hold a rival
(`deciding?_foldl_insert`). -/
namespace EntitySchema

theorem Schema.lookup_resources_document (s : Schema) (settings : Settings) :
    (s.document settings).lookup "resources" = some (.ofDictEntries (s.entities.keys.map
      fun entity => (entity, .text (resourcePath settings.pluralOverrides entity)))) := by
  simp [document, documentWith, lookup_cons_if, resources, Function.comp_def]

def Document.resource? (document : List (String × Value)) (entity : String) : Option Value :=
  (document.lookup "resources").bind (Value.at? entity)

theorem Document.resource?_document {s : Schema} {entity : String} (h : entity ∈ s.entities.keys)
    (settings : Settings) : resource? (s.document settings) entity =
      some (.text (Schema.resourcePath settings.pluralOverrides entity)) := by
  have hfind : ∃ k, s.entities.keys.find? (· == entity) = some k := by
    rw [← Option.isSome_iff_exists, List.find?_isSome]
    exact ⟨entity, h, beq_self_eq_true entity⟩
  obtain ⟨k, hk⟩ := hfind
  have hsame : k = entity := by simpa using List.find?_some hk
  rw [resource?, s.lookup_resources_document, Option.bind_some, Value.at?_ofDictEntries,
    lookup_map (fun k => k), hk, hsame]
  rfl

namespace Noun

open Text (isBlank lower)

def isExact (entity : String) (e : String × String) : Bool := e.2 != "" && e.1 == entity

def isAny (entity : String) (e : String × String) : Bool :=
  e.2 != "" && Text.lowered e.1 == Text.lowered entity

/-- The override that names the resource of an entity: the one for its name as it is spelled, or else
the first for its name in any letter case. Those without a plural are passed over. -/
def deciding? (overrides : Dict String) (entity : String) : Option (String × String) :=
  (overrides.entries.find? (isExact entity)).or (overrides.entries.find? (isAny entity))

theorem toList_beq (s t : String) : (s.toList == t.toList) = (s == t) := by
  rw [Bool.eq_iff_iff, beq_iff_eq, beq_iff_eq, String.toList_inj]

theorem lower_toList_beq (s t : String) :
    (lower s.toList == lower t.toList) = (Text.lowered s == Text.lowered t) := by
  rw [Bool.eq_iff_iff, beq_iff_eq, beq_iff_eq, Text.lowered, Text.lowered, String.ofList_inj]

theorem overridden?_ofDict (overrides : Dict String) (word : List Char) :
    overridden? (Override.ofDict overrides) word =
      (overrides.entries.find? fun e => e.2 != "" && lower e.1.toList == word).map
        (·.2.toList) := by
  rw [overridden?, Override.ofDict, List.find?_map, Option.map_map]
  rfl

/-- The resource of an entity is the plural of the override that decides, in lower case, or the
plural that is made up without one. -/
theorem resource_eq (overrides : Dict String) (entity : String) :
    resource (Override.ofDict overrides) entity.toList =
      match deciding? overrides entity with
      | some e => lower e.2.toList
      | none => plural [] (lower entity.toList) := by
  have hexact : (Override.ofDict overrides).find? (fun o =>
        o.offered && o.word.toList == entity.toList) =
      (overrides.entries.find? (isExact entity)).map fun e => Override.ofText e.1 e.2 := by
    rw [Override.ofDict, List.find?_map]
    simp only [Function.comp_def, Override.ofText, toList_beq]
    rfl
  have hany : overridden? (Override.ofDict overrides) (lower entity.toList) =
      (overrides.entries.find? (isAny entity)).map fun e => e.2.toList := by
    rw [overridden?_ofDict]
    simp only [lower_toList_beq]
    rfl
  rw [resource, hexact, hany, deciding?]
  cases overrides.entries.find? (isExact entity) with
  | some e => rfl
  | none => cases overrides.entries.find? (isAny entity) <;> rfl

theorem resourcePath_eq (overrides : Dict String) (entity : String) :
    Schema.resourcePath overrides entity = "/" ++ match deciding? overrides entity with
      | some e => Text.lowered e.2
      | none => String.ofList (plural [] (lower entity.toList)) := by
  rw [Schema.resourcePath, resource_eq]
  cases deciding? overrides entity <;> rfl

variable {overrides : Dict String} {entity : String} {e : String × String}

theorem isExact_iff : isExact entity e = true ↔ e.2 ≠ "" ∧ e.1 = entity := by simp [isExact]

theorem isAny_iff :
    isAny entity e = true ↔ e.2 ≠ "" ∧ Text.lowered e.1 = Text.lowered entity := by
  simp [isAny]

theorem isAny_of_isExact (h : isExact entity e = true) : isAny entity e = true := by
  obtain ⟨hplural, hword⟩ := isExact_iff.mp h
  exact isAny_iff.mpr ⟨hplural, by rw [hword]⟩

theorem isExact_eq_false (h : isAny entity e = false) : isExact entity e = false := by
  rw [← Bool.not_eq_true] at h ⊢
  exact mt isAny_of_isExact h

theorem mem_of_deciding (h : deciding? overrides entity = some e) :
    e ∈ overrides.entries ∧ isAny entity e = true := by
  rcases Option.or_eq_some_iff.mp h with hexact | ⟨-, hany⟩
  · exact ⟨List.mem_of_find?_eq_some hexact, isAny_of_isExact (List.find?_some hexact)⟩
  · exact ⟨List.mem_of_find?_eq_some hany, List.find?_some hany⟩

theorem regularPlural_not_blank (word : List Char) : (regularPlural word).all isBlank = false := by
  have hsuffix : ∀ s ∈ pluralSuffixes, s.all isBlank = false := by decide
  rcases regularPlural_shape word with ⟨hs, hsame⟩ | ⟨n, suffix, hmem, hput⟩
  · obtain ⟨t, ht⟩ := List.isSuffixOf_iff_suffix.mp hs
    rw [hsame, ← Text.all_isBlank_lower, ← ht, List.all_append]
    exact Bool.and_false _
  · rw [hput, List.all_append, hsuffix suffix hmem, Bool.and_false]

/-- What is made up as the plural of a word is not blank. -/
theorem plural_not_blank {word : List Char} (h : word ≠ []) :
    (plural [] word).all isBlank = false := by
  rw [plural_of_ne_nil h]
  cases hi : irregularPlural? (lower word) with
  | some form =>
    exact (by decide : ∀ s ∈ irregularForms, s.all isBlank = false) _ (irregularPlural_shape word hi)
  | none => exact regularPlural_not_blank word

/-- The override that goes before one that is set for a word: the one for the name of the entity as it
is spelled, or else the first for that name in any letter case that stands before the word. A word
that is spelled like the name has none. -/
def rival? (overrides : Dict String) (word entity : String) : Option (String × String) :=
  if word = entity then none
  else (overrides.entries.find? (isExact entity)).or
    ((overrides.entries.takeWhile fun e => e.1 != word).find? (isAny entity))

section Insert

variable {q t : String × String → Bool} {d : Dict String} {word plural : String}

/-- A search among the first entries passes over a key that it never takes and that is no end. -/
theorem find?_takeWhile_setEntry {l : List (String × String)}
    (h : ∀ v, t (word, v) = true ∧ q (word, v) = false) :
    ((setEntry word plural l).takeWhile t).find? q = (l.takeWhile t).find? q := by
  induction l with
  | nil => simp [setEntry, h]
  | cons e r ih =>
    by_cases he : e.1 = word
    · have hown : t e = true ∧ q e = false := by simpa [← he] using h e.2
      simp [setEntry, he, h, hown]
    · by_cases ht : t e = true
      · simp [setEntry, he, ht, List.find?_cons, ih]
      · simp [setEntry, he, ht]

theorem find?_takeWhile_foldl_insert {l : List (String × String)}
    (h : ∀ e ∈ l, ∀ v, t (e.1, v) = true ∧ q (e.1, v) = false) (d : Dict String) :
    ((l.foldl (fun d e => d.insert e.1 e.2) d).entries.takeWhile t).find? q =
      (d.entries.takeWhile t).find? q := by
  induction l generalizing d with
  | nil => rfl
  | cons e r ih =>
    rw [List.forall_mem_cons] at h
    rw [List.foldl_cons, ih h.2]
    exact find?_takeWhile_setEntry h.1

theorem find?_foldl_insert {l : List (String × String)}
    (h : ∀ e ∈ l, ∀ v, q (e.1, v) = false) (d : Dict String) :
    (l.foldl (fun d e => d.insert e.1 e.2) d).entries.find? q = d.entries.find? q := by
  have hall (l : List (String × String)) : l.takeWhile (fun _ => true) = l := by simp
  rw [← hall d.entries, ← find?_takeWhile_foldl_insert (fun e he v => ⟨rfl, h e he v⟩) d, hall]

/-- What a search takes is what stands before a key that it takes, or else the key. -/
theorem find?_insert (h : q (word, plural) = true) :
    (d.insert word plural).entries.find? q =
      ((d.entries.takeWhile fun e => e.1 != word).find? q).or (some (word, plural)) := by
  have hset (l : List (String × String)) : (setEntry word plural l).find? q =
      ((l.takeWhile fun e => e.1 != word).find? q).or (some (word, plural)) := by
    induction l with
    | nil => simp [setEntry, h]
    | cons e r ih =>
      by_cases he : e.1 = word
      · simp [setEntry, he, h]
      · cases hq : q e <;> simp [setEntry, he, hq, ih]
  exact hset d.entries

/-- Of keys that are set one after the other, a search that takes only one takes what stands before
that key, or else the key. -/
theorem find?_foldl_insert_middle {before after : List (String × String)}
    (h : ∀ e ∈ before ++ after, e.1 ≠ word ∧ ∀ v, q (e.1, v) = false)
    (hword : q (word, plural) = true) (d : Dict String) :
    ((before ++ (word, plural) :: after).foldl (fun d e => d.insert e.1 e.2) d).entries.find? q =
      ((d.entries.takeWhile fun e => e.1 != word).find? q).or (some (word, plural)) := by
  rw [List.forall_mem_append] at h
  have hbefore : ∀ e ∈ before, ∀ v : String, (e.1 != word) = true ∧ q (e.1, v) = false :=
    fun e he v => ⟨bne_iff_ne.mpr (h.1 e he).1, (h.1 e he).2 v⟩
  rw [List.foldl_append, List.foldl_cons, find?_foldl_insert fun e he => (h.2 e he).2,
    find?_insert hword, find?_takeWhile_foldl_insert (t := fun e => e.1 != word) hbefore]

end Insert

/-- Of overrides for different words that are set on top of others, the one for an entity decides on
it, unless it has a rival among the others. -/
theorem deciding?_foldl_insert {given : List (String × String)}
    (hwords : (given.map fun e => Text.lowered e.1).Nodup) (hplurals : ∀ e ∈ given, e.2 ≠ "")
    (he : e ∈ given) (hentity : Text.lowered e.1 = Text.lowered entity) (file : Dict String) :
    deciding? (given.foldl (fun d e => d.insert e.1 e.2) file) entity =
      some ((rival? file e.1 entity).getD e) := by
  obtain ⟨before, after, rfl⟩ := List.append_of_mem he
  obtain ⟨word, plural⟩ := e
  have hplural : plural ≠ "" := hplurals _ he
  rw [List.map_append, List.map_cons, List.nodup_middle, List.nodup_cons,
    ← List.map_append] at hwords
  -- The other overrides given are for other names, so no search takes one of them.
  have hothers (d : String × String) (hd : d ∈ before ++ after) :
      Text.lowered d.1 ≠ Text.lowered entity := fun h =>
    hwords.1 (hentity ▸ h ▸ List.mem_map_of_mem hd)
  have hany (d : String × String) (hd : d ∈ before ++ after) :
      d.1 ≠ word ∧ ∀ v, isAny entity (d.1, v) = false := by
    refine ⟨fun h => hothers d hd (h ▸ hentity), fun v => ?_⟩
    rw [← Bool.not_eq_true, isAny_iff]
    exact fun h => hothers d hd h.2
  rw [deciding?, find?_foldl_insert_middle hany (isAny_iff.mpr ⟨hplural, hentity⟩)]
  by_cases hsame : word = entity
  · have hnone : (file.entries.takeWhile fun e => e.1 != word).find? (isExact entity) = none := by
      refine List.find?_eq_none.mpr fun d hd h => ?_
      have hd : d.1 ≠ word := by simpa using List.mem_takeWhile_imp hd
      exact hd ((isExact_iff.mp h).2.trans hsame.symm)
    rw [find?_foldl_insert_middle
        (fun d hd => ⟨(hany d hd).1, fun v => isExact_eq_false ((hany d hd).2 v)⟩)
        (isExact_iff.mpr ⟨hplural, hsame⟩),
      hnone, rival?, if_pos hsame]
    rfl
  · have hexact (d : String × String) (hd : d ∈ before ++ (word, plural) :: after) (v : String) :
        isExact entity (d.1, v) = false := by
      rcases List.mem_cons.mp (List.perm_middle.mem_iff.mp hd) with rfl | hd
      · rw [← Bool.not_eq_true, isExact_iff]
        exact fun h => hsame h.2
      · exact isExact_eq_false ((hany d hd).2 v)
    rw [find?_foldl_insert hexact, rival?, if_neg hsame]
    cases file.entries.find? (isExact entity) with
    | some d => rfl
    | none => cases (file.entries.takeWhile fun e => e.1 != word).find? (isAny entity) <;> rfl

end Noun

end EntitySchema
