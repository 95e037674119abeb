import EntitySchema.Proofs.Settings.Decode
import EntitySchema.Settings.Merge

/-! Settings from two sides. What is normalised has the names of settings for its keys
(`named_normalize`). Plural overrides on the second side are set on top of those of the first and
change no other setting (`merge_overrides`). -/
namespace EntitySchema

namespace Setting

theorem ofSpelling?_name (setting : Setting) : ofSpelling? setting.name = some setting := by
  cases setting <;> decide

theorem name_injective : Function.Injective name := by
  intro a b h
  exact Option.some.inj (by rw [← ofSpelling?_name, h, ofSpelling?_name])

def isKey (setting : Setting) (k : Value) : Bool := decide (ofSpelling? k.display = some setting)

theorem isKey_iff {setting : Setting} {k : Value} :
    setting.isKey k = true ↔ ofSpelling? k.display = some setting := decide_eq_true_iff

/-- The first spelling of a key is the name of no setting, unless it is its own. -/
theorem camel_eq_name {setting other : Setting} (h : other.name = setting.key.camel) :
    setting.key.camel = setting.name := by
  revert h
  cases setting <;> cases other <;> decide

end Setting

namespace Settings

def Named (d : Dict Value) : Prop := ∀ k ∈ d.keys, ∃ setting : Setting, setting.name = k

theorem Named.insert {d : Dict Value} (h : Named d) (setting : Setting) (v : Value) :
    Named (d.insert setting.name v) := by
  intro k hk
  rw [Dict.keys_insert] at hk
  split at hk
  · exact h k hk
  · rcases List.mem_append.mp hk with hk | hk
    · exact h k hk
    · exact ⟨setting, (List.mem_singleton.mp hk).symm⟩

def normalizeOne (acc : Dict Value × Log) (e : Value × Value) : Dict Value × Log :=
  match Setting.ofSpelling? e.1.display with
  | some setting => (acc.1.insert setting.name e.2, acc.2)
  | none => (acc.1, acc.2 ++
    [⟨.debug, configSource, "Ignoring unknown config key '" ++ e.1.display ++ "'."⟩])

theorem normalize_eq (raw : List (Value × Value)) :
    normalize raw = raw.foldl normalizeOne (.empty, []) := rfl

theorem named_normalize (raw : List (Value × Value)) : Named (normalize raw).1 := by
  have hfold (acc : Dict Value × Log) (h : Named acc.1) : Named (raw.foldl normalizeOne acc).1 := by
    induction raw generalizing acc with
    | nil => exact h
    | cons e r ih =>
      apply ih
      rw [normalizeOne]
      split
      · exact h.insert _ _
      · exact h
  exact hfold _ fun k hk => absurd hk List.not_mem_nil

theorem normalize_concat (raw : List (Value × Value)) (setting : Setting) (v : Value) :
    (normalize (raw ++ [(.text setting.name, v)])).1 =
      (normalize raw).1.insert setting.name v := by
  have hdisplay : (Value.text setting.name).display = setting.name := rfl
  rw [normalize_eq, List.foldl_append, ← normalize_eq, List.foldl_cons, List.foldl_nil, normalizeOne,
    hdisplay, Setting.ofSpelling?_name]

def entriesFor (setting : Setting) (m : List (Value × Value)) : List (Value × Value) :=
  m.filter fun e => setting.isKey e.1

theorem entriesFor_cons (setting : Setting) (e : Value × Value) (r : List (Value × Value)) :
    entriesFor setting (e :: r) =
      if setting.isKey e.1 then e :: entriesFor setting r else entriesFor setting r :=
  List.filter_cons

theorem get?_normalize (raw : List (Value × Value)) (setting : Setting) :
    (normalize raw).1.get? setting.name = (entriesFor setting raw).getLast?.map (·.2) := by
  have hfold (acc : Dict Value × Log) : (raw.foldl normalizeOne acc).1.get? setting.name =
      ((entriesFor setting raw).getLast?.map (·.2)).or (acc.1.get? setting.name) := by
    induction raw generalizing acc with
    | nil => rfl
    | cons e r ih =>
      rw [List.foldl_cons, ih, entriesFor_cons, normalizeOne]
      by_cases hown : setting.isKey e.1 = true
      · rw [if_pos hown, Setting.isKey_iff.mp hown, List.getLast?_cons, Dict.get?_insert,
          if_pos rfl]
        cases (entriesFor setting r).getLast? <;> rfl
      · rw [if_neg hown]
        split
        · rename_i other hother
          have hname : setting.name ≠ other.name := fun hsame =>
            hown (Setting.isKey_iff.mpr (Setting.name_injective hsame ▸ hother))
          rw [Dict.get?_insert, if_neg hname]
        · rfl
  rw [normalize_eq, hfold, Dict.get?_empty, Option.or_none]

/-- What is normalised has nothing for a setting that no key stands for. -/
theorem get?_normalize_of_forall {raw : List (Value × Value)} {setting : Setting}
    (h : ∀ e ∈ raw, Setting.ofSpelling? e.1.display ≠ some setting) :
    (normalize raw).1.get? setting.name = none := by
  have hnone : entriesFor setting raw = [] :=
    List.filter_eq_nil_iff.mpr fun e he => mt Setting.isKey_iff.mp (h e he)
  rw [get?_normalize, hnone]
  rfl

variable {d : Dict Value}

theorem find?_of_named (h : Named d) (setting : Setting) :
    setting.key.find? (d.entries.map fun e => (.text e.1, e.2)) =
      (d.get? setting.name).map (setting.name, ·) := by
  have hname : d.entries.lookup setting.key.name = d.get? setting.name := rfl
  rw [Decode.Key.find?_text, hname]
  cases hcamel : d.entries.lookup setting.key.camel with
  | none => rfl
  | some v =>
    have hkey : setting.key.camel ∈ d.keys :=
      (lookup_isSome_iff setting.key.camel d.entries).mp (by rw [hcamel]; rfl)
    obtain ⟨other, hother⟩ := h _ hkey
    rw [Setting.camel_eq_name hother] at hcamel ⊢
    rw [Dict.get?, hcamel]
    rfl

/-- Names of settings are all there is to decode. -/
theorem extras_of_named (h : Named d) :
    Decode.extras (Setting.all.map Setting.key) (d.entries.map fun e => (.text e.1, e.2)) = [] := by
  refine Decode.extras_eq_nil_of_find? fun e he => ?_
  obtain ⟨setting, hsetting⟩ := h e.1 (List.mem_map_of_mem he)
  refine ⟨setting.key, List.mem_map_of_mem (by cases setting <;> decide), ?_⟩
  rw [find?_of_named h, hsetting, (d.mem_entries_iff e.1 e.2).mp he]
  rfl

theorem assignAll_of_ofEntries {m : List (Value × Value)} {s : Settings} (h : ofEntries m = .ok s) :
    assignAll m Setting.all {} = (s, []) := by
  cases hassigned : assignAll m Setting.all {} with
  | mk assigned problems =>
    simp only [ofEntries, hassigned] at h
    split at h
    · rename_i hnone
      rw [Except.ok.inj h, (List.append_eq_nil_iff.mp hnone).1]
    · simp at h

section Overrides

variable {data : Dict Value} {base : Settings} {file : Dict String}

/-- Without overrides of its own a dictionary gives none; otherwise it gives those that it holds. -/
theorem givesOverrides_of_named (h : Named data)
    (hfile : Setting.readOverrides ((data.get? Setting.pluralOverrides.name).getD .null) =
      .ok file) :
    GivesOverrides (data.entries.map fun e => (.text e.1, e.2)) file .empty := by
  rw [GivesOverrides, find?_of_named h]
  cases hget : data.get? Setting.pluralOverrides.name with
  | some v => exact .inl ⟨_, v, rfl, by simpa [hget] using hfile⟩
  | none =>
    rw [hget] at hfile
    exact .inr ⟨rfl, Except.ok.inj hfile⟩

theorem pluralOverrides_of_ofEntries (h : Named data)
    (hbase : ofEntries (data.entries.map fun e => (.text e.1, e.2)) = .ok base)
    (hfile : Setting.readOverrides ((data.get? Setting.pluralOverrides.name).getD .null) =
      .ok file) : base.pluralOverrides = file := by
  have hassigned := assignAll_of_ofEntries hbase
  have hsame := assignAll_withOverrides (fun _ _ => rfl) (givesOverrides_of_named h hfile)
    (l := Setting.all) (s := {}) (by rw [hassigned])
  rw [hassigned] at hsame
  exact congrArg (·.1.pluralOverrides) hsame

/-- Overrides in place of those that a dictionary holds. -/
theorem ofEntries_insert_overrides (h : Named data)
    (hbase : ofEntries (data.entries.map fun e => (.text e.1, e.2)) = .ok base) {v : Value}
    (hv : Setting.readOverrides v = .ok file) :
    ofEntries ((data.insert Setting.pluralOverrides.name v).entries.map
      fun e => (.text e.1, e.2)) = .ok { base with pluralOverrides := file } := by
  have hnamed := h.insert .pluralOverrides v
  have hothers (setting : Setting) (hsetting : setting ≠ .pluralOverrides) :
      setting.key.find? ((data.insert Setting.pluralOverrides.name v).entries.map
          fun e => (.text e.1, e.2)) =
        setting.key.find? (data.entries.map fun e => (.text e.1, e.2)) := by
    rw [find?_of_named hnamed, find?_of_named h, Dict.get?_insert,
      if_neg fun hsame => hsetting (Setting.name_injective hsame)]
  have hown : GivesOverrides ((data.insert Setting.pluralOverrides.name v).entries.map
      fun e => (.text e.1, e.2)) file .empty := by
    refine givesOverrides_of_named hnamed ?_
    rwa [Dict.get?_insert, if_pos rfl]
  have hassigned := assignAll_of_ofEntries hbase
  have hsame := assignAll_withOverrides hothers hown (l := Setting.all) (s := {})
    (by rw [hassigned])
  rw [hassigned] at hsame
  have hdefault : ({} : Settings) = { ({} : Settings) with pluralOverrides := .empty } := rfl
  rw [ofEntries, hdefault, hsame, extras_of_named hnamed]
  rfl

/-- A dictionary holds overrides: none at all, or a mapping in which no key comes twice and that
decodes to them. -/
structure HoldsOverrides (data : Dict Value) (m : List (Value × Value)) (file : Dict String) :
    Prop where
  held : (data.get? Setting.pluralOverrides.name).getD .null = .null ∧ m = [] ∨
    ((data.get? Setting.pluralOverrides.name).getD .null).untied = .mapping m
  distinct : Value.ofEntries m = m
  valid : Setting.readOverrides (.mapping m) = .ok file

variable {m : List (Value × Value)} {given : List (String × String)}

theorem HoldsOverrides.readOverrides (h : HoldsOverrides data m file) :
    Setting.readOverrides ((data.get? Setting.pluralOverrides.name).getD .null) = .ok file := by
  rcases h.held with ⟨hnull, rfl⟩ | hmapping
  · rw [hnull]
    exact h.valid
  · rw [← h.valid, Setting.readOverrides, Setting.readOverrides, hmapping]
    rfl

/-- Overrides are set in the mapping that is held, key by key. -/
theorem HoldsOverrides.mergePlurals (h : HoldsOverrides data m file)
    (given : List (String × String)) :
    mergePlurals data (.ofDictEntries (given.map fun e => (e.1, .text e.2))) =
      .ok (data.insert Setting.pluralOverrides.name
        (.mapping (given.foldl (fun m e => Value.put (.text e.1) (.text e.2) m) m))) := by
  have hadded : Value.addEntries m (.ofDictEntries (given.map fun e => (e.1, .text e.2))) =
      .ok (given.foldl (fun m e => Value.put (.text e.1) (.text e.2) m) m) := by
    simp only [Value.addEntries, Value.ofDictEntries, Value.untied, List.map_map, List.foldl_map,
      Function.comp_apply]
  rw [Settings.mergePlurals]
  dsimp only
  rcases h.held with ⟨hnull, rfl⟩ | hmapping
  · rw [hnull, if_neg (by decide)]
    simp only [bind, Except.bind, hadded, Except.mapError]
    rfl
  · generalize (data.get? Setting.pluralOverrides.name).getD .null = raw at hmapping
    split
    · have hentries : Value.entries? raw = .ok m := by
        rw [Value.entries?, Value.addEntries, hmapping]
        exact congrArg Except.ok h.distinct
      simp only [bind, Except.bind, hentries, hadded, Except.mapError]
      rfl
    · rename_i hfalse
      -- What is held and does not count is an empty mapping.
      have hempty : m = [] := by
        cases raw <;> simp_all [Value.untied, Value.truthy]
      subst hempty
      simp only [bind, Except.bind, hadded, Except.mapError]
      rfl

def otherEntries (extra : Dict Value) : List (String × Value) :=
  extra.entries.filter fun e => !(e.1 == Setting.pluralOverrides.name)

def withOthers (data extra : Dict Value) : Dict Value :=
  (otherEntries extra).foldl (fun d e => d.insert e.1 e.2) data

theorem Named.withOthers {extra : Dict Value} (hdata : Named data) (hextra : Named extra) :
    Named (withOthers data extra) := by
  have hfold (l : List (String × Value)) (hl : ∀ e ∈ l, ∃ setting : Setting, setting.name = e.1)
      (data : Dict Value) (hdata : Named data) :
      Named (l.foldl (fun d e => d.insert e.1 e.2) data) := by
    induction l generalizing data with
    | nil => exact hdata
    | cons e r ih =>
      rw [List.forall_mem_cons] at hl
      obtain ⟨setting, hsetting⟩ := hl.1
      have hinsert := hdata.insert setting e.2
      rw [hsetting] at hinsert
      exact ih hl.2 _ hinsert
  exact hfold _ (fun e he => hextra e.1 (List.mem_map_of_mem (List.mem_filter.mp he).1)) data hdata

theorem get?_withOthers (data extra : Dict Value) :
    (withOthers data extra).get? Setting.pluralOverrides.name =
      data.get? Setting.pluralOverrides.name := by
  have hnone : (otherEntries extra).reverse.lookup Setting.pluralOverrides.name = none := by
    rw [← Option.not_isSome_iff_eq_none, lookup_isSome_iff, List.map_reverse, List.mem_reverse]
    intro hmem
    obtain ⟨e, he, hname⟩ := List.mem_map.mp hmem
    simpa [hname] using (List.mem_filter.mp he).2
  rw [withOthers, Dict.get?_foldl_insert, hnone, Option.none_or]

theorem HoldsOverrides.withOthers (h : HoldsOverrides data m file) (extra : Dict Value) :
    HoldsOverrides (withOthers data extra) m file :=
  ⟨by rw [get?_withOthers]; exact h.held, h.distinct, h.valid⟩

theorem otherEntries_insert (extra : Dict Value) (v : Value) :
    otherEntries (extra.insert Setting.pluralOverrides.name v) = otherEntries extra := by
  have hset (l : List (String × Value)) : (setEntry Setting.pluralOverrides.name v l).filter
        (fun e => !(e.1 == Setting.pluralOverrides.name)) =
      l.filter fun e => !(e.1 == Setting.pluralOverrides.name) := by
    induction l with
    | nil => simp [setEntry]
    | cons e r ih =>
      by_cases he : e.1 = Setting.pluralOverrides.name
      · simp [setEntry, he]
      · simp [setEntry, he, ih]
  exact hset extra.entries

def merged (data extra : Dict Value) : Except Fault (Dict Value) :=
  match extra.get? Setting.pluralOverrides.name with
  | some v =>
    if v.truthy then mergePlurals (withOthers data extra) v else .ok (withOthers data extra)
  | none => .ok (withOthers data extra)

theorem merge_eq (data extra : Dict Value) :
    merge data extra = (merged data extra).bind fun d =>
      (ofEntries (d.entries.map fun e => (.text e.1, e.2))).mapError .invalid := by
  rw [merge, merged]
  cases extra.get? Setting.pluralOverrides.name with
  | none => rfl
  | some v =>
    dsimp only
    split <;> rfl

variable {extra : Dict Value} {words : List String}

theorem ofEntries_of_merge (hnone : extra.get? Setting.pluralOverrides.name = none)
    (hbase : merge data extra = .ok base) :
    ofEntries ((withOthers data extra).entries.map fun e => (.text e.1, e.2)) = .ok base := by
  rw [merge_eq, merged, hnone] at hbase
  cases hs : ofEntries ((withOthers data extra).entries.map fun e => (.text e.1, e.2)) with
  | ok s => simpa [hs, Except.bind, Except.mapError] using hbase
  | error p => simp [hs, Except.bind, Except.mapError] at hbase

/-- Without overrides on the second side those of the first are kept. -/
theorem pluralOverrides_of_merge (hdata : Named data) (hextra : Named extra)
    (hnone : extra.get? Setting.pluralOverrides.name = none)
    (hbase : merge data extra = .ok base) (hfile : HoldsOverrides data m file) :
    base.pluralOverrides = file :=
  pluralOverrides_of_ofEntries (hdata.withOthers hextra) (ofEntries_of_merge hnone hbase)
    (hfile.withOthers extra).readOverrides

/-- Settings whose second side has overrides for some words: these are set on top of the overrides of
the first side, and all else is as without them. -/
theorem merge_overrides (hdata : Named data) (hextra : Named extra)
    (hnone : extra.get? Setting.pluralOverrides.name = none)
    (hbase : merge data extra = .ok base) (hfile : HoldsOverrides data m file)
    (hgiven : given ≠ []) (hwords : ∀ e ∈ given, e.1 ∈ words)
    (honce : Setting.WrittenOnce words m) :
    merge data (extra.insert Setting.pluralOverrides.name
        (.ofDictEntries (given.map fun e => (e.1, .text e.2)))) =
      .ok { base with
        pluralOverrides := given.foldl (fun d e => d.insert e.1 e.2) file } := by
  have hothers (v : Value) : withOthers data (extra.insert Setting.pluralOverrides.name v) =
      withOthers data extra := by
    rw [withOthers, otherEntries_insert, withOthers]
  have htruthy : (Value.ofDictEntries (given.map fun e => (e.1, .text e.2))).truthy = true := by
    simpa [Value.ofDictEntries, Value.truthy] using hgiven
  have hread := Setting.readOverrides_foldl_put hwords honce hfile.valid
  rw [merge_eq, merged, Dict.get?_insert, if_pos rfl, hothers]
  dsimp only
  rw [if_pos htruthy, (hfile.withOthers extra).mergePlurals]
  simp only [Except.bind,
    ofEntries_insert_overrides (hdata.withOthers hextra) (ofEntries_of_merge hnone hbase) hread,
    Except.mapError]

end Overrides

def counted (overrides : List (Value × Value)) : List (Value × Value) :=
  overrides.filter fun e => match e.2 with
    | .null => false
    | _ => true

theorem counted_concat_mapping (l : List (Value × Value)) (k : Value) (m : List (Value × Value)) :
    counted (l ++ [(k, .mapping m)]) = counted l ++ [(k, .mapping m)] := by
  rw [counted, List.filter_append]
  rfl

theorem build_mapping (raw overrides : List (Value × Value)) :
    (build (.mapping raw) (.mapping overrides)).1 =
      merge (normalize raw).1 (normalize (counted overrides)).1 := by
  have hmapping (m : List (Value × Value)) : mappingIfAny (.mapping m) = .ok m := by
    cases m <;> rfl
  rw [build, hmapping, hmapping]
  rfl

end Settings

end EntitySchema
