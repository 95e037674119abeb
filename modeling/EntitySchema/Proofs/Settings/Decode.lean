import EntitySchema.Proofs.Decode
import EntitySchema.Settings.Decode

/-! Plural overrides among settings. A map of overrides decodes exactly when its words and plurals
are texts (`readOverrides_eq_ok_iff`); an override that is set in such a map is set in what the map
decodes to, unless a later word is written alike (`readOverrides_put`). The other settings do not
depend on overrides (`assignAll_withOverrides`). -/
namespace EntitySchema

open Decode (Checked)

namespace Setting

/-- The text that a plural is given as; null stands for none. -/
def pluralText : Value → Value
  | .null => .text ""
  | v => overrideText v

theorem overrideText_eq (v : Value) :
    overrideText v = .text v.display ∨ ∃ codes, overrideText v = .broken codes := by
  cases v <;> simp [overrideText]

theorem pluralText_eq (v : Value) :
    (∃ s, pluralText v = .text s) ∨ ∃ codes, pluralText v = .broken codes := by
  cases v <;> simp [pluralText, overrideText]

/-- The plurals that a mapping gives, by the texts of its keys. -/
def written (m : List (Value × Value)) : Dict Value :=
  .ofList (m.map fun e => (e.1.display, pluralText e.2))

theorem readOverrides_mapping (m : List (Value × Value)) :
    readOverrides (.mapping m) = (Checked.mapAll readOverride
      (Value.ofEntries (m.map fun e => (overrideText e.1, pluralText e.2)))).map Dict.ofList := rfl

theorem readOverride_eq_ok_iff {k v : Value} {e : String × String} :
    readOverride (k, v) = .ok e ↔ Decode.text k = .ok e.1 ∧ Decode.text v = .ok e.2 := by
  simp only [readOverride, Checked.below_eq_ok_iff, Checked.ap_eq_ok_iff, Checked.map_eq_ok_iff,
    Checked.ofComplaint_eq_ok_iff]
  constructor
  · rintro ⟨_, plural, ⟨word, hword, rfl⟩, hplural, rfl⟩
    exact ⟨hword, hplural⟩
  · exact fun h => ⟨_, _, ⟨_, h.1, rfl⟩, h.2, rfl⟩

theorem readOverride_text {e : String × Value} (he : ∃ v, e.2 = pluralText v)
    (d : String × String) :
    readOverride (.text e.1, e.2) = .ok d ↔ e = (d.1, .text d.2) := by
  obtain ⟨k, _⟩ := e
  obtain ⟨v, rfl⟩ := he
  rw [readOverride_eq_ok_iff, Prod.mk.injEq]
  rcases pluralText_eq v with ⟨s, hs⟩ | ⟨codes, hcodes⟩
  · simp [hs, Decode.text]
  · simp [hcodes, Decode.text]

variable {m : List (Value × Value)} {d : Dict String}

theorem overrideText_of_readOverrides (h : readOverrides (.mapping m) = .ok d) :
    ∀ e ∈ m, overrideText e.1 = .text e.1.display := by
  rw [readOverrides_mapping, Checked.map_eq_ok_iff] at h
  obtain ⟨out, hout, -⟩ := h
  intro e he
  refine (overrideText_eq e.1).resolve_right ?_
  rintro ⟨codes, hcodes⟩
  -- A word that is no text stays among the keys, whichever of its plurals counts.
  have hkey : Value.broken codes ∈
      (Value.ofEntries (m.map fun e => (overrideText e.1, pluralText e.2))).map Prod.fst := by
    refine Value.mem_keys_ofEntries (fun k => Value.sameKey_broken_iff.mp) ?_
    rw [List.map_map]
    exact List.mem_map.mpr ⟨e, he, hcodes⟩
  obtain ⟨⟨_, v⟩, hmem, rfl⟩ := List.mem_map.mp hkey
  have hread := List.mem_map_of_mem (f := readOverride) hmem
  rw [Checked.mapAll_eq_ok_iff.mp hout] at hread
  obtain ⟨d, -, hd⟩ := List.mem_map.mp hread
  have hword := (readOverride_eq_ok_iff.mp hd.symm).1
  simp [Decode.text] at hword

theorem readOverrides_iff_of_texts (hkeys : ∀ e ∈ m, overrideText e.1 = .text e.1.display) :
    readOverrides (.mapping m) = .ok d ↔ written m = d.map fun _ plural => .text plural := by
  have htexts : Value.ofEntries (m.map fun e => (overrideText e.1, pluralText e.2)) =
      (written m).entries.map fun e => (.text e.1, e.2) := by
    rw [written, ← Value.ofEntries_text, List.map_map]
    exact congrArg Value.ofEntries (List.map_congr_left fun e he => by rw [hkeys e he]; rfl)
  have hplurals : ∀ e ∈ (written m).entries, ∃ v, e.2 = pluralText v := by
    intro e he
    obtain ⟨e, -, rfl⟩ := List.mem_map.mp (Dict.mem_of_mem_ofList he)
    exact ⟨e.2, rfl⟩
  have hread (out : List (String × String)) :
      Checked.mapAll readOverride ((written m).entries.map fun e => (.text e.1, e.2)) = .ok out ↔
        (written m).entries = out.map fun e => (e.1, .text e.2) := by
    rw [Checked.mapAll_eq_ok_iff, List.map_map]
    exact Checked.map_eq_map_ok_iff fun e he => readOverride_text (hplurals e he)
  simp only [readOverrides_mapping, Checked.map_eq_ok_iff, htexts, hread]
  constructor
  · rintro ⟨out, hout, rfl⟩
    have hnodup : (out.map Prod.fst).Nodup := by
      have hsame := congrArg (List.map Prod.fst) hout
      rw [List.map_map] at hsame
      exact hsame ▸ (written m).nodup
    refine Dict.ext ?_
    simp only [hout, Dict.map, Dict.entries_ofList_of_nodup hnodup]
  · intro hwritten
    exact ⟨d.entries, by rw [hwritten]; rfl, Dict.ofList_entries d⟩

/-- A map of overrides decodes when its words and the plurals that count are texts. -/
theorem readOverrides_eq_ok_iff :
    readOverrides (.mapping m) = .ok d ↔
      (∀ e ∈ m, overrideText e.1 = .text e.1.display) ∧
        written m = d.map fun _ plural => .text plural :=
  ⟨fun h => ⟨overrideText_of_readOverrides h,
      (readOverrides_iff_of_texts (overrideText_of_readOverrides h)).mp h⟩,
    fun h => (readOverrides_iff_of_texts h.1).mpr h.2⟩

/-- No key that stands after one of the words is written like it. -/
def WrittenOnce (words : List String) (m : List (Value × Value)) : Prop :=
  (m.map Prod.fst).Pairwise fun a b => ∀ word ∈ words, a = .text word → b.display ≠ word

theorem WrittenOnce.put {words : List String} {m : List (Value × Value)} (h : WrittenOnce words m)
    (word : String) (v : Value) : WrittenOnce words (Value.put (.text word) v m) := by
  rw [WrittenOnce, Value.keys_put]
  split
  · exact h
  · rename_i hnew
    have hnew : Value.text word ∉ m.map Prod.fst := by
      intro hmem
      obtain ⟨e, he, hkey⟩ := List.mem_map.mp hmem
      exact hnew (List.any_eq_true.mpr ⟨e, he, Value.sameKey_text_iff.mpr hkey⟩)
    refine List.pairwise_append.mpr ⟨h, by simp, ?_⟩
    intro a ha b hb other _ hother hwritten
    rw [List.mem_singleton.mp hb] at hwritten
    have hsame : word = other := hwritten
    exact hnew (by rwa [hsame, ← hother])

theorem written_put {words : List String} {word : String} (hword : word ∈ words) (v : Value)
    {m : List (Value × Value)} (h : WrittenOnce words m) :
    written (Value.put (.text word) v m) = (written m).insert word (pluralText v) := by
  have hfold (d : Dict Value) :
      ((Value.put (.text word) v m).map fun e => (e.1.display, pluralText e.2)).foldl
          (fun d e => d.insert e.1 e.2) d =
        ((m.map fun e => (e.1.display, pluralText e.2)).foldl
          (fun d e => d.insert e.1 e.2) d).insert word (pluralText v) := by
    induction m generalizing d with
    | nil => rfl
    | cons e r ih =>
      obtain ⟨hbehind, hr⟩ := List.pairwise_cons.mp h
      by_cases he : e.1.sameKey (.text word) = true
      · obtain ⟨k, old⟩ := e
        obtain rfl : k = .text word := Value.sameKey_text_iff.mp he
        have hput : Value.put (.text word) v ((.text word, old) :: r) = (.text word, v) :: r := by
          rw [Value.put, if_pos he]
        -- Behind the word no key is written like it, so the plural that is set here stays.
        have hlater : word ∉ (r.map fun e => (e.1.display, pluralText e.2)).map Prod.fst := by
          rw [List.map_map]
          intro hmem
          obtain ⟨b, hb, hsame⟩ := List.mem_map.mp hmem
          exact hbehind b.1 (List.mem_map_of_mem hb) word hword rfl hsame
        rw [hput]
        exact Dict.foldl_insert_insert hlater d _ _
      · simp only [Value.put, he, List.map_cons, List.foldl_cons]
        exact ih hr _
  exact hfold .empty

/-- An override that is set in a mapping is set in what the mapping decodes to. -/
theorem readOverrides_put {words : List String} {word : String} (hword : word ∈ words)
    (plural : String) {m : List (Value × Value)} (h : WrittenOnce words m) {d : Dict String}
    (hd : readOverrides (.mapping m) = .ok d) :
    readOverrides (.mapping (Value.put (.text word) (.text plural) m)) =
      .ok (d.insert word plural) := by
  obtain ⟨hkeys, hwritten⟩ := readOverrides_eq_ok_iff.mp hd
  refine readOverrides_eq_ok_iff.mpr ⟨fun e he => ?_, ?_⟩
  · have hkey : e.1 ∈ m.map Prod.fst ∨ e.1 = .text word := by
      have hmem := List.mem_map_of_mem (f := Prod.fst) he
      rw [Value.keys_put] at hmem
      split at hmem
      · exact .inl hmem
      · simpa using hmem
    rcases hkey with hkey | hkey
    · obtain ⟨e', he', hsame⟩ := List.mem_map.mp hkey
      exact hsame ▸ hkeys e' he'
    · rw [hkey]
      rfl
  · rw [written_put hword _ h, hwritten, Dict.map_insert]
    rfl

theorem readOverrides_foldl_put {words : List String} {given : List (String × String)}
    (hwords : ∀ e ∈ given, e.1 ∈ words) {m : List (Value × Value)} (h : WrittenOnce words m)
    {d : Dict String} (hd : readOverrides (.mapping m) = .ok d) :
    readOverrides (.mapping (given.foldl (fun m e => Value.put (.text e.1) (.text e.2) m) m)) =
      .ok (given.foldl (fun d e => d.insert e.1 e.2) d) := by
  induction given generalizing m d with
  | nil => exact hd
  | cons e r ih =>
    rw [List.forall_mem_cons] at hwords
    exact ih hwords.2 (h.put e.1 _) (readOverrides_put hwords.1 e.2 h hd)

/-- Assigning another setting leaves the overrides as they are, and takes no notice of them. -/
theorem assign_withOverrides {setting : Setting} (h : setting ≠ .pluralOverrides) (v : Value)
    (s : Settings) (d : Dict String) :
    setting.assign v { s with pluralOverrides := d } =
      (setting.assign v s).map fun s => { s with pluralOverrides := d } := by
  have hdecoded {α : Type} (decoded : Except Decode.Complaint α) (set : α → Settings) :
      Checked.ofComplaint (decoded.map fun x => { set x with pluralOverrides := d }) =
        (Checked.ofComplaint (decoded.map set)).map fun s => { s with pluralOverrides := d } := by
    cases decoded <;> rfl
  cases setting with
  | pluralOverrides => exact absurd rfl h
  | jdlFile => exact hdecoded _ fun x => { s with jdlFile := x }
  | outputFile => exact hdecoded _ fun x => { s with outputFile := x }
  | outputFormat => exact hdecoded _ fun x => { s with askedFormat := some x }
  | payloadMode => exact hdecoded _ fun x => { s with payloadMode := x }
  | force => exact hdecoded _ fun x => { s with force := x }
  | indent => exact hdecoded _ fun x => { s with indent := x }

end Setting

namespace Settings

def assignOne (m : List (Value × Value)) (setting : Setting) (s : Settings) :
    Settings × List Decode.Problem :=
  match setting.key.find? m with
  | none => (s, [])
  | some (spelling, v) =>
    match Checked.below (.key spelling) (setting.assign v s) with
    | .ok s => (s, [])
    | .error found => (s, found)

theorem assignAll_cons (m : List (Value × Value)) (setting : Setting) (r : List Setting)
    (s : Settings) :
    assignAll m (setting :: r) s =
      ((assignAll m r (assignOne m setting s).1).1,
        (assignOne m setting s).2 ++ (assignAll m r (assignOne m setting s).1).2) := by
  rw [assignAll, assignOne]
  cases setting.key.find? m with
  | none => rfl
  | some found =>
    dsimp only
    cases Checked.below (.key found.1) (setting.assign found.2 s) <;> rfl

variable {m m' : List (Value × Value)} {d x : Dict String} {setting : Setting}

theorem assignOne_withOverrides (h : setting ≠ .pluralOverrides)
    (hfind : setting.key.find? m' = setting.key.find? m) (s : Settings) (x : Dict String) :
    assignOne m' setting { s with pluralOverrides := x } =
      ({ (assignOne m setting s).1 with pluralOverrides := x }, (assignOne m setting s).2) := by
  rw [assignOne, assignOne, hfind]
  cases setting.key.find? m with
  | none => rfl
  | some found =>
    dsimp only
    rw [Setting.assign_withOverrides h]
    cases setting.assign found.2 s <;> rfl

/-- Assigning the overrides changes nothing else. -/
theorem assignOne_pluralOverrides (m : List (Value × Value)) (s : Settings) (x : Dict String) :
    { (assignOne m .pluralOverrides s).1 with pluralOverrides := x } =
      { s with pluralOverrides := x } := by
  rw [assignOne]
  cases Setting.pluralOverrides.key.find? m with
  | none => rfl
  | some found =>
    dsimp only [Setting.assign]
    cases Setting.readOverrides found.2 <;> rfl

/-- A mapping gives overrides: those that it holds, or without any those that were there. -/
def GivesOverrides (m : List (Value × Value)) (d x : Dict String) : Prop :=
  (∃ spelling v, Setting.pluralOverrides.key.find? m = some (spelling, v) ∧
    Setting.readOverrides v = .ok d) ∨ Setting.pluralOverrides.key.find? m = none ∧ x = d

theorem GivesOverrides.assignOne (h : GivesOverrides m d x) (s : Settings) :
    assignOne m .pluralOverrides { s with pluralOverrides := x } =
      ({ s with pluralOverrides := d }, []) := by
  rw [Settings.assignOne]
  rcases h with ⟨spelling, v, hfind, hv⟩ | ⟨hfind, rfl⟩
  · simp [hfind, Setting.assign, hv, Except.map]
  · rw [hfind]

/-- Two mappings that differ in their overrides assign the same to all other settings. -/
theorem assignAll_withOverrides
    (hothers : ∀ setting : Setting, setting ≠ .pluralOverrides →
      setting.key.find? m' = setting.key.find? m)
    (hown : GivesOverrides m' d x) {l : List Setting} {s : Settings}
    (h : (assignAll m l s).2 = []) :
    assignAll m' l { s with pluralOverrides := x } =
      ({ (assignAll m l s).1 with
          pluralOverrides := if Setting.pluralOverrides ∈ l then d else x }, []) := by
  induction l generalizing s x with
  | nil => simp [assignAll]
  | cons setting r ih =>
    rw [assignAll_cons, List.append_eq_nil_iff] at h
    rw [assignAll_cons, assignAll_cons]
    by_cases hsetting : setting = .pluralOverrides
    · subst hsetting
      have hagain : GivesOverrides m' d d := hown.imp_right fun hnone => ⟨hnone.1, rfl⟩
      rw [hown.assignOne, ← assignOne_pluralOverrides m s d, ih hagain h.2]
      simp
    · rw [assignOne_withOverrides hsetting (hothers setting hsetting), h.1, ih hown h.2]
      simp [Ne.symm hsetting]

end Settings

end EntitySchema
