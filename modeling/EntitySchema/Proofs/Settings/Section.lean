import EntitySchema.Proofs.Settings.Merge
import EntitySchema.Proofs.Text.Ascii
import Mathlib.Tactic.SplitIfs

/-! The section of a configuration beneath its top level. The entries for one setting are laid over
those of the section among themselves (`entriesFor_flatten`). A setting at the top level therefore
keeps its value unless the section has the setting in the same spelling and in the other one behind it
(`get?_normalize_flatten`). -/
namespace EntitySchema

open Number (Binary64)

namespace Setting

variable {s : String} {setting : Setting}

theorem isAlpha_of_mem_spelling (h : ofSpelling? s = some setting) :
    ∀ c ∈ s.toList, (c.isAlpha || c == '_') = true := by
  have hs : s ∈ setting.key.spellings := List.contains_iff_mem.mp
    (List.find?_some (p := fun t : Setting => t.key.spellings.contains s) h)
  have hall : ∀ setting ∈ all, ∀ s ∈ setting.key.spellings,
      s.toList.all (fun c => c.isAlpha || c == '_') = true := by decide
  exact List.all_eq_true.mp (hall setting (List.mem_of_find?_eq_some h) s hs)

theorem ofSpelling?_of_mem {c : Char} (hc : c ∈ s.toList)
    (h : (c.isAlpha || c == '_') = false) : ofSpelling? s = none := by
  cases hs : ofSpelling? s with
  | none => rfl
  | some setting =>
    rw [isAlpha_of_mem_spelling hs c hc] at h
    cases h

theorem isAlpha_of_isDigit {c : Char} (h : c.isDigit = true) :
    (c.isAlpha || c == '_') = false := by
  have hascii : c.toNat < 128 := Text.ascii_of_isAlphanum (by rw [Char.isAlphanum, h, Bool.or_true])
  exact Text.forall_ascii (P := fun c => c.isDigit = true → (c.isAlpha || c == '_') = false)
    (by decide) hascii h

theorem exists_digit (n : Nat) : ∃ c ∈ n.repr.toList, c.isDigit = true := by
  obtain ⟨c, hc⟩ := List.exists_mem_of_ne_nil _ (Nat.toDigits_ne_nil (n := n) (b := 10))
  exact ⟨c, by simpa [Nat.repr] using hc, Nat.isDigit_of_mem_toDigits (by decide) (by decide) hc⟩

theorem ofSpelling?_int (n : Int) : ofSpelling? (toString n) = none := by
  have hdigit : ∃ c ∈ (toString n).toList, c.isDigit = true := by
    cases n with
    | ofNat n => exact exists_digit n
    | negSucc n =>
      obtain ⟨c, hc, hdigit⟩ := exists_digit (n + 1)
      have htext : (toString (Int.negSucc n)).toList = "-".toList ++ (n + 1).repr.toList :=
        String.toList_append ..
      exact ⟨c, htext ▸ List.mem_append_right _ hc, hdigit⟩
  obtain ⟨c, hc, hdigit⟩ := hdigit
  exact ofSpelling?_of_mem hc (isAlpha_of_isDigit hdigit)

theorem ofSpelling?_float (x : Binary64) : ofSpelling? x.text = none := by
  -- A number is written with a point or with the sign of its exponent, if it is one of the finite.
  have hmark : x.text ∈ ["nan", "inf", "-inf"] ∨
      ∃ c ∈ x.text.toList, (c.isAlpha || c == '_') = false := by
    unfold Binary64.text
    dsimp only
    generalize hsign : (if x.negative = true then "-" else "") = sign
    by_cases hnan : x.isNaN = true
    · rw [if_pos hnan]
      exact .inl (by simp)
    rw [if_neg hnan]
    cases x.magnitude? with
    | none =>
      left
      subst hsign
      dsimp only
      split
      · decide
      · decide
    | some v =>
      right
      dsimp only
      split_ifs with hzero hpoint hsmall hwhole hexponent
      · exact ⟨'.', by simp, rfl⟩
      · exact ⟨'.', by simp, rfl⟩
      · exact ⟨'.', by simp, rfl⟩
      · exact ⟨'.', by simp, rfl⟩
      · exact ⟨'-', by simp, rfl⟩
      · exact ⟨'+', by simp, rfl⟩
  rcases hmark with h | ⟨c, hmem, hc⟩
  · exact (by decide : ∀ s ∈ ["nan", "inf", "-inf"], ofSpelling? s = none) _ h
  · exact ofSpelling?_of_mem hmem hc

theorem ofSpelling?_moment (m : Moment) : ofSpelling? m.text = none := by
  apply ofSpelling?_of_mem (c := '-') _ (by decide)
  simp [Moment.text, Date.text]

theorem ofSpelling?_pair (a b : Value) : ofSpelling? (Value.pair a b).display = none := by
  apply ofSpelling?_of_mem (c := '(') _ (by decide)
  simp [Value.display, Value.literal, Value.literalWithin]

/-- A key for a setting is like no key but itself. -/
theorem eq_of_sameKey {k l : Value} (hk : setting.isKey k = true) (h : k.sameKey l = true) :
    k = l := by
  have hsame : k = l ∨ ofSpelling? k.display = none := by
    cases k with
    | null => exact .inr (by decide)
    | bool b => exact .inr (by cases b <;> decide)
    | int n => exact .inr (ofSpelling?_int n)
    | float x => exact .inr (ofSpelling?_float x)
    | moment m => exact .inr (ofSpelling?_moment m)
    | pair a b => exact .inr (ofSpelling?_pair a b)
    | text s => cases l <;> simp_all [Value.sameKey, Value.sameKey.integer?]
    | broken codes => cases l <;> simp_all [Value.sameKey, Value.sameKey.integer?]
    | bytes b => cases l <;> simp_all [Value.sameKey, Value.sameKey.integer?]
    | date d => cases l <;> simp_all [Value.sameKey, Value.sameKey.integer?]
    | list items => cases l <;> simp [Value.sameKey, Value.sameKey.integer?] at h
    | set members => cases l <;> simp [Value.sameKey, Value.sameKey.integer?] at h
    | mapping entries => cases l <;> simp [Value.sameKey, Value.sameKey.integer?] at h
    | knot number v => cases l <;> simp [Value.sameKey, Value.sameKey.integer?] at h
  refine hsame.resolve_right fun hnone => ?_
  rw [isKey_iff, hnone] at hk
  cases hk

end Setting

namespace Value

variable {α : Type} {k : Value} {m : List (Value × α)} {p : Value → Bool}

theorem filter_put_of_true (h : ∀ e ∈ m, e.1.sameKey k = true → p e.1 = true) (hk : p k = true)
    (v : α) : (put k v m).filter (p ·.1) = put k v (m.filter (p ·.1)) := by
  induction m with
  | nil => simp [put, hk]
  | cons e r ih =>
    rw [List.forall_mem_cons] at h
    by_cases hsame : e.1.sameKey k = true
    · simp [put, hsame, h.1 hsame]
    · by_cases he : p e.1 = true
      · simp [put, hsame, he, ih h.2]
      · simp [put, hsame, he, ih h.2]

theorem filter_put_of_false (h : ∀ e ∈ m, e.1.sameKey k = true → p e.1 = false)
    (hk : p k = false) (v : α) : (put k v m).filter (p ·.1) = m.filter (p ·.1) := by
  induction m with
  | nil => simp [put, hk]
  | cons e r ih =>
    rw [List.forall_mem_cons] at h
    by_cases hsame : e.1.sameKey k = true
    · simp [put, hsame, h.1 hsame]
    · simp [put, hsame, List.filter_cons, ih h.2]

/-- The last entry after a key is set: the last of those behind the key, or else its own. -/
theorem getLast?_put (k : Value) (v : α) (m : List (Value × α)) :
    (put k v m).getLast?.map (·.2) =
      some (((m.dropWhile fun e => !e.1.sameKey k).tail.getLast?.map (·.2)).getD v) := by
  induction m with
  | nil => rfl
  | cons e r ih =>
    by_cases hsame : e.1.sameKey k = true
    · rw [put, if_pos hsame, List.getLast?_cons]
      cases hlast : r.getLast? <;> simp [hsame, hlast]
    · have hne : put k v r ≠ [] := by
        rintro hnil
        rw [hnil] at ih
        cases ih
      rw [put, if_neg hsame, List.getLast?_cons_of_ne_nil hne, ih]
      simp [hsame]

end Value

namespace Settings

def sectionEntries (raw : List (Value × Value)) : List (Value × Value) :=
  match (Value.find? (.text "project") raw).map Value.untied with
  | some (.mapping m) => m
  | _ => []

def topEntries (raw : List (Value × Value)) : List (Value × Value) :=
  raw.filter fun e => !match e.1 with
    | .text s => s == "project"
    | _ => false

theorem flatten_eq (raw : List (Value × Value)) :
    flatten raw = (topEntries raw).foldl (fun m e => Value.put e.1 e.2 m) (sectionEntries raw) :=
  rfl

variable {setting : Setting} {spelling : String} {v : Value} {raw : List (Value × Value)}

/-- The section is no setting. -/
theorem entriesFor_topEntries (setting : Setting) (raw : List (Value × Value)) :
    entriesFor setting (topEntries raw) = entriesFor setting raw := by
  rw [entriesFor, topEntries, List.filter_filter]
  refine List.filter_congr fun e _ => ?_
  cases hkey : setting.isKey e.1 with
  | false => rfl
  | true =>
    rw [Bool.true_and]
    split
    · rename_i s htext
      rw [htext, Setting.isKey_iff] at hkey
      have hs : s ≠ "project" := by
        rintro rfl
        exact absurd hkey (by cases setting <;> decide)
      simp [hs]
    · rfl

theorem entriesFor_foldl_put {top m : List (Value × Value)}
    (htext : ∀ e ∈ entriesFor setting top, ∃ s, e.1 = .text s) :
    entriesFor setting (top.foldl (fun m e => Value.put e.1 e.2 m) m) =
      (entriesFor setting top).foldl (fun m e => Value.put e.1 e.2 m) (entriesFor setting m) := by
  induction top generalizing m with
  | nil => rfl
  | cons e r ih =>
    rw [entriesFor_cons] at htext ⊢
    by_cases hown : setting.isKey e.1 = true
    · rw [if_pos hown, List.forall_mem_cons] at htext
      obtain ⟨⟨s, hs⟩, hr⟩ := htext
      have hput : entriesFor setting (Value.put e.1 e.2 m) =
          Value.put e.1 e.2 (entriesFor setting m) := by
        refine Value.filter_put_of_true (p := setting.isKey) (fun d _ hd => ?_) hown e.2
        rw [hs, Value.sameKey_text_iff] at hd
        rwa [hd, ← hs]
      rw [if_pos hown, List.foldl_cons, List.foldl_cons, ih hr, hput]
    · rw [if_neg hown] at htext
      have hput : entriesFor setting (Value.put e.1 e.2 m) = entriesFor setting m := by
        refine Value.filter_put_of_false (p := setting.isKey) (fun d _ hd => ?_)
          (Bool.not_eq_true _ ▸ hown) e.2
        rw [← Bool.not_eq_true]
        exact fun hkey => hown (Setting.eq_of_sameKey hkey hd ▸ hkey)
      rw [if_neg hown, List.foldl_cons, ih htext, hput]

/-- A setting at the top level is set in what the section has for it. -/
theorem entriesFor_flatten (h : entriesFor setting raw = [(.text spelling, v)]) :
    entriesFor setting (flatten raw) =
      Value.put (.text spelling) v (entriesFor setting (sectionEntries raw)) := by
  rw [← entriesFor_topEntries] at h
  rw [flatten_eq, entriesFor_foldl_put, h]
  · rfl
  · rw [h]
    exact List.forall_mem_singleton.mpr ⟨spelling, rfl⟩

/-- The value that a section has for a setting behind a key for it: the last one under a key that
follows. -/
def behind? (setting : Setting) (spelling : String) (nested : List (Value × Value)) :
    Option Value :=
  let fromSpelling := (entriesFor setting nested).dropWhile fun e => !e.1.sameKey (.text spelling)
  fromSpelling.tail.getLast?.map (·.2)

/-- A setting that the top level has under one of its spellings only has the value of the top level,
unless the section has the same spelling as well and a key for the setting behind it: then it has the
value of that. -/
theorem get?_normalize_flatten (h : entriesFor setting raw = [(.text spelling, v)]) :
    (normalize (flatten raw)).1.get? setting.name =
      some ((behind? setting spelling (sectionEntries raw)).getD v) := by
  rw [get?_normalize, entriesFor_flatten h, Value.getLast?_put]
  rfl

/-- One spelling in the section gives way to the other at the top level. -/
theorem get?_normalize_flatten_one :
    let raw : List (Value × Value) :=
      [(.text "project", .mapping [(.text "output_file", .text "b")]),
        (.text "outputFile", .text "x")]
    entriesFor .outputFile raw = [(.text "outputFile", .text "x")] ∧
      (normalize (flatten raw)).1.get? Setting.outputFile.name = some (.text "x") := by
  intro raw
  have h : entriesFor .outputFile raw = [(.text "outputFile", .text "x")] := rfl
  exact ⟨h, get?_normalize_flatten h⟩

/-- With both spellings in the section, the second outlives the top level. -/
theorem section_outlives_top :
    let nested : List (Value × Value) :=
      [(.text "outputFile", .text "a"), (.text "output_file", .text "b")]
    let raw : List (Value × Value) :=
      [(.text "project", .mapping nested), (.text "outputFile", .text "x")]
    entriesFor .outputFile raw = [(.text "outputFile", .text "x")] ∧
      (normalize (flatten raw)).1.get? Setting.outputFile.name = some (.text "b") :=
  ⟨rfl, rfl⟩

end Settings

end EntitySchema
