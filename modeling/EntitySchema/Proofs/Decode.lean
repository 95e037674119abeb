import EntitySchema.Decode.Record
import EntitySchema.Proofs.Value.Entries
import EntitySchema.Schema.Cardinality

/-! Successful decoding. Each way to put decoders together succeeds exactly when its parts do
(`Checked.ap_eq_ok_iff`, `Checked.mapAll_eq_ok_iff`), and a key of a mapping decodes to what its value
does (`Key.decode_of_lookup`). -/
namespace EntitySchema.Decode

variable {α β : Type}

namespace Checked

@[simp] theorem below_ok (step : Step) (a : α) : below step (.ok a) = (.ok a : Checked α) := rfl

@[simp] theorem ofComplaint_ok (a : α) : ofComplaint (.ok a) = (.ok a : Checked α) := rfl

theorem ap_eq_ok_iff {f : Checked (α → β)} {a : Checked α} {b : β} :
    ap f a = .ok b ↔ ∃ g x, f = .ok g ∧ a = .ok x ∧ g x = b := by
  cases f <;> cases a <;> simp [ap]

theorem below_eq_ok_iff {step : Step} {a : Checked α} {b : α} :
    below step a = .ok b ↔ a = .ok b := by
  cases a <;> simp [below, Except.mapError]

theorem ofComplaint_eq_ok_iff {a : Except Complaint α} {b : α} :
    ofComplaint a = .ok b ↔ a = .ok b := by
  cases a <;> simp [ofComplaint]

theorem map_eq_ok_iff {ε : Type} {f : α → β} {a : Except ε α} {b : β} :
    a.map f = .ok b ↔ ∃ x, a = .ok x ∧ f x = b := by
  cases a <;> simp [Except.map]

theorem guard_nil (a : Checked α) : guard a [] = a := by
  cases a with
  | error p => simp [guard]
  | ok a => rfl

variable {f : α → Checked β} {l : List α} {out : List β}

theorem mapAll_eq_ok_iff : mapAll f l = .ok out ↔ l.map f = out.map .ok := by
  induction l generalizing out with
  | nil => cases out <;> simp [mapAll]
  | cons a r ih =>
    cases out with
    | nil => simp [mapAll, ap_eq_ok_iff, map_eq_ok_iff]
    | cons b out => simp [mapAll, ap_eq_ok_iff, map_eq_ok_iff, ← ih]

theorem mapAll_map {γ : Type} {f : β → Checked γ} {enc : α → β} {g : α → γ}
    (h : ∀ a ∈ l, f (enc a) = .ok (g a)) : mapAll f (l.map enc) = .ok (l.map g) := by
  rw [mapAll_eq_ok_iff, List.map_map, List.map_map]
  exact List.map_congr_left h

/-- Where each member decodes to what it encodes alone, a list decodes to what its members encode. -/
theorem map_eq_map_ok_iff {enc : β → α} (h : ∀ a ∈ l, ∀ b, f a = .ok b ↔ a = enc b) :
    l.map f = out.map .ok ↔ l = out.map enc := by
  induction l generalizing out with
  | nil => cases out <;> simp
  | cons a r ih =>
    rw [List.forall_mem_cons] at h
    cases out with
    | nil => simp
    | cons b out => simp [h.1, ih h.2]

end Checked

/-- The value of a key under its first spelling, or else under its second. -/
theorem Key.find?_text (k : Key) (l : List (String × Value)) :
    k.find? (l.map fun e => (.text e.1, e.2)) =
      ((l.lookup k.camel).map (k.camel, ·)).or ((l.lookup k.name).map (k.name, ·)) := by
  simp only [Key.find?, Key.spellings, List.findSome?_cons, List.findSome?_nil, Value.find?_text]
  cases l.lookup k.camel <;> cases l.lookup k.name <;> rfl

theorem extras_eq_nil_of_find? {keys : List Key} {l : List (String × Value)}
    (h : ∀ e ∈ l, ∃ k ∈ keys,
      (k.find? (l.map fun e => (.text e.1, e.2))).map (·.1) = some e.1) :
    extras keys (l.map fun e => (.text e.1, e.2)) = [] := by
  rw [extras, List.filterMap_eq_nil_iff]
  intro e he
  obtain ⟨e, hmem, rfl⟩ := List.mem_map.mp he
  have hused := List.mem_filterMap.mpr (h e hmem)
  simp only [List.contains_iff_mem.mpr hused, if_true]

theorem extras_eq_nil {keys : List Key} {l : List (String × Value)}
    (h : ∀ e ∈ l, ∃ k ∈ keys, k.camel = e.1) :
    extras keys (l.map fun e => (.text e.1, e.2)) = [] := by
  refine extras_eq_nil_of_find? fun e he => ?_
  obtain ⟨k, hk, hcamel⟩ := h e he
  obtain ⟨v, hv⟩ := Option.isSome_iff_exists.mp
    ((lookup_isSome_iff k.camel l).mpr (List.mem_map.mpr ⟨e, he, hcamel.symm⟩))
  exact ⟨k, hk, by rw [Key.find?_text, hv, ← hcamel]; rfl⟩

theorem Key.decode_of_lookup {k : Key} {l : List (String × Value)} {default : Option α}
    {f : Scalar α} {v : Value} {a : α} (hl : l.lookup k.camel = some v) (hf : f v = .ok a) :
    k.decode (l.map fun e => (.text e.1, e.2)) default f = .ok a := by
  have hfind : k.find? (l.map fun e => (.text e.1, e.2)) = some (k.camel, v) := by
    rw [Key.find?_text, hl]
    rfl
  simp only [Key.decode, hfind, hf, Checked.ofComplaint_ok, Checked.below_ok]

theorem Key.decode_optional {k : Key} {l : List (String × Value)} {f : Scalar (Option α)}
    {enc : α → Value} {o : Option α} (hl : l.lookup k.camel = o.map enc)
    (hs : l.lookup k.name = none) (hf : ∀ a, f (enc a) = .ok (some a)) :
    k.decode (l.map fun e => (.text e.1, e.2)) (some none) f = .ok o := by
  cases o with
  | none =>
    have hfind : k.find? (l.map fun e => (.text e.1, e.2)) = none := by
      rw [Key.find?_text, hl, hs]
      rfl
    simp only [Key.decode, hfind]
  | some a => exact Key.decode_of_lookup hl (hf a)

theorem flag_bool (b : Bool) : flag (.bool b) = .ok b := rfl

theorem optional_flag (b : Bool) : optional flag (.bool b) = .ok (some b) := rfl

theorem optional_text (s : String) : optional text (.text s) = .ok (some s) := rfl

theorem optional_cardinality (c : Cardinality) :
    optional (choice Cardinality.name Cardinality.all) (.text c.name) = .ok (some c) := by
  cases c <;> rfl

end EntitySchema.Decode
