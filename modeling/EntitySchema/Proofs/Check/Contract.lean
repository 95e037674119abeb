import EntitySchema.Proofs.Compile.Gate

/-! The verdict of the schema checks beside what renderers rely on. On every schema, parsed or built
by hand, the two agree but for names with a line feed behind them, which the check of names lets
pass (`isValid_schema_iff`). -/
namespace EntitySchema.Check

open Compile (IsAsciiIdentifier)

/-- What renderers rely on in a schema; `IsNamed` is what they take for the name of a field. -/
structure Contract (IsNamed : String → Prop) (s : Schema) : Prop where
  oneId : ∀ e ∈ s.entities.entries, ∃ f, e.2.filter (Text.lowered ·.name = "id") = [f]
  distinct : ∀ e ∈ s.entities.entries, (e.2.map Field.name).Nodup
  named : ∀ e ∈ s.entities.entries, ∀ f ∈ e.2, IsNamed f.name
  related : ∀ e ∈ s.entities.entries, ∀ f ∈ e.2, f.isRelationship = true →
    f.cardinality ≠ none ∧ ∃ target ∈ s.entities.keys, target ≠ "" ∧ f.target = some target
  valued : ∀ e ∈ s.enums.entries, e.2 ≠ []

/-- What the check of names lets pass: an identifier, also one with a line feed behind it. -/
def IsLetPass (name : String) : Prop :=
  IsAsciiIdentifier name ∨ ∃ i, IsAsciiIdentifier i ∧ name = i ++ "\n"

theorem isDeclared_iff (s : Schema) (target : Option String) :
    isDeclared s target = true ↔ ∃ t ∈ s.entities.keys, t ≠ "" ∧ target = some t := by
  cases target with
  | none => simp [isDeclared]
  | some t => simp [isDeclared, and_comm]

theorem passing_iff (s : Schema) : Passing s ↔
    Contract (fun name => isIdentifier (Text.withoutLastFeed name.toList) = true) s := by
  constructor
  · intro h
    refine ⟨fun e he => (Compile.countP_isId_eq_one_iff e.2).mp (h.ids e he), h.distinct,
      h.identifiers, ?_, h.enums⟩
    intro e he f hf hrel
    obtain ⟨hc, ht⟩ := h.targets e he f hf hrel
    exact ⟨Option.isSome_iff_ne_none.mp hc, (isDeclared_iff s f.target).mp ht⟩
  · intro h
    refine ⟨fun e he => (Compile.countP_isId_eq_one_iff e.2).mpr (h.oneId e he), h.distinct,
      h.named, ?_, h.valued⟩
    intro e he f hf hrel
    obtain ⟨hc, ht⟩ := h.related e he f hf hrel
    exact ⟨Option.isSome_iff_ne_none.mpr hc, (isDeclared_iff s f.target).mpr ht⟩

/-- An identifier has no line feed behind it. -/
theorem getLast?_ne_of_isAsciiIdentifier {name : String} (h : IsAsciiIdentifier name) :
    name.toList.getLast? ≠ some '\n' := by
  obtain ⟨c, r, hname, hc, hr⟩ := h
  intro hlast
  have hmem := List.mem_of_getLast? hlast
  rw [hname, List.mem_cons] at hmem
  rcases hmem with rfl | hmem
  · exact absurd hc (by decide)
  · exact absurd (hr '\n' hmem) (by decide)

theorem isIdentifier_withoutLastFeed_iff (name : String) :
    isIdentifier (Text.withoutLastFeed name.toList) = true ↔ IsLetPass name := by
  by_cases hfeed : name.toList.getLast? = some '\n'
  · obtain ⟨i, hi⟩ := List.getLast?_eq_some_iff.mp hfeed
    have hname : name = String.ofList i ++ "\n" := by
      rw [← String.toList_inj, String.toList_append, String.toList_ofList, hi]
      rfl
    have hcut : Text.withoutLastFeed name.toList = (String.ofList i).toList := by
      rw [Text.withoutLastFeed, if_pos hfeed, hi, List.dropLast_concat, String.toList_ofList]
    rw [hcut, Compile.isIdentifier_iff]
    constructor
    · exact fun h => .inr ⟨_, h, hname⟩
    · rintro (h | ⟨j, hj, hsame⟩)
      · exact absurd hfeed (getLast?_ne_of_isAsciiIdentifier h)
      · rw [hname, String.append_left_inj] at hsame
        rwa [hsame]
  · rw [Text.withoutLastFeed, if_neg hfeed, Compile.isIdentifier_iff]
    refine (or_iff_left ?_).symm
    rintro ⟨i, -, rfl⟩
    simp at hfeed

theorem isValid_schema (s : Schema) : (diagnostics (schema s)).isValid = passes s {} := by
  have hfull : full s {} = schema s := by
    simp [full, overrides, overrideWords, Dict.empty, Dict.keys]
  rw [passes, hfull]

/-- The checks of a schema find no error just when it is what renderers rely on, names with a line
feed behind them included; what they rely on with whole identifiers for names is the same without
those. -/
theorem isValid_schema_iff (s : Schema) :
    ((diagnostics (schema s)).isValid = true ↔ Contract IsLetPass s) ∧
      (Contract IsAsciiIdentifier s ↔ (diagnostics (schema s)).isValid = true ∧
        ∀ e ∈ s.entities.entries, ∀ f ∈ e.2, f.name.toList.getLast? ≠ some '\n') := by
  have hpass : (fun name : String => isIdentifier (Text.withoutLastFeed name.toList) = true) =
      IsLetPass := funext fun name => propext (isIdentifier_withoutLastFeed_iff name)
  have hvalid : (diagnostics (schema s)).isValid = true ↔ Contract IsLetPass s := by
    rw [isValid_schema, passes_iff, passing_iff, hpass]
  refine ⟨hvalid, ?_⟩
  rw [hvalid]
  constructor
  · intro h
    exact ⟨⟨h.oneId, h.distinct, fun e he f hf => .inl (h.named e he f hf), h.related, h.valued⟩,
      fun e he f hf => getLast?_ne_of_isAsciiIdentifier (h.named e he f hf)⟩
  · rintro ⟨h, hfeed⟩
    refine ⟨h.oneId, h.distinct, ?_, h.related, h.valued⟩
    intro e he f hf
    refine (h.named e he f hf).resolve_right ?_
    rintro ⟨i, -, hname⟩
    exact hfeed e he f hf (by simp [hname])

/-- A schema built by hand, with a line feed behind the name of a field. -/
def fedSchema : Schema where
  entities :=
    .ofList [("A", [Field.id, { Field.id with name := "a\n", name_ne_empty := by decide }])]
  enums := .empty

theorem fedSchema_isValid :
    (diagnostics (schema fedSchema)).isValid = true ∧ ¬Contract IsAsciiIdentifier fedSchema := by
  have hlast : ∃ e ∈ fedSchema.entities.entries, ∃ f ∈ e.2, f.name.toList.getLast? = some '\n' := by
    decide +kernel
  refine ⟨by decide +kernel, fun h => ?_⟩
  obtain ⟨e, he, f, hf, hlast⟩ := hlast
  exact getLast?_ne_of_isAsciiIdentifier (h.named e he f hf) hlast

end EntitySchema.Check
