import EntitySchema.Proofs.Noun.Override
import EntitySchema.Proofs.Value.Entries

/-! Configurations without halves of surrogate pairs. As the configuration of a run, settings are
shown as they are (`shown_configuration`) and give the document that is theirs
(`document_configuration`). -/
namespace EntitySchema

namespace Text.Loose

@[simp] theorem fill_ofString (stand : Fin 2048 → List Char) (s : String) :
    (ofString s).fill stand = s := by
  simp [fill, ofString, ofChars, List.flatMap_map]

@[simp] theorem shown_ofString (s : String) : (ofString s).shown = s := fill_ofString _ s

@[simp] theorem fileName_ofString (s : String) : (ofString s).fileName = s := fill_ofString _ s

@[simp] theorem isWhole_ofString (s : String) : (ofString s).isWhole = true := by
  simp [isWhole, ofString, ofChars, CodePoint.isChar]

@[simp] theorem ofString_eq_nil_iff {s : String} : ofString s = [] ↔ s = "" := by
  simp [ofString, ofChars]

theorem ofString_beq (s t : String) : (ofString s == ofString t) = (s == t) := by
  rw [Bool.eq_iff_iff, beq_iff_eq, beq_iff_eq, ofString_inj]

theorem mapRuns_ofChars (f : List Char → List Char) (run s : List Char) :
    mapRuns f run (ofChars s) = ofChars (f (run.reverse ++ s)) := by
  induction s generalizing run with
  | nil => simp [mapRuns, ofChars]
  | cons c r ih => simpa [mapRuns, ofChars] using ih (c :: run)

theorem lower_ofString (s : String) : (ofString s).lower = ofString (lowered s) := by
  simp [lower, ofString, mapRuns_ofChars, lowered]

end Text.Loose

@[simp] theorem Value.ofLoose_ofString (s : String) : Value.ofLoose (.ofString s) = .text s := by
  have hcodes : (Text.Loose.ofString s).map Text.CodePoint.number = s.toList.map Char.toNat := by
    simp [Text.Loose.ofString, Text.Loose.ofChars, Text.CodePoint.number]
  have hvalid (c : Char) : Nat.isValidChar c.toNat := c.valid
  simp [Value.ofLoose, hcodes, Value.ofCodes, hvalid, Function.comp_def, Char.ofNat_toNat]

namespace Settings

open Text (Loose)

variable (s : Settings)

@[simp] theorem shown_configuration : s.configuration.shown = s := by
  simp [Configuration.shown, configuration, Function.comp_def, Dict.ofList_entries]

@[simp] theorem format_configuration : s.configuration.format = s.format := rfl

@[simp] theorem isEncodable_configuration : s.configuration.isEncodable = true := by
  simp [Configuration.isEncodable, configuration]

theorem output?_configuration : s.configuration.output? = s.output?.map Loose.ofString := by
  cases h : s.outputFile with
  | none => simp [Configuration.output?, configuration, output?, h]
  | some output =>
    by_cases hempty : output = "" <;>
      simp [Configuration.output?, configuration, output?, h, hempty, Option.filter]

theorem output?_configuration_eq_none {s : Settings} (h : s.output? = none) :
    s.configuration.output? = none := by
  rw [s.output?_configuration, h, Option.map_none]

theorem output?_configuration_eq_some {s : Settings} {output : String}
    (h : s.output? = some output) : s.configuration.output? = some (.ofString output) := by
  rw [s.output?_configuration, h, Option.map_some]

theorem override?_configuration (entity : String) : s.configuration.override? entity =
    (Noun.deciding? s.pluralOverrides entity).map fun e => Loose.ofString e.2 := by
  have hoverrides : s.configuration.overrides =
      s.pluralOverrides.entries.map fun e => (Loose.ofString e.1, Loose.ofString e.2) := rfl
  have hfind (p : Loose → Bool) (q : String → Bool) (h : ∀ t, p (.ofString t) = q t) :
      (s.configuration.overrides.filter fun o => o.2 != []).find? (fun o => p o.1) =
        (s.pluralOverrides.entries.find? fun e => e.2 != "" && q e.1).map
          fun e => (Loose.ofString e.1, Loose.ofString e.2) := by
    rw [List.find?_filter, hoverrides, List.find?_map]
    congr 2
    funext e
    simp [h, Bool.beq_eq_decide_eq, bne]
  have hexact := hfind (· == .ofString entity) (· == entity) fun t => by
    rw [Loose.ofString_beq]
  have hany := hfind (·.lower == (Loose.ofString entity).lower)
    (Text.lowered · == Text.lowered entity) fun t => by
      rw [Loose.lower_ofString, Loose.lower_ofString, Loose.ofString_beq]
  simp only [Configuration.override?, hexact, hany]
  rw [Option.orElse_eq_orElse, Option.orElse_eq_or, ← Option.map_or, Option.map_map]
  rfl

theorem resourcePath_configuration (entity : String) : s.configuration.resourcePath entity =
    .ofString (Schema.resourcePath s.pluralOverrides entity) := by
  have happend (a b : String) : Loose.ofString (a ++ b) = Loose.ofString a ++ Loose.ofString b := by
    simp [Loose.ofString, Loose.ofChars]
  rw [Configuration.resourcePath, override?_configuration, Noun.resourcePath_eq, happend]
  cases Noun.deciding? s.pluralOverrides entity with
  | some e => simp [Loose.lower_ofString]
  | none => simp [Loose.ofString, Noun.resource, Noun.overridden?, Noun.plural]

theorem document_configuration (schema : Schema) :
    s.configuration.document schema = schema.document s := by
  have hoverrides : s.configuration.overrides =
      s.pluralOverrides.entries.map fun e => (Loose.ofString e.1, Loose.ofString e.2) := rfl
  have hmode : s.configuration.payloadMode = s.payloadMode := rfl
  simp [Configuration.document, Schema.document, resourcePath_configuration, hoverrides, hmode,
    Schema.resources, Function.comp_def, Value.ofDictEntries]

end Settings

end EntitySchema
