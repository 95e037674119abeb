import EntitySchema.Check.Basic

/-! All checks of a schema and its settings in one run, with their log. -/
namespace EntitySchema.Check

def checkSource : String := "jdlschema.validators"

/-- The checks of a schema, in the order of their run, with the names that the log has for them. -/
def schemaChecks : List (String × (Schema → List Issue)) := [
  ("validate_entity_ids", entityIds),
  ("validate_entity_names", entityNames),
  ("validate_field_names", fieldNames),
  ("validate_relationship_targets", relationshipTargets),
  ("validate_inverse_links", inverseLinks),
  ("validate_enums", enums)]

def schema (s : Schema) : List Issue := schemaChecks.flatMap fun check => check.2 s

def full (s : Schema) (settings : Settings) : List Issue :=
  schema s ++ overrides settings ++ overrideWords s settings

def passes (s : Schema) (settings : Settings) : Bool :=
  (diagnostics (full s settings)).isValid

def fullLog (s : Schema) (settings : Settings) : Log :=
  let note (level : LogLevel) (message : String) : LogEntry := ⟨level, checkSource, message⟩
  let ofSchema := diagnostics (schema s)
  let ofSettings := diagnostics (overrides settings)
  let all := diagnostics (full s settings)
  let verdict := if all.hasErrors then
      note .error ("Validation FAILED with " ++ toString all.errors.length ++ " error(s). " ++
        all.summary)
    else note .info ("Validation PASSED. " ++ all.summary)
  note .info ("Starting full validation — " ++ toString s.entities.size ++ " entities, " ++
      toString s.enums.size ++ " enums.") ::
    (schemaChecks.map fun check => note .debug ("Running validator: " ++ check.1)) ++
    [note .info ("Schema validation complete: " ++ ofSchema.summary),
      note .info ("Config validation complete: " ++ ofSettings.summary), verdict]

end EntitySchema.Check
