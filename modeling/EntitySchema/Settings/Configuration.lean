import EntitySchema.Settings.Basic
import EntitySchema.Text.Loose

/-! Settings whose texts may hold halves of surrogate pairs. Compilation takes them as they are;
where texts are shown, they are settings like others. Settings that are loaded from files have no
halves. -/
namespace EntitySchema

open Text (Loose)

structure Configuration where
  jdlFile : Option Loose := none
  outputFile : Option Loose := none
  askedFormat : Option Format := none
  /-- Words with their plurals, no word twice. -/
  overrides : List (Loose × Loose) := []
  distinct : (overrides.map Prod.fst).Nodup := by exact List.nodup_nil
  payloadMode : PayloadMode := .idOnly
  force : Bool := false
  indent : Fin 9 := usualIndent
  deriving Repr

namespace Configuration

def words (c : Configuration) : List Loose := c.overrides.map Prod.fst

def format (c : Configuration) : Format := c.askedFormat.getD .json

def output? (c : Configuration) : Option Loose := c.outputFile.filter (· != [])

/-- The settings as logs and reports show them. -/
def shown (c : Configuration) : Settings where
  jdlFile := c.jdlFile.map Loose.shown
  outputFile := c.outputFile.map Loose.shown
  askedFormat := c.askedFormat
  pluralOverrides := .ofList (c.overrides.map fun o => (o.1.shown, o.2.shown))
  payloadMode := c.payloadMode
  force := c.force
  indent := c.indent

/-- The plural that overrides give to an entity. A word spelled exactly like its name wins over one
spelled otherwise; empty plurals are passed over. -/
def override? (c : Configuration) (entity : String) : Option Loose :=
  let name := Loose.ofString entity
  let offered := c.overrides.filter fun o => o.2 != []
  let found := (offered.find? fun o => o.1 == name) <|>
    offered.find? fun o => o.1.lower == name.lower
  found.map Prod.snd

/-- Whether the document has an encoding: YAML escapes halves, JSON does not. -/
def isEncodable (c : Configuration) : Bool :=
  c.format == .yaml || c.overrides.all fun o => o.1.isWhole && o.2.isWhole

end Configuration

namespace Settings

theorem distinct_overrides (s : Settings) :
    ((s.pluralOverrides.entries.map fun e => (Loose.ofString e.1, Loose.ofString e.2)).map
      Prod.fst).Nodup := by
  have hkeys : (s.pluralOverrides.entries.map fun e => (Loose.ofString e.1, Loose.ofString e.2)).map
      Prod.fst = (s.pluralOverrides.entries.map Prod.fst).map Loose.ofString := by
    rw [List.map_map, List.map_map]
    rfl
  rw [hkeys]
  exact List.Pairwise.map _ (fun _ _ hne h => hne (Loose.ofString_inj.mp h)) s.pluralOverrides.nodup

/-- Settings as a configuration, which has no halves then. -/
def configuration (s : Settings) : Configuration where
  jdlFile := s.jdlFile.map Loose.ofString
  outputFile := s.outputFile.map Loose.ofString
  askedFormat := s.askedFormat
  overrides := s.pluralOverrides.entries.map fun e => (Loose.ofString e.1, Loose.ofString e.2)
  distinct := s.distinct_overrides
  payloadMode := s.payloadMode
  force := s.force
  indent := s.indent

instance : Coe Settings Configuration := ⟨configuration⟩

end Settings

end EntitySchema
