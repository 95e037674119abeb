import EntitySchema.Dict

/-! The settings of a run. -/
namespace EntitySchema

inductive Format where
  | json
  | yaml
  deriving DecidableEq, Repr

namespace Format

def all : List Format := [.json, .yaml]

def name : Format → String
  | .json => "json"
  | .yaml => "yaml"

def ofName? (name : String) : Option Format := all.find? (·.name == name)

end Format

/-- How generated clients send the target of a relationship; passed on to renderers as it is. -/
inductive PayloadMode where
  | idOnly
  | fullObject
  deriving DecidableEq, Repr

namespace PayloadMode

def all : List PayloadMode := [.idOnly, .fullObject]

def name : PayloadMode → String
  | .idOnly => "idOnly"
  | .fullObject => "fullObject"

def ofName? (name : String) : Option PayloadMode := all.find? (·.name == name)

end PayloadMode

def usualIndent : Fin 9 := 2

/-- The settings of a run. Without a format asked for, the document is JSON; the indent is at most
eight. -/
structure Settings where
  jdlFile : Option String := none
  outputFile : Option String := none
  askedFormat : Option Format := none
  pluralOverrides : Dict String := .empty
  payloadMode : PayloadMode := .idOnly
  force : Bool := false
  indent : Fin 9 := usualIndent
  deriving Repr

namespace Settings

def format (s : Settings) : Format := s.askedFormat.getD .json

/-- The format as a log shows it, where the default appears under its constant's name. -/
def shownFormat (s : Settings) : String :=
  (s.askedFormat.map Format.name).getD "OutputFormat.JSON"

/-- The output file, unless its name is empty. -/
def output? (s : Settings) : Option String := s.outputFile.filter (· != "")

end Settings

end EntitySchema
