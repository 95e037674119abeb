import EntitySchema.Text.Blank
import EntitySchema.Text.LetterCase

/-! The four cardinalities of a relationship. -/
namespace EntitySchema

inductive Cardinality where
  | oneToOne
  | oneToMany
  | manyToOne
  | manyToMany
  deriving DecidableEq, Repr

namespace Cardinality

def all : List Cardinality := [.oneToOne, .oneToMany, .manyToOne, .manyToMany]

def name : Cardinality → String
  | .oneToOne => "OneToOne"
  | .oneToMany => "OneToMany"
  | .manyToOne => "ManyToOne"
  | .manyToMany => "ManyToMany"

def token : Cardinality → String
  | .oneToOne => "onetoone"
  | .oneToMany => "onetomany"
  | .manyToOne => "manytoone"
  | .manyToMany => "manytomany"

/-- Reads a token in any letter case, blanks around it aside. -/
def ofToken? (token : String) : Option Cardinality :=
  let wanted := Text.lowered (Text.trimmed token)
  all.find? (·.token == wanted)

def ofName? (name : String) : Option Cardinality := all.find? (·.name == name)

def inverse : Cardinality → Cardinality
  | .oneToOne => .oneToOne
  | .oneToMany => .manyToOne
  | .manyToOne => .oneToMany
  | .manyToMany => .manyToMany

def isCollection : Cardinality → Bool
  | .oneToMany | .manyToMany => true
  | .oneToOne | .manyToOne => false

def code : Cardinality → String
  | .oneToOne => "O2O"
  | .oneToMany => "O2M"
  | .manyToOne => "M2O"
  | .manyToMany => "M2M"

end Cardinality

end EntitySchema
