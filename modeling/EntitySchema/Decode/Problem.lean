import EntitySchema.Text.Quoted

/-! Why a value does not decode: a complaint and the path to the part that it is about. -/
namespace EntitySchema.Decode

inductive Complaint where
  | missing
  | textExpected
  | textTooShort
  /-- Bytes or surrogates that are no text. -/
  | noText
  | flagExpected
  | unreadableFlag
  | integerExpected
  | unreadableInteger
  | integerTooLong
  | fractionalPart
  | notFinite
  | tooSmall (least : Nat)
  | tooLarge (most : Nat)
  | noneOf (choices : List String)
  | mappingExpected
  | listExpected
  | modelExpected (model : String)
  | unknownKey
  | unknownAttribute (name : String)
  | keyNotText
  deriving DecidableEq, Repr

namespace Complaint

def code : Complaint → String
  | missing => "missing"
  | textExpected => "string_type"
  | textTooShort => "string_too_short"
  | noText => "string_unicode"
  | flagExpected => "bool_type"
  | unreadableFlag => "bool_parsing"
  | integerExpected => "int_type"
  | unreadableInteger => "int_parsing"
  | integerTooLong => "int_parsing_size"
  | fractionalPart => "int_from_float"
  | notFinite => "finite_number"
  | tooSmall _ => "greater_than_equal"
  | tooLarge _ => "less_than_equal"
  | noneOf _ => "enum"
  | mappingExpected => "dict_type"
  | listExpected => "tuple_type"
  | modelExpected _ => "model_type"
  | unknownKey => "extra_forbidden"
  | unknownAttribute _ => "no_such_attribute"
  | keyNotText => "invalid_key"

/-- Choices in quotes, with commas between them and `or` before the last. -/
def alternatives : List String → String
  | [] => ""
  | [a] => "'" ++ a ++ "'"
  | [a, b] => "'" ++ a ++ "' or '" ++ b ++ "'"
  | a :: r => "'" ++ a ++ "', " ++ alternatives r

def message : Complaint → String
  | missing => "Field required"
  | textExpected => "Input should be a valid string"
  | textTooShort => "String should have at least 1 character"
  | noText => "Input should be a valid string, unable to parse raw data as a unicode string"
  | flagExpected => "Input should be a valid boolean"
  | unreadableFlag => "Input should be a valid boolean, unable to interpret input"
  | integerExpected => "Input should be a valid integer"
  | unreadableInteger => "Input should be a valid integer, unable to parse string as an integer"
  | integerTooLong => "Unable to parse input string as an integer, exceeded maximum size"
  | fractionalPart => "Input should be a valid integer, got a number with a fractional part"
  | notFinite => "Input should be a finite number"
  | tooSmall least => "Input should be greater than or equal to " ++ toString least
  | tooLarge most => "Input should be less than or equal to " ++ toString most
  | noneOf choices => "Input should be " ++ alternatives choices
  | mappingExpected => "Input should be a valid dictionary"
  | listExpected => "Input should be a valid tuple"
  | modelExpected model => "Input should be a valid dictionary or instance of " ++ model
  | unknownKey => "Extra inputs are not permitted"
  | unknownAttribute name => "Object has no attribute '" ++ name ++ "'"
  | keyNotText => "Keys should be strings"

end Complaint

inductive Step where
  | key (name : String)
  | index (n : Int)
  deriving DecidableEq, Repr

structure Problem where
  path : List Step
  complaint : Complaint
  deriving DecidableEq, Repr

/-- A decoded value, or all that is wrong with the input. -/
abbrev Checked (α : Type) := Except (List Problem) α

namespace Checked

variable {α β : Type}

/-- Applies a function when it and its argument decode, and collects the problems of both
otherwise. -/
def ap : Checked (α → β) → Checked α → Checked β
  | .ok f, .ok a => .ok (f a)
  | .ok _, .error q => .error q
  | .error p, .ok _ => .error p
  | .error p, .error q => .error (p ++ q)

def guard (a : Checked α) (problems : List Problem) : Checked α :=
  match a with
  | .ok a => if problems = [] then .ok a else .error problems
  | .error p => .error (p ++ problems)

/-- Decodes the members of a list, and collects the problems of all of them. -/
def mapAll (f : α → Checked β) : List α → Checked (List β)
  | [] => .ok []
  | a :: r => ap ((f a).map List.cons) (mapAll f r)

def below (step : Step) (a : Checked α) : Checked α :=
  a.mapError fun ps => ps.map fun p => { p with path := step :: p.path }

def ofComplaint : Except Complaint α → Checked α
  | .ok a => .ok a
  | .error c => .error [⟨[], c⟩]

end Checked

end EntitySchema.Decode
