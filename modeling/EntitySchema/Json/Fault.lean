import EntitySchema.Number.Integer

/-! Why a text is no JSON, or none that is read. -/
namespace EntitySchema.Json

inductive Fault where
  | offence
  | tooLong (n : Number.TooLong)
  /-- Collections are nested too deep; the innermost one is a mapping or a list. -/
  | tooDeep (isMapping : Bool)
  deriving DecidableEq, Repr

def Fault.message : Fault → String
  | .offence => "Invalid JSON"
  | .tooLong n => n.message
  | .tooDeep isMapping => "maximum recursion depth exceeded while decoding a JSON " ++
      (if isMapping then "object" else "array") ++ " from a unicode string"

end EntitySchema.Json
