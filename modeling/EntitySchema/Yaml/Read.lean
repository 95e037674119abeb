import EntitySchema.Yaml.Node.Read
import EntitySchema.Yaml.Node.Unfold
import EntitySchema.Yaml.Token.Stream

/-! Reading of YAML. -/
namespace EntitySchema.Yaml

/-- The value of the document that a text holds; null without one. -/
def read (text : List Char) : Except Fault Value := do
  match ← Source.readDocument { tokens := tokens text } with
  | some (root, graph) => return (← Build.run graph root).value root
  | none => return .null

end EntitySchema.Yaml
