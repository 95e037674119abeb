import EntitySchema.Text.Ranges
import EntitySchema.Text.Tables.Word

/-! Word characters. -/
namespace EntitySchema.Text

/-- A letter, digit, other numeral or underscore of any script. -/
def isWordChar (c : Char) : Bool :=
  if c.toNat < 128 then c.isAlphanum || c == '_' else inRanges wordRanges c.toNat

end EntitySchema.Text
