import EntitySchema.Value

/-! Writing of JSON. Characters outside ASCII are written as they are; keys that are no texts are
written as one. -/
namespace EntitySchema.Json

open Number (Binary64)

def escape (c : Char) : List Char :=
  if c = '"' then ['\\', '"']
  else if c = '\\' then ['\\', '\\']
  else if c = '\n' then ['\\', 'n']
  else if c = '\r' then ['\\', 'r']
  else if c = '\t' then ['\\', 't']
  else if c = '\x08' then ['\\', 'b']
  else if c = '\x0c' then ['\\', 'f']
  else if c.toNat < 32 then '\\' :: 'u' :: Text.hexPadded 4 c.toNat
  else [c]

def quote (s : String) : List Char := '"' :: s.toList.flatMap escape ++ ['"']

def writeFloat (x : Binary64) : String :=
  if x.isNaN then "NaN"
  else if x.isInfinite then if x.negative then "-Infinity" else "Infinity"
  else x.text

def scalarText : Value → String
  | .null => "null"
  | .bool b => if b then "true" else "false"
  | .int n => toString n
  | .float x => writeFloat x
  | v => v.display

/-- The start of a line at a nesting depth; nothing when all is written on one line. -/
def lineStart (indent depth : Nat) : List Char :=
  if indent = 0 then [] else '\n' :: List.replicate (indent * depth) ' '

def separator (indent depth : Nat) : List Char :=
  if indent = 0 then [',', ' '] else ',' :: lineStart indent depth

def writeKey (k : Value) : List Char := quote (scalarText k)

mutual

/-- The characters of a value whose members stand one level deeper than `depth`. -/
def write (indent depth : Nat) : Value → List Char
  | .text s => quote s
  | .broken codes => quote (Value.broken codes).display
  | .date d => quote d.text
  | .moment m => quote m.text
  | .list [] => ['[', ']']
  | .list (v :: r) =>
    '[' :: lineStart indent (depth + 1) ++ write indent (depth + 1) v ++
      writeMembers indent (depth + 1) r ++ lineStart indent depth ++ [']']
  | .mapping [] => ['{', '}']
  | .mapping ((k, v) :: r) =>
    '{' :: lineStart indent (depth + 1) ++ writeKey k ++ ':' :: ' ' :: write indent (depth + 1) v ++
      writeEntries indent (depth + 1) r ++ lineStart indent depth ++ ['}']
  | v => (scalarText v).toList

def writeMembers (indent depth : Nat) : List Value → List Char
  | [] => []
  | v :: r => separator indent depth ++ write indent depth v ++ writeMembers indent depth r

def writeEntries (indent depth : Nat) : List (Value × Value) → List Char
  | [] => []
  | (k, v) :: r =>
    separator indent depth ++ writeKey k ++ ':' :: ' ' :: write indent depth v ++
      writeEntries indent depth r

end

/-- A value as a JSON text, on one line when the indent is zero. -/
def text (indent : Nat) (v : Value) : String := String.ofList (write indent 0 v)

end EntitySchema.Json
