import EntitySchema.Calendar
import EntitySchema.Number.Binary64
import EntitySchema.Text.Loose

/-! Plain data: what configuration files hold and what output documents are made of. Mappings keep
the order of their entries, and their keys may be any scalar. -/
namespace EntitySchema

open Number (Binary64)

inductive Value where
  | null
  | bool (b : Bool)
  | int (n : Int)
  | float (x : Binary64)
  | text (s : String)
  /-- A text in which halves of surrogate pairs stand alone, by its code points. -/
  | broken (codes : List Nat)
  | bytes (b : List UInt8)
  | date (d : Date)
  | moment (m : Moment)
  | list (items : List Value)
  | pair (first second : Value)
  /-- Members without an order of their own, no two of them alike. -/
  | set (members : List Value)
  | mapping (entries : List (Value × Value))
  /-- A collection that is a part of itself, with a number that tells it from others. Its parts are
  unfolded a few times over. -/
  | knot (number : Nat) (collection : Value)
  deriving Repr, Inhabited

namespace Value

/-- The collection itself, where a value is a collection that is a part of itself. -/
def untied : Value → Value
  | .knot _ v => v
  | v => v

/-- A text by its code points, which may be halves of surrogate pairs. -/
def ofCodes (codes : List Nat) : Value :=
  if codes.all fun n => decide (Nat.isValidChar n) then
    .text (String.ofList (codes.map Char.ofNat))
  else .broken codes

def ofLoose (t : Text.Loose) : Value := ofCodes (t.map Text.CodePoint.number)

/-- Whether two values are the same key. Numbers and truth values are compared by value, so that
`true`, `1` and `1.0` are one key; collections that can change are no keys. -/
def sameKey : Value → Value → Bool
  | .null, .null => true
  | .text s, .text t => s == t
  | .broken s, .broken t => s == t
  | .bytes b, .bytes c => b == c
  | .date d, .date e => d == e
  | .moment m, .moment n => m.isSame n
  | .float x, .float y => x.isSameKey y
  | .pair a b, .pair c d => sameKey a c && sameKey b d
  | a, b => match integer? a, integer? b with
    | some m, some n => m == n
    | _, _ => false
where
  integer? : Value → Option Int
    | .bool b => some (if b then 1 else 0)
    | .int n => some n
    | .float x => x.integer?
    | _ => none

def ofText? (s : Option String) : Value := (s.map Value.text).getD .null

def ofDictEntries (entries : List (String × Value)) : Value :=
  .mapping (entries.map fun e => (.text e.1, e.2))

/-- Sets a key: a new one goes to the end, a known one keeps its place and its first spelling. -/
def put {α : Type} (key : Value) (value : α) : List (Value × α) → List (Value × α)
  | [] => [(key, value)]
  | e :: r => if e.1.sameKey key then (e.1, value) :: r else e :: put key value r

def ofEntries (entries : List (Value × Value)) : List (Value × Value) :=
  entries.foldl (fun m e => put e.1 e.2 m) []

def find? (key : Value) (entries : List (Value × Value)) : Option Value :=
  (entries.find? fun e => e.1.sameKey key).map (·.2)

/-- Everything but null, `false`, zero and what is empty. -/
def truthy : Value → Bool
  | .null => false
  | .bool b => b
  | .int n => n != 0
  | .float x => !x.isZero
  | .text s => s != ""
  | .broken codes => !codes.isEmpty
  | .bytes b => !b.isEmpty
  | .date _ | .moment _ | .pair _ _ | .knot _ _ => true
  | .list items => !items.isEmpty
  | .set members => !members.isEmpty
  | .mapping entries => !entries.isEmpty

def kind : Value → String
  | .null => "NoneType"
  | .bool _ => "bool"
  | .int _ => "int"
  | .float _ => "float"
  | .text _ | .broken _ => "str"
  | .bytes _ => "bytes"
  | .date _ => "date"
  | .moment _ => "datetime"
  | .list _ => "list"
  | .pair _ _ => "tuple"
  | .set _ => "set"
  | .mapping _ => "dict"
  | .knot _ v => kind v

def qualifiedKind : Value → String
  | .date _ => "datetime.date"
  | .moment _ => "datetime.datetime"
  | v => v.kind

/-- The kind of collection that keeps a value from being a key, if one does. -/
def unusableKind? : Value → Option String
  | .list _ => some "list"
  | .set _ => some "set"
  | .mapping _ => some "dict"
  | .pair a b => a.unusableKind? <|> b.unusableKind?
  | .knot _ v => v.unusableKind?
  | _ => none

/-- The members of a value that has members. Those of a mapping are its keys. -/
def members? (v : Value) : Option (List Value) :=
  match v.untied with
  | .list items => some items
  | .pair a b => some [a, b]
  | .set members => some members
  | .mapping m => some (m.map (·.1))
  | .text s => some (s.toList.map fun c => .text (String.singleton c))
  | .broken codes => some (codes.map fun n => ofCodes [n])
  | .bytes b => some (b.map fun n => .int n.toNat)
  | _ => none

mutual

/-- The text of a value inside a collection, where texts are quoted. `around` numbers the
collections around it: one that comes back inside itself is not written out again. -/
def literalWithin (around : List Nat) : Value → String
  | .null => "None"
  | .bool b => if b then "True" else "False"
  | .int n => toString n
  | .float x => x.text
  | .text s => Text.quoted s
  | .broken codes => Text.quotedCodes codes
  | .bytes b => Text.quotedBytes b
  | .date d => d.literal
  | .moment m => m.literal
  | .list items => "[" ++ ", ".intercalate (literalsWithin around items) ++ "]"
  | .pair a b => "(" ++ literalWithin around a ++ ", " ++ literalWithin around b ++ ")"
  | .set [] => "set()"
  | .set (v :: r) =>
    "\x7b" ++ ", ".intercalate (literalWithin around v :: literalsWithin around r) ++ "\x7d"
  | .mapping entries =>
    "\x7b" ++ ", ".intercalate (entryLiteralsWithin around entries) ++ "\x7d"
  | .knot number v =>
    if around.contains number then
      match v with
      | .mapping _ => "\x7b...\x7d"
      | _ => "[...]"
    else literalWithin (number :: around) v

def literalsWithin (around : List Nat) : List Value → List String
  | [] => []
  | v :: r => literalWithin around v :: literalsWithin around r

def entryLiteralsWithin (around : List Nat) : List (Value × Value) → List String
  | [] => []
  | (k, v) :: r =>
    (literalWithin around k ++ ": " ++ literalWithin around v) :: entryLiteralsWithin around r

end

def literal (v : Value) : String := v.literalWithin []

def display : Value → String
  | .text s => s
  | .broken codes => String.ofList (codes.map fun n => if Nat.isValidChar n then Char.ofNat n else
      Char.ofNat 0xfffd)
  | .date d => d.text
  | .moment m => m.text
  | v => v.literal

end Value

end EntitySchema
