import EntitySchema.Json.Fault
import EntitySchema.Text.Surrogate
import EntitySchema.Value

/-! The scalars of a JSON text. -/
namespace EntitySchema.Json

open Number (Binary64)

abbrev Reader (α : Type) := List Char → Except Fault (α × List Char)

def unescaped? (c : Char) : Option Char :=
  match c with
  | '"' | '\\' | '/' => some c
  | 'b' => some '\x08'
  | 'f' => some '\x0c'
  | 'n' => some '\n'
  | 'r' => some '\r'
  | 't' => some '\t'
  | _ => none

/-- Reads a text up to its closing quote, as code points and halves of surrogate pairs. Control
characters must be escaped. -/
def readUnits? : List Char → Option (List Nat × List Char)
  | [] => none
  | '"' :: r => some ([], r)
  | '\\' :: 'u' :: a :: b :: c :: d :: r => do
    let n ← Text.hexValue? [a, b, c, d]
    let (units, rest) ← readUnits? r
    return (n :: units, rest)
  | '\\' :: c :: r => do
    let x ← unescaped? c
    let (units, rest) ← readUnits? r
    return (x.toNat :: units, rest)
  | c :: r =>
    if c.toNat < 32 || c == '\\' then none
    else (readUnits? r).map fun (units, rest) => (c.toNat :: units, rest)

def readText : Reader Value := fun s =>
  match readUnits? s with
  | some (units, rest) => .ok (.ofCodes (Text.joinHalves units), rest)
  | none => .error .offence

def readFraction? : List Char → Option (List Char × List Char)
  | '.' :: r => match Binary64.takeDigits r with
    | ([], _) => none
    | (ds, rest) => some ('.' :: ds, rest)
  | _ => none

def readExponent? : List Char → Option (List Char × List Char)
  | e :: r =>
    if e = 'e' ∨ e = 'E' then
      let (sign, r) := match r with
        | '+' :: r => (['+'], r)
        | '-' :: r => (['-'], r)
        | _ => ([], r)
      match Binary64.takeDigits r with
      | ([], _) => none
      | (ds, rest) => some ('e' :: sign ++ ds, rest)
    else none
  | [] => none

def readWhole : Reader (List Char)
  | '0' :: r => .ok (['0'], r)
  | s => match Binary64.takeDigits s with
    | ([], _) => .error .offence
    | (ds, rest) => .ok (ds, rest)

/-- Reads a number behind its sign. One with a fraction or an exponent is no integer. -/
def readNumber (negative : Bool) : Reader Value := fun s => do
  let (whole, s) ← readWhole s
  let (fraction, s) := (readFraction? s).getD ([], s)
  let (exponent, s) := (readExponent? s).getD ([], s)
  if fraction = [] ∧ exponent = [] then
    let n ← (Number.ofDigits whole).mapError .tooLong
    return (.int (if negative then -(n : Int) else n), s)
  else
    let sign := if negative then ['-'] else []
    match Binary64.ofText? (sign ++ whole ++ fraction ++ exponent) with
    | some x => return (.float x, s)
    | none => throw .offence

def words : List (String × Value) := [
  ("null", .null), ("true", .bool true), ("false", .bool false), ("NaN", .float Binary64.nan),
  ("Infinity", .float (Binary64.infinity false)), ("-Infinity", .float (Binary64.infinity true))]

def readWord? (s : List Char) : Option (Value × List Char) :=
  words.findSome? fun (word, v) =>
    if word.toList.isPrefixOf s then some (v, s.drop word.length) else none

def readScalar : Reader Value
  | '"' :: r => readText r
  | s => match readWord? s, s with
    | some result, _ => .ok result
    | none, '-' :: r => readNumber true r
    | none, _ => readNumber false s

end EntitySchema.Json
