import EntitySchema.Text.Lines

/-! The kinds of plain scalars in YAML, told apart by their text alone. -/
namespace EntitySchema.Yaml

inductive Tag where
  | text
  | null
  | bool
  | int
  | float
  | timestamp
  | merge
  | value
  deriving DecidableEq, Repr

namespace Tag

def shorthand : Tag → String
  | .text => "!!str"
  | .null => "!!null"
  | .bool => "!!bool"
  | .int => "!!int"
  | .float => "!!float"
  | .timestamp => "!!timestamp"
  | .merge => "!!merge"
  | .value => "!!value"

def nullWords : List String := ["", "~", "null", "Null", "NULL"]

def trueWords : List String := ["yes", "Yes", "YES", "true", "True", "TRUE", "on", "On", "ON"]

def falseWords : List String := ["no", "No", "NO", "false", "False", "FALSE", "off", "Off", "OFF"]

def unsigned : List Char → List Char
  | '-' :: r | '+' :: r => r
  | s => s

def isDigitOrBar (c : Char) : Bool := c.isDigit || c == '_'

/-- Digits and underscores that start with a digit, and the rest. -/
def takeNumeral? : List Char → Option (List Char)
  | c :: r => if c.isDigit then some (r.dropWhile isDigitOrBar) else none
  | [] => none

/-- A place of base sixty: one digit, or two of which the first is below six. -/
def isSixty : List Char → Bool
  | [a] => a.isDigit
  | [a, b] => '0' ≤ a && a ≤ '5' && b.isDigit
  | _ => false

def isSixties (s : List Char) : Bool :=
  match Text.splitAll (· == ':') s with
  | head :: p :: places => takeNumeral? head == some [] && (p :: places).all isSixty
  | _ => false

/-- Integers: decimal, binary after `0b`, octal after `0`, hexadecimal after `0x`, or with places of
base sixty. Underscores may stand between digits. -/
def isInt (s : List Char) : Bool :=
  match unsigned s with
  | ['0'] => true
  | '0' :: 'b' :: r => r != [] && r.all fun c => c == '0' || c == '1' || c == '_'
  | '0' :: 'x' :: r => r != [] && r.all fun c =>
      c.isDigit || ('a' ≤ c && c ≤ 'f') || ('A' ≤ c && c ≤ 'F') || c == '_'
  | '0' :: r => r.all fun c => ('0' ≤ c && c ≤ '7') || c == '_'
  | s => takeNumeral? s == some [] || isSixties s

def isExponentOrEnd : List Char → Bool
  | [] => true
  | e :: sign :: r =>
    (e == 'e' || e == 'E') && (sign == '-' || sign == '+') && r != [] && r.all Char.isDigit
  | _ => false

/-- Numbers with a point, with places of base sixty before it or not, infinities, and no-number. -/
def isFloat (s : List Char) : Bool :=
  let afterPoint (s : List Char) : Option (List Char) := match s with
    | '.' :: r => some (r.dropWhile isDigitOrBar)
    | _ => none
  let positional := match (takeNumeral? (unsigned s)).bind afterPoint with
    | some rest => isExponentOrEnd rest
    | none => false
  let pointFirst := match s with
    | '.' :: r => match takeNumeral? r with
      | some rest => isExponentOrEnd rest
      | none => false
    | _ => false
  let sixties := match (unsigned s).span (· != '.') with
    | (whole, _ :: fraction) => isSixties whole && fraction.all isDigitOrBar
    | (_, []) => false
  let infinite := [".inf", ".Inf", ".INF"].contains (String.ofList (unsigned s))
  let noNumber := [".nan", ".NaN", ".NAN"].contains (String.ofList s)
  positional || pointFirst || sixties || infinite || noNumber

def isGap (c : Char) : Bool := c == ' ' || c == '\t'

def afterShortNumber? : List Char → Option (List Char)
  | a :: b :: r => if a.isDigit then some (if b.isDigit then r else b :: r) else none
  | [a] => if a.isDigit then some [] else none
  | [] => none

def afterPair? (mark : Char) : List Char → Option (List Char)
  | m :: a :: b :: r => if m = mark ∧ a.isDigit ∧ b.isDigit then some r else none
  | _ => none

def isZoneOrEnd (s : List Char) : Bool :=
  match s with
  | [] => true
  | _ => match s.dropWhile isGap with
    | ['Z'] => true
    | sign :: r => (sign == '-' || sign == '+') &&
        match afterShortNumber? r with
        | some [] => true
        | some rest => afterPair? ':' rest == some []
        | none => false
    | [] => false

def isTimestamp (s : List Char) : Bool :=
  match s with
  | a :: b :: c :: d :: '-' :: r =>
    let afterDay? := (afterShortNumber? r).bind fun s => match s with
      | '-' :: r => afterShortNumber? r
      | _ => none
    let isDay := match (afterPair? '-' ('-' :: r)).bind (afterPair? '-') with
      | some [] => true
      | _ => false
    let afterMark? (s : List Char) : Option (List Char) := match s with
      | t :: r => if t = 'T' ∨ t = 't' then some r else if isGap t then some (r.dropWhile isGap)
        else none
      | [] => none
    let isMoment := match (((afterDay?.bind afterMark?).bind afterShortNumber?).bind
        (afterPair? ':')).bind (afterPair? ':') with
      | some ('.' :: r) => isZoneOrEnd (r.dropWhile Char.isDigit)
      | some rest => isZoneOrEnd rest
      | none => false
    [a, b, c, d].all Char.isDigit && (isDay || isMoment)
  | _ => false

def ofWord (s : List Char) : Tag :=
  let word := String.ofList s
  if trueWords.contains word || falseWords.contains word then .bool
  else if isFloat s then .float
  else if isInt s then .int
  else if word == "<<" then .merge
  else if nullWords.contains word then .null
  else if isTimestamp s then .timestamp
  else if word == "=" then .value
  else .text

/-- The kind of a plain scalar. A line feed behind a word does not count. -/
def ofPlain (s : List Char) : Tag := if s = ['\n'] then .text else ofWord (Text.withoutLastFeed s)

end Tag

end EntitySchema.Yaml
