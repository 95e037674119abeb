import EntitySchema.Text.Base64
import EntitySchema.Text.Blank
import EntitySchema.Text.Digit
import EntitySchema.Text.LetterCase
import EntitySchema.Value
import EntitySchema.Yaml.Fault
import EntitySchema.Yaml.Tag

/-! The values of scalars by their kind. A kind may be forced on a text that does not look like it,
so each reader says what it makes of any text. -/
namespace EntitySchema.Yaml

open Number (Binary64)

def dayOf (year month day : Nat) : Except Fault Date :=
  if year = 0 then .error (.dateOutOfRange (.year year))
  else if month = 0 ∨ 12 < month then .error (.dateOutOfRange .month)
  else if day = 0 ∨ Calendar.daysIn year month < day then .error (.dateOutOfRange .day)
  else .ok ⟨year, month, day⟩

namespace Numeral

def digit? (c : Char) : Option Nat :=
  if 'a' ≤ c ∧ c ≤ 'z' then some (c.toNat - 'a'.toNat + 10)
  else if 'A' ≤ c ∧ c ≤ 'Z' then some (c.toNat - 'A'.toNat + 10)
  else Text.decimalDigit? c

def isDigitOf (base : Nat) (c : Char) : Bool :=
  match digit? c with
  | some d => d < base
  | none => false

def natural (base : Nat) (ds : List Char) : Nat :=
  ds.foldl (fun n c => base * n + (digit? c).getD 0) 0

def unmarked (base : Nat) (s : List Char) : List Char :=
  match s with
  | z :: m :: r =>
    let marks : List Char := match base with
      | 2 => ['b', 'B']
      | 8 => ['o', 'O']
      | 16 => ['x', 'X']
      | _ => []
    if digit? z = some 0 ∧ m ∈ marks then r else s
  | s => s

/-- A sign and digits of the given base, white space around them aside. Decimal digits may be of any
script, and their number is limited. -/
def integer (base : Nat) (s : List Char) : Except Fault Int :=
  let t := s.dropWhile Text.isSpace
  let unsigned := if t.head? = some '-' ∨ t.head? = some '+' then t.tail else t
  let (ds, rest) := (unmarked base unsigned).span (isDigitOf base)
  if ds = [] then .error (.noInteger base (String.ofList s))
  else if base = 10 ∧ Number.digitLimit < ds.length then .error (.tooLong ⟨ds.length⟩)
  else if rest.all Text.isSpace then
    .ok (if t.head? = some '-' then -(natural base ds : Int) else natural base ds)
  else .error (.noInteger base (String.ofList s))

def readSign : List Char → Except Fault (Bool × List Char)
  | '-' :: r => .ok (true, r)
  | '+' :: r => .ok (false, r)
  | [] => .error .emptyNumber
  | s => .ok (false, s)

def places (s : List Char) : List (List Char) := Text.splitAll (· == ':') s

/-- An integer: binary after `0b`, hexadecimal after `0x`, octal after `0`, with places of base
sixty, or decimal. Underscores count for nothing. -/
def int (s : List Char) : Except Fault Int := do
  let (negative, t) ← readSign (s.filter (· != '_'))
  let n ← match t with
    | ['0'] => pure 0
    | '0' :: 'b' :: r => integer 2 r
    | '0' :: 'x' :: r => integer 16 r
    | '0' :: _ => integer 8 t
    | [] => .error .emptyNumber
    | _ =>
      if t.contains ':' then do
        let ds ← (places t).mapM (integer 10)
        pure (ds.foldl (fun n d => 60 * n + d) 0)
      else integer 10 t
  return if negative then -n else n

def decimal (s : List Char) : Except Fault Binary64 :=
  let plain (c : Char) : Char := match Text.decimalDigit? c with
    | some d => Char.ofNat (48 + d)
    | none => c
  match Binary64.ofText? ((Text.trimSpace s).map plain) with
  | some x => .ok x
  | none => .error (.noNumber (String.ofList s))

def negate (negative : Bool) (x : Binary64) : Binary64 :=
  if negative then .ofFloat (-x.toFloat) else x

/-- Adds up places of base sixty, the last one first. -/
def sumPlaces (ds : List Binary64) : Binary64 :=
  let sum := ds.reverse.foldl (fun (acc : Float × Nat) d =>
    (acc.1 + d.toFloat * Float.ofNat acc.2, 60 * acc.2)) (0, 1)
  .ofFloat sum.1

/-- The most places of base sixty of which the first one still counts a finite number. -/
def mostPlaces : Nat := 174

def float (s : List Char) : Except Fault Binary64 := do
  let (negative, t) ← readSign (Text.lower (s.filter (· != '_')))
  if t = ".inf".toList then return .infinity negative
  else if t = ".nan".toList then return .constantNaN
  else if t.contains ':' then
    let ds ← (places t).mapM decimal
    if mostPlaces < ds.length then throw .tooLarge
    return negate negative (sumPlaces ds)
  else return negate negative (← decimal t)

end Numeral

namespace Timestamp

def shortNumber? : List Char → Option (Nat × List Char)
  | a :: b :: r =>
    if a.isDigit then
      if b.isDigit then some (Binary64.digitsValue [a, b], r)
      else some (Binary64.digitsValue [a], b :: r)
    else none
  | [a] => if a.isDigit then some (Binary64.digitsValue [a], []) else none
  | [] => none

def pair? (mark : Char) : List Char → Option (Nat × List Char)
  | m :: a :: b :: r =>
    if m = mark ∧ a.isDigit ∧ b.isDigit then some (Binary64.digitsValue [a, b], r) else none
  | _ => none

/-- A zone as minutes from universal time, and whether there is one. -/
def zone? (s : List Char) : Option (Option Int) :=
  match s with
  | [] => some none
  | _ => match s.dropWhile Tag.isGap with
    | ['Z'] => some (some 0)
    | sign :: r =>
      if sign = '+' ∨ sign = '-' then do
        let (hours, r) ← shortNumber? r
        let minutes ← match r with
          | [] => some 0
          | _ => match pair? ':' r with
            | some (minutes, []) => some minutes
            | _ => none
        let total : Int := hours * 60 + minutes
        return some (if sign = '-' then -total else total)
      else none
    | [] => none

structure Clock where
  hour : Nat
  minute : Nat
  second : Nat
  microsecond : Nat
  offset : Option Int

/-- The time of day behind a day: a mark or blanks, then hours, minutes and seconds, of which six
decimals count. -/
def clock? : List Char → Option Clock
  | t :: r => do
    let r ← if t = 'T' ∨ t = 't' then some r
      else if Tag.isGap t then some (r.dropWhile Tag.isGap) else none
    let (hour, r) ← shortNumber? r
    let (minute, r) ← pair? ':' r
    let (second, r) ← pair? ':' r
    let (fraction, r) := match r with
      | '.' :: r => r.span Char.isDigit
      | _ => ([], r)
    let digits := (fraction ++ List.replicate 6 '0').take 6
    return ⟨hour, minute, second, Binary64.digitsValue digits, ← zone? r⟩
  | [] => none

def day? : List Char → Option ((Nat × Nat × Nat) × List Char)
  | a :: b :: c :: d :: '-' :: r => do
    if !([a, b, c, d].all Char.isDigit) then none
    let (month, r) ← shortNumber? r
    match r with
    | '-' :: r =>
      let (day, r) ← shortNumber? r
      return ((Binary64.digitsValue [a, b, c, d], month, day), r)
    | _ => none
  | _ => none

/-- The day or point in time that a text denotes. A line feed may end it. -/
def read (s : List Char) : Except Fault Value :=
  match day? (Text.withoutLastFeed s) with
  | none => .error .noTimestamp
  | some ((year, month, day), []) => (dayOf year month day).map .date
  | some ((year, month, day), rest) => match clock? rest with
    | none => .error .noTimestamp
    | some c => do
      match c.offset with
      | some minutes => if 24 * 60 ≤ minutes.natAbs then .error (.dateOutOfRange (.offset minutes))
      | none => pure ()
      let date ← dayOf year month day
      if 23 < c.hour then .error (.dateOutOfRange .hour)
      else if 59 < c.minute then .error (.dateOutOfRange .minute)
      else if 59 < c.second then .error (.dateOutOfRange .second)
      else .ok (.moment ⟨date, c.hour, c.minute, c.second, c.microsecond, c.offset⟩)

end Timestamp

def Tag.valueOf (t : Tag) (codes : List Nat) : Except Fault Value :=
  let s := codes.map fun n => if Nat.isValidChar n then Char.ofNat n else Char.ofNat 0xfffd
  match t with
  | .text => .ok (.ofCodes codes)
  | .null => .ok .null
  | .bool =>
    let word := Text.lowered (String.ofList s)
    if ["yes", "true", "on"].contains word then .ok (.bool true)
    else if ["no", "false", "off"].contains word then .ok (.bool false)
    else .error (.noTruthValue word)
  | .int => (Numeral.int s).map .int
  | .float => (Numeral.float s).map .float
  | .timestamp => Timestamp.read s
  | .merge | .value => Offence.undefinedTag.raise

/-- The bytes that a scalar denotes in base sixty-four. It may hold ASCII characters only. -/
def bytesOf (codes : List Nat) : Except Fault Value :=
  if codes.all (· < 128) then
    match Text.Base64.decode (codes.map Char.ofNat) with
    | some b => .ok (.bytes b)
    | none => Offence.noBytes.raise
  else Offence.noBytes.raise

end EntitySchema.Yaml
