import EntitySchema.Decode.Problem
import EntitySchema.Number.Binary64
import EntitySchema.Text.Blank

/-! Integers in texts. Besides the plain form there may be white space around the digits, a plus
sign, zeros in front, single underscores between digits, and a fraction of zeros. -/
namespace EntitySchema.Decode

open Number (Binary64)

def longestInteger : Nat := 4300

/-- Reads the plain form: digits that start with no zero, or one zero, and perhaps a minus sign. -/
def readPlainInteger (s : List Char) : Except Complaint Int :=
  let digits := if s.head? = some '-' then s.tail else s
  let (ds, rest) := digits.span Char.isDigit
  match ds, rest with
  | [], _ | '0' :: _ :: _, _ => .error .unreadableInteger
  | ds, rest =>
    if longestInteger < s.length - rest.length then .error .integerTooLong
    else if rest ≠ [] then .error .unreadableInteger
    else
      let n := Binary64.digitsValue ds
      .ok (if s.head? = some '-' then -(n : Int) else n)

/-- The text without zeros at its head, and without underscores among them. What follows may be a
sign; before a point the last character stays. -/
def withoutZeros : List Char → List Char
  | [] => []
  | [c] => [c]
  | c :: d :: r =>
    if c = '0' ∨ c = '_' then
      if d = '.' then c :: d :: r else withoutZeros (d :: r)
    else c :: d :: r

def startsInteger : List Char → Bool
  | c :: _ => c.isDigit || c == '-'
  | [] => false

def withoutFraction (s : List Char) : List Char :=
  match s.span (· != '.') with
  | (whole, _ :: fraction) => if fraction ≠ [] ∧ fraction.all (· == '0') then whole else s
  | (_, []) => s

def hasBarPair : List Char → Bool
  | '_' :: '_' :: _ => true
  | _ :: r => hasBarPair r
  | [] => false

/-- The text without underscores, unless they stand at an end or side by side. -/
def withoutBars (s : List Char) : List Char :=
  if s.head? = some '_' ∨ s.getLast? = some '_' ∨ hasBarPair s then s else s.filter (· != '_')

/-- The plain form that a text stands for, if it may stand for one. -/
def plainForm? (s : List Char) : Option (List Char) :=
  let unsigned := if s.head? = some '+' then s.tail else s
  if s.head? = some '+' ∧ unsigned.head? = some '-' then none
  else if !startsInteger unsigned then none
  else
    let t := if unsigned.head? = some '0' then withoutZeros unsigned else unsigned
    if startsInteger t then some (withoutBars (withoutFraction t)) else none

def readInteger (s : List Char) : Except Complaint Int :=
  let t := Text.trimSpace s
  match readPlainInteger t with
  | .error .unreadableInteger => match plainForm? t with
    | some plain => readPlainInteger plain
    | none => .error .unreadableInteger
  | result => result

end EntitySchema.Decode
