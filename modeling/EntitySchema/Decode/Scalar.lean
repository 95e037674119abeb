import EntitySchema.Decode.Integer
import EntitySchema.Text.Utf8
import EntitySchema.Value

/-! Decoding of single values, with the conversions that configuration files are granted. -/
namespace EntitySchema.Decode

open Number (Binary64)

abbrev Scalar (α : Type) := Value → Except Complaint α

/-- The text that bytes encode, or that a value is. One with halves of surrogate pairs is refused. -/
def text : Scalar String
  | .text s => .ok s
  | .bytes b => match Text.Utf8.decode b with
    | .ok s => .ok (String.ofList s)
    | .error _ => .error .noText
  | .broken _ => .error .noText
  | _ => .error .textExpected

def nonEmptyText : Scalar { s : String // s ≠ "" } := fun v =>
  match text v with
  | .ok s => if h : s = "" then .error .textTooShort else .ok ⟨s, h⟩
  | .error c => .error c

def choice {α : Type} (name : α → String) (all : List α) : Scalar α := fun v =>
  match text v with
  | .ok s => match all.find? fun a => name a == s with
    | some a => .ok a
    | none => .error (.noneOf (all.map name))
  | .error _ => .error (.noneOf (all.map name))

def optional {α : Type} (decode : Scalar α) : Scalar (Option α)
  | .null => .ok none
  | v => (decode v).map some

def isWord (n : Int) : Bool := -9223372036854775808 ≤ n && n ≤ 9223372036854775807

def flagOfInt (n : Int) : Except Complaint Bool :=
  if n = 0 then .ok false else if n = 1 then .ok true else .error .unreadableFlag

def flagOfText (s : String) : Except Complaint Bool :=
  let low := s.map Char.toLower
  if ["0", "f", "false", "n", "no", "off"].contains low then .ok false
  else if ["1", "t", "true", "y", "yes", "on"].contains low then .ok true
  else .error .unreadableFlag

def integerOfFloat (x : Binary64) : Except Complaint Int :=
  if x.isNaN || x.isInfinite then .error .notFinite
  else match x.integer? with
    | none => .error .fractionalPart
    | some n =>
      if -9223372036854775808 < n ∧ n < 9223372036854775808 then .ok n else .error .integerTooLong

/-- A truth value: itself, zero or one, or one of the usual words. -/
def flag : Scalar Bool
  | .bool b => .ok b
  | .int n => if isWord n then flagOfInt n else .error .flagExpected
  | .float x => match integerOfFloat x with
    | .ok n => flagOfInt n
    | .error _ => .error .flagExpected
  | .text s => flagOfText s
  | .broken _ => .error .noText
  | .bytes b => match text (.bytes b) with
    | .ok s => flagOfText s
    | .error _ => .error .unreadableFlag
  | _ => .error .flagExpected

/-- An integer: itself, a number or text that stands for one, or a truth value. -/
def integer : Scalar Int
  | .int n => .ok n
  | .bool b => .ok (if b then 1 else 0)
  | .float x => integerOfFloat x
  | .text s => readInteger s.toList
  | .broken _ => .error .noText
  | .bytes b => match text (.bytes b) with
    | .ok s => readInteger s.toList
    | .error _ => .error .unreadableInteger
  | _ => .error .integerExpected

def bounded (most : Nat) : Scalar (Fin (most + 1)) := fun v =>
  match integer v with
  | .error c => .error c
  | .ok n =>
    if n < 0 then .error (.tooSmall 0)
    else if h : n.toNat < most + 1 then .ok ⟨n.toNat, h⟩
    else .error (.tooLarge most)

end EntitySchema.Decode
