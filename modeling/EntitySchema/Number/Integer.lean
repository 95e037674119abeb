import EntitySchema.Number.Binary64

/-! Limits on the length of integers in texts. -/
namespace EntitySchema.Number

def digitLimit : Nat := 4300

structure TooLong where
  digits : Nat
  deriving DecidableEq, Repr

def TooLong.message (t : TooLong) : String :=
  "Exceeds the limit (" ++ toString digitLimit ++ " digits) for integer string conversion: value has " ++
    toString t.digits ++ " digits; use sys.set_int_max_str_digits() to increase the limit"

def ofDigits (ds : List Char) : Except TooLong Nat :=
  if digitLimit < ds.length then .error ⟨ds.length⟩ else .ok (Binary64.digitsValue ds)

end EntitySchema.Number
