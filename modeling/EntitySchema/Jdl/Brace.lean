/-! Braces: a cursor that counts the nesting depth and finds the brace that closes a block. -/
namespace EntitySchema.Jdl

def depthChange (c : Char) : Int := if c = '{' then 1 else if c = '}' then -1 else 0

/-- Reads on while the depth is positive: how many characters that takes, and the depth then. -/
def readToClosing (depth : Int) : List Char → Nat × Int
  | [] => (0, depth)
  | c :: r =>
    if 0 < depth then
      let (n, d) := readToClosing (depth + depthChange c) r
      (n + 1, d)
    else (0, depth)

/-- Splits what follows an opening brace into the block's body and the text after the brace that
closes it. -/
def splitAtClosing? (s : List Char) : Option (List Char × List Char) :=
  let (n, d) := readToClosing 1 s
  if d = 0 then some (s.take (n - 1), s.drop n) else none

/-- A position in a text and the nesting depth there. Negative positions count from the end. -/
structure BraceCursor where
  text : List Char
  position : Int
  depth : Int := 1
  deriving DecidableEq, Repr

/-- The cursor stands before the start of its text. -/
inductive BraceCursor.Fault where
  | outOfRange
  deriving DecidableEq, Repr

namespace BraceCursor

def Fault.message : Fault → String
  | .outOfRange => "string index out of range"

def exhausted (c : BraceCursor) : Bool := c.text.length ≤ c.position

/-- The characters that the cursor meets from its position on; a negative position runs to the
end of the text and then through all of it. -/
def upcoming? (c : BraceCursor) : Option (List Char) :=
  if 0 ≤ c.position then some (c.text.drop c.position.toNat)
  else if 0 ≤ c.text.length + c.position then
    some (c.text.drop (c.text.length + c.position).toNat ++ c.text)
  else none

def step (c : BraceCursor) : Except Fault (Char × BraceCursor) :=
  match c.upcoming? with
  | some (x :: _) =>
    .ok (x, { c with position := c.position + 1, depth := c.depth + depthChange x })
  | _ => .error .outOfRange

/-- Reads on until the depth is zero. The answer is the place of the closing brace, and the cursor
stands just behind it; without one the cursor stands at the end. -/
def findClosing (c : BraceCursor) : Except Fault (Option Int × BraceCursor) :=
  if 0 < c.depth ∧ ¬c.exhausted then
    match c.upcoming? with
    | some s =>
      let (n, d) := readToClosing c.depth s
      .ok (if d = 0 then some (c.position + n - 1) else none,
        { c with position := c.position + n, depth := d })
    | none => .error .outOfRange
  else .ok (if c.depth = 0 then some (c.position - 1) else none, c)

def display (c : BraceCursor) : String :=
  "<BraceCursor pos=" ++ toString c.position ++ " depth=" ++ toString c.depth ++ ">"

end BraceCursor

end EntitySchema.Jdl
