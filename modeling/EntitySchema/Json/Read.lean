import EntitySchema.Json.Scalar

/-! Reading of JSON, by a machine whose stack holds the collections that are open. -/
namespace EntitySchema.Json

/-- A collection that is open: the members read so far, the last one first, and for a mapping the
key whose value is being read. -/
inductive Container where
  | list (members : List Value)
  | mapping (entries : List (Value × Value)) (key : Value)
  deriving Repr

/-- What the machine waits for. `first` tells that nothing has been read in the collection. -/
inductive State where
  | value (first : Bool) (stack : List Container)
  | key (first : Bool) (entries : List (Value × Value)) (stack : List Container)
  | colon (entries : List (Value × Value)) (key : Value) (stack : List Container)
  | done (v : Value) (stack : List Container)
  deriving Repr

/-- How many collections may be open at once. -/
def deepest : Nat := 985

namespace State

def closeList (members : List Value) (stack : List Container) : State :=
  .done (.list members.reverse) stack

/-- Of two values for one key the later counts. -/
def closeMapping (entries : List (Value × Value)) (stack : List Container) : State :=
  .done (.mapping (Value.ofEntries entries.reverse)) stack

def open? (isMapping : Bool) (stack : List Container) : Except Fault State :=
  if deepest ≤ stack.length then .error (.tooDeep isMapping)
  else .ok (if isMapping then .key true [] stack else .value true (.list [] :: stack))

def step : State → List Char → Except Fault (State × List Char)
  | .value true (.list [] :: stack), ']' :: r => .ok (closeList [] stack, r)
  | .value _ stack, '[' :: r => (open? false stack).map fun s => (s, r)
  | .value _ stack, '{' :: r => (open? true stack).map fun s => (s, r)
  | .value _ stack, s => (readScalar s).map fun (v, r) => (.done v stack, r)
  | .key true _ stack, '}' :: r => .ok (closeMapping [] stack, r)
  | .key _ entries stack, '"' :: r => (readText r).map fun (k, r) => (.colon entries k stack, r)
  | .colon entries k stack, ':' :: r => .ok (.value false (.mapping entries k :: stack), r)
  | .done v (.list members :: stack), ',' :: r =>
    .ok (.value false (.list (v :: members) :: stack), r)
  | .done v (.list members :: stack), ']' :: r => .ok (closeList (v :: members) stack, r)
  | .done v (.mapping entries k :: stack), ',' :: r =>
    .ok (.key false ((k, v) :: entries) stack, r)
  | .done v (.mapping entries k :: stack), '}' :: r =>
    .ok (closeMapping ((k, v) :: entries) stack, r)
  | _, _ => .error .offence

end State

def isSpace (c : Char) : Bool := c == ' ' || c == '\t' || c == '\n' || c == '\r'

/-- Runs the machine up to the end of the text; `fuel` bounds the number of its steps. -/
def run (fuel : Nat) (state : State) (s : List Char) : Except Fault Value :=
  match fuel, s.dropWhile isSpace with
  | _, [] => match state with
    | .done v [] => .ok v
    | _ => .error .offence
  | 0, _ => .error .offence
  | fuel + 1, s => do
    let (state, rest) ← state.step s
    run fuel state rest

/-- The value that a text denotes. No step comes without a character. -/
def read (s : List Char) : Except Fault Value := run s.length (.value false []) s

end EntitySchema.Json
