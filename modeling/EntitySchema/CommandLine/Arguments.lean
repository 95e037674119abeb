import EntitySchema.CommandLine.Switch
import EntitySchema.Text.Digit
import EntitySchema.Text.Lines
import EntitySchema.Value

/-! Reading of the command line. Options may be shortened to any unambiguous start, and short ones
put together; one word that is no option names the input. -/
namespace EntitySchema.CommandLine

/-- What a command line asks for. The value of an option is a text, or an empty list when the mark
`--` is given for it. -/
structure Arguments where
  jdlFile : Option String := none
  config : Option Value := none
  output : Option Value := none
  check : Bool := false
  report : Bool := false
  format : Option Value := none
  pluralOverrides : List Value := []
  payloadMode : Option Value := none
  force : Bool := false
  verbose : Nat := 0
  quiet : Bool := false
  deriving Repr

/-- A word of the command line by its looks. An option may have a value attached to it. -/
inductive Word where
  | value (s : String)
  /-- The mark `--`, behind which all words are values. -/
  | separator
  | switch (s : Switch) (isShort : Bool) (attached : Option (List Char))
  | unknown (s : String)
  deriving DecidableEq, Repr

inductive Stop where
  | help
  | version
  | misuse (m : Misuse)
  deriving DecidableEq, Repr

def splitValue (s : List Char) : List Char × Option (List Char) :=
  match s.span (· != '=') with
  | (name, _ :: value) => (name, some value)
  | (name, []) => (name, none)

def candidates (word : List Char) : List (String × Word) :=
  match word with
  | '-' :: '-' :: _ =>
    let (name, value) := splitValue word
    (Switch.table.filter fun e => name.isPrefixOf e.1.toList).map fun e =>
      (e.1, .switch e.2 false value)
  | '-' :: c :: rest =>
    (Switch.table.filter fun e => e.1.toList == ['-', c]).map fun e =>
      (e.1, .switch e.2 true (some rest))
  | _ => []

def isNegativeNumber : List Char → Bool
  | '-' :: s =>
    match (Text.withoutLastFeed s).span Text.isDecimalDigit with
    | (ds, []) => ds != []
    | (_, '.' :: r) => r != [] && r.all Text.isDecimalDigit
    | _ => false
  | _ => false

/-- Classifies a word in front of the mark `--`. -/
def classify (word : String) : Except Misuse Word :=
  let s := word.toList
  if s.head? ≠ some '-' ∨ s = ['-'] then .ok (.value word)
  else
    let isShort (name : List Char) : Bool := name[1]? != some '-'
    let (name, value) := splitValue s
    match Switch.ofSpelling? word, Switch.ofSpelling? (String.ofList name), value with
    | some o, _, _ => .ok (.switch o (isShort s) none)
    | none, some o, some value => .ok (.switch o (isShort name) (some value))
    | _, _, _ =>
      match candidates s with
      | [(_, w)] => .ok w
      | [] => .ok (if isNegativeNumber s || s.contains ' ' then .value word else .unknown word)
      | cs => .error (.ambiguous word (cs.map (·.1)))

def classifyAll : List String → Except Misuse (List (String × Word))
  | [] => .ok []
  | "--" :: r => .ok (("--", .separator) :: r.map fun s => (s, .value s))
  | s :: r => do
    let w ← classify s
    return (s, w) :: (← classifyAll r)

/-- Sets an option; of a value that is given twice the last counts. -/
def Arguments.set (a : Arguments) (s : Switch) (word : String) : Except Stop Arguments :=
  let value : Value := if word = "--" then .list [] else .text word
  let refused := match s.choices with
    | some choices => word ≠ "--" && !choices.contains word
    | none => false
  if refused then .error (.misuse (.invalidChoice s word (s.choices.getD [])))
  else match s with
    | .help => .error .help
    | .version => .error .version
    | .config => .ok { a with config := some value }
    | .output => .ok { a with output := some value }
    | .check => .ok { a with check := true }
    | .report => .ok { a with report := true }
    | .format => .ok { a with format := some value }
    | .pluralOverride => .ok { a with pluralOverrides := a.pluralOverrides ++ [value] }
    | .payloadMode => .ok { a with payloadMode := some value }
    | .force => .ok { a with force := true }
    | .verbose => .ok { a with verbose := a.verbose + 1 }
    | .quiet => .ok { a with quiet := true }

/-- The options of one word in turn, each with its value. -/
structure Bundle where
  settings : List (Switch × String) := []
  /-- An option that takes the next word as its value. -/
  pending : Option Switch := none

def Bundle.bare (s : Switch) : Bundle :=
  if s.takesValue then { pending := some s } else { settings := [(s, "")] }

/-- Takes a word apart: what is attached to an option is its value, or else it names further short
options. -/
def Bundle.read (s : Switch) (isShort : Bool) (attached : List Char) : Except Misuse Bundle :=
  if s.takesValue then .ok { settings := [(s, String.ofList attached)] }
  else match attached with
    | [] => .error (.unwantedValue s "")
    | c :: r =>
      match if isShort then Switch.ofSpelling? (String.ofList ['-', c]) else none with
      | none => .error (.unwantedValue s (String.ofList attached))
      | some next =>
        let behind := if r = [] then .ok (bare next) else Bundle.read next true r
        behind.map fun b => { b with settings := (s, "") :: b.settings }

structure Reading where
  arguments : Arguments := {}
  /-- Whether no word has named the input yet. -/
  isOpen : Bool := true
  extras : List String := []

def isSwitch : Word → Bool
  | .switch _ _ _ | .unknown _ => true
  | .value _ | .separator => false

/-- Takes the input file from the head of the words: marks and at most one value. -/
def takeInput (r : Reading) (words : List (String × Word)) :
    Reading × List (String × Word) :=
  let isMark (w : String × Word) := w.2 == .separator
  let rest := words.dropWhile isMark
  let (value, rest) := match rest with
    | (s, .value _) :: rest => (some s, rest)
    | rest => (none, rest)
  ({ r with isOpen := false, arguments := { r.arguments with jdlFile := value } },
    rest.dropWhile isMark)

def Reading.apply (r : Reading) (b : Bundle) : Except Stop Reading := do
  return { r with arguments := ← b.settings.foldlM (fun a e => a.set e.1 e.2) r.arguments }

def readWords (fuel : Nat) (r : Reading) (words : List (String × Word)) : Except Stop Reading :=
  match fuel with
  | 0 => .ok r
  | fuel + 1 =>
    match words with
    | [] => .ok r
    | (s, w) :: rest =>
      match w with
      | .unknown _ => readWords fuel { r with extras := r.extras ++ [s] } rest
      | .switch o isShort attached => do
        let b ← (match attached with
          | some value => Bundle.read o isShort value
          | none => .ok (Bundle.bare o)).mapError .misuse
        match b.pending, rest with
        | none, _ => readWords fuel (← r.apply b) rest
        | some o, (value, .value _) :: rest =>
          readWords fuel (← r.apply { b with settings := b.settings ++ [(o, value)] }) rest
        | some o, _ => throw (.misuse (.missingValue o))
      | .value _ | .separator =>
        if r.isOpen then
          let (r, rest) := takeInput r words
          readWords fuel r rest
        else
          let strays := words.takeWhile fun w => !isSwitch w.2
          readWords fuel { r with extras := r.extras ++ strays.map (·.1) }
            (words.drop strays.length)

def Arguments.read (words : List String) : Except Stop Arguments := do
  let classified ← (classifyAll words).mapError .misuse
  let r ← readWords (2 * words.length + 1) {} classified
  if r.extras = [] then return r.arguments else throw (.misuse (.unrecognised r.extras))

end EntitySchema.CommandLine
