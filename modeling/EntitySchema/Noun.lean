import EntitySchema.Dict
import EntitySchema.Value
import EntitySchema.Text.LetterCase
import EntitySchema.Text.Lines

/-! Plural and singular forms of English nouns. A form is looked up among the caller's overrides,
then among the irregular nouns, then made by suffix rules; it takes over the letter case of the word
it replaces. The singular is an approximation and undoes the plural on part of the words only. -/
namespace EntitySchema.Noun

open Text (lower upper lowerChar upperChar isUpper withoutLastFeed)

def lowerFirst : List Char → List Char
  | [] => []
  | c :: r => lowerChar c ++ r

def upperFirst : List Char → List Char
  | [] => []
  | c :: r => upperChar c ++ r

/-- Gives `target` the letter case of `source`: all upper, all lower or capitalised. -/
def matchCase (source target : List Char) : List Char :=
  match source with
  | [] => target
  | c :: _ =>
    if upper source = source then upper target
    else if lower source = source then lower target
    else if isUpper c then upperFirst target
    else target

/-- Gives `suffix` the letter case of the last character of `source`. -/
def matchCaseOfLast (source suffix : List Char) : List Char :=
  match source.getLast? with
  | some c => if [c] = upper [c] ∧ [c] ≠ lower [c] then upper suffix else lower suffix
  | none => lower suffix

/-- An override of the plural of `word`. One that is not offered is passed over when a plural is
asked for, yet its plural is still known when a singular is. -/
structure Override where
  word : String
  plural : String
  offered : Bool
  deriving DecidableEq, Repr

namespace Override

def ofText (word plural : String) : Override := ⟨word, plural, plural != ""⟩

/-- An override may be given by any value; null stands for none. -/
def ofValue (word : String) : Value → Override
  | .null => ⟨word, "", false⟩
  | v => ⟨word, v.display, v.truthy⟩

def ofDict (d : Dict String) : List Override := d.entries.map fun e => ofText e.1 e.2

end Override

/-- The plural that the first offered override of the word gives, the word being in lower case. -/
def overridden? (overrides : List Override) (word : List Char) : Option (List Char) :=
  (overrides.find? fun o => o.offered && lower o.word.toList == word).map (·.plural.toList)

/-- The plurals as words and the words as their plurals, in lower case; of two overrides with the
same plural the later one counts. -/
def inverted (overrides : List Override) : Dict String :=
  .ofList <| (overrides.filter fun o => o.plural != "").map fun o =>
    (Text.lowered o.plural, Text.lowered o.word)

def irregular : List (String × String) := [
  ("person", "people"), ("man", "men"), ("woman", "women"), ("child", "children"),
  ("mouse", "mice"), ("goose", "geese"), ("tooth", "teeth"), ("foot", "feet"), ("ox", "oxen")]

def irregularPlural? (word : List Char) : Option (List Char) :=
  (irregular.find? (·.1.toList == word)).map (·.2.toList)

def irregularSingular? (word : List Char) : Option (List Char) :=
  (irregular.find? (·.2.toList == word)).map (·.1.toList)

def endsWith (suffix : String) (s : List Char) : Bool := suffix.toList.isSuffixOf s

def endsWithAfter (isBefore : Char → Bool) (suffix : String) (s : List Char) : Bool :=
  endsWith suffix s &&
    ((s.take (s.length - suffix.length)).getLast?.map isBefore).getD false

/-- Whether the text ends with `suffix` and no `f` stands before it. -/
def endsWithLone (suffix : String) (s : List Char) : Bool :=
  endsWith suffix s &&
    ((s.take (s.length - suffix.length)).getLast?.map (· != 'f')).getD true

def isVowel (c : Char) : Bool := "aeiou".toList.contains c

def isConsonant (c : Char) : Bool := "bcdfghjklmnpqrstvwxyz".toList.contains c

def sibilants : List String := ["s", "x", "z", "ch", "sh"]

def regularPlural (word : List Char) : List Char :=
  let low := lower word
  let put (cut : Nat) (suffix : String) :=
    word.take (word.length - cut) ++ matchCaseOfLast word suffix.toList
  if endsWith "s" low then word
  else if endsWithAfter isConsonant "y" (withoutLastFeed low) then put 1 "ies"
  else if sibilants.any fun s => endsWith s (withoutLastFeed low) then put 0 "es"
  else if endsWithLone "fe" (withoutLastFeed low) then put 2 "ves"
  else if endsWithLone "f" (withoutLastFeed low) then put 1 "ves"
  else if endsWith "o" low && !endsWithAfter isVowel "o" (withoutLastFeed low) then put 0 "es"
  else put 0 "s"

def regularSingular (word : List Char) : List Char :=
  let low := lower word
  let put (cut : Nat) (suffix : String) :=
    word.take (word.length - cut) ++ matchCaseOfLast word suffix.toList
  if sibilants.any fun s => endsWith (s ++ "es") (withoutLastFeed low) then word.take (word.length - 2)
  else if endsWith "ies" low then put 3 "y"
  else if endsWith "ves" low then put 3 "f"
  else if endsWith "s" low && !endsWith "ss" low then word.take (word.length - 1)
  else word

def plural (overrides : List Override) (word : List Char) : List Char :=
  if word = [] then []
  else
    let low := lower word
    match overridden? overrides low <|> irregularPlural? low with
    | some form => matchCase word form
    | none => regularPlural word

def singular (overrides : List Override) (word : List Char) : List Char :=
  if word = [] then []
  else
    let low := lower word
    match overridden? (Override.ofDict (inverted overrides)) low <|> irregularSingular? low with
    | some form => matchCase word form
    | none => regularSingular word

/-- The plural in lower case that names a resource. An override spelled exactly like the name wins
over one spelled otherwise. -/
def resource (overrides : List Override) (name : List Char) : List Char :=
  match overrides.find? fun o => o.offered && o.word.toList == name with
  | some o => lower o.plural.toList
  | none =>
    match overridden? overrides (lower name) with
    | some form => lower form
    | none => plural [] (lower name)

end EntitySchema.Noun
