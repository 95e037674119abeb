import EntitySchema.Calendar
import EntitySchema.Number.Integer
import EntitySchema.Text.Quoted

/-! Why a text is no YAML document, or one without a value. -/
namespace EntitySchema.Yaml

inductive Offence where
  | unprintable
  | badToken
  | misplacedIndicator
  | missingColon
  | unclosedQuote
  | unexpectedToken
  | unsupportedVersion
  | repeatedDirective
  | undefinedHandle
  | repeatedAnchor
  | undefinedAlias
  | undefinedTag
  | unusableKey
  | unusableMerge
  | wrongKind
  | noBytes
  deriving DecidableEq, Repr

inductive DatePart where
  | year (n : Nat)
  | month
  | day
  | hour
  | minute
  | second
  | offset (minutes : Int)
  deriving DecidableEq, Repr

inductive Fault where
  | offence (o : Offence)
  /-- An escape names a number that is no code point. -/
  | codeOutOfRange
  /-- An escape names a number of more than thirty-one bits. -/
  | codeTooLarge
  | dateOutOfRange (part : DatePart)
  | noInteger (base : Nat) (text : String)
  | tooLong (n : Number.TooLong)
  | noNumber (text : String)
  /-- A number has so many places of base sixty that the first one counts too much. -/
  | tooLarge
  | noTruthValue (text : String)
  | noTimestamp
  /-- A mapping stands for a timestamp. -/
  | timestampMapping
  | emptyNumber
  /-- Collections are nested too deep, or a text is sought for within itself. -/
  | tooDeep
  deriving DecidableEq, Repr

def Offence.raise {α : Type} (o : Offence) : Except Fault α := .error (.offence o)

namespace Fault

def message : Fault → String
  | .offence _ => "Invalid YAML"
  | .codeOutOfRange => "chr() arg not in range(0x110000)"
  | .codeTooLarge => "Python int too large to convert to C int"
  | .dateOutOfRange part => match part with
    | .year n => "year " ++ toString n ++ " is out of range"
    | .month => "month must be in 1..12"
    | .day => "day is out of range for month"
    | .hour => "hour must be in 0..23"
    | .minute => "minute must be in 0..59"
    | .second => "second must be in 0..59"
    | .offset minutes => "offset must be a timedelta strictly between -timedelta(hours=24) and " ++
        "timedelta(hours=24), not " ++ Moment.spanLiteral minutes ++ "."
  | .noInteger base text => "invalid literal for int() with base " ++ toString base ++ ": " ++
      String.ofList ((Text.quoted text).toList.take 200)
  | .tooLong n => n.message
  | .noNumber text => "could not convert string to float: " ++ Text.quoted text
  | .tooLarge => "int too large to convert to float"
  | .noTruthValue text => Text.quoted text
  | .noTimestamp => "'NoneType' object has no attribute 'groupdict'"
  | .timestampMapping => "expected string or bytes-like object, got 'list'"
  | .emptyNumber => "string index out of range"
  | .tooDeep => "maximum recursion depth exceeded"

/-- Whether a number, a date or an escape is to blame whose value is none that there can be. -/
def isOfValue : Fault → Bool
  | .codeOutOfRange | .dateOutOfRange _ | .noInteger _ _ | .tooLong _ | .noNumber _ => true
  | _ => false

end Fault

end EntitySchema.Yaml
