/-! Log entries. They are data: a run collects them, and the outer layer shows those of sufficient
weight. -/
namespace EntitySchema

inductive LogLevel where
  | debug
  | info
  | warning
  | error
  deriving DecidableEq, Repr

namespace LogLevel

def weight : LogLevel → Nat
  | .debug => 0
  | .info => 1
  | .warning => 2
  | .error => 3

def column : LogLevel → String
  | .debug => "DEBUG   "
  | .info => "INFO    "
  | .warning => "WARNING "
  | .error => "ERROR   "

end LogLevel

structure LogEntry where
  level : LogLevel
  source : String
  message : String
  deriving DecidableEq, Repr

abbrev Log := List LogEntry

def LogEntry.line (time : String) (e : LogEntry) : String :=
  time ++ " │ " ++ e.level.column ++ " │ " ++ e.source ++ " │ " ++ e.message

end EntitySchema
