/-!
# Severities — how grave a record is

    Severity.warning.number  =  30        Severity.warning.name  =  "WARNING"

Five severities stand at the numbers 10 to 50. Their names are the valid log levels of the
settings and the level names of written records.
-/

namespace SqlText.Log

/-- How grave a record is. -/
inductive Severity where
  | debug
  | info
  | warning
  | error
  | critical
deriving DecidableEq, Inhabited

namespace Severity

/-- The number of a severity. -/
def number : Severity → Nat
  | debug    => 10
  | info     => 20
  | warning  => 30
  | error    => 40
  | critical => 50

/-- The name of a severity in records. -/
def name : Severity → String
  | debug    => "DEBUG"
  | info     => "INFO"
  | warning  => "WARNING"
  | error    => "ERROR"
  | critical => "CRITICAL"

/-- The five severities, the least grave first. -/
def all : List Severity := [debug, info, warning, error, critical]

/-- The severity of this very name. -/
def named? (s : String) : Option Severity := all.find? (·.name == s)

end Severity

end SqlText.Log
