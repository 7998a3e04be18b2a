import SqlText.Log.Level
import SqlText.Number.Exact
import SqlText.Value.Access
import SqlText.Value.Order

/-!
# Settings — how statements are logged and how strictly a SELECT is checked

    Settings.standard.override [(.text "strict_select", .bool true)]

Settings hold their fields as given. Two of them are checked when settings are made: the
log level, stripped and in upper case, has to be one of five names, and the greatest length
of a logged statement has to be positive. What is made active is a value and normally
settings; where it is not, whatever asks it for a setting is refused.
-/

namespace SqlText

namespace Settings

/-- The settings that hold before any other are made active. -/
def standard : Settings where
  logLevel := .text "INFO"
  logFile := .null
  logDir := .text "logs"
  useColors := .bool true
  logStatements := .bool true
  maxLoggedLength := .int 500
  strictSelect := .bool false

/-- The names of the fields, in their order. -/
def fieldNames : List String :=
  ["log_level", "log_file", "log_dir", "use_colors", "log_statements",
    "max_logged_statement_length", "strict_select"]

/-- Replaces one field by its name. -/
def set? (s : Settings) (name : String) (v : Value) : Option Settings :=
  match name with
  | "log_level"      => some { s with logLevel := v }
  | "log_file"       => some { s with logFile := v }
  | "log_dir"        => some { s with logDir := v }
  | "use_colors"     => some { s with useColors := v }
  | "log_statements" => some { s with logStatements := v }
  | "max_logged_statement_length" => some { s with maxLoggedLength := v }
  | "strict_select"  => some { s with strictSelect := v }
  | _                => none

/-- Replaces fields one after the other; an unknown name does not fit. -/
def assign (s : Settings) : List (Value × Value) → Except Fault Settings
  | []                  => .ok s
  | (.text name, v) :: es =>
    match s.set? name v with
    | some t => t.assign es
    | none   => .error (.type .badCall)
  | _ :: _              => .error (.type .badCall)

/-- The names of valid log levels. -/
def validLevels : List String := Log.Severity.all.map Log.Severity.name

/-- The level name that a value gives: a text among the valid names, blanks at its ends and
letter case aside. -/
def readLevel (name : String) (v : Value) : Except Fault String := do
  match ← v.stripped with
  | .text s =>
    if validLevels.contains (Text.upper s) then return Text.upper s
    else throw (.configuration (.level name v))
  | _ => throw (.configuration (.level name v))

/-- Is the value zero or below? Only numbers compare with zero. -/
def notPositive (v : Value) : Except Fault Bool :=
  if v.isDecimalNaN then .error .invalidOperation
  else
    match v.number? with
    | some x => .ok (x.le (.exact (Exact.ofInt 0)))
    | none   => .error (.type (.notOrdered "<=" v.typePath "int"))

/-- Settings whose log level and greatest length are acceptable. -/
def validated (s : Settings) : Except Fault Settings := do
  -- the level is read for its refusals alone and kept as it was given
  let _ ← readLevel "log_level" s.logLevel
  if ← notPositive s.maxLoggedLength then
    throw (.configuration (.notPositive "max_logged_statement_length" s.maxLoggedLength))
  return s

/-- Settings with the fields given and the standard ones for the rest. -/
def make (fields : List (Value × Value)) : Except Fault Settings := do
  (← standard.assign fields).validated

/-- These settings with some fields replaced. -/
def override (s : Settings) (fields : List (Value × Value)) : Except Fault Settings := do
  (← s.assign fields).validated

/-- The settings that a value is; from any other value the property asked for is missing. -/
def ofValue (property : String) : Value → Except Fault Settings
  | .settings s => .ok s
  | v           => .error (.noAttribute v.typeName property)

/-- Can a replacement stand beside the value that is to become active? It needs a text as
its name, and not the one under which that value is given. -/
def isReplacement : Value → Bool
  | .text name => name != "new_config"
  | _          => false

/-- The value that becomes active: the one given or, for null, the present one, with some
fields replaced. Without replacements nothing is checked, and any value may become active. -/
def configure (active given : Value) (fields : List (Value × Value)) : Except Fault Value := do
  let base := match given with
    | .null => active
    | v     => v
  if !fields.all (isReplacement ·.1) then throw (.type .badCall)
  else if fields.isEmpty then return base
  else return .settings (← (← ofValue "with_overrides" base).override fields)

end Settings

end SqlText
