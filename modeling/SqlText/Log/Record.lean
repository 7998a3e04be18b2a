import SqlText.Log.Severity

/-!
# Records — one line of diagnostics before it is written

    (Record.mk "app" .info "started").line "12:00" false  =  "12:00 - app - INFO - started\n"

A record names its logger, its severity and its message. Written plainly it is one line of
four parts; in colour the level's name stands between an escape sequence and the one that
ends it.
-/

namespace SqlText.Log

/-- One message of a logger. -/
structure Record where
  logger : String
  severity : Severity
  message : String
deriving DecidableEq

/-- The escape sequence that begins a level's colour. The word that ends a colour is taken
for a level name too, and its sequence is the one that ends colours. -/
def colourOf? : String → Option String
  | "DEBUG"    => some "\x1b[36m"
  | "INFO"     => some "\x1b[32m"
  | "WARNING"  => some "\x1b[33m"
  | "ERROR"    => some "\x1b[31m"
  | "CRITICAL" => some "\x1b[35m"
  | "RESET"    => some "\x1b[0m"
  | _          => none

/-- A level's name in its colour; a name without a colour stays plain. -/
def coloured (levelName : String) : String :=
  match colourOf? levelName with
  | some colour => colour ++ levelName ++ "\x1b[0m"
  | none        => levelName

/-- A record as a line: time, logger, level and message. -/
def Record.line (r : Record) (time : String) (inColour : Bool) : String :=
  let level := if inColour then coloured r.severity.name else r.severity.name
  time ++ " - " ++ r.logger ++ " - " ++ level ++ " - " ++ r.message ++ "\n"

end SqlText.Log
