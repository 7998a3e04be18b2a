import SqlText.Log.Files
import SqlText.Log.Record

/-!
# Handlers — where records are written

    handler.write "12:00" record ("", files)

A handler writes records from its level on, as lines, to the console or to a file. On the
console the level names may be coloured; in a file they never are.
-/

namespace SqlText.Log

/-- Where a handler writes. -/
inductive Target where
  | console (inColour : Bool)
  | file (path : Path)
deriving DecidableEq

/-- A writer of records from a level on. -/
structure Handler where
  level : Nat
  target : Target
deriving DecidableEq

/-- Writes one record to the console text or to a file, if the level admits it. -/
def Handler.write (h : Handler) (time : String) (r : Record) (state : String × Files) :
    String × Files :=
  if r.severity.number < h.level then state
  else
    match h.target with
    | .console inColour => (state.1 ++ r.line time inColour, state.2)
    | .file path        => (state.1, state.2.append path (r.line time false))

/-- Writes one record through every handler in turn. -/
def writeRecord (hs : List Handler) (time : String) (state : String × Files) (r : Record) :
    String × Files :=
  hs.foldl (fun st h => h.write time r st) state

end SqlText.Log
