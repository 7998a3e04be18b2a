import SqlText.Settings.VariableFile
import SqlText.Settings.Variables

/-!
# Settings from an environment — a file of variables under those of the process

    Settings.ofEnvironment warn (some "QUERY_LOG_LEVEL=debug") [(.text "QUERY_LOG_DIR", .text "l")]

The file is read by a reader of files, which is given from outside; where none is given, it is the
program's own. A variable of the process counts before one of the file, if its name is one of ours.
-/

namespace SqlText

namespace Environment

/-- What reads a file of variables: with a way to report a line that holds no entry, and with the
variables of the process, it makes variables of the file's content. -/
abbrev Reader := (Nat → Build Unit) → List (Value × Value) → String → Build (List (Value × Value))

/-- Does the name of a variable begin as ours do? -/
def isOurs : Value → Bool
  | .text s => Settings.variablePrefix.toList.isPrefixOf s.toList
  | _       => false

/-- The variables of the process laid over those of a file. -/
def overlay (file process : List (Value × Value)) : List (Value × Value) :=
  (process.filter (isOurs ·.1)).foldl (fun es e => insertEntry e.1 e.2 es) file

end Environment

/-- The settings of a process: its own variables over those of a file, if there is one. -/
def Settings.ofEnvironment (warn : Nat → Build Unit) (file : Option String)
    (process : List (Value × Value)) (reader : Environment.Reader := VariableFile.read) :
    Build Settings := do
  let entries ← match file with
    | some content => reader warn process content
    | none         => pure []
  Settings.ofVariables (Environment.overlay entries process)

end SqlText
