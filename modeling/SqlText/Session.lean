import SqlText.Log.Handler
import SqlText.Statement.Request

/-!
# Sessions — active settings, logger levels, handlers and files over several calls

    (({ clock := "12:00" } : Session).perform (Statement.request kind options)).1.console

A session begins with the standard settings, the root at the level of warnings and no
handler. A build runs under the session's active value and levels; the records that its
loggers let through go to every handler. Fields of settings are replaced only when the new
settings are acceptable. Setting up logging first sets the root's level, then replaces the
handlers, and opens the log file last, so that a file that cannot be opened leaves the
console in place.
-/

namespace SqlText

/-- The state that calls share. -/
structure Session where
  active : Value := .settings .standard
  levels : Log.Levels := {}
  handlers : List Log.Handler := []
  files : Log.Files := {}
  /-- The text that stands for the time in written lines. -/
  clock : String

/-- What one build did: its outcome, the records let through, and the console's text. -/
structure Report (α : Type) where
  outcome : Except Fault α
  records : List Log.Record
  console : String

/-- How logging is to be set up. -/
structure LogSetup where
  level : Value := .text "INFO"
  file : Value := .null
  directory : Value := .null
  console : Value := .bool true
  colours : Value := .bool true

namespace Session

/-- What a build may look at in this session. -/
def context (s : Session) : Context := ⟨s.active, s.levels⟩

/-- The records that their loggers let through. -/
def letThrough (s : Session) (rs : List Log.Record) : List Log.Record :=
  rs.filter fun r => s.levels.lets r.logger r.severity

/-- Runs a build and writes the records that are let through. -/
def perform (s : Session) (b : Build α) : Report α × Session :=
  let run := b.run s.context
  let records := s.letThrough run.records
  let (console, files) := records.foldl (Log.writeRecord s.handlers s.clock) ("", s.files)
  (⟨run.outcome, records, console⟩, { s with files })

/-- The session with another level on its root. -/
def withRootLevel (s : Session) (level : Nat) : Session :=
  { s with levels := { s.levels with root := level } }

/-! ## Settings -/

/-- Makes a value active: the one given or, for null, the present one, with fields
replaced. A fault leaves what is active as it was. -/
def configure (s : Session) (given : Value) (fields : List (Value × Value)) :
    Except Fault Value × Session :=
  match Settings.configure s.active given fields with
  | .ok active => (.ok active, { s with active })
  | .error e   => (.error e, s)

/-! ## Loggers -/

/-- The name of the logger that a value names; everything that does not count as given
names the root. -/
def loggerName (v : Value) : Except Fault String :=
  match v with
  | .text s => .ok (if Log.Levels.isRoot s then "root" else s)
  | v       => if v.isGiven then .error (.type .badCall) else .ok "root"

/-- The name of the logger that a value names, and the session in which it was asked for. -/
def logger (s : Session) (v : Value) : Except Fault (String × Session) := do
  let name ← loggerName v
  return (name, { s with levels := s.levels.add name })

/-- The level set on a logger and the level that decides for it. -/
def levelsOf (s : Session) (name : String) : Nat × Nat :=
  if Log.Levels.isRoot name then (s.levels.root, s.levels.root)
  else (s.levels.ownLevel name, s.levels.effective name)

/-- A logger by name, its level set where one is given. A level that cannot be set leaves the
logger asked for. -/
def getLogger (s : Session) (name level : Value) :
    Except Fault (String × Nat × Nat) × Session :=
  match s.logger name with
  | .error e     => (.error e, s)
  | .ok (n, s₁) =>
    if level.isGiven then
      match Log.levelOfValue level with
      | .error e => (.error e, s₁)
      | .ok l    =>
        let s₂ := { s₁ with levels := s₁.levels.set n l }
        (.ok (n, s₂.levelsOf n), s₂)
    else (.ok (n, s₁.levelsOf n), s₁)

/-! ## Setting up logging -/

/-- The text that a value gives as a path. -/
def pathText : Value → Except Fault String
  | .text s => if s.toList.contains '\x00' then .error (.value .nulInPath) else .ok s
  | _       => .error (.type .badCall)

/-- Makes the log directory and gives its path; the directories that were made before a
fault stay. -/
def makeLogDirectory (s : Session) (directory : Value) : Except Fault Log.Path × Session :=
  match pathText (directory.orElse (.text "logs")) with
  | .error e  => (.error e, s)
  | .ok written =>
    match s.files.makeDirectories written with
    | (.ok (), files)   => (.ok (Log.Path.goAll [] (Log.Path.names written)), { s with files })
    | (.error e, files) => (.error (.file e), { s with files })

/-- Adds a handler that writes to a file in a directory. -/
def addFileHandler (s : Session) (level : Nat) (directory : Log.Path) (file : Value) :
    Except Fault Session := do
  let path := directory.goAll (Log.Path.names (← pathText file))
  let files ← (s.files.openFile path).mapError .file
  return { s with files, handlers := s.handlers ++ [⟨level, .file path⟩] }

/-- Adds the file handler of a setup, if it names a file. -/
def setUpFile (s : Session) (level : Nat) (setup : LogSetup) : Except Fault Unit × Session :=
  if !setup.file.isGiven then (.ok (), s)
  else
    match s.makeLogDirectory setup.directory with
    | (.error e, s₁)      => (.error e, s₁)
    | (.ok directory, s₁) =>
      -- the directory stays, even where its file cannot be opened
      match s₁.addFileHandler level directory setup.file with
      | .error e => (.error e, s₁)
      | .ok s₂   => (.ok (), s₂)

/-- Sets the root's level and replaces the handlers. -/
def setUpLogging (s : Session) (setup : LogSetup) : Except Fault Unit × Session :=
  match Log.levelOfValue setup.level with
  | .error e  => (.error e, s)
  | .ok level =>
    let handlers : List Log.Handler :=
      if setup.console.isGiven then [⟨level, .console setup.colours.isGiven⟩] else []
    { s.withRootLevel level with handlers }.setUpFile level setup

/-- The setup that settings ask for. -/
def setupOf (settings : Settings) (console : Value) : LogSetup where
  level := settings.logLevel
  file := settings.logFile
  directory := settings.logDir
  console := console
  colours := settings.useColors

/-- Sets up logging from a value that has to be settings: the one given, or the active one
unless the given one counts. -/
def setUpLoggingFrom (s : Session) (given console : Value) : Except Fault Unit × Session :=
  match Settings.ofValue "log_level" (given.orElse s.active) with
  | .ok settings => s.setUpLogging (setupOf settings console)
  | .error e     => (.error e, s)

end Session

end SqlText
