import SqlText.Settings.Basic
import SqlText.Text.Integer

/-!
# Settings from variables — seven named texts that set the fields

    Settings.ofVariables [(.text "QUERY_LOG_LEVEL", .text " debug ")]

Each field has one variable. A variable that is absent or null leaves its field at the
standard value; a blank log file means no file, and a blank log directory leaves the
standard one. The variables are read in a fixed order, and the first malformed one is the
fault.
-/

namespace SqlText

namespace Settings

/-- The beginning that the names of all variables share. -/
def variablePrefix : String := "QUERY_"

/-- The texts of a flag that is set. -/
def setFlags : List String := ["1", "true", "yes", "on"]

/-- The texts of a flag that is not set, the empty one among them. -/
def clearFlags : List String := ["0", "false", "no", "off", ""]

/-- The truth value that a flag's text gives, blanks at its ends and letter case aside. -/
def readFlag (name : String) (raw : Value) : Except Fault Bool := do
  match ← raw.stripped with
  | .text s =>
    if setFlags.contains (Text.lower s) then return true
    else if clearFlags.contains (Text.lower s) then return false
    else throw (.configuration (.flag name raw))
  | _ => throw (.configuration (.flag name raw))

/-- The integer that a text or an ASCII byte string stands for. -/
def integer? : Value → Option Int
  | .text s   => Text.readInteger? s
  | .bytes bs =>
    if bs.all (· < 0x80) then
      Text.readSigned? ((stripBytes bs).map fun b => Char.ofNat b.toNat)
    else none
  | _         => none

/-- The positive length that a text gives. -/
def readLength (name : String) (raw : Value) : Except Fault Int := do
  match integer? (← raw.stripped) with
  | none   => throw (.configuration (.integer name raw))
  | some n =>
    if n ≤ 0 then throw (.configuration (.notPositive name (.int n)))
    return n

/-- Reads one variable, unless it is absent or null, into the field of a given name. -/
def readVariable (es : List (Value × Value)) (ending field : String)
    (read : String → Value → Except Fault (Option Value)) :
    Except Fault (List (Value × Value)) := do
  let name := variablePrefix ++ ending
  match valueAt name es with
  | .null => return []
  | raw   =>
    match ← read name raw with
    | some v => return [(.text field, v)]
    | none   => return []

/-- A log file: the stripped text, or none where that is empty. -/
def readFile (_ : String) (raw : Value) : Except Fault (Option Value) := do
  return some ((← raw.stripped).orElse .null)

/-- A log directory: the stripped text, where that is not empty. -/
def readDirectory (_ : String) (raw : Value) : Except Fault (Option Value) := do
  let v ← raw.stripped
  return if v.isGiven then some v else none

/-- A log level in its valid spelling. -/
def readLevelField (name : String) (raw : Value) : Except Fault (Option Value) := do
  return some (.text (← readLevel name raw))

/-- A flag as a truth value. -/
def readFlagField (name : String) (raw : Value) : Except Fault (Option Value) := do
  return some (.bool (← readFlag name raw))

/-- A length as an integer. -/
def readLengthField (name : String) (raw : Value) : Except Fault (Option Value) := do
  return some (.int (← readLength name raw))

/-- The settings that variables give. -/
def ofVariables (es : List (Value × Value)) : Except Fault Settings := do
  let level ← readVariable es "LOG_LEVEL" "log_level" readLevelField
  let file ← readVariable es "LOG_FILE" "log_file" readFile
  let directory ← readVariable es "LOG_DIR" "log_dir" readDirectory
  let colours ← readVariable es "LOG_COLORS" "use_colors" readFlagField
  let statements ← readVariable es "LOG_STATEMENTS" "log_statements" readFlagField
  let strict ← readVariable es "STRICT_SELECT" "strict_select" readFlagField
  let length ← readVariable es "LOG_MAX_LENGTH" "max_logged_statement_length" readLengthField
  make (level ++ file ++ directory ++ colours ++ statements ++ strict ++ length)

end Settings

end SqlText
