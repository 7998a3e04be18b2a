import SqlText.Literal
import SqlText.Statement.Report

/-!
# INSERT — rows under the columns of the first

    ({ table := .text "t", rows := .mapping [(.text "a", .int 1)] } : Insert).text

The columns are the keys of the first row, followed by the date columns, each of which
takes the current time. Every row gives its values under the first row's columns, null
where it has none; rows whose columns differ are reported. With a unique column duplicates
are ignored; with fields to update they are refreshed.
-/

namespace SqlText

/-- The inputs of an INSERT. -/
structure Insert where
  table : Value := .null
  rows : Value := .null
  dateFields : Value := .null
  uniqueColumn : Value := .null
  updateFields : Value := .null

namespace Insert

/-- Replaces one input by the name of its option. -/
def set? (s : Insert) (name : String) (v : Value) : Option Insert :=
  match name with
  | "table"         => some { s with table := v }
  | "insert_data"   => some { s with rows := v }
  | "date_fields"   => some { s with dateFields := v }
  | "unique_column" => some { s with uniqueColumn := v }
  | "on_duplicate_update_fields" => some { s with updateFields := v }
  | _               => none

/-- Refuses an INSERT without data. -/
def refuseEmpty : Build α := do
  Build.note Log.Channel.change .error "INSERT build rejected: insert data is empty"
  Build.refuse
    (.missingField (.text "insert_data") (.text "INSERT") (.text "Insert data is empty."))

/-- The rows of a list, the first of which stands at `index`; each has to be a mapping. -/
def rowsFrom (index : Nat) : List Value → Except Fault (List (List (Value × Value)))
  | []                => .ok []
  | .mapping es :: vs => (rowsFrom (index + 1) vs).map (es :: ·)
  | v :: _            => .error (.build (.specification (.insertRow index v.typeName)))

/-- The rows that a value describes: one mapping, or several in a list or tuple. -/
def rowsOfValue (v : Value) : Except Fault (List (List (Value × Value))) :=
  match v with
  | .mapping es => .ok [es]
  | .list vs    => rowsFrom 0 vs
  | .tuple vs   => rowsFrom 0 vs
  | v           => .error (.build (.specification (.insertData v.typeName)))

/-- The keys of a row. -/
def keys (row : List (Value × Value)) : List Value := row.map Prod.fst

/-- Reports one row whose columns are not those of the first. -/
def reportRow (columns : List Value) (index : Nat) (row : List (Value × Value)) :
    Build Unit := do
  if !sameKeySet (keys row) columns then
    let own ← sorted (keys row)
    let first ← sorted columns
    Build.note Log.Channel.change .warning
      ("INSERT row " ++ index.repr ++ " columns " ++ (Value.list own).inspect ++
        " differ from first row " ++ (Value.list first).inspect ++
        "; using the first row's columns")

/-- Reports every row, the first of them at `index`, whose columns are not those given. -/
def reportRows (columns : List Value) (index : Nat) :
    List (List (Value × Value)) → Build Unit
  | []          => pure ()
  | row :: rows => do
    reportRow columns index row
    reportRows columns (index + 1) rows

/-- The values of a row under the columns, and the current time for each date column. -/
def rowValues (columns : List Value) (dates : Nat) (row : List (Value × Value)) :
    List Value :=
  columns.map (lookup · row) ++ List.replicate dates (.keyword "CURRENT_TIMESTAMP")

/-- A row as a tuple of literals. -/
def rowText (columns : List Value) (dates : Nat) (row : List (Value × Value)) :
    Except Fault String := do
  return "(" ++ (← Literal.row false (rowValues columns dates row)) ++ ")"

/-- A field that takes the value of the row that was refused. -/
def refreshText (field : Value) : String :=
  field.display ++ " = VALUES(" ++ field.display ++ ")"

/-- What follows the word INSERT, between it and INTO. -/
def ignoreText (s : Insert) : String := if s.uniqueColumn.isGiven then "IGNORE " else ""

/-- The fields to update on duplicates as a segment, empty where duplicates are ignored or
there is no such field. -/
def refreshSegment (s : Insert) : Except Fault String := do
  if s.uniqueColumn.isGiven || !s.updateFields.isGiven then return ""
  else
    return " ON DUPLICATE KEY UPDATE " ++
      ", ".intercalate ((← s.updateFields.iterate).map refreshText)

/-- The items of an input that may be left out. -/
def optionalItems (v : Value) : Except Fault (List Value) :=
  if v.isGiven then v.iterate else .ok []

/-- The rows, of which the first is not empty. -/
def givenRows (s : Insert) : Build (List (Value × Value) × List (List (Value × Value))) := do
  if !s.rows.isGiven then refuseEmpty
  else
    match ← rowsOfValue s.rows with
    | (e :: es) :: rest => return (e :: es, rest)
    | _                 => refuseEmpty

/-- The statement, not yet recorded. -/
def compose (s : Insert) : Build String := do
  let (first, rest) ← s.givenRows
  -- date columns that cannot be read are the fault before any row is compared
  let dates ← optionalItems s.dateFields
  let columns := keys first
  reportRows columns 1 rest
  let columnList ← joinTexts ", " (columns ++ dates)
  let values ← Build.lift ((first :: rest).mapM (rowText columns dates.length))
  let refresh ← s.refreshSegment
  return "INSERT " ++ s.ignoreText ++ "INTO " ++ s.table.display ++ " (" ++ columnList ++
    ") VALUES " ++ ", ".intercalate values ++ refresh

/-- The statement, recorded once it is built. -/
def text (s : Insert) : Build String := do
  let sql ← s.compose
  Statement.reportBuilt Log.Channel.change "INSERT" sql
  return sql

end Insert

end SqlText
