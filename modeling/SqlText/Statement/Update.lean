import SqlText.Clause.CaseExpr
import SqlText.Clause.Join
import SqlText.Clause.OrderBy
import SqlText.Clause.Paging
import SqlText.Statement.Report

/-!
# UPDATE — groups of assignments under a required condition

    ({ table := .text "t", condition := .text "id = 1", nulls := .list [.text "a"] } : Update).text

The assignments come in five groups: values, calculations, subqueries, columns set to null
and columns set to their defaults. An empty group leaves no trace. Table and condition are
required; a statement without any assignment is written all the same and reported.
-/

namespace SqlText

/-- The inputs of an UPDATE. -/
structure Update where
  table : Value := .null
  condition : Value := .null
  joins : Value := .null
  values : Value := .null
  nulls : Value := .null
  defaults : Value := .null
  limit : Value := .null
  ordering : Value := .null
  subQueries : Value := .null
  calculations : Value := .null

namespace Update

/-- Replaces one input by the name of its option. -/
def set? (s : Update) (name : String) (v : Value) : Option Update :=
  match name with
  | "table"            => some { s with table := v }
  | "where"            => some { s with condition := v }
  | "joins"            => some { s with joins := v }
  | "update_data"      => some { s with values := v }
  | "null_values"      => some { s with nulls := v }
  | "default_values"   => some { s with defaults := v }
  | "limit"            => some { s with limit := v }
  | "sort"             => some { s with ordering := v }
  | "from_sub_query"   => some { s with subQueries := v }
  | "set_calculations" => some { s with calculations := v }
  | _                  => none

/-- The text of a group: its items in a row, and no text unless its input counts as given. -/
def groupText (v : Value) (items : Value → Except Fault (List String)) : Except Fault String := do
  if v.isGiven then return ", ".intercalate (← items v) else return ""

/-- One item for each column and its value. -/
def valueItems (v : Value) : Except Fault (List String) := do
  (← v.items).mapM fun e => CaseExpr.assignment e.1 e.2

/-- One item for each column and its expression, written as it is. -/
def expressionItems (v : Value) : Except Fault (List String) := do
  return (← v.items).map fun e => e.1.display ++ " = " ++ e.2.display

/-- One item for each column that is set to a keyword. -/
def keywordItems (keyword : String) (v : Value) : Except Fault (List String) := do
  return (← v.iterate).map fun c => c.display ++ " = " ++ keyword

/-- The assignments: the texts of the five groups in a row, without those that are empty. -/
def assignments (s : Update) : Except Fault String := do
  let values ← groupText s.values valueItems
  let calculations ← groupText s.calculations expressionItems
  let subQueries ← groupText s.subQueries expressionItems
  let nulls ← groupText s.nulls (keywordItems "NULL")
  let defaults ← groupText s.defaults (keywordItems "DEFAULT")
  return ", ".intercalate ([values, calculations, subQueries, nulls, defaults].filter (· ≠ ""))

/-- The statement, not yet recorded. -/
def compose (s : Update) : Build String := do
  Statement.require Log.Channel.change s.table "table" "UPDATE"
  Statement.require Log.Channel.change s.condition "where" "UPDATE"
  let assignments ← s.assignments
  if assignments.isEmpty then
    Build.note Log.Channel.change .warning
      ("Building UPDATE on '" ++ s.table.display ++ "' without any assignments")
  -- the joins stand before the table, but are read after the assignments
  let joins ← Join.chain s.joins
  let ordering ← Build.whenGiven s.ordering OrderBy.text
  return "UPDATE" ++ joins ++ " " ++ s.table.display ++ " SET " ++ assignments ++
    " WHERE " ++ s.condition.display ++ ordering ++ Paging.limitSegment s.limit

/-- The statement, recorded once it is built. -/
def text (s : Update) : Build String := do
  let sql ← s.compose
  Statement.reportBuilt Log.Channel.change "UPDATE" sql
  return sql

end Update

end SqlText
