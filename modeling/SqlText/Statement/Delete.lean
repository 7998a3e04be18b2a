import SqlText.Clause.Join
import SqlText.Clause.OrderBy
import SqlText.Clause.Paging
import SqlText.Statement.Report

/-!
# DELETE — rows under a required condition

    ({ table := .text "users", condition := .text "age > 30" } : Delete).text

A DELETE names its table twice, so that joined tables are read and not emptied. Table and
condition are required; ordering and limit are segments as in an UPDATE.
-/

namespace SqlText

/-- The inputs of a DELETE. -/
structure Delete where
  table : Value := .null
  condition : Value := .null
  joins : Value := .null
  ordering : Value := .null
  limit : Value := .null

namespace Delete

/-- Replaces one input by the name of its option. -/
def set? (s : Delete) (name : String) (v : Value) : Option Delete :=
  match name with
  | "table" => some { s with table := v }
  | "where" => some { s with condition := v }
  | "joins" => some { s with joins := v }
  | "sort"  => some { s with ordering := v }
  | "limit" => some { s with limit := v }
  | _       => none

/-- The statement, not yet recorded. -/
def compose (s : Delete) : Build String := do
  Statement.require Log.Channel.change s.table "table" "DELETE"
  Statement.require Log.Channel.change s.condition "where" "DELETE"
  let joins ← Build.whenGiven s.joins Join.chain
  let ordering ← Build.whenGiven s.ordering OrderBy.text
  return "DELETE " ++ s.table.display ++ " FROM " ++ s.table.display ++ joins ++
    " WHERE " ++ s.condition.display ++ ordering ++ Paging.limitSegment s.limit

/-- The statement, recorded once it is built. -/
def text (s : Delete) : Build String := do
  let sql ← s.compose
  Statement.reportBuilt Log.Channel.change "DELETE" sql
  return sql

end Delete

end SqlText
