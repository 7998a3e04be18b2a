import SqlText.Clause.Aggregate
import SqlText.Clause.Columns
import SqlText.Clause.Join
import SqlText.Clause.OrderBy
import SqlText.Clause.Paging
import SqlText.Clause.RecursiveCte
import SqlText.Clause.SubQuery
import SqlText.Statement.Report

/-!
# SELECT — segments in the order of the grammar

    ({ table := .text "users", columns := .list [.text "id"] } : Select).text

A SELECT is written segment after segment: the recursive relation, the select list, the
source, joins, condition, grouping, condition on groups, ordering and paging. Each segment
depends on its own input alone and is empty where that does not count as given. A missing
source is refused in strict mode and only reported otherwise.
-/

namespace SqlText

/-- The inputs of a SELECT. -/
structure Select where
  table : Value := .null
  columns : Value := .null
  distinct : Value := .bool false
  subQueries : Value := .null
  aggregates : Value := .null
  joins : Value := .null
  condition : Value := .null
  grouping : Value := .null
  having : Value := .null
  ordering : Value := .null
  paging : Value := .null
  recursiveCte : Value := .null

namespace Select

/-- Replaces one input by the name of its option. -/
def set? (s : Select) (name : String) (v : Value) : Option Select :=
  match name with
  | "table"         => some { s with table := v }
  | "columns"       => some { s with columns := v }
  | "distinct"      => some { s with distinct := v }
  | "sub_queries"   => some { s with subQueries := v }
  | "aggregates"    => some { s with aggregates := v }
  | "joins"         => some { s with joins := v }
  | "where"         => some { s with condition := v }
  | "group_by"      => some { s with grouping := v }
  | "having"        => some { s with having := v }
  | "sort"          => some { s with ordering := v }
  | "limit_skip"    => some { s with paging := v }
  | "recursive_cte" => some { s with recursiveCte := v }
  | _               => none

/-- The select list: columns, subqueries and aggregates, or an asterisk for none of them. -/
def listText (columns subQueries aggregates : Value) : Build String := do
  let cs ← Columns.listText columns
  let qs ← SubQuery.listText subQueries
  let ags ← Aggregate.listText aggregates
  let pieces := [cs, qs, ags].filter (· ≠ "")
  return if pieces.isEmpty then "*" else ", ".intercalate pieces

/-- The recursive relation's segment and the source: the relation's alias where there is a
relation, and the table where there is none. -/
def source (s : Select) : Except Fault (String × Value) := do
  if s.recursiveCte.isGiven then
    let c ← RecursiveCte.ofValue s.recursiveCte
    return (c.segment, c.label)
  else return ("", s.table)

/-- The name of the input that gives the source. -/
def sourceField (s : Select) : String :=
  if s.recursiveCte.isGiven then "recursive_cte.alias" else "table"

/-- Refuses a missing source in strict mode and reports it otherwise. -/
def checkSource (s : Select) (source : Value) : Build Unit := do
  if !source.isGiven then
    if (← Build.settings "strict_select").strictSelect.isGiven then
      Build.note Log.Channel.selection .error
        ("SELECT build rejected: `" ++ s.sourceField ++ "` is missing")
      Build.refuse (.missing s.sourceField "SELECT")
    else
      Build.note Log.Channel.selection .warning
        "Building SELECT without a table; the statement will not be valid SQL"

/-- An input that is written as it is after a word, empty unless it counts as given. -/
def wordSegment (word : String) (v : Value) : String :=
  if v.isGiven then word ++ v.display else ""

/-- The statement, not yet recorded. -/
def compose (s : Select) : Build String := do
  -- the source is settled first, so a bad relation is the fault before a missing table
  let (relation, source) ← s.source
  s.checkSource source
  let list ← listText s.columns s.subQueries s.aggregates
  let joins ← Build.whenGiven s.joins Join.chain
  let grouping ← Build.whenGiven s.grouping Columns.groupText
  let ordering ← Build.whenGiven s.ordering OrderBy.text
  let paging ← Build.whenGiven s.paging fun v => Paging.text v
  return Text.strip (relation ++ "SELECT " ++
    (if s.distinct.isGiven then "DISTINCT " else "") ++ list ++ " FROM " ++
    (source.orElse (.text "")).display ++ joins ++ wordSegment " WHERE " s.condition ++
    grouping ++ wordSegment " HAVING " s.having ++ ordering ++ paging)

/-- The statement, recorded once it is built. -/
def text (s : Select) : Build String := do
  let sql ← s.compose
  Statement.reportBuilt Log.Channel.selection "SELECT" sql
  return sql

end Select

end SqlText
