import SqlText.Value.Access

/-!
# Subqueries — queries in parentheses within a select list

    SubQuery.listText (.list [.mapping [(.text "query", .text "SELECT 1"),
      (.text "as", .text "n")]])

A subquery is given as a text, or as a mapping that holds the text under `query` and its
alias under `as` or else under `alias`. A mapping has to hold a query that is not empty.
-/

namespace SqlText

namespace SubQuery

/-- The subquery that a value describes. -/
def ofValue : Value → Except Fault SubQuery
  | .subQuery q => .ok q
  | .text s     => .ok ⟨.text s, .null⟩
  | .mapping es =>
    if (valueAt "query" es).isGiven then
      .ok ⟨valueAt "query" es, (valueAt "as" es).orElse (valueAt "alias" es)⟩
    else .error (.build (.specification .subQueryEmpty))
  | v           => .error (.build (.specification (.subQuery v.typeName)))

/-- A subquery as one item: in parentheses, and with its alias if it has one. -/
def text (q : SubQuery) : String :=
  "(" ++ q.query.display ++ ")" ++ (if q.label.isGiven then " AS " ++ q.label.display else "")

/-- The subqueries that a value lists, as items of a select list. -/
def listText (v : Value) : Except Fault String := do
  if v.isGiven then return ", ".intercalate ((← (← v.iterate).mapM ofValue).map text)
  else return ""

end SubQuery

end SqlText
