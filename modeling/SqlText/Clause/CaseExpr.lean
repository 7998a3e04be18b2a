import SqlText.Literal

/-!
# CASE expressions — values that depend on conditions

    CaseExpr.assignment (.text "pay")
      (.mapping [(.text "case", .list branches), (.text "default", .int 0)])

A CASE expression is given as a mapping with a list of branches under `case` and the value
of ELSE, if there is one, under `default`. A branch is a mapping with its condition under
`when` and its result under `then`. Conditions are written as they are and results as
literals, texts among them with their blanks.
-/

namespace SqlText

namespace CaseExpr

/-- Does a value describe a CASE expression? -/
def isDescribed : Value → Bool
  | .caseExpr _ => true
  | .mapping es => (valueAt? "case" es).isSome
  | _           => false

/-- Refuses a value that describes no branch. -/
def refuseBranch (v : Value) : Except Fault Value :=
  .error (.build (.specification (.caseBranch v)))

/-- The branch that a value describes, as a value again. -/
def branchOfValue (v : Value) : Except Fault Value :=
  match v with
  | .caseBranch b => .ok (.caseBranch b)
  | .mapping es   =>
    if (valueAt "when" es).isGiven then .ok (.caseBranch ⟨valueAt "when" es, valueAt "then" es⟩)
    else refuseBranch v
  | v             => refuseBranch v

/-- The branches and the ELSE value that a value holds, the branches not yet read. -/
def partsOf : Value → Except Fault (Value × Value)
  | .caseExpr c => .ok (c.branches, c.otherwise)
  | .mapping es =>
    .ok ((valueAt "case" es).orElse (.tuple []), (valueAt? "default" es).getD .noElse)
  | v           => .error (.build (.specification (.caseUpdate v.typeName)))

/-- The CASE expression that a value describes; it has one branch at least. -/
def ofValue (v : Value) : Except Fault CaseExpr := do
  let (branches, otherwise) ← partsOf v
  let bs ← (← branches.iterate).mapM branchOfValue
  if bs.isEmpty then throw (.build (.specification .caseEmpty))
  return ⟨.tuple bs, otherwise⟩

/-- One branch: its condition and the literal of its result. -/
def branchText : Value → Except Fault String
  | .caseBranch b => do
    return "WHEN " ++ b.condition.display ++ " THEN " ++ (← Literal.text false b.result)
  | v => .error (.noAttribute v.typeName "when")

/-- A CASE expression as it stands in an assignment. -/
def text (c : CaseExpr) : Except Fault String := do
  let branches := " ".intercalate (← (← c.branches.iterate).mapM branchText)
  match c.otherwise with
  | .noElse => return "CASE " ++ branches ++ " END"
  | v       => return "CASE " ++ branches ++ " ELSE " ++ (← Literal.text false v) ++ " END"

/-- The text of a value that has to be a CASE expression already. -/
def textOfValue : Value → Except Fault String
  | .caseExpr c => c.text
  | v           => .error (.noAttribute v.typeName "branches")

/-- The assignment of a CASE expression or a literal to a column; a text is stripped. Any
other mapping is refused. -/
def assignment (column value : Value) : Except Fault String := do
  if isDescribed value then
    return column.display ++ " = " ++ (← (← ofValue value).text)
  else
    match value with
    | .mapping _ => throw (.build (.specification (.updateValue column)))
    | v          => return column.display ++ " = " ++ (← Literal.text true v)

end CaseExpr

end SqlText
