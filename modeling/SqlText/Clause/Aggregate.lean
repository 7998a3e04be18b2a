import SqlText.Value.Access

/-!
# Aggregates — calls over the rows of a group

    Aggregate.listText (.list [.mapping [(.text "COUNT", .text "id")]])

An aggregate is given as a mapping from functions to expressions. Under the key `alias` it
may hold one alias for all its calls, which then follows the last of them. Without one each
call has the alias of its function, or the function's own name where it has none.
-/

namespace SqlText

namespace Aggregate

/-- The alias of a function's call. -/
def aliasOf? : String → Option String
  | "MIN"   => some "minimum"
  | "MAX"   => some "maximum"
  | "SUM"   => some "summation"
  | "COUNT" => some "count"
  | "AVG"   => some "average"
  | _       => none

/-- The alias of a call whose function may be any value that a table can be asked for. -/
def aliasFor (function : Value) : Except Fault String := do
  function.requireHashable
  match function with
  | .text s => return (aliasOf? s).getD s
  | v       => return v.display

/-- The aggregate that a value describes. -/
def ofValue : Value → Except Fault Aggregate
  | .aggregate a => .ok a
  | .mapping es  =>
    let functions := es.filter fun e => !e.1.isText "alias"
    if functions.isEmpty then .error (.build (.specification .aggregateEmpty))
    else
      .ok ⟨.tuple (functions.map fun e => .tuple [e.1, .text e.2.display]),
        (valueAt "alias" es).orElse .null⟩
  | v            => .error (.build (.specification (.aggregate v.typeName)))

/-- A function applied to its expression. -/
def callText (function expression : Value) : String :=
  function.display ++ "(" ++ expression.display ++ ")"

/-- One call of an aggregate whose alias follows its last call. -/
def sharedCall (v : Value) : Except Fault String := do
  let (function, expression) ← v.unpackPair
  return callText function expression

/-- One call with its own alias. -/
def ownCall (v : Value) : Except Fault String := do
  let (function, expression) ← v.unpackPair
  return callText function expression ++ " AS " ++ (← aliasFor function)

/-- The calls of an aggregate with their aliases. -/
def text (a : Aggregate) : Except Fault String := do
  if a.label.isGiven then
    return ", ".intercalate (← (← a.functions.iterate).mapM sharedCall) ++ " AS " ++
      a.label.display
  else return ", ".intercalate (← (← a.functions.iterate).mapM ownCall)

/-- The calls of the aggregate that a value describes. -/
def itemText (v : Value) : Except Fault String := do (← ofValue v).text

/-- The aggregates that a value lists, as items of a select list. -/
def listText (v : Value) : Except Fault String := do
  if v.isGiven then return ", ".intercalate (← (← v.iterate).mapM itemText)
  else return ""

end Aggregate

end SqlText
