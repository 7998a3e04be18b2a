import SqlText.Build

/-!
# Joins — the tables that a statement draws in

    Join.chain (.list [.mapping [(.text "a", .text "id"), (.text "b", .text "a_id")]])

A join is described by a mapping. The keys `type`, `on` and `operator` are directives; every
other entry pairs a table with a column. A condition under `on`, with one pair at least,
joins the table under `table` or else the first pair's on that condition. Without a
condition there have to be exactly two pairs, and the second table is joined where the two
columns compare by the operator. An unknown kind or operator is written as given and
reported.
-/

namespace SqlText

namespace Join

/-- The keys of a description that are no tables. -/
def directives : List String := ["type", "on", "operator"]

/-- The kinds of join that are known. -/
def knownKinds : List String :=
  ["JOIN", "INNER JOIN", "OUTER JOIN", "CROSS JOIN", "RIGHT JOIN", "LEFT JOIN",
    "LEFT OUTER JOIN", "RIGHT OUTER JOIN", "STRAIGHT_JOIN", "NATURAL JOIN"]

/-- The comparison operators that are known. -/
def knownOperators : List String :=
  ["=", "!=", "<>", "<", ">", "<=", ">=", "LIKE", "IN", "BETWEEN"]

/-- Is a word among the known ones, letter case aside? Only texts and byte strings can be
asked, and no byte string is known. -/
def isKnown (words : List String) : Value → Except Fault Bool
  | .text s  => .ok (words.contains (Text.upper s))
  | .bytes _ => .ok false
  | v        => .error (.noAttribute v.typeName "upper")

/-- Reports a word that is not among the known ones. -/
def reportUnknown (what : String) (words : List String) (word : Value) : Build Unit := do
  if ← isKnown words word then return ()
  else
    Build.note Log.Channel.clauses .warning
      ("Unknown join " ++ what ++ " '" ++ word.display ++ "', rendering it as given")

/-- The kind of a join. -/
def kind : Join → Value
  | explicit _ _ k   => k
  | equi _ _ _ _ _ k => k

/-- Reports what is unknown about a join: its kind, and then its operator. -/
def report (j : Join) : Build Unit := do
  reportUnknown "type" knownKinds j.kind
  match j with
  | explicit ..       => return ()
  | equi _ _ _ _ op _ => reportUnknown "operator" knownOperators op

/-- The entries of a description that pair a table with a column. -/
def pairs (es : List (Value × Value)) : List (Value × Value) :=
  es.filter fun e => !directives.any fun d => e.1.isText d

/-- The join that a mapping describes, unknown words not yet reported. -/
def ofEntries (es : List (Value × Value)) : Build Join := do
  let kind := (valueAt "type" es).orElse (.text "JOIN")
  let operator := (valueAt "operator" es).orElse (.text "=")
  let condition := valueAt "on" es
  match condition.isGiven, pairs es with
  | true, p :: _ => return .explicit ((valueAt "table" es).orElse p.1) condition kind
  | _, [left, right] => return .equi left.1 left.2 right.1 right.2 operator kind
  | _, ps =>
    Build.note Log.Channel.clauses .error
      ("Invalid join descriptor " ++ (Value.mapping es).inspect ++ ": found " ++
        ps.length.repr ++ " table/column pairs")
    Build.refuse (.joinSpec (.int ps.length) (.bool (valueAt? "type" es).isNone))

/-- The join that a value describes. -/
def ofValue (v : Value) : Build Join := do
  match v with
  | .join j     =>
    j.report
    return j
  | .mapping es =>
    let j ← ofEntries es
    j.report
    return j
  | v           => Build.refuse (.specification (.join v.typeName))

/-- A join as its segment. -/
def segment : Join → String
  | explicit table condition kind =>
    " " ++ kind.display ++ " " ++ table.display ++ " ON " ++ condition.display
  | equi leftTable leftColumn rightTable rightColumn operator kind =>
    " " ++ kind.display ++ " " ++ rightTable.display ++ " ON " ++
      leftTable.display ++ "." ++ leftColumn.display ++ " " ++ operator.display ++ " " ++
      rightTable.display ++ "." ++ rightColumn.display

/-- The segment of a value that has to be a join already. -/
def segmentOfValue : Value → Except Fault String
  | .join j => .ok j.segment
  | v       => .error (.type (.joinVariant v))

/-- A chain of joins, one blank between the segments besides their own. All descriptions
are read before any is written. -/
def chain (v : Value) : Build String := do
  if !v.isGiven then return ""
  else
    match v with
    | .mapping _ => Build.refuse (.specification (.joins v.typeName))
    | .text _    => Build.refuse (.specification (.joins v.typeName))
    | v          =>
      let js ← (← v.iterate).mapM ofValue
      return " ".intercalate (js.map segment)

end Join

end SqlText
