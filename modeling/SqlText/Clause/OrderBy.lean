import SqlText.Build

/-!
# Ordering — the keys by which rows are sorted

    OrderBy.text (.mapping [(.text "users", .mapping [(.text "name", .int 1)])])

An ordering is given as a text, or as a mapping from columns to direction codes; under a
table alias a mapping may hold such a mapping in turn. The code one sorts upwards and every
other code downwards. Entries at the top that are neither a number nor a mapping are left
out.
-/

namespace SqlText

/-- The word for the direction that a code stands for: upwards for exactly one, and
downwards for all else. -/
def directionFor : Value → String
  | .int n   => if n = 1 then "ASC" else "DESC"
  | .float x => if x.isOne then "ASC" else "DESC"
  | _        => "DESC"

namespace OrderBy

/-- A key of the ordering, qualified by an alias or not. -/
def keyOf (table column code : Value) : SortKey := ⟨column, .text (directionFor code), table⟩

/-- The keys that one entry of a mapping describes. -/
def keysOf (name direction : Value) : Build (List SortKey) := do
  if direction.isPlainNumber then return [keyOf .null name direction]
  else
    match direction with
    | .mapping es => return es.map fun e => keyOf name e.1 e.2
    | _           =>
      Build.note Log.Channel.clauses .debug
        ("Ignoring sort entry '" ++ name.display ++ "': unsupported direction " ++
          direction.inspect)
      return []

/-- The ordering that a value describes; none for an absent or empty value. -/
def ofValue? (v : Value) : Build (Option OrderBy) := do
  match v with
  | .orderBy o => return some o
  | .null      => return none
  | .text s    => return if s.isEmpty then none else some (.raw v)
  | .mapping es =>
    if es.isEmpty then return none
    else
      let ks ← es.mapM fun e => keysOf e.1 e.2
      return some (.keys (.tuple (ks.flatten.map .sortKey)))
  | v =>
    if v.isAbsent then return none
    else Build.refuse (.specification (.orderBy v.typeName))

/-- One key of the ordering: its column, after its alias if it has one, and its direction. -/
def keyText : Value → Except Fault String
  | .sortKey ⟨column, direction, table⟩ =>
    .ok ((if table.isGiven then table.display ++ "." else "") ++ column.display ++ " " ++
      direction.display)
  | v => .error (.noAttribute v.typeName "table")

/-- An ordering as its segment, empty where there is no key. -/
def segment : OrderBy → Except Fault String
  | raw content => .ok (" ORDER BY " ++ content.display)
  | keys ks     => do
    let ts ← (← ks.iterate).mapM keyText
    return if ts.isEmpty then "" else " ORDER BY " ++ ", ".intercalate ts

/-- The ordering that a value describes as its segment. -/
def text (v : Value) : Build String := do
  match ← ofValue? v with
  | none   => return ""
  | some o => o.segment

end OrderBy

end SqlText
