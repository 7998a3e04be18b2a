import SqlText.Build

/-!
# Columns — the items of a select list and of a grouping

    Columns.listText (.mapping [(.text "users", .list [.text "id", .text "name"])])

Columns are given as a text, as a list of names, or as a mapping from table aliases to
lists of names, each of which is written after its alias and a point. In a mapping the key
`extra` is no alias: what stands under it is written as it is. Entries of a mapping that
hold no list are left out.
-/

namespace SqlText

namespace Columns

/-- The key under which a mapping holds items that belong to no alias. -/
def extraKey : String := "extra"

/-- The texts of a list of values, as a tuple. -/
def displays (vs : List Value) : Value := .tuple (vs.map fun v => .text v.display)

/-- Items that belong to no alias. -/
def extraGroup (columns : Value) : Except Fault ColumnGroup :=
  match columns, columns.sequence? with
  | .text s, _       => .ok ⟨.null, .tuple [.text s]⟩
  | _,       some vs => .ok ⟨.null, displays vs⟩
  | _,       none    =>
    .error (.build (.specification (.extraColumns columns.typeName)))

/-- The group that one entry of a mapping describes, if it describes one. -/
def groupOf (table columns : Value) : Build (Option ColumnGroup) := do
  if table.isText extraKey then return some (← extraGroup columns)
  else
    match columns.sequence? with
    | some vs => return some ⟨table, displays vs⟩
    | none    =>
      Build.note Log.Channel.clauses .debug
        ("Ignoring column entry '" ++ table.display ++ "': value is not a list")
      return none

/-- The groups of a mapping, in its order. -/
def groupsOf (es : List (Value × Value)) : Build (List ColumnGroup) := do
  return (← es.mapM fun e => groupOf e.1 e.2).filterMap id

/-- The columns that a value describes; none for an absent or empty value. -/
def ofValue? (v : Value) : Build (Option Columns) := do
  match v with
  | .columns c => return some c
  | .null      => return none
  | .text s    => return if s.isEmpty then none else some (.raw v)
  | .list vs   => return if vs.isEmpty then none else some (.names (displays vs))
  | .tuple vs  => return if vs.isEmpty then none else some (.names (displays vs))
  | .mapping es =>
    if es.isEmpty then return none
    else return some (.tables (.tuple ((← groupsOf es).map .columnGroup)))
  | v          => Build.refuse (.specification (.columns v.typeName))

/-- The items of one group: one item for a group without an alias, and one to a column for
the others. -/
def groupPieces : Value → Except Fault (List String)
  | .columnGroup ⟨.null, columns⟩ => do return [← columns.joinItems ", "]
  | .columnGroup ⟨table, columns⟩ => do
    return (← columns.iterate).map fun c => table.display ++ "." ++ c.display
  | v => .error (.noAttribute v.typeName "is_extra")

/-- The items that columns contribute; empty items of a group are left out. -/
def pieces : Columns → Except Fault (List Value)
  | raw content   => .ok [content]
  | names ns      => ns.iterate
  | tables groups => do
    let ps ← (← groups.iterate).mapM groupPieces
    return (ps.flatten.filter (· ≠ "")).map .text

/-- The items of columns that may be absent. -/
def piecesOf? : Option Columns → Except Fault (List Value)
  | none   => .ok []
  | some c => c.pieces

/-- The items of a value that has to be columns already, or absent. -/
def piecesOfValue : Value → Except Fault (List Value)
  | .null      => .ok []
  | .columns c => c.pieces
  | v          => .error (.type (.columnVariant v))

/-- The columns as a list for SELECT. -/
def listText (v : Value) : Build String := do
  joinTexts ", " (← piecesOf? (← ofValue? v))

/-- The columns as a GROUP BY segment, empty where there is no item. -/
def groupText (v : Value) : Build String := do
  let ps ← piecesOf? (← ofValue? v)
  if ps.isEmpty then return ""
  else return " GROUP BY " ++ (← joinTexts ", " ps)

end Columns

end SqlText
