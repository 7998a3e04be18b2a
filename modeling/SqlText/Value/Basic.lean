import SqlText.Calendar
import SqlText.Number.Decimal
import SqlText.Number.Double

/-!
# Values — what a caller may hand to a statement

    Value.mapping [(.text "users", .list [.text "id", .text "name"])]

Statements are described by data of any shape: texts, numbers, lists and mappings, SQL
fragments taken as they are, and clause descriptions that were built before. All of these
are values. A clause description (`Columns`, `OrderBy`, `Join` and the others) is a typed
record whose fields are values again, for nothing is checked until a statement is written.

An SQL fragment is different: what it holds is text, by the type of its one field, and it is
written as it is. A fragment that is made of anything else is outside the program.
-/

namespace SqlText

mutual

/-- Anything that may stand in the description of a statement. -/
inductive Value where
  | null
  | bool (b : Bool)
  | int (n : Int)
  | float (x : Double)
  | decimal (d : Decimal)
  | text (s : String)
  | bytes (bs : List UInt8)
  | list (items : List Value)
  | tuple (items : List Value)
  /-- A mapping in insertion order; its keys are distinct. -/
  | mapping (entries : List (Value × Value))
  | date (d : Date)
  | datetime (t : DateTime)
  /-- An SQL expression that is written without quotes. -/
  | raw (expression : String)
  /-- A bare SQL keyword in the place of a value. -/
  | keyword (name : String)
  /-- The default of a CASE without an ELSE branch. -/
  | noElse
  | columns (c : Columns)
  | columnGroup (g : ColumnGroup)
  | orderBy (o : OrderBy)
  | sortKey (k : SortKey)
  | join (j : Join)
  | subQuery (q : SubQuery)
  | aggregate (a : Aggregate)
  | recursiveCte (c : RecursiveCte)
  | paging (p : Paging)
  | caseBranch (b : CaseBranch)
  | caseExpr (c : CaseExpr)
  | settings (s : Settings)

/-- The columns of a select list or of a grouping. -/
inductive Columns where
  /-- Column text that is written as it is. -/
  | raw (content : Value)
  /-- Plain column names. -/
  | names (names : Value)
  /-- Columns of several tables, each group a `ColumnGroup`. -/
  | tables (groups : Value)

/-- The columns of one table alias; without an alias they are written as they are. -/
structure ColumnGroup where
  table : Value
  columns : Value

/-- The keys by which rows are ordered. -/
inductive OrderBy where
  /-- Ordering text that is written as it is. -/
  | raw (content : Value)
  /-- Ordering keys, each a `SortKey`. -/
  | keys (keys : Value)

/-- One ordering key: a column, its direction and the alias of its table, if any. -/
structure SortKey where
  column : Value
  direction : Value
  table : Value

/-- One joined table. -/
inductive Join where
  /-- A table joined on a condition that is written as it is. -/
  | explicit (table condition kind : Value)
  /-- The right table joined where the two columns compare by the operator. -/
  | equi (leftTable leftColumn rightTable rightColumn operator kind : Value)

/-- A query in parentheses within a select list. -/
structure SubQuery where
  query : Value
  label : Value

/-- Aggregate calls, pairs of function and expression, that may share one alias. -/
structure Aggregate where
  functions : Value
  label : Value

/-- A recursive relation that is queried in place of a table. -/
structure RecursiveCte where
  baseCase : Value
  recursiveCase : Value
  label : Value

/-- How many rows are read, and how many are passed over before. -/
structure Paging where
  limit : Value
  skip : Value

/-- One branch of a CASE expression. -/
structure CaseBranch where
  condition : Value
  result : Value

/-- A CASE expression: its branches, and the value of ELSE or `noElse`. -/
structure CaseExpr where
  branches : Value
  otherwise : Value

/-- How statements are logged and how strictly a SELECT is checked. -/
structure Settings where
  logLevel : Value
  logFile : Value
  logDir : Value
  useColors : Value
  logStatements : Value
  maxLoggedLength : Value
  strictSelect : Value

end

instance : Inhabited Value := ⟨.null⟩

namespace Value

/-- The name of a value's kind, as diagnostics show it. -/
def typeName : Value → String
  | null                => "NoneType"
  | bool _              => "bool"
  | int _               => "int"
  | float _             => "float"
  | decimal _           => "Decimal"
  | text _              => "str"
  | bytes _             => "bytes"
  | list _              => "list"
  | tuple _             => "tuple"
  | mapping _           => "dict"
  | date _              => "date"
  | datetime _          => "datetime"
  | raw _               => "Raw"
  | keyword _           => "Keyword"
  | noElse              => "_NoElse"
  | columns (.raw _)    => "RawColumns"
  | columns (.names _)  => "ColumnList"
  | columns (.tables _) => "TableColumns"
  | columnGroup _       => "ColumnGroup"
  | orderBy (.raw _)    => "RawSort"
  | orderBy (.keys _)   => "SortKeys"
  | sortKey _           => "SortKey"
  | join (.explicit ..) => "ExplicitJoin"
  | join (.equi ..)     => "EquiJoin"
  | subQuery _          => "SubQuery"
  | aggregate _         => "Aggregate"
  | recursiveCte _      => "RecursiveCTE"
  | paging _            => "LimitSkip"
  | caseBranch _        => "CaseBranch"
  | caseExpr _          => "CaseUpdate"
  | settings _          => "Config"

/-- The name of a value's kind after that of its library, for the kinds that belong to one. -/
def typePath : Value → String
  | decimal _  => "decimal.Decimal"
  | date _     => "datetime.date"
  | datetime _ => "datetime.datetime"
  | v          => v.typeName

/-- Does the value count as given? Null, false, zeros and everything empty do not. -/
def isGiven : Value → Bool
  | null       => false
  | bool b     => b
  | int n      => n != 0
  | float x    => !x.isZero
  | decimal d  => !d.isZero
  | text s     => !s.isEmpty
  | bytes bs   => !bs.isEmpty
  | list xs    => !xs.isEmpty
  | tuple xs   => !xs.isEmpty
  | mapping es => !es.isEmpty
  | _          => true

/-- The value itself where it counts as given, and the other one where it does not. -/
def orElse (v other : Value) : Value := if v.isGiven then v else other

/-- Is the value a whole number or a double? Truth values are no numbers here. -/
def isPlainNumber : Value → Bool
  | int _   => true
  | float _ => true
  | _       => false

/-- The items of a list or a tuple. -/
def sequence? : Value → Option (List Value)
  | list xs  => some xs
  | tuple xs => some xs
  | _        => none

/-- The entries of a mapping. -/
def entries? : Value → Option (List (Value × Value))
  | mapping es => some es
  | _          => none

/-- Null, or an empty text, list, tuple or mapping. -/
def isAbsent : Value → Bool
  | null       => true
  | text s     => s.isEmpty
  | list xs    => xs.isEmpty
  | tuple xs   => xs.isEmpty
  | mapping es => es.isEmpty
  | _          => false

/-- Is the value this text? -/
def isText (s : String) : Value → Bool
  | text t => t == s
  | _      => false

end Value

/-- The entry of a mapping under a text key. -/
def valueAt? (key : String) : List (Value × Value) → Option Value
  | []           => none
  | (k, v) :: es => if k.isText key then some v else valueAt? key es

/-- The entry under a text key, null where there is none. -/
def valueAt (key : String) (es : List (Value × Value)) : Value := (valueAt? key es).getD .null

end SqlText
