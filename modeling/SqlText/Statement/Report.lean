import SqlText.Build

/-!
# Reports of statements — the record of a statement that was built

    Statement.reportBuilt Log.Channel.change "DELETE" "DELETE t FROM t WHERE x"

A built statement is recorded for its logger at the level of debugging, if the settings ask
for it and the logger lets such records through. A statement longer than the greatest
length is cut there and three points follow.
-/

namespace SqlText

namespace Statement

/-- Does a length come up to no more than a limit? Only numbers limit. -/
def fits (length : Nat) (limit : Value) : Except Fault Bool :=
  if limit.isDecimalNaN then .error .invalidOperation
  else
    match limit.number? with
    | some x => .ok (Number.le (.exact (Exact.ofInt length)) x)
    | none   => .error (.type (.notOrdered "<=" "int" limit.typePath))

/-- The number of characters that a limit leaves; only whole numbers cut a text. -/
def cutLength : Value → Except Fault Nat
  | .int n  => .ok n.toNat
  | .bool b => .ok (if b then 1 else 0)
  | _       => .error (.type .notAnIndex)

/-- A statement as it is recorded under a limit on its length. -/
def shortened (limit : Value) (sql : String) : Except Fault String := do
  if ← fits sql.length limit then return sql
  else return String.ofList (sql.toList.take (← cutLength limit)) ++ "..."

/-- The size of a value that has one. -/
def sizeOfValue : Value → Except Fault Nat
  | .text s     => .ok s.length
  | .bytes bs   => .ok bs.length
  | .list xs    => .ok xs.length
  | .tuple xs   => .ok xs.length
  | .mapping es => .ok es.length
  | _           => .error (.type .badCall)

/-- Any value in the place of a statement as it is recorded under a limit on its size; only
a text can be cut. -/
def shownValue (limit v : Value) : Except Fault String :=
  match v with
  | .text sql => shortened limit sql
  | v         => do
    if ← fits (← sizeOfValue v) limit then return v.display else throw (.type .badCall)

/-- Records a statement in the form in which a limit on its length leaves it. -/
def report (logger verb : String) (shown : Value → Except Fault String) : Build Unit := do
  let settings ← Build.settings "log_statements"
  if settings.logStatements.isGiven && (← Build.context).levels.lets logger .debug then
    Build.note logger .debug
      ("Built " ++ verb ++ " statement: " ++ (← shown settings.maxLoggedLength))

/-- Records a statement that was built. -/
def reportBuilt (logger verb sql : String) : Build Unit := report logger verb (shortened · sql)

/-- Records any value as if it were a statement. -/
def reportValue (logger verb : String) (v : Value) : Build Unit :=
  report logger verb (shownValue · v)

/-- Is a required input missing: does it not count as given, or is it a blank text? -/
def isMissing : Value → Bool
  | .text s => Text.isBlankText s
  | v       => !v.isGiven

/-- Refuses a statement whose required input is missing. -/
def require (logger : String) (v : Value) (field statement : String) : Build Unit := do
  if isMissing v then
    Build.note logger .error
      (statement ++ " build rejected: `" ++ field ++ "` is missing")
    Build.refuse (.missing field statement)

end Statement

end SqlText
