import SqlText.Log.Level

/-!
# Logger levels — which records a named logger lets through

    ((({} : Levels).set "app" 40).add "app.store").effective "app.store"  =  40

Loggers form a tree by the dots in their names. A logger hangs from its nearest ancestor
that was asked for before, and moves to a nearer one that is asked for later. A logger
without a level of its own takes that of the first logger above it that has one, and the
root's level when none has.
-/

namespace SqlText.Log

/-- A logger that was asked for: its own level, zero where none is set, and the logger from
which it hangs, none for the root. -/
structure Logger where
  name : String
  level : Nat := 0
  parent : Option String
deriving DecidableEq

/-- The root's level and the loggers that were asked for. -/
structure Levels where
  root : Nat := 30
  loggers : List Logger := []

namespace Levels

/-- The name of the root. -/
def rootName : String := "root"

/-- Is the name one of the root's? -/
def isRoot (name : String) : Bool := name == "" || name == rootName

/-- The beginnings of a name that end before one of its dots, the longest first; the name
and the results are reversed. Of two dots side by side only the second one counts. -/
def beginnings : List Char → List (List Char)
  | []             => []
  | '.' :: c :: cs => (c :: cs) :: beginnings cs
  | _ :: cs        => beginnings cs

/-- The names of the possible ancestors of a logger, the nearest first. -/
def ancestors (name : String) : List String :=
  (beginnings name.toList.reverse).map fun cs => String.ofList cs.reverse

/-- The logger of this name, if it was asked for. -/
def find? (l : Levels) (name : String) : Option Logger := l.loggers.find? (·.name == name)

/-- The nearest ancestor that was asked for. -/
def nearest? (l : Levels) (name : String) : Option String :=
  (ancestors name).find? fun a => (l.find? a).isSome

/-- The logger from which a name hangs. -/
def parent? (l : Levels) (name : String) : Option String :=
  match l.find? name with
  | some g => g.parent
  | none   => l.nearest? name

/-- The level set on a named logger, zero when there is none. -/
def ownLevel (l : Levels) (name : String) : Nat := ((l.find? name).map Logger.level).getD 0

/-- The level that decides for a name after at most as many steps up the tree as given. -/
def effectiveWithin (l : Levels) : Nat → String → Nat
  | 0,     _    => l.root
  | n + 1, name =>
    if l.ownLevel name != 0 then l.ownLevel name
    else
      match l.parent? name with
      | some above => l.effectiveWithin n above
      | none       => l.root

/-- The level that decides for a named logger. The name grows shorter with each step up the
tree, so that its length bounds their number. -/
def effective (l : Levels) (name : String) : Nat := l.effectiveWithin (name.length + 1) name

/-- Hangs a logger from a new one where that is among its ancestors, unless the name from
which it hangs begins with the new one. -/
def rehang (added : String) (g : Logger) : Logger :=
  let above := g.parent.getD rootName
  if (ancestors g.name).contains added && !added.toList.isPrefixOf above.toList then
    { g with parent := some added }
  else g

/-- The tree with a logger that is asked for. -/
def add (l : Levels) (name : String) : Levels :=
  if isRoot name || (l.find? name).isSome then l
  else
    { l with
      loggers := l.loggers.map (rehang name) ++ [{ name, parent := l.nearest? name }] }

/-- Sets the level of a logger. -/
def set (l : Levels) (name : String) (level : Nat) : Levels :=
  if isRoot name then { l with root := level }
  else
    { l with
      loggers := (l.add name).loggers.map fun g => if g.name == name then { g with level } else g }

/-- Does a logger let records of a severity through? -/
def lets (l : Levels) (name : String) (s : Severity) : Bool :=
  l.effective name ≤ s.number

end Levels

end SqlText.Log
