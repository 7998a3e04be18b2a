/-!
# Verbs — the four kinds of statement

    Verb.named? "DELETE"  =  some .delete
-/

namespace SqlText

/-- The kind of a statement. -/
inductive Verb where
  | select
  | insert
  | update
  | delete
deriving DecidableEq, Inhabited

namespace Verb

/-- The word that begins a statement. -/
def word : Verb → String
  | select => "SELECT"
  | insert => "INSERT"
  | update => "UPDATE"
  | delete => "DELETE"

/-- The name under which a statement's options are refused. -/
def builderName : Verb → String
  | select => "build_select"
  | insert => "build_insert"
  | update => "build_update"
  | delete => "build_delete"

/-- The four verbs. -/
def all : List Verb := [select, insert, update, delete]

/-- The verb that an upper-case word names. -/
def named? (s : String) : Option Verb := all.find? (·.word == s)

end Verb

end SqlText
