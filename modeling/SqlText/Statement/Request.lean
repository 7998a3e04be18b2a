import SqlText.Statement.Delete
import SqlText.Statement.Insert
import SqlText.Statement.Select
import SqlText.Statement.Update

/-!
# Requests — statements by verb and named options

    Statement.request (.text "delete") [("table", .text "t"), ("where", .text "x")]

A request names one of four verbs, blanks and letter case aside, and options by name. An
option that the statement does not take, and any value of the wrong kind on the way, is
reported and refused with the verb. A request may also be one mapping of options, in which
thirteen options have a second spelling.
-/

namespace SqlText

/-- A statement by its inputs. -/
inductive Statement where
  | select (s : Select)
  | insert (s : Insert)
  | update (s : Update)
  | delete (s : Delete)

namespace Statement

/-- The statement of a verb without any input. -/
def blank : Verb → Statement
  | .select => .select {}
  | .insert => .insert {}
  | .update => .update {}
  | .delete => .delete {}

/-- Replaces one input by the name of its option. -/
def set? (name : String) (v : Value) : Statement → Option Statement
  | select s => (s.set? name v).map select
  | insert s => (s.set? name v).map insert
  | update s => (s.set? name v).map update
  | delete s => (s.set? name v).map delete

/-- Replaces inputs one after the other; the first option that is not taken is refused. -/
def assign (builder : String) (s : Statement) :
    List (String × Value) → Except Fault Statement
  | []              => .ok s
  | (name, v) :: os =>
    match s.set? name v with
    | some t => assign builder t os
    | none   => .error (.type (.unexpectedOption builder name))

/-- The statement of a verb with the options given. -/
def ofOptions (verb : Verb) (options : List (String × Value)) : Except Fault Statement :=
  assign verb.builderName (blank verb) options

/-- The statement, recorded once it is built. -/
def text : Statement → Build String
  | select s => s.text
  | insert s => s.text
  | update s => s.text
  | delete s => s.text

/-- Builds the statement of a verb; options and values of the wrong kind are reported and
refused with the verb. -/
def ofVerb (verb : Verb) (options : List (String × Value)) : Build String :=
  Build.onTypeFault
    (do (← ofOptions verb options).text)
    (fun fault => do
      Build.note Log.Channel.request .error (BadRequest.invalidOptions verb fault).message
      Build.refuse (.request (.invalidOptions verb fault)))

/-- Builds the statement that a value names as its verb. -/
def request (kind : Value) (options : List (String × Value)) : Build String :=
  match Verb.named? (Text.upper (Text.strip kind.display)) with
  | some verb => ofVerb verb options
  | none      => do
    Build.note Log.Channel.request .error ("Unknown statement kind: " ++ kind.inspect)
    Build.refuse (.request (.unknownKind kind))

/-! ## Requests as one mapping -/

/-- The name of the option that a second spelling stands for. -/
def respelled : String → String
  | "subQueries"    => "sub_queries"
  | "groupBy"       => "group_by"
  | "limitSkip"     => "limit_skip"
  | "recursiveCTE"  => "recursive_cte"
  | "insertData"    => "insert_data"
  | "dateFields"    => "date_fields"
  | "uniqueColumn"  => "unique_column"
  | "onDuplicateUpdateFields" => "on_duplicate_update_fields"
  | "updateData"    => "update_data"
  | "nullValues"    => "null_values"
  | "defaultValues" => "default_values"
  | "fromSubQuery"  => "from_sub_query"
  | "setCalculations" => "set_calculations"
  | name            => name

/-- A key under the name of its option; keys that are no text stay as they are. -/
def respelledKey : Value → Value
  | .text s => .text (respelled s)
  | v       => v

/-- A mapping of options under their names. Where two entries have one name, the place is
that of the first and the value that of the last. -/
def normalized (es : List (Value × Value)) : List (Value × Value) :=
  es.foldl (fun acc e => insertEntry (respelledKey e.1) e.2 acc) []

/-- The options of a mapping: every key has to be a text other than `kind`. -/
def optionsOf : List (Value × Value) → Except Fault (List (String × Value))
  | []                 => .ok []
  | (.text name, v) :: es =>
    if name == "kind" then .error (.type .badCall)
    else (optionsOf es).map ((name, v) :: ·)
  | _ :: _             => .error (.type .badCall)

/-- Builds the statement that a kind and one mapping of options describe. -/
def ofMapping (kind config : Value) : Build String := do
  request kind (← optionsOf (normalized (← config.items)))

end Statement

end SqlText
