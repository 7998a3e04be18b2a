import SqlText.Log.Severity
import SqlText.Value.Inspect
import SqlText.Verb

/-!
# Faults — why a call yields no text

    (BuildError.joinSpec (.int 1) (.bool true)).message

A fault names its cause; the wording of every cause is written once, in the `message` of
its type. A `BuildError` is a refusal by the rules of statement building. The other faults
come from the data itself: a value that cannot be iterated, joined, compared or asked for
a property, a setting that cannot be interpreted, or a file that cannot be opened.
-/

namespace SqlText

/-! ## Values of the wrong kind -/

/-- A value used where its kind does not serve. -/
inductive TypeFault where
  | unexpectedOption (builder option : String)
  | notIterable (type : String)
  | notJoinable
  | joinItem (index : Nat) (type : String)
  | notUnpackable (type : String)
  | notHashable (type : String)
  | signalingKey
  | notOrdered (operator left right : String)
  | mixedOffsets
  | mixedDates
  | notAnIndex
  | columnVariant (value : Value)
  | joinVariant (value : Value)
  | badCall

/-- The wording of a value of the wrong kind. -/
def TypeFault.message : TypeFault → String
  | unexpectedOption builder option =>
    builder ++ "() got an unexpected keyword argument '" ++ option ++ "'"
  | notIterable type     => "'" ++ type ++ "' object is not iterable"
  | notJoinable          => "can only join an iterable"
  | joinItem index type  =>
    "sequence item " ++ index.repr ++ ": expected str instance, " ++ type ++ " found"
  | notUnpackable type   => "cannot unpack non-iterable " ++ type ++ " object"
  | notHashable type     => "unhashable type: '" ++ type ++ "'"
  | signalingKey         => "Cannot hash a signaling NaN value"
  | notOrdered operator left right =>
    "'" ++ operator ++ "' not supported between instances of '" ++ left ++ "' and '" ++
      right ++ "'"
  | mixedOffsets         => "can't compare offset-naive and offset-aware datetimes"
  | mixedDates           => "can't compare datetime.datetime to datetime.date"
  | notAnIndex           =>
    "slice indices must be integers or None or have an __index__ method"
  | columnVariant value  => "Unhandled column variant: " ++ value.inspect
  | joinVariant value    => "Unhandled join variant: " ++ value.inspect
  | badCall              => "the call does not fit its parameters"

/-! ## Refusals of statement building -/

/-- A clause input of a shape that is not supported. -/
inductive Misshape where
  | columns (got : String)
  | extraColumns (got : String)
  | orderBy (got : String)
  | join (got : String)
  | joins (got : String)
  | subQuery (got : String)
  | subQueryEmpty
  | aggregate (got : String)
  | aggregateEmpty
  | recursiveCte (got : String)
  | recursiveCteIncomplete
  | paging (got : String)
  | caseUpdate (got : String)
  | caseBranch (branch : Value)
  | caseEmpty
  | insertData (got : String)
  | insertRow (index : Nat) (got : String)
  | updateValue (column : Value)
  | stated (message : String)

/-- A value that has no literal. -/
inductive NoLiteral where
  | notFinite (value : Value)
  | noForm (value : Value)
  | stated (message : String)

/-- A request that names no statement, or options that its statement does not take. -/
inductive BadRequest where
  | unknownKind (kind : Value)
  | invalidOptions (verb : Verb) (cause : TypeFault)
  | stated (message : String)

/-- A refusal by the rules of statement building. -/
inductive BuildError where
  /-- A required input is missing; the note, where it counts, replaces the usual message. -/
  | missingField (field statement note : Value)
  /-- A join names no usable relation: the pairs found, and whether its kind was left out. -/
  | joinSpec (found shorthand : Value)
  | specification (cause : Misshape)
  | literal (cause : NoLiteral)
  | request (cause : BadRequest)

namespace Misshape

/-- The wording of an unsupported shape. -/
def message : Misshape → String
  | columns got      => "Columns must be a string, a list or a mapping, got " ++ got
  | extraColumns got => "`extra` must be a string or a list of strings, got " ++ got
  | orderBy got      => "Sort must be a string or a mapping, got " ++ got
  | join got         => "Join descriptor must be a mapping, got " ++ got
  | joins got        => "Joins must be a list of descriptors, got " ++ got
  | subQuery got     => "Subquery must be a string or a mapping, got " ++ got
  | subQueryEmpty    => "Subquery requires a non-empty `query`"
  | aggregate got    => "Aggregate must be a mapping, got " ++ got
  | aggregateEmpty   => "Aggregate requires at least one function entry"
  | recursiveCte got => "Recursive CTE must be a mapping, got " ++ got
  | recursiveCteIncomplete =>
    "Recursive CTE requires both a base case and a recursive case"
  | paging got => "limit_skip must be a mapping with `limit`/`skip`, got " ++ got
  | caseUpdate got => "CASE update must be a mapping, got " ++ got
  | caseBranch branch => "CASE branch requires a `when` condition: " ++ branch.inspect
  | caseEmpty => "CASE update requires at least one WHEN branch"
  | insertData got => "insert_data must be a mapping or a list of mappings, got " ++ got
  | insertRow index got =>
    "insert_data row " ++ index.repr ++ " must be a mapping, got " ++ got
  | updateValue column =>
    "Update value for '" ++ column.display ++ "' must be a scalar or a CASE descriptor"
  | stated message => message

end Misshape

namespace NoLiteral

/-- The wording of a value without a literal. -/
def message : NoLiteral → String
  | notFinite value =>
    "Cannot render non-finite number " ++ value.inspect ++ " as a SQL literal"
  | noForm value =>
    "Cannot render value of type " ++ value.typeName ++ " as a SQL literal: " ++ value.inspect
  | stated message => message

end NoLiteral

namespace BadRequest

/-- The wording of a request that cannot be served. -/
def message : BadRequest → String
  | unknownKind kind =>
    "Unknown statement kind " ++ kind.inspect ++ "; expected one of " ++
      ", ".intercalate (Verb.all.map Verb.word)
  | invalidOptions verb cause => "Invalid options for " ++ verb.word ++ ": " ++ cause.message
  | stated message => message

end BadRequest

namespace BuildError

/-- A required input of a statement that is missing, in the usual wording. -/
def missing (field statement : String) : BuildError :=
  .missingField (.text field) (.text statement) .null

/-- The wording of a refusal. -/
def message : BuildError → String
  | missingField field statement note =>
    if note.isGiven then note.display
    else "The `" ++ field.display ++ "` parameter is required for " ++
      statement.display ++ " statements."
  | joinSpec found shorthand =>
    if shorthand.isGiven then
      "JOIN shorthand requires exactly two tables, but found " ++ found.display ++
        " or condition not found"
    else
      "JOIN requires exactly two tables for a relation, but found " ++ found.display ++
        " or condition not found"
  | specification cause => cause.message
  | literal cause       => cause.message
  | request cause       => cause.message

end BuildError

/-! ## Other faults -/

/-- A value of the right kind that is not acceptable. -/
inductive ValueFault where
  | tooFewItems (got : Nat)
  | tooManyItems
  | notALevel (name : String)
  | noFormatField
  | nulInPath

/-- A setting that cannot be interpreted. -/
inductive ConfigurationError where
  | level (name : String) (got : Value)
  | flag (name : String) (got : Value)
  | integer (name : String) (got : Value)
  | notPositive (name : String) (got : Value)
  | stated (message : String)

/-- The wording of a setting that cannot be interpreted. -/
def ConfigurationError.message : ConfigurationError → String
  | level name got =>
    name ++ " must be one of " ++ ", ".intercalate (Log.Severity.all.map Log.Severity.name) ++
      ", got " ++ got.inspect
  | flag name got        => name ++ " must be a boolean flag, got " ++ got.inspect
  | integer name got     => name ++ " must be an integer, got " ++ got.inspect
  | notPositive name got => name ++ " must be positive, got " ++ got.display
  | stated message       => message

/-- Why a log file or its directory cannot be opened. -/
inductive FileFault where
  | notFound
  | notADirectory
  | isADirectory
  | exists
  | nameTooLong
deriving DecidableEq

/-- Why a call yields no result. -/
inductive Fault where
  | build (e : BuildError)
  | type (e : TypeFault)
  /-- A property was asked of a value that does not have it. -/
  | noAttribute (type name : String)
  | value (e : ValueFault)
  | configuration (e : ConfigurationError)
  | file (e : FileFault)
  /-- An ordering with a decimal that is no number. -/
  | invalidOperation

end SqlText
