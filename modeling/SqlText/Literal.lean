import SqlText.Text.JsonString
import SqlText.Value.Access

/-!
# Literals — values as SQL writes them

    Literal.text false (.text "a\"b")  =  .ok "\"a\\\"b\""

Texts, dates and times become double-quoted strings with the escapes of JSON; numbers and
truth values stand bare, and null is the keyword `NULL`. An expression or a keyword is
written as it is. Every other value, and a number that is not finite, has no literal.
-/

namespace SqlText

namespace Literal

/-- Refuses a value that has no literal. -/
def refuse (cause : NoLiteral) : Except Fault String := .error (.build (.literal cause))

/-- The literal of a value; `trim` strips a text of its blanks before it is quoted. -/
def text (trim : Bool) : Value → Except Fault String
  | .raw e      => .ok e
  | .keyword n  => .ok n
  | .null       => .ok "NULL"
  | .bool b     => .ok (if b then "true" else "false")
  | .int n      => .ok (Text.integerText n)
  | .float x    => if x.isFinite then .ok x.text else refuse (.notFinite (.float x))
  | .decimal d  => if d.isFinite then .ok d.text else refuse (.notFinite (.decimal d))
  | .text s     => .ok (Text.jsonString (if trim then Text.strip s else s))
  | .datetime t => .ok (Text.jsonString t.isoText)
  | .date d     => .ok (Text.jsonString d.isoText)
  | v           => refuse (.noForm v)

/-- The literals of a row, separated by commas without blanks. -/
def row (trim : Bool) (vs : List Value) : Except Fault String := do
  return ",".intercalate (← vs.mapM (text trim))

end Literal

end SqlText
