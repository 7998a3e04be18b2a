import SqlText.Value.Access

/-!
# Paging — a limit on the rows read and an offset before them

    Paging.text (.mapping [(.text "limit", .int 10), (.text "skip", .int 20)])

Paging is given as a mapping with a limit and a number of rows to skip. Either is left out
of the statement unless it counts as given, so zero limits nothing and skips nothing.
-/

namespace SqlText

namespace Paging

/-- The paging that a value describes. -/
def ofValue : Value → Except Fault Paging
  | .paging p   => .ok p
  | .mapping es => .ok ⟨valueAt "limit" es, valueAt "skip" es⟩
  | v           => .error (.build (.specification (.paging v.typeName)))

/-- A number of rows as its segment, empty unless it counts as given. -/
def limitSegment (limit : Value) : String :=
  if limit.isGiven then " LIMIT " ++ limit.display else ""

/-- A number of skipped rows as its segment, empty unless it counts as given. -/
def offsetSegment (skip : Value) : String :=
  if skip.isGiven then " OFFSET " ++ skip.display else ""

/-- Paging as its two segments. -/
def segment (p : Paging) : String := limitSegment p.limit ++ offsetSegment p.skip

/-- The paging that a value describes as its segments. -/
def text (v : Value) : Except Fault String := do return (← ofValue v).segment

end Paging

end SqlText
