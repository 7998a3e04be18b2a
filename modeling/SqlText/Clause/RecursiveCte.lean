import SqlText.Value.Access

/-!
# Recursive relations — a common table expression in place of a table

    RecursiveCte.segment ⟨.text "SELECT 1", .text "SELECT n + 1 FROM t", .text "t"⟩

A recursive relation is given as a mapping that holds a base case and a recursive case,
each under either of two spellings, and an alias if it has one. Both cases are required.
-/

namespace SqlText

namespace RecursiveCte

/-- The value under the first key whose value counts as given, null where none does. -/
def firstGiven (es : List (Value × Value)) : List String → Value
  | []      => .null
  | k :: ks => if (valueAt k es).isGiven then valueAt k es else firstGiven es ks

/-- The recursive relation that a value describes. -/
def ofValue : Value → Except Fault RecursiveCte
  | .recursiveCte c => .ok c
  | .mapping es     =>
    let baseCase := firstGiven es ["base_case", "baseCase"]
    let recursiveCase := firstGiven es ["recursive_case", "recursiveCase"]
    if baseCase.isGiven && recursiveCase.isGiven then
      .ok ⟨baseCase, recursiveCase, (valueAt "alias" es).orElse .null⟩
    else .error (.build (.specification .recursiveCteIncomplete))
  | v               => .error (.build (.specification (.recursiveCte v.typeName)))

/-- A recursive relation as the segment before SELECT. -/
def segment (c : RecursiveCte) : String :=
  "WITH RECURSIVE " ++ (c.label.orElse (.text "")).display ++ " AS (" ++
    c.baseCase.display ++ " UNION ALL " ++ c.recursiveCase.display ++ ") "

/-- The segment of a value that has to be a recursive relation already. -/
def segmentOfValue : Value → Except Fault String
  | .recursiveCte c => .ok c.segment
  | v               => .error (.noAttribute v.typeName "alias")

end RecursiveCte

end SqlText
