import SqlText.Number.Shortest
import SqlText.Text.Quoted
import SqlText.Value.Basic

/-!
# Texts of values — display within a statement, inspection within a diagnostic

    (Value.text "a").display  =  "a"        (Value.text "a").inspect  =  "'a'"

A value is displayed where it becomes part of a statement or a message, and inspected where
a diagnostic shows it or where it stands within another value. The two differ for texts and
fragments, decimals, dates and times; a collection or a clause description is displayed as
it is inspected.
-/

namespace SqlText

/-- A mapping's brackets, by code point: U+007B and U+007D. -/
def braced (s : String) : String := "\x7b" ++ s ++ "\x7d"

/-- A clause description in inspected form: its kind and its fields by name. -/
def recordText (kind : String) (fields : List (String × String)) : String :=
  kind ++ "(" ++ ", ".intercalate (fields.map fun f => f.1 ++ "=" ++ f.2) ++ ")"

/-- The inspected form of a tuple: a single item is followed by a comma. -/
def tupleText : List String → String
  | [item] => "(" ++ item ++ ",)"
  | items  => "(" ++ ", ".intercalate items ++ ")"

mutual

/-- The form in which diagnostics show a value. -/
def Value.inspect : Value → String
  | .null        => "None"
  | .bool true   => "True"
  | .bool false  => "False"
  | .int n       => Text.integerText n
  | .float x     => x.text
  | .decimal d   => "Decimal('" ++ d.text ++ "')"
  | .text s      => Text.quoted s
  | .bytes bs    => Text.quotedBytes bs
  | .list xs     => "[" ++ ", ".intercalate (inspectAll xs) ++ "]"
  | .tuple xs    => tupleText (inspectAll xs)
  | .mapping es  => braced (", ".intercalate (inspectEntries es))
  | .date d      => d.inspect
  | .datetime t  => t.inspect
  | .raw e       => recordText "Raw" [("expression", Text.quoted e)]
  | .keyword n   => recordText "Keyword" [("name", Text.quoted n)]
  | .noElse      => "NO_ELSE"
  | .columns (.raw content)   => recordText "RawColumns" [("text", content.inspect)]
  | .columns (.names names)   => recordText "ColumnList" [("names", names.inspect)]
  | .columns (.tables groups) => recordText "TableColumns" [("groups", groups.inspect)]
  | .columnGroup ⟨table, columns⟩ =>
    recordText "ColumnGroup" [("table", table.inspect), ("columns", columns.inspect)]
  | .orderBy (.raw content) => recordText "RawSort" [("text", content.inspect)]
  | .orderBy (.keys keys)   => recordText "SortKeys" [("keys", keys.inspect)]
  | .sortKey ⟨column, direction, table⟩ =>
    recordText "SortKey" [("column", column.inspect), ("direction", direction.inspect),
      ("table", table.inspect)]
  | .join (.explicit table condition kind) =>
    recordText "ExplicitJoin" [("table", table.inspect), ("on", condition.inspect),
      ("type", kind.inspect)]
  | .join (.equi leftTable leftColumn rightTable rightColumn operator kind) =>
    recordText "EquiJoin" [("left_table", leftTable.inspect),
      ("left_column", leftColumn.inspect), ("right_table", rightTable.inspect),
      ("right_column", rightColumn.inspect), ("operator", operator.inspect),
      ("type", kind.inspect)]
  | .subQuery ⟨query, label⟩ =>
    recordText "SubQuery" [("query", query.inspect), ("alias", label.inspect)]
  | .aggregate ⟨functions, label⟩ =>
    recordText "Aggregate" [("functions", functions.inspect), ("alias", label.inspect)]
  | .recursiveCte ⟨baseCase, recursiveCase, label⟩ =>
    recordText "RecursiveCTE" [("base_case", baseCase.inspect),
      ("recursive_case", recursiveCase.inspect), ("alias", label.inspect)]
  | .paging ⟨limit, skip⟩ =>
    recordText "LimitSkip" [("limit", limit.inspect), ("skip", skip.inspect)]
  | .caseBranch ⟨condition, result⟩ =>
    recordText "CaseBranch" [("when", condition.inspect), ("then", result.inspect)]
  | .caseExpr ⟨branches, otherwise⟩ =>
    recordText "CaseUpdate" [("branches", branches.inspect), ("default", otherwise.inspect)]
  | .settings ⟨logLevel, logFile, logDir, useColors, logStatements, maxLength, strict⟩ =>
    recordText "Config" [("log_level", logLevel.inspect), ("log_file", logFile.inspect),
      ("log_dir", logDir.inspect), ("use_colors", useColors.inspect),
      ("log_statements", logStatements.inspect),
      ("max_logged_statement_length", maxLength.inspect), ("strict_select", strict.inspect)]
termination_by structural v => v

/-- Each item in inspected form. -/
def inspectAll : List Value → List String
  | []      => []
  | x :: xs => x.inspect :: inspectAll xs
termination_by structural xs => xs

/-- Each entry in inspected form, key and value around a colon. -/
def inspectEntries : List (Value × Value) → List String
  | []           => []
  | (k, v) :: es => (k.inspect ++ ": " ++ v.inspect) :: inspectEntries es
termination_by structural es => es

end

/-- The text a value contributes to a statement or a message. -/
def Value.display : Value → String
  | .text s     => s
  | .raw e      => e
  | .keyword n  => n
  | .decimal d  => d.text
  | .date d     => d.isoText
  | .datetime t => t.isoText
  | v           => v.inspect

@[simp] theorem display_text (s : String) : (Value.text s).display = s := rfl

end SqlText
