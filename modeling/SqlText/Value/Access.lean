import SqlText.Fault
import SqlText.Text.Blank

/-!
# Access — asking a value for its items, its entries or its text

    (Value.text "ab").iterate  =  .ok [.text "a", .text "b"]

What a value can be asked depends on its kind. Texts give their characters, byte strings
their bytes, lists and tuples their items and mappings their keys; every other value
refuses. Each function here names the refusal of the kinds that it does not serve.
-/

namespace SqlText

/-- The items that a value holds, in order. -/
def Value.iterate : Value → Except Fault (List Value)
  | .text s     => .ok (s.toList.map fun c => .text (String.singleton c))
  | .bytes bs   => .ok (bs.map fun b => .int b.toNat)
  | .list xs    => .ok xs
  | .tuple xs   => .ok xs
  | .mapping es => .ok (es.map Prod.fst)
  | v           => .error (.type (.notIterable v.typePath))

/-- The entries of a mapping, asked of any value. -/
def Value.items : Value → Except Fault (List (Value × Value))
  | .mapping es => .ok es
  | v           => .error (.noAttribute v.typeName "items")

/-- The texts of a list of values, the first of which stands at `index`; a value that is no
text is refused. -/
def textsFrom (index : Nat) : List Value → Except Fault (List String)
  | []            => .ok []
  | .text s :: vs => (textsFrom (index + 1) vs).map (s :: ·)
  | v :: _        => .error (.type (.joinItem index v.typePath))

/-- Texts with a separator between them; every item has to be a text. -/
def joinTexts (sep : String) (vs : List Value) : Except Fault String :=
  (textsFrom 0 vs).map sep.intercalate

/-- The items of a value with a separator between them; every item has to be a text. -/
def Value.joinItems (sep : String) (v : Value) : Except Fault String :=
  match v.iterate with
  | .ok vs   => joinTexts sep vs
  | .error _ => .error (.type .notJoinable)

/-- The two items of a value that holds exactly two. -/
def Value.unpackPair (v : Value) : Except Fault (Value × Value) :=
  match v.iterate with
  | .ok [a, b]             => .ok (a, b)
  | .ok (_ :: _ :: _ :: _) => .error (.value .tooManyItems)
  | .ok few                => .error (.value (.tooFewItems few.length))
  | .error _               => .error (.type (.notUnpackable v.typePath))

/-- Blanks of a byte string: the ASCII ones without the information separators. -/
def isBlankByte (b : UInt8) : Bool := (0x09 ≤ b && b ≤ 0x0D) || b == 0x20

/-- A byte string without its leading and trailing blanks. -/
def stripBytes (bs : List UInt8) : List UInt8 :=
  ((bs.dropWhile isBlankByte).reverse.dropWhile isBlankByte).reverse

/-- A text or byte string without its leading and trailing blanks. -/
def Value.stripped : Value → Except Fault Value
  | .text s   => .ok (.text (Text.strip s))
  | .bytes bs => .ok (.bytes (stripBytes bs))
  | v         => .error (.noAttribute v.typeName "strip")

mutual

/-- Why a value cannot be looked up in a table, if so: lists and mappings have no hash, nor
has anything that holds one. -/
def Value.hashFault? : Value → Option TypeFault
  | .list _    => some (.notHashable "list")
  | .mapping _ => some (.notHashable "dict")
  | .tuple xs  => hashFaultIn? xs
  | .decimal (.nan _ true _) => some .signalingKey
  | .columns (.raw content)   => content.hashFault?
  | .columns (.names names)   => names.hashFault?
  | .columns (.tables groups) => groups.hashFault?
  | .columnGroup ⟨table, columns⟩ => table.hashFault? <|> columns.hashFault?
  | .orderBy (.raw content) => content.hashFault?
  | .orderBy (.keys keys)   => keys.hashFault?
  | .sortKey ⟨column, direction, table⟩ =>
    column.hashFault? <|> direction.hashFault? <|> table.hashFault?
  | .join (.explicit table condition kind) =>
    table.hashFault? <|> condition.hashFault? <|> kind.hashFault?
  | .join (.equi leftTable leftColumn rightTable rightColumn operator kind) =>
    leftTable.hashFault? <|> leftColumn.hashFault? <|> rightTable.hashFault? <|>
      rightColumn.hashFault? <|> operator.hashFault? <|> kind.hashFault?
  | .subQuery ⟨query, label⟩ => query.hashFault? <|> label.hashFault?
  | .aggregate ⟨functions, label⟩ => functions.hashFault? <|> label.hashFault?
  | .recursiveCte ⟨baseCase, recursiveCase, label⟩ =>
    baseCase.hashFault? <|> recursiveCase.hashFault? <|> label.hashFault?
  | .paging ⟨limit, skip⟩ => limit.hashFault? <|> skip.hashFault?
  | .caseBranch ⟨condition, result⟩ => condition.hashFault? <|> result.hashFault?
  | .caseExpr ⟨branches, otherwise⟩ => branches.hashFault? <|> otherwise.hashFault?
  | .settings ⟨logLevel, logFile, logDir, useColors, logStatements, maxLength, strict⟩ =>
    logLevel.hashFault? <|> logFile.hashFault? <|> logDir.hashFault? <|>
      useColors.hashFault? <|> logStatements.hashFault? <|> maxLength.hashFault? <|>
      strict.hashFault?
  | _ => none
termination_by structural v => v

/-- The first hash fault among the items of a tuple. -/
def hashFaultIn? : List Value → Option TypeFault
  | []      => none
  | x :: xs => x.hashFault? <|> hashFaultIn? xs
termination_by structural xs => xs

end

/-- Refuses a value that cannot be looked up in a table. -/
def Value.requireHashable (v : Value) : Except Fault Unit :=
  match v.hashFault? with
  | some fault => .error (.type fault)
  | none       => .ok ()

end SqlText
