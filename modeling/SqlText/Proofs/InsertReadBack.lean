import SqlText.Proofs.Guards
import SqlText.Proofs.LiteralTexts
import SqlText.Proofs.TupleScan

/-!
# Reading back an INSERT — the rows in the text

    INSERT INTO t (a, d) VALUES (1,CURRENT_TIMESTAMP), ("x",CURRENT_TIMESTAMP)

An INSERT that is built consists of five parts: its opening with the table, the column
list, the tuples of its rows, and what is done with duplicates. Unless a row holds an SQL
fragment, a scan of the tuples finds one of them to each row and one field to each column,
the literal of what the row has there. So rows of null, truth values, whole numbers and
texts are determined by what is written for them.

* **`HasParts.of_compose`**: what a built statement is put together from.
* **`IsRow.of_rowText`**: the tuple of a row, field by field.
* **`insertValues_read_back`**: the rows are read back, and scalars are determined.
-/

namespace SqlText

open Build (outcome)

/-! ## The parts of a statement -/

namespace Insert

/-- The parts from which an INSERT is put together, the rows and the date columns in front. -/
structure Parts where
  first : List (Value × Value)
  rest : List (List (Value × Value))
  dates : List Value
  columnList : String
  tuples : List String
  refresh : String

namespace Parts

/-- The rows, the first of which names the columns. -/
def rows (p : Parts) : List (List (Value × Value)) := p.first :: p.rest

/-- The columns that take their values from the rows. -/
def columns (p : Parts) : List Value := keys p.first

/-- The tuples with their separators. -/
def values (p : Parts) : String := ", ".intercalate p.tuples

end Parts

/-- What an INSERT is put together from: the rows and the date columns it is given, the
texts of the columns, the tuples of the rows and the fields to refresh. -/
structure HasParts (s : Insert) (p : Parts) : Prop where
  rows : rowsOfValue s.rows = .ok p.rows
  first_ne_nil : p.first ≠ []
  dates : optionalItems s.dateFields = .ok p.dates
  columnList : joinTexts ", " (p.columns ++ p.dates) = .ok p.columnList
  tuples : p.rows.mapM (rowText p.columns p.dates.length) = .ok p.tuples
  refresh : s.refreshSegment = .ok p.refresh

/-- The parts put together. -/
def assembled (s : Insert) (p : Parts) : String :=
  "INSERT " ++ s.ignoreText ++ "INTO " ++ s.table.display ++ " (" ++ p.columnList ++
    ") VALUES " ++ p.values ++ p.refresh

/-- A statement that is composed is put together from its parts. -/
theorem HasParts.of_compose {s : Insert} {c : Context} {sql : String}
    (h : s.compose.outcome c = .ok sql) : ∃ p, s.HasParts p ∧ sql = s.assembled p := by
  rw [compose] at h
  simp only [Build.outcome_bind, Build.outcome_liftM, Build.outcome_lift,
    Build.outcome_pure] at h
  obtain ⟨⟨first, rest⟩, hrows, h⟩ := bind_eq_ok_iff.mp h
  obtain ⟨hrows, hne⟩ := givenRows_ok hrows
  dsimp only at h
  obtain ⟨dates, hdates, h⟩ := bind_eq_ok_iff.mp h
  obtain ⟨_, -, h⟩ := bind_eq_ok_iff.mp h
  obtain ⟨columnList, hcolumns, h⟩ := bind_eq_ok_iff.mp h
  obtain ⟨tuples, htuples, h⟩ := bind_eq_ok_iff.mp h
  obtain ⟨refresh, hrefresh, h⟩ := bind_eq_ok_iff.mp h
  exact ⟨⟨first, rest, dates, columnList, tuples, refresh⟩,
    ⟨hrows, hne, hdates, hcolumns, htuples, hrefresh⟩, (Except.ok.inj h).symm⟩

/-- A statement that is built was composed. -/
theorem compose_of_text {s : Insert} {c : Context} {sql : String}
    (h : s.text.outcome c = .ok sql) : s.compose.outcome c = .ok sql := by
  have hrecorded : (Statement.recorded Log.Channel.change "INSERT" s.compose).outcome c
      = .ok sql := h
  exact Statement.outcome_of_recorded hrecorded

/-! ## Rows as tuples -/

/-- The fields that a row is written as: the literals of its values under the columns, and
the current time for each date column. -/
structure IsRow (columns : List Value) (dates : Nat) (row : List (Value × Value))
    (fields : List String) : Prop where
  literals : List.Forall₂ (fun k t => Literal.text false (lookup k row) = .ok t) columns
    (fields.take columns.length)
  currentTimes : fields.drop columns.length = List.replicate dates "CURRENT_TIMESTAMP"

theorem mapM_currentTime (n : Nat) :
    (List.replicate n (Value.keyword "CURRENT_TIMESTAMP")).mapM (Literal.text false)
      = .ok (List.replicate n "CURRENT_TIMESTAMP") := by
  induction n with
  | zero => rfl
  | succ n ih =>
      rw [List.replicate_succ, List.mapM_cons, ih]
      rfl

/-- The text of a row is the tuple of its fields. -/
theorem IsRow.of_rowText {columns : List Value} {dates : Nat} {row : List (Value × Value)}
    {t : String} (h : rowText columns dates row = .ok t) :
    ∃ fields, IsRow columns dates row fields ∧ t = tupleOfFields fields := by
  rw [rowText, Literal.row, rowValues] at h
  obtain ⟨u, hu, h⟩ := bind_eq_ok_iff.mp h
  obtain ⟨fields, hfields, hu⟩ := bind_eq_ok_iff.mp hu
  rw [List.mapM_append] at hfields
  obtain ⟨literals, hliterals, hfields⟩ := bind_eq_ok_iff.mp hfields
  rw [mapM_currentTime] at hfields
  have hf : literals ++ List.replicate dates "CURRENT_TIMESTAMP" = fields :=
    Except.ok.inj hfields
  have hall := (mapM_eq_ok_iff _ _).mp hliterals
  rw [List.forall₂_map_left_iff] at hall
  have hlength : columns.length = literals.length := hall.length_eq
  refine ⟨fields, ⟨?_, ?_⟩, ?_⟩
  · rw [← hf, hlength, List.take_left]
    exact hall
  · rw [← hf, hlength, List.drop_left]
  · rw [← Except.ok.inj h, ← Except.ok.inj hu]
    rfl

/-- A row has a field for each column and one for each date column. -/
theorem IsRow.length {columns : List Value} {dates : Nat} {row : List (Value × Value)}
    {fields : List String} (h : IsRow columns dates row fields) :
    fields.length = columns.length + dates := by
  have htake := h.literals.length_eq
  have hdrop := congrArg List.length h.currentTimes
  rw [List.length_take] at htake
  rw [List.length_drop, List.length_replicate] at hdrop
  omega

/-- A literal of one of the two forms cannot be cut. -/
theorem isField_of_form {t : String} (h : LiteralForm t) : IsField t := by
  refine ⟨h.after, ?_⟩
  intro c hc hm
  simp only [separators, List.mem_cons, List.not_mem_nil, or_false] at hm
  rcases hm with rfl | rfl | rfl
  · exact h.not_mem_erase (by decide) (by decide) hc
  · exact h.not_mem_erase (by decide) (by decide) hc
  · exact h.not_mem_erase (by decide) (by decide) hc

/-- No field of a row without fragments can be cut. -/
theorem IsRow.isField {columns : List Value} {dates : Nat} {row : List (Value × Value)}
    {fields : List String} (h : IsRow columns dates row fields)
    (hrow : ∀ k ∈ columns, (lookup k row).isFragment = false) :
    ∀ t ∈ fields, IsField t := by
  intro t ht
  rw [← List.take_append_drop columns.length fields] at ht
  rcases List.mem_append.mp ht with ht | ht
  · obtain ⟨k, hk, hlit⟩ := exists_mem_left_of_forall₂ h.literals t ht
    exact isField_of_form (LiteralForm.of_text (hrow k hk) hlit)
  · rw [h.currentTimes] at ht
    rw [List.eq_of_mem_replicate ht]
    exact isField_of_form (.bare (by decide))

/-- The tuples of rows, each with its fields. -/
theorem exists_fields {columns : List Value} {dates : Nat} :
    ∀ {rows : List (List (Value × Value))} {tuples : List String},
      List.Forall₂ (fun row t => rowText columns dates row = .ok t) rows tuples →
      ∃ fields, List.Forall₂ (IsRow columns dates) rows fields ∧
        tuples = fields.map tupleOfFields := by
  intro rows tuples h
  induction h with
  | nil => exact ⟨[], .nil, rfl⟩
  | cons hrow _ ih =>
      obtain ⟨fs, hfs, rfl⟩ := IsRow.of_rowText hrow
      obtain ⟨fields, hfields, rfl⟩ := ih
      exact ⟨fs :: fields, .cons hfs hfields, rfl⟩

/-! ## Scalars -/

/-- Two rows of scalars with the same literals have the same values. -/
theorem values_eq_of_literals {row row' : List (Value × Value)} :
    ∀ {columns : List Value} {ts : List String},
      List.Forall₂ (fun k t => Literal.text false (lookup k row) = .ok t) columns ts →
      List.Forall₂ (fun k t => Literal.text false (lookup k row') = .ok t) columns ts →
      (∀ k ∈ columns, (lookup k row).isScalar = true ∧ (lookup k row').isScalar = true) →
      columns.map (lookup · row) = columns.map (lookup · row') := by
  intro columns ts h
  induction h with
  | nil => intro _ _; rfl
  | cons hk _ ih =>
      intro h' hs
      cases h' with
      | cons hk' h' =>
          obtain ⟨⟨hv, hv'⟩, hs⟩ := List.forall_mem_cons.mp hs
          rw [List.map_cons, List.map_cons, text_scalar_inj hv hv' hk hk', ih h' hs]

/-- The values that rows have under the columns, row by row. -/
def cells (columns : List Value) (rows : List (List (Value × Value))) : List (List Value) :=
  rows.map fun row => columns.map (lookup · row)

/-- Do all rows hold null, truth values, whole numbers and texts under the columns? -/
def ScalarCells (columns : List Value) (rows : List (List (Value × Value))) : Prop :=
  ∀ row ∈ rows, ∀ k ∈ columns, (lookup k row).isScalar = true

/-- Rows of scalars that are written with the same fields have the same values. -/
theorem cells_eq_of_fields {columns : List Value} {dates dates' : Nat} :
    ∀ {rows rows' : List (List (Value × Value))} {fields : List (List String)},
      List.Forall₂ (IsRow columns dates) rows fields →
      List.Forall₂ (IsRow columns dates') rows' fields →
      ScalarCells columns rows → ScalarCells columns rows' →
      cells columns rows = cells columns rows' := by
  intro rows rows' fields h
  induction h generalizing rows' with
  | nil =>
      intro h' _ _
      cases h'
      rfl
  | cons hrow _ ih =>
      intro h' hs hs'
      cases h' with
      | cons hrow' h' =>
          obtain ⟨hv, hs⟩ := List.forall_mem_cons.mp hs
          obtain ⟨hv', hs'⟩ := List.forall_mem_cons.mp hs'
          have hcells := values_eq_of_literals hrow.literals hrow'.literals
            fun k hk => ⟨hv k hk, hv' k hk⟩
          have hrest : cells columns _ = cells columns _ := ih h' hs hs'
          unfold cells at hrest ⊢
          rw [List.map_cons, List.map_cons, hcells, hrest]

/-- A scalar is no fragment. -/
theorem isFragment_of_isScalar {v : Value} (h : v.isScalar = true) : v.isFragment = false := by
  rcases scalar_cases h with rfl | ⟨b, rfl⟩ | ⟨n, rfl⟩ | ⟨s, rfl⟩ <;> rfl

/-- The tuples of a statement whose rows hold no fragment are read back. -/
theorem HasParts.readTuples_values {s : Insert} {p : Parts} (h : s.HasParts p)
    (hrows : ∀ row ∈ p.rows, ∀ k ∈ p.columns, (lookup k row).isFragment = false) :
    ∃ tuples, readTuples p.values = some tuples ∧
      List.Forall₂ (IsRow p.columns p.dates.length) p.rows tuples := by
  obtain ⟨fields, hfields, htuples⟩ := exists_fields ((mapM_eq_ok_iff _ _).mp h.tuples)
  refine ⟨fields, ?_, hfields⟩
  rw [Parts.values, htuples]
  refine readTuples_intercalate ?_
  intro fs hfs
  obtain ⟨row, hrow, hr⟩ := exists_mem_left_of_forall₂ hfields fs hfs
  refine ⟨?_, hr.isField (hrows row hrow)⟩
  -- the first row has a column, so no tuple is empty
  intro hnil
  have hlength := hr.length
  have hpos := List.length_pos_iff.mpr h.first_ne_nil
  rw [hnil, Parts.columns, keys, List.length_map, List.length_nil] at hlength
  omega

/-! ## Reading back -/

/-- How the text of an INSERT is laid out: the opening names the table and the columns, the
tuples of the rows follow, and the fields to refresh on duplicates come last, unless
duplicates are ignored or there is no such field. -/
structure Layout (s : Insert) (p : Parts) (sql : String) : Prop extends HasParts s p where
  text : sql = (if s.uniqueColumn.isGiven then "INSERT IGNORE INTO " else "INSERT INTO ") ++
    s.table.display ++ " (" ++ p.columnList ++ ") VALUES " ++ p.values ++ p.refresh
  refresh_eq_empty : s.uniqueColumn.isGiven = true ∨ s.updateFields.isGiven = false →
    p.refresh = ""
  refresh_eq : s.uniqueColumn.isGiven = false → s.updateFields.isGiven = true →
    ∃ fields, s.updateFields.iterate = .ok fields ∧
      p.refresh = " ON DUPLICATE KEY UPDATE " ++
        ", ".intercalate (fields.map fun f => f.display ++ " = VALUES(" ++ f.display ++ ")")

/-- A statement that is built is laid out like this. -/
theorem Layout.of_text {s : Insert} {c : Context} {sql : String}
    (h : s.text.outcome c = .ok sql) : ∃ p, s.Layout p sql := by
  obtain ⟨p, hp, hsql⟩ := HasParts.of_compose (compose_of_text h)
  have hrefresh := hp.refresh
  rw [refreshSegment] at hrefresh
  refine ⟨p, hp, ?_, ?_, ?_⟩
  · rw [hsql, assembled, ignoreText]
    by_cases hu : s.uniqueColumn.isGiven = true
    · rw [if_pos hu, if_pos hu]; rfl
    · rw [if_neg hu, if_neg hu]; rfl
  · rintro (hu | hf)
    · rw [hu] at hrefresh
      exact (Except.ok.inj hrefresh).symm
    · rw [hf, Bool.not_false, Bool.or_true] at hrefresh
      exact (Except.ok.inj hrefresh).symm
  · intro hu hf
    rw [hu, hf] at hrefresh
    obtain ⟨fields, hfields, h⟩ := bind_eq_ok_iff.mp hrefresh
    exact ⟨fields, hfields, (Except.ok.inj h).symm⟩

/-- The rows of an INSERT are read back from its text: where no value under the columns is
an SQL fragment, the tuples hold the literals row by row and column by column, followed by
the current times. Two statements with the same columns and the same tuples, whose values
are scalars, have the same value in every place. -/
theorem insertValues_read_back :
    (∀ (s : Insert) (c : Context) (sql : String), s.text.outcome c = .ok sql →
      ∃ p, s.Layout p sql ∧
        ((∀ row ∈ p.rows, ∀ k ∈ p.columns, (lookup k row).isFragment = false) →
          ∃ tuples, readTuples p.values = some tuples ∧
            List.Forall₂ (IsRow p.columns p.dates.length) p.rows tuples ∧
            ∀ fields ∈ tuples, fields.length = p.columns.length + p.dates.length)) ∧
    (∀ (s s' : Insert) (p p' : Parts) (sql sql' : String),
      s.Layout p sql → s'.Layout p' sql' → p.columns = p'.columns →
      ScalarCells p.columns p.rows → ScalarCells p'.columns p'.rows →
      p.values = p'.values → cells p.columns p.rows = cells p'.columns p'.rows) := by
  constructor
  · intro s c sql h
    obtain ⟨p, hp⟩ := Layout.of_text h
    refine ⟨p, hp, ?_⟩
    intro hrows
    obtain ⟨tuples, hread, htuples⟩ := hp.toHasParts.readTuples_values hrows
    refine ⟨tuples, hread, htuples, ?_⟩
    intro fields hfields
    obtain ⟨row, -, hrow⟩ := exists_mem_left_of_forall₂ htuples fields hfields
    exact hrow.length
  · intro s s' p p' sql sql' hp hp' hcolumns hs hs' hvalues
    obtain ⟨tuples, hread, htuples⟩ := hp.toHasParts.readTuples_values
      fun row hrow k hk => isFragment_of_isScalar (hs row hrow k hk)
    obtain ⟨tuples', hread', htuples'⟩ := hp'.toHasParts.readTuples_values
      fun row hrow k hk => isFragment_of_isScalar (hs' row hrow k hk)
    have htu : tuples = tuples' := by
      rw [hvalues, hread'] at hread
      exact (Option.some.inj hread).symm
    rw [← hcolumns] at htuples' hs' ⊢
    rw [htu] at htuples
    exact cells_eq_of_fields htuples htuples' hs hs'

/-- Two rows, the first of them with a quote, a comma and a parenthesis in a text. Under the
first column the second one has null, spelled out or not. -/
def quotedRows (spelled : Bool) : Insert where
  table := .text "t"
  rows := .list
    [.mapping [(.text "a", .text "x\", ("), (.text "b", .int (-1))],
      .mapping ((.text "b", .bool true) :: if spelled then [(.text "a", .null)] else [])]
  dateFields := .list [.text "d"]

/-- The parts of `quotedRows`. -/
def quotedParts (spelled : Bool) : Parts where
  first := [(.text "a", .text "x\", ("), (.text "b", .int (-1))]
  rest := [(.text "b", .bool true) :: if spelled then [(.text "a", .null)] else []]
  dates := [.text "d"]
  columnList := "a, b, d"
  tuples := ["(\"x\\\", (\",-1,CURRENT_TIMESTAMP)", "(NULL,true,CURRENT_TIMESTAMP)"]
  refresh := ""

/-- The text of `quotedRows`. -/
def quotedText : String :=
  "INSERT INTO t (a, b, d) VALUES (\"x\\\", (\",-1,CURRENT_TIMESTAMP), " ++
    "(NULL,true,CURRENT_TIMESTAMP)"

theorem layout_quotedRows (spelled : Bool) :
    (quotedRows spelled).Layout (quotedParts spelled) quotedText where
  rows := rfl
  first_ne_nil := List.cons_ne_nil _ _
  dates := rfl
  columnList := eq_ok_of_toOption (by revert spelled; decide +kernel)
  tuples := eq_ok_of_toOption (by revert spelled; decide +kernel)
  refresh := rfl
  text := by revert spelled; decide +kernel
  refresh_eq_empty _ := rfl
  refresh_eq _ h := nomatch h

/-- The rows of `quotedRows` are read back, and a value left out says the same as null. -/
theorem insertValues_read_back_quoted :
    (∃ p, (quotedRows false).Layout p quotedText ∧
      ∃ tuples, readTuples p.values = some tuples ∧
        List.Forall₂ (IsRow p.columns p.dates.length) p.rows tuples) ∧
    cells (quotedParts false).columns (quotedParts false).rows
      = cells (quotedParts true).columns (quotedParts true).rows := by
  constructor
  · obtain ⟨p, hp, hread⟩ := insertValues_read_back.1 (quotedRows false) {} quotedText
      (eq_ok_of_toOption (by decide +kernel))
    have hrows : (quotedParts false).rows = p.rows := Except.ok.inj hp.rows
    have hfirst : (quotedParts false).first = p.first := (List.cons.inj hrows).1
    obtain ⟨tuples, hread, htuples, -⟩ := hread (by
      rw [← hrows, Parts.columns, ← hfirst]
      decide)
    exact ⟨p, hp, tuples, hread, htuples⟩
  · exact insertValues_read_back.2 _ _ _ _ _ _ (layout_quotedRows false)
      (layout_quotedRows true) rfl (by unfold ScalarCells; decide)
      (by unfold ScalarCells; decide) rfl

end Insert

end SqlText
