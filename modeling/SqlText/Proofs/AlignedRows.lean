import Mathlib.Data.Finset.Dedup
import SqlText.Proofs.InsertReadBack
import SqlText.Proofs.MappingEntries
import SqlText.Proofs.UpdateAssignments

/-!
# Aligned rows — later rows count through the columns of the first

    [a: 1, b: 2], [b: 3, c: 4]   is written as   [a: 1, b: 2], [a: null, b: 3]

The first row of an INSERT names the columns. A later row gives the values that it has under
these names, wherever they stand in it, and null where it has none, so that values under other
names are not written, not even to be refused. Later rows can change places, and their tuples
change places with them. What sets a row apart is reported: the rows whose names are not those
of the first are named by their indices, in the order of the rows.

* **`lookup_named`**, **`rowText_aligned`**: a value is found by its name.
* **`outcome_clauses_named`**: the text of rows under names, which are always compared.
* **`written_perm`**: rows that change places.
* **`sameKeySet_texts`**, **`run_reportRows`**: which rows are reported.
* **`rows_aligned`**: the whole of it.
-/

namespace SqlText

variable {c : Context}

/-- A row under names, as a caller hands it over. -/
abbrev Fields := List (String × Value)

namespace Fields

/-- The names of a row. -/
def names (row : Fields) : List String := row.map Prod.fst

/-- The value under a name, null where there is none. -/
def value (row : Fields) (name : String) : Value := (row.lookup name).getD .null

/-- A row under the names of the first one, in their order. -/
def alignedTo (first row : Fields) : Fields := first.names.map fun name => (name, row.value name)

theorem value_cons (name name' : String) (v : Value) (row : Fields) :
    value ((name', v) :: row) name = if name = name' then v else row.value name := by
  rw [value, List.lookup_cons]
  by_cases h : name = name'
  · rw [if_pos h, beq_iff_eq.mpr h]
    rfl
  · rw [if_neg h, beq_eq_false_iff_ne.mpr h]
    rfl

/-- An aligned row has the value of the row that it stands for under every name of the first. -/
theorem value_alignedTo (row : Fields) {name : String} :
    ∀ {first : Fields}, name ∈ first.names → (alignedTo first row).value name = row.value name := by
  intro first
  induction first with
  | nil => intro h; exact nomatch h
  | cons f first ih =>
      intro h
      show value ((f.1, row.value f.1) :: alignedTo first row) name = _
      rw [value_cons]
      split
      · rename_i heq
        rw [heq]
      · rename_i hne
        exact ih ((List.mem_cons.mp h).resolve_left hne)

/-- A value is looked up under its name. -/
theorem lookup_named (name : String) (row : Fields) :
    lookup (.text name) (named row) = row.value name := by
  induction row with
  | nil => rfl
  | cons f row ih =>
      show (if (f.1 == name) = true then f.2 else lookup (.text name) (named row)) = _
      rw [ih, value_cons]
      by_cases h : name = f.1
      · rw [if_pos h, if_pos (beq_iff_eq.mpr h.symm)]
      · rw [if_neg h, if_neg (mt beq_iff_eq.mp (Ne.symm h))]

end Fields

open Fields

namespace Insert

theorem keys_named (row : Fields) : keys (named row) = row.names.map .text := by
  rw [keys, named, names, List.map_map, List.map_map]
  rfl

/-! ## Rows of a statement -/

/-- The same statement on other rows, each of them a mapping under names. -/
def onRows (s : Insert) (rows : List Fields) : Insert :=
  { s with rows := .list (rows.map fun row => .mapping (named row)) }

theorem rowsFrom_named (rows : List Fields) :
    ∀ index, rowsFrom index (rows.map fun row => .mapping (named row)) = .ok (rows.map named) := by
  induction rows with
  | nil => intro index; rfl
  | cons row rows ih =>
      intro index
      show (rowsFrom (index + 1) _).map (named row :: ·) = _
      rw [ih]
      rfl

/-- The rows are those that are handed over, where the first is not empty. -/
theorem givenRows_onRows (s : Insert) {first : Fields} (hfirst : first ≠ []) (rest : List Fields) :
    (s.onRows (first :: rest)).givenRows = pure (named first, rest.map named) := by
  obtain ⟨f, first, rfl⟩ := List.exists_cons_of_ne_nil hfirst
  have hrows : rowsOfValue (s.onRows ((f :: first) :: rest)).rows
      = .ok (named (f :: first) :: rest.map named) := rowsFrom_named ((f :: first) :: rest) 0
  rw [givenRows, hrows]
  rfl

/-- A statement on rows under names is its clauses and its record. -/
theorem text_onRows (s : Insert) {first : Fields} (hfirst : first ≠ []) (rest : List Fields) :
    (s.onRows (first :: rest)).text = Statement.recorded Log.Channel.change "INSERT"
      (s.clauses (reportRows · 1 ·) (named first) (rest.map named)) := by
  rw [text_eq, givenRows_onRows s hfirst, pure_bind]
  rfl

/-! ## Which rows are reported -/

/-- Names in increasing order. -/
def sortedNames (names : List String) : List Value :=
  (sorted (names.map .text)).toOption.getD []

/-- Names can always be sorted. -/
theorem sorted_texts (names : List String) :
    sorted (names.map .text) = .ok (sortedNames names) := by
  have htexts : ∀ v ∈ names.map Value.text, ∃ s, v = .text s := by
    intro v hv
    obtain ⟨s, -, rfl⟩ := List.mem_map.mp hv
    exact ⟨s, rfl⟩
  obtain ⟨ws, hws⟩ := exists_sorted_of_texts htexts
  rw [sortedNames, hws]
  rfl

/-- The record of a row whose names are not those of the first. -/
def differsRecord (first row : Fields) (index : Nat) : Log.Record :=
  ⟨Log.Channel.change, .warning,
    "INSERT row " ++ index.repr ++ " columns " ++ (Value.list (sortedNames row.names)).inspect ++
      " differ from first row " ++ (Value.list (sortedNames first.names)).inspect ++
      "; using the first row's columns"⟩

/-- Are the names of a row others than those of the first? -/
def Differs (first row : Fields) : Prop := row.names.toFinset ≠ first.names.toFinset

instance (first row : Fields) : Decidable (Differs first row) :=
  inferInstanceAs (Decidable (_ ≠ _))

/-- Names are the same keys where they are the same set, in whatever order and however often. -/
theorem sameKeySet_texts (ks ls : List String) :
    sameKeySet (ks.map .text) (ls.map .text) = true ↔ ks.toFinset = ls.toFinset := by
  have hany : ∀ (ks : List String) (k : String),
      (ks.map Value.text).any (·.same (.text k)) = true ↔ k ∈ ks := by
    intro ks k
    simp only [List.any_map, List.any_eq_true, Function.comp_apply, Value.text_same_iff,
      Value.text.injEq, exists_eq_right']
  simp only [sameKeySet, Bool.and_eq_true, List.all_map, List.all_eq_true, Function.comp_apply,
    hany, Finset.ext_iff, List.mem_toFinset]
  exact ⟨fun h k => ⟨h.1 k, h.2 k⟩, fun h => ⟨fun k => (h k).mp, fun k => (h k).mpr⟩⟩

/-- A row is compared without a fault, and reported where its names differ. -/
theorem run_reportRow (first row : Fields) (index : Nat) :
    (reportRow (first.names.map .text) index (named row)).run c =
      ⟨.ok (), if Differs first row then [differsRecord first row index] else []⟩ := by
  rw [reportRow, keys_named, sorted_texts, sorted_texts]
  by_cases h : Differs first row
  · have hset : sameKeySet (row.names.map .text) (first.names.map .text) = false :=
      Bool.eq_false_iff.mpr fun hsame => h ((sameKeySet_texts _ _).mp hsame)
    rw [hset, if_pos h]
    rfl
  · have hset : sameKeySet (row.names.map .text) (first.names.map .text) = true :=
      (sameKeySet_texts _ _).mpr (not_not.mp h)
    rw [hset, if_neg h]
    rfl

/-- The rows whose names are not those of the first, each with its index; the first of the rows
stands at the index given. -/
def differing (first : Fields) (index : Nat) (rest : List Fields) : List (Fields × Nat) :=
  (rest.zipIdx index).filter fun p => Differs first p.1

theorem differing_cons (first row : Fields) (index : Nat) (rest : List Fields) :
    differing first index (row :: rest) =
      (if Differs first row then [(row, index)] else []) ++ differing first (index + 1) rest := by
  rw [differing, List.zipIdx_cons, List.filter_cons]
  by_cases h : Differs first row
  · rw [if_pos h, if_pos (decide_eq_true h)]
    rfl
  · rw [if_neg h, if_neg (by simpa using h)]
    rfl

/-- Rows are compared without a fault, and those whose names differ are reported one after the
other. -/
theorem run_reportRows (first : Fields) :
    ∀ (rest : List Fields) (index : Nat),
      (reportRows (first.names.map .text) index (rest.map named)).run c =
        ⟨.ok (), (differing first index rest).map fun p => differsRecord first p.1 p.2⟩ := by
  intro rest
  induction rest with
  | nil => intro index; rfl
  | cons row rest ih =>
      intro index
      rw [List.map_cons, reportRows, Build.run_bind, run_reportRow, Build.andThen_ok, ih,
        differing_cons, List.map_append]
      split <;> rfl

/-! ## What is written -/

/-- The text of a statement on rows under names. -/
def written (s : Insert) (first : Fields) (rest : List Fields) : Except Fault String := do
  let dates ← optionalItems s.dateFields
  let columnList ← joinTexts ", " (first.names.map .text ++ dates)
  let values ← (first :: rest).mapM fun row =>
    rowText (first.names.map .text) dates.length (named row)
  let refresh ← s.refreshSegment
  return "INSERT " ++ s.ignoreText ++ "INTO " ++ s.table.display ++ " (" ++ columnList ++
    ") VALUES " ++ ", ".intercalate values ++ refresh

/-- Rows under names are always compared, so that the text is that of its parts. -/
theorem outcome_clauses_named (s : Insert) (first : Fields) (rest : List Fields) :
    (s.clauses (reportRows · 1 ·) (named first) (rest.map named)).outcome c =
      s.written first rest := by
  rw [clauses, written, Build.outcome_bind, Build.outcome_liftM]
  refine bind_congr fun dates => ?_
  -- texts can be sorted, so that no comparison refuses the statement
  have hreport : (reportRows (first.names.map .text) 1 (rest.map named)).outcome c = .ok () :=
    congrArg Run.outcome (run_reportRows first rest 1)
  rw [keys_named, Build.outcome_bind, hreport, ok_bind, ← List.map_cons, List.mapM_map]
  simp only [Build.outcome_bind, Build.outcome_liftM, Build.outcome_lift, Build.outcome_pure]
  rfl

/-- A row is written like the row that is aligned for it. -/
theorem rowText_aligned (first row : Fields) (dates : Nat) :
    rowText (first.names.map .text) dates (named (alignedTo first row)) =
      rowText (first.names.map .text) dates (named row) := by
  have hvalues : rowValues (first.names.map .text) dates (named (alignedTo first row)) =
      rowValues (first.names.map .text) dates (named row) := by
    rw [rowValues, rowValues, List.map_map, List.map_map]
    refine congrArg (· ++ _) (List.map_congr_left fun name hname => ?_)
    show lookup (.text name) _ = lookup (.text name) _
    rw [lookup_named, lookup_named, value_alignedTo row hname]
  rw [rowText, rowText, hvalues]

theorem written_aligned (s : Insert) (first : Fields) (rest : List Fields) :
    s.written first (rest.map (alignedTo first)) = s.written first rest := by
  have hrows : ∀ dates : Nat,
      (first :: rest.map (alignedTo first)).mapM
          (fun row => rowText (first.names.map .text) dates (named row)) =
        (first :: rest).mapM fun row => rowText (first.names.map .text) dates (named row) := by
    intro dates
    rw [List.mapM_cons, List.mapM_cons, List.mapM_map]
    simp only [Function.comp_def, rowText_aligned]
  simp only [written, hrows]

/-! ## Rows that change places -/

/-- The tuples of rows under the names of the first. -/
def HasTuples (s : Insert) (first : Fields) (rows : List Fields) (tuple : Fields → String) :
    Prop :=
  ∃ dates, optionalItems s.dateFields = .ok dates ∧ ∀ row ∈ rows,
    rowText (first.names.map .text) dates.length (named row) = .ok (tuple row)

/-- A text that is laid out around the tuples of its rows. -/
def around (opening closing : String) (tuple : Fields → String) (rows : List Fields) : String :=
  opening ++ ", ".intercalate (rows.map tuple) ++ closing

theorem toList_intercalate_cons (sep t : String) :
    ∀ ts : List String, (sep.intercalate (t :: ts)).toList =
      t.toList ++ ts.flatMap fun u => sep.toList ++ u.toList := by
  intro ts
  induction ts generalizing t with
  | nil => rw [String.intercalate_singleton, List.flatMap_nil, List.append_nil]
  | cons u us ih =>
      rw [String.intercalate_cons_cons, String.toList_append, String.toList_append, ih,
        List.flatMap_cons, List.append_assoc, List.append_assoc]

/-- Texts around the same tuples in another order are of one length. -/
theorem length_around (opening closing : String) (tuple : Fields → String) (first : Fields)
    {rest rest' : List Fields} (h : rest'.Perm rest) :
    (around opening closing tuple (first :: rest')).length =
      (around opening closing tuple (first :: rest)).length := by
  have htuples : (", ".intercalate ((first :: rest').map tuple)).length =
      (", ".intercalate ((first :: rest).map tuple)).length := by
    rw [List.map_cons, List.map_cons, ← String.length_toList, ← String.length_toList,
      toList_intercalate_cons, toList_intercalate_cons]
    exact (((h.map tuple).flatMap_right _).append_left _).length_eq
  simp only [around, String.length_append, htuples]

/-- Whatever order the later rows stand in, the statement is written around the same tuples in
that order. -/
theorem written_perm {s : Insert} {first : Fields} {rest : List Fields} {sql : String}
    (h : s.written first rest = .ok sql) :
    ∃ opening closing tuple, s.HasTuples first (first :: rest) tuple ∧
      ∀ rest', rest'.Perm rest →
        s.written first rest' = .ok (around opening closing tuple (first :: rest')) := by
  obtain ⟨dates, hdates, h⟩ := bind_eq_ok_iff.mp h
  obtain ⟨columnList, hcolumns, h⟩ := bind_eq_ok_iff.mp h
  obtain ⟨values, hvalues, h⟩ := bind_eq_ok_iff.mp h
  obtain ⟨refresh, hrefresh, -⟩ := bind_eq_ok_iff.mp h
  have hrows := exists_mapM_iff.mp ⟨values, hvalues⟩
  -- nothing but the tuples is read from the later rows, and each from its own row
  choose! tuple htuple using hrows
  refine ⟨"INSERT " ++ s.ignoreText ++ "INTO " ++ s.table.display ++ " (" ++ columnList ++
    ") VALUES ", refresh, tuple, ⟨dates, hdates, htuple⟩, fun rest' hperm => ?_⟩
  have hvalues' : (first :: rest').mapM (fun row =>
      rowText (first.names.map .text) dates.length (named row)) =
        .ok ((first :: rest').map tuple) :=
    mapM_eq_ok_map fun row hrow => htuple row ((hperm.cons first).mem_iff.mp hrow)
  rw [written, hdates, ok_bind, hcolumns, ok_bind, hvalues', ok_bind, hrefresh]
  rfl

/-! ## The whole of it -/

/-- Date columns that are named, or none at all. -/
def NamesDates (s : Insert) : Prop :=
  s.dateFields = .null ∨ ∃ names : List String, s.dateFields = .list (names.map .text)

theorem NamesDates.exists_dates {s : Insert} (h : s.NamesDates) :
    ∃ dates, optionalItems s.dateFields = .ok dates := by
  rcases h with hnone | ⟨names, hnames⟩
  · rw [hnone]
    exact ⟨[], rfl⟩
  · rw [hnames, optionalItems]
    split <;> exact ⟨_, rfl⟩

/-- Of the clauses nothing but the comparison of the rows is warned of. -/
theorem warnings_clauses_named {s : Insert} (hdates : s.NamesDates) (first : Fields)
    (rest : List Fields) :
    Build.warnings Log.Channel.change
        (s.clauses (reportRows · 1 ·) (named first) (rest.map named)) c =
      (differing first 1 rest).map fun p => differsRecord first p.1 p.2 := by
  obtain ⟨dates, hdates⟩ := hdates.exists_dates
  have hread : (liftM (optionalItems s.dateFields) : Build (List Value)).outcome c = .ok dates :=
    hdates
  have hall : ∀ r ∈ (differing first 1 rest).map fun p => differsRecord first p.1 p.2,
      decide (r.logger = Log.Channel.change ∧ r.severity = .warning) = true := by
    intro r hr
    obtain ⟨p, -, rfl⟩ := List.mem_map.mp hr
    exact decide_eq_true ⟨rfl, rfl⟩
  rw [clauses, Build.warnings_bind hread, keys_named, Build.warnings_bind_of_nil]
  · rw [Build.warnings, Build.warnings, run_reportRows, List.filter_eq_self.mpr hall]
    rfl
  · -- what follows the comparison makes no record
    intro _
    refine (Build.warnings_bind_of_nil fun columnList => ?_).trans rfl
    refine (Build.warnings_bind_of_nil fun values => ?_).trans rfl
    exact (Build.warnings_bind_of_nil fun refresh => rfl).trans rfl

/-- Later rows count through the columns of the first alone. Aligned under its names, they give
the same statement or the same fault; in another order they give the same statement with their
tuples in that order; and reported are those whose names are not the names of the first, one
after the other. -/
theorem rows_aligned {s : Insert} (hdates : s.NamesDates) {first : Fields} (hfirst : first ≠ [])
    (rest : List Fields) (c : Context) :
    (s.onRows (first :: rest.map (alignedTo first))).text.outcome c =
        (s.onRows (first :: rest)).text.outcome c ∧
      (∀ sql, (s.onRows (first :: rest)).text.outcome c = .ok sql →
        ∃ opening closing tuple, s.HasTuples first (first :: rest) tuple ∧
          sql = around opening closing tuple (first :: rest) ∧
          ∀ rest', rest'.Perm rest → (s.onRows (first :: rest')).text.outcome c =
            .ok (around opening closing tuple (first :: rest'))) ∧
      Build.warnings Log.Channel.change (s.onRows (first :: rest)).text c =
        (differing first 1 rest).map fun p => differsRecord first p.1 p.2 := by
  refine ⟨?_, fun sql hsql => ?_, ?_⟩
  · rw [text_onRows s hfirst, text_onRows s hfirst]
    refine Statement.outcome_recorded_congr ?_ _ _
    rw [outcome_clauses_named, outcome_clauses_named, written_aligned]
  · rw [text_onRows s hfirst] at hsql
    have hbuilt := Statement.outcome_of_recorded hsql
    rw [outcome_clauses_named] at hbuilt
    obtain ⟨opening, closing, tuple, htuples, hwritten⟩ := written_perm hbuilt
    have hself : sql = around opening closing tuple (first :: rest) :=
      Except.ok.inj (hbuilt.symm.trans (hwritten rest (.refl rest)))
    refine ⟨opening, closing, tuple, htuples, hself, fun rest' hperm => ?_⟩
    rw [text_onRows s hfirst]
    refine Statement.outcome_recorded_of_length hsql ?_ ?_
    · rw [outcome_clauses_named, hwritten rest' hperm]
    · rw [hself, length_around opening closing tuple first hperm]
  · rw [text_onRows s hfirst, Statement.warnings_recorded, warnings_clauses_named hdates]

/-- A first row that names two columns. -/
def firstPrice : Fields := [("item", .text "pen"), ("price", .int 3)]

/-- A row with the same names in another order, one with a name that the first does not have,
whose value has no literal, and one without a price. -/
def laterPrices : List Fields :=
  [[("price", .int 4), ("item", .text "cup")],
    [("item", .text "mug"), ("price", .int 5), ("tags", .list [])], [("item", .text "box")]]

/-- An INSERT with a date column, which the rows are put into. -/
def prices : Insert where
  table := .text "stock"
  dateFields := .list [.text "seen"]

/-- The text of `prices` on these rows. -/
def pricesText : String :=
  "INSERT INTO stock (item, price, seen) VALUES (\"pen\",3,CURRENT_TIMESTAMP), " ++
    "(\"cup\",4,CURRENT_TIMESTAMP), (\"mug\",5,CURRENT_TIMESTAMP), " ++
    "(\"box\",NULL,CURRENT_TIMESTAMP)"

/-- The aligned rows of `prices` give the same text, its rows change places, and the second and
the third of the later ones are reported. -/
theorem rows_aligned_prices :
    (prices.onRows (firstPrice :: laterPrices.map (alignedTo firstPrice))).text.outcome {} =
        .ok pricesText ∧
      (∃ opening closing tuple,
        pricesText = around opening closing tuple (firstPrice :: laterPrices) ∧
        (prices.onRows (firstPrice :: laterPrices.reverse)).text.outcome {} =
          .ok (around opening closing tuple (firstPrice :: laterPrices.reverse))) ∧
      Build.warnings Log.Channel.change (prices.onRows (firstPrice :: laterPrices)).text {} =
        [differsRecord firstPrice [("item", .text "mug"), ("price", .int 5), ("tags", .list [])] 2,
          differsRecord firstPrice [("item", .text "box")] 3] := by
  have hfirst : firstPrice ≠ [] := List.cons_ne_nil _ _
  obtain ⟨halign, horder, hwarned⟩ :=
    rows_aligned (s := prices) (.inr ⟨["seen"], rfl⟩) hfirst laterPrices {}
  have htext : (prices.onRows (firstPrice :: laterPrices)).text.outcome {} = .ok pricesText :=
    eq_ok_of_toOption (by decide +kernel)
  obtain ⟨opening, closing, tuple, -, hself, hperm⟩ := horder pricesText htext
  refine ⟨halign.trans htext, ⟨opening, closing, tuple, hself, ?_⟩, hwarned.trans rfl⟩
  exact hperm _ (List.reverse_perm _)

end Insert

end SqlText
