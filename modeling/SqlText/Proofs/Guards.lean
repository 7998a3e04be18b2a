import SqlText.Proofs.InputFaults
import SqlText.Proofs.Recording
import SqlText.Statement.Delete
import SqlText.Statement.Insert
import SqlText.Statement.Select
import SqlText.Statement.Update

/-!
# Guards and clauses — what is checked before any clause is read

    s.text  =  s.guard >>= fun _ => recorded (s.clauses Join.chain)

Every statement begins with a guard. The guard of an UPDATE or a DELETE asks for a table and
a condition, that of an INSERT for rows, and that of a SELECT for a source. Only then are the
clauses read, and they may be refused for faults of inputs alone, whoever chains the joins or
compares the rows. An input may hold parts that stray, and each kind of statement has its own.

* **`Update.text_eq`** and its kin: a statement is its guard, its clauses and its record.
* **`Context.GuardFaults`**: for what a guard may be refused.
* **`Update.Strays`**, **`Select.Strays`**: the parts that stray.
* **`Update.faultsIn_clauses`** and its kin: for what the clauses may be refused.
-/

namespace SqlText

open Fault (Malformed MalformedOr)

variable {α β : Type} {Q : Fault → Prop} {c : Context} {chain : Value → Build String}

/-! ## A guard and what follows it -/

/-- The run of a statement that gets past its guard is that of the rest. -/
theorem Build.run_bind_of_passed {x : Build α} {f : α → Build β} {a : α}
    (h : x.run c = ⟨.ok a, []⟩) : (x >>= f).run c = (f a).run c := by
  rw [run_bind, h, andThen_ok, List.nil_append]

/-- The run of a statement that does not get past its guard is that of the guard. -/
theorem Build.run_bind_of_stopped {x : Build α} {f : α → Build β} {e : Fault}
    {rs : List Log.Record} (h : x.run c = ⟨.error e, rs⟩) : (x >>= f).run c = ⟨.error e, rs⟩ := by
  rw [run_bind, h, andThen_error]

/-- The faults of a guard: a required input is missing, what it reads is malformed, or there
are no settings that could ask for a source. -/
inductive Context.GuardFaults (c : Context) : Fault → Prop where
  | missing (field statement note : Value) :
      GuardFaults c (.build (.missingField field statement note))
  | malformed {e : Fault} (h : e.Malformed) : GuardFaults c e
  | settings (h : ∀ st, c.active ≠ .settings st) :
      GuardFaults c (.noAttribute c.active.typeName "strict_select")

namespace Statement

/-- Asks for a table and a condition. -/
def requireBoth (statement : String) (table condition : Value) : Build Unit := do
  require Log.Channel.change table "table" statement
  require Log.Channel.change condition "where" statement

theorem faultsIn_require (v : Value) (field statement : String) :
    FaultsIn c.GuardFaults ((require Log.Channel.change v field statement).outcome c) := by
  rw [require]
  split
  · exact .missing _ _ _
  · trivial

theorem faultsIn_requireBoth (statement : String) (table condition : Value) :
    FaultsIn c.GuardFaults ((requireBoth statement table condition).outcome c) :=
  .outcome_bind (faultsIn_require table _ _) fun _ => faultsIn_require condition _ _

end Statement

/-! ## UPDATE -/

namespace Update

/-- Reports a statement without any assignment. -/
def reportUnassigned (s : Update) (assignments : String) : Build Unit :=
  if assignments.isEmpty then
    Build.note Log.Channel.change .warning
      ("Building UPDATE on '" ++ s.table.display ++ "' without any assignments")
  else pure ()

/-- The text behind the guard, with a way to chain joins. -/
def clauses (chain : Value → Build String) (s : Update) : Build String := do
  let assignments ← s.assignments
  s.reportUnassigned assignments
  let joins ← chain s.joins
  let ordering ← Build.whenGiven s.ordering OrderBy.text
  return "UPDATE" ++ joins ++ " " ++ s.table.display ++ " SET " ++ assignments ++
    " WHERE " ++ s.condition.display ++ ordering ++ Paging.limitSegment s.limit

theorem compose_eq (s : Update) :
    s.compose = Statement.requireBoth "UPDATE" s.table s.condition >>= fun _ =>
      s.clauses Join.chain := by
  rw [compose, Statement.requireBoth, bind_assoc]
  refine bind_congr fun _ => bind_congr fun _ => bind_congr fun assignments => ?_
  rw [reportUnassigned]
  split
  · rfl
  · rw [pure_bind]

theorem text_eq (s : Update) :
    s.text = Statement.requireBoth "UPDATE" s.table s.condition >>= fun _ =>
      Statement.recorded Log.Channel.change "UPDATE" (s.clauses Join.chain) := by
  rw [text, compose_eq, bind_assoc]
  rfl

/-- The parts of an UPDATE that stray: groups of assignments that are given and are no
mappings, and an ordering that holds something else than keys. -/
inductive Strays (s : Update) : Fault → Prop where
  | values {e : Fault} (hg : s.values.isGiven = true) (h : s.values.LacksEntries e) : Strays s e
  | calculations {e : Fault} (hg : s.calculations.isGiven = true)
      (h : s.calculations.LacksEntries e) : Strays s e
  | subQueries {e : Fault} (hg : s.subQueries.isGiven = true)
      (h : s.subQueries.LacksEntries e) : Strays s e
  | ordering {e : Fault} (h : OrderBy.Strays s.ordering e) : Strays s e

theorem Strays.stray {s : Update} {e : Fault} (h : s.Strays e) : e.Stray := by
  cases h with
  | values _ h => exact h.stray
  | calculations _ h => exact h.stray
  | subQueries _ h => exact h.stray
  | ordering h => exact h.stray

/-- A group is refused for what its items are, where it is given. -/
theorem faultsIn_groupText {v : Value} {items : Value → Except Fault (List String)}
    (h : v.isGiven = true → FaultsIn Q (items v)) : FaultsIn Q (groupText v items) := by
  rw [groupText]
  split
  · rename_i hg
    exact (h hg).bind fun _ => trivial
  · trivial

theorem faultsIn_valueItems (v : Value) : FaultsIn (MalformedOr v.LacksEntries) (valueItems v) :=
  (v.faultsIn_items.mono fun _ => .inr).bind fun es =>
    .mapM (fun e => (CaseExpr.faultsIn_assignment e.1 e.2).orStray) es

theorem faultsIn_expressionItems (v : Value) :
    FaultsIn (MalformedOr v.LacksEntries) (expressionItems v) :=
  (v.faultsIn_items.mono fun _ => .inr).bind fun _ => trivial

theorem faultsIn_keywordItems (keyword : String) (v : Value) :
    FaultsIn Malformed (keywordItems keyword v) :=
  v.faultsIn_iterate.bind fun _ => trivial

theorem faultsIn_assignments (s : Update) : FaultsIn (MalformedOr s.Strays) s.assignments := by
  refine FaultsIn.bind (faultsIn_groupText fun hg => ?_) fun values => ?_
  · exact (faultsIn_valueItems _).mono fun e he => he.imp id (.values hg)
  refine FaultsIn.bind (faultsIn_groupText fun hg => ?_) fun calculations => ?_
  · exact (faultsIn_expressionItems _).mono fun e he => he.imp id (.calculations hg)
  refine FaultsIn.bind (faultsIn_groupText fun hg => ?_) fun subQueries => ?_
  · exact (faultsIn_expressionItems _).mono fun e he => he.imp id (.subQueries hg)
  refine FaultsIn.bind (faultsIn_groupText fun _ => ?_) fun nulls => ?_
  · exact (faultsIn_keywordItems "NULL" _).orStray
  refine FaultsIn.bind (faultsIn_groupText fun _ => ?_) fun defaults => trivial
  exact (faultsIn_keywordItems "DEFAULT" _).orStray

theorem faultsIn_clauses {s : Update} (hQ : ∀ e, MalformedOr s.Strays e → Q e)
    (hchain : FaultsIn Q ((chain s.joins).outcome c)) :
    FaultsIn Q ((s.clauses chain).outcome c) := by
  refine .outcome_bind (s.faultsIn_assignments.mono hQ) fun assignments => ?_
  refine .outcome_bind ?_ fun _ => ?_
  · rw [reportUnassigned]
    split <;> trivial
  refine .outcome_bind hchain fun joins => ?_
  refine .outcome_bind (.outcome_whenGiven ?_) fun ordering => trivial
  exact (OrderBy.faultsIn_text s.ordering).mono fun e he => hQ e (he.imp id .ordering)

end Update

/-! ## DELETE -/

namespace Delete

/-- The text behind the guard, with a way to chain joins. -/
def clauses (chain : Value → Build String) (s : Delete) : Build String := do
  let joins ← Build.whenGiven s.joins chain
  let ordering ← Build.whenGiven s.ordering OrderBy.text
  return "DELETE " ++ s.table.display ++ " FROM " ++ s.table.display ++ joins ++
    " WHERE " ++ s.condition.display ++ ordering ++ Paging.limitSegment s.limit

theorem compose_eq (s : Delete) :
    s.compose = Statement.requireBoth "DELETE" s.table s.condition >>= fun _ =>
      s.clauses Join.chain := by
  rw [compose, Statement.requireBoth, bind_assoc]
  rfl

theorem text_eq (s : Delete) :
    s.text = Statement.requireBoth "DELETE" s.table s.condition >>= fun _ =>
      Statement.recorded Log.Channel.change "DELETE" (s.clauses Join.chain) := by
  rw [text, compose_eq, bind_assoc]
  rfl

theorem faultsIn_clauses {s : Delete} (hQ : ∀ e, MalformedOr (OrderBy.Strays s.ordering) e → Q e)
    (hchain : FaultsIn Q ((chain s.joins).outcome c)) :
    FaultsIn Q ((s.clauses chain).outcome c) := by
  refine .outcome_bind (.outcome_whenGiven hchain) fun joins => ?_
  refine .outcome_bind (.outcome_whenGiven ?_) fun ordering => trivial
  exact (OrderBy.faultsIn_text s.ordering).mono hQ

end Delete

/-! ## INSERT -/

namespace Insert

/-- The text behind the guard, with a way to report rows whose columns are not those of the
first. -/
def clauses (report : List Value → List (List (Value × Value)) → Build Unit) (s : Insert)
    (first : List (Value × Value)) (rest : List (List (Value × Value))) : Build String := do
  let dates ← optionalItems s.dateFields
  let columns := keys first
  report columns rest
  let columnList ← joinTexts ", " (columns ++ dates)
  let values ← Build.lift ((first :: rest).mapM (rowText columns dates.length))
  let refresh ← s.refreshSegment
  return "INSERT " ++ s.ignoreText ++ "INTO " ++ s.table.display ++ " (" ++ columnList ++
    ") VALUES " ++ ", ".intercalate values ++ refresh

/-- The rows that are given are those of the input, and the first one is not empty. -/
theorem givenRows_ok {s : Insert} {c : Context}
    {rows : List (Value × Value) × List (List (Value × Value))}
    (h : s.givenRows.outcome c = .ok rows) :
    rowsOfValue s.rows = .ok (rows.1 :: rows.2) ∧ rows.1 ≠ [] := by
  rw [givenRows] at h
  split at h
  · exact nomatch h
  · rw [Build.outcome_bind] at h
    obtain ⟨rs, hrs, h⟩ := bind_eq_ok_iff.mp h
    rw [Build.outcome_liftM] at hrs
    split at h
    · rw [hrs, ← Except.ok.inj h]
      exact ⟨rfl, List.cons_ne_nil _ _⟩
    · exact nomatch h

theorem compose_eq (s : Insert) :
    s.compose = s.givenRows >>= fun rows => s.clauses (reportRows · 1 ·) rows.1 rows.2 := rfl

theorem text_eq (s : Insert) :
    s.text = s.givenRows >>= fun rows => Statement.recorded Log.Channel.change "INSERT"
      (s.clauses (reportRows · 1 ·) rows.1 rows.2) := by
  rw [text, compose_eq, bind_assoc]
  rfl

theorem faultsIn_rowsFrom :
    ∀ (vs : List Value) (index : Nat), FaultsIn Malformed (rowsFrom index vs) := by
  intro vs
  induction vs with
  | nil => intro index; trivial
  | cons v vs ih =>
      intro index
      cases v with
      | mapping es => exact (ih _).map _
      | _ => exact .specification _

theorem faultsIn_rowsOfValue (v : Value) : FaultsIn Malformed (rowsOfValue v) := by
  unfold rowsOfValue
  split
  · trivial
  · exact faultsIn_rowsFrom _ _
  · exact faultsIn_rowsFrom _ _
  · exact .specification _

theorem faultsIn_givenRows (s : Insert) : FaultsIn c.GuardFaults (s.givenRows.outcome c) := by
  have hempty : FaultsIn c.GuardFaults
      ((refuseEmpty : Build (List (Value × Value) × List (List (Value × Value)))).outcome c) :=
    .missing _ _ _
  rw [givenRows]
  split
  · exact hempty
  · refine .outcome_bind ((faultsIn_rowsOfValue s.rows).mono fun _ => .malformed) fun rows => ?_
    split
    · trivial
    · exact hempty

theorem faultsIn_rowText (columns : List Value) (dates : Nat) (row : List (Value × Value)) :
    FaultsIn Malformed (rowText columns dates row) := by
  have hrow : ∀ vs, FaultsIn Malformed (Literal.row false vs) := fun vs =>
    ((FaultsIn.mapM (Literal.faultsIn_text false) vs).mono fun _ =>
      Fault.OfLiteral.malformed).bind fun ts => trivial
  exact (hrow _).bind fun t => trivial

theorem faultsIn_refreshSegment (s : Insert) : FaultsIn Malformed s.refreshSegment := by
  unfold refreshSegment
  split
  · trivial
  · exact s.updateFields.faultsIn_iterate.bind fun vs => trivial

theorem faultsIn_optionalItems (v : Value) : FaultsIn Malformed (optionalItems v) := by
  unfold optionalItems
  split
  · exact v.faultsIn_iterate
  · trivial

theorem faultsIn_clauses {report : List Value → List (List (Value × Value)) → Build Unit}
    {first : List (Value × Value)} {rest : List (List (Value × Value))}
    (hQ : ∀ e, Malformed e → Q e) (hreport : FaultsIn Q ((report (keys first) rest).outcome c))
    (s : Insert) :
    FaultsIn Q ((s.clauses report first rest).outcome c) := by
  refine .outcome_bind ((faultsIn_optionalItems _).mono hQ) fun dates => ?_
  refine .outcome_bind hreport fun _ => ?_
  refine .outcome_bind ((faultsIn_joinTexts _ _).mono hQ) fun columnList => ?_
  refine .outcome_bind ((FaultsIn.mapM (faultsIn_rowText _ _) _).mono hQ) fun values => ?_
  exact .outcome_bind (s.faultsIn_refreshSegment.mono hQ) fun refresh => trivial

end Insert

/-! ## SELECT -/

namespace Select

/-- Asks for a source; the relation comes with it. -/
def guard (s : Select) : Build (String × Value) := do
  let (relation, source) ← s.source
  s.checkSource source
  return (relation, source)

/-- The text behind the guard, with a way to chain joins. -/
def clauses (chain : Value → Build String) (s : Select) (relation : String) (source : Value) :
    Build String := do
  let list ← listText s.columns s.subQueries s.aggregates
  let joins ← Build.whenGiven s.joins chain
  let grouping ← Build.whenGiven s.grouping Columns.groupText
  let ordering ← Build.whenGiven s.ordering OrderBy.text
  let paging ← Build.whenGiven s.paging fun v => Paging.text v
  return Text.strip (relation ++ "SELECT " ++
    (if s.distinct.isGiven then "DISTINCT " else "") ++ list ++ " FROM " ++
    (source.orElse (.text "")).display ++ joins ++ wordSegment " WHERE " s.condition ++
    grouping ++ wordSegment " HAVING " s.having ++ ordering ++ paging)

theorem compose_eq (s : Select) :
    s.compose = s.guard >>= fun given => s.clauses Join.chain given.1 given.2 := by
  simp only [compose, guard, bind_assoc, pure_bind]
  rfl

theorem text_eq (s : Select) :
    s.text = s.guard >>= fun given => Statement.recorded Log.Channel.selection "SELECT"
      (s.clauses Join.chain given.1 given.2) := by
  rw [text, compose_eq, bind_assoc]
  rfl

theorem faultsIn_source (s : Select) : FaultsIn Malformed s.source := by
  rw [source]
  split
  · exact (RecursiveCte.faultsIn_ofValue _).bind fun _ => trivial
  · trivial

theorem faultsIn_checkSource (s : Select) (source : Value) :
    FaultsIn c.GuardFaults ((s.checkSource source).outcome c) := by
  have hsettings : FaultsIn c.GuardFaults (Settings.ofValue "strict_select" c.active) := by
    unfold Settings.ofValue
    split
    · trivial
    · rename_i hnone
      exact .settings hnone
  rw [checkSource]
  split
  · refine .outcome_bind hsettings fun st => ?_
    split
    · exact .missing _ _ _
    · trivial
  · trivial

theorem faultsIn_guard (s : Select) : FaultsIn c.GuardFaults (s.guard.outcome c) := by
  refine .outcome_bind (s.faultsIn_source.mono fun _ => .malformed) fun given => ?_
  exact .outcome_bind (s.faultsIn_checkSource given.2) fun _ => trivial

/-- The parts of a SELECT that stray: columns of something else than groups, aggregates of
something else than pairs, and an ordering of something else than keys. -/
inductive Strays (s : Select) : Fault → Prop where
  | columns {e : Fault} (h : Columns.Strays s.columns e) : Strays s e
  | aggregates {e : Fault} (h : Aggregate.ListStrays s.aggregates e) : Strays s e
  | grouping {e : Fault} (h : Columns.Strays s.grouping e) : Strays s e
  | ordering {e : Fault} (h : OrderBy.Strays s.ordering e) : Strays s e

theorem Strays.stray {s : Select} {e : Fault} (h : s.Strays e) : e.Stray := by
  cases h with
  | columns h => exact h.stray
  | aggregates h => exact h.stray
  | grouping h => exact h.stray
  | ordering h => exact h.stray

theorem faultsIn_listText (s : Select) :
    FaultsIn (MalformedOr s.Strays)
      ((listText s.columns s.subQueries s.aggregates).outcome c) := by
  refine .outcome_bind ?_ fun cs => ?_
  · exact (Columns.faultsIn_listText s.columns).mono fun e he => he.imp id .columns
  refine .outcome_bind (SubQuery.faultsIn_listText s.subQueries).orStray fun qs => ?_
  refine .outcome_bind (.outcome_liftM ?_) fun as => trivial
  exact (Aggregate.faultsIn_listText s.aggregates).mono fun e he => he.imp id .aggregates

theorem faultsIn_clauses {s : Select} (hQ : ∀ e, MalformedOr s.Strays e → Q e)
    (hchain : FaultsIn Q ((chain s.joins).outcome c)) (relation : String) (source : Value) :
    FaultsIn Q ((s.clauses chain relation source).outcome c) := by
  refine .outcome_bind (s.faultsIn_listText.mono hQ) fun list => ?_
  refine .outcome_bind (.outcome_whenGiven hchain) fun joins => ?_
  refine .outcome_bind (.outcome_whenGiven ?_) fun grouping => ?_
  · exact (Columns.faultsIn_groupText s.grouping).mono fun e he => hQ e (he.imp id .grouping)
  refine .outcome_bind (.outcome_whenGiven ?_) fun ordering => ?_
  · exact (OrderBy.faultsIn_text s.ordering).mono fun e he => hQ e (he.imp id .ordering)
  refine .outcome_bind (.outcome_whenGiven ?_) fun paging => trivial
  exact .outcome_liftM ((Paging.faultsIn_text s.paging).mono fun e he => hQ e (.inl he))

end Select

end SqlText
