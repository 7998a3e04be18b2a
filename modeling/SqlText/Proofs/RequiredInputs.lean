import SqlText.Proofs.DiagnosticFaults
import SqlText.Proofs.Guards

/-!
# Required inputs — which statement is refused for which missing input

    s.text is refused for its table  ↔  the table is missing

An UPDATE and a DELETE need a table and a condition, and an INSERT needs rows. They are asked
for by the guard, before any clause is read, so nothing malformed elsewhere can be the fault
in their place. Behind the guard no required input is looked for, so there is no later refusal
of the same kind either.

* **`Statement.isMissing_iff`**: what counts as missing.
* **`refusesMissing_of_requireBoth`**, **`Insert.refusesMissing`**: what the guards refuse.
* **`required_inputs`**: the refusals for missing inputs, and the record that each makes.
-/

namespace SqlText

open Fault (FromDiagnostic)

variable {α : Type} {c : Context}

/-! ## Missing inputs -/

/-- A missing input does not count as given, or it is a text of blanks alone. -/
def Value.IsMissing (v : Value) : Prop :=
  v.isGiven = false ∨ ∃ s, v = .text s ∧ ∀ ch ∈ s.toList, Text.isBlank ch = true

theorem Statement.isMissing_iff (v : Value) : isMissing v = true ↔ v.IsMissing := by
  unfold isMissing
  split
  · rename_i s
    rw [Text.isBlankText, List.all_eq_true, Value.IsMissing]
    constructor
    · exact fun h => .inr ⟨s, rfl, h⟩
    · rintro (h | ⟨t, ht, h⟩)
      · -- a text that does not count as given is empty
        have hempty : s = "" := by simpa [Value.isGiven] using h
        rw [hempty]
        exact fun ch hch => nomatch hch
      · rw [Value.text.inj ht]
        exact h
  · rename_i hv
    rw [Bool.not_eq_true', Value.IsMissing, or_iff_left]
    exact fun ⟨t, ht, _⟩ => hv t ht

/-- A fault other than the refusal of a missing input. -/
def Fault.NotMissing (e : Fault) : Prop :=
  ∀ field statement note, e ≠ .build (.missingField field statement note)

theorem Fault.FromInput.notMissing {e : Fault} (h : e.FromInput) : e.NotMissing := by
  rintro field statement note rfl
  exact nomatch h

theorem Fault.FromDiagnostic.notMissing {e : Fault} (h : e.FromDiagnostic) : e.NotMissing := by
  rintro field statement note rfl
  cases h with
  | order ho => exact nomatch ho

/-- The record of a refused change. -/
def refusalRecord (message : String) : Log.Record := ⟨Log.Channel.change, .error, message⟩

/-- A required input that is missing ends a statement with one record. -/
theorem Statement.run_require (v : Value) (field statement : String) :
    (require Log.Channel.change v field statement).run c =
      if isMissing v then
        ⟨.error (.build (.missing field statement)),
          [refusalRecord (statement ++ " build rejected: `" ++ field ++ "` is missing")]⟩
      else ⟨.ok (), []⟩ := by
  rw [require]
  split
  · rfl
  · rfl

/-! ## Behind the guard -/

/-- A statement that is recorded once it is built is refused for no missing input, where its
clauses are not. -/
theorem faultsIn_recorded {x : Build String} (logger verb : String)
    (h : FaultsIn Fault.NotMissing (x.outcome c)) :
    FaultsIn Fault.NotMissing ((Statement.recorded logger verb x).outcome c) := by
  refine .outcome_bind h fun sql => ?_
  refine .outcome_bind ?_ fun _ => trivial
  exact (Statement.faultsIn_reportBuilt logger verb sql).mono fun _ h =>
    h.fromDiagnostic.notMissing

/-- A chain of joins is refused for no missing input. -/
theorem Join.faultsIn_chain_notMissing (v : Value) :
    FaultsIn Fault.NotMissing ((chain v).outcome c) := by
  refine (faultsIn_chain v).mono fun e h => ?_
  rcases h with h | ⟨_, _, _, h⟩
  · exact h.fromInput.notMissing
  · exact h.fromDiagnostic.notMissing

/-! ## What a run refuses -/

/-- A run is refused for missing inputs exactly where it lacks them, in the name of its
statement, and leaves a single record then, an error. -/
structure RefusesMissing (r : Run String) (statement note : Value) (Lacks : Value → Prop) :
    Prop where
  refused_iff : ∀ field statement' note',
    r.outcome = .error (.build (.missingField field statement' note')) ↔
      Lacks field ∧ statement' = statement ∧ note' = note
  recorded : ∀ field, Lacks field → ∃ message, r.records = [refusalRecord message]

/-- A run that ends in the refusal of one missing input refuses just that. -/
theorem RefusesMissing.of_refused {field statement note : Value} {message : String}
    {Lacks : Value → Prop} (h : ∀ field', Lacks field' ↔ field' = field) :
    RefusesMissing ⟨.error (.build (.missingField field statement note)),
      [refusalRecord message]⟩ statement note Lacks := by
  refine ⟨fun field' statement' note' => ?_, fun _ _ => ⟨message, rfl⟩⟩
  rw [h]
  constructor
  · intro he
    cases he
    exact ⟨rfl, rfl, rfl⟩
  · rintro ⟨rfl, rfl, rfl⟩
    rfl

/-- A run that ends in no refusal of a missing input refuses none. -/
theorem RefusesMissing.of_passed {r : Run String} {statement note : Value}
    {Lacks : Value → Prop} (h : FaultsIn Fault.NotMissing r.outcome)
    (hlacks : ∀ field, ¬ Lacks field) : RefusesMissing r statement note Lacks := by
  refine ⟨fun field statement' note' => ?_, fun field hf => absurd hf (hlacks field)⟩
  constructor
  · intro he
    exact absurd rfl (h.of_error he field statement' note')
  · exact fun hf => absurd hf.1 (hlacks field)

/-! ## Tables and conditions -/

/-- The input for which a change of a table is refused: its table where that is missing, and
its condition where the table is not. -/
inductive LacksInput (table condition : Value) : Value → Prop where
  | table (h : table.IsMissing) : LacksInput table condition (.text "table")
  | condition (ht : ¬ table.IsMissing) (h : condition.IsMissing) :
      LacksInput table condition (.text "where")

/-- What asks for a table and a condition before it goes on to anything else is refused for
them alone. -/
theorem refusesMissing_of_requireBoth {rest : Unit → Build String} (statement : String)
    (table condition : Value) (hrest : FaultsIn Fault.NotMissing ((rest ()).outcome c)) :
    RefusesMissing ((Statement.requireBoth statement table condition >>= rest).run c)
      (.text statement) .null (LacksInput table condition) := by
  have htable := Statement.run_require (c := c) table "table" statement
  have hcondition := Statement.run_require (c := c) condition "where" statement
  rw [Statement.requireBoth, bind_assoc]
  by_cases ht : Statement.isMissing table
  · rw [if_pos ht] at htable
    rw [Build.run_bind_of_stopped htable]
    rw [Statement.isMissing_iff] at ht
    refine .of_refused fun field => ⟨fun h => ?_, fun h => h ▸ .table ht⟩
    cases h with
    | table _ => rfl
    | condition hn _ => exact absurd ht hn
  rw [if_neg ht] at htable
  rw [Build.run_bind_of_passed htable]
  rw [Statement.isMissing_iff] at ht
  by_cases hw : Statement.isMissing condition
  · rw [if_pos hw] at hcondition
    rw [Build.run_bind_of_stopped hcondition]
    rw [Statement.isMissing_iff] at hw
    refine .of_refused fun field => ⟨fun h => ?_, fun h => h ▸ .condition ht hw⟩
    cases h with
    | table hm => exact absurd hm ht
    | condition _ _ => rfl
  · rw [if_neg hw] at hcondition
    rw [Build.run_bind_of_passed hcondition]
    rw [Statement.isMissing_iff] at hw
    refine .of_passed hrest fun field h => ?_
    cases h with
    | table hm => exact ht hm
    | condition _ hm => exact hw hm

theorem Update.refusesMissing (s : Update) :
    RefusesMissing (s.text.run c) (.text "UPDATE") .null (LacksInput s.table s.condition) := by
  rw [text_eq]
  refine refusesMissing_of_requireBoth _ _ _ (faultsIn_recorded _ _ ?_)
  exact faultsIn_clauses (fun _ h => (h.fromInput Strays.stray).notMissing)
    (Join.faultsIn_chain_notMissing _)

theorem Delete.refusesMissing (s : Delete) :
    RefusesMissing (s.text.run c) (.text "DELETE") .null (LacksInput s.table s.condition) := by
  rw [text_eq]
  refine refusesMissing_of_requireBoth _ _ _ (faultsIn_recorded _ _ ?_)
  exact faultsIn_clauses (fun _ h => (h.fromInput OrderBy.Strays.stray).notMissing)
    (Join.faultsIn_chain_notMissing _)

/-! ## Rows -/

/-- The input for which an INSERT is refused: its rows, where they do not count as given, or
are mappings in a list or tuple of which the first is empty. -/
inductive LacksRows (rows : Value) : Value → Prop where
  | absent (h : rows.isGiven = false) : LacksRows rows (.text "insert_data")
  | emptyFirst {vs : List Value} (hvs : rows.sequence? = some vs)
      (hall : ∀ v ∈ vs, ∃ es, v = .mapping es) (hfirst : vs.head? = some (.mapping [])) :
      LacksRows rows (.text "insert_data")

namespace Insert

/-- The rows that are read from a list are the entries of its items, all of them mappings. -/
theorem rowsFrom_eq_ok_iff :
    ∀ (vs : List Value) (index : Nat) (rows : List (List (Value × Value))),
      rowsFrom index vs = .ok rows ↔ vs = rows.map .mapping := by
  intro vs
  induction vs with
  | nil =>
      intro index rows
      rw [rowsFrom, Except.ok.injEq]
      exact ⟨fun h => h ▸ rfl, fun h => (List.map_eq_nil_iff.mp h.symm).symm⟩
  | cons v vs ih =>
      intro index rows
      cases v with
      | mapping es =>
          rw [rowsFrom, map_eq_ok_iff]
          constructor
          · rintro ⟨rest, hrest, rfl⟩
            rw [List.map_cons, ← (ih _ _).mp hrest]
          · intro he
            cases rows with
            | nil => exact nomatch he
            | cons row rest =>
                obtain ⟨hrow, hrest⟩ := List.cons.inj he
                exact ⟨rest, (ih _ _).mpr hrest, by rw [Value.mapping.inj hrow]⟩
      | _ =>
          constructor
          · exact fun h => nomatch h
          · intro he
            cases rows with
            | nil => exact nomatch he
            | cons row rest => exact nomatch (List.cons.inj he).1

/-- Rows are read from a mapping, or from a list or tuple of mappings. -/
theorem rowsOfValue_eq_ok_iff (v : Value) (rows : List (List (Value × Value))) :
    rowsOfValue v = .ok rows ↔
      (∃ es, v = .mapping es ∧ rows = [es]) ∨ v.sequence? = some (rows.map .mapping) := by
  cases v with
  | mapping es =>
      simp only [rowsOfValue, Except.ok.injEq, Value.sequence?, Value.mapping.injEq, reduceCtorEq,
        or_false, exists_eq_left', eq_comm]
  | list vs =>
      rw [rowsOfValue, rowsFrom_eq_ok_iff]
      simp [Value.sequence?]
  | tuple vs =>
      rw [rowsOfValue, rowsFrom_eq_ok_iff]
      simp [Value.sequence?]
  | _ => simp [rowsOfValue, Value.sequence?]

/-- Rows that count as given are at least one. -/
theorem rowsOfValue_ne_nil {v : Value} (hv : v.isGiven = true) : rowsOfValue v ≠ .ok [] := by
  rw [Ne, rowsOfValue_eq_ok_iff]
  rintro (⟨es, -, h⟩ | h)
  · exact nomatch h
  · cases v with
    | list vs =>
        rw [show vs = [] from Option.some.inj h] at hv
        exact nomatch hv
    | tuple vs =>
        rw [show vs = [] from Option.some.inj h] at hv
        exact nomatch hv
    | _ => exact nomatch h

/-- Rows are lacking where they do not count as given, or are read with an empty first one. -/
theorem lacksRows_iff (v field : Value) :
    LacksRows v field ↔ field = .text "insert_data" ∧
      (v.isGiven = false ∨ ∃ rest, rowsOfValue v = .ok ([] :: rest)) := by
  constructor
  · intro h
    refine ⟨by cases h <;> rfl, ?_⟩
    cases h with
    | absent h => exact .inl h
    | @emptyFirst vs hvs hall hfirst =>
        refine .inr ?_
        obtain ⟨tail, rfl⟩ := List.head?_eq_some_iff.mp hfirst
        obtain ⟨rest, hrest⟩ : ∃ rest : List (List (Value × Value)), tail = rest.map .mapping := by
          refine ⟨tail.map fun v => v.entries?.getD [], ?_⟩
          rw [List.map_map]
          refine (List.map_id' tail).symm.trans (List.map_congr_left fun v hv => ?_)
          obtain ⟨es, rfl⟩ := hall v (List.mem_cons_of_mem _ hv)
          rfl
        refine ⟨rest, (rowsOfValue_eq_ok_iff v _).mpr (.inr ?_)⟩
        rw [hvs, hrest]
        rfl
  · rintro ⟨rfl, h | ⟨rest, h⟩⟩
    · exact .absent h
    rcases (rowsOfValue_eq_ok_iff v _).mp h with ⟨es, rfl, hes⟩ | hvs
    · rw [← (List.cons.inj hes).1]
      exact .absent rfl
    · refine .emptyFirst hvs (fun w hw => ?_) rfl
      obtain ⟨es, -, hes⟩ := List.mem_map.mp hw
      exact ⟨es, hes.symm⟩

/-- How an INSERT without rows is refused. -/
theorem run_refuseEmpty : (refuseEmpty : Build α).run c =
    ⟨.error (.build
      (.missingField (.text "insert_data") (.text "INSERT") (.text "Insert data is empty."))),
      [refusalRecord "INSERT build rejected: insert data is empty"]⟩ := rfl

/-- Rows that are not lacking are handed on, or refused for another fault. -/
theorem givenRows_of_not_lacks {s : Insert} (h : ∀ field, ¬ LacksRows s.rows field) :
    FaultsIn Fault.NotMissing (s.givenRows.outcome c) := by
  have hlacks := fun h' => h _ ((lacksRows_iff s.rows _).mpr ⟨rfl, h'⟩)
  have hg : s.rows.isGiven = true := by
    rw [← Bool.not_eq_false]
    exact fun hg => hlacks (.inl hg)
  rw [givenRows, if_neg (by rw [hg]; decide), Build.outcome_bind]
  have hfaults := (faultsIn_rowsOfValue s.rows).mono fun _ h => h.fromInput.notMissing
  rcases hrows : rowsOfValue s.rows with e | rows
  · exact hfaults.of_error hrows
  rcases rows with _ | ⟨row, rest⟩
  · exact absurd hrows (rowsOfValue_ne_nil hg)
  cases row with
  | nil => exact absurd (.inr ⟨rest, hrows⟩) hlacks
  | cons e es => trivial

/-- Rows that are lacking are refused. -/
theorem givenRows_of_lacks {s : Insert} (h : LacksRows s.rows (.text "insert_data")) :
    s.givenRows.run c = refuseEmpty.run c := by
  obtain ⟨-, h⟩ := (lacksRows_iff s.rows _).mp h
  rw [givenRows]
  by_cases hg : s.rows.isGiven = true
  · obtain ⟨rest, hrest⟩ := h.resolve_left (by rw [hg]; decide)
    rw [if_neg (by rw [hg]; decide), hrest]
    rfl
  · rw [if_pos (by simpa using hg)]

theorem refusesMissing (s : Insert) :
    RefusesMissing (s.text.run c) (.text "INSERT") (.text "Insert data is empty.")
      (LacksRows s.rows) := by
  rw [text_eq]
  by_cases h : LacksRows s.rows (.text "insert_data")
  · rw [Build.run_bind_of_stopped ((givenRows_of_lacks h).trans run_refuseEmpty)]
    refine .of_refused fun field => ⟨fun hf => ?_, fun hf => hf ▸ h⟩
    exact ((lacksRows_iff _ _).mp hf).1
  · have hlacks : ∀ field, ¬ LacksRows s.rows field := by
      intro field hf
      rw [((lacksRows_iff _ _).mp hf).1] at hf
      exact h hf
    refine .of_passed (FaultsIn.outcome_bind (givenRows_of_not_lacks hlacks) fun rows => ?_) hlacks
    refine faultsIn_recorded _ _ (faultsIn_clauses (fun _ h => h.fromInput.notMissing) ?_ s)
    exact (faultsIn_reportRows_order _ _ 1).mono fun _ h => (FromDiagnostic.order h).notMissing

end Insert

/-! ## All statements that change rows -/

/-- Whatever the context and the other inputs are, an UPDATE and a DELETE are refused for a
missing input exactly where their table is missing, or their condition where the table is
not, and an INSERT exactly where its rows do not count as given or are mappings in a list or
tuple of which the first is empty. Each such refusal makes a single record, an error. -/
theorem required_inputs (c : Context) :
    (∀ s : Update, RefusesMissing (s.text.run c) (.text "UPDATE") .null
      (LacksInput s.table s.condition)) ∧
    (∀ s : Delete, RefusesMissing (s.text.run c) (.text "DELETE") .null
      (LacksInput s.table s.condition)) ∧
    ∀ s : Insert, RefusesMissing (s.text.run c) (.text "INSERT") (.text "Insert data is empty.")
      (LacksRows s.rows) :=
  ⟨Update.refusesMissing, Delete.refusesMissing, Insert.refusesMissing⟩

end SqlText
