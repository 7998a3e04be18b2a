import SqlText.Proofs.ClauseOutcomes
import SqlText.Proofs.DiagnosticFaults
import SqlText.Proofs.Guards
import SqlText.Statement.Request

/-!
# Composition — statements before they are recorded

    s.text  =  recorded s.verb.channel s.verb.word s.compose

A statement is composed and then recorded. To compose it is a matter of steps whose records are
remarks, in all four kinds of statement, and so whatever such steps keep holds of a composed
statement. Only the look at the source of a SELECT reads a setting, and is a step of its own.

* **`Statement.text_eq`**: a statement is what it is composed of, recorded.
* **`Statement.compose_of_kept`**: what steps with remarks keep, a composed statement keeps.
* **`Statement.recorded_of_kept`**: and so does a recorded one, with its record.
-/

namespace SqlText

open Build (KeptBySteps)
open Log.Record (OnClauses)
open Log.Severity (warning_ne_error)

variable {P : ∀ {α : Type}, Build α → Prop}

/-- A property that is kept by steps with any remarks. -/
abbrev Build.KeptByRemarks (P : ∀ {α : Type}, Build α → Prop) : Prop :=
  KeptBySteps (fun r => IsRemark r.message) P

open Build (KeptByRemarks)

/-- What steps with any remarks keep, they keep with remarks on clauses. -/
theorem Build.KeptBySteps.onClauses (hP : KeptByRemarks P) : KeptBySteps OnClauses P :=
  hP.mono fun _ => OnClauses.isRemark

/-! ## Tables and conditions -/

theorem Statement.require_of_kept (hP : KeptByRemarks P) (verb : Verb) (v : Value)
    (field : String) : P (require verb.channel v field verb.word) := by
  rw [require]
  split
  · have hreported := BuildError.ReportedBy.input verb field
    exact hP.refused hreported.isRemark hreported
  · exact hP.pure ()

theorem Update.compose_of_kept (hP : KeptByRemarks P) (s : Update) : P s.compose := by
  have hrequire := Statement.require_of_kept hP .update
  rw [compose_eq]
  refine hP.bind (hP.bind (hrequire _ _) fun _ => hrequire _ _) fun _ => ?_
  refine hP.bind (hP.read (s.faultsIn_assignments.silent_of_stray fun _ => Strays.stray))
    fun assignments => ?_
  refine hP.bind ?_ fun _ => ?_
  · rw [reportUnassigned]
    split
    · have hword : IsRemark "Building UPDATE on '" := by decide
      have hremark := (hword.append s.table.display).append "' without any assignments"
      exact hP.remark (r := ⟨Log.Channel.change, .warning, _⟩) hremark warning_ne_error
    · exact hP.pure ()
  refine hP.bind (Join.chain_of_kept hP.onClauses _) fun joins => ?_
  refine hP.bind (hP.whenGiven ?_) fun ordering => hP.pure _
  exact OrderBy.text_of_kept hP.onClauses.leavingOut _

theorem Delete.compose_of_kept (hP : KeptByRemarks P) (s : Delete) : P s.compose := by
  have hrequire := Statement.require_of_kept hP .delete
  rw [compose_eq]
  refine hP.bind (hP.bind (hrequire _ _) fun _ => hrequire _ _) fun _ => ?_
  refine hP.bind (hP.whenGiven (Join.chain_of_kept hP.onClauses _)) fun joins => ?_
  refine hP.bind (hP.whenGiven ?_) fun ordering => hP.pure _
  exact OrderBy.text_of_kept hP.onClauses.leavingOut _

/-! ## Rows -/

namespace Insert

theorem faultsIn_sorted_silent (vs : List Value) : FaultsIn Fault.Silent (sorted vs) := by
  refine (faultsIn_sorted vs).mono fun e he => ?_
  cases he <;> trivial

theorem reportRows_of_kept (hP : KeptByRemarks P) (columns : List Value) :
    ∀ (rows : List (List (Value × Value))) (index : Nat), P (reportRows columns index rows) := by
  intro rows
  induction rows with
  | nil => exact fun _ => hP.pure ()
  | cons row rows ih =>
      intro index
      refine hP.bind ?_ fun _ => ih (index + 1)
      unfold reportRow
      split
      · refine hP.bind (hP.read (faultsIn_sorted_silent _)) fun own => ?_
        refine hP.bind (hP.read (faultsIn_sorted_silent _)) fun first => ?_
        have hword : IsRemark "INSERT row " := by decide
        have hremark := (((((hword.append index.repr).append " columns ").append
          (Value.list own).inspect).append " differ from first row ").append
            (Value.list first).inspect).append "; using the first row's columns"
        exact hP.remark (r := ⟨Log.Channel.change, .warning, _⟩) hremark warning_ne_error
      · exact hP.pure ()

theorem givenRows_of_kept (hP : KeptByRemarks P) (s : Insert) : P s.givenRows := by
  have hempty : P (refuseEmpty : Build (List (Value × Value) × List (List (Value × Value)))) :=
    hP.refused BuildError.ReportedBy.rows.isRemark .rows
  rw [givenRows]
  split
  · exact hempty
  · refine hP.bind (hP.read (faultsIn_rowsOfValue _).silent) fun rows => ?_
    split
    · exact hP.pure _
    · exact hempty

theorem compose_of_kept (hP : KeptByRemarks P) (s : Insert) : P s.compose := by
  rw [compose_eq]
  refine hP.bind (givenRows_of_kept hP s) fun rows => ?_
  refine hP.bind (hP.read (faultsIn_optionalItems _).silent) fun dates => ?_
  refine hP.bind (reportRows_of_kept hP _ _ _) fun _ => ?_
  refine hP.bind (hP.read (faultsIn_joinTexts _ _).silent) fun columnList => ?_
  have htexts := FaultsIn.mapM (faultsIn_rowText (keys rows.1) dates.length) (rows.1 :: rows.2)
  refine hP.bind (hP.read htexts.silent) fun values => ?_
  exact hP.bind (hP.read s.faultsIn_refreshSegment.silent) fun refresh => hP.pure _

end Insert

/-! ## Sources -/

namespace Select

/-- What steps with remarks on clauses keep, the text behind the guard keeps. -/
theorem clauses_of_kept (hP : KeptBySteps OnClauses P) (s : Select) (relation : String)
    (source : Value) : P (s.clauses Join.chain relation source) := by
  have hlist : P (listText s.columns s.subQueries s.aggregates) := by
    refine hP.bind (Columns.listText_of_kept hP.leavingOut _) fun cs => ?_
    refine hP.bind (hP.read (SubQuery.faultsIn_listText _).silent) fun qs => ?_
    refine hP.bind (hP.read ?_) fun as => hP.pure _
    exact (Aggregate.faultsIn_listText _).silent_of_stray fun _ => Aggregate.ListStrays.stray
  refine hP.bind hlist fun list => ?_
  refine hP.bind (hP.whenGiven (Join.chain_of_kept hP _)) fun joins => ?_
  refine hP.bind (hP.whenGiven (Columns.groupText_of_kept hP.leavingOut _)) fun grouping => ?_
  refine hP.bind (hP.whenGiven (OrderBy.text_of_kept hP.leavingOut _)) fun ordering => ?_
  exact hP.bind (hP.whenGiven (hP.read (Paging.faultsIn_text _).silent)) fun paging => hP.pure _

/-- The look at a source is made of steps and a look at the settings. -/
theorem checkSource_of_kept (hP : KeptByRemarks P) (hsettings : P (Build.settings "strict_select"))
    (s : Select) (source : Value) : P (s.checkSource source) := by
  rw [checkSource]
  split
  · refine hP.bind hsettings fun st => ?_
    split
    · have hreported := BuildError.ReportedBy.input .select s.sourceField
      exact hP.refused hreported.isRemark hreported
    · refine hP.remark (r := ⟨Log.Channel.selection, .warning, _⟩) ?_ warning_ne_error
      decide
  · exact hP.pure ()

theorem compose_of_kept (hP : KeptByRemarks P) {s : Select}
    (hsource : ∀ source, P (s.checkSource source)) : P s.compose := by
  rw [compose_eq]
  refine hP.bind ?_ fun given => clauses_of_kept hP.onClauses s _ _
  refine hP.bind (hP.read s.faultsIn_source.silent) fun given => ?_
  exact hP.bind (hsource given.2) fun _ => hP.pure _

end Select

/-! ## Statements -/

namespace Statement

/-- The verb of a statement. -/
def verb : Statement → Verb
  | select _ => .select
  | insert _ => .insert
  | update _ => .update
  | delete _ => .delete

/-- The statement, not yet recorded. -/
def compose : Statement → Build String
  | select s => s.compose
  | insert s => s.compose
  | update s => s.compose
  | delete s => s.compose

/-- A statement is recorded once it is composed, for its verb and under its channel. -/
theorem text_eq (s : Statement) : s.text = recorded s.verb.channel s.verb.word s.compose := by
  cases s <;> rfl

theorem faultsIn_shortened_silent (st : Settings) (sql : String) :
    FaultsIn Fault.Silent (shortened st.maxLoggedLength sql) := by
  refine (faultsIn_shortened (c := ⟨.settings st, {}⟩) rfl sql).mono fun e he => ?_
  cases he <;> trivial

/-- What steps keep, and the record of a statement with the looks that decide on it, a
recorded statement keeps. -/
theorem recorded_of_kept {R : Log.Record → Prop} (hP : KeptBySteps R P) {logger verb : String}
    (hsettings : P (Build.settings "log_statements")) (hcontext : P Build.context)
    (hbuilt : ∀ shown,
      P (Build.note logger .debug ("Built " ++ verb ++ " statement: " ++ shown)))
    {x : Build String} (hx : P x) : P (recorded logger verb x) := by
  refine hP.bind hx fun sql => hP.bind ?_ fun _ => hP.pure _
  refine hP.bind hsettings fun st => hP.bind hcontext fun c => ?_
  split
  · exact hP.bind (hP.read (faultsIn_shortened_silent st sql)) fun shown => hbuilt shown
  · exact hP.pure _

/-- What is kept by steps with remarks, and by the look at a source, a composed statement
keeps. -/
theorem compose_of_kept (hP : KeptByRemarks P)
    (hsource : ∀ (s : Select) (source : Value), P (s.checkSource source)) (s : Statement) :
    P s.compose := by
  cases s with
  | select s => exact Select.compose_of_kept hP (hsource s)
  | insert s => exact Insert.compose_of_kept hP s
  | update s => exact Update.compose_of_kept hP s
  | delete s => exact Delete.compose_of_kept hP s

end Statement

end SqlText
