import SqlText.Proofs.Composition
import SqlText.Proofs.SelectAssembly

/-!
# Strict sources — what strict mode makes of a SELECT

    s.runIn true st levels  =  s.runIn false st levels,  where the source counts as given

Strict mode bears on one step of a SELECT, the look at its source. Where the source counts as
given, the mode is not even read, and where it does not, strict mode refuses the statement
before any clause is read, and lax mode reports it and goes on. Nothing else reads the mode,
so that the two runs are one from there on.

* **`Select.run_recorded_mode`**: the record of a statement does not look at the mode.
* **`Marginal.recorded`**: the record of a statement is not one of its source.
* **`Select.strict_source`**: the two runs of a SELECT side by side.
-/

namespace SqlText

open Build (ContextFree KeptBySteps MakesOnly)

variable {α β : Type} {c c' : Context} {st : Settings} {levels : Log.Levels}

/-! ## Records beside the source -/

/-- A build that makes records of debugging and records on clause inputs only. -/
def Marginal (x : Build α) : Prop :=
  ∀ c, ∀ r ∈ (x.run c).records, r.severity = .debug ∨ r.logger = Log.Channel.clauses

namespace Marginal

theorem keptBySteps : KeptBySteps Log.Record.OnClauses Marginal :=
  MakesOnly.keptBySteps fun _ hr => .inr hr.logger

/-- The record of a statement is one of debugging. -/
theorem recorded {x : Build String} (hx : Marginal x) (logger verb : String) :
    Marginal (Statement.recorded logger verb x) := by
  refine Statement.recorded_of_kept keptBySteps ?_ ?_ (fun shown => ?_) hx
  · exact MakesOnly.of_none fun _ => rfl
  · exact MakesOnly.of_none fun _ => rfl
  · exact MakesOnly.noteRecord (r := ⟨logger, .debug, _⟩) (.inl rfl)

end Marginal

/-! ## The guard of a SELECT -/

namespace Select

/-- A SELECT whose relation is refused ends there. -/
theorem run_guard_of_refused {s : Select} {e : Fault} (hg : s.recursiveCte.isGiven = true)
    (he : RecursiveCte.ofValue s.recursiveCte = .error e) : s.guard.run c = ⟨.error e, []⟩ := by
  have hsource : s.source = .error e := by
    rw [source, if_pos hg, he]
    rfl
  rw [guard, hsource]
  rfl

/-- The source that a SELECT reads stands beside its relation. -/
theorem exists_source {s : Select} {source : Value}
    (h : sourceOf s.recursiveCte s.table = .ok source) :
    ∃ relation, s.source = .ok (relation, source) := by
  rw [sourceOf] at h
  rw [Select.source]
  by_cases hg : s.recursiveCte.isGiven = true
  · rw [if_pos hg] at h ⊢
    obtain ⟨cte, hcte, rfl⟩ := map_eq_ok_iff.mp h
    rw [hcte]
    exact ⟨cte.segment, rfl⟩
  · rw [if_neg hg] at h ⊢
    rw [← Except.ok.inj h]
    exact ⟨"", rfl⟩

/-- The guard lets a SELECT pass as the look at its source does. -/
theorem run_guard {s : Select} {relation : String} {source : Value}
    (h : s.source = .ok (relation, source)) :
    s.guard.run c = (s.checkSource source >>= fun _ => pure (relation, source)).run c := by
  rw [guard, h]
  show (pure (relation, source) >>= _ : Build (String × Value)).run c = _
  rw [pure_bind]

/-! ## The two modes -/

/-- A SELECT in strict or in lax mode, under settings that are else the same. -/
def runIn (strict : Bool) (st : Settings) (levels : Log.Levels) (s : Select) : Run String :=
  s.text.run ⟨.settings { st with strictSelect := .bool strict }, levels⟩

/-- The record of a source that strict mode refuses. -/
def refusedSource (s : Select) : Log.Record :=
  ⟨Log.Channel.selection, .error, "SELECT build rejected: `" ++ s.sourceField ++ "` is missing"⟩

/-- The record of a source that lax mode goes on without. -/
def missingSource : Log.Record :=
  ⟨Log.Channel.selection, .warning,
    "Building SELECT without a table; the statement will not be valid SQL"⟩

/-- From the guard on, the mode is not read. -/
theorem run_recorded_mode {x : Build String} (hx : ContextFree x) (strict strict' : Bool)
    (logger verb : String) :
    (Statement.recorded logger verb x).run
        ⟨.settings { st with strictSelect := .bool strict }, levels⟩ =
      (Statement.recorded logger verb x).run
        ⟨.settings { st with strictSelect := .bool strict' }, levels⟩ := by
  have hreport : ∀ sql, (Statement.reportBuilt logger verb sql).run
        ⟨.settings { st with strictSelect := .bool strict }, levels⟩ =
      (Statement.reportBuilt logger verb sql).run
        ⟨.settings { st with strictSelect := .bool strict' }, levels⟩ := by
    intro sql
    simp only [Statement.reportBuilt, Statement.report, Build.run_bind, Build.run_settings,
      Build.run_context, Settings.ofValue, Build.andThen_ok]
    split
    · rfl
    · rfl
  simp only [Statement.recorded, Build.run_bind, hreport, Build.run_pure]
  rw [hx _ ⟨.settings { st with strictSelect := .bool strict' }, levels⟩]

/-- Where the source counts as given, the mode is not read at all. -/
theorem runIn_of_given {s : Select} {source : Value}
    (h : sourceOf s.recursiveCte s.table = .ok source) (hg : source.isGiven = true) :
    s.runIn true st levels = s.runIn false st levels := by
  obtain ⟨relation, hsource⟩ := exists_source h
  have hguard : ∀ c, s.guard.run c = ⟨.ok (relation, source), []⟩ := by
    intro c
    rw [run_guard hsource, checkSource, if_neg (by rw [hg]; decide)]
    rfl
  rw [runIn, runIn, text_eq, Build.run_bind_of_passed (hguard _),
    Build.run_bind_of_passed (hguard _)]
  exact run_recorded_mode (clauses_of_kept ContextFree.clauseClosed.keptBySteps s _ _) _ _ _ _

/-- Where the source does not count as given, strict mode reads no clause. -/
theorem runIn_true_of_missing {s : Select} {source : Value}
    (h : sourceOf s.recursiveCte s.table = .ok source) (hg : source.isGiven = false) :
    s.runIn true st levels =
      ⟨.error (.build (.missing s.sourceField "SELECT")), [s.refusedSource]⟩ := by
  obtain ⟨relation, hsource⟩ := exists_source h
  rw [runIn, text_eq]
  refine Build.run_bind_of_stopped ?_
  rw [run_guard hsource, checkSource, if_pos (by rw [hg]; decide)]
  rfl

/-! ## Lax mode -/

/-- In lax mode a source that does not count as given is reported before anything else. -/
theorem records_of_missing {s : Select} {source : Value}
    (h : sourceOf s.recursiveCte s.table = .ok source) (hg : source.isGiven = false) :
    ∃ rest, (s.runIn false st levels).records = missingSource :: rest ∧
      ∀ r ∈ rest, r.severity = .debug ∨ r.logger = Log.Channel.clauses := by
  obtain ⟨relation, hsource⟩ := exists_source h
  have hguard : s.guard.run ⟨.settings { st with strictSelect := .bool false }, levels⟩
      = ⟨.ok (relation, source), [missingSource]⟩ := by
    rw [run_guard hsource, checkSource, if_pos (by rw [hg]; decide)]
    rfl
  have hrest := (clauses_of_kept Marginal.keptBySteps s relation source).recorded
    Log.Channel.selection "SELECT"
  rw [runIn, text_eq, Build.run_bind, hguard, Build.andThen_ok]
  exact ⟨_, rfl, hrest _⟩

/-- In lax mode the look at the source decides nothing. -/
theorem outcome_checkSource_of_lax (s : Select) (source : Value) :
    (s.checkSource source).outcome ⟨.settings { st with strictSelect := .bool false }, levels⟩
      = .ok () := by
  rw [checkSource]
  split
  · rfl
  · rfl

/-- In lax mode the outcome is that of the relation and the clauses, whatever the rest of the
settings and the levels are. -/
theorem outcome_text_of_lax (st : Settings) (levels : Log.Levels)
    (hst : { st with strictSelect := .bool false }.WellTyped) (s : Select) :
    s.text.outcome ⟨.settings { st with strictSelect := .bool false }, levels⟩
      = s.source >>= fun given => (s.clauses Join.chain given.1 given.2).outcome {} := by
  have hguard : s.guard.outcome ⟨.settings { st with strictSelect := .bool false }, levels⟩
      = s.source := by
    rw [guard, Build.outcome_bind, Build.outcome_liftM]
    cases s.source with
    | error e => rfl
    | ok given =>
        rw [ok_bind, Build.outcome_bind, outcome_checkSource_of_lax]
        rfl
  have hshort := Statement.shortens_of_wellTyped hst levels
  rw [text_eq, Build.outcome_bind, hguard]
  refine bind_congr fun given => ?_
  rw [Statement.outcome_recorded hshort,
    outcome_eq (clauses_of_kept ContextFree.clauseClosed.keptBySteps s _ _)]
  cases (s.clauses Join.chain given.1 given.2).outcome {} with
  | error e => rfl
  | ok t => rfl

/-- Lax mode ends as the standard settings do. -/
theorem outcome_runIn_false (hst : st.WellTyped) (levels : Log.Levels) (s : Select) :
    (s.runIn false st levels).outcome = s.text.outcome { levels } :=
  (outcome_text_of_lax st levels { hst with strictSelect := ⟨false, rfl⟩ } s).trans
    (outcome_text_of_lax .standard levels Settings.wellTyped_standard s).symm

/-- A SELECT whose source does not count as given: strict mode refuses it with one error and
looks at nothing else, and lax mode makes one record of the missing source and ends as the
remaining options decide. -/
structure OnlyStrictRefuses (s : Select) (strict lax : Run String) : Prop where
  strict_run : strict =
    ⟨.error (.build (.missing s.sourceField "SELECT")), [s.refusedSource]⟩
  lax_records : ∃ rest, lax.records = missingSource :: rest ∧
    ∀ r ∈ rest, r.severity = .debug ∨ r.logger = Log.Channel.clauses
  lax_fault : faultOf? lax.outcome = s.firstFault?
  lax_text : ∀ t, lax.outcome = .ok t ↔ ∃ parts, s.Assembled parts t ∧ parts .source = " FROM "

/-- Strict mode only adds one rejection. Under settings of their kinds that differ in the mode
alone, a relation that is refused is the fault of both runs; a source that counts as given
makes them one run; and a source that does not is refused in strict mode, at once, and
reported in lax mode. -/
theorem strict_source (hst : st.WellTyped) (levels : Log.Levels) (s : Select) :
    (∀ e, s.recursiveCte.isGiven = true → RecursiveCte.ofValue s.recursiveCte = .error e →
      ∀ strict, s.runIn strict st levels = ⟨.error e, []⟩) ∧
    ∀ source, sourceOf s.recursiveCte s.table = .ok source →
      (source.isGiven = true → s.runIn true st levels = s.runIn false st levels) ∧
      (source.isGiven = false →
        s.OnlyStrictRefuses (s.runIn true st levels) (s.runIn false st levels)) := by
  constructor
  · intro e hg he strict
    rw [runIn, text_eq]
    exact Build.run_bind_of_stopped (run_guard_of_refused hg he)
  intro source hsource
  refine ⟨runIn_of_given hsource, fun hg => ?_⟩
  have houtcome := outcome_runIn_false hst levels s
  refine ⟨runIn_true_of_missing hsource hg, records_of_missing hsource hg, ?_, fun t => ?_⟩
  · rw [houtcome]
    exact faultOf?_text s levels
  · rw [houtcome, outcome_eq_ok_iff]
    refine exists_congr fun parts => (and_iff_left_of_imp fun h => ?_).symm
    -- what does not count as given is not written after its word
    have hfrom := h.segment .source
    rw [segment, hsource] at hfrom
    rw [← Except.ok.inj hfrom, sourceText, Value.orElse, if_neg (by rw [hg]; decide)]
    rfl

/-- A SELECT with a table and a relation without a name, which stands in the table's place. -/
def unnamedRelation : Select where
  table := .text "t"
  joins := .int 1
  recursiveCte := .mapping [(.text "baseCase", .text "b"), (.text "recursiveCase", .text "r")]

/-- Without the relation both modes end alike, in the fault of the joins, and with it strict
mode alone asks for its name. -/
theorem strict_source_unnamedRelation :
    Settings.standard.WellTyped ∧
      unnamedRelation.OnlyStrictRefuses (unnamedRelation.runIn true .standard {})
        (unnamedRelation.runIn false .standard {}) ∧
      { unnamedRelation with recursiveCte := .null }.runIn true .standard {} =
        { unnamedRelation with recursiveCte := .null }.runIn false .standard {} := by
  have hst := Settings.wellTyped_standard
  refine ⟨hst, ?_, ?_⟩
  · exact ((strict_source hst {} unnamedRelation).2 .null rfl).2 rfl
  · exact ((strict_source hst {} { unnamedRelation with recursiveCte := .null }).2 (.text "t")
      rfl).1 rfl

end Select

end SqlText
