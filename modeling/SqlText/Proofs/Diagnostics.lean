import SqlText.Proofs.DiagnosticFaults
import SqlText.Proofs.Guards

/-!
# Diagnostics — what is left of a statement without its reports

    s.text.outcome c  =  s.bare.outcome c,  unless a report is refused

A bare statement makes no record, looks at no word of a join, compares no rows and is not
recorded when it is built. A statement with its diagnostics ends as the bare one, with one
exception: a report that computes on what a caller gave may be refused, and then the statement
is refused with it. Inputs and settings of the kinds that the reports are made for rule that
out. Others do not, so that diagnostics decide the outcome of some statements.

* **`Build.muted`**: a build without its records.
* **`SameUnless`**: outcomes that are the same but for some faults of the first one.
* **`Select.bare`**, **`Insert.bare`**, **`Update.bare`**, **`Delete.bare`**: bare statements.
* **`diagnostics_aside`**: statements with and without their diagnostics.
* **`refused_by_diagnostics`**: three statements that only their diagnostics refuse.
-/

namespace SqlText

open Fault (FromDiagnostic)

variable {α β : Type} {Q : Fault → Prop} {c : Context}

/-! ## Builds without records -/

namespace Build

/-- A build without its records. -/
def muted (x : Build α) : Build α := fun c => ⟨x.outcome c, []⟩

end Build

/-! ## Outcomes that are the same -/

/-- Two outcomes that are the same, unless the first is a fault with a property. -/
def SameUnless (Q : Fault → Prop) (x y : Except Fault α) : Prop :=
  x = y ∨ ∃ e, x = .error e ∧ Q e

namespace SameUnless

theorem refl (x : Except Fault α) : SameUnless Q x x := .inl rfl

/-- Where no fault has the property, the outcomes are the same. -/
theorem eq {x y : Except Fault α} (h : SameUnless (fun _ => False) x y) : x = y :=
  h.resolve_right fun ⟨_, _, hf⟩ => hf

/-- Results in a row are the same where the first ones are, and then the second ones. -/
theorem bind {x y : Except Fault α} {f g : α → Except Fault β} (h : SameUnless Q x y)
    (hf : ∀ a, y = .ok a → SameUnless Q (f a) (g a)) : SameUnless Q (x >>= f) (y >>= g) := by
  rcases h with rfl | ⟨e, rfl, he⟩
  · cases x with
    | error e => exact .refl _
    | ok a => exact hf a rfl
  · exact .inr ⟨e, rfl, he⟩

/-- What only has faults with the property may be left out of a row. -/
theorem of_faults {x : Except Fault α} (hx : FaultsIn Q x) (y : Except Fault β) :
    SameUnless Q (x >>= fun _ => y) y := by
  cases x with
  | error e => exact .inr ⟨e, rfl, hx⟩
  | ok a => exact .refl y

theorem mapM {f g : α → Except Fault β} :
    ∀ {xs : List α}, (∀ x ∈ xs, SameUnless Q (f x) (g x)) →
      SameUnless Q (xs.mapM f) (xs.mapM g) := by
  intro xs
  induction xs with
  | nil => exact fun _ => .refl _
  | cons x xs ih =>
      intro h
      rw [List.mapM_cons, List.mapM_cons]
      refine (h x List.mem_cons_self).bind fun y _ => ?_
      refine (ih fun z hz => h z (List.mem_cons_of_mem x hz)).bind fun ys _ => ?_
      exact .refl _

end SameUnless

/-! ## Joins whose words nobody looks at -/

namespace Join

/-- The joins that a value describes have reports with certain faults only. -/
def ReportsIn (Q : Fault → Prop) (c : Context) (v : Value) : Prop :=
  ∀ vs, v.iterate = .ok vs → ∀ d ∈ vs, ∀ j, (read d).outcome c = .ok j →
    FaultsIn Q (j.report.outcome c)

/-- A chain of joins ends alike whether or not their words are looked at. -/
theorem sameUnless_chain {v : Value} (h : ReportsIn Q c v) :
    SameUnless Q ((chain v).outcome c) ((chainBy read v).outcome c) := by
  have hread : ∀ vs, v.iterate = .ok vs → ∀ d ∈ vs,
      SameUnless Q ((ofValue d).outcome c) ((read d).outcome c) := by
    intro vs hvs d hd
    rw [ofValue_eq, Build.outcome_bind]
    cases hj : (read d).outcome c with
    | error e => exact .refl _
    | ok j =>
        rw [ok_bind, Build.outcome_bind]
        exact .of_faults (h vs hvs d hd j hj) _
  rw [chain_eq]
  unfold chainBy
  split
  · exact .refl _
  split
  · exact .refl _
  · exact .refl _
  · simp only [Build.outcome_bind, Build.outcome_liftM, Build.outcome_mapM]
    refine SameUnless.bind (.refl _) fun vs hvs => ?_
    exact SameUnless.bind (.mapM (hread vs hvs)) fun js _ => .refl _

theorem sameUnless_whenGiven {v : Value} (h : ReportsIn Q c v) :
    SameUnless Q ((Build.whenGiven v chain).outcome c)
      ((Build.whenGiven v (chainBy read)).outcome c) := by
  rw [Build.whenGiven, Build.whenGiven]
  by_cases hv : v.isGiven
  · rw [if_pos hv, if_pos hv]
    exact sameUnless_chain h
  · rw [if_neg hv, if_neg hv]
    exact .refl _

end Join

/-! ## Bare statements -/

/-- A SELECT without its diagnostics. -/
def Select.bare (s : Select) : Build String :=
  (s.guard >>= fun given => s.clauses (Join.chainBy Join.read) given.1 given.2).muted

/-- An INSERT without its diagnostics. -/
def Insert.bare (s : Insert) : Build String :=
  (s.givenRows >>= fun rows => s.clauses (fun _ _ => pure ()) rows.1 rows.2).muted

/-- An UPDATE without its diagnostics. -/
def Update.bare (s : Update) : Build String :=
  (Statement.requireBoth "UPDATE" s.table s.condition >>= fun _ =>
    s.clauses (Join.chainBy Join.read)).muted

/-- A DELETE without its diagnostics. -/
def Delete.bare (s : Delete) : Build String :=
  (Statement.requireBoth "DELETE" s.table s.condition >>= fun _ =>
    s.clauses (Join.chainBy Join.read)).muted

/-! ## Statements whose reports have certain faults -/

/-- The record of a built statement has certain faults only. -/
def RecordsIn (Q : Fault → Prop) (c : Context) : Prop :=
  ∀ logger verb sql, FaultsIn Q ((Statement.reportBuilt logger verb sql).outcome c)

/-- A statement that is recorded ends as one that is not. -/
theorem SameUnless.recorded {x y : Build String} (h : SameUnless Q (x.outcome c) (y.outcome c))
    (hrecord : RecordsIn Q c) (logger verb : String) :
    SameUnless Q ((Statement.recorded logger verb x).outcome c) (y.outcome c) := by
  rw [Statement.recorded, Build.outcome_bind]
  rcases h with h | ⟨e, he, hq⟩
  · rw [h]
    cases y.outcome c with
    | error e => exact .refl _
    | ok sql =>
        rw [ok_bind, Build.outcome_bind]
        exact .of_faults (hrecord logger verb sql) _
  · rw [he]
    exact .inr ⟨e, rfl, hq⟩

theorem Select.sameUnless {s : Select} (hjoins : Join.ReportsIn Q c s.joins)
    (hrecord : RecordsIn Q c) : SameUnless Q (s.text.outcome c) (s.bare.outcome c) := by
  show SameUnless Q (s.text.outcome c) ((s.guard >>= fun given =>
    s.clauses (Join.chainBy Join.read) given.1 given.2).outcome c)
  rw [text_eq, Build.outcome_bind, Build.outcome_bind]
  refine SameUnless.bind (.refl _) fun given _ => SameUnless.recorded ?_ hrecord _ _
  simp only [clauses, Build.outcome_bind]
  refine SameUnless.bind (.refl _) fun list _ => ?_
  exact SameUnless.bind (Join.sameUnless_whenGiven hjoins) fun joins _ => .refl _

theorem Update.sameUnless {s : Update} (hjoins : Join.ReportsIn Q c s.joins)
    (hrecord : RecordsIn Q c) : SameUnless Q (s.text.outcome c) (s.bare.outcome c) := by
  show SameUnless Q (s.text.outcome c) ((Statement.requireBoth "UPDATE" s.table s.condition >>=
    fun _ => s.clauses (Join.chainBy Join.read)).outcome c)
  rw [text_eq, Build.outcome_bind, Build.outcome_bind]
  refine SameUnless.bind (.refl _) fun _ _ => SameUnless.recorded ?_ hrecord _ _
  simp only [clauses, Build.outcome_bind]
  refine SameUnless.bind (.refl _) fun items _ => SameUnless.bind (.refl _) fun _ _ => ?_
  exact SameUnless.bind (Join.sameUnless_chain hjoins) fun joins _ => .refl _

theorem Delete.sameUnless {s : Delete} (hjoins : Join.ReportsIn Q c s.joins)
    (hrecord : RecordsIn Q c) : SameUnless Q (s.text.outcome c) (s.bare.outcome c) := by
  show SameUnless Q (s.text.outcome c) ((Statement.requireBoth "DELETE" s.table s.condition >>=
    fun _ => s.clauses (Join.chainBy Join.read)).outcome c)
  rw [text_eq, Build.outcome_bind, Build.outcome_bind]
  refine SameUnless.bind (.refl _) fun _ _ => SameUnless.recorded ?_ hrecord _ _
  simp only [clauses, Build.outcome_bind]
  exact SameUnless.bind (Join.sameUnless_whenGiven hjoins) fun joins _ => .refl _

/-- The reports of the rows of an INSERT have certain faults only. -/
def Insert.RowsIn (Q : Fault → Prop) (c : Context) (s : Insert) : Prop :=
  ∀ first rest, s.givenRows.outcome c = .ok (first, rest) →
    FaultsIn Q ((reportRows (keys first) 1 rest).outcome c)

theorem Insert.sameUnless {s : Insert} (hrows : s.RowsIn Q c) (hrecord : RecordsIn Q c) :
    SameUnless Q (s.text.outcome c) (s.bare.outcome c) := by
  show SameUnless Q (s.text.outcome c) ((s.givenRows >>= fun rows =>
    s.clauses (fun _ _ => pure ()) rows.1 rows.2).outcome c)
  rw [text_eq, Build.outcome_bind, Build.outcome_bind]
  refine SameUnless.bind (.refl _) fun rows h => SameUnless.recorded ?_ hrecord _ _
  simp only [clauses, Build.outcome_bind]
  refine SameUnless.bind (.refl _) fun dates _ => ?_
  exact .of_faults (hrows rows.1 rows.2 h) _

/-! ## Inputs and settings that reports are made for -/

/-- A text or a byte string, the values that can be put into upper case. -/
def Value.IsWord (v : Value) : Prop := (∃ t, v = .text t) ∨ ∃ bs, v = .bytes bs

/-- A join whose kind is a word, and its operator where it has one. -/
def Join.HasWords : Join → Prop
  | .explicit _ _ kind           => kind.IsWord
  | .equi _ _ _ _ operator kind => operator.IsWord ∧ kind.IsWord

/-- Joins that have words, as far as any can be read. -/
def Join.AllHaveWords (v : Value) : Prop :=
  ∀ vs, v.iterate = .ok vs → ∀ d ∈ vs, ∀ c j, (read d).outcome c = .ok j → j.HasWords

theorem Value.IsWord.not_lacksCase {v : Value} (h : v.IsWord) {e : Fault} : ¬ v.LacksCase e := by
  rintro ⟨htext, hbytes⟩
  rcases h with ⟨t, rfl⟩ | ⟨bs, rfl⟩
  · exact htext t rfl
  · exact hbytes bs rfl

theorem Join.HasWords.not_strays {j : Join} (h : j.HasWords) {e : Fault} : ¬ j.Strays e := by
  intro he
  cases j with
  | explicit table condition kind =>
      cases he with
      | kind he => exact h.not_lacksCase he
      | operator hj _ => exact nomatch hj
  | equi t c t' c' operator kind =>
      cases he with
      | kind he => exact h.2.not_lacksCase he
      | operator hj he =>
          cases hj
          exact h.1.not_lacksCase he

/-- Rows whose columns are texts, as far as they can be read. -/
def Insert.ColumnsAreTexts (s : Insert) : Prop :=
  ∀ rows, rowsOfValue s.rows = .ok rows → ∀ row ∈ rows, ∀ k ∈ keys row, ∃ t, k = .text t

theorem Insert.rowsIn_of_columnsAreTexts {s : Insert} (h : s.ColumnsAreTexts) :
    s.RowsIn Q c := by
  intro first rest hgiven
  obtain ⟨hrows, -⟩ := givenRows_ok hgiven
  have hsorted : ∀ row ∈ first :: rest, FaultsIn Q (sorted (keys row)) := by
    intro row hrow
    obtain ⟨ws, hws⟩ := exists_sorted_of_texts (h _ hrows row hrow)
    rw [hws]
    trivial
  exact faultsIn_reportRows (hsorted first List.mem_cons_self)
    (fun row hrow => hsorted row (List.mem_cons_of_mem first hrow)) 1

/-- Settings of their kinds are active. -/
def Context.WellTyped (c : Context) : Prop := ∃ st, c.active = .settings st ∧ st.WellTyped

theorem recordsIn_of_wellTyped (h : c.WellTyped) : RecordsIn Q c := by
  intro logger verb sql
  obtain ⟨st, hactive, hst⟩ := h
  have hshort : c.Shortens := by
    intro st' hst' sql
    rw [hactive] at hst'
    rw [← Value.settings.inj hst']
    exact Statement.exists_shortened hst.maxLoggedLength sql
  rw [Statement.outcome_reportBuilt hshort, hactive]
  trivial

/-! ## Faults of bare statements -/

/-- A fault that no report has. -/
def Fault.Proper (e : Fault) : Prop := ¬ e.FromDiagnostic

theorem Fault.proper_noAttribute (type : String) {name : String} (hword : name ≠ "upper")
    (hsettings : name ≠ "log_statements") : Fault.Proper (.noAttribute type name) := by
  intro h
  cases h with
  | word _ => exact hword rfl
  | settings _ => exact hsettings rfl
  | order ho => exact nomatch ho

theorem Context.GuardFaults.proper {e : Fault} (h : c.GuardFaults e) : e.Proper := by
  cases h with
  | missing field statement note =>
      intro hd
      cases hd with
      | order ho => exact nomatch ho
  | malformed h => exact h.fromInput.not_fromDiagnostic
  | settings _ => exact Fault.proper_noAttribute _ (by decide) (by decide)

/-- A chain of joins whose words nobody looks at has no fault of a report. -/
theorem Join.faultsIn_chainBy_read (v : Value) :
    FaultsIn Fault.Proper ((chainBy read v).outcome c) := by
  refine faultsIn_chainBy (fun _ h => h.fromInput.not_fromDiagnostic) fun ds _ d _ => ?_
  exact (faultsIn_read d).mono fun _ h => h.fromInput.not_fromDiagnostic

theorem Update.faultsIn_bare (s : Update) : FaultsIn Fault.Proper (s.bare.outcome c) := by
  have hguard := Statement.faultsIn_requireBoth (c := c) "UPDATE" s.table s.condition
  refine FaultsIn.outcome_bind (hguard.mono fun _ h => h.proper) fun _ => ?_
  refine faultsIn_clauses (fun _ h => ?_) (Join.faultsIn_chainBy_read _)
  exact (h.fromInput Strays.stray).not_fromDiagnostic

theorem Delete.faultsIn_bare (s : Delete) : FaultsIn Fault.Proper (s.bare.outcome c) := by
  have hguard := Statement.faultsIn_requireBoth (c := c) "DELETE" s.table s.condition
  refine FaultsIn.outcome_bind (hguard.mono fun _ h => h.proper) fun _ => ?_
  refine faultsIn_clauses (fun _ h => ?_) (Join.faultsIn_chainBy_read _)
  exact (h.fromInput OrderBy.Strays.stray).not_fromDiagnostic

theorem Insert.faultsIn_bare (s : Insert) : FaultsIn Fault.Proper (s.bare.outcome c) := by
  refine FaultsIn.outcome_bind (s.faultsIn_givenRows.mono fun _ h => h.proper) fun rows => ?_
  exact faultsIn_clauses (fun _ h => h.fromInput.not_fromDiagnostic) (FaultsIn.pure ()) s

theorem Select.faultsIn_bare (s : Select) : FaultsIn Fault.Proper (s.bare.outcome c) := by
  refine FaultsIn.outcome_bind (s.faultsIn_guard.mono fun _ h => h.proper) fun given => ?_
  refine faultsIn_clauses (fun _ h => ?_) (Join.faultsIn_chainBy_read _) _ _
  exact (h.fromInput Strays.stray).not_fromDiagnostic

/-! ## With and without diagnostics -/

/-- A statement ends as the bare one exactly where it ends in no fault of a report, which the
bare one never does, and inputs and settings that the reports are made for see to that. -/
structure DiagnosticsAside (c : Context) (x bare : Build String) (MadeFor : Prop) : Prop where
  same_iff : x.outcome c = bare.outcome c ↔ ∀ e, x.outcome c = .error e → ¬ e.FromDiagnostic
  bare_proper : ∀ e, bare.outcome c = .error e → ¬ e.FromDiagnostic
  same_of_madeFor : MadeFor → x.outcome c = bare.outcome c

theorem DiagnosticsAside.of_sameUnless {x bare : Build String} {MadeFor : Prop}
    (h : SameUnless FromDiagnostic (x.outcome c) (bare.outcome c))
    (hbare : FaultsIn Fault.Proper (bare.outcome c))
    (hmade : MadeFor → SameUnless (fun _ => False) (x.outcome c) (bare.outcome c)) :
    DiagnosticsAside c x bare MadeFor := by
  refine ⟨⟨fun hsame e he => ?_, fun hproper => ?_⟩, fun e he => hbare.of_error he, fun hm => ?_⟩
  · rw [hsame] at he
    exact hbare.of_error he
  · rcases h with hsame | ⟨e, he, hd⟩
    · exact hsame
    · exact absurd hd (hproper e he)
  · exact (hmade hm).eq

theorem Join.reportsIn_fromDiagnostic (v : Value) : ReportsIn FromDiagnostic c v :=
  fun _ _ _ _ j _ => j.faultsIn_report.mono fun _ => Join.Strays.fromDiagnostic

theorem Join.reportsIn_of_allHaveWords {v : Value} (h : AllHaveWords v) : ReportsIn Q c v :=
  fun vs hvs d hd j hj =>
    j.faultsIn_report.mono fun _ he => absurd he (h vs hvs d hd c j hj).not_strays

theorem Insert.rowsIn_fromDiagnostic (s : Insert) : s.RowsIn FromDiagnostic c :=
  fun first rest _ => (faultsIn_reportRows_order (keys first) rest 1).mono fun _ => .order

theorem recordsIn_fromDiagnostic : RecordsIn FromDiagnostic c := fun logger verb sql =>
  (Statement.faultsIn_reportBuilt logger verb sql).mono fun _ =>
    Context.RecordFaults.fromDiagnostic

/-- In every context, each statement ends as the one without its diagnostics, or else in a
fault of a report; and it ends so wherever the kinds and operators of its joins are words, the
columns of its rows are texts, and the settings are of their kinds. -/
theorem diagnostics_aside (c : Context) :
    (∀ s : Select, DiagnosticsAside c s.text s.bare (Join.AllHaveWords s.joins ∧ c.WellTyped)) ∧
    (∀ s : Insert, DiagnosticsAside c s.text s.bare (s.ColumnsAreTexts ∧ c.WellTyped)) ∧
    (∀ s : Update, DiagnosticsAside c s.text s.bare (Join.AllHaveWords s.joins ∧ c.WellTyped)) ∧
    ∀ s : Delete, DiagnosticsAside c s.text s.bare (Join.AllHaveWords s.joins ∧ c.WellTyped) := by
  have hjoins : ∀ v, Join.ReportsIn FromDiagnostic c v := Join.reportsIn_fromDiagnostic
  have hrecord : RecordsIn FromDiagnostic c := recordsIn_fromDiagnostic
  refine ⟨fun s => ?_, fun s => ?_, fun s => ?_, fun s => ?_⟩
  · refine .of_sameUnless (Select.sameUnless (hjoins _) hrecord) s.faultsIn_bare fun h => ?_
    exact Select.sameUnless (Join.reportsIn_of_allHaveWords h.1) (recordsIn_of_wellTyped h.2)
  · refine .of_sameUnless (Insert.sameUnless s.rowsIn_fromDiagnostic hrecord) s.faultsIn_bare
      fun h => ?_
    exact Insert.sameUnless (Insert.rowsIn_of_columnsAreTexts h.1) (recordsIn_of_wellTyped h.2)
  · refine .of_sameUnless (Update.sameUnless (hjoins _) hrecord) s.faultsIn_bare fun h => ?_
    exact Update.sameUnless (Join.reportsIn_of_allHaveWords h.1) (recordsIn_of_wellTyped h.2)
  · refine .of_sameUnless (Delete.sameUnless (hjoins _) hrecord) s.faultsIn_bare fun h => ?_
    exact Delete.sameUnless (Join.reportsIn_of_allHaveWords h.1) (recordsIn_of_wellTyped h.2)

/-! ## Statements that only their diagnostics refuse -/

/-- A DELETE with a join whose kind is a fragment. -/
def rawKindDelete : Delete where
  table := .text "t"
  condition := .text "x"
  joins := .list [.mapping [(.text "u", .text "id"), (.text "on", .text "c"),
    (.text "type", .raw "LEFT JOIN")]]

/-- An INSERT whose second row has a column that is a number. -/
def numberedColumnInsert : Insert where
  table := .text "t"
  rows := .list [.mapping [(.text "a", .int 1)],
    .mapping [(.text "a", .int 1), (.int 5, .int 2)]]

/-- A DELETE without anything else. -/
def plainDelete : Delete where
  table := .text "t"
  condition := .text "x"

/-- Settings with two and a half as the greatest length of a logged statement. -/
def halfLength : Settings :=
  { Settings.standard with maxLoggedLength := .float (.finite false 5 (-1)) }

/-- A statement that can be written, and is refused for a report all the same. -/
def OnlyReportsRefuse (c : Context) (x bare : Build String) (sql : String) : Prop :=
  bare.outcome c = .ok sql ∧ ∃ e, x.outcome c = .error e ∧ e.FromDiagnostic

/-- Each of the three reports refuses a statement that can be written: a kind that is no text,
columns that cannot be sorted, and a length that is accepted and cannot cut a text. -/
theorem refused_by_diagnostics :
    OnlyReportsRefuse {} rawKindDelete.text rawKindDelete.bare
        "DELETE t FROM t LEFT JOIN u ON c WHERE x" ∧
      OnlyReportsRefuse {} numberedColumnInsert.text numberedColumnInsert.bare
        "INSERT INTO t (a) VALUES (1), (1)" ∧
      (∃ st, halfLength.validated = .ok st) ∧
      OnlyReportsRefuse ⟨.settings halfLength, { root := 10 }⟩ plainDelete.text plainDelete.bare
        "DELETE t FROM t WHERE x" := by
  refine ⟨⟨?_, ?_⟩, ⟨?_, ?_⟩, ⟨_, rfl⟩, ⟨?_, ?_⟩⟩
  · exact eq_ok_of_toOption (by decide +kernel)
  · exact ⟨_, rfl, .word "Raw"⟩
  · exact eq_ok_of_toOption (by decide +kernel)
  · -- the sort does not reduce by itself, but there is nothing else to be refused for
    have hnone : (numberedColumnInsert.text.outcome {}).toOption = none := by decide +kernel
    have hbare : (numberedColumnInsert.bare.outcome {}).toOption ≠ none := by decide +kernel
    refine (Insert.sameUnless numberedColumnInsert.rowsIn_fromDiagnostic
      recordsIn_fromDiagnostic).resolve_left fun hsame => ?_
    rw [hsame] at hnone
    exact hbare hnone
  · exact eq_ok_of_toOption (by decide +kernel)
  · exact ⟨_, rfl, .cut⟩

end SqlText
