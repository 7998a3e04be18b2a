import SqlText.Proofs.Remarks

/-!
# Clause outcomes — what columns, joins and orderings look at and end in

    (Join.chain v).run c  =  (Join.chain v).run c'

The clauses report what they leave out and what they do not know, but neither the settings
nor the levels of the loggers bear on what they do: a clause is a function of the value that
describes it.

* **`Columns.listText_of_kept`**, **`Join.chain_of_kept`**, **`OrderBy.text_of_kept`** and
  their kin: what steps keep, a clause keeps.
* **`Columns.contextFree_listText`**, **`Join.contextFree_chain`**,
  **`OrderBy.contextFree_text`** and their kin: no clause looks at the context.
* **`Join.of_chain`**: what a chain of joins is made of.
-/

namespace SqlText

open Build (ContextFree KeptBySteps noteRecord)
open Log.Record (OnClauses OnLeftOut)
open Log.Severity (debug_ne_error warning_ne_error)

variable {P : ∀ {α : Type}, Build α → Prop}

/-- What steps with remarks on clauses keep, they keep with remarks on what is left out. -/
theorem Build.KeptBySteps.leavingOut (hP : KeptBySteps OnClauses P) : KeptBySteps OnLeftOut P :=
  hP.mono fun _ => OnLeftOut.toOnClauses

/-- An input that is left out looks at no context. -/
theorem Build.ContextFree.whenGiven {v : Value} {f : Value → Build String}
    (hf : ContextFree (f v)) : ContextFree (Build.whenGiven v f) :=
  ContextFree.stepClosed.keptBySteps.whenGiven hf

/-! ## Columns -/

theorem Columns.groupOf_of_kept (hP : KeptBySteps OnLeftOut P) (table columns : Value) :
    P (groupOf table columns) := by
  rw [groupOf]
  split
  · exact hP.bind (hP.read (faultsIn_extraGroup columns).silent) fun _ => hP.pure _
  · split
    · exact hP.pure _
    · have hword : IsRemark "Ignoring column entry '" := by decide
      have hremark : OnLeftOut ⟨Log.Channel.clauses, .debug, "Ignoring column entry '" ++
          table.display ++ "': value is not a list"⟩ :=
        ⟨⟨rfl, (hword.append _).append _⟩, rfl⟩
      exact hP.bind (hP.remark hremark debug_ne_error) fun _ => hP.pure _

/-- Columns are read step by step. -/
theorem Columns.ofValue?_of_kept (hP : KeptBySteps OnLeftOut P) (v : Value) : P (ofValue? v) := by
  unfold ofValue?
  split
  · exact hP.pure _
  · exact hP.pure _
  · split <;> exact hP.pure _
  · split <;> exact hP.pure _
  · split <;> exact hP.pure _
  · split
    · exact hP.pure _
    · refine hP.bind (hP.bind ?_ fun _ => hP.pure _) fun _ => hP.pure _
      exact hP.mapM (fun e : Value × Value => groupOf_of_kept hP e.1 e.2) _
  · exact hP.silent id

/-- The items of columns are read without a record. -/
theorem Columns.faultsIn_piecesOf?_silent (cs? : Option Columns) :
    FaultsIn Fault.Silent (piecesOf? cs?) := by
  cases cs? with
  | none => trivial
  | some cs => exact cs.faultsIn_pieces.silent_of_stray fun _ => Strays.stray

theorem Columns.listText_of_kept (hP : KeptBySteps OnLeftOut P) (v : Value) : P (listText v) := by
  refine hP.bind (ofValue?_of_kept hP v) fun cs? => ?_
  refine hP.bind (hP.read (faultsIn_piecesOf?_silent cs?)) fun ps => ?_
  exact hP.read (faultsIn_joinTexts _ ps).silent

theorem Columns.groupText_of_kept (hP : KeptBySteps OnLeftOut P) (v : Value) :
    P (groupText v) := by
  refine hP.bind (ofValue?_of_kept hP v) fun cs? => ?_
  refine hP.bind (hP.read (faultsIn_piecesOf?_silent cs?)) fun ps => ?_
  split
  · exact hP.pure _
  · exact hP.bind (hP.read (faultsIn_joinTexts _ ps).silent) fun _ => hP.pure _

theorem Columns.contextFree_ofValue? (v : Value) : ContextFree (ofValue? v) :=
  ofValue?_of_kept ContextFree.stepClosed.keptBySteps v

theorem Columns.contextFree_listText (v : Value) : ContextFree (listText v) :=
  listText_of_kept ContextFree.stepClosed.keptBySteps v

theorem Columns.contextFree_groupText (v : Value) : ContextFree (groupText v) :=
  groupText_of_kept ContextFree.stepClosed.keptBySteps v

/-! ## Joins -/

theorem Join.reportUnknown_of_kept (hP : KeptBySteps OnClauses P) (what : String)
    (words : List String) (word : Value) : P (reportUnknown what words word) := by
  refine hP.bind (hP.read ?_) fun _ => ?_
  · unfold isKnown
    split <;> trivial
  · split
    · exact hP.pure _
    · have hword : IsRemark "Unknown join " := by decide
      have hremark : OnClauses ⟨Log.Channel.clauses, .warning, "Unknown join " ++ what ++ " '" ++
          word.display ++ "', rendering it as given"⟩ :=
        ⟨rfl, (((hword.append _).append _).append _).append _⟩
      exact hP.remark hremark warning_ne_error

theorem Join.report_of_kept (hP : KeptBySteps OnClauses P) (j : Join) : P j.report := by
  refine hP.bind (reportUnknown_of_kept hP _ _ _) fun _ => ?_
  cases j with
  | explicit table condition kind => exact hP.pure _
  | equi a b c d operator kind => exact reportUnknown_of_kept hP _ _ _

theorem Join.ofEntries_of_kept (hP : KeptBySteps OnClauses P) (es : List (Value × Value)) :
    P (ofEntries es) := by
  unfold ofEntries
  dsimp only
  split
  · exact hP.pure _
  · exact hP.pure _
  · have hreported := BuildError.ReportedBy.join es
    exact hP.refused ⟨rfl, hreported.isRemark⟩ hreported

/-- A join is read step by step, and what is unknown about it is reported. -/
theorem Join.ofValue_of_kept (hP : KeptBySteps OnClauses P) (v : Value) : P (ofValue v) := by
  unfold ofValue
  split
  · exact hP.bind (report_of_kept hP _) fun _ => hP.pure _
  · refine hP.bind (ofEntries_of_kept hP _) fun j => ?_
    exact hP.bind (report_of_kept hP j) fun _ => hP.pure _
  · exact hP.silent id

theorem Join.chain_of_kept (hP : KeptBySteps OnClauses P) (v : Value) : P (chain v) := by
  unfold chain
  split
  · exact hP.pure _
  split
  · exact hP.silent id
  · exact hP.silent id
  · refine hP.bind (hP.read v.faultsIn_iterate.silent) fun vs => hP.bind ?_ fun _ => hP.pure _
    exact hP.mapM (ofValue_of_kept hP) vs

theorem Join.contextFree_chain (v : Value) : ContextFree (chain v) :=
  chain_of_kept ContextFree.clauseClosed.keptBySteps v

/-- A chain of joins is empty for a value that does not count as given, and elsewhere puts
together the segments of the joins that the items of the value describe. -/
theorem Join.of_chain {v : Value} {c : Context} {t : String}
    (h : (chain v).outcome c = .ok t) :
    (¬ v.isGiven ∧ t = "") ∨ ∃ vs js, v.iterate = .ok vs ∧
      List.Forall₂ (fun d j => (ofValue d).outcome c = .ok j) vs js ∧
      t = " ".intercalate (js.map segment) := by
  unfold chain at h
  by_cases hg : v.isGiven
  · rw [if_neg (by rw [hg]; decide)] at h
    split at h
    · exact nomatch h
    · exact nomatch h
    · rw [Build.outcome_bind, Build.outcome_liftM] at h
      obtain ⟨vs, hvs, h⟩ := bind_eq_ok_iff.mp h
      rw [Build.outcome_bind, Build.outcome_mapM] at h
      obtain ⟨js, hjs, h⟩ := bind_eq_ok_iff.mp h
      exact .inr ⟨vs, js, hvs, (mapM_eq_ok_iff vs js).mp hjs, (Except.ok.inj h).symm⟩
  · rw [if_pos (by rw [Bool.eq_false_iff.mpr hg]; decide)] at h
    exact .inl ⟨hg, (Except.ok.inj h).symm⟩

/-! ## Orderings -/

theorem OrderBy.keysOf_of_kept (hP : KeptBySteps OnLeftOut P) (name direction : Value) :
    P (keysOf name direction) := by
  unfold keysOf
  split
  · exact hP.pure _
  split
  · exact hP.pure _
  · have hword : IsRemark "Ignoring sort entry '" := by decide
    have hremark : OnLeftOut ⟨Log.Channel.clauses, .debug, "Ignoring sort entry '" ++
        name.display ++ "': unsupported direction " ++ direction.inspect⟩ :=
      ⟨⟨rfl, ((hword.append _).append _).append _⟩, rfl⟩
    exact hP.bind (hP.remark hremark debug_ne_error) fun _ => hP.pure _

/-- An ordering is read step by step. -/
theorem OrderBy.ofValue?_of_kept (hP : KeptBySteps OnLeftOut P) (v : Value) : P (ofValue? v) := by
  unfold ofValue?
  split
  · exact hP.pure _
  · exact hP.pure _
  · split <;> exact hP.pure _
  · split
    · exact hP.pure _
    · refine hP.bind ?_ fun _ => hP.pure _
      exact hP.mapM (fun e : Value × Value => keysOf_of_kept hP e.1 e.2) _
  · split
    · exact hP.pure _
    · exact hP.silent id

theorem OrderBy.contextFree_ofValue? (v : Value) : ContextFree (ofValue? v) :=
  ofValue?_of_kept ContextFree.stepClosed.keptBySteps v

theorem OrderBy.text_of_kept (hP : KeptBySteps OnLeftOut P) (v : Value) : P (text v) := by
  refine hP.bind (ofValue?_of_kept hP v) fun o? => ?_
  cases o? with
  | none => exact hP.pure _
  | some o => exact hP.read (o.faultsIn_segment.silent_of_stray fun _ => Strays.stray)

theorem OrderBy.contextFree_text (v : Value) : ContextFree (text v) :=
  text_of_kept ContextFree.stepClosed.keptBySteps v

end SqlText
