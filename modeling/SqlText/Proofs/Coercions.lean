import SqlText.Clause.Aggregate
import SqlText.Clause.CaseExpr
import SqlText.Clause.Paging
import SqlText.Clause.RecursiveCte
import SqlText.Clause.SubQuery
import SqlText.Proofs.ClauseOutcomes
import SqlText.Proofs.Coupling

/-!
# Coercions — the descriptions that plain values stand for

    Shape.subQuery.coerce (.text "SELECT 1")  =  .ok (.subQuery ⟨.text "SELECT 1", .null⟩)

Each clause reads its input as a description first. A caller may do that step alone, and
hand the description over in place of the plain value. The clause reads it once more, which
changes nothing, and reports the same warnings as for the plain value.

* **`Shape.coerce_idem`**: a description describes itself.
* **`Columns.observed_of_coerce`** and its kin: a plain value and its description are read alike.
-/

namespace SqlText

open Coupling (observed grave)

/-- The kinds of inputs that are read as descriptions. -/
inductive Shape where
  | columns
  | ordering
  | join
  | subQuery
  | aggregate
  | recursiveCte
  | paging
  | caseExpr

/-- The description that a value stands for, as a value again: null for no columns and for
no ordering. -/
def Shape.coerce : Shape → Value → Except Fault Value
  | columns,      v => ((Columns.ofValue? v).outcome {}).map fun c? => (c?.map .columns).getD .null
  | ordering,     v => ((OrderBy.ofValue? v).outcome {}).map fun o? => (o?.map .orderBy).getD .null
  | join,         v => ((Join.ofValue v).outcome {}).map .join
  | subQuery,     v => (SubQuery.ofValue v).map .subQuery
  | aggregate,    v => (Aggregate.ofValue v).map .aggregate
  | recursiveCte, v => (RecursiveCte.ofValue v).map .recursiveCte
  | paging,       v => (Paging.ofValue v).map .paging
  | caseExpr,     v => (CaseExpr.ofValue v).map .caseExpr

/-! ## Builds that make no grave record -/

/-- A build that reports nothing above mere information. -/
def Build.Quiet (x : Build α) : Prop := ∀ c, grave (x.run c).records = []

namespace Build.Quiet

theorem pure (a : α) : Quiet (Pure.pure a : Build α) := fun _ => rfl

theorem liftM (x : Except Fault α) : Quiet (MonadLiftT.monadLift x : Build α) := fun _ => rfl

theorem refuse (e : BuildError) : Quiet (Build.refuse e : Build α) := fun _ => rfl

theorem debug (logger message : String) : Quiet (Build.note logger .debug message) :=
  fun _ => rfl

theorem bind {x : Build α} {f : α → Build β} (hx : Quiet x) (hf : ∀ a, Quiet (f a)) :
    Quiet (x >>= f) := by
  intro c
  have hxc := hx c
  rw [run_bind]
  match h : x.run c with
  | ⟨.error e, rs⟩ =>
      rw [h] at hxc
      exact hxc
  | ⟨.ok a, rs⟩ =>
      rw [h] at hxc
      rw [andThen_ok, Coupling.grave_append, hxc, hf a c]
      rfl

theorem stepClosed : StepClosed Quiet := ⟨pure, liftM, refuse, debug, bind⟩

/-- A quiet build that looks at no context is observed as its result. -/
theorem coupled {x : Build α} (hx : Quiet x) (hfree : ContextFree x) {a : α}
    (h : x.outcome {} = .ok a) (c : Context) :
    observed.Runs (· = ·) (x.run c) ((Pure.pure a : Build α).run c) := by
  have hout : (x.run c).outcome = .ok a := (congrArg Run.outcome (hfree c {})).trans h
  refine ⟨?_, hx c⟩
  rw [hout]
  exact .ok rfl

end Build.Quiet

/-- A run is observed as itself. -/
theorem observed_refl {α : Type} (x : Run α) : observed.Runs (· = ·) x x := .refl fun _ _ => rfl

/-! ## Columns and orderings -/

/-- A value that can be read describes columns exactly where it counts as given. -/
theorem Columns.isSome_of_ofValue? {v : Value} {c : Context} {c? : Option Columns}
    (h : (ofValue? v).outcome c = .ok c?) : c?.isSome = v.isGiven := by
  cases v with
  | columns c => rw [← Except.ok.inj h]; rfl
  | null => rw [← Except.ok.inj h]; rfl
  | text s =>
      rw [← Except.ok.inj h, Value.isGiven]
      cases s.isEmpty <;> rfl
  | list vs => cases vs <;> (rw [← Except.ok.inj h]; rfl)
  | tuple vs => cases vs <;> (rw [← Except.ok.inj h]; rfl)
  | mapping es =>
      cases es with
      | nil => rw [← Except.ok.inj h]; rfl
      | cons e es =>
          rw [ofValue?, List.isEmpty_cons, if_neg Bool.false_ne_true, Build.outcome_bind] at h
          obtain ⟨groups, -, h⟩ := bind_eq_ok_iff.mp h
          rw [← Except.ok.inj h]
          rfl
  | _ => exact nomatch h

/-- A value that can be read describes an ordering exactly where it counts as given. -/
theorem OrderBy.isSome_of_ofValue? {v : Value} {c : Context} {o? : Option OrderBy}
    (h : (ofValue? v).outcome c = .ok o?) : o?.isSome = v.isGiven := by
  cases v with
  | orderBy o => rw [← Except.ok.inj h]; rfl
  | null => rw [← Except.ok.inj h]; rfl
  | text s =>
      rw [← Except.ok.inj h, Value.isGiven]
      cases s.isEmpty <;> rfl
  | list vs => cases vs with
      | nil => rw [← Except.ok.inj h]; rfl
      | cons v vs => exact nomatch h
  | tuple vs => cases vs with
      | nil => rw [← Except.ok.inj h]; rfl
      | cons v vs => exact nomatch h
  | mapping es =>
      cases es with
      | nil => rw [← Except.ok.inj h]; rfl
      | cons e es =>
          rw [ofValue?, List.isEmpty_cons, if_neg Bool.false_ne_true, Build.outcome_bind] at h
          obtain ⟨keys, -, h⟩ := bind_eq_ok_iff.mp h
          rw [← Except.ok.inj h]
          rfl
  | _ => exact nomatch h

/-- A value and the columns that it describes are read alike, and both count as given or
neither does. -/
theorem Columns.observed_of_coerce {v w : Value} (h : Shape.columns.coerce v = .ok w)
    (c : Context) :
    w.isGiven = v.isGiven ∧
      observed.Runs (· = ·) ((ofValue? v).run c) ((ofValue? w).run c) := by
  obtain ⟨c?, hc, rfl⟩ := map_eq_ok_iff.mp h
  have hquiet := ofValue?_of_kept Build.Quiet.stepClosed.keptBySteps v
  have hread := hquiet.coupled (contextFree_ofValue? v) hc c
  rw [← isSome_of_ofValue? hc]
  cases c? with
  | none => exact ⟨rfl, hread⟩
  | some cs => exact ⟨rfl, hread⟩

/-- A value and the ordering that it describes are read alike, and both count as given or
neither does. -/
theorem OrderBy.observed_of_coerce {v w : Value} (h : Shape.ordering.coerce v = .ok w)
    (c : Context) :
    w.isGiven = v.isGiven ∧
      observed.Runs (· = ·) ((ofValue? v).run c) ((ofValue? w).run c) := by
  obtain ⟨o?, ho, rfl⟩ := map_eq_ok_iff.mp h
  have hquiet := ofValue?_of_kept Build.Quiet.stepClosed.keptBySteps v
  have hread := hquiet.coupled (contextFree_ofValue? v) ho c
  rw [← isSome_of_ofValue? ho]
  cases o? with
  | none => exact ⟨rfl, hread⟩
  | some o => exact ⟨rfl, hread⟩

/-! ## Joins -/

/-- A mapping that describes a join makes no record on its own account. -/
theorem Join.ofEntries_eq_pure {es : List (Value × Value)} {c : Context} {j : Join}
    (h : (ofEntries es).outcome c = .ok j) : ofEntries es = pure j := by
  unfold ofEntries at h ⊢
  dsimp only at h ⊢
  split at h
  · rw [← Except.ok.inj h]
  · rw [← Except.ok.inj h]
  · rw [Build.outcome_bind, Build.outcome_refuse] at h
    exact nomatch h

/-- A value and the join that it describes are read alike, with the same records. -/
theorem Join.ofValue_of_coerce {v w : Value} (h : Shape.join.coerce v = .ok w) :
    ofValue w = ofValue v := by
  obtain ⟨j, hj, rfl⟩ := map_eq_ok_iff.mp h
  cases v with
  | join j' =>
      rw [ofValue, Build.outcome_bind] at hj
      obtain ⟨-, -, hj⟩ := bind_eq_ok_iff.mp hj
      rw [← Except.ok.inj hj]
  | mapping es =>
      rw [ofValue, Build.outcome_bind] at hj
      obtain ⟨j', hj', hj⟩ := bind_eq_ok_iff.mp hj
      rw [Build.outcome_bind] at hj
      obtain ⟨-, -, hj⟩ := bind_eq_ok_iff.mp hj
      rw [ofValue, ofValue, ofEntries_eq_pure hj', pure_bind, ← Except.ok.inj hj]
  | _ => exact nomatch hj

/-! ## Subqueries, aggregates, relations and paging -/

theorem SubQuery.ofValue_of_coerce {v w : Value} (h : Shape.subQuery.coerce v = .ok w) :
    ofValue w = ofValue v := by
  obtain ⟨q, hq, rfl⟩ := map_eq_ok_iff.mp h
  rw [hq]
  rfl

theorem Aggregate.ofValue_of_coerce {v w : Value} (h : Shape.aggregate.coerce v = .ok w) :
    ofValue w = ofValue v := by
  obtain ⟨a, ha, rfl⟩ := map_eq_ok_iff.mp h
  rw [ha]
  rfl

/-- What describes a relation counts as given. -/
theorem RecursiveCte.ofValue_of_coerce {v w : Value} (h : Shape.recursiveCte.coerce v = .ok w) :
    w.isGiven = v.isGiven ∧ ofValue w = ofValue v := by
  obtain ⟨c, hc, rfl⟩ := map_eq_ok_iff.mp h
  refine ⟨?_, hc.symm⟩
  cases v with
  | recursiveCte c' => rfl
  | mapping es =>
      cases es with
      | nil => exact nomatch hc
      | cons e es => rfl
  | _ => exact nomatch hc

theorem Paging.ofValue_of_coerce {v w : Value} (h : Shape.paging.coerce v = .ok w) :
    ofValue w = ofValue v := by
  obtain ⟨p, hp, rfl⟩ := map_eq_ok_iff.mp h
  rw [hp]
  rfl

/-! ## CASE expressions -/

/-- A branch that was read describes itself. -/
theorem CaseExpr.branchOfValue_idem {v b : Value} (h : branchOfValue v = .ok b) :
    branchOfValue b = .ok b := by
  cases v with
  | caseBranch b' => rw [← Except.ok.inj h]; rfl
  | mapping es =>
      rw [branchOfValue] at h
      split at h
      · rw [← Except.ok.inj h]; rfl
      · exact nomatch h
  | _ => exact nomatch h

/-- A CASE expression that was read describes itself. -/
theorem CaseExpr.ofValue_idem {v : Value} {e : CaseExpr} (h : ofValue v = .ok e) :
    ofValue (.caseExpr e) = .ok e := by
  obtain ⟨⟨b, o⟩, hparts, h⟩ := bind_eq_ok_iff.mp h
  obtain ⟨vs, hvs, h⟩ := bind_eq_ok_iff.mp h
  obtain ⟨bs, hbs, h⟩ := bind_eq_ok_iff.mp h
  have hself : bs.mapM branchOfValue = .ok bs := by
    refine (mapM_eq_ok_iff bs bs).mpr (List.forall₂_same.mpr fun b hb => ?_)
    obtain ⟨v, -, hv⟩ := exists_mem_left_of_forall₂ ((mapM_eq_ok_iff vs bs).mp hbs) b hb
    exact branchOfValue_idem hv
  cases bs with
  | nil => exact nomatch h
  | cons b bs =>
      rw [← Except.ok.inj h, ofValue, partsOf, ok_bind]
      show ((Value.tuple (b :: bs)).iterate >>= _) = _
      rw [Value.iterate, ok_bind, hself]
      rfl

/-- A value and the CASE expression that it describes are read alike, and both are taken for
descriptions. -/
theorem CaseExpr.ofValue_of_coerce {v w : Value} (h : Shape.caseExpr.coerce v = .ok w) :
    isDescribed w = isDescribed v ∧ ofValue w = ofValue v := by
  obtain ⟨e, he, rfl⟩ := map_eq_ok_iff.mp h
  refine ⟨?_, (ofValue_idem he).trans he.symm⟩
  cases v with
  | caseExpr e' => rfl
  | mapping es =>
      show true = (valueAt? "case" es).isSome
      cases hcase : valueAt? "case" es with
      | some b => rfl
      | none =>
          -- without the key there is no branch, which is refused
          have hparts : valueAt "case" es = .null := by rw [valueAt, hcase]; rfl
          rw [ofValue, partsOf, hparts] at he
          exact nomatch he
  | _ => exact nomatch he

/-! ## Descriptions describe themselves -/

/-- A coercion maps its own result to itself. -/
theorem Shape.coerce_idem (k : Shape) {v w : Value} (h : k.coerce v = .ok w) :
    k.coerce w = .ok w := by
  cases k with
  | columns =>
      obtain ⟨c?, -, rfl⟩ := map_eq_ok_iff.mp h
      cases c? <;> rfl
  | ordering =>
      obtain ⟨o?, -, rfl⟩ := map_eq_ok_iff.mp h
      cases o? <;> rfl
  | join =>
      have hsame := Join.ofValue_of_coerce h
      rw [coerce] at h ⊢
      rw [hsame, h]
  | subQuery =>
      obtain ⟨q, -, rfl⟩ := map_eq_ok_iff.mp h
      rfl
  | aggregate =>
      obtain ⟨a, -, rfl⟩ := map_eq_ok_iff.mp h
      rfl
  | recursiveCte =>
      obtain ⟨c, -, rfl⟩ := map_eq_ok_iff.mp h
      rfl
  | paging =>
      obtain ⟨p, -, rfl⟩ := map_eq_ok_iff.mp h
      rfl
  | caseExpr =>
      have hsame := (CaseExpr.ofValue_of_coerce h).2
      rw [coerce] at h ⊢
      rw [hsame, h]

end SqlText
