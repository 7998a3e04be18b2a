import SqlText.Proofs.Outcomes

/-!
# Couplings — two builds side by side

    K.Runs R (x.run c) (y.run c)

Two runs are compared by what their results, their faults and their records have to do with
each other. How faults and records are related is a `Coupling`; the relation of the results
changes from step to step, so that values that differ on the way may still lead to the same
text. Whatever is coupled step by step is coupled as a whole.

* **`Coupling.Outcomes`**: both end in related results, or both in related faults.
* **`Coupling.Runs.bind`**: coupled builds, followed by builds that are coupled on related
  results, are coupled.
* **`Coupling.Runs.bind_same`**: so is one build, followed by builds that are coupled on each
  of its results.
-/

namespace SqlText

variable {α β γ δ : Type}

/-- What two runs have in common besides their results: their faults, and their records,
the latter related as a whole where they are related piece by piece. A run has in common
with itself whatever may be asked. -/
structure Coupling where
  faults : Fault → Fault → Prop
  records : List Log.Record → List Log.Record → Prop
  faults_refl : ∀ e : Fault, faults e e
  records_refl : ∀ rs : List Log.Record, records rs rs
  records_append : ∀ {rs rs' ss ss' : List Log.Record},
    records rs rs' → records ss ss' → records (rs ++ ss) (rs' ++ ss')

namespace Coupling

/-- Two outcomes that are both results, related ones, or both faults, related ones. -/
inductive Outcomes (K : Coupling) (R : α → β → Prop) :
    Except Fault α → Except Fault β → Prop where
  | ok {a : α} {b : β} (h : R a b) : Outcomes K R (.ok a) (.ok b)
  | error {e e' : Fault} (h : K.faults e e') : Outcomes K R (.error e) (.error e')

/-- Two runs with coupled outcomes and related records. -/
structure Runs (K : Coupling) (R : α → β → Prop) (x : Run α) (y : Run β) : Prop where
  outcome : K.Outcomes R x.outcome y.outcome
  records : K.records x.records y.records

variable {K : Coupling} {R : α → β → Prop} {Q : γ → δ → Prop}

namespace Outcomes

/-- A result is coupled with results only. -/
theorem of_ok {a : α} {y : Except Fault β} (h : K.Outcomes R (.ok a) y) :
    ∃ b, y = .ok b ∧ R a b := by
  cases h with
  | ok h => exact ⟨_, rfl, h⟩

/-- Where outcomes are coupled, the one is a result exactly where the other is. -/
theorem of_ok_right {x : Except Fault α} {b : β} (h : K.Outcomes R x (.ok b)) :
    ∃ a, x = .ok a ∧ R a b := by
  cases h with
  | ok h => exact ⟨_, rfl, h⟩

theorem bind {x : Except Fault α} {y : Except Fault β} {f : α → Except Fault γ}
    {g : β → Except Fault δ} (hx : K.Outcomes R x y)
    (hf : ∀ a b, R a b → K.Outcomes Q (f a) (g b)) : K.Outcomes Q (x >>= f) (y >>= g) := by
  cases hx with
  | ok h => exact hf _ _ h
  | error h => exact .error h

theorem map {x : Except Fault α} {y : Except Fault β} {f : α → γ} {g : β → δ}
    (hx : K.Outcomes R x y) (hf : ∀ a b, R a b → Q (f a) (g b)) :
    K.Outcomes Q (x.map f) (y.map g) := by
  cases hx with
  | ok h => exact .ok (hf _ _ h)
  | error h => exact .error h

/-- Lists that are worked through pair by pair give related lists. -/
theorem mapM {P : α → β → Prop} {f : α → Except Fault γ} {g : β → Except Fault δ}
    (hf : ∀ a b, P a b → K.Outcomes Q (f a) (g b)) :
    ∀ {xs : List α} {ys : List β}, List.Forall₂ P xs ys →
      K.Outcomes (List.Forall₂ Q) (xs.mapM f) (ys.mapM g) := by
  intro xs ys h
  induction h with
  | nil =>
      rw [List.mapM_nil, List.mapM_nil]
      exact .ok .nil
  | cons hab _ ih =>
      rw [List.mapM_cons, List.mapM_cons]
      exact (hf _ _ hab).bind fun c d hcd => ih.bind fun cs ds hcs => .ok (.cons hcd hcs)

/-- An outcome is coupled with itself where its result, if it is one, is related to itself. -/
theorem refl {P : α → α → Prop} {x : Except Fault α} (hP : ∀ a, x = .ok a → P a a) :
    K.Outcomes P x x := by
  cases x with
  | error e => exact .error (K.faults_refl e)
  | ok a => exact .ok (hP a rfl)

end Outcomes

namespace Runs

theorem pure {a : α} {b : β} (h : R a b) (c c' : Context) :
    K.Runs R ((Pure.pure a : Build α).run c) ((Pure.pure b : Build β).run c') :=
  ⟨.ok h, K.records_refl []⟩

theorem lift {x : Except Fault α} {y : Except Fault β} (h : K.Outcomes R x y)
    (c c' : Context) : K.Runs R ((Build.lift x).run c) ((Build.lift y).run c') :=
  ⟨h, K.records_refl []⟩

theorem liftM {x : Except Fault α} {y : Except Fault β} (h : K.Outcomes R x y)
    (c c' : Context) :
    K.Runs R ((MonadLiftT.monadLift x : Build α).run c)
      ((MonadLiftT.monadLift y : Build β).run c') :=
  ⟨h, K.records_refl []⟩

/-- Two pairs of builds in a row are coupled where the first ones are, and the second ones
on every related pair of results. -/
theorem bind {x : Build α} {y : Build β} {f : α → Build γ} {g : β → Build δ}
    {c c' : Context} (hx : K.Runs R (x.run c) (y.run c'))
    (hf : ∀ a b, R a b → K.Runs Q ((f a).run c) ((g b).run c')) :
    K.Runs Q ((x >>= f).run c) ((y >>= g).run c') := by
  rw [Build.run_bind, Build.run_bind]
  obtain ⟨ho, hr⟩ := hx
  cases hxr : x.run c with
  | mk o rs =>
      cases hyr : y.run c' with
      | mk o' rs' =>
          rw [hxr, hyr] at ho hr
          have ho' : K.Outcomes R o o' := ho
          cases ho' with
          | ok h =>
              rw [Build.andThen_ok, Build.andThen_ok]
              exact ⟨(hf _ _ h).outcome, K.records_append hr (hf _ _ h).records⟩
          | error h =>
              rw [Build.andThen_error, Build.andThen_error]
              exact ⟨.error h, hr⟩

/-- A run is coupled with itself where its result, if it has one, is related to itself. -/
theorem refl {P : α → α → Prop} {x : Run α} (hP : ∀ a, x.outcome = .ok a → P a a) :
    K.Runs P x x :=
  ⟨.refl hP, K.records_refl x.records⟩

/-- One build, followed by two that are coupled on each of its results. -/
theorem bind_same {x : Build α} {f : α → Build γ} {g : α → Build δ} {c : Context}
    (hf : ∀ a, x.outcome c = .ok a → K.Runs Q ((f a).run c) ((g a).run c)) :
    K.Runs Q ((x >>= f).run c) ((x >>= g).run c) := by
  have hx : K.Runs (fun a b => a = b ∧ x.outcome c = .ok a) (x.run c) (x.run c) :=
    .refl fun a ha => ⟨rfl, ha⟩
  refine hx.bind ?_
  rintro a _ ⟨rfl, ha⟩
  exact hf a ha

end Runs

/-! ## Two couplings -/

/-- Both runs end in a result or neither does; the faults and the records may be any. -/
def unobserved : Coupling where
  faults _ _ := True
  records _ _ := True
  faults_refl _ := trivial
  records_refl _ := trivial
  records_append _ _ := trivial

/-- Outcomes alone decide whether runs are coupled. -/
theorem unobserved_of_outcomes {R : α → β → Prop} {x : Run α} {y : Run β}
    (h : unobserved.Outcomes R x.outcome y.outcome) : unobserved.Runs R x y := ⟨h, trivial⟩

/-- The records that no logger takes for mere debugging or information. -/
def grave (rs : List Log.Record) : List Log.Record :=
  rs.filter fun r => Log.Severity.warning.number ≤ r.severity.number

theorem grave_append (rs ss : List Log.Record) : grave (rs ++ ss) = grave rs ++ grave ss :=
  List.filter_append rs ss

/-- Both runs end in the same fault or in results, and give the same grave records. -/
def observed : Coupling where
  faults e e' := e = e'
  records rs rs' := grave rs = grave rs'
  faults_refl _ := rfl
  records_refl _ := rfl
  records_append {rs rs' ss ss'} h h' := by rw [grave_append, grave_append, h, h']

end Coupling

end SqlText
