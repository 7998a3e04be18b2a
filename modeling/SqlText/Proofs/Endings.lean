import SqlText.Proofs.Outcomes

/-!
# Endings — in which results and in which faults a computation may end

    Ends P Q x   and   ∀ a, P a → Ends R Q (f a)   give   Ends R Q (x >>= f)

A computation ends in a result or in a fault. What every result has and what every fault
has are followed through a computation together, for the results of the first steps decide
which faults the later ones may end in.

* **`Ends.bind`**, **`Ends.mapM`**, **`Ends.foldlM`**: endings of steps give those of a whole.
* **`Ends.exists_ok`**: a computation without any fault to end in has a result.
* **`FaultsIn.outcome_bind`** and its kin: the faults of builds.
-/

namespace SqlText

variable {ε α β : Type} {P : α → Prop} {R : β → Prop} {Q Q' : ε → Prop}

/-- Ends in a result with one property or in a fault with another. -/
def Ends (P : α → Prop) (Q : ε → Prop) : Except ε α → Prop
  | .ok a    => P a
  | .error e => Q e

/-- Ends in any result or in a fault with a property. -/
def FaultsIn (Q : ε → Prop) (x : Except ε α) : Prop := Ends (fun _ => True) Q x

namespace Ends

theorem of_error {x : Except ε α} {e : ε} (h : Ends P Q x) (hx : x = .error e) : Q e := by
  rw [hx] at h
  exact h

/-- A computation ends in what has a property where what it ends in has a stronger one. -/
theorem mono {P' : α → Prop} {x : Except ε α} (h : Ends P Q x) (hP : ∀ a, P a → P' a)
    (hQ : ∀ e, Q e → Q' e) : Ends P' Q' x := by
  cases x with
  | error e => exact hQ e h
  | ok a => exact hP a h

theorem faultsIn {x : Except ε α} (h : Ends P Q x) : FaultsIn Q x :=
  h.mono (fun _ _ => trivial) fun _ hq => hq

/-- Whatever faults it may end in, a computation ends in the result that it has. -/
theorem self {x : Except ε α} (h : FaultsIn Q x) : Ends (fun a => x = .ok a) Q x := by
  cases x with
  | error e => exact h
  | ok a => rfl

/-- The second of two computations in a row may count on what the first one ends in. -/
theorem bind {x : Except ε α} {f : α → Except ε β} (hx : Ends P Q x)
    (hf : ∀ a, P a → Ends R Q (f a)) : Ends R Q (x >>= f) := by
  cases x with
  | error e => exact hx
  | ok a => exact hf a hx

theorem map {x : Except ε α} {f : α → β} (hx : Ends P Q x) (hf : ∀ a, P a → R (f a)) :
    Ends R Q (x.map f) := by
  cases x with
  | error e => exact hx
  | ok a => exact hf a hx

/-- A list is worked through into results with a property, item by item. -/
theorem mapM {f : α → Except ε β} :
    ∀ {xs : List α}, (∀ x ∈ xs, Ends R Q (f x)) → Ends (fun ys => ∀ y ∈ ys, R y) Q (xs.mapM f) := by
  intro xs
  induction xs with
  | nil =>
      intro _
      rw [List.mapM_nil]
      exact fun y hy => absurd hy List.not_mem_nil
  | cons x xs ih =>
      intro h
      rw [List.mapM_cons]
      refine (h x List.mem_cons_self).bind fun y hy => ?_
      refine (ih fun z hz => h z (List.mem_cons_of_mem x hz)).bind fun ys hys => ?_
      exact List.forall_mem_cons.mpr ⟨hy, hys⟩

/-- What every step keeps is kept by all of them. -/
theorem foldlM {f : β → α → Except ε β} :
    ∀ {xs : List α} {b : β}, R b → (∀ b, R b → ∀ x ∈ xs, Ends R Q (f b x)) →
      Ends R Q (xs.foldlM f b) := by
  intro xs
  induction xs with
  | nil =>
      intro b hb _
      exact hb
  | cons x xs ih =>
      intro b hb h
      rw [List.foldlM_cons]
      refine (h b hb x List.mem_cons_self).bind fun b' hb' => ?_
      exact ih hb' fun b hb z hz => h b hb z (List.mem_cons_of_mem x hz)

/-- A computation without any fault to end in has a result. -/
theorem exists_ok {x : Except ε α} (h : Ends P (fun _ : ε => False) x) :
    ∃ a, x = .ok a ∧ P a := by
  cases x with
  | error e => exact absurd h id
  | ok a => exact ⟨a, rfl, h⟩

end Ends

/-! ## Faults alone -/

namespace FaultsIn

theorem pure (a : α) : FaultsIn Q (.ok a : Except ε α) := trivial

theorem of_error {x : Except ε α} {e : ε} (h : FaultsIn Q x) (hx : x = .error e) : Q e :=
  Ends.of_error h hx

theorem of_forall {x : Except ε α} (h : ∀ e, x = .error e → Q e) : FaultsIn Q x := by
  cases x with
  | error e => exact h e rfl
  | ok a => trivial

theorem mono {x : Except ε α} (h : FaultsIn Q x) (hQ : ∀ e, Q e → Q' e) : FaultsIn Q' x :=
  Ends.mono h (fun _ => id) hQ

theorem bind {x : Except ε α} {f : α → Except ε β} (hx : FaultsIn Q x)
    (hf : ∀ a, FaultsIn Q (f a)) : FaultsIn Q (x >>= f) :=
  Ends.bind hx fun a _ => hf a

theorem map {x : Except ε α} (f : α → β) (hx : FaultsIn Q x) : FaultsIn Q (x.map f) :=
  Ends.map hx fun _ _ => trivial

theorem mapM_of_mem {f : α → Except ε β} {xs : List α} (hf : ∀ x ∈ xs, FaultsIn Q (f x)) :
    FaultsIn Q (xs.mapM f) :=
  (Ends.mapM hf).faultsIn

theorem mapM {f : α → Except ε β} (hf : ∀ x, FaultsIn Q (f x)) (xs : List α) :
    FaultsIn Q (xs.mapM f) := mapM_of_mem fun x _ => hf x

end FaultsIn

/-! ## Faults of builds -/

namespace FaultsIn

variable {Q : Fault → Prop} {c : Context}

theorem outcome_bind {x : Build α} {f : α → Build β} (hx : FaultsIn Q (x.outcome c))
    (hf : ∀ a, FaultsIn Q ((f a).outcome c)) : FaultsIn Q ((x >>= f).outcome c) := by
  rw [Build.outcome_bind]
  exact hx.bind hf

/-- The second of two builds in a row may count on what the first one ends in. -/
theorem outcome_bind_of {P : α → Prop} {x : Build α} {f : α → Build β}
    (hx : Ends P Q (x.outcome c)) (hf : ∀ a, P a → FaultsIn Q ((f a).outcome c)) :
    FaultsIn Q ((x >>= f).outcome c) := by
  rw [Build.outcome_bind]
  exact Ends.bind hx hf

theorem outcome_liftM {x : Except Fault α} (h : FaultsIn Q x) :
    FaultsIn Q ((MonadLiftT.monadLift x : Build α).outcome c) := h

theorem outcome_note (logger : String) (severity : Log.Severity) (message : String) :
    FaultsIn Q ((Build.note logger severity message).outcome c) := trivial

theorem outcome_mapM {f : α → Build β} (hf : ∀ x, FaultsIn Q ((f x).outcome c)) (xs : List α) :
    FaultsIn Q ((xs.mapM f).outcome c) := by
  rw [Build.outcome_mapM]
  exact .mapM hf xs

/-- An input that is left out ends in no fault. -/
theorem outcome_whenGiven {v : Value} {f : Value → Build String}
    (hf : FaultsIn Q ((f v).outcome c)) : FaultsIn Q ((Build.whenGiven v f).outcome c) := by
  rw [Build.whenGiven]
  by_cases hv : v.isGiven
  · rw [if_pos hv]; exact hf
  · rw [if_neg hv]; trivial

end FaultsIn

end SqlText
