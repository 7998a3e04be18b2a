import Mathlib.Data.List.Forall2
import SqlText.Build

/-!
# Outcomes — how a build ends, apart from its records

    ((x >>= f).run c).outcome  is  the outcome of x, and then that of f

The outcome of two builds in a row is that of two results in a row, so a build that makes
records can be taken apart like one that makes none. A build is *context-free* when it runs
alike in every context: neither the settings nor the levels of the loggers bear on it.

* **`bind_eq_ok_iff`**, **`mapM_eq_ok_iff`**: what has to end well where a whole ends well.
* **`outcome_bind`** and its kin: outcomes of builds as results.
* **`StepClosed`**: what is kept by steps.
* **`ClauseClosed`**: what is kept by steps and by records on the inputs of clauses.
* **`ContextFree`**: kept by everything but a look at the context.
-/

namespace SqlText

variable {ε α β γ : Type}

/-! ## Results in a row -/

@[simp] theorem ok_bind (a : α) (f : α → Except ε β) : (Except.ok a >>= f) = f a := rfl

@[simp] theorem error_bind (e : ε) (f : α → Except ε β) :
    (Except.error e >>= f) = Except.error e := rfl

/-- Two results in a row end well exactly where both do. -/
theorem bind_eq_ok_iff {x : Except ε α} {f : α → Except ε β} {b : β} :
    (x >>= f) = .ok b ↔ ∃ a, x = .ok a ∧ f a = .ok b := by
  cases x with
  | error e => simp [Bind.bind, Except.bind]
  | ok a => simp [Bind.bind, Except.bind]

/-- A changed result is that of a result that was there to change. -/
theorem map_eq_ok_iff {x : Except ε α} {f : α → β} {b : β} :
    x.map f = .ok b ↔ ∃ a, x = .ok a ∧ f a = b := by
  cases x with
  | error e => simp [Except.map]
  | ok a => simp [Except.map]

/-- A result that is there is the one that the outcome ends in. -/
theorem eq_ok_of_toOption {x : Except ε α} {a : α} (h : x.toOption = some a) : x = .ok a := by
  cases x with
  | error e => exact nomatch h
  | ok b => exact congrArg Except.ok (Option.some.inj h)

/-- A list is worked through exactly where each of its items is, one after the other. -/
theorem mapM_eq_ok_iff {f : α → Except ε β} :
    ∀ (xs : List α) (ys : List β),
      xs.mapM f = .ok ys ↔ List.Forall₂ (fun x y => f x = .ok y) xs ys := by
  intro xs
  induction xs with
  | nil =>
      intro ys
      rw [List.mapM_nil, List.forall₂_nil_left_iff]
      constructor
      · intro h
        exact (Except.ok.inj h).symm
      · rintro rfl
        rfl
  | cons x xs ih =>
      intro ys
      rw [List.mapM_cons, bind_eq_ok_iff]
      constructor
      · rintro ⟨y, hy, h⟩
        obtain ⟨zs, hzs, h⟩ := bind_eq_ok_iff.mp h
        rw [← Except.ok.inj h]
        exact .cons hy ((ih zs).mp hzs)
      · intro h
        cases h with
        | @cons _ y _ zs hy hzs =>
            exact ⟨y, hy, bind_eq_ok_iff.mpr ⟨zs, (ih zs).mpr hzs, rfl⟩⟩

/-- A list whose items have their results is worked through to these. -/
theorem mapM_eq_ok_map {f : α → Except ε β} {g : α → β} {xs : List α}
    (h : ∀ x ∈ xs, f x = .ok (g x)) : xs.mapM f = .ok (xs.map g) := by
  rw [mapM_eq_ok_iff, List.forall₂_map_right_iff]
  exact List.forall₂_same.mpr h

/-- A list can be worked through where each of its items can. -/
theorem exists_mapM_iff {f : α → Except ε β} {xs : List α} :
    (∃ ys, xs.mapM f = .ok ys) ↔ ∀ x ∈ xs, ∃ y, f x = .ok y := by
  induction xs with
  | nil => exact ⟨fun _ _ hx => (nomatch hx), fun _ => ⟨[], rfl⟩⟩
  | cons x xs ih =>
      rw [List.forall_mem_cons, ← ih]
      simp only [mapM_eq_ok_iff, List.forall₂_cons_left_iff]
      constructor
      · rintro ⟨_, y, ys, hy, hys, rfl⟩
        exact ⟨⟨y, hy⟩, ys, hys⟩
      · rintro ⟨⟨y, hy⟩, ys, hys⟩
        exact ⟨_, y, ys, hy, hys, rfl⟩

/-- All items of a list are as they should be, or there is a first one that is not. -/
theorem forall_or_first (P : α → Prop) (xs : List α) :
    (∀ x ∈ xs, P x) ∨ ∃ before x after, xs = before ++ x :: after ∧
      (∀ y ∈ before, P y) ∧ ¬ P x := by
  induction xs with
  | nil => exact .inl (List.forall_mem_nil _)
  | cons x xs ih =>
      by_cases hx : P x
      · rcases ih with hall | ⟨before, y, after, rfl, hbefore, hy⟩
        · exact .inl (List.forall_mem_cons.mpr ⟨hx, hall⟩)
        · exact .inr ⟨x :: before, y, after, rfl, List.forall_mem_cons.mpr ⟨hx, hbefore⟩, hy⟩
      · exact .inr ⟨[], x, xs, rfl, List.forall_mem_nil _, hx⟩

/-- An item on the right of lists that are related pair by pair has a partner on the left. -/
theorem exists_mem_left_of_forall₂ {R : α → β → Prop} :
    ∀ {xs : List α} {ys : List β}, List.Forall₂ R xs ys → ∀ y ∈ ys, ∃ x ∈ xs, R x y := by
  intro xs ys h
  induction h with
  | nil => intro y hy; exact absurd hy List.not_mem_nil
  | cons hab _ ih =>
      intro y hy
      rcases List.mem_cons.mp hy with rfl | hy
      · exact ⟨_, List.mem_cons_self, hab⟩
      · obtain ⟨x, hx, hxy⟩ := ih y hy
        exact ⟨x, List.mem_cons_of_mem _ hx, hxy⟩

namespace Build

/-! ## Outcomes of builds -/

/-- The outcome of a build: what is left of its run without the records. -/
def outcome (x : Build α) (c : Context) : Except Fault α := (x.run c).outcome

@[simp] theorem outcome_pure (a : α) (c : Context) : (pure a : Build α).outcome c = .ok a := rfl

@[simp] theorem outcome_lift (x : Except Fault α) (c : Context) : (lift x).outcome c = x := rfl

@[simp] theorem outcome_liftM (x : Except Fault α) (c : Context) :
    (liftM x : Build α).outcome c = x := rfl

@[simp] theorem outcome_refuse (e : BuildError) (c : Context) :
    (refuse e : Build α).outcome c = .error (.build e) := rfl

@[simp] theorem outcome_note (logger : String) (severity : Log.Severity) (message : String)
    (c : Context) : (note logger severity message).outcome c = .ok () := rfl

@[simp] theorem outcome_context (c : Context) : context.outcome c = .ok c := rfl

@[simp] theorem outcome_settings (property : String) (c : Context) :
    (settings property).outcome c = Settings.ofValue property c.active := rfl

/-- The outcome of two builds in a row is that of their outcomes in a row. -/
@[simp] theorem outcome_bind (x : Build α) (f : α → Build β) (c : Context) :
    (x >>= f).outcome c = x.outcome c >>= fun a => (f a).outcome c := by
  show (andThen (x.run c) fun a => (f a).run c).outcome = _
  match h : x.run c with
  | ⟨.error e, rs⟩ => simp [outcome, h, Bind.bind, Except.bind]
  | ⟨.ok a, rs⟩ => simp [outcome, h, Bind.bind, Except.bind]

/-- Builds in a row end as their outcomes in a row do. -/
@[simp] theorem outcome_mapM (f : α → Build β) (c : Context) :
    ∀ xs : List α, (xs.mapM f).outcome c = xs.mapM fun x => (f x).outcome c := by
  intro xs
  induction xs with
  | nil => rw [List.mapM_nil, List.mapM_nil]; rfl
  | cons x xs ih =>
      rw [List.mapM_cons, List.mapM_cons, outcome_bind]
      refine congrArg _ (funext fun y => ?_)
      rw [outcome_bind, ih]
      rfl

/-! ## Properties that are kept by steps -/

/-- A property that is kept by the steps that read a description: results, outcomes, refusals,
records of debugging and builds in a row. -/
structure StepClosed (P : ∀ {α : Type}, Build α → Prop) : Prop where
  pure : ∀ {α : Type} (a : α), P (Pure.pure a : Build α)
  liftM : ∀ {α : Type} (x : Except Fault α), P (MonadLiftT.monadLift x : Build α)
  refuse : ∀ {α : Type} (e : BuildError), P (Build.refuse e : Build α)
  debug : ∀ logger message : String, P (Build.note logger .debug message)
  bind : ∀ {α β : Type} {x : Build α} {f : α → Build β}, P x → (∀ a, P (f a)) → P (x >>= f)

/-- A property that is kept by steps and by any record on an input of a clause. -/
structure ClauseClosed (P : ∀ {α : Type}, Build α → Prop) : Prop extends StepClosed P where
  onClauses : ∀ (severity : Log.Severity) (message : String),
    P (Build.note Log.Channel.clauses severity message)

/-! ## Builds that look at no context -/

/-- A build that runs alike in every context. -/
def ContextFree (x : Build α) : Prop := ∀ c c', x.run c = x.run c'

namespace ContextFree

theorem pure (a : α) : ContextFree (Pure.pure a : Build α) := fun _ _ => rfl

theorem liftM (x : Except Fault α) : ContextFree (MonadLiftT.monadLift x : Build α) :=
  fun _ _ => rfl

theorem refuse (e : BuildError) : ContextFree (Build.refuse e : Build α) := fun _ _ => rfl

theorem note (logger : String) (severity : Log.Severity) (message : String) :
    ContextFree (Build.note logger severity message) := fun _ _ => rfl

/-- Two builds in a row look at no context where neither does. -/
theorem bind {x : Build α} {f : α → Build β} (hx : ContextFree x)
    (hf : ∀ a, ContextFree (f a)) : ContextFree (x >>= f) := by
  intro c c'
  rw [run_bind, run_bind, hx c c']
  exact congrArg _ (funext fun a => hf a c c')

theorem stepClosed : StepClosed ContextFree := ⟨pure, liftM, refuse, (note · .debug ·), bind⟩

theorem clauseClosed : ClauseClosed ContextFree := ⟨stepClosed, note Log.Channel.clauses⟩

end ContextFree

end Build

end SqlText
