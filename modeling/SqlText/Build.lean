import SqlText.Log.Channel
import SqlText.Log.Levels
import SqlText.Log.Record
import SqlText.Settings.Basic

/-!
# Builds — computations that read settings, report what they do, and may fail

    (x >>= f).run c  has the records of x followed by those of f

A build sees the active value, normally settings, and the levels of the loggers. It ends in
a result or a fault, and either way it leaves the records that it made, in their order. A
record is reported whatever the levels are; they decide later which records are let
through.
-/

namespace SqlText

/-- What a build may look at. -/
structure Context where
  active : Value := .settings .standard
  levels : Log.Levels := {}

/-- How a build ended, and the records it made on the way. -/
structure Run (α : Type) where
  outcome : Except Fault α
  records : List Log.Record

/-- A computation that reads a context, makes records and may fail. -/
def Build (α : Type) : Type := Context → Run α

namespace Build

/-- Runs a build in a context. -/
def run (x : Build α) (c : Context) : Run α := x c

/-- The run of one build after another: a fault of the first is that of both. -/
def andThen (x : Run α) (f : α → Run β) : Run β :=
  match x.outcome with
  | .error e => ⟨.error e, x.records⟩
  | .ok a    =>
    let s := f a
    ⟨s.outcome, x.records ++ s.records⟩

instance : Monad Build where
  pure a := fun _ => ⟨.ok a, []⟩
  bind x f := fun c => andThen (x c) fun a => f a c

/-- A result that needs no context. -/
def lift (x : Except Fault α) : Build α := fun _ => ⟨x, []⟩

instance : MonadLift (Except Fault) Build := ⟨lift⟩

/-- Ends a build with a fault. -/
def fail (e : Fault) : Build α := lift (.error e)

/-- Ends a build with a refusal. -/
def refuse (e : BuildError) : Build α := fail (.build e)

/-- What the build may look at. -/
def context : Build Context := fun c => ⟨.ok c, []⟩

/-- The active settings, of which a property is asked. -/
def settings (property : String) : Build Settings := fun c =>
  ⟨Settings.ofValue property c.active, []⟩

/-- Makes one record. -/
def note (logger : String) (severity : Log.Severity) (message : String) : Build Unit :=
  fun _ => ⟨.ok (), [⟨logger, severity, message⟩]⟩

/-- Goes on after a type fault with another build; the records of both are kept. -/
def onTypeFault (x : Build α) (handler : TypeFault → Build α) : Build α := fun c =>
  let r := x c
  match r.outcome with
  | .error (.type e) =>
    let s := handler e c
    ⟨s.outcome, r.records ++ s.records⟩
  | _ => r

/-- A segment of a statement that is left out unless its input counts as given. -/
def whenGiven (v : Value) (f : Value → Build String) : Build String :=
  if v.isGiven then f v else pure ""

/-! ## Equations of runs -/

@[simp] theorem run_pure (a : α) (c : Context) :
    (pure a : Build α).run c = ⟨.ok a, []⟩ := rfl

theorem run_bind (x : Build α) (f : α → Build β) (c : Context) :
    (x >>= f).run c = andThen (x.run c) fun a => (f a).run c := rfl

@[simp] theorem andThen_ok (a : α) (rs : List Log.Record) (f : α → Run β) :
    andThen ⟨.ok a, rs⟩ f = ⟨(f a).outcome, rs ++ (f a).records⟩ := rfl

@[simp] theorem andThen_error (e : Fault) (rs : List Log.Record) (f : α → Run β) :
    andThen (⟨.error e, rs⟩ : Run α) f = ⟨.error e, rs⟩ := rfl

@[simp] theorem run_lift (x : Except Fault α) (c : Context) : (lift x).run c = ⟨x, []⟩ := rfl

@[simp] theorem run_note (logger : String) (severity : Log.Severity) (message : String)
    (c : Context) :
    (note logger severity message).run c = ⟨.ok (), [⟨logger, severity, message⟩]⟩ := rfl

@[simp] theorem run_context (c : Context) : context.run c = ⟨.ok c, []⟩ := rfl

@[simp] theorem run_settings (property : String) (c : Context) :
    (settings property).run c = ⟨Settings.ofValue property c.active, []⟩ := rfl

/-- The identity leaves a run as it is. -/
theorem id_map_build (x : Build α) : id <$> x = x := by
  funext c
  show andThen (x c) _ = x c
  cases h : x c with
  | mk outcome records => cases outcome <;> simp [andThen, Function.comp]

/-- A build after a mere result is that build. -/
theorem pure_bind_build (a : α) (f : α → Build β) : pure a >>= f = f a := by
  funext c
  show andThen ⟨.ok a, []⟩ _ = f a c
  simp

/-- The records of three builds in a row come in the same order however they are grouped. -/
theorem bind_assoc_build (x : Build α) (f : α → Build β) (g : β → Build γ) :
    x >>= f >>= g = x >>= fun a => f a >>= g := by
  funext c
  show andThen (andThen (x c) _) _ = andThen (x c) _
  cases h : x c with
  | mk outcome records =>
      cases outcome with
      | error e => rfl
      | ok a =>
          simp only [andThen_ok]
          show andThen _ _ = _
          cases h' : f a c with
          | mk outcome' records' =>
              cases outcome' with
              | error e => simp [andThen, Bind.bind, h']
              | ok b => simp [andThen, Bind.bind, h', List.append_assoc]

instance : LawfulMonad Build :=
  LawfulMonad.mk' Build id_map_build pure_bind_build bind_assoc_build

end Build

end SqlText
