import SqlText.Proofs.Composition

/-!
# Error records — the refusals of which a statement makes a record

    (s.text.run c).records  =  rest ++ [r],   where the refusal e has  e.ReportedBy r

A statement that is refused for a missing input, or for a join without a usable relation, ends
with an error among its records, and that is the last one. It makes no other error: neither
before such a refusal, nor where it is built, nor where it is refused for anything else. An
unsupported shape and a value without a literal are refused without any error.

* **`Run.Discloses`**: an error is made of what the run is refused for, and only then.
* **`Statement.discloses`**: so it is with every statement in every context.
* **`Statement.refused_without_error`**: refusals without an error.
-/

namespace SqlText

open Build (KeptBySteps)
open Log.Severity (debug_ne_error)

variable {α β : Type}

/-- A run that ends in a refusal which is reported, with an error of it as its last record and
no other, or a run that ends otherwise and makes no error. -/
inductive Run.Discloses : Run α → Prop where
  | refused {e : BuildError} {r : Log.Record} {rest : List Log.Record} (h : e.ReportedBy r)
      (hrest : ∀ r' ∈ rest, r'.severity ≠ .error) : Discloses ⟨.error (.build e), rest ++ [r]⟩
  | silent {outcome : Except Fault α} {records : List Log.Record}
      (h : FaultsIn Fault.Silent outcome) (hrecords : ∀ r ∈ records, r.severity ≠ .error) :
      Discloses ⟨outcome, records⟩

/-- A build whose every run discloses what it is refused for. -/
def Build.Disclosing (x : Build α) : Prop := ∀ c, (x.run c).Discloses

namespace Build.Disclosing

/-- A build without records that ends in no refusal which is reported. -/
theorem of_silent {x : Build α} (h : ∀ c, FaultsIn Fault.Silent (x.outcome c))
    (hrecords : ∀ c, (x.run c).records = []) : Disclosing x := by
  intro c
  have hnone : ∀ r ∈ (x.run c).records, r.severity ≠ .error := by
    intro r hr
    rw [hrecords c] at hr
    exact nomatch hr
  exact .silent (h c) hnone

theorem remark {r : Log.Record} (h : r.severity ≠ .error) : Disclosing (noteRecord r) := by
  intro c
  refine .silent trivial fun r' hr' => ?_
  rw [List.mem_singleton.mp hr']
  exact h

theorem refused {e : BuildError} {r : Log.Record} (h : e.ReportedBy r) :
    Disclosing (noteRecord r >>= fun _ => (refuse e : Build α)) := by
  intro c
  have hrest : ∀ r' ∈ ([] : List Log.Record), r'.severity ≠ .error := fun _ hr' => nomatch hr'
  exact .refused h hrest

theorem settings (property : String) : Disclosing (Build.settings property) := by
  refine of_silent (fun c => ?_) fun _ => rfl
  rw [outcome_settings]
  unfold Settings.ofValue
  split <;> trivial

/-- The second of two builds in a row discloses what both are refused for, for the first made
no error where it has a result. -/
theorem bind {x : Build α} {f : α → Build β} (hx : Disclosing x) (hf : ∀ a, Disclosing (f a)) :
    Disclosing (x >>= f) := by
  intro c
  have hfirst := hx c
  rw [run_bind]
  generalize x.run c = first at hfirst ⊢
  cases hfirst with
  | refused h hrest => exact .refused h hrest
  | @silent outcome records h hrecords =>
      cases outcome with
      | error e => exact .silent h hrecords
      | ok a =>
          have hsecond := hf a c
          rw [andThen_ok]
          generalize (f a).run c = second at hsecond ⊢
          -- the records of the first come before the error of the second
          cases hsecond with
          | refused h' hrest =>
              rw [← List.append_assoc]
              exact .refused h' (List.forall_mem_append.mpr ⟨hrecords, hrest⟩)
          | silent h' hrecords' =>
              exact .silent h' (List.forall_mem_append.mpr ⟨hrecords, hrecords'⟩)

theorem keptBySteps (R : Log.Record → Prop) : KeptBySteps R Disclosing where
  pure _ := of_silent (fun _ => trivial) fun _ => rfl
  read h := of_silent (fun _ => h) fun _ => rfl
  remark _ h := remark h
  refused _ h := refused h
  bind := bind

/-- The record of a statement is no error, and what refuses it is reported by none. -/
theorem recorded {x : Build String} (hx : Disclosing x) (logger verb : String) :
    Disclosing (Statement.recorded logger verb x) := by
  refine Statement.recorded_of_kept (keptBySteps fun _ => True) (settings _) ?_ (fun shown => ?_) hx
  · exact of_silent (fun _ => trivial) fun _ => rfl
  · exact remark (r := ⟨logger, .debug, _⟩) debug_ne_error

end Build.Disclosing

namespace Statement

/-- In every context, a statement that is refused for a missing input or a join without a
usable relation makes one error, of that refusal and as its last record, and a statement that
is built, or refused for anything else, makes none. -/
theorem discloses (c : Context) (s : Statement) : (s.text.run c).Discloses := by
  have hsteps := Build.Disclosing.keptBySteps fun r => IsRemark r.message
  have hsource : ∀ (s : Select) (source : Value), Build.Disclosing (s.checkSource source) :=
    Select.checkSource_of_kept hsteps (.settings _)
  rw [text_eq]
  exact (compose_of_kept hsteps hsource s).recorded _ _ c

/-! ## Refusals without an error -/

/-- A statement that is refused and makes no record at all. -/
def RefusedUnrecorded (s : Statement) (e : BuildError) : Prop :=
  s.text.run {} = ⟨.error (.build e), []⟩

/-- Joins of an unsupported shape, a row that is no mapping, and a value without a literal
refuse a statement without a record. -/
theorem refused_without_error :
    RefusedUnrecorded
        (.delete { table := .text "t", condition := .text "x", joins := .text "u" })
        (.specification (.joins "str")) ∧
      RefusedUnrecorded
        (.insert { table := .text "t", rows := .list [.mapping [(.text "a", .int 1)], .int 2] })
        (.specification (.insertRow 1 "int")) ∧
      RefusedUnrecorded
        (.insert { table := .text "t", rows := .mapping [(.text "a", .bytes [0])] })
        (.literal (.noForm (.bytes [0]))) :=
  ⟨rfl, rfl, rfl⟩

end Statement

end SqlText
