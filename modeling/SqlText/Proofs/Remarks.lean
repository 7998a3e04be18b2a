import SqlText.Proofs.InputFaults
import SqlText.Verb

/-!
# Remarks — which records a build makes, and what its steps keep

    Build.KeptBySteps (IsRemark ·.message) P   and   P x,   P (f a)   give   P (x >>= f)

Every record of a build that composes a statement is a remark: its message begins with another
word than that of a built statement. A remark is an error only where it reports a refusal, and
then the refusal follows at once. Two kinds of refusals are reported in this way, that of a
missing input and that of a join without a usable relation. All other faults come without a
record of their own, from whatever reads an input.

* **`Log.Record.IsBuilt`**, **`IsRemark`**: records of built statements, and all the others.
* **`BuildError.ReportedBy`**, **`Fault.Silent`**: refusals with and without a record.
* **`Build.KeptBySteps`**: a property that is kept by every step of a build.
* **`Build.MakesOnly`**: builds all of whose records have a property.
-/

namespace SqlText

/-! ## Messages -/

/-- The channel that reports on the statements of a verb. -/
def Verb.channel : Verb → String
  | .select => Log.Channel.selection
  | _       => Log.Channel.change

/-- A record of a built statement, by the form of its message. -/
def Log.Record.IsBuilt (r : Log.Record) : Prop :=
  ∃ (verb : Verb) (shown : String), r.message = "Built " ++ verb.word ++ " statement: " ++ shown

/-- A message that begins with another word than that of a built statement. -/
def IsRemark (message : String) : Prop :=
  5 ≤ message.toList.length ∧ message.toList.take 5 ≠ "Built".toList

instance (message : String) : Decidable (IsRemark message) :=
  inferInstanceAs (Decidable (_ ∧ _))

/-- A message is known by its beginning. -/
theorem IsRemark.append {message : String} (h : IsRemark message) (rest : String) :
    IsRemark (message ++ rest) := by
  rw [IsRemark, String.toList_append, List.length_append, List.take_append_of_le_length h.1]
  exact ⟨Nat.le_add_right_of_le h.1, h.2⟩

theorem IsRemark.not_isBuilt {r : Log.Record} (h : IsRemark r.message) : ¬ r.IsBuilt := by
  rintro ⟨verb, shown, hm⟩
  refine h.2 ?_
  rw [hm, String.toList_append, String.toList_append, String.toList_append, List.append_assoc,
    List.append_assoc]
  rfl

theorem Log.Severity.debug_ne_error : Severity.debug ≠ .error := by decide

theorem Log.Severity.warning_ne_error : Severity.warning ≠ .error := by decide

/-! ## Refusals with a record -/

/-- The refusals that come with a record: of missing inputs, and of joins. -/
def BuildError.IsReported : BuildError → Prop
  | missingField .. => True
  | joinSpec ..     => True
  | _               => False

/-- A fault that comes without a record of its own. -/
def Fault.Silent : Fault → Prop
  | .build e => ¬ e.IsReported
  | _        => True

/-- The record that is made of a refusal, right before it. -/
inductive BuildError.ReportedBy : BuildError → Log.Record → Prop where
  | input (verb : Verb) (field : String) :
      ReportedBy (.missing field verb.word)
        ⟨verb.channel, .error, verb.word ++ " build rejected: `" ++ field ++ "` is missing"⟩
  | rows :
      ReportedBy
        (.missingField (.text "insert_data") (.text "INSERT") (.text "Insert data is empty."))
        ⟨Log.Channel.change, .error, "INSERT build rejected: insert data is empty"⟩
  | join (es : List (Value × Value)) :
      ReportedBy (.joinSpec (.int (Join.pairs es).length) (.bool (valueAt? "type" es).isNone))
        ⟨Log.Channel.clauses, .error, "Invalid join descriptor " ++ (Value.mapping es).inspect ++
          ": found " ++ (Join.pairs es).length.repr ++ " table/column pairs"⟩

namespace BuildError.ReportedBy

variable {e : BuildError} {r : Log.Record}

theorem severity (h : e.ReportedBy r) : r.severity = .error := by
  cases h <;> rfl

theorem isRemark (h : e.ReportedBy r) : IsRemark r.message := by
  cases h with
  | input verb field =>
      have hword : IsRemark verb.word := by cases verb <;> decide
      exact ((hword.append _).append _).append _
  | rows => decide
  | join es =>
      have hword : IsRemark "Invalid join descriptor " := by decide
      exact (((hword.append _).append _).append _).append _

end BuildError.ReportedBy

theorem Fault.Malformed.silent {e : Fault} (h : e.Malformed) : e.Silent := by
  cases h with
  | specification cause => exact id
  | literal cause => exact id
  | _ => trivial

theorem Fault.Stray.silent {e : Fault} (h : e.Stray) : e.Silent := by
  cases h <;> trivial

/-- An input is read without a record of its faults. -/
theorem FaultsIn.silent {α : Type} {x : Except Fault α} (h : FaultsIn Fault.Malformed x) :
    FaultsIn Fault.Silent x := h.mono fun _ => Fault.Malformed.silent

theorem FaultsIn.silent_of_stray {α : Type} {S : Fault → Prop} {x : Except Fault α}
    (h : FaultsIn (Fault.MalformedOr S) x) (hS : ∀ e, S e → e.Stray) : FaultsIn Fault.Silent x :=
  h.mono fun e he => he.elim Fault.Malformed.silent fun hs => (hS e hs).silent

/-! ## Steps -/

namespace Build

/-- Makes a record that is there already. -/
def noteRecord (r : Log.Record) : Build Unit := note r.logger r.severity r.message

/-- A property that is kept by the steps of a build whose records have a property: by results
and by faults without a record, by records that are no errors, by refusals right after their
records, and by builds in a row. -/
structure KeptBySteps (R : Log.Record → Prop) (P : ∀ {α : Type}, Build α → Prop) : Prop where
  pure : ∀ {α : Type} (a : α), P (Pure.pure a : Build α)
  read : ∀ {α : Type} {x : Except Fault α}, FaultsIn Fault.Silent x →
    P (MonadLiftT.monadLift x : Build α)
  remark : ∀ {r : Log.Record}, R r → r.severity ≠ .error → P (noteRecord r)
  refused : ∀ {α : Type} {e : BuildError} {r : Log.Record}, R r → e.ReportedBy r →
    P (noteRecord r >>= fun _ => (refuse e : Build α))
  bind : ∀ {α β : Type} {x : Build α} {f : α → Build β}, P x → (∀ a, P (f a)) → P (x >>= f)

variable {α β : Type}

namespace KeptBySteps

variable {R R' : Log.Record → Prop} {P : ∀ {α : Type}, Build α → Prop}

/-- What more kinds of records keep, fewer keep as well. -/
theorem mono (hP : KeptBySteps R P) (h : ∀ r, R' r → R r) : KeptBySteps R' P where
  pure := hP.pure
  read := hP.read
  remark hr := hP.remark (h _ hr)
  refused hr := hP.refused (h _ hr)
  bind := hP.bind

/-- A refusal without a record. -/
theorem silent (hP : KeptBySteps R P) {e : BuildError} (h : ¬ e.IsReported) :
    P (refuse e : Build α) :=
  hP.read (show FaultsIn Fault.Silent (.error (.build e) : Except Fault α) from h)

theorem mapM (hP : KeptBySteps R P) {f : α → Build β} (hf : ∀ a, P (f a)) :
    ∀ xs : List α, P (xs.mapM f) := by
  intro xs
  induction xs with
  | nil =>
      rw [List.mapM_nil]
      exact hP.pure []
  | cons x xs ih =>
      rw [List.mapM_cons]
      exact hP.bind (hf x) fun y => hP.bind ih fun ys => hP.pure (y :: ys)

theorem whenGiven (hP : KeptBySteps R P) {v : Value} {f : Value → Build String} (hf : P (f v)) :
    P (Build.whenGiven v f) := by
  rw [Build.whenGiven]
  by_cases hv : v.isGiven
  · rw [if_pos hv]; exact hf
  · rw [if_neg hv]; exact hP.pure ""

end KeptBySteps

/-! ## Records with a property -/

/-- A build all of whose records have a property. -/
def MakesOnly (Q : Log.Record → Prop) (x : Build α) : Prop := ∀ c, ∀ r ∈ (x.run c).records, Q r

namespace MakesOnly

variable {Q : Log.Record → Prop} {x : Build α}

theorem of_none (h : ∀ c, (x.run c).records = []) : MakesOnly Q x := by
  intro c r hr
  rw [h c] at hr
  exact nomatch hr

theorem noteRecord {r : Log.Record} (h : Q r) : MakesOnly Q (noteRecord r) := by
  intro c r' hr'
  rw [List.mem_singleton.mp hr']
  exact h

/-- The records of two builds in a row are those of the first, and of the second after a
result. -/
theorem bind {f : α → Build β} (hx : MakesOnly Q x) (hf : ∀ a, MakesOnly Q (f a)) :
    MakesOnly Q (x >>= f) := by
  intro c r hr
  have hfirst := hx c
  rw [run_bind] at hr
  generalize x.run c = first at hr hfirst
  obtain ⟨e | a, rs⟩ := first
  · exact hfirst r hr
  · rcases List.mem_append.mp hr with hr | hr
    · exact hfirst r hr
    · exact hf a c r hr

theorem keptBySteps {R : Log.Record → Prop} (h : ∀ r, R r → Q r) :
    KeptBySteps R (MakesOnly Q) where
  pure _ := of_none fun _ => rfl
  read _ := of_none fun _ => rfl
  remark hr _ := noteRecord (h _ hr)
  refused hr _ := (noteRecord (h _ hr)).bind fun _ => of_none fun _ => rfl
  bind := bind

end MakesOnly

end Build

/-! ## Records of clauses -/

namespace Log.Record

/-- A remark on an input of a clause. -/
structure OnClauses (r : Log.Record) : Prop where
  logger : r.logger = Channel.clauses
  isRemark : IsRemark r.message

/-- A remark on a part of an input that is left out. -/
structure OnLeftOut (r : Log.Record) : Prop extends OnClauses r where
  severity : r.severity = .debug

end Log.Record

/-- Whatever steps keep in any case, they keep with remarks on parts that are left out. -/
theorem Build.StepClosed.keptBySteps {P : ∀ {α : Type}, Build α → Prop} (hP : StepClosed P) :
    KeptBySteps Log.Record.OnLeftOut P where
  pure := hP.pure
  read _ := hP.liftM _
  remark {r} hr _ := by
    rw [noteRecord, hr.severity]
    exact hP.debug _ _
  refused hr h := by
    have hdebug := hr.severity
    rw [h.severity] at hdebug
    exact nomatch hdebug
  bind := hP.bind

theorem Build.ClauseClosed.keptBySteps {P : ∀ {α : Type}, Build α → Prop}
    (hP : ClauseClosed P) : KeptBySteps Log.Record.OnClauses P where
  pure := hP.pure
  read _ := hP.liftM _
  remark {r} hr _ := by
    rw [noteRecord, hr.logger]
    exact hP.onClauses _ _
  refused {_ e r} hr _ := by
    rw [noteRecord, hr.logger]
    exact hP.bind (hP.onClauses _ _) fun _ => hP.refuse e
  bind := hP.bind

end SqlText
