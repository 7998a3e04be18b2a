import SqlText.Proofs.OptionNames
import SqlText.Proofs.RequestFaults

/-!
# Dispatch — what a request makes of the statement that it asks for

    Statement.Answers verb ((call verb options).run c) ((request kind options).run c)

A request that names a verb calls for the statement of that verb, and its answer is the run of
that call. One kind of call is answered otherwise: where it ends in a value of the wrong kind
and in no refusal, the request reports and refuses its options. Refusals of a shape and of a
value without a literal also show a value of the wrong kind, but a refusal is handed on as it
is. A request that names no verb is refused whatever its options are.

* **`Fault.OfWrongKind`**: faults that show a value of the wrong kind.
* **`Statement.call`**: the statement of a verb without a request for it.
* **`Statement.Answers`**: the answers of a request by the runs of the call.
* **`Statement.request_answers`**: every request is answered in this way.
-/

namespace SqlText

/-- The faults that show a value of the wrong kind: those of the kind alone, and the refusals
of a shape and of a value without a literal. -/
inductive Fault.OfWrongKind : Fault → Prop where
  | type (f : TypeFault) : OfWrongKind (.type f)
  | specification (cause : Misshape) : OfWrongKind (.build (.specification cause))
  | literal (cause : NoLiteral) : OfWrongKind (.build (.literal cause))

namespace Statement

variable {c : Context} {verb : Verb}

/-- The statement of a verb with its options, built without a request for it. -/
def call (verb : Verb) (options : List (String × Value)) : Build String := do
  (← ofOptions verb options).text

/-- The record of options that are refused for a value of the wrong kind. -/
def invalidRecord (verb : Verb) (f : TypeFault) : Log.Record :=
  ⟨Log.Channel.request, .error, "Invalid options for " ++ verb.word ++ ": " ++ f.message⟩

/-- The answer of a request for a verb, on the right, by the run of the call, on the left. -/
inductive Answers (verb : Verb) : Run String → Run String → Prop where
  | built (sql : String) (records : List Log.Record) :
      Answers verb ⟨.ok sql, records⟩ ⟨.ok sql, records⟩
  /-- The refusal of a statement is handed on; none of them is that of a request. -/
  | refused {e : BuildError} (h : ∀ cause, e ≠ .request cause) (records : List Log.Record) :
      Answers verb ⟨.error (.build e), records⟩ ⟨.error (.build e), records⟩
  /-- A value of the wrong kind is reported after all else and refused. -/
  | invalid (f : TypeFault) (records : List Log.Record) :
      Answers verb ⟨.error (.type f), records⟩
        ⟨.error (.build (.request (.invalidOptions verb f))), records ++ [invalidRecord verb f]⟩
  | other {e : Fault} (hrefusal : ¬ e.IsRefusal) (hkind : ¬ e.OfWrongKind)
      (records : List Log.Record) : Answers verb ⟨.error e, records⟩ ⟨.error e, records⟩

/-- A request is refused on its own account exactly where the call ends in a value of the wrong
kind and in no refusal. -/
theorem Answers.refused_iff {called answer : Run String} (h : Answers verb called answer) :
    (∃ cause, answer.outcome = .error (.build (.request cause))) ↔
      ∃ e, called.outcome = .error e ∧ e.OfWrongKind ∧ ¬ e.IsRefusal := by
  constructor
  · rintro ⟨cause, hcause⟩
    cases h with
    | built sql records => exact nomatch hcause
    | refused hnot records => exact absurd (Fault.build.inj (Except.error.inj hcause)) (hnot cause)
    | invalid f records => exact ⟨.type f, rfl, .type f, fun ⟨_, h⟩ => nomatch h⟩
    | other hrefusal hkind records => exact absurd ⟨_, Except.error.inj hcause⟩ hrefusal
  · rintro ⟨e, he, hkind, hrefusal⟩
    cases h with
    | built sql records => exact nomatch he
    | refused hnot records => exact absurd ⟨_, (Except.error.inj he).symm⟩ hrefusal
    | invalid f records => exact ⟨_, rfl⟩
    | other hrefusal' hkind' records =>
        rw [Except.error.inj he] at hkind'
        exact absurd hkind hkind'

/-- No call refuses a request. -/
theorem ne_request_of_call {options : List (String × Value)} {cause : BadRequest} :
    (call verb options).outcome c ≠ .error (.build (.request cause)) := by
  rw [call, Build.outcome_bind, Build.outcome_liftM]
  intro h
  cases hoptions : ofOptions verb options with
  | ok s =>
      rw [hoptions, ok_bind] at h
      exact ne_request_of_text h
  | error e =>
      obtain ⟨f, rfl⟩ := (faultsIn_assign _ options (blank verb)).of_error hoptions
      rw [hoptions] at h
      exact nomatch h

/-- A request for a verb is answered by the run of the call. -/
theorem answers_ofVerb (c : Context) (verb : Verb) (options : List (String × Value)) :
    Answers verb ((call verb options).run c) ((ofVerb verb options).run c) := by
  have hrequest : ∀ cause, ((call verb options).run c).outcome ≠ .error (.build (.request cause)) :=
    fun _ => ne_request_of_call
  show Answers verb _ (Build.onTypeFault (call verb options) _ c)
  rw [Build.onTypeFault]
  change ∀ cause, (call verb options c).outcome ≠ _ at hrequest
  show Answers verb (call verb options c) _
  generalize call verb options c = called at hrequest ⊢
  obtain ⟨outcome, records⟩ := called
  cases outcome with
  | ok sql => exact .built sql records
  | error e =>
      cases e with
      | type f => exact .invalid f records
      | build e => exact .refused (fun cause he => hrequest cause (by rw [he])) records
      | _ =>
          refine .other ?_ ?_ records
          · rintro ⟨e, ⟨⟩⟩
          · rintro ⟨⟩

/-- The first option that a statement does not take ends a call before anything is built. -/
theorem run_call_of_unknown {options : List (String × Value)} {o : String × Value}
    (h : options.find? (·.1 ∉ verb.optionNames) = some o) :
    (call verb options).run c =
      ⟨.error (.type (.unexpectedOption verb.builderName o.1)), []⟩ := by
  rw [call, ofOptions_of_unknown h]
  rfl

/-- A request for a verb refuses that option, and nothing else is recorded. -/
theorem run_ofVerb_of_unknown {options : List (String × Value)} {o : String × Value}
    (h : options.find? (·.1 ∉ verb.optionNames) = some o) :
    (ofVerb verb options).run c =
      ⟨.error (.build (.request (.invalidOptions verb (.unexpectedOption verb.builderName o.1)))),
        [invalidRecord verb (.unexpectedOption verb.builderName o.1)]⟩ := by
  have hanswers := answers_ofVerb c verb options
  rw [run_call_of_unknown h] at hanswers
  generalize (ofVerb verb options).run c = answer at hanswers ⊢
  cases hanswers with
  | invalid f records => rfl
  | other hrefusal hkind records => exact absurd (.type _) hkind

/-- A request whose kind names no verb is refused, with a record of it, whatever its options
are. Any other request is answered by the run of the call: with the same text, the same
refusal, or the same fault that is neither a refusal nor of the wrong kind. Exactly where the
call ends in a value of the wrong kind and in no refusal, the request reports that and refuses
its options, as it does for the first option that the statement does not take. -/
theorem request_answers (c : Context) (kind : Value) (options : List (String × Value)) :
    (Verb.named? (Text.upper (Text.strip kind.display)) = none →
      (request kind options).run c = ⟨.error (.build (.request (.unknownKind kind))),
        [⟨Log.Channel.request, .error, "Unknown statement kind: " ++ kind.inspect⟩]⟩) ∧
    ∀ verb, Verb.named? (Text.upper (Text.strip kind.display)) = some verb →
      Answers verb ((call verb options).run c) ((request kind options).run c) ∧
      ((∃ cause, (request kind options).outcome c = .error (.build (.request cause))) ↔
        ∃ e, (call verb options).outcome c = .error e ∧ e.OfWrongKind ∧ ¬ e.IsRefusal) ∧
      (∀ f, (BuildError.request (.invalidOptions verb f)).message =
        "Invalid options for " ++ verb.word ++ ": " ++ f.message) ∧
      ∀ o, options.find? (·.1 ∉ verb.optionNames) = some o →
        (call verb options).run c =
          ⟨.error (.type (.unexpectedOption verb.builderName o.1)), []⟩ := by
  constructor
  · intro hkind
    rw [request, hkind]
    rfl
  · intro verb hkind
    have hanswers : Answers verb ((call verb options).run c) ((request kind options).run c) := by
      rw [request, hkind]
      exact answers_ofVerb c verb options
    exact ⟨hanswers, hanswers.refused_iff, fun _ => rfl, fun _ => run_call_of_unknown⟩

/-- A request for a DELETE whose joins are a number. -/
def numberedJoins : List (String × Value) :=
  [("table", .text "t"), ("where", .text "x"), ("joins", .int 5)]

/-- Blanks and letter case of its kind aside, the request names its verb, and it refuses the
number, or before that an option of which the statement knows nothing. -/
theorem request_answers_numberedJoins :
    Verb.named? (Text.upper (Text.strip (Value.text " Delete ").display)) = some .delete ∧
      ((∃ cause, (request (.text " Delete ") numberedJoins).outcome {} =
          .error (.build (.request cause))) ↔
        ∃ e, (call .delete numberedJoins).outcome {} = .error e ∧ e.OfWrongKind ∧
          ¬ e.IsRefusal) ∧
      (call .delete numberedJoins).outcome {} = .error (.type (.notIterable "int")) ∧
      (call .delete (numberedJoins ++ [("having", .int 1)])).run {} =
        ⟨.error (.type (.unexpectedOption "build_delete" "having")), []⟩ := by
  have hkind : Verb.named? (Text.upper (Text.strip (Value.text " Delete ").display)) =
      some .delete := by decide +kernel
  refine ⟨hkind, ?_, rfl, ?_⟩
  · exact ((request_answers {} (.text " Delete ") numberedJoins).2 .delete hkind).2.1
  · exact ((request_answers {} (.text " Delete ") (numberedJoins ++ [("having", .int 1)])).2 .delete
      hkind).2.2.2 ("having", .int 1) rfl

end Statement

end SqlText
