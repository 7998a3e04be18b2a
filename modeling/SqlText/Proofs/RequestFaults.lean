import SqlText.Proofs.Diagnostics
import SqlText.Statement.Request

/-!
# Faults of requests — the failures that a request does not answer

    (Statement.request kind options).outcome c  =  .error (.noAttribute "int" "items")

A request answers a value of the wrong kind with a refusal that names the verb, and hands on
every other fault of its statement as it is. Most of these are refusals themselves. What is
left comes from parts that stray: a part that is asked for a property which it does not have,
a pair of another number of items, a column that has no place in an ordering, or settings that
are none.

* **`Statement.Strays`**: the parts of a statement that stray, and what they end in.
* **`Statement.faultsIn_text`**: every other fault of a statement is answered.
* **`Statement.ne_request_of_text`**: no statement refuses a request by itself.
* **`Statement.request_unanswered_iff`**: the requests that fail without a refusal.
* **`Statement.requests_unanswered`**: one request for each kind of part that strays.
-/

namespace SqlText

open Fault (Malformed MalformedOr OfJoin)

variable {α : Type} {c : Context}

/-! ## Faults that are answered -/

namespace Fault

/-- A refusal by the rules of statement building. -/
def IsRefusal (e : Fault) : Prop := ∃ b, e = .build b

/-- The faults that a request answers: refusals, and values of the wrong kind. -/
inductive Answered : Fault → Prop where
  | build (e : BuildError) : Answered (.build e)
  | type (e : TypeFault) : Answered (.type e)

/-- The faults in which a statement ends by itself and that a request answers: refusals of
anything but a request, and values of the wrong kind. -/
inductive Own : Fault → Prop where
  | build {e : BuildError} (h : ∀ cause, e ≠ .request cause) : Own (.build e)
  | type (e : TypeFault) : Own (.type e)

theorem IsRefusal.answered {e : Fault} (h : e.IsRefusal) : e.Answered := by
  obtain ⟨b, rfl⟩ := h
  exact .build b

theorem Own.answered {e : Fault} (h : e.Own) : e.Answered := by
  cases h with
  | build _ => exact .build _
  | type e => exact .type e

theorem Malformed.own {e : Fault} (h : e.Malformed) : e.Own := by
  cases h with
  | specification cause => exact .build nofun
  | literal cause => exact .build nofun
  | notIterable type => exact .type _
  | notJoinable => exact .type _
  | joinItem index type => exact .type _
  | notUnpackable type => exact .type _
  | hash _ => exact .type _

theorem OfJoin.own {e : Fault} (h : e.OfJoin) : e.Own := by
  cases h with
  | malformed h => exact h.own
  | joinSpec found shorthand => exact .build nofun

theorem Stray.not_answered {e : Fault} (h : e.Stray) : ¬ e.Answered := by
  intro ha
  cases h with
  | noAttribute type _ => exact nomatch ha
  | value e => exact nomatch ha

end Fault

open Fault (Answered)

/-! ## Faults that are handled -/

/-- An outcome in which a type fault is replaced by another outcome. -/
def handled (handler : TypeFault → Except Fault α) : Except Fault α → Except Fault α
  | .error (.type f) => handler f
  | outcome          => outcome

theorem Build.outcome_onTypeFault (x : Build α) (handler : TypeFault → Build α) (c : Context) :
    (onTypeFault x handler).outcome c = handled (fun f => (handler f).outcome c) (x.outcome c) := by
  show (onTypeFault x handler c).outcome = handled _ (x c).outcome
  rw [onTypeFault]
  split
  · rename_i h
    rw [h]
    rfl
  · rename_i h
    rw [handled]
    exact h

/-- Where type faults are replaced by refusals, a fault that is none was there before and is
not answered. -/
theorem handled_unanswered_iff {handler : TypeFault → Except Fault α}
    (hrefused : ∀ f, ∃ b, handler f = .error (.build b)) {x : Except Fault α} {e : Fault} :
    handled handler x = .error e ∧ ¬ e.IsRefusal ↔ x = .error e ∧ ¬ e.Answered := by
  constructor
  · rintro ⟨h, hnot⟩
    -- a type fault was replaced by a refusal, and every other fault is still there
    match x with
    | .error (.type f) =>
        obtain ⟨b, hb⟩ := hrefused f
        exact absurd ⟨b, Except.error.inj (h.symm.trans hb)⟩ hnot
    | .ok a => exact nomatch h
    | .error (.build b) => exact absurd ⟨b, (Except.error.inj h).symm⟩ hnot
    | .error (.noAttribute ..) | .error (.value _) | .error (.configuration _)
    | .error (.file _) | .error .invalidOperation =>
        refine ⟨h, ?_⟩
        rw [← Except.error.inj h]
        exact fun ha => nomatch ha
  · rintro ⟨rfl, hnot⟩
    refine ⟨?_, fun h => hnot h.answered⟩
    rw [handled]
    rintro f hf
    exact hnot (Except.error.inj hf ▸ .type f)

/-! ## Parts that stray -/

/-- Settings that stray: a value that is none, asked for one of its fields, or a greatest
length that is no number. -/
inductive Context.Strays (c : Context) : Fault → Prop where
  | notSettings {property : String} (h : ∀ st, c.active ≠ .settings st)
      (hproperty : property ∈ ["strict_select", "log_statements"]) :
      Strays c (.noAttribute c.active.typeName property)
  | notANumber {st : Settings} (h : c.active = .settings st)
      (hnan : st.maxLoggedLength.isDecimalNaN = true) : Strays c .invalidOperation

/-- Rows that stray: one has a column without a place in an ordering. -/
inductive Insert.Strays (s : Insert) : Fault → Prop where
  | columns {rows : List (List (Value × Value))} {row : List (Value × Value)}
      (hrows : rowsOfValue s.rows = .ok rows) (hrow : row ∈ rows)
      (h : sorted (keys row) = .error .invalidOperation) : Strays s .invalidOperation

namespace Statement

/-- The joins of a statement, none for an INSERT. -/
def joins : Statement → Value
  | select s => s.joins
  | insert _ => .null
  | update s => s.joins
  | delete s => s.joins

/-- The parts of a statement that stray in a context, and what each ends in. -/
inductive Strays (c : Context) : Statement → Fault → Prop where
  | select {s : Select} {e : Fault} (h : s.Strays e) : Strays c (.select s) e
  | insert {s : Insert} {e : Fault} (h : s.Strays e) : Strays c (.insert s) e
  | update {s : Update} {e : Fault} (h : s.Strays e) : Strays c (.update s) e
  | delete {s : Delete} {e : Fault} (h : OrderBy.Strays s.ordering e) : Strays c (.delete s) e
  | joins {s : Statement} {e : Fault} (h : Join.ChainStrays c s.joins e) : Strays c s e
  | settings {s : Statement} {e : Fault} (h : c.Strays e) : Strays c s e

/-- No part that strays ends in a fault that is answered. -/
theorem Strays.not_answered {s : Statement} {e : Fault} (h : s.Strays c e) : ¬ e.Answered := by
  cases h with
  | select h => exact h.stray.not_answered
  | update h => exact h.stray.not_answered
  | delete h => exact h.stray.not_answered
  | insert h =>
      cases h with
      | columns _ _ _ => exact fun ha => nomatch ha
  | joins h =>
      obtain ⟨-, -, -, h⟩ := h
      cases h with
      | kind h => cases h with | upper _ _ => exact fun ha => nomatch ha
      | operator _ h => cases h with | upper _ _ => exact fun ha => nomatch ha
  | settings h =>
      cases h with
      | notSettings _ _ => exact fun ha => nomatch ha
      | notANumber _ _ => exact fun ha => nomatch ha

/-- A fault in which a statement ends by itself, or that of a part that strays. -/
def OwnOrStray (c : Context) (s : Statement) (e : Fault) : Prop := e.Own ∨ s.Strays c e

/-! ## Faults of statements -/

/-- The fault of a malformed part is the statement's own, and that of one that strays is what
it is. -/
theorem ownOrStray_of_malformedOr {s : Statement} {S : Fault → Prop}
    (hS : ∀ e, S e → s.Strays c e) (e : Fault) (h : MalformedOr S e) : s.OwnOrStray c e :=
  h.imp Malformed.own (hS e)

theorem faultsIn_joins (s : Statement) :
    FaultsIn (s.OwnOrStray c) ((Join.chain s.joins).outcome c) :=
  (Join.faultsIn_chain s.joins).mono fun _ h => h.imp OfJoin.own .joins

theorem faultsIn_recorded {s : Statement} {x : Build String} (logger verb : String)
    (h : FaultsIn (s.OwnOrStray c) (x.outcome c)) :
    FaultsIn (s.OwnOrStray c) ((recorded logger verb x).outcome c) := by
  refine .outcome_bind h fun sql => .outcome_bind ?_ fun _ => trivial
  refine (faultsIn_reportBuilt logger verb sql).mono fun e he => ?_
  cases he with
  | settings h => exact .inr (.settings (.notSettings h (by decide)))
  | notANumber h hnan => exact .inr (.settings (.notANumber h hnan))
  | limit type => exact .inl (.type _)
  | cut => exact .inl (.type _)

/-- A guard refuses a statement, unless it asks a value that is no settings for the mode. -/
theorem ownOrStray_of_guardFaults {s : Statement} (e : Fault) (h : c.GuardFaults e) :
    s.OwnOrStray c e := by
  cases h with
  | missing field statement note => exact .inl (.build nofun)
  | malformed h => exact .inl h.own
  | settings h => exact .inr (.settings (.notSettings h (by decide)))

theorem faultsIn_update (s : Update) :
    FaultsIn ((update s).OwnOrStray c) (s.text.outcome c) := by
  rw [Update.text_eq]
  refine .outcome_bind ((faultsIn_requireBoth _ _ _).mono ownOrStray_of_guardFaults)
    fun _ => ?_
  refine faultsIn_recorded _ _ (Update.faultsIn_clauses ?_ (faultsIn_joins (.update s)))
  exact ownOrStray_of_malformedOr fun _ => .update

theorem faultsIn_delete (s : Delete) :
    FaultsIn ((delete s).OwnOrStray c) (s.text.outcome c) := by
  rw [Delete.text_eq]
  refine .outcome_bind ((faultsIn_requireBoth _ _ _).mono ownOrStray_of_guardFaults)
    fun _ => ?_
  refine faultsIn_recorded _ _ (Delete.faultsIn_clauses ?_ (faultsIn_joins (.delete s)))
  exact ownOrStray_of_malformedOr fun _ => .delete

theorem faultsIn_select (s : Select) :
    FaultsIn ((select s).OwnOrStray c) (s.text.outcome c) := by
  rw [Select.text_eq]
  refine .outcome_bind (s.faultsIn_guard.mono ownOrStray_of_guardFaults) fun given => ?_
  refine faultsIn_recorded _ _ ?_
  refine Select.faultsIn_clauses ?_ (faultsIn_joins (.select s)) _ _
  exact ownOrStray_of_malformedOr fun _ => .select

/-- The rows of an INSERT are compared without any fault but those that are answered, where
no column strays. -/
theorem faultsIn_insert_rows {s : Insert} {first : List (Value × Value)}
    {rest : List (List (Value × Value))} (hrows : Insert.rowsOfValue s.rows = .ok (first :: rest)) :
    FaultsIn ((insert s).OwnOrStray c)
      ((Insert.reportRows (Insert.keys first) 1 rest).outcome c) := by
  have hsorted : ∀ row ∈ first :: rest,
      FaultsIn ((insert s).OwnOrStray c) (sorted (Insert.keys row)) := by
    intro row hrow
    refine .of_forall fun e he => ?_
    cases (faultsIn_sorted (Insert.keys row)).of_error he with
    | notOrdered left right => exact .inl (.type _)
    | mixedOffsets => exact .inl (.type _)
    | mixedDates => exact .inl (.type _)
    | invalidOperation => exact .inr (.insert (.columns hrows hrow he))
  exact Insert.faultsIn_reportRows (hsorted first List.mem_cons_self)
    (fun row hrow => hsorted row (List.mem_cons_of_mem first hrow)) 1

theorem faultsIn_insert (s : Insert) :
    FaultsIn ((insert s).OwnOrStray c) (s.text.outcome c) := by
  rw [Insert.text_eq]
  -- the rows that are compared are those that were given, so a column that strays is one of them
  have hgiven := s.faultsIn_givenRows.mono (ownOrStray_of_guardFaults (s := insert s) (c := c))
  refine .outcome_bind_of (Ends.self hgiven) fun rows hrows => faultsIn_recorded _ _ ?_
  refine Insert.faultsIn_clauses (fun _ h => .inl h.own) ?_ s
  exact faultsIn_insert_rows (Insert.givenRows_ok hrows).1

/-- Whatever ends a statement is its own fault, or comes from a part that strays. -/
theorem ownFaults_text (s : Statement) : FaultsIn (s.OwnOrStray c) (s.text.outcome c) := by
  cases s with
  | select s => exact faultsIn_select s
  | insert s => exact faultsIn_insert s
  | update s => exact faultsIn_update s
  | delete s => exact faultsIn_delete s

/-- Whatever ends a statement is answered by its request, or comes from a part that strays. -/
theorem faultsIn_text (s : Statement) :
    FaultsIn (fun e => e.Answered ∨ s.Strays c e) (s.text.outcome c) :=
  s.ownFaults_text.mono fun _ h => h.imp Fault.Own.answered id

/-- No statement refuses a request: that is left to the request. -/
theorem ne_request_of_text {s : Statement} {cause : BadRequest} :
    s.text.outcome c ≠ .error (.build (.request cause)) := by
  intro h
  rcases s.ownFaults_text.of_error h with hown | hstray
  · cases hown with
    | build hnot => exact hnot cause rfl
  · exact hstray.not_answered (.build _)

/-! ## Requests -/

/-- Options are refused for their names alone. -/
theorem faultsIn_assign (builder : String) :
    ∀ (options : List (String × Value)) (s : Statement),
      FaultsIn (fun e => ∃ f, e = .type f) (assign builder s options) := by
  intro options
  induction options with
  | nil => intro s; trivial
  | cons option options ih =>
      intro s
      unfold assign
      split
      · exact ih _
      · exact ⟨_, rfl⟩

/-- A request for a verb ends in no fault but a refusal, unless its statement ends in one that
is not answered. -/
theorem ofVerb_unanswered_iff (verb : Verb) (options : List (String × Value)) (e : Fault) :
    (ofVerb verb options).outcome c = .error e ∧ ¬ e.IsRefusal ↔
      ∃ s, ofOptions verb options = .ok s ∧ s.text.outcome c = .error e ∧ ¬ e.Answered := by
  rw [ofVerb, Build.outcome_onTypeFault]
  refine (handled_unanswered_iff fun f => ⟨.request (.invalidOptions verb f), rfl⟩).trans ?_
  rw [Build.outcome_bind, Build.outcome_liftM]
  cases hoptions : ofOptions verb options with
  | error e' =>
      obtain ⟨f, rfl⟩ := (faultsIn_assign _ options (blank verb)).of_error hoptions
      constructor
      · rintro ⟨h, hnot⟩
        exact absurd (Except.error.inj h ▸ .type f) hnot
      · rintro ⟨s, hs, -⟩
        exact nomatch hs
  | ok s =>
      rw [ok_bind]
      exact ⟨fun h => ⟨s, rfl, h⟩, fun ⟨_, hs, h⟩ => Except.ok.inj hs ▸ h⟩

/-- A request fails without a refusal exactly where it names a verb, its options are taken, and
the statement that they make up ends in the fault of a part that strays: a part without a
property that it is asked for, a pair of another number of items, a column without a place in
an ordering, or settings that are none. -/
theorem request_unanswered_iff (c : Context) (kind : Value) (options : List (String × Value))
    (e : Fault) :
    (request kind options).outcome c = .error e ∧ ¬ e.IsRefusal ↔
      ∃ verb s, Verb.named? (Text.upper (Text.strip kind.display)) = some verb ∧
        ofOptions verb options = .ok s ∧ s.text.outcome c = .error e ∧ s.Strays c e := by
  rw [request]
  cases hverb : Verb.named? (Text.upper (Text.strip kind.display)) with
  | none =>
      constructor
      · rintro ⟨h, hnot⟩
        exact absurd ⟨_, (Except.error.inj h).symm⟩ hnot
      · rintro ⟨_, _, h, -⟩
        exact nomatch h
  | some verb =>
      rw [ofVerb_unanswered_iff]
      constructor
      · rintro ⟨s, hs, he, hnot⟩
        exact ⟨verb, s, rfl, hs, he, (s.faultsIn_text.of_error he).resolve_left hnot⟩
      · rintro ⟨_, s, hverb, hs, he, hstrays⟩
        rw [← Option.some.inj hverb] at hs
        exact ⟨s, hs, he, hstrays.not_answered⟩

/-- A request that ends in a fault which is no refusal. -/
def Unanswered (kind : String) (options : List (String × Value)) (e : Fault) : Prop :=
  (request (.text kind) options).outcome {} = .error e ∧ ¬ e.IsRefusal

/-- Requests fail without a refusal for each kind of part that strays: a group of assignments
that is no mapping, columns that are no groups, an ordering of something else than keys, calls
of another number of items than two, and a join whose kind has no upper case. -/
theorem requests_unanswered :
    Unanswered "update"
        [("table", .text "t"), ("where", .text "x"), ("update_data", .int 5)]
        (.noAttribute "int" "items") ∧
      Unanswered "select"
        [("table", .text "t"), ("columns", .columns (.tables (.tuple [.text "a"])))]
        (.noAttribute "str" "is_extra") ∧
      Unanswered "select"
        [("table", .text "t"), ("sort", .orderBy (.keys (.tuple [.text "a"])))]
        (.noAttribute "str" "table") ∧
      Unanswered "select"
        [("table", .text "t"),
          ("aggregates", .list [.aggregate ⟨.tuple [.text "SUM"], .null⟩])]
        (.value .tooManyItems) ∧
      Unanswered "delete"
        [("table", .text "t"), ("where", .text "x"),
          ("joins", .list [.join (.explicit (.text "u") (.text "c") (.int 5))])]
        (.noAttribute "int" "upper") := by
  refine ⟨⟨rfl, ?_⟩, ⟨rfl, ?_⟩, ⟨rfl, ?_⟩, ⟨rfl, ?_⟩, ⟨rfl, ?_⟩⟩
  all_goals exact fun ⟨_, h⟩ => nomatch h

end Statement

end SqlText
