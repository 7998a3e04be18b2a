import SqlText.Proofs.Composition
import SqlText.Proofs.ExactOrder
import SqlText.Proofs.OptionNames
import SqlText.Session

/-!
# Built records — what is recorded as built is what is returned

    records  =  rest ++ [s.verb.builtRecord st.limit sql]

Where the settings ask for it and the loggers let it through, a call that gives a statement
ends with the record of that statement, and no other record of the call has its form. The
record shows the statement as it is up to the greatest length that the settings give, and
what is longer cut there, with three points after it. A call that is refused makes no such
record, and under settings that do not ask for one no call does.

* **`Statement.shortened_eq`**: how settings that are accepted cut a statement.
* **`Told`**: the records of a call, with those of its result at their end.
* **`Statement.told_text`**, **`Statement.told_request`**, **`Statement.told_ofMapping`**: the
  three ways to ask for a statement.
* **`Session.built_records`**: what the loggers let through.
-/

namespace SqlText

variable {α : Type} {c : Context} {st : Settings}

/-! ## Statements that are cut -/

/-- A statement as it is up to a number of characters, and a longer one cut there, with three
points after it. -/
def cutTo (limit : Nat) (sql : String) : String :=
  if sql.length ≤ limit then sql else String.ofList (sql.toList.take limit) ++ "..."

/-- The record of a built statement. -/
def Verb.builtRecord (verb : Verb) (limit : Nat) (sql : String) : Log.Record :=
  ⟨verb.channel, .debug, "Built " ++ verb.word ++ " statement: " ++ cutTo limit sql⟩

/-- The greatest length of a recorded statement, where that is a whole number. -/
def Settings.limit (st : Settings) : Nat :=
  match st.maxLoggedLength with
  | .int n  => n.toNat
  | .bool b => b.toNat
  | _       => 0

/-- A whole number that is accepted as a length is positive. -/
theorem Settings.pos_of_validated (h : st.validated = .ok st) {n : Int}
    (hn : st.maxLoggedLength = .int n) : 0 < n := by
  rw [validated, hn] at h
  obtain ⟨_, -, h⟩ := bind_eq_ok_iff.mp h
  obtain ⟨b, hb, h⟩ := bind_eq_ok_iff.mp h
  cases b with
  | true => exact nomatch h
  | false =>
      rw [notPositive_int] at hb
      exact not_le.mp (of_decide_eq_false (Except.ok.inj hb))

/-- A statement fits under the greatest length of settings that are accepted where it has no
more characters. -/
theorem Statement.fits_eq (hst : st.maxLoggedLength.IsWhole) (hvalid : st.validated = .ok st)
    (length : Nat) : fits length st.maxLoggedLength = .ok (decide (length ≤ st.limit)) := by
  rw [Settings.limit]
  rcases hst with ⟨n, hn⟩ | ⟨b, hb⟩
  · have hpos := Settings.pos_of_validated hvalid hn
    rw [hn]
    refine congrArg Except.ok (Bool.eq_iff_iff.mpr ?_)
    rw [Number.le_ofInt_iff, decide_eq_true_iff]
    show (length : Int) ≤ n ↔ length ≤ n.toNat
    omega
  · rw [hb]
    refine congrArg Except.ok (Bool.eq_iff_iff.mpr ?_)
    rw [Number.le_ofInt_iff, decide_eq_true_iff]
    cases b with
    | true => exact Int.ofNat_le
    | false => exact Int.ofNat_le

/-- Settings that are accepted cut a statement at their greatest length. -/
theorem Statement.shortened_eq (hst : st.maxLoggedLength.IsWhole) (hvalid : st.validated = .ok st)
    (sql : String) : shortened st.maxLoggedLength sql = .ok (cutTo st.limit sql) := by
  have hcut : cutLength st.maxLoggedLength = .ok st.limit := by
    rw [Settings.limit]
    rcases hst with ⟨n, hn⟩ | ⟨b, hb⟩
    · rw [hn, cutLength]
    · rw [hb]
      cases b <;> rfl
  rw [shortened, fits_eq hst hvalid, hcut, cutTo]
  by_cases h : sql.length ≤ st.limit
  · rw [if_pos h, decide_eq_true h]
    rfl
  · rw [if_neg h, decide_eq_false h]
    rfl

/-! ## Calls and their records -/

/-- The records of a call that gives the statement of a verb and ends with the records that
belong to it, or that is refused; no other record is one of a built statement. -/
inductive Told (last : Verb → String → List Log.Record) (verb? : Option Verb) :
    Except Fault String → List Log.Record → Prop where
  | built {verb : Verb} {sql : String} {rest : List Log.Record} (hverb : verb ∈ verb?)
      (h : ∀ r ∈ rest, ¬ r.IsBuilt) : Told last verb? (.ok sql) (rest ++ last verb sql)
  | refused {e : Fault} {records : List Log.Record} (h : ∀ r ∈ records, ¬ r.IsBuilt) :
      Told last verb? (.error e) records

variable {last : Verb → String → List Log.Record} {verb? : Option Verb}

namespace Told

/-- Of records that are let through, those that belong to the result are the last ones. -/
theorem filter {outcome : Except Fault String} {records : List Log.Record}
    {lets : Log.Record → Bool} (h : Told last verb? outcome records)
    (hlast : ∀ verb sql, (last verb sql).filter lets = last verb sql) :
    Told last verb? outcome (records.filter lets) := by
  have hrest : ∀ {rest : List Log.Record}, (∀ r ∈ rest, ¬ r.IsBuilt) →
      ∀ r ∈ rest.filter lets, ¬ r.IsBuilt := fun h r hr => h r (List.mem_of_mem_filter hr)
  cases h with
  | built hverb h =>
      rw [List.filter_append, hlast]
      exact .built hverb (hrest h)
  | refused h => exact .refused (hrest h)

/-- Where no record belongs to a statement, none is one of a built statement. -/
theorem not_isBuilt {outcome : Except Fault String} {records : List Log.Record}
    (h : Told (fun _ _ => []) verb? outcome records) : ∀ r ∈ records, ¬ r.IsBuilt := by
  cases h with
  | built _ h =>
      rw [List.append_nil]
      exact h
  | refused h => exact h

end Told

/-! ## Statements and requests -/

namespace Statement

/-- Composing a statement makes remarks and nothing else. -/
theorem makesOnly_compose (s : Statement) :
    Build.MakesOnly (fun r => IsRemark r.message) s.compose := by
  have hsteps : Build.KeptByRemarks (Build.MakesOnly fun r => IsRemark r.message) :=
    Build.MakesOnly.keptBySteps fun _ h => h
  exact compose_of_kept hsteps (Select.checkSource_of_kept hsteps (.of_none fun _ => rfl)) s

/-- In a context where recording a statement makes certain records, those are the last ones. -/
theorem told_text
    (h : ∀ verb sql, (reportBuilt verb.channel verb.word sql).run c = ⟨.ok (), last verb sql⟩)
    (s : Statement) : Told last (some s.verb) (s.text.run c).outcome (s.text.run c).records := by
  have hcompose := s.makesOnly_compose c
  rw [text_eq, recorded, Build.run_bind]
  generalize s.compose.run c = composed at hcompose ⊢
  have hremarks : ∀ r ∈ composed.records, ¬ r.IsBuilt := fun r hr => (hcompose r hr).not_isBuilt
  obtain ⟨e | sql, remarks⟩ := composed
  · exact .refused hremarks
  · rw [Build.andThen_ok, Build.run_bind, h, Build.andThen_ok, Build.run_pure, List.append_nil]
    exact .built rfl hremarks

/-- A type fault that is answered with a refusal and a record of it adds nothing else. -/
theorem told_onTypeFault {x : Build String} {handler : TypeFault → Build String}
    (hx : Told last verb? (x.run c).outcome (x.run c).records)
    (hhandler : ∀ f, ∃ e r, (handler f).run c = ⟨.error e, [r]⟩ ∧ ¬ r.IsBuilt) :
    Told last verb? ((Build.onTypeFault x handler).run c).outcome
      ((Build.onTypeFault x handler).run c).records := by
  show Told last verb? (Build.onTypeFault x handler c).outcome _
  rw [Build.run, Build.onTypeFault]
  split
  · rename_i f hf
    obtain ⟨e, r, hrun, hr⟩ := hhandler f
    -- what is handled is a fault, and so there is no record of a statement yet
    have hrecords : ∀ r' ∈ (x.run c).records, ¬ r'.IsBuilt := by
      rw [show (x.run c).outcome = _ from hf] at hx
      cases hx with
      | refused h => exact h
    rw [show handler f c = _ from hrun]
    exact .refused (List.forall_mem_append.mpr ⟨hrecords, List.forall_mem_singleton.mpr hr⟩)
  · exact hx

/-- A request for a verb is told of as the statement that its options make up. -/
theorem told_ofVerb
    (h : ∀ s : Statement, Told last (some s.verb) (s.text.run c).outcome (s.text.run c).records)
    (verb : Verb) (options : List (String × Value)) :
    Told last (some verb) ((ofVerb verb options).run c).outcome
      ((ofVerb verb options).run c).records := by
  refine told_onTypeFault ?_ fun f => ⟨_, _, rfl, IsRemark.not_isBuilt ?_⟩
  · cases hoptions : ofOptions verb options with
    | error e => exact .refused fun r hr => nomatch hr
    | ok s =>
        rw [← verb_of_ofOptions hoptions]
        show Told last _ ((pure s >>= text : Build String).run c).outcome
          ((pure s >>= text : Build String).run c).records
        rw [pure_bind]
        exact h s
  · have hword : IsRemark "Invalid options for " := by decide
    exact ((hword.append _).append _).append _

/-- A request is told of as the statement that it describes, or is refused. -/
theorem told_request
    (h : ∀ s : Statement, Told last (some s.verb) (s.text.run c).outcome (s.text.run c).records)
    (kind : Value) (options : List (String × Value)) :
    Told last (Verb.named? (Text.upper (Text.strip kind.display)))
      ((request kind options).run c).outcome ((request kind options).run c).records := by
  rw [request]
  cases Verb.named? (Text.upper (Text.strip kind.display)) with
  | some verb => exact told_ofVerb h verb options
  | none =>
      have hword : IsRemark "Unknown statement kind: " := by decide
      refine .refused fun r hr => ?_
      rw [List.mem_singleton.mp hr]
      exact (hword.append _).not_isBuilt

theorem told_ofMapping
    (h : ∀ s : Statement, Told last (some s.verb) (s.text.run c).outcome (s.text.run c).records)
    (kind config : Value) :
    Told last (Verb.named? (Text.upper (Text.strip kind.display)))
      ((ofMapping kind config).run c).outcome ((ofMapping kind config).run c).records := by
  have hread : ofMapping kind config =
      liftM (config.items >>= fun es => optionsOf (normalized es)) >>= request kind := by
    rw [ofMapping]
    cases config.items <;> rfl
  rw [hread]
  cases config.items >>= fun es => optionsOf (normalized es) with
  | error e => exact .refused fun r hr => nomatch hr
  | ok options =>
      show Told last _ ((pure options >>= request kind : Build String).run c).outcome
        ((pure options >>= request kind : Build String).run c).records
      rw [pure_bind]
      exact told_request h kind options

/-! ## The record of a statement -/

/-- Settings that ask for a record, and a logger that lets it through, make one. -/
theorem run_reportBuilt {logger verb sql shown : String} (hc : c.active = .settings st)
    (hon : st.logStatements = .bool true) (hlets : c.levels.lets logger .debug = true)
    (hshown : shortened st.maxLoggedLength sql = .ok shown) :
    (reportBuilt logger verb sql).run c =
      ⟨.ok (), [⟨logger, .debug, "Built " ++ verb ++ " statement: " ++ shown⟩]⟩ := by
  have hgiven : (st.logStatements.isGiven && c.levels.lets logger .debug) = true := by
    rw [hon, hlets]
    rfl
  rw [reportBuilt, report, Build.run_bind, Build.run_settings, hc, Settings.ofValue,
    Build.andThen_ok, Build.run_bind, Build.run_context, Build.andThen_ok, if_pos hgiven, hshown]
  rfl

/-- Settings that ask for no record make none. -/
theorem run_reportBuilt_of_off {logger verb sql : String} (hc : c.active = .settings st)
    (hoff : st.logStatements = .bool false) :
    (reportBuilt logger verb sql).run c = ⟨.ok (), []⟩ := by
  have hgiven : ¬ (st.logStatements.isGiven && c.levels.lets logger .debug) = true := by
    rw [hoff]
    exact Bool.false_ne_true
  rw [reportBuilt, report, Build.run_bind, Build.run_settings, hc, Settings.ofValue,
    Build.andThen_ok, Build.run_bind, Build.run_context, Build.andThen_ok, if_neg hgiven]
  rfl

end Statement

/-! ## Sessions -/

namespace Session

/-- Every call of a session for a statement has a property: by its inputs, by verb and options,
and by one mapping of options. A call by name is a call for the verb that is named, if any. -/
structure EveryCall (s : Session) (P : Option Verb → Report String → Prop) : Prop where
  statement : ∀ x : Statement, P (some x.verb) (s.perform x.text).1
  request : ∀ kind options, P (Verb.named? (Text.upper (Text.strip kind.display)))
    (s.perform (Statement.request kind options)).1
  mapping : ∀ kind config, P (Verb.named? (Text.upper (Text.strip kind.display)))
    (s.perform (Statement.ofMapping kind config)).1

theorem EveryCall.imp {s : Session} {P Q : Option Verb → Report String → Prop}
    (h : s.EveryCall P) (hPQ : ∀ verb? report, P verb? report → Q verb? report) :
    s.EveryCall Q where
  statement x := hPQ _ _ (h.statement x)
  request kind options := hPQ _ _ (h.request kind options)
  mapping kind config := hPQ _ _ (h.mapping kind config)

theorem perform_outcome (s : Session) (b : Build α) :
    (s.perform b).1.outcome = (b.run s.context).outcome := rfl

theorem perform_records (s : Session) (b : Build α) :
    (s.perform b).1.records = s.letThrough (b.run s.context).records := rfl

/-- Where recording a statement makes certain records, and these are let through, every call
is told of by them. -/
theorem everyCall_told {s : Session}
    (h : ∀ verb sql,
      (Statement.reportBuilt verb.channel verb.word sql).run s.context = ⟨.ok (), last verb sql⟩)
    (hlast : ∀ verb sql, s.letThrough (last verb sql) = last verb sql) :
    s.EveryCall fun verb? report => Told last verb? report.outcome report.records := by
  have htext := Statement.told_text h
  refine ⟨fun x => ?_, fun kind options => ?_, fun kind config => ?_⟩
  all_goals rw [perform_outcome, perform_records]
  · exact (htext x).filter hlast
  · exact (Statement.told_request htext kind options).filter hlast
  · exact (Statement.told_ofMapping htext kind config).filter hlast

/-- Under settings of their kinds that are accepted and ask for records of statements, with
loggers that let debugging through, every call that gives a statement ends with the one record
of it, cut at the greatest length, and a call that is refused makes no such record. Under
settings that ask for none, no call makes one. -/
theorem built_records {s : Session} (hactive : s.active = .settings st) :
    (st.logStatements = .bool true → st.WellTyped → st.validated = .ok st →
      (∀ verb : Verb, s.levels.lets verb.channel .debug = true) →
      s.EveryCall fun verb? report =>
        Told (fun verb sql => [verb.builtRecord st.limit sql]) verb? report.outcome
          report.records) ∧
    (st.logStatements = .bool false →
      s.EveryCall fun _ report => ∀ r ∈ report.records, ¬ r.IsBuilt) := by
  constructor
  · intro hon hst hvalid hlets
    refine everyCall_told (fun verb sql => ?_) fun verb sql => ?_
    · have hshown := Statement.shortened_eq hst.maxLoggedLength hvalid sql
      exact Statement.run_reportBuilt hactive hon (hlets verb) hshown
    · exact List.filter_eq_self.mpr fun r hr => by rw [List.mem_singleton.mp hr]; exact hlets verb
  · intro hoff
    have htold : s.EveryCall fun verb? report =>
        Told (fun _ _ => []) verb? report.outcome report.records :=
      everyCall_told (fun _ _ => Statement.run_reportBuilt_of_off hactive hoff) fun _ _ => rfl
    exact htold.imp fun _ _ => Told.not_isBuilt

/-- Settings with ten as the greatest length of a recorded statement. -/
def shortRecords : Settings := { Settings.standard with maxLoggedLength := .int 10 }

/-- A session that records statements in ten characters, with all loggers at debugging. -/
def debugging : Session where
  active := .settings shortRecords
  levels := { root := 10 }
  clock := ""

/-- A DELETE whose text is longer than that leaves its beginning in the one record of it. -/
theorem built_records_debugging :
    debugging.EveryCall (fun verb? report =>
        Told (fun verb sql => [verb.builtRecord 10 sql]) verb? report.outcome report.records) ∧
      (debugging.perform
          (Statement.delete { table := .text "t", condition := .text "x" }).text).1.records =
        [⟨"query.dml", .debug, "Built DELETE statement: DELETE t F..."⟩] := by
  refine ⟨?_, by decide +kernel⟩
  have hactive : debugging.active = .settings shortRecords := rfl
  have hst : shortRecords.WellTyped :=
    { Settings.wellTyped_standard with maxLoggedLength := .inl ⟨10, rfl⟩ }
  have hlets : ∀ verb : Verb, debugging.levels.lets verb.channel .debug = true := by
    intro verb
    cases verb <;> decide +kernel
  exact (built_records hactive).1 rfl hst rfl hlets

end Session

end SqlText
