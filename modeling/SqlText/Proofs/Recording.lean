import SqlText.Proofs.Outcomes
import SqlText.Statement.Report

/-!
# Recording — what the record of a statement has to do with the statement

    (recorded logger verb x).outcome c  =  x.outcome c,  where c holds settings of their type

Every statement is recorded once it is built. The record may be cut at a length that the
settings give, and settings whose length is no whole number can refuse a statement for its
length alone. Where it is a whole number, all statements are recorded alike.

* **`exists_shortened`**: a statement can be cut at any whole number.
* **`outcome_reportBuilt`**: whether a statement is recorded does not depend on it.
* **`outcome_recorded_of_length`**: it depends on the length at most, whatever the settings are.
* **`outcome_recorded`**: recording refuses nothing where every statement can be cut.
-/

namespace SqlText

/-- A whole number; the truth values are whole numbers too. -/
def Value.IsWhole (v : Value) : Prop := (∃ n, v = .int n) ∨ ∃ b, v = .bool b

/-- Settings whose fields are of the kinds that they are declared with. -/
structure Settings.WellTyped (st : Settings) : Prop where
  logLevel : ∃ t, st.logLevel = .text t
  logFile : st.logFile = .null ∨ ∃ t, st.logFile = .text t
  logDir : ∃ t, st.logDir = .text t
  useColors : ∃ b, st.useColors = .bool b
  logStatements : ∃ b, st.logStatements = .bool b
  maxLoggedLength : st.maxLoggedLength.IsWhole
  strictSelect : ∃ b, st.strictSelect = .bool b

/-- The standard settings are of the kinds that they are declared with. -/
theorem Settings.wellTyped_standard : Settings.standard.WellTyped where
  logLevel := ⟨_, rfl⟩
  logFile := .inl rfl
  logDir := ⟨_, rfl⟩
  useColors := ⟨_, rfl⟩
  logStatements := ⟨_, rfl⟩
  maxLoggedLength := .inl ⟨_, rfl⟩
  strictSelect := ⟨_, rfl⟩

/-- Settings whose greatest length of a logged statement is a whole number, or a value from
which no setting can be read. -/
def Context.LengthIsWhole (c : Context) : Prop :=
  ∀ st, c.active = .settings st → ∃ n, st.maxLoggedLength = .int n

/-- Settings at whose length every statement can be cut, or a value from which no setting can
be read. -/
def Context.Shortens (c : Context) : Prop :=
  ∀ st, c.active = .settings st → ∀ sql, ∃ t, Statement.shortened st.maxLoggedLength sql = .ok t

theorem lengthIsWhole_standard (levels : Log.Levels) :
    Context.LengthIsWhole ⟨.settings .standard, levels⟩ := by
  intro st hst
  rw [← Value.settings.inj hst]
  exact ⟨500, rfl⟩

namespace Statement

/-- A statement that is recorded once it is built. -/
def recorded (logger verb : String) (x : Build String) : Build String := do
  let sql ← x
  reportBuilt logger verb sql
  return sql

/-- A statement that is recorded was built. -/
theorem outcome_of_recorded {c : Context} {logger verb sql : String} {x : Build String}
    (h : (recorded logger verb x).outcome c = .ok sql) : x.outcome c = .ok sql := by
  rw [recorded, Build.outcome_bind] at h
  obtain ⟨sql', hsql, h⟩ := bind_eq_ok_iff.mp h
  rw [Build.outcome_bind] at h
  obtain ⟨_, -, h⟩ := bind_eq_ok_iff.mp h
  rw [hsql, Except.ok.inj h]

/-- A statement can be cut at any whole number. -/
theorem exists_shortened {limit : Value} (h : limit.IsWhole) (sql : String) :
    ∃ t, shortened limit sql = .ok t := by
  have hfits : ∃ fit, fits sql.length limit = .ok fit := by
    rcases h with ⟨n, rfl⟩ | ⟨b, rfl⟩ <;> exact ⟨_, rfl⟩
  have hcut : ∃ n, cutLength limit = .ok n := by
    rcases h with ⟨n, rfl⟩ | ⟨b, rfl⟩ <;> exact ⟨_, rfl⟩
  obtain ⟨fit, hfit⟩ := hfits
  obtain ⟨n, hn⟩ := hcut
  rw [shortened, hfit, hn]
  cases fit with
  | true => exact ⟨_, rfl⟩
  | false => exact ⟨_, rfl⟩

/-- A context with settings of their kinds can cut every statement. -/
theorem shortens_of_wellTyped {st : Settings} (hst : st.WellTyped) (levels : Log.Levels) :
    Context.Shortens ⟨.settings st, levels⟩ := by
  intro st' hst' sql
  rw [← Value.settings.inj hst']
  exact exists_shortened hst.maxLoggedLength sql

theorem shortens_of_lengthIsWhole {c : Context} (hc : c.LengthIsWhole) : c.Shortens :=
  fun st hst => exists_shortened (.inl (hc st hst))

/-- Whether a statement is recorded does not depend on the statement. -/
theorem outcome_reportBuilt {c : Context} (hc : c.Shortens) (logger verb sql : String) :
    (reportBuilt logger verb sql).outcome c
      = (Settings.ofValue "log_statements" c.active).map fun _ => () := by
  rw [reportBuilt, report, Build.outcome_bind, Build.outcome_settings]
  generalize ha : c.active = active
  cases active with
  | settings st =>
      obtain ⟨t, ht⟩ := hc st ha sql
      rw [Settings.ofValue, ok_bind, Build.outcome_bind, Build.outcome_context, ok_bind]
      split
      · rw [Build.outcome_bind, Build.outcome_liftM, ht]
        rfl
      · rfl
  | _ => rfl

/-- Whether a statement can be cut at a limit depends on its length alone. -/
theorem map_shortened_of_length (limit : Value) {sql sql' : String}
    (h : sql.length = sql'.length) :
    (shortened limit sql).map (fun _ => ()) = (shortened limit sql').map fun _ => () := by
  rw [shortened, shortened, h]
  cases fits sql'.length limit with
  | error e => rfl
  | ok fit =>
      cases fit with
      | true => rfl
      | false => cases cutLength limit <;> rfl

/-- Statements of one length are recorded, or refused for their records, alike. -/
theorem outcome_reportBuilt_of_length (c : Context) (logger verb : String) {sql sql' : String}
    (h : sql.length = sql'.length) :
    (reportBuilt logger verb sql).outcome c = (reportBuilt logger verb sql').outcome c := by
  have hnote : ∀ (limit : Value) (sql : String),
      ((liftM (shortened limit sql) : Build String) >>= fun shown =>
        Build.note logger .debug ("Built " ++ verb ++ " statement: " ++ shown)).outcome c =
      (shortened limit sql).map fun _ => () := by
    intro limit sql
    rw [Build.outcome_bind, Build.outcome_liftM]
    cases shortened limit sql <;> rfl
  rw [reportBuilt, reportBuilt, report, report, Build.outcome_bind, Build.outcome_bind]
  refine congrArg _ (funext fun st => ?_)
  rw [Build.outcome_bind, Build.outcome_bind]
  refine congrArg _ (funext fun ctx => ?_)
  split
  · exact (hnote _ sql).trans ((map_shortened_of_length _ h).trans (hnote _ sql').symm)
  · rfl

/-- A statement is recorded where another one of its length is. -/
theorem outcome_recorded_of_length {c : Context} {logger verb sql sql' : String}
    {x y : Build String} (hx : (recorded logger verb x).outcome c = .ok sql)
    (hy : y.outcome c = .ok sql') (hlength : sql'.length = sql.length) :
    (recorded logger verb y).outcome c = .ok sql' := by
  have hbuilt := outcome_of_recorded hx
  rw [recorded, Build.outcome_bind, hbuilt, ok_bind, Build.outcome_bind] at hx
  obtain ⟨⟨⟩, hreport, -⟩ := bind_eq_ok_iff.mp hx
  rw [recorded, Build.outcome_bind, hy, ok_bind, Build.outcome_bind,
    outcome_reportBuilt_of_length c logger verb hlength, hreport]
  rfl

/-- Whether a statement is recorded depends on the outcome of building it alone. -/
theorem outcome_recorded_congr {c : Context} {x y : Build String}
    (h : x.outcome c = y.outcome c) (logger verb : String) :
    (recorded logger verb x).outcome c = (recorded logger verb y).outcome c := by
  rw [recorded, recorded, Build.outcome_bind, Build.outcome_bind, h]

/-- A recorded statement is the statement, where settings can be read and every statement can
be cut. -/
theorem outcome_recorded {c : Context} (hc : c.Shortens) (logger verb : String)
    (x : Build String) :
    (recorded logger verb x).outcome c = x.outcome c >>= fun sql =>
      (Settings.ofValue "log_statements" c.active).map fun _ => sql := by
  rw [recorded, Build.outcome_bind]
  refine bind_congr fun sql => ?_
  rw [Build.outcome_bind, outcome_reportBuilt hc]
  cases Settings.ofValue "log_statements" c.active with
  | error e => rfl
  | ok st => rfl

end Statement

end SqlText
