import SqlText.Proofs.Composition
import SqlText.Proofs.RequestFaults

/-!
# Independence of settings — strict mode alone bears on what a statement ends in

    (Statement.request kind options).outcome c  =  (Statement.request kind options).outcome c'

Two contexts with settings of their kinds, alike in whether a source is asked for strictly,
give every statement the same outcome: the same text, or the same fault with all that it names.
No other setting has a part in it, and neither have the levels of the loggers. They bear on
records alone, for every length that is a whole number can cut every statement.

* **`AlikeIn`**: a build that ends alike in two contexts.
* **`AlikeIn.keptBySteps`**, **`AlikeIn.checkSource`**, **`AlikeIn.recorded`**: steps, the look
  at a source and the record of a statement.
* **`settings_independence`**: statements, and both forms of requests.
-/

namespace SqlText

open Build (KeptByRemarks KeptBySteps)

variable {α β : Type} {c c' : Context}

/-- A build that ends alike in two contexts. -/
def AlikeIn (c c' : Context) (x : Build α) : Prop := x.outcome c = x.outcome c'

namespace AlikeIn

theorem bind {x : Build α} {f : α → Build β} (hx : AlikeIn c c' x)
    (hf : ∀ a, AlikeIn c c' (f a)) : AlikeIn c c' (x >>= f) := by
  rw [AlikeIn, Build.outcome_bind, Build.outcome_bind, hx]
  exact bind_congr fun a => hf a

/-- No step looks at its context. -/
theorem keptBySteps (R : Log.Record → Prop) : KeptBySteps R (AlikeIn c c') where
  pure _ := rfl
  read _ := rfl
  remark _ _ := rfl
  refused _ _ := rfl
  bind := bind

/-- A build that goes on after type faults ends alike where both of its parts do. -/
theorem onTypeFault {x : Build α} {handler : TypeFault → Build α} (hx : AlikeIn c c' x)
    (hhandler : ∀ f, AlikeIn c c' (handler f)) : AlikeIn c c' (Build.onTypeFault x handler) := by
  rw [AlikeIn, Build.outcome_onTypeFault, Build.outcome_onTypeFault, hx]
  exact congrArg (handled · _) (funext hhandler)

variable {st st' : Settings} {levels levels' : Log.Levels}

/-- The look at a source reads the mode and nothing else. -/
theorem checkSource (hstrict : st.strictSelect = st'.strictSelect) (s : Select) (source : Value) :
    AlikeIn ⟨.settings st, levels⟩ ⟨.settings st', levels'⟩ (s.checkSource source) := by
  rw [AlikeIn, Select.checkSource]
  split
  · rw [Build.outcome_bind, Build.outcome_bind, Build.outcome_settings, Build.outcome_settings,
      Settings.ofValue, Settings.ofValue, ok_bind, ok_bind, hstrict]
    split <;> rfl
  · rfl

/-- The record of a statement refuses none, whatever the settings of their kinds are. -/
theorem recorded (hst : st.WellTyped) (hst' : st'.WellTyped) (logger verb : String)
    {x : Build String} (hx : AlikeIn ⟨.settings st, levels⟩ ⟨.settings st', levels'⟩ x) :
    AlikeIn ⟨.settings st, levels⟩ ⟨.settings st', levels'⟩
      (Statement.recorded logger verb x) := by
  rw [AlikeIn, Statement.outcome_recorded (Statement.shortens_of_wellTyped hst levels),
    Statement.outcome_recorded (Statement.shortens_of_wellTyped hst' levels'), hx]
  rfl

end AlikeIn

/-- A request ends alike where its statement does, for its kind and its options are read
without a look at the context. -/
theorem Statement.alikeIn_request (htext : ∀ s : Statement, AlikeIn c c' s.text) (kind : Value)
    (options : List (String × Value)) : AlikeIn c c' (request kind options) := by
  rw [request]
  split
  · exact .onTypeFault (.bind rfl fun s => htext s) fun f => rfl
  · rfl

/-- Under settings of their kinds that are alike in the mode, and whatever else they and the
levels of the loggers are, every statement ends alike, and so does every request for one. -/
theorem settings_independence {st st' : Settings} (hst : st.WellTyped) (hst' : st'.WellTyped)
    (hstrict : st.strictSelect = st'.strictSelect) (levels levels' : Log.Levels) :
    (∀ s : Statement,
      s.text.outcome ⟨.settings st, levels⟩ = s.text.outcome ⟨.settings st', levels'⟩) ∧
    (∀ kind options,
      (Statement.request kind options).outcome ⟨.settings st, levels⟩ =
        (Statement.request kind options).outcome ⟨.settings st', levels'⟩) ∧
    ∀ kind config,
      (Statement.ofMapping kind config).outcome ⟨.settings st, levels⟩ =
        (Statement.ofMapping kind config).outcome ⟨.settings st', levels'⟩ := by
  have hsteps : KeptByRemarks (AlikeIn ⟨.settings st, levels⟩ ⟨.settings st', levels'⟩) :=
    AlikeIn.keptBySteps _
  have htext : ∀ s : Statement,
      AlikeIn ⟨.settings st, levels⟩ ⟨.settings st', levels'⟩ s.text := by
    intro s
    rw [Statement.text_eq]
    exact .recorded hst hst' _ _ (Statement.compose_of_kept hsteps (AlikeIn.checkSource hstrict) s)
  have hrequest := Statement.alikeIn_request htext
  refine ⟨htext, hrequest, fun kind config => ?_⟩
  exact AlikeIn.bind rfl fun es => .bind rfl fun options => hrequest kind options

/-- Settings that differ from the standard ones in every field but the mode. -/
def quietSettings : Settings where
  logLevel := .text "ERROR"
  logFile := .text "sql.log"
  logDir := .text "var"
  useColors := .bool false
  logStatements := .bool false
  maxLoggedLength := .int 1
  strictSelect := .bool false

/-- Under both, and with the loggers at different levels, a DELETE ends in the same text. -/
theorem settings_independence_quiet :
    Settings.standard.WellTyped ∧ quietSettings.WellTyped ∧
      (Statement.delete plainDelete).text.outcome ⟨.settings .standard, { root := 10 }⟩ =
        (Statement.delete plainDelete).text.outcome ⟨.settings quietSettings, {}⟩ := by
  have hquiet : quietSettings.WellTyped :=
    ⟨⟨_, rfl⟩, .inr ⟨_, rfl⟩, ⟨_, rfl⟩, ⟨_, rfl⟩, ⟨_, rfl⟩, .inl ⟨_, rfl⟩, ⟨_, rfl⟩⟩
  refine ⟨Settings.wellTyped_standard, hquiet, ?_⟩
  exact (settings_independence Settings.wellTyped_standard hquiet rfl { root := 10 } {}).1 _

end SqlText
