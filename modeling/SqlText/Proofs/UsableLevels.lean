import SqlText.Proofs.ActiveSettings
import SqlText.Proofs.Trimming
import SqlText.Settings.Variables

/-!
# Usable levels — logging set up from settings that were accepted

    s.setUpLoggingFrom (.settings cfg) console   succeeds   ↔   Text.strip text = text

Settings are accepted when they are made from their fields, when fields of accepted ones are
replaced, when they are made active, and when they are read from variables. Each time the level
is checked without the blanks around it and without regard to letter case, and so one of the
five severities is meant. Setting up logging disregards letter case too, but takes the blanks for
a part of the name. So a level with blanks around it passes the check and cannot be used, and
every other one is used as it was checked. A level that was read from a variable is kept in its
valid form, and can always be used.

* **`Settings.Accepted.acceptable`**: all ways lead to settings with a valid level.
* **`Log.levelNamed_of_blank`**: a name with a blank is that of no level.
* **`Settings.logLevel_of_ofVariables`**: levels that are read from variables.
* **`Session.setUpLoggingFrom_accepted`**: when logging can be set up, and to which level.
* **`Session.padded_level_is_refused`**: a level that passes the check and cannot be used.
-/

namespace SqlText

/-! ## Names with blanks -/

namespace Text

/-- A blank is its own upper-case form. -/
theorem upperChars_of_isBlank {c : Char} (h : isBlank c = true) : upperChars c = [c] := by
  unfold upperChars
  split
  case h_11 =>
    have hletter : ¬ ('a'.val ≤ c.val ∧ c.val ≤ 'z'.val) := by
      rintro ⟨hlow, hhigh⟩
      have hlow : 0x61 ≤ c.toNat := UInt32.le_iff_toNat_le.mp hlow
      have hhigh : c.toNat ≤ 0x7A := UInt32.le_iff_toNat_le.mp hhigh
      simp only [isBlank, Bool.or_eq_true, Bool.and_eq_true, decide_eq_true_eq, beq_iff_eq] at h
      omega
    have hupper : c.toUpper = c := dif_neg hletter
    rw [hupper]
  all_goals exact absurd h (by decide)

theorem mem_upper_of_isBlank {s : String} {c : Char} (hc : c ∈ s.toList)
    (h : isBlank c = true) : c ∈ (upper s).toList := by
  rw [upper, String.toList_ofList]
  exact List.mem_flatMap.mpr ⟨c, hc, by rw [upperChars_of_isBlank h]; exact List.mem_cons_self⟩

end Text

namespace Log

/-- Has a name no blank? -/
def isFull (name : String) : Bool := name.toList.all fun c => !Text.isBlank c

theorem ne_of_isFull {name s : String} (h : isFull name = true)
    (hs : ∃ c ∈ s.toList, Text.isBlank c = true) : s ≠ name := by
  rintro rfl
  obtain ⟨c, hc, hblank⟩ := hs
  have hfull := List.all_eq_true.mp h c hc
  rw [hblank] at hfull
  exact nomatch hfull

/-- No name of a level has a blank. -/
theorem isFull_of_levelOf? {name : String} {n : Nat} (h : levelOf? name = some n) :
    isFull name = true := by
  unfold levelOf? at h
  split at h
  case h_9 => exact nomatch h
  all_goals decide

/-- A name with a blank is that of no level. -/
theorem levelNamed_of_blank {s : String} (h : ∃ c ∈ s.toList, Text.isBlank c = true) :
    levelNamed s = .error (.noAttribute "module" (Text.upper s)) := by
  have hupper : ∃ c ∈ (Text.upper s).toList, Text.isBlank c = true := by
    obtain ⟨c, hc, hblank⟩ := h
    exact ⟨c, Text.mem_upper_of_isBlank hc hblank, hblank⟩
  have hnone : levelOf? (Text.upper s) = none :=
    Option.eq_none_iff_forall_ne_some.mpr fun _ hn =>
      ne_of_isFull (isFull_of_levelOf? hn) hupper rfl
  -- nor is it one of the two names that stand beside the levels
  have hformat := beq_eq_false_iff_ne.mpr (ne_of_isFull (by decide : isFull "BASIC_FORMAT") hupper)
  have hstyles := beq_eq_false_iff_ne.mpr (ne_of_isFull (by decide : isFull "_STYLES") hupper)
  rw [levelNamed, hnone]
  simp only [hformat, hstyles]
  rfl

theorem levelOf?_name (severity : Severity) : levelOf? severity.name = some severity.number := by
  cases severity <;> rfl

end Log

/-! ## Ways to settings -/

namespace Settings

/-- Settings that were accepted: made from their fields, or from accepted ones by replacing
fields or by making them active, or read from variables. -/
inductive Accepted : Settings → Prop where
  | made {fields : List (Value × Value)} {cfg : Settings} (h : make fields = .ok cfg) :
      Accepted cfg
  | overridden {cfg cfg' : Settings} {fields : List (Value × Value)} (hcfg : Accepted cfg)
      (h : cfg.override fields = .ok cfg') : Accepted cfg'
  | configured {active given : Value} {fields : List (Value × Value)} {cfg : Settings}
      (hactive : ∀ st, active = .settings st → Accepted st)
      (hgiven : ∀ st, given = .settings st → Accepted st)
      (h : configure active given fields = .ok (.settings cfg)) : Accepted cfg
  | read {es : List (Value × Value)} {cfg : Settings} (h : ofVariables es = .ok cfg) :
      Accepted cfg

variable {cfg cfg' : Settings} {fields es : List (Value × Value)}

theorem acceptable_of_override (h : cfg.override fields = .ok cfg') : cfg'.Acceptable := by
  obtain ⟨_, -, h⟩ := bind_eq_ok_iff.mp h
  obtain ⟨rfl, hacceptable⟩ := validated_eq_ok_iff.mp h
  exact hacceptable

/-- What becomes active is what was given or active before, or has passed the checks. -/
theorem cases_of_configure {active given : Value}
    (h : configure active given fields = .ok (.settings cfg)) :
    active = .settings cfg ∨ given = .settings cfg ∨ cfg.Acceptable := by
  unfold configure at h
  dsimp only at h
  split at h
  · exact nomatch h
  split at h
  · have hbase := Except.ok.inj h
    split at hbase
    · exact .inl hbase
    · exact .inr (.inl hbase)
  · obtain ⟨base, -, h⟩ := bind_eq_ok_iff.mp h
    obtain ⟨st, hst, h⟩ := bind_eq_ok_iff.mp h
    rw [Value.settings.inj (Except.ok.inj h)] at hst
    exact .inr (.inr (acceptable_of_override hst))

/-- A variable sets its own field and no other, to what is read from it. -/
theorem mem_of_readVariable {ending field : String}
    {read : String → Value → Except Fault (Option Value)} {fs : List (Value × Value)}
    (h : readVariable es ending field read = .ok fs) :
    ∀ e ∈ fs, e.1 = .text field ∧ ∃ name raw, read name raw = .ok (some e.2) := by
  unfold readVariable at h
  dsimp only at h
  split at h
  · rw [← Except.ok.inj h]
    exact fun _ he => nomatch he
  · obtain ⟨v?, hread, h⟩ := bind_eq_ok_iff.mp h
    cases v? with
    | none =>
        rw [← Except.ok.inj h]
        exact fun _ he => nomatch he
    | some v =>
        rw [← Except.ok.inj h]
        intro e he
        rw [List.mem_singleton.mp he]
        exact ⟨rfl, _, _, hread⟩

/-- The level comes first among the fields that variables set. -/
theorem exists_make_of_ofVariables (h : ofVariables es = .ok cfg) :
    ∃ level rest, readVariable es "LOG_LEVEL" "log_level" readLevelField = .ok level ∧
      (∀ e ∈ rest, e.1 ≠ .text "log_level") ∧ make (level ++ rest) = .ok cfg := by
  obtain ⟨level, hlevel, h⟩ := bind_eq_ok_iff.mp h
  obtain ⟨file, hfile, h⟩ := bind_eq_ok_iff.mp h
  obtain ⟨directory, hdirectory, h⟩ := bind_eq_ok_iff.mp h
  obtain ⟨colours, hcolours, h⟩ := bind_eq_ok_iff.mp h
  obtain ⟨statements, hstatements, h⟩ := bind_eq_ok_iff.mp h
  obtain ⟨strict, hstrict, h⟩ := bind_eq_ok_iff.mp h
  obtain ⟨length, hlength, h⟩ := bind_eq_ok_iff.mp h
  have hother : ∀ {ending field : String} {read : String → Value → Except Fault (Option Value)}
      {fs : List (Value × Value)}, readVariable es ending field read = .ok fs →
      field ≠ "log_level" → ∀ e ∈ fs, e.1 ≠ .text "log_level" := by
    intro ending field read fs hfs hne e he heq
    rw [(mem_of_readVariable hfs e he).1] at heq
    exact hne (Value.text.inj heq)
  refine ⟨level, file ++ directory ++ colours ++ statements ++ strict ++ length, hlevel, ?_, ?_⟩
  · simp only [List.forall_mem_append]
    exact ⟨⟨⟨⟨⟨hother hfile (by decide), hother hdirectory (by decide)⟩,
      hother hcolours (by decide)⟩, hother hstatements (by decide)⟩,
      hother hstrict (by decide)⟩, hother hlength (by decide)⟩
  · simpa only [List.append_assoc] using h

/-- Accepted settings have a valid level and a length. -/
theorem Accepted.acceptable (h : cfg.Accepted) : cfg.Acceptable := by
  induction h with
  | made h => exact Made.acceptable ⟨_, h⟩
  | overridden _ h _ => exact acceptable_of_override h
  | configured _ _ h hactive hgiven =>
      rcases cases_of_configure h with hst | hst | hst
      · exact hactive _ hst
      · exact hgiven _ hst
      · exact hst
  | read h =>
      obtain ⟨_, _, -, -, h⟩ := exists_make_of_ofVariables h
      exact Made.acceptable ⟨_, h⟩

/-! ## Levels that are read -/

/-- After fields were replaced, the level is one of those given or the one that was there. -/
theorem logLevel_of_assign :
    ∀ {fields : List (Value × Value)} {cfg cfg' : Settings}, cfg.assign fields = .ok cfg' →
      cfg'.logLevel = cfg.logLevel ∨ (.text "log_level", cfg'.logLevel) ∈ fields := by
  intro fields
  induction fields with
  | nil => exact fun h => .inl (by rw [← Except.ok.inj h])
  | cons f fields ih =>
      intro cfg cfg' h
      obtain ⟨key, v⟩ := f
      cases key with
      | text name =>
          rw [assign] at h
          cases hset : cfg.set? name v with
          | none =>
              rw [hset] at h
              cases h
          | some st =>
              rw [hset] at h
              rcases ih h with hkept | hgiven
              · -- what follows leaves the level alone, so that it is the one of this step
                have hlevel := get?_of_set? hset "log_level"
                rw [hkept]
                by_cases hname : "log_level" = name
                · rw [if_pos hname] at hlevel
                  rw [Option.some.inj hlevel, hname]
                  exact .inr List.mem_cons_self
                · rw [if_neg hname] at hlevel
                  exact .inl (Option.some.inj hlevel)
              · exact .inr (List.mem_cons_of_mem _ hgiven)
      | _ => cases h

theorem mem_validLevels_iff {name : String} :
    name ∈ validLevels ↔ ∃ severity : Log.Severity, name = severity.name := by
  constructor
  · intro h
    obtain ⟨severity, -, rfl⟩ := List.mem_map.mp h
    exact ⟨severity, rfl⟩
  · rintro ⟨severity, rfl⟩
    cases severity <;> decide

/-- A level that is read is a valid name, and nothing else. -/
theorem exists_severity_of_readLevelField {name : String} {raw v : Value}
    (h : readLevelField name raw = .ok (some v)) :
    ∃ severity : Log.Severity, v = .text severity.name := by
  obtain ⟨level, hlevel, h⟩ := bind_eq_ok_iff.mp h
  rw [← Option.some.inj (Except.ok.inj h)]
  obtain ⟨text, rfl, hvalid⟩ := (readLevel_iff name raw).mp ⟨level, hlevel⟩
  rw [readLevel_text, if_pos hvalid] at hlevel
  rw [← Except.ok.inj hlevel]
  obtain ⟨severity, hname⟩ := mem_validLevels_iff.mp hvalid
  exact ⟨severity, by rw [hname]⟩

/-- The level of settings that were read from variables is the name of a severity. -/
theorem logLevel_of_ofVariables (h : ofVariables es = .ok cfg) :
    ∃ severity : Log.Severity, cfg.logLevel = .text severity.name := by
  obtain ⟨level, rest, hlevel, hrest, h⟩ := exists_make_of_ofVariables h
  obtain ⟨st, hassign, h⟩ := bind_eq_ok_iff.mp h
  rw [(validated_eq_ok_iff.mp h).1]
  rcases logLevel_of_assign hassign with hkept | hgiven
  · exact ⟨.info, hkept⟩
  rcases List.mem_append.mp hgiven with hmem | hmem
  · obtain ⟨-, name, raw, hread⟩ := mem_of_readVariable hlevel _ hmem
    exact exists_severity_of_readLevelField hread
  · exact absurd rfl (hrest _ hmem)

end Settings

/-! ## Setting up logging -/

namespace Session

variable {s : Session} {cfg : Settings}

/-- The session in which logging is set up without a file, at the level of a severity. -/
def loggingAt (s : Session) (severity : Log.Severity) (cfg : Settings) (console : Value) :
    Session :=
  { s.withRootLevel severity.number with
    handlers :=
      if console.isGiven then [⟨severity.number, .console cfg.useColors.isGiven⟩] else [] }

theorem setUpLoggingFrom_of_named {text : String} {severity : Log.Severity}
    (hlevel : cfg.logLevel = .text text) (hfile : cfg.logFile = .null)
    (hnamed : Log.levelNamed text = .ok severity.number) (console : Value) :
    s.setUpLoggingFrom (.settings cfg) console = (.ok (), s.loggingAt severity cfg console) := by
  show s.setUpLogging (setupOf cfg console) = _
  have hof : Log.levelOfValue (setupOf cfg console).level = .ok severity.number := by
    rw [setupOf, hlevel]
    exact hnamed
  have hgiven : (setupOf cfg console).file.isGiven = false := by
    rw [setupOf, hfile]
    rfl
  rw [setUpLogging, hof]
  simp only [setUpFile, hgiven]
  rfl

theorem setUpLoggingFrom_of_refused {text : String} {e : Fault}
    (hlevel : cfg.logLevel = .text text) (hrefused : Log.levelNamed text = .error e)
    (console : Value) : s.setUpLoggingFrom (.settings cfg) console = (.error e, s) := by
  show s.setUpLogging (setupOf cfg console) = _
  have hof : Log.levelOfValue (setupOf cfg console).level = .error e := by
    rw [setupOf, hlevel]
    exact hrefused
  rw [setUpLogging, hof]

/-- From accepted settings without a log file, logging is set up at the severity that their level
names without the blanks around it, where there are no such blanks; where there are, setting it up
fails for a name that is not there, and leaves the session as it was. A level that was read from
variables has no such blanks. -/
theorem setUpLoggingFrom_accepted (h : cfg.Accepted) (hfile : cfg.logFile = .null) :
    ∃ (text : String) (severity : Log.Severity), cfg.logLevel = .text text ∧
      Text.upper (Text.strip text) = severity.name ∧
      (∀ (s : Session) (console : Value),
        s.setUpLoggingFrom (.settings cfg) console =
          if Text.strip text = text then (.ok (), s.loggingAt severity cfg console)
          else (.error (.noAttribute "module" (Text.upper text)), s)) ∧
      ∀ es, Settings.ofVariables es = .ok cfg → Text.strip text = text := by
  obtain ⟨text, hlevel, hvalid⟩ := h.acceptable.logLevel
  obtain ⟨severity, hname⟩ := Settings.mem_validLevels_iff.mp hvalid
  refine ⟨text, severity, hlevel, hname, fun s console => ?_, fun es hes => ?_⟩
  · by_cases hstrip : Text.strip text = text
    · rw [if_pos hstrip]
      have hupper : Text.upper text = severity.name := by rw [← hname, hstrip]
      refine setUpLoggingFrom_of_named hlevel hfile ?_ console
      rw [Log.levelNamed, hupper, Log.levelOf?_name]
    · rw [if_neg hstrip]
      have hblank := Log.levelNamed_of_blank (Text.exists_blank_of_strip_ne hstrip)
      exact setUpLoggingFrom_of_refused hlevel hblank console
  · obtain ⟨severity', hlevel'⟩ := Settings.logLevel_of_ofVariables hes
    rw [Value.text.inj (hlevel.symm.trans hlevel')]
    cases severity' <;> decide

/-- Settings with the level of debugging. -/
def atDebug : Settings := { Settings.standard with logLevel := .text "DEBUG" }

/-- They are read from a variable with blanks around the level, and can be used. -/
theorem setUpLoggingFrom_accepted_debugging :
    Settings.ofVariables [(.text "QUERY_LOG_LEVEL", .text " debug ")] = .ok atDebug ∧
      atDebug.logFile = .null ∧
      ({ clock := "" } : Session).setUpLoggingFrom (.settings atDebug) (.bool true) =
        (.ok (), ({ clock := "" } : Session).loggingAt .debug atDebug (.bool true)) := by
  have hread : Settings.ofVariables [(.text "QUERY_LOG_LEVEL", .text " debug ")] = .ok atDebug :=
    rfl
  refine ⟨hread, rfl, ?_⟩
  obtain ⟨text, severity, hlevel, hname, hsetup, hstrip⟩ :=
    setUpLoggingFrom_accepted (.read hread) rfl
  have htext : "DEBUG" = text := Value.text.inj hlevel
  have hseverity : severity = .debug := by
    rw [← htext] at hname
    cases severity
    case debug => rfl
    all_goals exact absurd hname (by decide)
  rw [hsetup, if_pos (hstrip _ hread), hseverity]

/-- Settings with blanks around the level. -/
def padded : Settings := { Settings.standard with logLevel := .text " info " }

/-- They are made without a refusal, for their level is valid without the blanks, and logging
cannot be set up from them. -/
theorem padded_level_is_refused :
    Settings.make [(.text "log_level", .text " info ")] = .ok padded ∧ padded.logFile = .null ∧
      Log.Severity.named? (Text.upper (Text.strip " info ")) = some .info ∧
      ({ clock := "" } : Session).setUpLoggingFrom (.settings padded) (.bool true) =
        (.error (.noAttribute "module" " INFO "), { clock := "" }) :=
  ⟨rfl, rfl, by decide, rfl⟩

end Session

end SqlText
