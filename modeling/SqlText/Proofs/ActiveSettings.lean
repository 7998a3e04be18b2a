import SqlText.Proofs.MappingEntries
import SqlText.Proofs.Outcomes
import SqlText.Session

/-!
# Active settings — what is active after any number of changes

    field after all changes  =  the value last written by a change that succeeded, or the first

A change makes the settings given active, or those that are active already, with some fields
replaced. It fails where a name is no field, where the level is none of the valid ones, or
where the length is not positive, and then it leaves the session as it was. So what is active
can always be asked for a valid level and a positive length, and every field has the value that
the last of the successful changes wrote to it.

* **`Settings.override_named_iff`**: what replacing fields comes to.
* **`Session.change_eq_ok_iff`**: when a change succeeds, and what it makes active.
* **`Session.active_changeAll`**: what is active after any number of changes.
* **`Session.change_of_union`**: two changes at once.
* **`Session.active_settings`**: all of it, from the standard settings on.
-/

namespace SqlText

namespace Settings

variable {s t : Settings} {fields : List (String × Value)}

/-! ## Fields by name -/

/-- A field by its name. -/
def get? (s : Settings) (name : String) : Option Value :=
  match name with
  | "log_level"      => some s.logLevel
  | "log_file"       => some s.logFile
  | "log_dir"        => some s.logDir
  | "use_colors"     => some s.useColors
  | "log_statements" => some s.logStatements
  | "max_logged_statement_length" => some s.maxLoggedLength
  | "strict_select"  => some s.strictSelect
  | _                => none

theorem isSome_set?_iff (s : Settings) (name : String) (v : Value) :
    (s.set? name v).isSome = true ↔ name ∈ fieldNames := by
  fun_cases set? s name v <;> simp_all [fieldNames]

/-- One field is replaced and the others are kept. -/
theorem get?_of_set? {name : String} {v : Value} (h : s.set? name v = some t) (other : String) :
    t.get? other = if other = name then some v else s.get? other := by
  fun_cases set? s name v <;> simp only [set?, Option.some.injEq, reduceCtorEq] at h <;> subst h <;>
    fun_cases get? s other <;> simp_all [get?]

/-- Settings are what their fields are. -/
theorem ext_get? (h : ∀ name, s.get? name = t.get? name) : s = t := by
  cases s
  cases t
  rw [mk.injEq]
  exact ⟨Option.some.inj (h "log_level"), Option.some.inj (h "log_file"),
    Option.some.inj (h "log_dir"), Option.some.inj (h "use_colors"),
    Option.some.inj (h "log_statements"), Option.some.inj (h "max_logged_statement_length"),
    Option.some.inj (h "strict_select")⟩

/-- All settings have the same fields. -/
theorem get?_or_get? (s t : Settings) (name : String) :
    (s.get? name).or (t.get? name) = s.get? name := by
  fun_cases get? s name <;> simp_all [get?]

/-! ## Fields replaced -/

/-- A field that there is takes its value before the fields that follow. -/
theorem assign_named_of_set? {name : String} {v : Value} (h : s.set? name v = some t)
    (fields : List (String × Value)) :
    s.assign (named ((name, v) :: fields)) = t.assign (named fields) := by
  show s.assign ((.text name, v) :: named fields) = _
  rw [assign, h]

theorem assign_named_of_unknown {name : String} {v : Value} (h : s.set? name v = none)
    (fields : List (String × Value)) :
    s.assign (named ((name, v) :: fields)) = .error (.type .badCall) := by
  show s.assign ((.text name, v) :: named fields) = _
  rw [assign, h]

/-- Fields are replaced where every name is that of a field, each by the value under its
name. -/
theorem assign_named_iff :
    ∀ (fields : List (String × Value)) (s t : Settings), (fields.map Prod.fst).Nodup →
      (s.assign (named fields) = .ok t ↔ (∀ f ∈ fields, f.1 ∈ fieldNames) ∧
        ∀ name, t.get? name = (fields.lookup name).or (s.get? name)) := by
  intro fields
  induction fields with
  | nil =>
      intro s t _
      constructor
      · intro h
        rw [← Except.ok.inj h]
        exact ⟨fun _ hf => (nomatch hf), fun _ => rfl⟩
      · rintro ⟨-, h⟩
        rw [ext_get? h]
        rfl
  | cons f fields ih =>
      intro s t hnodup
      obtain ⟨name, v⟩ := f
      obtain ⟨hnew, hnodup⟩ := List.nodup_cons.mp hnodup
      cases hset : s.set? name v with
      | none =>
          have hname : name ∉ fieldNames := by
            rw [← isSome_set?_iff s name v, hset]
            exact Bool.false_ne_true
          rw [assign_named_of_unknown hset]
          exact ⟨(nomatch ·), fun h => absurd (h.1 _ List.mem_cons_self) hname⟩
      | some u =>
          have hname : name ∈ fieldNames := by
            rw [← isSome_set?_iff s name v, hset]
            rfl
          -- the name is not among those that follow, so that the value stays
          have hlookup : ∀ other, (fields.lookup other).or (u.get? other) =
              (((name, v) :: fields).lookup other).or (s.get? other) := by
            intro other
            rw [get?_of_set? hset, lookup_cons_if]
            by_cases hother : other = name
            · rw [if_pos hother, if_pos hother, hother, lookup_of_not_mem hnew]
              rfl
            · rw [if_neg hother, if_neg hother]
          rw [assign_named_of_set? hset, ih u t hnodup, List.forall_mem_cons]
          simp only [hlookup, hname, true_and]

theorem exists_assign_named :
    ∀ {fields : List (String × Value)}, (∀ f ∈ fields, f.1 ∈ fieldNames) →
      ∀ s : Settings, ∃ t, s.assign (named fields) = .ok t := by
  intro fields
  induction fields with
  | nil => exact fun _ s => ⟨s, rfl⟩
  | cons f fields ih =>
      intro hnames s
      obtain ⟨hname, hnames⟩ := List.forall_mem_cons.mp hnames
      obtain ⟨u, hu⟩ := Option.isSome_iff_exists.mp ((isSome_set?_iff s f.1 f.2).mpr hname)
      obtain ⟨t, ht⟩ := ih hnames u
      exact ⟨t, (assign_named_of_set? hu fields).trans ht⟩

/-- A value that is a level: a text that is one of the valid names, blanks at its ends and
letter case aside. -/
def IsLevel (v : Value) : Prop :=
  ∃ text, v = .text text ∧ Text.upper (Text.strip text) ∈ validLevels

/-- A value that is a length: it can be compared with zero and is not at or below it. -/
def IsLength (v : Value) : Prop := notPositive v = .ok false

/-- Settings with a level and a length. -/
structure Acceptable (s : Settings) : Prop where
  logLevel : IsLevel s.logLevel
  maxLoggedLength : IsLength s.maxLoggedLength

theorem readLevel_text (name text : String) :
    readLevel name (.text text) =
      if Text.upper (Text.strip text) ∈ validLevels then .ok (Text.upper (Text.strip text))
      else .error (.configuration (.level name (.text text))) := by
  rw [readLevel, Value.stripped, ok_bind]
  simp only [List.contains_iff_mem]
  rfl

theorem readLevel_iff (name : String) (v : Value) :
    (∃ level, readLevel name v = .ok level) ↔ IsLevel v := by
  constructor
  · rintro ⟨level, h⟩
    cases v with
    | text text =>
        refine ⟨text, rfl, ?_⟩
        by_contra hlevel
        rw [readLevel_text, if_neg hlevel] at h
        exact nomatch h
    | _ => exact nomatch h
  · rintro ⟨text, rfl, hlevel⟩
    exact ⟨_, by rw [readLevel_text, if_pos hlevel]⟩

/-- Settings pass their checks as they are, where they are acceptable. -/
theorem validated_eq_ok_iff : s.validated = .ok t ↔ t = s ∧ s.Acceptable := by
  constructor
  · intro h
    obtain ⟨level, hlevel, h⟩ := bind_eq_ok_iff.mp h
    obtain ⟨b, hb, h⟩ := bind_eq_ok_iff.mp h
    cases b with
    | true => exact nomatch h
    | false => exact ⟨(Except.ok.inj h).symm, (readLevel_iff _ _).mp ⟨level, hlevel⟩, hb⟩
  · rintro ⟨rfl, hs⟩
    obtain ⟨level, hlevel⟩ := (readLevel_iff "log_level" t.logLevel).mpr hs.logLevel
    have hlength : notPositive t.maxLoggedLength = .ok false := hs.maxLoggedLength
    rw [validated, hlevel, ok_bind, hlength]
    rfl

/-- Replacing fields gives acceptable settings with the values under the names, and the others
as they were. -/
theorem override_named_iff (hnodup : (fields.map Prod.fst).Nodup) :
    s.override (named fields) = .ok t ↔ (∀ f ∈ fields, f.1 ∈ fieldNames) ∧
      (∀ name, t.get? name = (fields.lookup name).or (s.get? name)) ∧ t.Acceptable := by
  rw [override, bind_eq_ok_iff]
  constructor
  · rintro ⟨u, hu, h⟩
    obtain ⟨rfl, ht⟩ := validated_eq_ok_iff.mp h
    obtain ⟨hnames, hget⟩ := (assign_named_iff fields s t hnodup).mp hu
    exact ⟨hnames, hget, ht⟩
  · rintro ⟨hnames, hget, ht⟩
    exact ⟨t, (assign_named_iff fields s t hnodup).mpr ⟨hnames, hget⟩,
      validated_eq_ok_iff.mpr ⟨rfl, ht⟩⟩

/-- Settings that were made. -/
def Made (s : Settings) : Prop := ∃ fields, make fields = .ok s

theorem Made.acceptable (h : s.Made) : s.Acceptable := by
  obtain ⟨fields, h⟩ := h
  obtain ⟨u, -, h⟩ := bind_eq_ok_iff.mp h
  obtain ⟨rfl, hs⟩ := validated_eq_ok_iff.mp h
  exact hs

end Settings

/-! ## Changes -/

/-- A change of what is active: settings that were made, or none for those that are active,
and values for some of the fields. -/
structure Change where
  base : Option Settings := none
  fields : List (String × Value)
  made : ∀ st ∈ base, st.Made := by simp
  distinct : (fields.map Prod.fst).Nodup := by decide

namespace Change

/-- The settings whose fields a change replaces. -/
def start (ch : Change) (active : Settings) : Settings := ch.base.getD active

/-- The value that a change writes to a field: the one under its name, or else that of the
settings given. -/
def written? (ch : Change) (name : String) : Option Value :=
  (ch.fields.lookup name).or (ch.base.bind (·.get? name))

/-- A change of fields that there are, with a level for a level and a length for a length. -/
structure Fits (ch : Change) : Prop where
  known : ∀ f ∈ ch.fields, f.1 ∈ Settings.fieldNames
  logLevel : ∀ v ∈ ch.fields.lookup "log_level", Settings.IsLevel v
  maxLoggedLength :
    ∀ v ∈ ch.fields.lookup "max_logged_statement_length", Settings.IsLength v

variable {ch : Change} {active : Settings}

theorem acceptable_start (hactive : active.Acceptable) : (ch.start active).Acceptable := by
  rw [start]
  cases hbase : ch.base with
  | none => exact hactive
  | some st => exact (ch.made st hbase).acceptable

/-- What is not written stays as it is active. -/
theorem written?_or (ch : Change) (active : Settings) (name : String) :
    (ch.fields.lookup name).or ((ch.start active).get? name) =
      (ch.written? name).or (active.get? name) := by
  rw [written?, start, Option.or_assoc]
  cases ch.base with
  | none => rfl
  | some st => exact congrArg _ (st.get?_or_get? active name).symm

end Change

namespace Session

variable {s : Session} {active : Settings} {ch : Change} {v : Value}

/-- Makes a change of what is active. -/
def change (s : Session) (ch : Change) : Except Fault Value × Session :=
  s.configure (ch.base.elim .null .settings) (named ch.fields)

/-- Makes changes one after the other, whether they succeed or fail. -/
def changeAll (s : Session) (chs : List Change) : Session :=
  chs.foldl (fun s ch => (s.change ch).2) s

/-- The changes that succeed when their turn comes. -/
def successful (s : Session) : List Change → List Change
  | []        => []
  | ch :: chs =>
    if (s.change ch).1.isOk then ch :: (s.change ch).2.successful chs
    else (s.change ch).2.successful chs

/-! ## One change -/

/-- A change that fails leaves the session as it was, and one that succeeds makes active what
it gives. -/
theorem session_of_change (s : Session) (ch : Change) :
    (∀ e, (s.change ch).1 = .error e → (s.change ch).2 = s) ∧
      ∀ v, (s.change ch).1 = .ok v → (s.change ch).2 = { s with active := v } := by
  rw [change, configure]
  split
  · exact ⟨fun _ h => (nomatch h), fun _ h => by rw [← Except.ok.inj h]⟩
  · exact ⟨fun _ _ => rfl, fun _ h => nomatch h⟩

theorem outcome_change (hs : s.active = .settings active) (ch : Change) :
    (s.change ch).1 =
      if !(named ch.fields).all (Settings.isReplacement ·.1) then .error (.type .badCall)
      else if (named ch.fields).isEmpty then .ok (.settings (ch.start active))
      else ((ch.start active).override (named ch.fields)).map .settings := by
  have hconfigure : (s.change ch).1 =
      Settings.configure s.active (ch.base.elim .null .settings) (named ch.fields) := by
    rw [change, configure]
    split <;> rename_i h <;> exact h.symm
  rw [hconfigure, hs, Change.start]
  cases ch.base with
  | none => rfl
  | some st => rfl

/-- The name under which settings are given is not that of a field. -/
theorem all_isReplacement {fields : List (String × Value)}
    (h : ∀ f ∈ fields, f.1 ∈ Settings.fieldNames) :
    (named fields).all (Settings.isReplacement ·.1) = true := by
  rw [named, List.all_map, List.all_eq_true]
  intro f hf
  show (f.1 != "new_config") = true
  rw [bne_iff_ne]
  intro heq
  exact absurd (heq ▸ h f hf) (by decide)

/-- A change succeeds with settings that have the values under its names, where these are
names of fields, and that are acceptable if anything is replaced. -/
theorem change_eq_ok_iff (hs : s.active = .settings active) :
    (s.change ch).1 = .ok v ↔ ∃ t, v = .settings t ∧
      (∀ f ∈ ch.fields, f.1 ∈ Settings.fieldNames) ∧
      (∀ name, t.get? name = (ch.fields.lookup name).or ((ch.start active).get? name)) ∧
      (ch.fields ≠ [] → t.Acceptable) := by
  rw [outcome_change hs]
  cases hfields : ch.fields with
  | nil =>
      show Except.ok (Value.settings _) = .ok v ↔ _
      constructor
      · intro h
        exact ⟨_, (Except.ok.inj h).symm, fun _ hf => (nomatch hf), fun _ => rfl,
          fun h => absurd rfl h⟩
      · rintro ⟨t, rfl, -, hget, -⟩
        rw [Settings.ext_get? hget]
  | cons f fields =>
      have hdistinct : ((f :: fields).map Prod.fst).Nodup := hfields ▸ ch.distinct
      have hsome : ¬ (named (f :: fields)).isEmpty = true := Bool.false_ne_true
      rw [if_neg hsome]
      constructor
      · intro h
        split at h
        · exact nomatch h
        · obtain ⟨t, ht, rfl⟩ := map_eq_ok_iff.mp h
          obtain ⟨hnames, hget, hacceptable⟩ := (Settings.override_named_iff hdistinct).mp ht
          exact ⟨t, rfl, hnames, hget, fun _ => hacceptable⟩
      · rintro ⟨t, rfl, hnames, hget, hacceptable⟩
        rw [all_isReplacement hnames, (Settings.override_named_iff hdistinct).mpr
          ⟨hnames, hget, hacceptable (List.cons_ne_nil f fields)⟩]
        rfl

/-- From acceptable settings a change leads to acceptable settings. -/
theorem change_eq_ok_iff_of_acceptable (hs : s.active = .settings active)
    (hactive : active.Acceptable) :
    (s.change ch).1 = .ok v ↔ ∃ t, v = .settings t ∧
      (∀ f ∈ ch.fields, f.1 ∈ Settings.fieldNames) ∧
      (∀ name, t.get? name = (ch.written? name).or (active.get? name)) ∧ t.Acceptable := by
  rw [change_eq_ok_iff hs]
  simp only [ch.written?_or active]
  constructor
  · rintro ⟨t, rfl, hnames, hget, hacceptable⟩
    refine ⟨t, rfl, hnames, hget, ?_⟩
    by_cases hfields : ch.fields = []
    · -- nothing is replaced, so that these are the settings of the start
      have ht : t = ch.start active := Settings.ext_get? fun name => by
        rw [hget, ← ch.written?_or active, hfields]
        rfl
      rw [ht]
      exact Change.acceptable_start hactive
    · exact hacceptable hfields
  · rintro ⟨t, rfl, hnames, hget, hacceptable⟩
    exact ⟨t, rfl, hnames, hget, fun _ => hacceptable⟩

/-- A field has a property after a change where every value written to it has, if it had the
property at the start. -/
theorem forall_written_iff {P : Value → Prop} {fields : List (String × Value)} {name : String}
    {old new : Value} {old? new? : Option Value} (h : new? = (fields.lookup name).or old?)
    (hnew : new? = some new) (hold : old? = some old) (hP : P old) :
    P new ↔ ∀ v ∈ fields.lookup name, P v := by
  rw [hnew, hold] at h
  cases hlookup : fields.lookup name with
  | none =>
      rw [hlookup, Option.none_or] at h
      rw [Option.some.inj h]
      exact ⟨fun _ _ hv => (nomatch hv), fun _ => hP⟩
  | some v =>
      rw [hlookup, Option.some_or] at h
      rw [Option.some.inj h]
      simp

/-- From acceptable settings, the changes that succeed are those that fit. -/
theorem change_isOk_iff (hs : s.active = .settings active) (hactive : active.Acceptable) :
    (∃ v, (s.change ch).1 = .ok v) ↔ ch.Fits := by
  have hstart : (ch.start active).Acceptable := Change.acceptable_start hactive
  have hlevel : ∀ {t : Settings}, (∀ name, t.get? name =
      (ch.fields.lookup name).or ((ch.start active).get? name)) →
      (Settings.IsLevel t.logLevel ↔ ∀ v ∈ ch.fields.lookup "log_level", Settings.IsLevel v) :=
    fun hget => forall_written_iff (hget "log_level") rfl rfl hstart.logLevel
  have hlength : ∀ {t : Settings}, (∀ name, t.get? name =
      (ch.fields.lookup name).or ((ch.start active).get? name)) →
      (Settings.IsLength t.maxLoggedLength ↔
        ∀ v ∈ ch.fields.lookup "max_logged_statement_length", Settings.IsLength v) :=
    fun hget => forall_written_iff (hget "max_logged_statement_length") rfl rfl
      hstart.maxLoggedLength
  constructor
  · rintro ⟨v, h⟩
    obtain ⟨t, rfl, hnames, hget, ht⟩ := (change_eq_ok_iff_of_acceptable hs hactive).mp h
    simp only [← ch.written?_or active] at hget
    exact ⟨hnames, (hlevel hget).mp ht.logLevel, (hlength hget).mp ht.maxLoggedLength⟩
  · intro hfits
    obtain ⟨t, hassign⟩ := Settings.exists_assign_named hfits.known (ch.start active)
    obtain ⟨-, hget⟩ := (Settings.assign_named_iff _ _ t ch.distinct).mp hassign
    have ht : t.Acceptable :=
      ⟨(hlevel hget).mpr hfits.logLevel, (hlength hget).mpr hfits.maxLoggedLength⟩
    exact ⟨_, (change_eq_ok_iff hs).mpr ⟨t, rfl, hfits.known, hget, fun _ => ht⟩⟩

/-! ## Changes one after the other -/

theorem successful_of_error {chs : List Change} {e : Fault} (h : (s.change ch).1 = .error e) :
    s.successful (ch :: chs) = s.successful chs := by
  rw [successful, h, (s.session_of_change ch).1 e h]
  rfl

theorem successful_of_ok {chs : List Change} (h : (s.change ch).1 = .ok v) :
    s.successful (ch :: chs) = ch :: successful { s with active := v } chs := by
  rw [successful, h, (s.session_of_change ch).2 v h]
  rfl

/-- After any number of changes every field has the value that the last successful one of those
that write to it gave it, or the first value where there is none. -/
theorem active_changeAll (chs : List Change) :
    ∀ {s : Session} {active : Settings}, s.active = .settings active → active.Acceptable →
      ∃ t : Settings, (s.changeAll chs).active = .settings t ∧ t.Acceptable ∧
        ∀ name, t.get? name =
          ((s.successful chs).reverse.findSome? (·.written? name)).or (active.get? name) := by
  induction chs with
  | nil => exact fun {s active} hs hactive => ⟨active, hs, hactive, fun _ => rfl⟩
  | cons ch chs ih =>
      intro s active hs hactive
      show ∃ t : Settings, ((s.change ch).2.changeAll chs).active = .settings t ∧ _
      cases houtcome : (s.change ch).1 with
      | error e =>
          rw [(s.session_of_change ch).1 e houtcome, successful_of_error houtcome]
          exact ih hs hactive
      | ok v =>
          obtain ⟨u, rfl, -, hu, hacceptable⟩ :=
            (change_eq_ok_iff_of_acceptable hs hactive).mp houtcome
          rw [(s.session_of_change ch).2 _ houtcome, successful_of_ok houtcome]
          obtain ⟨t, ht, htacceptable, hget⟩ :=
            ih (s := { s with active := .settings u }) rfl hacceptable
          refine ⟨t, ht, htacceptable, fun name => ?_⟩
          -- the changes that follow go before this one
          rw [hget, hu, List.reverse_cons, List.findSome?_append, List.findSome?_singleton,
            Option.or_assoc]

/-! ## Two changes at once -/

/-- Two changes of fields, one after the other, are one change of both, in which the values of
the second one go before those of the first. -/
theorem change_of_union (hs : s.active = .settings active) {first second both : Change}
    (hfirst : first.base = none) (hsecond : second.base = none) (hboth : both.base = none)
    (hunion : ∀ name, both.fields.lookup name =
      (second.fields.lookup name).or (first.fields.lookup name))
    {w : Value} (hw : (s.change first).1 = .ok w)
    (hv : ((s.change first).2.change second).1 = .ok v) :
    s.change both = (.ok v, ((s.change first).2.change second).2) := by
  obtain ⟨t, rfl, hnames, hget, ht⟩ := (change_eq_ok_iff hs).mp hw
  rw [(s.session_of_change first).2 _ hw] at hv ⊢
  obtain ⟨u, rfl, hnames', hget', hu⟩ := (change_eq_ok_iff rfl).mp hv
  rw [(session_of_change _ second).2 _ hv]
  simp only [Change.start, hfirst, hsecond, Option.getD_none] at hget hget'
  have hsome : ∀ name, (both.fields.lookup name).isSome = true →
      (second.fields.lookup name).isSome = true ∨ (first.fields.lookup name).isSome = true := by
    intro name h
    rwa [hunion, Option.isSome_or, Bool.or_eq_true] at h
  have hknown : ∀ f ∈ both.fields, f.1 ∈ Settings.fieldNames :=
    forall_name_iff.mpr fun name h => (hsome name h).elim
      (forall_name_iff.mp hnames' name) (forall_name_iff.mp hnames name)
  have houtcome : (s.change both).1 = .ok (.settings u) := by
    refine (change_eq_ok_iff hs).mpr ⟨u, rfl, hknown, fun name => ?_, fun hne => ?_⟩
    · rw [hget', hget, hunion, Change.start, hboth, Option.or_assoc]
      rfl
    · by_cases hempty : second.fields = []
      · -- the second change replaces nothing, so that its settings are those of the first
        have hut : u = t := Settings.ext_get? fun name => by
          rw [hget', hempty]
          rfl
        rw [hut]
        refine ht fun hempty' => hne (List.eq_nil_iff_forall_not_mem.mpr ?_)
        refine (forall_name_iff (P := fun _ => False)).mpr fun name h => ?_
        simpa [hempty, hempty'] using hsome name h
      · exact hu hempty
  exact Prod.ext houtcome ((s.session_of_change both).2 _ houtcome)

/-- A change that fails leaves the session as it was, and one that succeeds makes active what it
gives. From the standard settings on, after any number of changes, settings with a level and a
length are active in which every field has the value that the last successful one of the changes
that write to it gave it, and the next change succeeds where it fits. Two changes of fields, one
after the other, are one change of both. -/
theorem active_settings :
    (∀ (s : Session) (ch : Change),
      (∀ e, (s.change ch).1 = .error e → (s.change ch).2 = s) ∧
      ∀ v, (s.change ch).1 = .ok v → (s.change ch).2 = { s with active := v }) ∧
    (∀ (s : Session) (chs : List Change), s.active = .settings .standard →
      ∃ t : Settings, (s.changeAll chs).active = .settings t ∧ t.Acceptable ∧
        (∀ name, t.get? name = ((s.successful chs).reverse.findSome? (·.written? name)).or
          (Settings.standard.get? name)) ∧
        ∀ ch, (∃ v, ((s.changeAll chs).change ch).1 = .ok v) ↔ ch.Fits) ∧
    ∀ (s : Session) (active : Settings) (first second both : Change), s.active = .settings active →
      first.base = none → second.base = none → both.base = none →
      (∀ name, both.fields.lookup name =
        (second.fields.lookup name).or (first.fields.lookup name)) →
      ∀ w v, (s.change first).1 = .ok w → ((s.change first).2.change second).1 = .ok v →
        s.change both = (.ok v, ((s.change first).2.change second).2) := by
  refine ⟨session_of_change, fun s chs hs => ?_, ?_⟩
  · have hstandard : Settings.Made .standard := ⟨[], rfl⟩
    obtain ⟨t, ht, hacceptable, hget⟩ := active_changeAll chs hs hstandard.acceptable
    exact ⟨t, ht, hacceptable, hget, fun ch => change_isOk_iff ht hacceptable⟩
  · intro s active first second both hs hfirst hsecond hboth hunion w v hw hv
    exact change_of_union hs hfirst hsecond hboth hunion hw hv

/-- A change of the level, in another letter case and with blanks around it. -/
def quietly : Change where
  fields := [("log_level", .text " error "), ("strict_select", .bool true)]

/-- A change to a length of zero. -/
def lengthless : Change where
  fields := [("max_logged_statement_length", .int 0)]

/-- A change of the length that makes no check of a source. -/
def briefly : Change where
  fields := [("max_logged_statement_length", .int 80), ("strict_select", .bool false)]

/-- The first and the last of them at once. -/
def quietlyAndBriefly : Change where
  fields := [("max_logged_statement_length", .int 80), ("strict_select", .bool false),
    ("log_level", .text " error ")]

/-- A length of zero is refused among the others, and the last change keeps the level of the
first one. -/
theorem active_settings_quietly :
    let s : Session := { clock := "" }
    (∃ t : Settings, (s.changeAll [quietly, lengthless, briefly]).active = .settings t ∧
      t.Acceptable ∧ t.get? "log_level" = some (.text " error ") ∧
      t.get? "strict_select" = some (.bool false) ∧ t.get? "log_dir" = some (.text "logs")) ∧
    (s.change lengthless).2 = s ∧
    s.change quietlyAndBriefly =
      ((s.change quietlyAndBriefly).1, ((s.change quietly).2.change briefly).2) := by
  intro s
  have hsuccessful : s.successful [quietly, lengthless, briefly] = [quietly, briefly] := by
    rfl
  refine ⟨?_, ?_, ?_⟩
  · obtain ⟨t, ht, hacceptable, hget, -⟩ :=
      active_settings.2.1 s [quietly, lengthless, briefly] rfl
    refine ⟨t, ht, hacceptable, ?_, ?_, ?_⟩ <;> rw [hget, hsuccessful] <;> rfl
  · exact (active_settings.1 s lengthless).1 _ rfl
  · have hunion : ∀ name, quietlyAndBriefly.fields.lookup name =
        (briefly.fields.lookup name).or (quietly.fields.lookup name) := by
      intro name
      simp only [quietlyAndBriefly, briefly, quietly, List.lookup_cons, List.lookup_nil]
      cases name == "log_level" <;> cases name == "strict_select" <;>
        cases name == "max_logged_statement_length" <;> rfl
    exact active_settings.2.2 s .standard quietly briefly quietlyAndBriefly rfl rfl rfl rfl
      hunion _ _ rfl rfl

end Session

end SqlText
