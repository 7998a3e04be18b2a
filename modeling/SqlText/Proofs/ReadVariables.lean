import Mathlib.Data.List.Nodup
import SqlText.Proofs.ExactOrder
import SqlText.Proofs.UsableLevels
import SqlText.Settings.Environment

/-!
# Reading variables — seven texts, each for one field

    QUERY_LOG_LEVEL=" debug "   QUERY_LOG_MAX_LENGTH="0"   HOME="/root"

Every field of the settings has one variable and every variable one form, which says what texts
are accepted, what they are read as, and how another text is refused. Settings are read where
every variable has a text that its form accepts, or none, and each field is then what its own
variable is read as, or the standard value. Of several malformed variables the first in the order
of reading is refused. Nothing else counts: not the order of the entries, nor other variables, nor
whether a variable is there without a text or is not there at all.

The variables that a reader makes of a file are read after those of the process, whose names begin
as ours do, have been put in their place one by one. Of the reader no more is taken than that it
makes variables of a file, where it makes anything of it.

* **`Form.read_of_accepts`**, **`Form.exists_refusal`**: what a form makes of a text.
* **`Variables.read_congr`**: only the texts of the seven variables count.
* **`Variables.gives_of_read`**, **`Variables.exists_read`**: settings that are read.
* **`Variables.read_of_malformed`**: the first malformed variable.
* **`Environment.overlay_entries`**: variables over those of a file.
* **`Environment.IsReader`**, **`VariableFile.isReader_read`**: readers of files.
* **`variables_are_read`**: all of it.
-/

namespace SqlText

namespace Settings

/-! ## Forms -/

/-- How the text of a variable is read. -/
inductive Form where
  | level
  | file
  | directory
  | flag
  | length

namespace Form

variable {f : Form} {name t : String} {v : Value}

/-- The reading of a form. -/
def read : Form → String → Value → Except Fault (Option Value)
  | level     => readLevelField
  | file      => readFile
  | directory => readDirectory
  | flag      => readFlagField
  | length    => readLengthField

/-- The texts that a form accepts. -/
def Accepts : Form → String → Prop
  | level,     t => Text.upper (Text.strip t) ∈ validLevels
  | file,      _ => True
  | directory, _ => True
  | flag,      t => Text.lower (Text.strip t) ∈ setFlags ++ clearFlags
  | length,    t => ∃ n, Text.readInteger? (Text.strip t) = some n ∧ 0 < n

/-- What an accepted text is read as, if it is read as anything. -/
def value? : Form → String → Option Value
  | level,     t => some (.text (Text.upper (Text.strip t)))
  | file,      t => some (if Text.strip t = "" then .null else .text (Text.strip t))
  | directory, t => if Text.strip t = "" then none else some (.text (Text.strip t))
  | flag,      t => some (.bool (decide (Text.lower (Text.strip t) ∈ setFlags)))
  | length,    t => (Text.readInteger? (Text.strip t)).map .int

/-- How a form refuses a text that is not accepted. -/
inductive Refuses (name t : String) : Form → ConfigurationError → Prop where
  | level : Refuses name t .level (.level name (.text t))
  | flag : Refuses name t .flag (.flag name (.text t))
  | integer (h : Text.readInteger? (Text.strip t) = none) :
      Refuses name t .length (.integer name (.text t))
  | notPositive {n : Int} (h : Text.readInteger? (Text.strip t) = some n) (hn : n ≤ 0) :
      Refuses name t .length (.notPositive name (.int n))

/-- A value that is a text without blanks at its ends, and not the empty one. -/
def IsTrimmed (v : Value) : Prop := ∃ t, v = .text t ∧ t ≠ "" ∧ Text.strip t = t

/-- What a field of a form holds. -/
def Holds : Form → Value → Prop
  | level,     v => ∃ severity : Log.Severity, v = .text severity.name
  | file,      v => v = .null ∨ IsTrimmed v
  | directory, v => IsTrimmed v
  | flag,      v => ∃ b, v = .bool b
  | length,    v => ∃ n : Int, v = .int n ∧ 0 < n

theorem readFlag_text (name text : String) :
    readFlag name (.text text) =
      if Text.lower (Text.strip text) ∈ setFlags then .ok true
      else if Text.lower (Text.strip text) ∈ clearFlags then .ok false
      else .error (.configuration (.flag name (.text text))) := by
  rw [readFlag, Value.stripped, ok_bind]
  simp only [List.contains_iff_mem]
  rfl

theorem readLength_text (name text : String) :
    readLength name (.text text) =
      match Text.readInteger? (Text.strip text) with
      | none   => .error (.configuration (.integer name (.text text)))
      | some n =>
        if n ≤ 0 then .error (.configuration (.notPositive name (.int n))) else .ok n := by
  rw [readLength, Value.stripped, ok_bind, integer?]
  cases Text.readInteger? (Text.strip text) with
  | none => rfl
  | some n =>
      dsimp only
      split <;> rfl

/-- An accepted text is read. -/
theorem read_of_accepts (h : f.Accepts t) (name : String) :
    f.read name (.text t) = .ok (f.value? t) := by
  cases f with
  | level =>
      have hlevel : Text.upper (Text.strip t) ∈ validLevels := h
      rw [read, readLevelField, readLevel_text, if_pos hlevel]
      rfl
  | file =>
      show Except.ok (some ((Value.text (Text.strip t)).orElse .null)) = _
      by_cases hblank : Text.strip t = ""
      · rw [value?, hblank]
        rfl
      · rw [value?, Value.orElse, if_neg hblank, if_pos ((Value.isGiven_text _).mpr hblank)]
  | directory =>
      show Except.ok (if (Value.text (Text.strip t)).isGiven then some _ else none) = _
      by_cases hblank : Text.strip t = ""
      · rw [value?, hblank]
        rfl
      · rw [value?, if_neg hblank, if_pos ((Value.isGiven_text _).mpr hblank)]
  | flag =>
      rw [read, readFlagField, readFlag_text, value?]
      by_cases hset : Text.lower (Text.strip t) ∈ setFlags
      · rw [if_pos hset, decide_eq_true hset]
        rfl
      · have hclear := (List.mem_append.mp h).resolve_left hset
        rw [if_neg hset, if_pos hclear, decide_eq_false hset]
        rfl
  | length =>
      obtain ⟨n, hn, hpos⟩ := h
      rw [read, readLengthField, readLength_text, value?, hn]
      dsimp only
      rw [if_neg (not_le.mpr hpos)]
      rfl

/-- Another text is refused. -/
theorem exists_refusal (h : ¬ f.Accepts t) (name : String) :
    ∃ e, f.Refuses name t e ∧ f.read name (.text t) = .error (.configuration e) := by
  cases f with
  | level =>
      have hlevel : Text.upper (Text.strip t) ∉ validLevels := h
      refine ⟨_, .level, ?_⟩
      rw [read, readLevelField, readLevel_text, if_neg hlevel]
      rfl
  | file => exact absurd trivial h
  | directory => exact absurd trivial h
  | flag =>
      have hset : Text.lower (Text.strip t) ∉ setFlags := fun h' => h (List.mem_append_left _ h')
      have hclear : Text.lower (Text.strip t) ∉ clearFlags :=
        fun h' => h (List.mem_append_right _ h')
      refine ⟨_, .flag, ?_⟩
      rw [read, readFlagField, readFlag_text, if_neg hset, if_neg hclear]
      rfl
  | length =>
      rw [read, readLengthField, readLength_text]
      cases hn : Text.readInteger? (Text.strip t) with
      | none => exact ⟨_, .integer hn, rfl⟩
      | some n =>
          have hle : n ≤ 0 := not_lt.mp fun hpos => h ⟨n, hn, hpos⟩
          refine ⟨_, .notPositive hn hle, ?_⟩
          dsimp only
          rw [if_pos hle]
          rfl

/-- A refusal names the variable. -/
theorem Refuses.names {e : ConfigurationError} (h : f.Refuses name t e) :
    ∃ rest, e.message = name ++ " must be " ++ rest := by
  have hlevel : " must be one of " = " must be " ++ "one of " := rfl
  have hflag : " must be a boolean flag, got " = " must be " ++ "a boolean flag, got " := rfl
  have hinteger : " must be an integer, got " = " must be " ++ "an integer, got " := rfl
  have hpositive : " must be positive, got " = " must be " ++ "positive, got " := rfl
  cases h <;> simp only [ConfigurationError.message, hlevel, hflag, hinteger, hpositive,
    String.append_assoc]
  all_goals exact ⟨_, rfl⟩

/-- What an accepted text is read as is such as the field holds. -/
theorem holds_of_value? (h : f.Accepts t) (hv : f.value? t = some v) : f.Holds v := by
  cases f with
  | level =>
      obtain ⟨severity, hname⟩ := mem_validLevels_iff.mp h
      rw [← Option.some.inj hv, hname]
      exact ⟨severity, rfl⟩
  | file =>
      rw [← Option.some.inj hv]
      by_cases hblank : Text.strip t = ""
      · exact .inl (if_pos hblank)
      · exact .inr ⟨_, if_neg hblank, hblank, Text.strip_strip t⟩
  | directory =>
      rw [value?] at hv
      by_cases hblank : Text.strip t = ""
      · rw [if_pos hblank] at hv
        exact nomatch hv
      · rw [if_neg hblank] at hv
        exact ⟨_, (Option.some.inj hv).symm, hblank, Text.strip_strip t⟩
  | flag => exact ⟨_, (Option.some.inj hv).symm⟩
  | length =>
      obtain ⟨n, hn, hpos⟩ := h
      rw [value?, hn] at hv
      exact ⟨n, (Option.some.inj hv).symm, hpos⟩

end Form

/-! ## The seven variables -/

/-- The variables that settings are read from. -/
inductive Variable where
  | logLevel
  | logFile
  | logDir
  | useColors
  | logStatements
  | strictSelect
  | maxLoggedLength
deriving DecidableEq

namespace Variable

/-- The variables in the order in which they are read. -/
def all : List Variable :=
  [logLevel, logFile, logDir, useColors, logStatements, strictSelect, maxLoggedLength]

/-- What the name of a variable ends in. -/
def ending : Variable → String
  | logLevel        => "LOG_LEVEL"
  | logFile         => "LOG_FILE"
  | logDir          => "LOG_DIR"
  | useColors       => "LOG_COLORS"
  | logStatements   => "LOG_STATEMENTS"
  | strictSelect    => "STRICT_SELECT"
  | maxLoggedLength => "LOG_MAX_LENGTH"

/-- The name of a variable. -/
def name (x : Variable) : String := variablePrefix ++ x.ending

/-- The name of the field that a variable sets. -/
def field : Variable → String
  | logLevel        => "log_level"
  | logFile         => "log_file"
  | logDir          => "log_dir"
  | useColors       => "use_colors"
  | logStatements   => "log_statements"
  | strictSelect    => "strict_select"
  | maxLoggedLength => "max_logged_statement_length"

/-- The form of a variable. -/
def form : Variable → Form
  | logLevel        => .level
  | logFile         => .file
  | logDir          => .directory
  | useColors       => .flag
  | logStatements   => .flag
  | strictSelect    => .flag
  | maxLoggedLength => .length

theorem mem_all (x : Variable) : x ∈ all := by cases x <;> decide

theorem nodup_all : all.Nodup := by decide

theorem field_mem (x : Variable) : x.field ∈ fieldNames := by cases x <;> decide

/-- No two variables set the same field. -/
theorem field_injective : Function.Injective field := by
  intro x y h
  cases x <;> cases y <;> first | rfl | exact absurd h (by decide)

/-- The standard settings hold in every field what its variable could be read as. -/
theorem holds_standard (x : Variable) :
    ∃ v, standard.get? x.field = some v ∧ x.form.Holds v := by
  cases x with
  | logLevel => exact ⟨_, rfl, .info, rfl⟩
  | logFile => exact ⟨_, rfl, .inl rfl⟩
  | logDir => exact ⟨_, rfl, "logs", rfl, by decide, by decide⟩
  | useColors => exact ⟨_, rfl, _, rfl⟩
  | logStatements => exact ⟨_, rfl, _, rfl⟩
  | strictSelect => exact ⟨_, rfl, _, rfl⟩
  | maxLoggedLength => exact ⟨_, rfl, 500, rfl, by decide⟩

end Variable

/-- Settings that hold in every field what its variable could be read as are acceptable. -/
theorem acceptable_of_holds {cfg : Settings}
    (h : ∀ x : Variable, ∃ v, cfg.get? x.field = some v ∧ x.form.Holds v) : cfg.Acceptable where
  logLevel := by
    obtain ⟨_, hv, severity, rfl⟩ := h .logLevel
    refine ⟨severity.name, Option.some.inj hv, ?_⟩
    cases severity <;> decide
  maxLoggedLength := by
    obtain ⟨_, hv, n, rfl, hpos⟩ := h .maxLoggedLength
    have hlength : cfg.maxLoggedLength = .int n := Option.some.inj hv
    rw [IsLength, hlength, notPositive_int, decide_eq_false (not_le.mpr hpos)]

/-- Variables as a mapping has them: names, each with a text or with none. -/
abbrev Variables := List (String × Option String)

namespace Variables

variable {vs ws : Variables} {x : Variable}

/-- The value of a text, null where there is none. -/
def valueOf (t? : Option String) : Value := t?.elim .null .text

/-- The entries of variables. -/
def entries (vs : Variables) : List (Value × Value) :=
  named (vs.map fun p => (p.1, valueOf p.2))

theorem entries_injective : Function.Injective entries := by
  intro vs ws h
  have hentry : Function.Injective fun p : String × Option String =>
      (Value.text p.1, valueOf p.2) := by
    rintro ⟨name, t?⟩ ⟨name', t?'⟩ heq
    obtain ⟨hname, hvalue⟩ := Prod.mk.inj heq
    cases t? <;> cases t?' <;> cases hname <;> cases hvalue <;> rfl
  rw [entries, entries, named, named, List.map_map, List.map_map] at h
  exact List.map_injective_iff.mpr hentry h

/-- The settings that variables are read as. -/
def read (vs : Variables) : Except Fault Settings := ofVariables vs.entries

/-- The text under a name, if there is one. -/
def text? (vs : Variables) (name : String) : Option String := (vs.lookup name).join

/-- A variable that has no text, or one that its form accepts. -/
def WellFormed (vs : Variables) (x : Variable) : Prop :=
  ∀ t ∈ vs.text? x.name, x.form.Accepts t

/-- What a variable is read as, if it is read as anything. -/
def value? (vs : Variables) (x : Variable) : Option Value :=
  (vs.text? x.name).bind x.form.value?

/-- Settings in which each field is what its own variable is read as, or the standard value. -/
def Gives (vs : Variables) (cfg : Settings) : Prop :=
  ∀ x : Variable, ∃ v, cfg.get? x.field = some v ∧ x.form.Holds v ∧
    some v = (vs.value? x).or (standard.get? x.field)

/-- A refusal of the first variable that is malformed, which it names. -/
def RefusedFor (vs : Variables) (e : ConfigurationError) : Prop :=
  ∃ before x after t, Variable.all = before ++ x :: after ∧ (∀ y ∈ before, vs.WellFormed y) ∧
    vs.text? x.name = some t ∧ ¬ x.form.Accepts t ∧ x.form.Refuses x.name t e ∧
    ∃ rest, e.message = x.name ++ " must be " ++ rest

/-! ### One variable -/

theorem lookup_map {α β : Type} (f : α → β) (name : String) (fields : List (String × α)) :
    (fields.map fun p => (p.1, f p.2)).lookup name = (fields.lookup name).map f := by
  induction fields with
  | nil => rfl
  | cons p fields ih =>
      rw [List.map_cons, lookup_cons_if, lookup_cons_if, ih]
      split <;> rfl

theorem valueAt_entries (vs : Variables) (name : String) :
    valueAt name vs.entries = valueOf (vs.text? name) := by
  rw [valueAt, entries, valueAt?_named, lookup_map, text?]
  rcases vs.lookup name with _ | _ | _ <;> rfl

/-- A variable is read for its own field. -/
theorem readVariable_entries (vs : Variables) (x : Variable) :
    readVariable vs.entries x.ending x.field x.form.read =
      match vs.text? x.name with
      | none   => .ok []
      | some t =>
        (x.form.read x.name (.text t)).map fun v? => named (v?.toList.map (x.field, ·)) := by
  have hvalue : valueAt (variablePrefix ++ x.ending) vs.entries = _ := vs.valueAt_entries x.name
  rw [readVariable, hvalue]
  cases vs.text? x.name with
  | none => rfl
  | some t =>
      show (x.form.read x.name (.text t) >>= _) = (x.form.read x.name (.text t)).map _
      rcases x.form.read x.name (.text t) with e | _ | v <;> rfl

theorem readVariable_of_wellFormed (h : vs.WellFormed x) :
    readVariable vs.entries x.ending x.field x.form.read =
      .ok (named ((vs.value? x).map (x.field, ·)).toList) := by
  rw [readVariable_entries, value?]
  cases ht : vs.text? x.name with
  | none => rfl
  | some t =>
      dsimp only
      rw [x.form.read_of_accepts (h t ht)]
      show Except.ok _ = _
      rw [Option.bind_some]
      cases x.form.value? t <;> rfl

/-! ### All of them -/

/-- The variables are read one after the other, and then settings are made. -/
theorem ofVariables_eq (es : List (Value × Value)) :
    ofVariables es =
      (Variable.all.mapM fun x => readVariable es x.ending x.field x.form.read) >>=
        fun fs => make fs.flatten := by
  simp only [ofVariables, Variable.all, List.mapM_cons, List.mapM_nil, bind_assoc, pure_bind,
    List.flatten_cons, List.flatten_nil, List.append_nil, List.append_assoc]
  rfl

/-- Only the values of the variables count. -/
theorem ofVariables_congr {es fs : List (Value × Value)}
    (h : ∀ x : Variable, valueAt x.name es = valueAt x.name fs) :
    ofVariables es = ofVariables fs := by
  rw [ofVariables_eq, ofVariables_eq]
  have hread : ∀ x : Variable, readVariable es x.ending x.field x.form.read =
      readVariable fs x.ending x.field x.form.read := by
    intro x
    have hvalue : valueAt (variablePrefix ++ x.ending) es = _ := h x
    rw [readVariable, hvalue]
    rfl
  rw [funext hread]

/-- Variables with the same texts are read alike. -/
theorem read_congr (h : ∀ x : Variable, vs.text? x.name = ws.text? x.name) :
    vs.read = ws.read :=
  ofVariables_congr fun x => by rw [valueAt_entries, valueAt_entries, h]

/-- Variables in another order are read alike. -/
theorem read_perm (hnodup : (vs.map Prod.fst).Nodup) (hperm : vs.Perm ws) :
    vs.read = ws.read := by
  refine ofVariables_congr fun x => (valueAt_perm ((hperm.map _).map _) ?_ x.name).symm
  refine keysDiffer_named ?_
  rw [List.map_map]
  exact hnodup

/-! ### Settings -/

/-- The fields that variables set. -/
def fields (vs : Variables) : List (String × Value) :=
  Variable.all.filterMap fun x => (vs.value? x).map (x.field, ·)

theorem mem_fields {f : String × Value} :
    f ∈ vs.fields ↔ ∃ x : Variable, vs.value? x = some f.2 ∧ x.field = f.1 := by
  simp only [fields, List.mem_filterMap, Option.map_eq_some_iff, Prod.ext_iff]
  constructor
  · rintro ⟨x, -, v, hv, hname, rfl⟩
    exact ⟨x, hv, hname⟩
  · rintro ⟨x, hv, hname⟩
    exact ⟨x, x.mem_all, f.2, hv, hname, rfl⟩

theorem nodup_fields (vs : Variables) : (vs.fields.map Prod.fst).Nodup := by
  rw [fields, List.map_filterMap]
  refine Variable.nodup_all.filterMap fun x y name hx hy => Variable.field_injective ?_
  simp only [Option.mem_def, Option.map_map, Option.map_eq_some_iff] at hx hy
  obtain ⟨_, -, rfl⟩ := hx
  obtain ⟨_, -, hname⟩ := hy
  exact hname.symm

/-- Every field is set to what its own variable is read as. -/
theorem lookup_fields (vs : Variables) (x : Variable) :
    vs.fields.lookup x.field = vs.value? x := by
  rw [← valueAt?_named]
  refine Option.ext fun v => ?_
  have hmem : (.text x.field, v) ∈ named vs.fields ↔ vs.value? x = some v := by
    constructor
    · intro h
      obtain ⟨f, hf, heq⟩ := List.mem_map.mp h
      obtain ⟨hname, hv⟩ := Prod.mk.inj heq
      obtain ⟨y, hy, hfield⟩ := mem_fields.mp hf
      obtain rfl := Variable.field_injective (hfield.trans (Value.text.inj hname))
      rw [hy, hv]
    · exact fun hv => List.mem_map.mpr ⟨(x.field, v), mem_fields.mpr ⟨x, hv, rfl⟩, rfl⟩
  rw [← hmem]
  exact ⟨mem_of_valueAt?, valueAt?_of_mem (keysDiffer_named vs.nodup_fields)⟩

/-- Where all variables are well-formed, settings are made of what they are read as. -/
theorem read_of_wellFormed (h : ∀ x, vs.WellFormed x) : vs.read = make (named vs.fields) := by
  rw [read, ofVariables_eq, mapM_eq_ok_map fun x _ => readVariable_of_wellFormed (h x), ok_bind,
    ← List.flatMap_def, fields, List.filterMap_eq_flatMap_toList]
  exact congrArg make (List.map_flatMap).symm

/-- What variables give in every field is such as the field holds. -/
theorem holds_value? (h : vs.WellFormed x) :
    ∃ v, (vs.value? x).or (standard.get? x.field) = some v ∧ x.form.Holds v := by
  cases hv : vs.value? x with
  | none => exact x.holds_standard
  | some v =>
      obtain ⟨t, ht, htv⟩ := Option.bind_eq_some_iff.mp hv
      exact ⟨v, rfl, x.form.holds_of_value? (h t ht) htv⟩

/-- Well-formed variables are read. -/
theorem exists_read (h : ∀ x, vs.WellFormed x) : ∃ cfg, vs.read = .ok cfg ∧ vs.Gives cfg := by
  have hnames : ∀ f ∈ vs.fields, f.1 ∈ fieldNames := by
    intro f hf
    obtain ⟨x, -, hname⟩ := mem_fields.mp hf
    rw [← hname]
    exact x.field_mem
  obtain ⟨cfg, hcfg⟩ := exists_assign_named hnames standard
  obtain ⟨-, hget⟩ := (assign_named_iff _ _ _ vs.nodup_fields).mp hcfg
  have hgives : vs.Gives cfg := by
    intro x
    obtain ⟨v, hv, hholds⟩ := holds_value? (h x)
    rw [hget, lookup_fields, hv]
    exact ⟨v, rfl, hholds, rfl⟩
  have hacceptable : cfg.Acceptable := acceptable_of_holds fun x => by
    obtain ⟨v, hv, hholds, -⟩ := hgives x
    exact ⟨v, hv, hholds⟩
  refine ⟨cfg, ?_, hgives⟩
  rw [read_of_wellFormed h, make, hcfg]
  exact validated_eq_ok_iff.mpr ⟨rfl, hacceptable⟩

/-- The first malformed variable is refused. -/
theorem read_of_malformed (h : ¬ ∀ x, vs.WellFormed x) :
    ∃ e, vs.read = .error (.configuration e) ∧ vs.RefusedFor e := by
  rcases forall_or_first vs.WellFormed Variable.all with
    hall | ⟨before, x, after, hsplit, hbefore, hx⟩
  · exact absurd (fun x => hall x x.mem_all) h
  · simp only [WellFormed, not_forall] at hx
    obtain ⟨t, ht, hnot⟩ := hx
    obtain ⟨e, he, hread⟩ := x.form.exists_refusal hnot x.name
    -- those before it are read, and those after it are not looked at
    refine ⟨e, ?_, before, x, after, t, hsplit, hbefore, ht, hnot, he, he.names⟩
    rw [read, ofVariables_eq, hsplit, List.mapM_append, List.mapM_cons,
      mapM_eq_ok_map fun y hy => readVariable_of_wellFormed (hbefore y hy), ok_bind,
      readVariable_entries, Option.mem_def.mp ht]
    dsimp only
    rw [hread]
    rfl

/-- Settings are read exactly from well-formed variables. -/
theorem read_iff : (∃ cfg, vs.read = .ok cfg) ↔ ∀ x, vs.WellFormed x := by
  constructor
  · rintro ⟨cfg, hcfg⟩
    by_contra h
    obtain ⟨e, he, -⟩ := read_of_malformed h
    exact nomatch hcfg.symm.trans he
  · intro h
    obtain ⟨cfg, hcfg, -⟩ := exists_read h
    exact ⟨cfg, hcfg⟩

theorem gives_of_read {cfg : Settings} (h : vs.read = .ok cfg) : vs.Gives cfg := by
  obtain ⟨cfg', hcfg', hgives⟩ := exists_read (read_iff.mp ⟨cfg, h⟩)
  rw [Except.ok.inj (h.symm.trans hcfg')]
  exact hgives

/-! ## Variables over others -/

/-- Puts a variable among others, in the place of one of its name or last. -/
def insert (name : String) (t? : Option String) : Variables → Variables
  | []      => [(name, t?)]
  | p :: vs => if p.1 = name then (name, t?) :: vs else p :: insert name t? vs

/-- Variables of which those whose names begin as ours do are put among others. -/
def laidOver (process file : Variables) : Variables :=
  (process.filter fun p => Environment.isOurs (.text p.1)).foldl
    (fun vs p => vs.insert p.1 p.2) file

theorem entries_insert (name : String) (t? : Option String) (vs : Variables) :
    insertEntry (.text name) (valueOf t?) vs.entries = (vs.insert name t?).entries := by
  induction vs with
  | nil => rfl
  | cons p vs ih =>
      show insertEntry _ _ ((.text p.1, valueOf p.2) :: entries vs) = _
      rw [insertEntry, insert, ih]
      by_cases hname : p.1 = name
      · rw [if_pos ((Value.same_text_iff _ _).mpr (congrArg _ hname)), if_pos hname, hname]
        rfl
      · rw [if_neg fun h => hname (Value.text.inj ((Value.same_text_iff _ _).mp h)), if_neg hname]
        rfl

theorem lookup_insert (name other : String) (t? : Option String) (vs : Variables) :
    (vs.insert name t?).lookup other = if other = name then some t? else vs.lookup other := by
  induction vs with
  | nil =>
      rw [insert, lookup_cons_if]
  | cons p vs ih =>
      rw [insert, lookup_cons_if]
      by_cases hname : p.1 = name
      · rw [if_pos hname, lookup_cons_if, hname]
        split <;> rfl
      · rw [if_neg hname, lookup_cons_if, ih]
        by_cases hother : other = p.1
        · rw [if_pos hother, if_neg fun h => hname (hother.symm.trans h), if_pos hother]
        · rw [if_neg hother, if_neg hother]

/-- Of variables that are put among others, each has its own text, and the others keep theirs. -/
theorem lookup_foldl_insert (name : String) :
    ∀ (vs ws : Variables), (vs.map Prod.fst).Nodup →
      (vs.foldl (fun us p => insert p.1 p.2 us) ws).lookup name =
        (vs.lookup name).or (ws.lookup name) := by
  intro vs
  induction vs with
  | nil => exact fun _ _ => rfl
  | cons p vs ih =>
      intro ws hnodup
      obtain ⟨hnew, hnodup⟩ := List.nodup_cons.mp hnodup
      rw [List.foldl_cons, ih _ hnodup, lookup_insert, lookup_cons_if]
      by_cases hname : name = p.1
      · -- no variable that follows has this name, so that its text stays
        rw [if_pos hname, if_pos hname, lookup_of_not_mem (hname ▸ hnew)]
        rfl
      · rw [if_neg hname, if_neg hname]

theorem lookup_filter {α : Type} (P : String → Bool) (name : String)
    (fields : List (String × α)) :
    (fields.filter fun p => P p.1).lookup name = if P name then fields.lookup name else none := by
  induction fields with
  | nil => cases P name <;> rfl
  | cons p fields ih =>
      rw [List.filter_cons, lookup_cons_if]
      by_cases hname : name = p.1
      · subst hname
        cases hP : P p.1 <;> simp [hP, ih, lookup_cons_if]
      · cases P p.1 <;> simp [ih, lookup_cons_if, hname]

/-- Where the name of a variable begins as ours do, the process counts before the file. -/
theorem lookup_laidOver {process : Variables} (hnodup : (process.map Prod.fst).Nodup)
    (file : Variables) (name : String) :
    (process.laidOver file).lookup name =
      if Environment.isOurs (.text name) then (process.lookup name).or (file.lookup name)
      else file.lookup name := by
  rw [laidOver, lookup_foldl_insert, lookup_filter fun name => Environment.isOurs (.text name)]
  · split <;> rfl
  · exact hnodup.sublist (List.filter_sublist.map _)

end Variables

end Settings

namespace Environment

open Settings (Variables)

/-- Variables over those of a file. -/
theorem overlay_entries (process file : Variables) :
    overlay file.entries process.entries = (process.laidOver file).entries := by
  have hours : process.entries.filter (isOurs ·.1) =
      (process.filter fun p => isOurs (.text p.1)).map fun p =>
        (.text p.1, Variables.valueOf p.2) := by
    simp only [Variables.entries, named, List.map_map, List.filter_map]
    rfl
  rw [overlay, hours, List.foldl_map, Variables.laidOver]
  exact List.foldl_hom Variables.entries fun vs p => Variables.entries_insert p.1 p.2 vs

/-- What is taken of a reader of files: whatever it makes of a file are variables, each with a
text or with none. -/
structure IsReader (reader : Reader) : Prop where
  makes_variables : ∀ (warn : Nat → Build Unit) (process : Variables) (content : String)
    (c : Context) (es : List (Value × Value)),
    (reader warn process.entries content).outcome c = .ok es →
      ∃ file : Variables, es = file.entries

end Environment

namespace VariableFile

open Settings (Variables)

/-- One item of a file adds a variable to others, or nothing. -/
theorem exists_addItem (process : List (Value × Value)) (vs : Variables) (item : Item) :
    ∃ ws : Variables, addItem process vs.entries item = ws.entries := by
  cases item with
  | entry name value? =>
      cases value? with
      | none => exact ⟨_, vs.entries_insert name none⟩
      | some cs => exact ⟨_, vs.entries_insert name (some _)⟩
  | malformed line => exact ⟨vs, rfl⟩

/-- A file holds variables, each with a text or with none. -/
theorem exists_entries (process : List (Value × Value)) (content : String) :
    ∃ file : Variables, entries process content = file.entries := by
  -- what was read before an item has to be variables again, whatever they are
  have hitems : ∀ (its : List Item) (vs : Variables),
      ∃ file : Variables, its.foldl (addItem process) vs.entries = file.entries := by
    intro its
    induction its with
    | nil => exact fun vs => ⟨vs, rfl⟩
    | cons item its ih =>
        intro vs
        obtain ⟨ws, hws⟩ := exists_addItem process vs item
        rw [List.foldl_cons, hws]
        exact ih ws
  exact hitems _ []

/-- The program's own reader is one. -/
theorem isReader_read : Environment.IsReader read where
  makes_variables warn process content c es h := by
    obtain ⟨file, hfile⟩ := exists_entries process.entries content
    rw [read, Build.outcome_bind] at h
    obtain ⟨_, -, h⟩ := bind_eq_ok_iff.mp h
    exact ⟨file, (Except.ok.inj h).symm.trans hfile⟩

end VariableFile

namespace Settings

open Environment (Reader IsReader isOurs)

variable {reader : Reader} {warn : Nat → Build Unit} {c : Context}

/-- Without a file the settings of a process are read from its own variables. -/
theorem outcome_ofEnvironment_none (process : Variables) :
    (ofEnvironment warn none process.entries reader).outcome c =
      (process.laidOver []).read := by
  show ofVariables (Environment.overlay [] process.entries) = _
  exact congrArg ofVariables (Environment.overlay_entries process [])

/-- With a file they are read from its own variables over what the reader makes of the file. -/
theorem outcome_ofEnvironment_some (process : Variables) (content : String) :
    (ofEnvironment warn (some content) process.entries reader).outcome c =
      (reader warn process.entries content).outcome c >>= fun es =>
        ofVariables (Environment.overlay es process.entries) := by
  rw [ofEnvironment, Build.outcome_bind]
  rfl

/-- Whether there is a file or not, they are read from its own variables over those of the
file. -/
theorem outcome_ofEnvironment_of_read {content? : Option String} {process file : Variables}
    (hread : ∀ content ∈ content?,
      (reader warn process.entries content).outcome c = .ok file.entries)
    (hnone : content? = none → file = []) :
    (ofEnvironment warn content? process.entries reader).outcome c =
      (process.laidOver file).read := by
  cases content? with
  | none => rw [hnone rfl, outcome_ofEnvironment_none]
  | some content =>
      rw [outcome_ofEnvironment_some, hread content rfl, ok_bind, Environment.overlay_entries]
      rfl

/-- Where a reader makes anything of a file, it makes variables of it. -/
theorem exists_file (hreader : IsReader reader) {content? : Option String} {process : Variables}
    (h : ∀ content ∈ content?, ∃ es, (reader warn process.entries content).outcome c = .ok es) :
    ∃ file : Variables, (∀ content ∈ content?,
      (reader warn process.entries content).outcome c = .ok file.entries) ∧
      (content? = none → file = []) := by
  cases content? with
  | none => exact ⟨[], nofun, fun _ => rfl⟩
  | some content =>
      obtain ⟨es, hes⟩ := h content rfl
      obtain ⟨file, rfl⟩ := hreader.makes_variables warn process content c es hes
      exact ⟨file, fun _ hcontent => Option.mem_some.mp hcontent ▸ hes, nofun⟩

/-- Variables are read alike where the seven have the same texts, and in any order. They are read
exactly where each of the seven has an accepted text or none, each for its own field, which then
holds what a field of its form does; and where one has not, the first such variable is refused
and named. The settings of a process are read from the variables that a reader makes of its file,
if there is one, with the variables of the process whose names begin as ours do in their place;
where the reader refuses the file, so are the settings. -/
theorem variables_are_read :
    (∀ vs ws : Variables, (∀ x : Variable, vs.text? x.name = ws.text? x.name) →
      vs.read = ws.read) ∧
    (∀ vs ws : Variables, (vs.map Prod.fst).Nodup → vs.Perm ws → vs.read = ws.read) ∧
    (∀ vs : Variables, ((∃ cfg, vs.read = .ok cfg) ↔ ∀ x, vs.WellFormed x) ∧
      (∀ cfg, vs.read = .ok cfg → vs.Gives cfg) ∧
      ((¬ ∀ x, vs.WellFormed x) →
        ∃ e, vs.read = .error (.configuration e) ∧ vs.RefusedFor e)) ∧
    ∀ (reader : Reader) (warn : Nat → Build Unit) (c : Context) (content? : Option String)
      (process : Variables), IsReader reader → (process.map Prod.fst).Nodup →
      (∀ content ∈ content?, ∀ e, (reader warn process.entries content).outcome c = .error e →
        (ofEnvironment warn content? process.entries reader).outcome c = .error e) ∧
      ((∀ content ∈ content?, ∃ es, (reader warn process.entries content).outcome c = .ok es) →
        ∃ file merged : Variables,
          (∀ content ∈ content?,
            (reader warn process.entries content).outcome c = .ok file.entries) ∧
          (content? = none → file = []) ∧
          (ofEnvironment warn content? process.entries reader).outcome c = merged.read ∧
          ∀ name, merged.lookup name =
            if isOurs (.text name) then (process.lookup name).or (file.lookup name)
            else file.lookup name) := by
  refine ⟨fun vs ws h => Variables.read_congr h, fun vs ws hnodup hperm =>
    Variables.read_perm hnodup hperm, fun vs => ⟨Variables.read_iff, fun cfg h =>
    Variables.gives_of_read h, Variables.read_of_malformed⟩,
    fun reader warn c content? process hreader hnodup => ⟨fun content hcontent e he => ?_,
    fun h => ?_⟩⟩
  · rw [Option.mem_def.mp hcontent, outcome_ofEnvironment_some, he]
    rfl
  · obtain ⟨file, hread, hnone⟩ := exists_file hreader h
    exact ⟨file, process.laidOver file, hread, hnone, outcome_ofEnvironment_of_read hread hnone,
      Variables.lookup_laidOver hnodup file⟩

/-- Variables of which some count and some do not. -/
def debugging : Variables :=
  [("QUERY_LOG_LEVEL", some " debug "), ("HOME", some "/root"), ("QUERY_LOG_DIR", none),
    ("QUERY_LOG_FILE", some " build.log "), ("QUERY_LOG_COLORS", some "")]

/-- Those of them that count. -/
def debuggingAlone : Variables :=
  [("QUERY_LOG_LEVEL", some " debug "), ("QUERY_LOG_FILE", some " build.log "),
    ("QUERY_LOG_COLORS", some "")]

/-- Two malformed variables, of which the first in the order of reading comes last. -/
def malformed : Variables :=
  [("QUERY_LOG_MAX_LENGTH", some "0"), ("QUERY_LOG_COLORS", some "maybe")]

/-- What debugging is read as. -/
def debuggingSettings : Settings :=
  { standard with
    logLevel := .text "DEBUG"
    logFile := .text "build.log"
    useColors := .bool false }

/-- Variables of a process. -/
def inProcess : Variables := [("LANG", some "C"), ("QUERY_LOG_LEVEL", some "error")]

/-- The content of a file, of whose variables one is also in the process and one is not. -/
def fileContent : String := "# logging\nexport QUERY_LOG_LEVEL=debug\nQUERY_LOG_FILE='build.log'\n"

/-- The variables of the file. -/
def inFile : Variables := [("QUERY_LOG_LEVEL", some "debug"), ("QUERY_LOG_FILE", some "build.log")]

/-- Read by the program's own reader, the file has the level that the process has too, which
counts, and the log file, which it alone has. -/
theorem variables_are_read_debugging :
    debugging.read = debuggingAlone.read ∧
      debugging.read = Variables.read debugging.reverse ∧
      debugging.Gives debuggingSettings ∧
      (∃ e, malformed.read = .error (.configuration e) ∧ malformed.RefusedFor e) ∧
      ∃ merged : Variables,
        (ofEnvironment (fun _ => pure ()) (some fileContent) inProcess.entries).outcome {} =
          merged.read ∧
        merged.lookup "QUERY_LOG_LEVEL" = some (some "error") ∧
        merged.lookup "QUERY_LOG_FILE" = some (some "build.log") := by
  obtain ⟨hsame, horder, hread, henvironment⟩ := variables_are_read
  have hdebugging : debugging.read = .ok debuggingSettings := rfl
  have hnames : (debugging.map Prod.fst).Nodup := by decide
  refine ⟨hsame _ _ fun x => by cases x <;> rfl,
    horder _ _ hnames (List.reverse_perm _).symm, (hread _).2.1 _ hdebugging,
    (hread _).2.2 fun h => ?_, ?_⟩
  · obtain ⟨cfg, hcfg⟩ := (hread _).1.mpr h
    exact nomatch hcfg
  · have hfile : (VariableFile.read (fun _ => pure ()) inProcess.entries fileContent).outcome {} =
        .ok inFile.entries := by cbv
    have hmakes : ∀ content ∈ some fileContent, ∃ es,
        (VariableFile.read (fun _ => pure ()) inProcess.entries content).outcome {} = .ok es := by
      rintro _ ⟨⟩
      exact ⟨_, hfile⟩
    obtain ⟨file, merged, hfile', -, houtcome, hlookup⟩ :=
      (henvironment VariableFile.read (fun _ => pure ()) {} (some fileContent) inProcess
        VariableFile.isReader_read (by decide)).2 hmakes
    obtain rfl := Variables.entries_injective
      (Except.ok.inj ((hfile' fileContent rfl).symm.trans hfile))
    exact ⟨merged, houtcome, hlookup "QUERY_LOG_LEVEL", hlookup "QUERY_LOG_FILE"⟩

end Settings

end SqlText
