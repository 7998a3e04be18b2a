import SqlText.Proofs.AlikeCases
import SqlText.Proofs.ItemLists
import SqlText.Proofs.RowBounds

/-!
# Assignments of an UPDATE — five groups as one row of items

    UPDATE t SET a = "x", n = n + 1, b = NULL WHERE ...

The entries of the five groups are the assignments of the statement, one item for each, in the
order of the groups. The items stand in one row with a comma and a blank between them, so that
no group without an entry leaves a trace, and a statement is reported as unassigned exactly
where there is no item. Where the parts that are written as they are hold neither a comma nor a
quote, the items are read back from the row, whatever the texts among the values hold.

* **`Assignment`**, **`Groups.parts`**: what is assigned, group by group.
* **`assignments_eq`**, **`of_assignments`**: the assignments are put together from the texts of
  the groups, and they are one row of all items.
* **`Assignment.isItem_of_makes`**: no item can be cut.
* **`Build.warnings_bind`**, **`warnings_clauses`**: what is reported of a statement.
* **`assignments_flattened`**: how the text is laid out, and what is read back from it.
-/

namespace SqlText

open Build (MakesOnly)

variable {α β : Type} {c : Context}

/-! ## Parts that are written as they are -/

/-- A value that has no comma and no quote where it is an SQL fragment. -/
def Value.FragmentUnmarked (v : Value) : Prop := ∀ t, v = .raw t ∨ v = .keyword t → Unmarked t

/-- The literal of such a value cannot be cut. -/
theorem isItem_literal {trim : Bool} {v : Value} {t : String} (hv : v.FragmentUnmarked)
    (h : Literal.text trim v = .ok t) : IsItem t :=
  (LiteralForm.or_fragment h).elim .of_form fun hfragment => .of_unmarked (hv t hfragment)

namespace CaseExpr

/-- A CASE expression whose conditions have no comma and no quote, nor have the fragments among
its results. -/
structure IsUnmarked (e : CaseExpr) : Prop where
  branches : ∀ bs, e.branches.iterate = .ok bs → ∀ b, .caseBranch b ∈ bs →
    Unmarked b.condition.display ∧ b.result.FragmentUnmarked
  otherwise : e.otherwise.FragmentUnmarked

theorem isItem_branchText {b : CaseBranch} {t : String} (hc : Unmarked b.condition.display)
    (hr : b.result.FragmentUnmarked) (h : branchText (.caseBranch b) = .ok t) : IsItem t := by
  obtain ⟨u, hu, h⟩ := bind_eq_ok_iff.mp h
  rw [← Except.ok.inj h]
  have hwhen : IsItem "WHEN " := .of_unmarked (by decide)
  have hthen : IsItem " THEN " := .of_unmarked (by decide)
  exact ((hwhen.append (.of_unmarked hc)).append hthen).append (isItem_literal hr hu)

theorem isItem_elseText {v : Value} {t : String} (hv : v.FragmentUnmarked)
    (h : elseText v = .ok t) : IsItem t := by
  by_cases hno : v = .noElse
  · rw [hno] at h
    rw [← Except.ok.inj h]
    exact .of_unmarked (by decide)
  · rw [elseText_eq hno] at h
    obtain ⟨u, hu, rfl⟩ := map_eq_ok_iff.mp h
    exact (IsItem.of_unmarked (by decide)).append (isItem_literal hv hu)

/-- The text of such an expression cannot be cut. -/
theorem IsUnmarked.isItem_text {e : CaseExpr} (he : e.IsUnmarked) {t : String}
    (h : e.text = .ok t) : IsItem t := by
  rw [text_eq] at h
  obtain ⟨bs, hbs, h⟩ := bind_eq_ok_iff.mp h
  obtain ⟨ts, hts, h⟩ := bind_eq_ok_iff.mp h
  obtain ⟨u, hu, h⟩ := bind_eq_ok_iff.mp h
  rw [← Except.ok.inj h]
  have hbranches : ∀ t ∈ ts, IsItem t := by
    intro t ht
    obtain ⟨b, hb, hbt⟩ := exists_mem_left_of_forall₂ ((mapM_eq_ok_iff bs ts).mp hts) t ht
    cases b with
    | caseBranch b =>
        obtain ⟨hc, hr⟩ := he.branches bs hbs b hb
        exact isItem_branchText hc hr hbt
    | _ => exact nomatch hbt
  have hword : IsItem "CASE " := .of_unmarked (by decide)
  have hrow := IsItem.intercalate (.of_unmarked (by decide : Unmarked " ")) hbranches
  exact ((hword.append hrow).append (isItem_elseText he.otherwise hu)).append
    (.of_unmarked (by decide))

end CaseExpr

namespace Update

/-! ## Assignments -/

/-- One entry of a group: a value or a CASE expression, an expression that is written as it is,
or a keyword. -/
inductive Assignment where
  | value (column value : Value)
  | expression (column expression : Value)
  | keyword (column word : String)

namespace Assignment

/-- The column as it is written. -/
def column : Assignment → String
  | value k _      => k.display
  | expression k _ => k.display
  | keyword k _    => k

/-- What is assigned to a column by a value that describes no CASE expression. -/
def plainText (column : Value) : Value → Except Fault String
  | .mapping _ => .error (.build (.specification (.updateValue column)))
  | v          => Literal.text true v

/-- What is assigned to the column. -/
def assigned : Assignment → Except Fault String
  | value k v =>
    if CaseExpr.isDescribed v then CaseExpr.ofValue v >>= CaseExpr.text else plainText k v
  | expression _ e => .ok e.display
  | keyword _ w    => .ok w

/-- The item of an assignment. -/
def text (a : Assignment) : Except Fault String := do
  return a.column ++ " = " ++ (← a.assigned)

/-- An item that is made of an assignment. -/
def Makes (a : Assignment) (item : String) : Prop :=
  ∃ t, a.assigned = .ok t ∧ item = a.column ++ " = " ++ t

theorem makes_of_text {a : Assignment} {item : String} (h : a.text = .ok item) : a.Makes item := by
  obtain ⟨t, ht, h⟩ := bind_eq_ok_iff.mp h
  exact ⟨t, ht, (Except.ok.inj h).symm⟩

/-- No item is empty. -/
theorem Makes.ne_empty {a : Assignment} {item : String} (h : a.Makes item) : item ≠ "" := by
  obtain ⟨t, -, rfl⟩ := h
  intro he
  have hsign : a.column ++ " = " = "" := (String.append_eq_empty_iff.mp he).1
  exact absurd (String.append_eq_empty_iff.mp hsign).2 (by decide)

theorem plainText_eq {k v : Value} (h : ∀ es, v ≠ .mapping es) :
    plainText k v = Literal.text true v := by
  unfold plainText
  split
  · exact absurd rfl (h _)
  · rfl

theorem text_value (k v : Value) : (value k v).text = CaseExpr.assignment k v := by
  rw [text, assigned]
  unfold CaseExpr.assignment
  by_cases hd : CaseExpr.isDescribed v
  · rw [if_pos hd, if_pos hd, bind_assoc]
    rfl
  · rw [if_neg hd, if_neg hd]
    split
    · rfl
    · next h => rw [plainText_eq h]; rfl

/-- An assignment whose parts that are written as they are hold neither a comma nor a quote: the
column, an expression, a fragment, and the conditions and fragments of a CASE expression. -/
def IsUnmarked : Assignment → Prop
  | value k v =>
    Unmarked k.display ∧ v.FragmentUnmarked ∧ ∀ e, CaseExpr.ofValue v = .ok e → e.IsUnmarked
  | expression k e => Unmarked k.display ∧ Unmarked e.display
  | keyword k w    => Unmarked k ∧ Unmarked w

theorem isItem_plainText {k v : Value} {t : String} (hv : v.FragmentUnmarked)
    (h : plainText k v = .ok t) : IsItem t := by
  unfold plainText at h
  split at h
  · exact nomatch h
  · exact isItem_literal hv h

theorem isItem_assigned {a : Assignment} (ha : a.IsUnmarked) {t : String}
    (h : a.assigned = .ok t) : IsItem t := by
  cases a with
  | value k v =>
      obtain ⟨-, hv, he⟩ := ha
      rw [assigned] at h
      split at h
      · obtain ⟨e, hve, h⟩ := bind_eq_ok_iff.mp h
        exact (he e hve).isItem_text h
      · exact isItem_plainText hv h
  | expression k e => rw [← Except.ok.inj h]; exact .of_unmarked ha.2
  | keyword k w => rw [← Except.ok.inj h]; exact .of_unmarked ha.2

/-- The item of such an assignment cannot be cut. -/
theorem isItem_of_makes {a : Assignment} (ha : a.IsUnmarked) {item : String} (h : a.Makes item) :
    IsItem item := by
  obtain ⟨t, ht, rfl⟩ := h
  have hcolumn : Unmarked a.column := by
    cases a with
    | value k v => exact ha.1
    | expression k e => exact ha.1
    | keyword k w => exact ha.1
  exact ((IsItem.of_unmarked hcolumn).append (.of_unmarked (by decide))).append
    (isItem_assigned ha ht)

end Assignment

/-! ## Groups -/

/-- The entries of the five groups. -/
structure Groups where
  values : List (Value × Value) := []
  calculations : List (Value × Value) := []
  subQueries : List (Value × Value) := []
  nulls : List String := []
  defaults : List String := []

/-- The assignments of the groups, group by group in their order. -/
def Groups.parts (g : Groups) : List (List Assignment) :=
  [g.values.map fun e => .value e.1 e.2,
    g.calculations.map fun e => .expression e.1 e.2,
    g.subQueries.map fun e => .expression e.1 e.2,
    g.nulls.map fun k => .keyword k "NULL",
    g.defaults.map fun k => .keyword k "DEFAULT"]

/-- A mapping with entries, or null, which has none. -/
inductive HasEntries : Value → List (Value × Value) → Prop where
  | null : HasEntries .null []
  | mapping (es : List (Value × Value)) : HasEntries (.mapping es) es

/-- A list of names, or null, which has none. -/
inductive HasNames : Value → List String → Prop where
  | null : HasNames .null []
  | list (names : List String) : HasNames (.list (names.map .text)) names

/-- The groups that the inputs of an UPDATE hold. -/
structure HasGroups (s : Update) (g : Groups) : Prop where
  values : HasEntries s.values g.values
  calculations : HasEntries s.calculations g.calculations
  subQueries : HasEntries s.subQueries g.subQueries
  nulls : HasNames s.nulls g.nulls
  defaults : HasNames s.defaults g.defaults

/-- The texts of some assignments, in a row. -/
def rowText (as : List Assignment) : Except Fault String :=
  (", ".intercalate ·) <$> as.mapM Assignment.text

/-- The text of entries is made entry by entry, and of none there is none. -/
theorem groupText_entries {v : Value} {es : List (Value × Value)} (h : HasEntries v es)
    {items : Value → Except Fault (List String)} {f : Value × Value → Assignment}
    (hitems : ∀ es, items (.mapping es) = (es.map f).mapM Assignment.text) :
    groupText v items = rowText (es.map f) := by
  cases h with
  | null => rfl
  | mapping es =>
      rw [groupText, hitems, rowText]
      cases es with
      | nil => rfl
      | cons e es => rfl

/-- Assignments that are written in any case are written one by one. -/
theorem mapM_text_map {α : Type} {f : α → Assignment} {g : α → String}
    (h : ∀ a, (f a).text = .ok (g a)) (as : List α) :
    (as.map f).mapM Assignment.text = .ok (as.map g) := by
  rw [List.mapM_map]
  exact mapM_eq_ok_map fun a _ => h a

theorem valueItems_mapping (es : List (Value × Value)) :
    valueItems (.mapping es) =
      (es.map fun e => Assignment.value e.1 e.2).mapM Assignment.text := by
  rw [List.mapM_map]
  exact congrArg (es.mapM ·) (funext fun e => (Assignment.text_value e.1 e.2).symm)

theorem expressionItems_mapping (es : List (Value × Value)) :
    expressionItems (.mapping es) =
      (es.map fun e => Assignment.expression e.1 e.2).mapM Assignment.text :=
  (mapM_text_map (fun _ => rfl) es).symm

theorem groupText_names {v : Value} {names : List String} (h : HasNames v names)
    (word : String) :
    groupText v (keywordItems word) = rowText (names.map fun k => .keyword k word) := by
  rw [rowText, mapM_text_map (fun _ => rfl)]
  cases h with
  | null => rfl
  | list names =>
      cases names with
      | nil => rfl
      | cons k names =>
          show Except.ok (", ".intercalate (((k :: names).map Value.text).map _)) = _
          rw [List.map_map]
          rfl

/-- The assignments of an UPDATE are put together from the texts of its groups. -/
theorem assignments_eq {s : Update} {g : Groups} (h : s.HasGroups g) :
    s.assignments =
      (fun items => ", ".intercalate (groupTexts ", " items)) <$>
        g.parts.mapM fun as : List Assignment => as.mapM Assignment.text := by
  rw [assignments, groupText_entries h.values valueItems_mapping,
    groupText_entries h.calculations expressionItems_mapping,
    groupText_entries h.subQueries expressionItems_mapping, groupText_names h.nulls,
    groupText_names h.defaults, Groups.parts]
  simp only [rowText, groupTexts, List.mapM_cons, List.mapM_nil, map_bind, map_pure, bind_assoc,
    bind_map_left, pure_bind, List.map_cons, List.map_nil]

/-- The assignments are one row of all items: no item is empty, so that a group without a text is
a group without an entry. -/
theorem of_assignments {s : Update} {g : Groups} (hg : s.HasGroups g) {t : String}
    (h : s.assignments = .ok t) :
    ∃ items, List.Forall₂ (List.Forall₂ Assignment.Makes) g.parts items ∧
      (∀ ts ∈ items, ∀ t ∈ ts, t ≠ "") ∧ t = ", ".intercalate items.flatten := by
  rw [assignments_eq hg] at h
  obtain ⟨items, hitems, rfl⟩ := map_eq_ok_iff.mp h
  have hmade : List.Forall₂ (List.Forall₂ Assignment.Makes) g.parts items := by
    refine ((mapM_eq_ok_iff _ _).mp hitems).imp fun as ts h => ?_
    exact ((mapM_eq_ok_iff as ts).mp h).imp fun _ _ => Assignment.makes_of_text
  have hne : ∀ ts ∈ items, ∀ t ∈ ts, t ≠ "" := by
    intro ts hts t ht
    obtain ⟨as, -, has⟩ := exists_mem_left_of_forall₂ hmade ts hts
    obtain ⟨a, -, ha⟩ := exists_mem_left_of_forall₂ has t ht
    exact ha.ne_empty
  exact ⟨items, hmade, hne, intercalate_groups hne⟩

end Update

/-! ## What is reported -/

namespace Build

/-- The warnings of a logger among the records of a build. -/
def warnings (logger : String) (x : Build α) (c : Context) : List Log.Record :=
  (x.run c).records.filter fun r => r.logger = logger ∧ r.severity = .warning

variable {logger : String} {x : Build α}

/-- The warnings of two builds in a row are those of the first and then those of the second. -/
theorem warnings_bind {f : α → Build β} {a : α} (h : x.outcome c = .ok a) :
    warnings logger (x >>= f) c = warnings logger x c ++ warnings logger (f a) c := by
  have hrun : x.run c = ⟨.ok a, (x.run c).records⟩ := by rw [← h]; rfl
  rw [warnings, warnings, warnings, run_bind, hrun, andThen_ok, List.filter_append]

/-- Whatever the first of two builds ends in, the second adds no warning where it makes none. -/
theorem warnings_bind_of_nil {f : α → Build β} (hf : ∀ a, warnings logger (f a) c = []) :
    warnings logger (x >>= f) c = warnings logger x c := by
  rw [warnings, warnings, run_bind]
  match x.run c with
  | ⟨.error e, rs⟩ => rfl
  | ⟨.ok a, rs⟩ =>
      rw [andThen_ok, List.filter_append, ← warnings, hf a, List.append_nil]

/-- A build makes no warning of a logger where all of its records are others. -/
theorem warnings_eq_nil {Q : Log.Record → Prop} (h : MakesOnly Q x)
    (hQ : ∀ r, Q r → ¬ (r.logger = logger ∧ r.severity = .warning)) :
    warnings logger x c = [] := by
  rw [warnings, List.filter_eq_nil_iff]
  intro r hr hw
  exact hQ r (h c r hr) (of_decide_eq_true hw)

theorem warnings_of_severity {severity : Log.Severity}
    (h : MakesOnly (fun r => r.severity = severity) x) (hne : severity ≠ .warning) :
    warnings logger x c = [] :=
  warnings_eq_nil h fun _ hr hw => hne (hr.symm.trans hw.2)

/-- Clauses make no warning of the logger that reports on changes. -/
theorem warnings_of_onClauses (h : MakesOnly Log.Record.OnClauses x) :
    warnings Log.Channel.change x c = [] := by
  refine warnings_eq_nil h fun r hr hw => ?_
  rw [hr.logger] at hw
  exact absurd hw.1 (by decide)

end Build

namespace Statement

/-- A missing input is reported as an error. -/
theorem makesOnly_require (logger : String) (v : Value) (field statement : String) :
    MakesOnly (fun r => r.severity = .error) (require logger v field statement) := by
  rw [require]
  split
  · exact .bind (.noteRecord (r := ⟨logger, .error, _⟩) rfl) fun _ => .of_none fun _ => rfl
  · exact .of_none fun _ => rfl

/-- A built statement is reported for debugging. -/
theorem makesOnly_reportBuilt (logger verb sql : String) :
    MakesOnly (fun r => r.severity = .debug) (reportBuilt logger verb sql) := by
  refine .bind (.of_none fun _ => rfl) fun st => .bind (.of_none fun _ => rfl) fun ctx => ?_
  split
  · exact .bind (.of_none fun _ => rfl) fun shown => .noteRecord (r := ⟨logger, .debug, _⟩) rfl
  · exact .of_none fun _ => rfl

/-- The warnings of a statement that is built are those of what follows its guard. -/
theorem warnings_requireBoth {statement : String} {table condition : Value}
    {rest : Unit → Build α} {a : α}
    (h : (requireBoth statement table condition >>= rest).outcome c = .ok a) (logger : String) :
    Build.warnings logger (requireBoth statement table condition >>= rest) c =
      Build.warnings logger (rest ()) c := by
  rw [Build.outcome_bind] at h
  obtain ⟨⟨⟩, hguard, -⟩ := bind_eq_ok_iff.mp h
  have hguarded : MakesOnly (fun r => r.severity = .error)
      (requireBoth statement table condition) :=
    .bind (makesOnly_require _ _ _ _) fun _ => makesOnly_require _ _ _ _
  rw [Build.warnings_bind hguard, Build.warnings_of_severity hguarded (by decide),
    List.nil_append]

/-- The warnings of a statement that is recorded are those of building it. -/
theorem warnings_recorded {logger verb : String} {x : Build String} :
    Build.warnings logger (recorded logger verb x) c = Build.warnings logger x c := by
  refine Build.warnings_bind_of_nil fun sql => ?_
  have hreport : MakesOnly (fun r => r.severity = .debug)
      (reportBuilt logger verb sql >>= fun _ => (pure sql : Build String)) :=
    (makesOnly_reportBuilt logger verb sql).bind fun _ => .of_none fun _ => rfl
  exact Build.warnings_of_severity hreport (by decide)

end Statement

namespace Update

/-- The record of a statement without any assignment. -/
def unassignedRecord (s : Update) : Log.Record :=
  ⟨Log.Channel.change, .warning,
    "Building UPDATE on '" ++ s.table.display ++ "' without any assignments"⟩

theorem warnings_reportUnassigned (s : Update) (assignments : String) :
    Build.warnings Log.Channel.change (s.reportUnassigned assignments) c =
      if assignments = "" then [s.unassignedRecord] else [] := by
  rw [reportUnassigned]
  by_cases h : assignments = ""
  · rw [if_pos (String.isEmpty_iff.mpr h), if_pos h]
    rfl
  · rw [if_neg (mt String.isEmpty_iff.mp h), if_neg h]
    rfl

theorem outcome_reportUnassigned (s : Update) (assignments : String) :
    (s.reportUnassigned assignments).outcome c = .ok () := by
  rw [reportUnassigned]
  split <;> rfl

/-- Clauses that are written come of assignments, joins and an ordering. -/
theorem of_clauses {s : Update} {t : String} (h : (s.clauses Join.chain).outcome c = .ok t) :
    ∃ assignments joins ordering, s.assignments = .ok assignments ∧
      (Join.chain s.joins).outcome c = .ok joins ∧
      (Build.whenGiven s.ordering OrderBy.text).outcome c = .ok ordering ∧
      t = "UPDATE" ++ joins ++ " " ++ s.table.display ++ " SET " ++ assignments ++
        " WHERE " ++ s.condition.display ++ ordering ++ Paging.limitSegment s.limit := by
  rw [clauses, Build.outcome_bind, Build.outcome_liftM] at h
  obtain ⟨assignments, hassignments, h⟩ := bind_eq_ok_iff.mp h
  rw [Build.outcome_bind, outcome_reportUnassigned, ok_bind, Build.outcome_bind] at h
  obtain ⟨joins, hjoins, h⟩ := bind_eq_ok_iff.mp h
  rw [Build.outcome_bind] at h
  obtain ⟨ordering, hordering, h⟩ := bind_eq_ok_iff.mp h
  exact ⟨assignments, joins, ordering, hassignments, hjoins, hordering,
    (Except.ok.inj h).symm⟩

/-- Of the clauses nothing but the assignments is warned of on the channel of changes. -/
theorem warnings_clauses {s : Update} {assignments : String}
    (h : s.assignments = .ok assignments) :
    Build.warnings Log.Channel.change (s.clauses Join.chain) c =
      if assignments = "" then [s.unassignedRecord] else [] := by
  have hsteps : Build.KeptBySteps Log.Record.OnClauses (MakesOnly Log.Record.OnClauses) :=
    MakesOnly.keptBySteps fun _ h => h
  have hjoins := Join.chain_of_kept hsteps s.joins
  have hordering := hsteps.whenGiven (OrderBy.text_of_kept hsteps.leavingOut s.ordering)
  have hread : (liftM s.assignments : Build String).outcome c = .ok assignments := h
  -- what comes after the assignments reports on another channel
  have hrest := hjoins.bind fun joins => hordering.bind fun ordering => hsteps.pure
    ("UPDATE" ++ joins ++ " " ++ s.table.display ++ " SET " ++ assignments ++
      " WHERE " ++ s.condition.display ++ ordering ++ Paging.limitSegment s.limit)
  rw [clauses, Build.warnings_bind hread,
    Build.warnings_bind (outcome_reportUnassigned s assignments), warnings_reportUnassigned,
    Build.warnings_of_onClauses hrest, List.append_nil]
  rfl

/-! ## The whole of it -/

/-- How an UPDATE is written from the items of its groups: what the items are made of, where they
stand in the text, how they come out of their groups, when the statement is reported as
unassigned, and when the items are read back. -/
structure WrittenFrom (s : Update) (c : Context) (parts : List (List Assignment)) (t : String)
    (items : List (List String)) : Prop where
  made : List.Forall₂ (List.Forall₂ Assignment.Makes) parts items
  text : ∃ joins ordering, (Join.chain s.joins).outcome c = .ok joins ∧
    (Build.whenGiven s.ordering OrderBy.text).outcome c = .ok ordering ∧
    t = "UPDATE" ++ joins ++ " " ++ s.table.display ++ " SET " ++
      ", ".intercalate items.flatten ++ " WHERE " ++ s.condition.display ++ ordering ++
      Paging.limitSegment s.limit
  grouped : ", ".intercalate (groupTexts ", " items) = ", ".intercalate items.flatten
  reported : Build.warnings Log.Channel.change s.text c =
    if items.flatten = [] then [s.unassignedRecord] else []
  readBack : items.flatten ≠ [] → (∀ as ∈ parts, ∀ a ∈ as, a.IsUnmarked) →
    splitItems (", ".intercalate items.flatten) = items.flatten

/-- A row of items that are not empty is empty where it has no item. -/
theorem row_eq_empty_iff {ts : List String} (h : ∀ t ∈ ts, t ≠ "") :
    ", ".intercalate ts = "" ↔ ts = [] := by
  rw [intercalate_eq_empty_iff (by decide)]
  exact or_iff_left fun hts => h "" (hts ▸ List.mem_singleton_self "") rfl

/-- An UPDATE that is built is written from the items of its groups. -/
theorem assignments_flattened {s : Update} {g : Groups} {t : String} (hg : s.HasGroups g)
    (h : s.text.outcome c = .ok t) : ∃ items, s.WrittenFrom c g.parts t items := by
  have hwhole := h
  rw [text_eq] at hwhole
  obtain ⟨-, -, hrecorded⟩ := Statement.of_requireBoth hwhole
  obtain ⟨assignments, joins, ordering, hassignments, hjoins, hordering, ht⟩ :=
    of_clauses (Statement.outcome_of_recorded hrecorded)
  obtain ⟨items, hmade, hne, rfl⟩ := of_assignments hg hassignments
  refine ⟨items, hmade, ⟨joins, ordering, hjoins, hordering, ht⟩, intercalate_groups hne, ?_,
    fun hitems hmarks => ?_⟩
  · have hempty := row_eq_empty_iff (List.forall_mem_flatten.mpr hne)
    rw [text_eq, Statement.warnings_requireBoth hwhole, Statement.warnings_recorded,
      warnings_clauses hassignments]
    simp only [hempty]
  · refine splitItems_intercalate hitems fun t ht => ?_
    obtain ⟨ts, hts, ht⟩ := List.mem_flatten.mp ht
    obtain ⟨as, has, hmakes⟩ := exists_mem_left_of_forall₂ hmade ts hts
    obtain ⟨a, ha, hat⟩ := exists_mem_left_of_forall₂ hmakes t ht
    exact Assignment.isItem_of_makes (hmarks as has a ha) hat

/-- The branch of the CASE expression in `shipped`. -/
def paidBranch : List (Value × Value) :=
  [(.text "when", .text "paid = 1"), (.text "then", .text "sent, \"paid\"")]

/-- An UPDATE with values, a column set to null, and groups without an entry between and behind
them. -/
def shipped : Update where
  table := .text "orders"
  condition := .text "id = 7"
  values := .mapping [(.text "note", .text "desk 2, left"),
    (.text "state", .mapping [(.text "case", .list [.mapping paidBranch])])]
  subQueries := .mapping []
  nulls := .list [.text "due"]

/-- The groups of `shipped`. -/
def shippedGroups : Groups where
  values := [(.text "note", .text "desk 2, left"),
    (.text "state", .mapping [(.text "case", .list [.mapping paidBranch])])]
  nulls := ["due"]

/-- The text of `shipped`. -/
def shippedText : String :=
  "UPDATE orders SET note = \"desk 2, left\", " ++
    "state = CASE WHEN paid = 1 THEN \"sent, \\\"paid\\\"\" END, due = NULL WHERE id = 7"

theorem hasGroups_shipped : shipped.HasGroups shippedGroups where
  values := .mapping _
  calculations := .null
  subQueries := .mapping []
  nulls := .list ["due"]
  defaults := .null

theorem isUnmarked_paid {e : CaseExpr}
    (h : CaseExpr.ofValue (.mapping [(.text "case", .list [.mapping paidBranch])]) = .ok e) :
    e.IsUnmarked := by
  cases h
  refine ⟨fun bs hbs b hb => ?_, fun t ht => ht.elim nofun nofun⟩
  cases hbs
  cases List.mem_singleton.mp (List.mem_reverse.mp hb)
  exact ⟨by decide, fun t ht => ht.elim nofun nofun⟩

/-- What is written as it is in `shipped` holds neither a comma nor a quote. -/
theorem isUnmarked_shipped : ∀ as ∈ shippedGroups.parts, ∀ a ∈ as, a.IsUnmarked := by
  have htext : ∀ u : String, (Value.text u).FragmentUnmarked := fun _ _ ht => ht.elim nofun nofun
  have hnote : (Assignment.value (.text "note") (.text "desk 2, left")).IsUnmarked :=
    ⟨by decide, htext _, nofun⟩
  have hstate : (Assignment.value (.text "state")
      (.mapping [(.text "case", .list [.mapping paidBranch])])).IsUnmarked :=
    ⟨by decide, fun t ht => ht.elim nofun nofun, fun _ => isUnmarked_paid⟩
  have hdue : (Assignment.keyword "due" "NULL").IsUnmarked := ⟨by decide, by decide⟩
  simp only [Groups.parts, shippedGroups, List.map_cons, List.map_nil, List.forall_mem_cons]
  exact ⟨⟨hnote, hstate, nofun⟩, nofun, nofun, ⟨hdue, nofun⟩, nofun, nofun⟩

/-- The items of `shipped` are read back from its text. -/
theorem assignments_flattened_shipped :
    ∃ items, shipped.WrittenFrom {} shippedGroups.parts shippedText items ∧
      items.flatten.length = 3 ∧ splitItems (", ".intercalate items.flatten) = items.flatten := by
  obtain ⟨items, hitems⟩ := assignments_flattened (c := {}) (t := shippedText) hasGroups_shipped
    (eq_ok_of_toOption (by decide +kernel))
  have hlength : items.flatten.length = 3 := (List.rel_flatten hitems.made).length_eq.symm
  have hne : items.flatten ≠ [] := fun h => by rw [h] at hlength; exact nomatch hlength
  exact ⟨items, hitems, hlength, hitems.readBack hne isUnmarked_shipped⟩

end Update

end SqlText
