import SqlText.Proofs.RequiredInputs
import SqlText.Proofs.SelectAssembly

/-!
# Row bounds — how an UPDATE and a DELETE restrict the rows that they reach

    t  =  head ++ " WHERE " ++ condition ++ ordering ++ limit

A change of rows is restricted by its condition and, if it has one, by its limit. Both stand
at the end of the statement, so that nothing else follows the condition: the condition is
written as it is and is never blank, the ordering is a segment or nothing, and a limit of at
least one row is written. A limit of zero rows is lost: it does not count as given, and
without it the statement reaches every row of its condition.

* **`Statement.of_requireBoth`**: a statement that is built has a table and a condition.
* **`bounded_changes`**: the end of every UPDATE and DELETE.
* **`zero_limit_is_lost`**: no rows asked for, and every row reached.
-/

namespace SqlText

variable {α : Type} {c : Context}

/-! ## Required conditions -/

/-- A statement whose required input was asked for has it, and is what was built then. -/
theorem Statement.of_require {v : Value} {field statement : String} {rest : Unit → Build α} {a : α}
    (h : (require Log.Channel.change v field statement >>= rest).outcome c = .ok a) :
    ¬ v.IsMissing ∧ (rest ()).outcome c = .ok a := by
  have hrun := run_require (c := c) v field statement
  by_cases hv : isMissing v
  · rw [if_pos hv] at hrun
    rw [Build.outcome, Build.run_bind_of_stopped hrun] at h
    cases h
  · rw [if_neg hv] at hrun
    rw [Build.outcome, Build.run_bind_of_passed hrun] at h
    rw [isMissing_iff] at hv
    exact ⟨hv, h⟩

/-- A statement that is built has a table and a condition. -/
theorem Statement.of_requireBoth {statement : String} {table condition : Value}
    {rest : Unit → Build α} {a : α}
    (h : (requireBoth statement table condition >>= rest).outcome c = .ok a) :
    ¬ table.IsMissing ∧ ¬ condition.IsMissing ∧ (rest ()).outcome c = .ok a := by
  rw [requireBoth, bind_assoc] at h
  obtain ⟨htable, h⟩ := of_require h
  exact ⟨htable, of_require h⟩

/-- A text that is not missing has a character that is not blank. -/
theorem exists_not_blank {w : String} (h : ¬ (Value.text w).IsMissing) :
    ∃ ch ∈ w.toList, Text.isBlank ch = false := by
  by_contra hall
  refine h (.inr ⟨w, rfl, fun ch hch => ?_⟩)
  by_contra hblank
  exact hall ⟨ch, hch, Bool.eq_false_iff.mpr hblank⟩

/-! ## Orderings and limits -/

/-- An ordering is written after its words or not at all. -/
theorem OrderBy.of_segment {o : OrderBy} {t : String} (h : o.segment = .ok t) :
    t = "" ∨ ∃ u, t = " ORDER BY " ++ u := by
  cases o with
  | raw content => exact .inr ⟨_, (Except.ok.inj h).symm⟩
  | keys ks =>
      obtain ⟨vs, -, h⟩ := bind_eq_ok_iff.mp h
      obtain ⟨ts, -, h⟩ := bind_eq_ok_iff.mp h
      have ht := Except.ok.inj h
      by_cases hts : ts.isEmpty
      · rw [if_pos hts] at ht
        exact .inl ht.symm
      · rw [if_neg hts] at ht
        exact .inr ⟨_, ht.symm⟩

theorem of_orderingText {ordering : Value} {t : String}
    (h : Select.orderingText ordering = .ok t) : t = "" ∨ ∃ u, t = " ORDER BY " ++ u := by
  rw [Select.orderingText, Build.whenGiven] at h
  by_cases hg : ordering.isGiven
  · rw [if_pos hg, OrderBy.text, Build.outcome_bind] at h
    obtain ⟨o?, -, h⟩ := bind_eq_ok_iff.mp h
    cases o? with
    | none => exact .inl (Except.ok.inj h).symm
    | some o => exact OrderBy.of_segment h
  · rw [if_neg hg] at h
    exact .inl (Except.ok.inj h).symm

/-- A limit that is given as a number of rows, or not given. -/
inductive Value.IsLimit : Value → Prop where
  | unlimited : IsLimit .null
  | rows (n : Nat) : IsLimit (.int n)

/-- A limit as it is written: the number of rows where there is at least one, and nothing for
no limit and for zero rows. -/
inductive LimitText : Value → String → Prop where
  | unlimited : LimitText .null ""
  | zero : LimitText (.int 0) ""
  | rows (n : Nat) (h : 0 < n) : LimitText (.int n) (" LIMIT " ++ toString n)

theorem limitText_limitSegment {limit : Value} (h : limit.IsLimit) :
    LimitText limit (Paging.limitSegment limit) := by
  cases h with
  | unlimited => exact .unlimited
  | rows n =>
      cases n with
      | zero => exact .zero
      | succ n => exact .rows (n + 1) (Nat.succ_pos n)

/-! ## The end of a statement -/

/-- A text, or no value at all. -/
inductive Value.IsOptionalText : Value → Prop where
  | none : IsOptionalText .null
  | text (t : String) : IsOptionalText (.text t)

/-- A statement that ends in its condition, which is not blank, its ordering and its limit,
and in nothing else. -/
structure EndsBounded (condition ordering limit : Value) (t head w o l : String) : Prop where
  condition : condition = .text w
  notBlank : ∃ ch ∈ w.toList, Text.isBlank ch = false
  ordering : Select.orderingText ordering = .ok o
  orderingWords : o = "" ∨ ∃ u, o = " ORDER BY " ++ u
  limit : LimitText limit l
  text : t = head ++ " WHERE " ++ w ++ o ++ l

/-- What is written behind a condition that was asked for restricts the statement. -/
theorem EndsBounded.of_parts {condition ordering limit : Value} {head o : String}
    (hoptional : condition.IsOptionalText) (hcondition : ¬ condition.IsMissing)
    (hlimit : limit.IsLimit) (ho : (Build.whenGiven ordering OrderBy.text).outcome c = .ok o) :
    ∃ w l, EndsBounded condition ordering limit
      (head ++ " WHERE " ++ condition.display ++ o ++ Paging.limitSegment limit) head w o l := by
  cases hoptional with
  | none => exact absurd (.inl rfl) hcondition
  | text w =>
      rw [Select.outcome_eq (.whenGiven (OrderBy.contextFree_text _))] at ho
      exact ⟨w, _, rfl, exists_not_blank hcondition, ho, of_orderingText ho,
        limitText_limitSegment hlimit, rfl⟩

theorem Update.endsBounded {s : Update} {t : String} (hoptional : s.condition.IsOptionalText)
    (hlimit : s.limit.IsLimit) (h : s.text.outcome c = .ok t) :
    ∃ head w o l, EndsBounded s.condition s.ordering s.limit t head w o l := by
  rw [text_eq] at h
  obtain ⟨-, hcondition, h⟩ := Statement.of_requireBoth h
  replace h := Statement.outcome_of_recorded h
  simp only [clauses, Build.outcome_bind] at h
  obtain ⟨items, -, h⟩ := bind_eq_ok_iff.mp h
  obtain ⟨_, -, h⟩ := bind_eq_ok_iff.mp h
  obtain ⟨joins, -, h⟩ := bind_eq_ok_iff.mp h
  obtain ⟨o, ho, h⟩ := bind_eq_ok_iff.mp h
  obtain ⟨w, l, hends⟩ := EndsBounded.of_parts hoptional hcondition hlimit ho
  rw [← Except.ok.inj h]
  exact ⟨_, w, o, l, hends⟩

theorem Delete.endsBounded {s : Delete} {t : String} (hoptional : s.condition.IsOptionalText)
    (hlimit : s.limit.IsLimit) (h : s.text.outcome c = .ok t) :
    ∃ head w o l, EndsBounded s.condition s.ordering s.limit t head w o l := by
  rw [text_eq] at h
  obtain ⟨-, hcondition, h⟩ := Statement.of_requireBoth h
  replace h := Statement.outcome_of_recorded h
  simp only [clauses, Build.outcome_bind] at h
  obtain ⟨joins, -, h⟩ := bind_eq_ok_iff.mp h
  obtain ⟨o, ho, h⟩ := bind_eq_ok_iff.mp h
  obtain ⟨w, l, hends⟩ := EndsBounded.of_parts hoptional hcondition hlimit ho
  rw [← Except.ok.inj h]
  exact ⟨_, w, o, l, hends⟩

/-- Every UPDATE and every DELETE that is built ends in its condition, its ordering and its
limit, whatever its other inputs and the context are. -/
theorem bounded_changes (c : Context) :
    (∀ s : Update, s.condition.IsOptionalText → s.limit.IsLimit →
      ∀ t, s.text.outcome c = .ok t →
        ∃ head w o l, EndsBounded s.condition s.ordering s.limit t head w o l) ∧
    ∀ s : Delete, s.condition.IsOptionalText → s.limit.IsLimit →
      ∀ t, s.text.outcome c = .ok t →
        ∃ head w o l, EndsBounded s.condition s.ordering s.limit t head w o l :=
  ⟨fun _ hoptional hlimit _ h => Update.endsBounded hoptional hlimit h,
    fun _ hoptional hlimit _ h => Delete.endsBounded hoptional hlimit h⟩

/-- An UPDATE of three rows at most. -/
def threeRows : Update where
  table := .text "t"
  condition := .text "x"
  nulls := .list [.text "a"]
  ordering := .text "b"
  limit := .int 3

/-- A limit of three rows is written behind the ordering. -/
theorem bounded_changes_threeRows :
    ∃ head w o l, EndsBounded (.text "x") (.text "b") (.int 3)
      "UPDATE t SET a = NULL WHERE x ORDER BY b LIMIT 3" head w o l :=
  (bounded_changes {}).1 threeRows (.text "x") (.rows 3) _ (eq_ok_of_toOption (by decide +kernel))

/-- A DELETE and an UPDATE that are to reach no row. -/
def noDelete : Delete where
  table := .text "t"
  condition := .text "x"
  limit := .int 0

def noUpdate : Update where
  table := .text "t"
  condition := .text "x"
  nulls := .list [.text "a"]
  limit := .int 0

/-- A limit of zero rows is written nowhere, and least of all at the end. -/
theorem zero_limit_is_lost :
    noDelete.text.outcome {} = .ok "DELETE t FROM t WHERE x" ∧
      noUpdate.text.outcome {} = .ok "UPDATE t SET a = NULL WHERE x" ∧
      ∀ head, "DELETE t FROM t WHERE x" ≠ head ++ " LIMIT 0" ∧
        "UPDATE t SET a = NULL WHERE x" ≠ head ++ " LIMIT 0" := by
  have hlast : ∀ head t : String, t = head ++ " LIMIT 0" → t.toList.getLast? = some '0' := by
    rintro head t rfl
    rw [String.toList_append, List.getLast?_append]
    rfl
  refine ⟨eq_ok_of_toOption (by decide +kernel), eq_ok_of_toOption (by decide +kernel), ?_⟩
  intro head
  constructor
  · intro h
    exact absurd (hlast head _ h) (by decide)
  · intro h
    exact absurd (hlast head _ h) (by decide)

end SqlText
