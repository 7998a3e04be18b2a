import Mathlib.Data.List.Nodup
import SqlText.Proofs.Composition

/-!
# Option names — which options a statement takes, and that their order is free

    options.Perm options'   →   ofOptions verb options  =  ofOptions verb options'

Every verb has its own options. Each of them is one input of the statement, so options under
different names can be given in any order. The first option that a statement does not take is
the fault of all of them, before anything is built.

* **`Verb.optionNames`**: the options of the four verbs.
* **`Statement.set?_comm`**: two options do not get into each other's way.
* **`Statement.ofOptions_perm`**: options that are taken, in another order.
* **`Statement.ofOptions_of_unknown`**: the first option that is not taken.
-/

namespace SqlText

/-- The names of the options that the statements of a verb take. -/
def Verb.optionNames : Verb → List String
  | select =>
    ["table", "columns", "distinct", "sub_queries", "aggregates", "joins", "where", "group_by",
      "having", "sort", "limit_skip", "recursive_cte"]
  | insert =>
    ["table", "insert_data", "date_fields", "unique_column", "on_duplicate_update_fields"]
  | update =>
    ["table", "where", "joins", "update_data", "null_values", "default_values", "limit", "sort",
      "from_sub_query", "set_calculations"]
  | delete => ["table", "where", "joins", "sort", "limit"]

namespace Statement

/-! ## One option -/

/-- A statement takes the options of its verb and no others. -/
theorem isSome_set?_iff (s : Statement) (name : String) (v : Value) :
    (s.set? name v).isSome = true ↔ name ∈ s.verb.optionNames := by
  cases s with
  | select s =>
      simp only [set?, Select.set?, verb, Verb.optionNames]
      split <;> simp_all
  | insert s =>
      simp only [set?, Insert.set?, verb, Verb.optionNames]
      split <;> simp_all
  | update s =>
      simp only [set?, Update.set?, verb, Verb.optionNames]
      split <;> simp_all
  | delete s =>
      simp only [set?, Delete.set?, verb, Verb.optionNames]
      split <;> simp_all

/-- An option changes the inputs of a statement and not its verb. -/
theorem verb_of_set? {s t : Statement} {name : String} {v : Value}
    (h : s.set? name v = some t) : t.verb = s.verb := by
  cases s <;> obtain ⟨_, -, rfl⟩ := Option.map_eq_some_iff.mp h <;> rfl

/-- Two options are two inputs, whichever of them is given first. -/
theorem set?_comm (s : Statement) {n m : String} (h : n ≠ m) (v w : Value) :
    (s.set? n v).bind (·.set? m w) = (s.set? m w).bind (·.set? n v) := by
  cases s with
  | select s =>
      simp only [set?, Select.set?]
      split <;> split <;> first | rfl | exact absurd rfl h
  | insert s =>
      simp only [set?, Insert.set?]
      split <;> split <;> first | rfl | exact absurd rfl h
  | update s =>
      simp only [set?, Update.set?]
      split <;> split <;> first | rfl | exact absurd rfl h
  | delete s =>
      simp only [set?, Delete.set?]
      split <;> split <;> first | rfl | exact absurd rfl h

/-! ## Options one after the other -/

variable {builder : String} {verb : Verb} {options options' : List (String × Value)}

theorem assign_of_set? {s t : Statement} {name : String} {v : Value}
    (h : s.set? name v = some t) : assign builder s ((name, v) :: options) =
      assign builder t options := by
  rw [assign, h]

/-- An option that a statement takes is put in its place. -/
theorem exists_set? {s : Statement} {name : String} (h : name ∈ s.verb.optionNames)
    (v : Value) : ∃ t, s.set? name v = some t :=
  Option.isSome_iff_exists.mp ((s.isSome_set?_iff name v).mpr h)

/-- Options change the inputs of a statement and not its verb. -/
theorem verb_of_assign :
    ∀ (options : List (String × Value)) (s t : Statement),
      assign builder s options = .ok t → t.verb = s.verb := by
  intro options
  induction options with
  | nil =>
      intro s t h
      rw [← Except.ok.inj h]
  | cons option options ih =>
      intro s t h
      rw [assign] at h
      split at h
      · rename_i u hu
        exact (ih u t h).trans (verb_of_set? hu)
      · exact nomatch h

theorem verb_of_ofOptions {s : Statement} (h : ofOptions verb options = .ok s) :
    s.verb = verb := by
  rw [verb_of_assign _ _ _ h]
  cases verb <;> rfl

/-- Options that a statement takes, under different names, may be given in any order. -/
theorem assign_perm (h : options.Perm options') :
    ∀ s : Statement, (options.map Prod.fst).Nodup →
      (∀ o ∈ options, o.1 ∈ s.verb.optionNames) →
      assign builder s options = assign builder s options' := by
  induction h with
  | nil => intro _ _ _; rfl
  | cons o _ ih =>
      intro s hnodup hknown
      obtain ⟨t, ht⟩ := exists_set? (hknown o List.mem_cons_self) o.2
      rw [assign_of_set? ht, assign_of_set? ht]
      refine ih t (List.nodup_cons.mp hnodup).2 fun o' ho' => ?_
      rw [verb_of_set? ht]
      exact hknown o' (List.mem_cons_of_mem o ho')
  | swap o o' options =>
      intro s hnodup hknown
      have hne : o'.1 ≠ o.1 := fun h => (List.nodup_cons.mp hnodup).1 (by simp [h])
      obtain ⟨t', ht'⟩ := exists_set? (hknown o' (by simp)) o'.2
      obtain ⟨t, ht⟩ := exists_set? (hknown o (by simp)) o.2
      obtain ⟨u, hu⟩ := exists_set? (s := t') (verb_of_set? ht' ▸ hknown o (by simp)) o.2
      -- whichever comes first, both end in the same statement
      have hcomm := s.set?_comm hne o'.2 o.2
      rw [ht', ht, Option.bind_some, Option.bind_some, hu] at hcomm
      rw [assign_of_set? ht', assign_of_set? hu, assign_of_set? ht, assign_of_set? hcomm.symm]
  | trans h _ ih ih' =>
      intro s hnodup hknown
      rw [ih s hnodup hknown]
      refine ih' s ((h.map Prod.fst).nodup_iff.mp hnodup) fun o ho => ?_
      exact hknown o (h.mem_iff.mpr ho)

/-- The options of a verb make up one statement, in whatever order they are given. -/
theorem ofOptions_perm (h : options.Perm options') (hnodup : (options.map Prod.fst).Nodup)
    (hknown : ∀ o ∈ options, o.1 ∈ verb.optionNames) :
    ofOptions verb options = ofOptions verb options' := by
  refine assign_perm h _ hnodup fun o ho => ?_
  cases verb <;> exact hknown o ho

/-- The first option that a statement does not take is the fault of all of them. -/
theorem assign_of_unknown {o : String × Value} :
    ∀ (options : List (String × Value)) (s : Statement),
      options.find? (·.1 ∉ s.verb.optionNames) = some o →
      assign builder s options = .error (.type (.unexpectedOption builder o.1)) := by
  intro options
  induction options with
  | nil => intro _ h; exact nomatch h
  | cons option options ih =>
      intro s h
      obtain ⟨name, v⟩ := option
      by_cases hname : name ∈ s.verb.optionNames
      · obtain ⟨t, ht⟩ := exists_set? hname v
        rw [List.find?_cons_of_neg (by simpa using hname), ← verb_of_set? ht] at h
        rw [assign_of_set? ht, ih t h]
      · rw [List.find?_cons_of_pos (by simpa using hname)] at h
        have hnone : s.set? name v = none := by
          rw [← Option.not_isSome_iff_eq_none, isSome_set?_iff]
          exact hname
        rw [assign, hnone, ← Option.some.inj h]

theorem ofOptions_of_unknown {o : String × Value}
    (h : options.find? (·.1 ∉ verb.optionNames) = some o) :
    ofOptions verb options = .error (.type (.unexpectedOption verb.builderName o.1)) := by
  refine assign_of_unknown options _ ?_
  cases verb <;> exact h

end Statement

end SqlText
