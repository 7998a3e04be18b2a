import SqlText.Proofs.Coercions
import SqlText.Proofs.Skeletons
import SqlText.Statement.Delete
import SqlText.Statement.Select
import SqlText.Statement.Update

/-!
# Interchange — plain values and their descriptions give the same statement

    { s with paging := .mapping [(.text "limit", .int 10)] }.text
    { s with paging := .paging ⟨.int 10, .null⟩ }.text

Any inputs of a SELECT, an UPDATE or a DELETE may be replaced by the descriptions that their
coercions give. The builds are then observed alike: they end in the same text or in the same
fault, and make the same records down to warnings. Only the records of debugging differ, for
a description has lost what it does not use.

* **`Select.text_observed`**, **`Update.text_observed`**, **`Delete.text_observed`**: a
  statement and one with some inputs replaced.
* **`variants_interchangeable`**: all three, and that a description describes itself.
-/

namespace SqlText

open Coupling (observed grave)

/-! ## Replaced inputs -/

/-- An input and what may stand in its place: itself, or the description that it stands
for. -/
inductive Replaced (k : Shape) : Value → Value → Prop where
  | same (v : Value) : Replaced k v v
  | coerced {v w : Value} (h : k.coerce v = .ok w) : Replaced k v w

/-- An input and what may stand in its place: itself, or the same collection with some of
its items replaced. The items of a mapping are its keys. -/
inductive ItemsReplaced (k : Shape) : Value → Value → Prop where
  | same (v : Value) : ItemsReplaced k v v
  | list {vs ws : List Value} (h : List.Forall₂ (Replaced k) vs ws) :
      ItemsReplaced k (.list vs) (.list ws)
  | tuple {vs ws : List Value} (h : List.Forall₂ (Replaced k) vs ws) :
      ItemsReplaced k (.tuple vs) (.tuple ws)
  | mapping {es es' : List (Value × Value)}
      (h : List.Forall₂ (fun e e' => Replaced k e.1 e'.1) es es') :
      ItemsReplaced k (.mapping es) (.mapping es')

namespace ItemsReplaced

variable {k : Shape} {v w : Value}

theorem isGiven_eq (h : ItemsReplaced k v w) : w.isGiven = v.isGiven := by
  cases h with
  | same v => rfl
  | list h => cases h <;> rfl
  | tuple h => cases h <;> rfl
  | mapping h => cases h <;> rfl

/-- What is done with the items of a value is done with those that replace them. -/
theorem iterate_bind {α : Type} {f : List Value → Except Fault α} (h : ItemsReplaced k v w)
    (hf : ∀ vs ws, List.Forall₂ (Replaced k) vs ws → f ws = f vs) :
    (w.iterate >>= f) = v.iterate >>= f := by
  cases h with
  | same => rfl
  | list h => exact hf _ _ h
  | tuple h => exact hf _ _ h
  | mapping h =>
      exact hf _ _ (List.forall₂_map_left_iff.mpr (List.forall₂_map_right_iff.mpr h))

end ItemsReplaced

/-- Lists whose items are worked through alike, pair by pair, are worked through alike. -/
theorem mapM_eq_of_forall₂ {α β γ : Type} {P : α → β → Prop} {f : α → Except Fault γ}
    {g : β → Except Fault γ} (hf : ∀ a b, P a b → g b = f a) :
    ∀ {xs : List α} {ys : List β}, List.Forall₂ P xs ys → ys.mapM g = xs.mapM f := by
  intro xs ys h
  induction h with
  | nil => rfl
  | cons hab _ ih => rw [List.mapM_cons, List.mapM_cons, hf _ _ hab, ih]

/-! ## Clauses -/

variable {v w : Value} {c : Context}

/-- Builds that are observed alike, followed by the same build. -/
theorem bind_observed {α β : Type} {x y : Build α} {f : α → Build β}
    (h : observed.Runs (· = ·) (x.run c) (y.run c)) :
    observed.Runs (· = ·) ((x >>= f).run c) ((y >>= f).run c) := by
  refine h.bind ?_
  rintro a _ rfl
  exact observed_refl _

/-- A clause that is left out unless its input counts as given. -/
theorem whenGiven_observed {f : Value → Build String} (hg : w.isGiven = v.isGiven)
    (h : observed.Runs (· = ·) ((f v).run c) ((f w).run c)) :
    observed.Runs (· = ·) ((Build.whenGiven v f).run c) ((Build.whenGiven w f).run c) := by
  rw [Build.whenGiven, Build.whenGiven, hg]
  by_cases hv : v.isGiven
  · rw [if_pos hv, if_pos hv]; exact h
  · rw [if_neg hv, if_neg hv]; exact observed_refl _

theorem Columns.observed_of_replaced (h : Replaced .columns v w) :
    w.isGiven = v.isGiven ∧
      observed.Runs (· = ·) ((ofValue? v).run c) ((ofValue? w).run c) := by
  cases h with
  | same => exact ⟨rfl, observed_refl _⟩
  | coerced h => exact observed_of_coerce h c

theorem Columns.listText_observed (h : Replaced .columns v w) :
    observed.Runs (· = ·) ((listText v).run c) ((listText w).run c) :=
  bind_observed (observed_of_replaced h).2

theorem Columns.groupText_observed (h : Replaced .columns v w) :
    observed.Runs (· = ·) ((Build.whenGiven v groupText).run c)
      ((Build.whenGiven w groupText).run c) := by
  refine whenGiven_observed (observed_of_replaced (c := c) h).1 ?_
  exact bind_observed (observed_of_replaced h).2

theorem OrderBy.text_observed (h : Replaced .ordering v w) :
    observed.Runs (· = ·) ((Build.whenGiven v text).run c)
      ((Build.whenGiven w text).run c) := by
  cases h with
  | same => exact observed_refl _
  | coerced h =>
      refine whenGiven_observed (observed_of_coerce h c).1 ?_
      exact bind_observed (observed_of_coerce h c).2

theorem Join.ofValue_of_replaced (h : Replaced .join v w) : ofValue w = ofValue v := by
  cases h with
  | same => rfl
  | coerced h => exact ofValue_of_coerce h

/-- Descriptions that are replaced one by one are read alike, with the same records. -/
theorem Join.mapM_ofValue_of_replaced :
    ∀ {vs ws : List Value}, List.Forall₂ (Replaced .join) vs ws →
      ws.mapM ofValue = vs.mapM ofValue := by
  intro vs ws h
  induction h with
  | nil => rfl
  | cons hvw _ ih => rw [List.mapM_cons, List.mapM_cons, ofValue_of_replaced hvw, ih]

/-- Joins that are replaced one by one are chained alike, with the same records. -/
theorem Join.chain_of_replaced (h : ItemsReplaced .join v w) : chain w = chain v := by
  have hg := h.isGiven_eq
  unfold chain
  rw [hg]
  by_cases hv : v.isGiven
  · rw [if_neg (by rw [hv]; decide), if_neg (by rw [hv]; decide)]
    cases h with
    | same => rfl
    | @list vs ws h =>
        show (pure ws >>= fun ds => ds.mapM ofValue >>= _) = pure vs >>= _
        rw [pure_bind, pure_bind, mapM_ofValue_of_replaced h]
    | @tuple vs ws h =>
        show (pure ws >>= fun ds => ds.mapM ofValue >>= _) = pure vs >>= _
        rw [pure_bind, pure_bind, mapM_ofValue_of_replaced h]
    | mapping h => rfl
  · rw [Bool.eq_false_iff.mpr hv]
    rfl

theorem Join.whenGiven_of_replaced (h : ItemsReplaced .join v w) :
    Build.whenGiven w chain = Build.whenGiven v chain := by
  rw [Build.whenGiven, Build.whenGiven, h.isGiven_eq, chain_of_replaced h]

/-- Subqueries that are replaced one by one are listed alike. -/
theorem SubQuery.listText_of_replaced (h : ItemsReplaced .subQuery v w) :
    listText w = listText v := by
  have hread : ∀ v w, Replaced .subQuery v w → ofValue w = ofValue v := by
    rintro v w (_ | h)
    · rfl
    · exact ofValue_of_coerce h
  rw [listText, listText]
  rw [h.isGiven_eq]
  split
  · refine h.iterate_bind fun vs ws hvs => ?_
    rw [mapM_eq_of_forall₂ hread hvs]
  · rfl

/-- Aggregates that are replaced one by one are listed alike. -/
theorem Aggregate.listText_of_replaced (h : ItemsReplaced .aggregate v w) :
    listText w = listText v := by
  have hread : ∀ v w, Replaced .aggregate v w → itemText w = itemText v := by
    rintro v w (_ | h)
    · rfl
    · rw [itemText, itemText, ofValue_of_coerce h]
  rw [listText, listText]
  rw [h.isGiven_eq]
  split
  · refine h.iterate_bind fun vs ws hvs => ?_
    rw [mapM_eq_of_forall₂ hread hvs]
  · rfl

theorem RecursiveCte.ofValue_of_replaced (h : Replaced .recursiveCte v w) :
    w.isGiven = v.isGiven ∧ ofValue w = ofValue v := by
  cases h with
  | same => exact ⟨rfl, rfl⟩
  | coerced h => exact ofValue_of_coerce h

/-- Paging and its description are written alike; the empty mapping, which does not count as
given, describes neither limit nor offset. -/
theorem Paging.whenGiven_of_replaced (h : Replaced .paging v w) :
    (Build.whenGiven w fun v => Paging.text v) = Build.whenGiven v fun v => Paging.text v := by
  cases h with
  | same => rfl
  | coerced h =>
      have hread := ofValue_of_coerce h
      obtain ⟨p, hp, rfl⟩ := map_eq_ok_iff.mp h
      have hw : (Value.paging p).isGiven := rfl
      rw [Build.whenGiven, Build.whenGiven, if_pos hw, text, text, hread]
      by_cases hv : v.isGiven
      · rw [if_pos hv]
      · rw [if_neg hv]
        cases v with
        | mapping es =>
            cases es with
            | nil => rfl
            | cons e es => exact absurd rfl hv
        | paging p' => exact absurd rfl hv
        | _ => simp [ofValue] at hp

/-- A value and its CASE expression are assigned alike. -/
theorem CaseExpr.assignment_of_replaced (column : Value) (h : Replaced .caseExpr v w) :
    assignment column w = assignment column v := by
  cases h with
  | same => rfl
  | coerced h =>
      obtain ⟨hdescribed, hread⟩ := ofValue_of_coerce h
      obtain ⟨e, -, rfl⟩ := map_eq_ok_iff.mp h
      have hw : isDescribed (.caseExpr e) = true := rfl
      unfold assignment
      rw [if_pos hw, if_pos (hdescribed.symm.trans hw), hread]

/-! ## Statements -/

/-- Builds that are observed alike in every context: they end in the same result or in the
same fault, and make the same records down to warnings. -/
def ObservedAlike (x y : Build α) : Prop :=
  ∀ c, (x.run c).outcome = (y.run c).outcome ∧
    grave (x.run c).records = grave (y.run c).records

theorem ObservedAlike.of_runs {x y : Build α}
    (h : ∀ c, observed.Runs (· = ·) (x.run c) (y.run c)) : ObservedAlike x y := by
  intro c
  obtain ⟨hout, hrecords⟩ := h c
  refine ⟨?_, hrecords⟩
  generalize (x.run c).outcome = o at hout ⊢
  generalize (y.run c).outcome = o' at hout ⊢
  cases hout with
  | ok h => rw [h]
  | error h => exact congrArg Except.error h

/-- A SELECT and one with some inputs replaced by their descriptions. -/
structure Select.Interchanged (s s' : Select) : Prop where
  same : s' = { s with
    columns := s'.columns, subQueries := s'.subQueries, aggregates := s'.aggregates,
    joins := s'.joins, grouping := s'.grouping, ordering := s'.ordering,
    paging := s'.paging, recursiveCte := s'.recursiveCte }
  columns : Replaced .columns s.columns s'.columns
  subQueries : ItemsReplaced .subQuery s.subQueries s'.subQueries
  aggregates : ItemsReplaced .aggregate s.aggregates s'.aggregates
  joins : ItemsReplaced .join s.joins s'.joins
  grouping : Replaced .columns s.grouping s'.grouping
  ordering : Replaced .ordering s.ordering s'.ordering
  paging : Replaced .paging s.paging s'.paging
  recursiveCte : Replaced .recursiveCte s.recursiveCte s'.recursiveCte

/-- An UPDATE and one with some inputs, values of single columns among them, replaced by
their descriptions. -/
structure Update.Interchanged (s s' : Update) : Prop where
  same : s' = { s with
    joins := s'.joins, values := s'.values, ordering := s'.ordering }
  joins : ItemsReplaced .join s.joins s'.joins
  values : s'.values = s.values ∨ ∃ es es', s.values = .mapping es ∧ s'.values = .mapping es' ∧
    SameEntries (fun _ => Replaced .caseExpr) es es'
  ordering : Replaced .ordering s.ordering s'.ordering

/-- A DELETE and one with some inputs replaced by their descriptions. -/
structure Delete.Interchanged (s s' : Delete) : Prop where
  same : s' = { s with joins := s'.joins, ordering := s'.ordering }
  joins : ItemsReplaced .join s.joins s'.joins
  ordering : Replaced .ordering s.ordering s'.ordering

/-- The source of a SELECT is read alike from a relation and from its description. -/
theorem Select.Interchanged.source_eq {s s' : Select} (h : s.Interchanged s') :
    s'.source = s.source ∧ s'.sourceField = s.sourceField := by
  obtain ⟨hgiven, hread⟩ := RecursiveCte.ofValue_of_replaced h.recursiveCte
  have htable : s'.table = s.table := by rw [h.same]
  rw [source, source, sourceField, sourceField, hgiven, hread, htable]
  exact ⟨rfl, rfl⟩

/-- The select list of a SELECT is observed alike. -/
theorem Select.Interchanged.listText_observed {s s' : Select} (h : s.Interchanged s')
    (c : Context) :
    observed.Runs (· = ·) ((listText s.columns s.subQueries s.aggregates).run c)
      ((listText s'.columns s'.subQueries s'.aggregates).run c) := by
  rw [listText, listText, SubQuery.listText_of_replaced h.subQueries,
    Aggregate.listText_of_replaced h.aggregates]
  exact bind_observed (Columns.listText_observed h.columns)

theorem Select.compose_observed {s s' : Select} (h : s.Interchanged s') (c : Context) :
    observed.Runs (· = ·) (s.compose.run c) (s'.compose.run c) := by
  obtain ⟨hsource, hfield⟩ := h.source_eq
  have hcheck : ∀ v, s'.checkSource v = s.checkSource v := by
    intro v
    rw [checkSource, checkSource, hfield]
  have hjoins := Join.whenGiven_of_replaced h.joins
  have hdistinct : s'.distinct = s.distinct := by rw [h.same]
  have hcondition : s'.condition = s.condition := by rw [h.same]
  have hhaving : s'.having = s.having := by rw [h.same]
  rw [compose, compose]
  rw [hsource, hjoins, hdistinct, hcondition, hhaving, Paging.whenGiven_of_replaced h.paging]
  refine Coupling.Runs.bind_same fun ⟨relation, source⟩ _ => ?_
  dsimp only
  rw [hcheck]
  refine Coupling.Runs.bind_same fun _ _ => ?_
  refine (h.listText_observed c).bind ?_
  rintro list _ rfl
  refine Coupling.Runs.bind_same fun joins _ => ?_
  refine (Columns.groupText_observed h.grouping).bind ?_
  rintro grouping _ rfl
  exact bind_observed (OrderBy.text_observed h.ordering)

theorem Select.text_observed {s s' : Select} (h : s.Interchanged s') (c : Context) :
    observed.Runs (· = ·) (s.text.run c) (s'.text.run c) :=
  bind_observed (compose_observed h c)

/-- The values of an UPDATE are assigned alike. -/
theorem Update.Interchanged.assignments_eq {s s' : Update} (h : s.Interchanged s') :
    s'.assignments = s.assignments := by
  have hvalues : groupText s'.values valueItems = groupText s.values valueItems := by
    rcases h.values with hsame | ⟨es, es', hes, hes', hreplaced⟩
    · rw [hsame]
    · have hgiven : (Value.mapping es').isGiven = (Value.mapping es).isGiven :=
        congrArg (!·) hreplaced.isEmpty_eq
      have hitems : valueItems (.mapping es') = valueItems (.mapping es) := by
        refine mapM_eq_of_forall₂ (fun e e' he => ?_) hreplaced
        rw [he.1]
        exact CaseExpr.assignment_of_replaced e.1 he.2
      rw [hes, hes', groupText, groupText, hgiven, hitems]
  rw [assignments, assignments, hvalues, h.same]

theorem Update.compose_observed {s s' : Update} (h : s.Interchanged s') (c : Context) :
    observed.Runs (· = ·) (s.compose.run c) (s'.compose.run c) := by
  have htable : s'.table = s.table := by rw [h.same]
  have hcondition : s'.condition = s.condition := by rw [h.same]
  have hlimit : s'.limit = s.limit := by rw [h.same]
  rw [compose, compose]
  rw [htable, hcondition, hlimit, h.assignments_eq, Join.chain_of_replaced h.joins]
  refine Coupling.Runs.bind_same fun _ _ => ?_
  refine Coupling.Runs.bind_same fun _ _ => ?_
  refine Coupling.Runs.bind_same fun assignments _ => ?_
  -- whether a missing assignment is reported first or not, the rest is the same
  have hrest (f : String → String → Build String) :
      observed.Runs (· = ·)
        ((Join.chain s.joins >>= fun joins =>
          Build.whenGiven s.ordering OrderBy.text >>= f joins).run c)
        ((Join.chain s.joins >>= fun joins =>
          Build.whenGiven s'.ordering OrderBy.text >>= f joins).run c) := by
    refine Coupling.Runs.bind_same fun joins _ => ?_
    exact bind_observed (OrderBy.text_observed h.ordering)
  split
  · exact Coupling.Runs.bind_same fun _ _ => hrest _
  · exact hrest _

theorem Update.text_observed {s s' : Update} (h : s.Interchanged s') (c : Context) :
    observed.Runs (· = ·) (s.text.run c) (s'.text.run c) :=
  bind_observed (compose_observed h c)

theorem Delete.compose_observed {s s' : Delete} (h : s.Interchanged s') (c : Context) :
    observed.Runs (· = ·) (s.compose.run c) (s'.compose.run c) := by
  have htable : s'.table = s.table := by rw [h.same]
  have hcondition : s'.condition = s.condition := by rw [h.same]
  have hlimit : s'.limit = s.limit := by rw [h.same]
  have hjoins := Join.whenGiven_of_replaced h.joins
  rw [compose, compose]
  rw [htable, hcondition, hlimit, hjoins]
  refine Coupling.Runs.bind_same fun _ _ => ?_
  refine Coupling.Runs.bind_same fun _ _ => ?_
  refine Coupling.Runs.bind_same fun joins _ => ?_
  exact bind_observed (OrderBy.text_observed h.ordering)

theorem Delete.text_observed {s s' : Delete} (h : s.Interchanged s') (c : Context) :
    observed.Runs (· = ·) (s.text.run c) (s'.text.run c) :=
  bind_observed (compose_observed h c)

/-- In a SELECT, an UPDATE or a DELETE any inputs may be replaced by the descriptions that
they stand for: the build ends in the same statement or in the same fault, and it makes the
same records down to warnings. A description stands for itself. -/
theorem variants_interchangeable :
    (∀ (k : Shape) (v w : Value), k.coerce v = .ok w → k.coerce w = .ok w) ∧
      (∀ s s' : Select, s.Interchanged s' → ObservedAlike s.text s'.text) ∧
      (∀ s s' : Update, s.Interchanged s' → ObservedAlike s.text s'.text) ∧
      ∀ s s' : Delete, s.Interchanged s' → ObservedAlike s.text s'.text :=
  ⟨fun k _ _ h => k.coerce_idem h, fun _ _ h => .of_runs (Select.text_observed h),
    fun _ _ h => .of_runs (Update.text_observed h),
    fun _ _ h => .of_runs (Delete.text_observed h)⟩

/-- Orders of users, with an unknown kind of join and entries that are left out. -/
def plainOrders : Select where
  table := .text "users"
  columns := .mapping [(.text "users", .list [.text "id"]), (.text "orders", .text "id")]
  joins := .list [.mapping [(.text "type", .text "outer apply"), (.text "users", .text "id"),
    (.text "orders", .text "user_id")]]
  ordering := .mapping [(.text "id", .int 1), (.text "total", .text "up")]
  paging := .mapping [(.text "limit", .int 0)]

/-- The same orders, by descriptions. -/
def describedOrders : Select where
  table := .text "users"
  columns := .columns (.tables (.tuple [.columnGroup ⟨.text "users", .tuple [.text "id"]⟩]))
  joins := .list [.join (.equi (.text "users") (.text "id") (.text "orders") (.text "user_id")
    (.text "=") (.text "outer apply"))]
  ordering := .orderBy (.keys (.tuple [.sortKey ⟨.text "id", .text "ASC", .null⟩]))
  paging := .paging ⟨.int 0, .null⟩

/-- New grades by a CASE expression without an ELSE. -/
def plainGrades : Update where
  table := .text "users"
  condition := .text "id > 0"
  values := .mapping [(.text "grade", .mapping [(.text "case", .list [
    .mapping [(.text "when", .text "points > 9"), (.text "then", .int 1)]])])]

/-- The same grades, by a description. -/
def describedGrades : Update where
  table := .text "users"
  condition := .text "id > 0"
  values := .mapping [(.text "grade",
    .caseExpr ⟨.tuple [.caseBranch ⟨.text "points > 9", .int 1⟩], .noElse⟩)]

theorem interchanged_orders : plainOrders.Interchanged describedOrders where
  same := rfl
  columns := .coerced rfl
  subQueries := .same _
  aggregates := .same _
  joins := .list (.cons (.coerced rfl) .nil)
  grouping := .same _
  ordering := .coerced rfl
  paging := .coerced rfl
  recursiveCte := .same _

theorem interchanged_grades : plainGrades.Interchanged describedGrades where
  same := rfl
  joins := .same _
  values := .inr ⟨_, _, rfl, rfl, .cons ⟨rfl, .coerced rfl⟩ .nil⟩
  ordering := .same _

/-- Entries that are left out and kinds that are not known are no exception. -/
theorem variants_interchangeable_orders :
    plainOrders.Interchanged describedOrders ∧
      ObservedAlike plainOrders.text describedOrders.text ∧
      plainGrades.Interchanged describedGrades ∧
      ObservedAlike plainGrades.text describedGrades.text ∧
      describedOrders.text.outcome {} = .ok ("SELECT users.id FROM users outer apply orders " ++
        "ON users.id = orders.user_id ORDER BY id ASC") ∧
      describedGrades.text.outcome {} = .ok ("UPDATE users SET " ++
        "grade = CASE WHEN points > 9 THEN 1 END WHERE id > 0") :=
  ⟨interchanged_orders, variants_interchangeable.2.1 _ _ interchanged_orders,
    interchanged_grades, variants_interchangeable.2.2.1 _ _ interchanged_grades,
    eq_ok_of_toOption (by decide +kernel), eq_ok_of_toOption (by decide +kernel)⟩

end SqlText
