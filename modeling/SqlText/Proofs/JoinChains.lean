import SqlText.Proofs.Diagnostics
import SqlText.Proofs.RowBounds

/-!
# Join chains — all of the joins, or the first description without a relation

    chain [d₁, ..., dₙ]  =  " " ++ join₁ ++ "  " ++ ... ++ "  " ++ joinₙ,   or a refusal of dᵢ

A description names a relation where it has a condition and a pair, or exactly two pairs. A
chain is written where every description names one. Elsewhere the first that names none is
refused, with its number of pairs and whether its kind was left out, and with the one error
record of the chain; the descriptions before it leave no more than warnings.

* **`Run.EndsIn`**: an outcome, and records that end in certain ones after warnings.
* **`Join.described?`**: the join that a description names.
* **`Join.endsIn_ofValue`**, **`Join.endsIn_chain`**, **`Join.refuses_first`**: one description,
  and the chain.
* **`Join.chain_append`**: two chains in a row.
* **`Join.chain_all_or_nothing`**: all of it, with the text of a single pair of tables.
-/

namespace SqlText

variable {α β : Type} {c : Context}

/-! ## Records after warnings -/

/-- A run of this outcome whose records are warnings and after them these. -/
structure Run.EndsIn (r : Run α) (outcome : Except Fault α) (last : List Log.Record) : Prop where
  outcome : r.outcome = outcome
  records : ∃ rs, (∀ x ∈ rs, x.severity = .warning) ∧ r.records = rs ++ last

namespace Run.EndsIn

variable {x : Build α} {f : α → Build β} {y : Except Fault β} {last : List Log.Record}

theorem of_eq {r : Run α} {z : Except Fault α} (h : r = ⟨z, last⟩) : r.EndsIn z last :=
  ⟨congrArg Run.outcome h, [], List.forall_mem_nil _, congrArg Run.records h⟩

theorem pure (a : α) : ((Pure.pure a : Build α).run c).EndsIn (.ok a) [] := of_eq rfl

/-- Warnings of a build that ends in a result go before the records of what follows it. -/
theorem bind {a : α} (hx : (x.run c).EndsIn (.ok a) []) (hf : ((f a).run c).EndsIn y last) :
    ((x >>= f).run c).EndsIn y last := by
  obtain ⟨rs, hrs, hxr⟩ := hx.records
  obtain ⟨ss, hss, hfr⟩ := hf.records
  have hrun : x.run c = ⟨.ok a, rs⟩ := by
    rw [← hx.outcome, ← List.append_nil rs, ← hxr]
  rw [Build.run_bind, hrun, Build.andThen_ok]
  refine ⟨hf.outcome, rs ++ ss, fun r hr => (List.mem_append.mp hr).elim (hrs r) (hss r), ?_⟩
  rw [List.append_assoc, ← hfr]

/-- A build in a row with others ends it by its fault. -/
theorem bind_error {e : Fault} (hx : (x.run c).EndsIn (.error e) last) :
    ((x >>= f).run c).EndsIn (.error e) last := by
  have hrun : x.run c = ⟨.error e, (x.run c).records⟩ := by rw [← hx.outcome]
  rw [Build.run_bind_of_stopped hrun]
  exact ⟨rfl, hx.records⟩

/-- Builds in a row end in a list of results where each ends in one. -/
theorem mapM {f : α → Build β} {as : List α}
    (h : ∀ a ∈ as, ∃ b, ((f a).run c).EndsIn (.ok b) []) :
    ∃ bs, ((as.mapM f).run c).EndsIn (.ok bs) [] := by
  induction as with
  | nil => exact ⟨[], by rw [List.mapM_nil]; exact pure []⟩
  | cons a as ih =>
      obtain ⟨⟨b, hb⟩, has⟩ := List.forall_mem_cons.mp h
      obtain ⟨bs, hbs⟩ := ih has
      refine ⟨b :: bs, ?_⟩
      rw [List.mapM_cons]
      exact hb.bind (hbs.bind (pure _))

end Run.EndsIn

namespace Join

/-! ## Descriptions that name a relation -/

/-- A condition and a pair of table and column, or exactly two pairs. -/
def WellFormed (es : List (Value × Value)) : Prop :=
  ((valueAt "on" es).isGiven = true ∧ pairs es ≠ []) ∨ (pairs es).length = 2

/-- The kind and the operator, where they are there, are texts or null. -/
structure TextWords (es : List (Value × Value)) : Prop where
  kind : ∀ v, valueAt? "type" es = some v → v.IsOptionalText
  operator : ∀ v, valueAt? "operator" es = some v → v.IsOptionalText

/-- The text under a key, the usual one where it is absent, null or empty. -/
def wordOr (usual key : String) (es : List (Value × Value)) : String :=
  match valueAt? key es with
  | some (.text t) => if t.isEmpty then usual else t
  | _              => usual

theorem orElse_valueAt {key : String} {es : List (Value × Value)}
    (h : ∀ v, valueAt? key es = some v → v.IsOptionalText) (usual : String) :
    (valueAt key es).orElse (.text usual) = .text (wordOr usual key es) := by
  rw [valueAt, wordOr]
  cases hv : valueAt? key es with
  | none => rfl
  | some v =>
      cases h v hv with
      | none => rfl
      | text t =>
          simp only [Option.getD_some, Value.orElse, Value.isGiven]
          by_cases ht : t.isEmpty <;> simp [ht]

/-- The join that a description names, if it names one. -/
def described? (es : List (Value × Value)) : Option Join :=
  let kind := (valueAt "type" es).orElse (.text "JOIN")
  match (valueAt "on" es).isGiven, pairs es with
  | true, p :: _ => some (.explicit ((valueAt "table" es).orElse p.1) (valueAt "on" es) kind)
  | _, [left, right] =>
    some (.equi left.1 left.2 right.1 right.2 ((valueAt "operator" es).orElse (.text "=")) kind)
  | _, _ => none

theorem isSome_described? (es : List (Value × Value)) :
    (described? es).isSome ↔ WellFormed es := by
  rw [described?, WellFormed]
  rcases (valueAt "on" es).isGiven with _ | _ <;> rcases pairs es with _ | ⟨p, _ | ⟨q, _ | _⟩⟩ <;>
    simp

/-- The join of a description of two tables without a condition. -/
theorem described?_of_pairs {es : List (Value × Value)} {left right : Value × Value}
    (hon : (valueAt "on" es).isGiven = false) (hpairs : pairs es = [left, right]) :
    described? es = some (.equi left.1 left.2 right.1 right.2
      ((valueAt "operator" es).orElse (.text "=")) ((valueAt "type" es).orElse (.text "JOIN"))) := by
  rw [described?, hon, hpairs]

theorem hasWords_of_described? {es : List (Value × Value)} (hes : TextWords es) {j : Join}
    (h : described? es = some j) : j.HasWords := by
  rw [described?, orElse_valueAt hes.kind, orElse_valueAt hes.operator] at h
  split at h
  · cases h; exact .inl ⟨_, rfl⟩
  · cases h; exact ⟨.inl ⟨_, rfl⟩, .inl ⟨_, rfl⟩⟩
  · cases h

/-! ## Reading a description -/

/-- The refusal of a description that names no relation. -/
def refusal (es : List (Value × Value)) : BuildError :=
  .joinSpec (.int (pairs es).length) (.bool (valueAt? "type" es).isNone)

/-- The record of such a refusal. -/
def refusalRecord (es : List (Value × Value)) : Log.Record :=
  ⟨Log.Channel.clauses, .error, "Invalid join descriptor " ++ (Value.mapping es).inspect ++
    ": found " ++ (pairs es).length.repr ++ " table/column pairs"⟩

theorem ofEntries_eq (es : List (Value × Value)) :
    ofEntries es = match described? es with
      | some j => pure j
      | none   => Build.noteRecord (refusalRecord es) >>= fun _ => Build.refuse (refusal es) := by
  rw [ofEntries, described?, refusal, refusalRecord]
  generalize (valueAt "on" es).isGiven = given
  generalize pairs es = ps
  rcases given with _ | _ <;> rcases ps with _ | ⟨p, _ | ⟨q, _ | _⟩⟩ <;> rfl

/-- A word is reported by a warning at most. -/
theorem endsIn_reportUnknown (what : String) (words : List String) {word : Value}
    (h : word.IsWord) : ((reportUnknown what words word).run c).EndsIn (.ok ()) [] := by
  obtain ⟨b, hb⟩ : ∃ b, isKnown words word = .ok b := by
    rcases h with ⟨t, rfl⟩ | ⟨bs, rfl⟩ <;> exact ⟨_, rfl⟩
  have hread : ((liftM (isKnown words word) : Build Bool).run c).EndsIn (.ok b) [] := by
    rw [hb]; exact .of_eq rfl
  refine hread.bind ?_
  cases b with
  | true => exact .pure ()
  | false =>
      refine ⟨rfl, [_], fun r hr => ?_, rfl⟩
      rw [List.mem_singleton.mp hr]

theorem endsIn_report {j : Join} (h : j.HasWords) : (j.report.run c).EndsIn (.ok ()) [] := by
  cases j with
  | explicit table condition kind => exact (endsIn_reportUnknown _ _ h).bind (.pure ())
  | equi a b c d operator kind =>
      exact (endsIn_reportUnknown _ _ h.2).bind (endsIn_reportUnknown _ _ h.1)

/-- A description is read as the join that it names. -/
theorem endsIn_ofValue {es : List (Value × Value)} (hes : TextWords es) {j : Join}
    (h : described? es = some j) : ((ofValue (.mapping es)).run c).EndsIn (.ok j) [] := by
  rw [ofValue, ofEntries_eq, h, pure_bind]
  exact (endsIn_report (hasWords_of_described? hes h)).bind (.pure j)

/-- A description that names no relation is refused after one error record. -/
theorem endsIn_ofValue_refused {es : List (Value × Value)} (h : described? es = none) :
    ((ofValue (.mapping es)).run c).EndsIn (.error (.build (refusal es))) [refusalRecord es] := by
  rw [ofValue, ofEntries_eq, h]
  exact .bind_error (.of_eq rfl)

/-! ## Chains -/

/-- Descriptions as the value that a statement takes for its joins. -/
def descriptions (ds : List (List (Value × Value))) : Value := .list (ds.map .mapping)

/-- A chain of descriptions is read one by one and then written. -/
theorem chain_descriptions {ds : List (List (Value × Value))} (h : ds ≠ []) :
    chain (descriptions ds) = (ds.mapM fun es => ofValue (.mapping es)) >>= fun js =>
      pure (" ".intercalate (js.map segment)) := by
  obtain ⟨es, ds, rfl⟩ := List.exists_cons_of_ne_nil h
  show ((((es :: ds).map Value.mapping).mapM ofValue) >>= _) = _
  rw [List.mapM_map]
  rfl

/-- Descriptions that name relations are read with warnings at most. -/
theorem endsIn_mapM {ds : List (List (Value × Value))} (hwords : ∀ es ∈ ds, TextWords es)
    (hds : ∀ es ∈ ds, WellFormed es) :
    ∃ js, ((ds.mapM fun es => ofValue (.mapping es)).run c).EndsIn (.ok js) [] := by
  refine Run.EndsIn.mapM fun es hes => ?_
  obtain ⟨j, hj⟩ := Option.isSome_iff_exists.mp ((isSome_described? es).mpr (hds es hes))
  exact ⟨j, endsIn_ofValue (hwords es hes) hj⟩

/-- A chain of descriptions that name relations is written. -/
theorem endsIn_chain {ds : List (List (Value × Value))} (hne : ds ≠ [])
    (hwords : ∀ es ∈ ds, TextWords es) (hds : ∀ es ∈ ds, WellFormed es) :
    ∃ t, ((chain (descriptions ds)).run c).EndsIn (.ok t) [] := by
  obtain ⟨js, hjs⟩ := endsIn_mapM (c := c) hwords hds
  rw [chain_descriptions hne]
  exact ⟨_, hjs.bind (.pure _)⟩

/-- The first description that names no relation ends the chain. -/
theorem refuses_first {before after : List (List (Value × Value))} {es : List (Value × Value)}
    (hwords : ∀ d ∈ before, TextWords d) (hbefore : ∀ d ∈ before, WellFormed d)
    (hes : ¬ WellFormed es) :
    ((chain (descriptions (before ++ es :: after))).run c).EndsIn
      (.error (.build (refusal es))) [refusalRecord es] := by
  obtain ⟨js, hjs⟩ := endsIn_mapM (c := c) hwords hbefore
  have hnone : described? es = none := by
    rw [← Option.not_isSome_iff_eq_none, isSome_described?]
    exact hes
  rw [chain_descriptions (List.append_ne_nil_of_right_ne_nil _ (List.cons_ne_nil _ _)),
    List.mapM_append, List.mapM_cons, bind_assoc]
  exact hjs.bind (.bind_error (.bind_error (.bind_error (endsIn_ofValue_refused hnone))))

/-- Two chains in a row are read one after the other and written with one blank between. -/
theorem chain_append {xs ys : List (List (Value × Value))} (hxs : xs ≠ []) (hys : ys ≠ []) :
    chain (descriptions (xs ++ ys)) = do
      let s ← chain (descriptions xs)
      let t ← chain (descriptions ys)
      return s ++ " " ++ t := by
  rw [chain_descriptions (List.append_ne_nil_of_left_ne_nil hxs _), chain_descriptions hxs,
    chain_descriptions hys, List.mapM_append]
  obtain ⟨x, xs, rfl⟩ := List.exists_cons_of_ne_nil hxs
  obtain ⟨y, ys, rfl⟩ := List.exists_cons_of_ne_nil hys
  simp only [List.mapM_cons, bind_assoc, pure_bind]
  refine bind_congr fun j => bind_congr fun js => bind_congr fun k => bind_congr fun ks => ?_
  rw [List.map_append, List.map_cons, List.map_cons,
    String.intercalate_append_of_ne_nil (List.cons_ne_nil _ _) (List.cons_ne_nil _ _)]

/-- Two tables that are joined where their columns compare, with the words of a description. -/
def pairText (es : List (Value × Value)) (left right : Value × Value) : String :=
  " " ++ wordOr "JOIN" "type" es ++ " " ++ right.1.display ++ " ON " ++
    left.1.display ++ "." ++ left.2.display ++ " " ++ wordOr "=" "operator" es ++ " " ++
    right.1.display ++ "." ++ right.2.display

theorem chain_pair {es : List (Value × Value)} {left right : Value × Value}
    (hes : TextWords es) (hon : (valueAt "on" es).isGiven = false)
    (hpairs : pairs es = [left, right]) :
    (chain (descriptions [es])).outcome c = .ok (pairText es left right) := by
  have hread := endsIn_ofValue (c := c) hes (described?_of_pairs hon hpairs)
  rw [orElse_valueAt hes.kind, orElse_valueAt hes.operator] at hread
  rw [chain_descriptions (List.cons_ne_nil _ _), List.mapM_cons, List.mapM_nil, Build.outcome_bind,
    Build.outcome_bind, Build.outcome, hread.outcome]
  show Except.ok (" ".intercalate [segment _]) = _
  rw [String.intercalate_singleton]
  rfl

/-! ## The whole of it -/

/-- A chain of descriptions is written exactly where each of them names a relation. Elsewhere the
first that names none is refused, by the number of its pairs and by whether its kind was left out,
and of all the records only the last is an error. Two chains in a row are two chains with one
blank between, and two tables without a condition are joined where their columns compare. -/
theorem chain_all_or_nothing (c : Context) :
    (∀ ds, ds ≠ [] → (∀ es ∈ ds, TextWords es) →
      ((∃ t, (chain (descriptions ds)).outcome c = .ok t) ↔ ∀ es ∈ ds, WellFormed es) ∧
      ((¬ ∀ es ∈ ds, WellFormed es) → ∃ before es after, ds = before ++ es :: after ∧
        (∀ d ∈ before, WellFormed d) ∧ ¬ WellFormed es ∧
        ((chain (descriptions ds)).run c).EndsIn
          (.error (.build (.joinSpec (.int (pairs es).length)
            (.bool (valueAt? "type" es).isNone))))
          [refusalRecord es])) ∧
    (∀ xs ys t, xs ≠ [] → ys ≠ [] →
      ((chain (descriptions (xs ++ ys))).outcome c = .ok t ↔
        ∃ s u, (chain (descriptions xs)).outcome c = .ok s ∧
          (chain (descriptions ys)).outcome c = .ok u ∧ t = s ++ " " ++ u)) ∧
    ∀ es left right, TextWords es → (valueAt "on" es).isGiven = false → pairs es = [left, right] →
      (chain (descriptions [es])).outcome c = .ok (pairText es left right) := by
  refine ⟨fun ds hne hwords => ?_, fun xs ys t hxs hys => ?_,
    fun es left right hes hon hpairs => chain_pair hes hon hpairs⟩
  · rcases forall_or_first WellFormed ds with hall | ⟨before, es, after, rfl, hbefore, hes⟩
    · obtain ⟨t, ht⟩ := endsIn_chain (c := c) hne hwords hall
      exact ⟨⟨fun _ => hall, fun _ => ⟨t, ht.outcome⟩⟩, fun h => absurd hall h⟩
    · have hwords' : ∀ d ∈ before, TextWords d := fun d hd => hwords d (List.mem_append_left _ hd)
      have hrefused : ((chain (descriptions (before ++ es :: after))).run c).EndsIn
          (.error (.build (refusal es))) [refusalRecord es] := refuses_first hwords' hbefore hes
      have hnot : ¬ ∀ d ∈ before ++ es :: after, WellFormed d := fun hall =>
        hes (hall es (List.mem_append_right _ List.mem_cons_self))
      refine ⟨⟨?_, fun hall => absurd hall hnot⟩, fun _ =>
        ⟨before, es, after, rfl, hbefore, hes, hrefused⟩⟩
      rintro ⟨t, ht⟩
      exact nomatch ht.symm.trans hrefused.outcome
  · rw [chain_append hxs hys]
    simp only [Build.outcome_bind, bind_eq_ok_iff, Build.outcome_pure, Except.ok.injEq]
    constructor
    · rintro ⟨s, hs, u, hu, rfl⟩
      exact ⟨s, u, hs, hu, rfl⟩
    · rintro ⟨s, u, hs, hu, rfl⟩
      exact ⟨s, hs, u, hu, rfl⟩

/-- Two tables, with an operator that does not count as given. -/
def usersOfOrders : List (Value × Value) :=
  [(.text "orders", .text "user_id"), (.text "users", .text "id"), (.text "operator", .text "")]

/-- One table alone, with a kind that is null. -/
def itemsAlone : List (Value × Value) :=
  [(.text "type", .null), (.text "items", .text "order_id")]

/-- One table with a condition. -/
def taggedItems : List (Value × Value) :=
  [(.text "tags", .text "id"), (.text "on", .text "tags.n = 1"), (.text "type", .text "left join")]

theorem textWords_usersOfOrders : TextWords usersOfOrders where
  kind := by rintro _ ⟨⟩
  operator := by rintro _ ⟨⟩; exact .text _

theorem textWords_itemsAlone : TextWords itemsAlone where
  kind := by rintro _ ⟨⟩; exact .none
  operator := by rintro _ ⟨⟩

theorem textWords_taggedItems : TextWords taggedItems where
  kind := by rintro _ ⟨⟩; exact .text _
  operator := by rintro _ ⟨⟩

theorem wellFormed_usersOfOrders : WellFormed usersOfOrders := .inr rfl

theorem wellFormed_taggedItems : WellFormed taggedItems := .inl ⟨rfl, List.cons_ne_nil _ _⟩

theorem not_wellFormed_itemsAlone : ¬ WellFormed itemsAlone := by
  rintro (⟨h, -⟩ | h)
  · exact nomatch h
  · exact nomatch h

/-- The chains of these descriptions: one alone, two in a row, and with a table alone between. -/
theorem chain_all_or_nothing_orders :
    (chain (descriptions [usersOfOrders])).outcome {} =
      .ok " JOIN users ON orders.user_id = users.id" ∧
    (∃ s u, (chain (descriptions [usersOfOrders])).outcome {} = .ok s ∧
      (chain (descriptions [taggedItems])).outcome {} = .ok u ∧
      (chain (descriptions [usersOfOrders, taggedItems])).outcome {} = .ok (s ++ " " ++ u)) ∧
    ((chain (descriptions [usersOfOrders, itemsAlone, taggedItems])).run {}).EndsIn
      (.error (.build (.joinSpec (.int 1) (.bool false)))) [refusalRecord itemsAlone] := by
  obtain ⟨hchain, happend, hpair⟩ := chain_all_or_nothing {}
  refine ⟨hpair _ _ _ textWords_usersOfOrders rfl rfl, ?_, ?_⟩
  · have hwords : ∀ es ∈ [usersOfOrders, taggedItems], TextWords es :=
      List.forall_mem_cons.mpr ⟨textWords_usersOfOrders, List.forall_mem_singleton.mpr
        textWords_taggedItems⟩
    have hall : ∀ es ∈ [usersOfOrders, taggedItems], WellFormed es :=
      List.forall_mem_cons.mpr ⟨wellFormed_usersOfOrders, List.forall_mem_singleton.mpr
        wellFormed_taggedItems⟩
    obtain ⟨t, ht⟩ := (hchain _ (List.cons_ne_nil _ _) hwords).1.mpr hall
    obtain ⟨s, u, hs, hu, rfl⟩ := (happend [usersOfOrders] [taggedItems] t (List.cons_ne_nil _ _)
      (List.cons_ne_nil _ _)).mp ht
    exact ⟨s, u, hs, hu, ht⟩
  · have hwords : ∀ es ∈ [usersOfOrders, itemsAlone, taggedItems], TextWords es :=
      List.forall_mem_cons.mpr ⟨textWords_usersOfOrders, List.forall_mem_cons.mpr
        ⟨textWords_itemsAlone, List.forall_mem_singleton.mpr textWords_taggedItems⟩⟩
    have hnot : ¬ ∀ es ∈ [usersOfOrders, itemsAlone, taggedItems], WellFormed es := fun hall =>
      not_wellFormed_itemsAlone (hall _ (List.mem_cons_of_mem _ List.mem_cons_self))
    obtain ⟨before, es, after, heq, hbefore, hes, hends⟩ :=
      (hchain _ (List.cons_ne_nil _ _) hwords).2 hnot
    -- the first description without a relation is the second of the three
    rcases before with _ | ⟨d, _ | ⟨d', before⟩⟩
    · cases heq; exact absurd wellFormed_usersOfOrders hes
    · cases heq; exact hends
    · have hd : itemsAlone = d' := (List.cons.inj (List.cons.inj heq).2).1
      have hd' := hbefore d' (List.mem_cons_of_mem _ List.mem_cons_self)
      exact absurd (hd ▸ hd') not_wellFormed_itemsAlone

end Join

end SqlText
