import SqlText.Clause.Paging
import SqlText.Proofs.ClauseOutcomes
import SqlText.Proofs.Skeletons

/-!
# Closed clauses — joins, orderings and limits that leave no literal open

    (Join.chain v).outcome c = .ok t  gives  Closed t,  where the parts of v are closed

The fragments of a statement that a caller writes are put together from the displays of
values. Where each of these leaves no literal open, as a text without quotes does, the
fragments do so too, and a literal that follows them stands where it seems to stand.

* **`Join.closed_of_chain`**: joins.
* **`OrderBy.closed_of_text`**: orderings.
-/

namespace SqlText

/-- A value that leaves no literal open where it is displayed. -/
def Value.ShowsClosed (v : Value) : Prop := Closed v.display

/-- A value all of whose items leave no literal open where they are displayed. -/
def Value.ItemsShowClosed (v : Value) : Prop :=
  ∀ vs, v.iterate = .ok vs → ∀ x ∈ vs, x.ShowsClosed

instance (v : Value) : Decidable v.ShowsClosed := inferInstanceAs (Decidable (Closed _))

/-- A text without quotes leaves no literal open. -/
theorem Value.ShowsClosed.text {s : String} (h : '\x22' ∉ s.toList) :
    (Value.text s).ShowsClosed :=
  closed_of_not_mem h

theorem Value.ShowsClosed.orElse {v w : Value} (hv : v.ShowsClosed) (hw : w.ShowsClosed) :
    (v.orElse w).ShowsClosed := by
  rw [Value.orElse]
  by_cases h : v.isGiven
  · rw [if_pos h]; exact hv
  · rw [if_neg h]; exact hw

/-- What is found under a key is closed where all values of the mapping are. -/
theorem showsClosed_valueAt (key : String) :
    ∀ {es : List (Value × Value)}, (∀ e ∈ es, e.2.ShowsClosed) → (valueAt key es).ShowsClosed := by
  intro es
  induction es with
  | nil => intro _; exact (by decide : Value.null.ShowsClosed)
  | cons e es ih =>
      intro h
      obtain ⟨k, v⟩ := e
      obtain ⟨hv, hes⟩ := List.forall_mem_cons.mp h
      rw [valueAt, valueAt?]
      by_cases hk : k.isText key
      · rw [if_pos hk]; exact hv
      · rw [if_neg hk]; exact ih hes

/-- A limit leaves no literal open. -/
theorem Paging.closed_limitSegment {v : Value} (h : v.ShowsClosed) :
    Closed (limitSegment v) := by
  rw [limitSegment]
  by_cases hv : v.isGiven
  · rw [if_pos hv]; exact (by decide : Closed " LIMIT ").append h
  · rw [if_neg hv]; decide

namespace Join

/-! ## Joins -/

/-- The values that a join is written from. -/
def parts : Join → List Value
  | explicit table condition kind => [table, condition, kind]
  | equi leftTable leftColumn rightTable rightColumn operator kind =>
    [leftTable, leftColumn, rightTable, rightColumn, operator, kind]

/-- A join all of whose parts leave no literal open. -/
def PartsClosed (j : Join) : Prop := ∀ v ∈ j.parts, v.ShowsClosed

/-- A description of a join whose parts, or whose keys and values, leave no literal open. -/
def DescriptionClosed : Value → Prop
  | .join j     => j.PartsClosed
  | .mapping es => ∀ e ∈ es, e.1.ShowsClosed ∧ e.2.ShowsClosed
  | _           => True

/-- Joins whose descriptions leave no literal open. -/
def ChainClosed (v : Value) : Prop := ∀ vs, v.iterate = .ok vs → ∀ d ∈ vs, DescriptionClosed d

theorem PartsClosed.segment {j : Join} (h : j.PartsClosed) : Closed j.segment := by
  have blank : Closed " " := by decide
  have word : Closed " ON " := by decide
  have point : Closed "." := by decide
  cases j with
  | explicit table condition kind =>
      have ht : Closed table.display := h table (by simp [parts])
      have hc : Closed condition.display := h condition (by simp [parts])
      have hk : Closed kind.display := h kind (by simp [parts])
      exact ((((blank.append hk).append blank).append ht).append word).append hc
  | equi a b c d o k =>
      have ha : Closed a.display := h a (by simp [parts])
      have hb : Closed b.display := h b (by simp [parts])
      have hc : Closed c.display := h c (by simp [parts])
      have hd : Closed d.display := h d (by simp [parts])
      have ho : Closed o.display := h o (by simp [parts])
      have hk : Closed k.display := h k (by simp [parts])
      have left := ((((blank.append hk).append blank).append hc).append word).append ha
      have right := ((((left.append point).append hb).append blank).append ho).append blank
      exact ((right.append hc).append point).append hd

/-- A mapping that leaves no literal open describes a join that does not either. -/
theorem partsClosed_of_ofEntries {es : List (Value × Value)} {c : Context} {j : Join}
    (hes : ∀ e ∈ es, e.1.ShowsClosed ∧ e.2.ShowsClosed)
    (h : (ofEntries es).outcome c = .ok j) : j.PartsClosed := by
  have hv : ∀ key, (valueAt key es).ShowsClosed :=
    fun key => showsClosed_valueAt key fun e he => (hes e he).2
  have hk : ((valueAt "type" es).orElse (.text "JOIN")).ShowsClosed :=
    (hv "type").orElse (by decide)
  have ho : ((valueAt "operator" es).orElse (.text "=")).ShowsClosed :=
    (hv "operator").orElse (by decide)
  have hp : ∀ e ∈ pairs es, e.1.ShowsClosed ∧ e.2.ShowsClosed :=
    fun e he => hes e (List.mem_filter.mp he).1
  unfold ofEntries at h
  dsimp only at h
  split at h
  case h_1 p ps _ hps =>
    rw [hps] at hp
    have ht := (hv "table").orElse (hp p List.mem_cons_self).1
    rw [← Except.ok.inj h]
    simp only [PartsClosed, parts, List.forall_mem_cons]
    exact ⟨ht, hv "on", hk, fun _ hm => absurd hm List.not_mem_nil⟩
  case h_2 left right hps _ =>
    rw [hps] at hp
    obtain ⟨hl, hr, -⟩ := List.forall_mem_cons.mp hp |>.imp id List.forall_mem_cons.mp
    rw [← Except.ok.inj h]
    simp only [PartsClosed, parts, List.forall_mem_cons]
    exact ⟨hl.1, hl.2, hr.1, hr.2, ho, hk, fun _ hm => absurd hm List.not_mem_nil⟩
  case h_3 =>
    rw [Build.outcome_bind, Build.outcome_refuse] at h
    exact nomatch h

theorem partsClosed_of_ofValue {v : Value} {c : Context} {j : Join} (hv : DescriptionClosed v)
    (h : (ofValue v).outcome c = .ok j) : j.PartsClosed := by
  cases v with
  | join j' =>
      rw [ofValue, Build.outcome_bind] at h
      obtain ⟨-, -, h⟩ := bind_eq_ok_iff.mp h
      rw [← Except.ok.inj h]
      exact hv
  | mapping es =>
      rw [ofValue, Build.outcome_bind] at h
      obtain ⟨j', hj, h⟩ := bind_eq_ok_iff.mp h
      rw [Build.outcome_bind] at h
      obtain ⟨-, -, h⟩ := bind_eq_ok_iff.mp h
      rw [← Except.ok.inj h]
      exact partsClosed_of_ofEntries hv hj
  | _ => exact nomatch h

/-- Joins leave no literal open where their descriptions do not. -/
theorem closed_of_chain {v : Value} {c : Context} {t : String} (hv : ChainClosed v)
    (h : (chain v).outcome c = .ok t) : Closed t := by
  rcases of_chain h with ⟨-, rfl⟩ | ⟨ds, js, hds, hjs, rfl⟩
  · decide
  · refine Closed.intercalate (by decide) fun t ht => ?_
    obtain ⟨j, hj, rfl⟩ := List.mem_map.mp ht
    obtain ⟨d, hd, hdj⟩ := exists_mem_left_of_forall₂ hjs j hj
    exact (partsClosed_of_ofValue (hv ds hds d hd) hdj).segment

end Join

namespace OrderBy

/-! ## Orderings -/

/-- A key of an ordering whose parts leave no literal open. -/
def KeyClosed : Value → Prop
  | .sortKey ⟨column, direction, table⟩ =>
    column.ShowsClosed ∧ direction.ShowsClosed ∧ table.ShowsClosed
  | _ => True

/-- An ordering that was described before and leaves no literal open. -/
def PartsClosed : OrderBy → Prop
  | raw content => content.ShowsClosed
  | keys ks     => ∀ vs, ks.iterate = .ok vs → ∀ k ∈ vs, KeyClosed k

/-- A description of an ordering whose text, or whose columns and aliases, leave no literal
open. -/
def DescriptionClosed : Value → Prop
  | .orderBy o  => o.PartsClosed
  | .text s     => Closed s
  | .mapping es => ∀ e ∈ es, e.1.ShowsClosed ∧ ∀ f ∈ e.2.entries?.getD [], f.1.ShowsClosed
  | _           => True

theorem closed_of_keyText {k : Value} {t : String} (hk : KeyClosed k)
    (h : keyText k = .ok t) : Closed t := by
  cases k with
  | sortKey k =>
      obtain ⟨column, direction, table⟩ := k
      obtain ⟨hc, hd, ht⟩ := hk
      rw [← Except.ok.inj h]
      have halias : Closed (if table.isGiven then table.display ++ "." else "") := by
        by_cases hg : table.isGiven
        · rw [if_pos hg]; exact Closed.append ht (by decide)
        · rw [if_neg hg]; decide
      exact ((halias.append hc).append (by decide : Closed " ")).append hd
  | _ => exact nomatch h

theorem closed_of_segment {o : OrderBy} {t : String} (ho : o.PartsClosed)
    (h : o.segment = .ok t) : Closed t := by
  cases o with
  | raw content =>
      rw [← Except.ok.inj h]
      exact (by decide : Closed " ORDER BY ").append ho
  | keys ks =>
      obtain ⟨vs, hvs, h⟩ := bind_eq_ok_iff.mp h
      obtain ⟨ts, hts, h⟩ := bind_eq_ok_iff.mp h
      rw [← Except.ok.inj h]
      by_cases he : ts.isEmpty
      · rw [if_pos he]; decide
      · rw [if_neg he]
        refine (by decide : Closed " ORDER BY ").append (Closed.intercalate (by decide) ?_)
        intro t ht
        obtain ⟨k, hk, hkt⟩ := exists_mem_left_of_forall₂ ((mapM_eq_ok_iff vs ts).mp hts) t ht
        exact closed_of_keyText (ho vs hvs k hk) hkt

theorem keyClosed_keyOf {table column : Value} (ht : table.ShowsClosed)
    (hc : column.ShowsClosed) (code : Value) : KeyClosed (.sortKey (keyOf table column code)) := by
  refine ⟨hc, ?_, ht⟩
  show Closed (directionFor code)
  unfold directionFor
  split
  · split <;> decide
  · split <;> decide
  · decide

/-- The keys that a closed entry describes are closed. -/
theorem keyClosed_of_keysOf {name direction : Value} {c : Context} {ks : List SortKey}
    (hn : name.ShowsClosed) (hd : ∀ f ∈ direction.entries?.getD [], f.1.ShowsClosed)
    (h : (keysOf name direction).outcome c = .ok ks) : ∀ k ∈ ks, KeyClosed (.sortKey k) := by
  unfold keysOf at h
  split at h
  · rw [← Except.ok.inj h]
    intro k hk
    rw [List.mem_singleton.mp hk]
    exact keyClosed_keyOf (by decide) hn direction
  split at h
  · rw [← Except.ok.inj h]
    intro k hk
    obtain ⟨f, hf, rfl⟩ := List.mem_map.mp hk
    exact keyClosed_keyOf hn (hd f hf) f.2
  · rw [Build.outcome_bind, Build.outcome_note] at h
    rw [← Except.ok.inj h]
    intro k hk
    exact absurd hk List.not_mem_nil

/-- A closed description describes an ordering that leaves no literal open. -/
theorem partsClosed_of_ofValue? {v : Value} {c : Context} {o : OrderBy}
    (hv : DescriptionClosed v) (h : (ofValue? v).outcome c = .ok (some o)) :
    o.PartsClosed := by
  unfold ofValue? at h
  split at h
  · rw [← Option.some.inj (Except.ok.inj h)]; exact hv
  · exact nomatch h
  · split at h
    · exact nomatch h
    · rw [← Option.some.inj (Except.ok.inj h)]; exact hv
  · split at h
    · exact nomatch h
    · rename_i es _
      rw [Build.outcome_bind, Build.outcome_mapM] at h
      obtain ⟨kss, hkss, h⟩ := bind_eq_ok_iff.mp h
      rw [← Option.some.inj (Except.ok.inj h)]
      intro vs hvs k hk
      rw [← Except.ok.inj hvs] at hk
      obtain ⟨key, hkey, rfl⟩ := List.mem_map.mp hk
      obtain ⟨ks, hks, hmem⟩ := List.mem_flatten.mp hkey
      obtain ⟨e, he, hek⟩ := exists_mem_left_of_forall₂ ((mapM_eq_ok_iff es kss).mp hkss) ks hks
      exact keyClosed_of_keysOf (hv e he).1 (hv e he).2 hek key hmem
  · split at h
    · exact nomatch h
    · exact nomatch h

/-- An ordering leaves no literal open where its description does not. -/
theorem closed_of_text {v : Value} {c : Context} {t : String} (hv : DescriptionClosed v)
    (h : (text v).outcome c = .ok t) : Closed t := by
  rw [text, Build.outcome_bind] at h
  obtain ⟨o?, ho, h⟩ := bind_eq_ok_iff.mp h
  cases o? with
  | none => rw [← Except.ok.inj h]; decide
  | some o => exact closed_of_segment (partsClosed_of_ofValue? hv ho) h

end OrderBy

end SqlText
