import SqlText.Proofs.AlikeCases
import SqlText.Proofs.Recording
import SqlText.Statement.Insert
import SqlText.Statement.Update

/-!
# Data independence — texts among the data bear on nothing outside their literals

    INSERT INTO t (a) VALUES ("x")    INSERT INTO t (a) VALUES ("\"), (\"")

Two calls are alike when they differ at most in the contents of texts among their data and
nothing else that they write leaves a literal open. Alike calls go side by side through every
step that writes a statement: they refuse together, and what they write has the same skeleton
throughout.

* **`Insert.compose_coupled`**: alike INSERTs.
* **`Update.compose_coupled`**: alike UPDATEs.
* **`contents_independence`**: where the greatest length in the settings is a whole number, of
  two alike calls each gives a statement exactly where the other does, and the statements are equal
  once the contents of their literals are dropped.
-/

namespace SqlText

open Coupling (unobserved)

/-- The texts of a list, put together, leave no literal open where none of them does. -/
theorem closed_of_joinTexts {sep t : String} {vs : List Value} (hsep : Closed sep)
    (hvs : ∀ v ∈ vs, v.ShowsClosed) (h : joinTexts sep vs = .ok t) : Closed t := by
  obtain ⟨ts, hts, rfl⟩ := map_eq_ok_iff.mp h
  refine hsep.intercalate ?_
  suffices hall : ∀ (vs : List Value) (index : Nat) (ts : List String),
      (∀ v ∈ vs, v.ShowsClosed) → textsFrom index vs = .ok ts → ∀ t ∈ ts, Closed t from
    hall vs 0 ts hvs hts
  intro vs
  induction vs with
  | nil =>
      intro index ts _ hts t ht
      rw [← Except.ok.inj hts] at ht
      exact absurd ht List.not_mem_nil
  | cons v vs ih =>
      intro index ts hvs hts
      obtain ⟨hv, hvs'⟩ := List.forall_mem_cons.mp hvs
      cases v with
      | text s =>
          obtain ⟨us, hus, rfl⟩ := map_eq_ok_iff.mp hts
          exact List.forall_mem_cons.mpr ⟨hv, ih (index + 1) us hvs' hus⟩
      | _ => exact nomatch hts

namespace Insert

/-! ## INSERT -/

/-- Two rows with the same columns, none of which leaves a literal open, and with values that
differ at most in the contents of texts. -/
def AlikeRows : List (Value × Value) → List (Value × Value) → Prop :=
  SameEntries fun k v w => k.ShowsClosed ∧ SameButText v w

/-- Two items of a list of rows: alike rows, or values neither of which is a row. -/
inductive AlikeItems : Value → Value → Prop where
  | rows {es es' : List (Value × Value)} (h : AlikeRows es es') :
      AlikeItems (.mapping es) (.mapping es')
  | other {v w : Value} (hv : v.entries? = none) (hw : w.entries? = none) : AlikeItems v w

/-- Two values that hold alike rows, or neither of which holds rows. -/
inductive AlikeData : Value → Value → Prop where
  | row {es es' : List (Value × Value)} (h : AlikeRows es es') :
      AlikeData (.mapping es) (.mapping es')
  | list {vs ws : List Value} (h : List.Forall₂ AlikeItems vs ws) :
      AlikeData (.list vs) (.list ws)
  | tuple {vs ws : List Value} (h : List.Forall₂ AlikeItems vs ws) :
      AlikeData (.tuple vs) (.tuple ws)
  | other {v w : Value} (hv : v.isCollection = false) (hw : w.isCollection = false) :
      AlikeData v w

/-- Two INSERTs that differ at most in the contents of texts among their values. All else is
the same in both and leaves no literal open. -/
structure Alike (s s' : Insert) : Prop where
  same : s' = { s with rows := s'.rows }
  rows : AlikeData s.rows s'.rows
  table : s.table.ShowsClosed
  dateFields : s.dateFields.ItemsShowClosed
  updateFields : s.updateFields.ItemsShowClosed

theorem rowsFrom_coupled :
    ∀ {vs ws : List Value}, List.Forall₂ AlikeItems vs ws → ∀ index : Nat,
      unobserved.Outcomes (List.Forall₂ AlikeRows) (rowsFrom index vs) (rowsFrom index ws) := by
  intro vs ws h
  induction h with
  | nil => intro index; exact .ok .nil
  | cons hvw _ ih =>
      intro index
      cases hvw with
      | rows hrow => exact (ih (index + 1)).map fun _ _ hrows => .cons hrow hrows
      | @other v w hv hw =>
          -- neither value is a row, so both lists are refused here
          have hrefused : ∀ {v : Value} {vs : List Value}, v.entries? = none →
              ∃ e, rowsFrom index (v :: vs) = .error e := by
            intro v vs hv
            cases v with
            | mapping es => exact nomatch hv
            | _ => exact ⟨_, rfl⟩
          obtain ⟨e, he⟩ := hrefused hv
          obtain ⟨e', he'⟩ := hrefused hw
          rw [he, he']
          exact .error trivial

/-- What holds no rows is refused, whether it counts as given or not. -/
theorem givenRows_of_not_isCollection {s : Insert} (c : Context)
    (h : s.rows.isCollection = false) : ∃ e, s.givenRows.outcome c = .error e := by
  rw [givenRows]
  by_cases hg : s.rows.isGiven
  · rw [if_neg (by rw [hg]; decide)]
    cases hv : s.rows with
    | list vs => rw [hv] at h; exact nomatch h
    | tuple vs => rw [hv] at h; exact nomatch h
    | mapping es => rw [hv] at h; exact nomatch h
    | _ => exact ⟨_, rfl⟩
  · rw [if_pos (by rw [Bool.not_eq_true _ |>.mp hg]; decide)]
    exact ⟨_, rfl⟩

/-- Rows that were read, the first of which has to be there and must not be empty. -/
def firstRow (rows : List (List (Value × Value))) :
    Build (List (Value × Value) × List (List (Value × Value))) :=
  match rows with
  | (e :: es) :: rest => pure (e :: es, rest)
  | _                 => refuseEmpty

theorem firstRow_coupled (c : Context) {rs rs' : List (List (Value × Value))}
    (h : List.Forall₂ AlikeRows rs rs') :
    unobserved.Runs (fun p p' => AlikeRows p.1 p'.1 ∧ List.Forall₂ AlikeRows p.2 p'.2)
      ((firstRow rs).run c) ((firstRow rs').run c) := by
  cases h with
  | nil => exact ⟨.error trivial, trivial⟩
  | cons hrow hrows =>
      cases hrow with
      | nil => exact ⟨.error trivial, trivial⟩
      | cons he hes => exact .pure ⟨.cons he hes, hrows⟩ c c

/-- A collection need not be asked first whether it counts as given. -/
theorem givenRows_of_isCollection {s : Insert} (h : s.rows.isCollection = true) :
    s.givenRows = liftM (rowsOfValue s.rows) >>= firstRow := by
  rw [givenRows]
  by_cases hg : s.rows.isGiven
  · rw [if_neg (by rw [hg]; decide)]
    rfl
  · rw [if_pos (by rw [Bool.eq_false_iff.mpr hg]; decide)]
    cases hv : s.rows with
    | list vs =>
        rw [hv] at hg
        cases vs with
        | nil => rfl
        | cons v vs => exact absurd rfl hg
    | tuple vs =>
        rw [hv] at hg
        cases vs with
        | nil => rfl
        | cons v vs => exact absurd rfl hg
    | mapping es =>
        rw [hv] at hg
        cases es with
        | nil => rfl
        | cons e es => exact absurd rfl hg
    | _ => rw [hv] at h; exact nomatch h

/-- Alike data give alike rows, or none at all. -/
theorem givenRows_coupled {s s' : Insert} (h : AlikeData s.rows s'.rows) (c : Context) :
    unobserved.Runs (fun p p' => AlikeRows p.1 p'.1 ∧ List.Forall₂ AlikeRows p.2 p'.2)
      (s.givenRows.run c) (s'.givenRows.run c) := by
  have hcollections (hv : s.rows.isCollection = true) (hw : s'.rows.isCollection = true)
      (hrows : unobserved.Outcomes (List.Forall₂ AlikeRows) (rowsOfValue s.rows)
        (rowsOfValue s'.rows)) :
      unobserved.Runs (fun p p' => AlikeRows p.1 p'.1 ∧ List.Forall₂ AlikeRows p.2 p'.2)
        (s.givenRows.run c) (s'.givenRows.run c) := by
    rw [givenRows_of_isCollection hv, givenRows_of_isCollection hw]
    exact (Coupling.Runs.liftM hrows c c).bind fun rs rs' h => firstRow_coupled c h
  generalize hv : s.rows = v at h hcollections
  generalize hw : s'.rows = w at h hcollections
  cases h with
  | row h => exact hcollections rfl rfl (.ok (.cons h .nil))
  | list h => exact hcollections rfl rfl (rowsFrom_coupled h 0)
  | tuple h => exact hcollections rfl rfl (rowsFrom_coupled h 0)
  | other hv' hw' =>
      obtain ⟨e, he⟩ := givenRows_of_not_isCollection c (by rw [hv]; exact hv')
      obtain ⟨e', he'⟩ := givenRows_of_not_isCollection c (by rw [hw]; exact hw')
      refine Coupling.unobserved_of_outcomes ?_
      rw [show (s.givenRows.run c).outcome = .error e from he,
        show (s'.givenRows.run c).outcome = .error e' from he']
      exact .error trivial

/-- What is reported about rows depends on their keys alone. -/
theorem reportRows_eq (columns : List Value) :
    ∀ {rs rs' : List (List (Value × Value))}, List.Forall₂ AlikeRows rs rs' →
      ∀ index : Nat, reportRows columns index rs' = reportRows columns index rs := by
  intro rs rs' h
  induction h with
  | nil => intro index; rfl
  | cons hrow _ ih =>
      intro index
      have hkeys : keys _ = keys _ := SameEntries.keys_eq hrow
      rw [reportRows, reportRows, reportRow, reportRow, hkeys, ih (index + 1)]

/-- The columns of alike rows leave no literal open. -/
theorem showsClosed_of_mem_keys :
    ∀ {es es' : List (Value × Value)}, AlikeRows es es' → ∀ k ∈ keys es, k.ShowsClosed := by
  intro es es' h
  induction h with
  | nil => intro k hk; exact absurd hk List.not_mem_nil
  | cons he _ ih =>
      intro k hk
      rcases List.mem_cons.mp hk with rfl | hk
      · exact he.2.1
      · exact ih k hk

/-- The values of alike rows differ at most in the contents of texts. -/
theorem rowValues_alike (columns : List Value) (dates : Nat) {es es' : List (Value × Value)}
    (h : AlikeRows es es') :
    List.Forall₂ SameButText (rowValues columns dates es) (rowValues columns dates es') := by
  refine List.rel_append ?_ ?_
  · rw [List.forall₂_map_left_iff, List.forall₂_map_right_iff]
    refine List.forall₂_same.mpr fun column _ => ?_
    rcases SameEntries.lookup column h with ⟨hl, hl'⟩ | ⟨k, hk⟩
    · rw [hl, hl']
      exact .refl rfl
    · exact hk.2
  · refine List.forall₂_same.mpr fun v hv => ?_
    rw [List.eq_of_mem_replicate hv]
    refine .same fun t ht => ?_
    rcases ht with ht | ht
    · exact nomatch ht
    · rw [← Value.keyword.inj ht]
      decide

/-- Alike rows are written with the same skeleton. -/
theorem rowText_coupled (columns : List Value) (dates : Nat) {es es' : List (Value × Value)}
    (h : AlikeRows es es') :
    unobserved.Outcomes SameSkeleton (rowText columns dates es) (rowText columns dates es') := by
  have hvalues := rowValues_alike columns dates h
  refine Coupling.Outcomes.bind (R := SameSkeleton) ?_ fun t u htu => .ok ?_
  · refine Coupling.Outcomes.bind (.mapM (fun _ _ h => literal_coupled false h) hvalues) ?_
    exact fun ts us hts => .ok (.intercalate (by decide) hts)
  · exact (htu.append_left (by decide)).append_right (by decide)

theorem closed_ignoreText (s : Insert) : Closed s.ignoreText := by
  rw [ignoreText]
  split <;> decide

/-- Fields to update leave no literal open where their names do not. -/
theorem closed_of_refreshSegment {s : Insert} {t : String} (h : s.updateFields.ItemsShowClosed)
    (ht : s.refreshSegment = .ok t) : Closed t := by
  rw [refreshSegment] at ht
  split at ht
  · rw [← Except.ok.inj ht]; decide
  · obtain ⟨vs, hvs, ht⟩ := bind_eq_ok_iff.mp ht
    rw [← Except.ok.inj ht]
    refine (by decide : Closed " ON DUPLICATE KEY UPDATE ").append ?_
    refine Closed.intercalate (by decide) fun u hu => ?_
    obtain ⟨v, hv, rfl⟩ := List.mem_map.mp hu
    have hv' : Closed v.display := h vs hvs v hv
    have hvalues := hv'.append (by decide : Closed " = VALUES(")
    exact (hvalues.append hv').append (by decide)

/-- The items of an input that may be left out show closed where those of the input do. -/
theorem showsClosed_of_optionalItems {v : Value} {vs : List Value} (h : v.ItemsShowClosed)
    (hvs : optionalItems v = .ok vs) : ∀ x ∈ vs, x.ShowsClosed := by
  rw [optionalItems] at hvs
  split at hvs
  · exact h vs hvs
  · rw [← Except.ok.inj hvs]
    exact fun x hx => absurd hx List.not_mem_nil

/-- Alike INSERTs have the same skeleton, or both are refused. -/
theorem compose_coupled {s s' : Insert} (h : s.Alike s') (c : Context) :
    unobserved.Runs SameSkeleton (s.compose.run c) (s'.compose.run c) := by
  have hdates : s'.dateFields = s.dateFields := by rw [h.same]
  have htable : s'.table = s.table := by rw [h.same]
  have hignore : s'.ignoreText = s.ignoreText := by rw [h.same]; rfl
  have hrefresh : s'.refreshSegment = s.refreshSegment := by rw [h.same]; rfl
  rw [compose, compose]
  refine (givenRows_coupled h.rows c).bind ?_
  rintro ⟨first, rest⟩ ⟨first', rest'⟩ ⟨hfirst, hrest⟩
  have hkeys : keys first' = keys first := SameEntries.keys_eq hfirst
  dsimp only at hfirst hrest ⊢
  rw [hdates, htable, hignore, hrefresh, hkeys, reportRows_eq (keys first) hrest 1]
  refine Coupling.Runs.bind_same fun dates hds => ?_
  refine Coupling.Runs.bind_same fun _ _ => ?_
  refine Coupling.Runs.bind_same fun columnList hlist => ?_
  have hrows : List.Forall₂ AlikeRows (first :: rest) (first' :: rest') := .cons hfirst hrest
  have hvalues := Coupling.Outcomes.mapM
    (fun _ _ h => rowText_coupled (keys first) dates.length h) hrows
  refine (Coupling.Runs.lift hvalues c c).bind fun ts us hts => ?_
  refine Coupling.Runs.bind_same fun refresh hr => ?_
  have hcolumns : Closed columnList := by
    refine closed_of_joinTexts (by decide) ?_ hlist
    intro v hv
    rcases List.mem_append.mp hv with hv | hv
    · exact showsClosed_of_mem_keys hfirst v hv
    · exact showsClosed_of_optionalItems h.dateFields hds v hv
  have hhead := (((by decide : Closed "INSERT ").append (closed_ignoreText s)).append
    (by decide : Closed "INTO ")).append h.table
  have hbefore := ((hhead.append (by decide : Closed " (")).append hcolumns).append
    (by decide : Closed ") VALUES ")
  have htuples := SameSkeleton.intercalate (by decide : Closed ", ") hts
  have hafter := closed_of_refreshSegment h.updateFields hr
  exact .pure ((htuples.append_left hbefore).append_right hafter) c c

end Insert

namespace Update

/-! ## UPDATE -/

/-- Two mappings with the same columns, none of which leaves a literal open, and with alike
values; or one value that is no mapping. -/
inductive AlikeData : Value → Value → Prop where
  | mapping {es es' : List (Value × Value)}
      (h : SameEntries (fun k v w => k.ShowsClosed ∧ CaseExpr.AlikeAssigned v w) es es') :
      AlikeData (.mapping es) (.mapping es')
  | other {v : Value} (h : v.entries? = none) : AlikeData v v

/-- A value whose keys and values leave no literal open where they are displayed. -/
def EntriesShowClosed (v : Value) : Prop :=
  ∀ es, v.items = .ok es → ∀ e ∈ es, e.1.ShowsClosed ∧ e.2.ShowsClosed

/-- Two UPDATEs that differ at most in the contents of texts among the values that they
assign. All else is the same in both and leaves no literal open. -/
structure Alike (s s' : Update) : Prop where
  same : s' = { s with values := s'.values }
  values : AlikeData s.values s'.values
  table : s.table.ShowsClosed
  condition : s.condition.ShowsClosed
  joins : Join.ChainClosed s.joins
  nulls : s.nulls.ItemsShowClosed
  defaults : s.defaults.ItemsShowClosed
  limit : s.limit.ShowsClosed
  ordering : OrderBy.DescriptionClosed s.ordering
  subQueries : EntriesShowClosed s.subQueries
  calculations : EntriesShowClosed s.calculations

/-- Alike data are assigned in texts with the same skeleton, or not at all. -/
theorem valueText_coupled {v w : Value} (h : AlikeData v w) :
    unobserved.Outcomes SameSkeleton (groupText v valueItems) (groupText w valueItems) := by
  cases h with
  | @mapping es es' h =>
      have hgiven : (Value.mapping es').isGiven = (Value.mapping es).isGiven :=
        congrArg (!·) h.isEmpty_eq
      have hitems : unobserved.Outcomes (List.Forall₂ SameSkeleton)
          (valueItems (.mapping es)) (valueItems (.mapping es')) := by
        refine Coupling.Outcomes.mapM (fun e e' he => ?_) h
        obtain ⟨hkey, hk, hv⟩ := he
        rw [hkey]
        exact CaseExpr.assignment_coupled hk hv
      rw [groupText, groupText, hgiven]
      by_cases hg : (Value.mapping es).isGiven
      · rw [if_pos hg, if_pos hg]
        exact hitems.bind fun _ _ h => .ok (.intercalate (by decide) h)
      · rw [if_neg hg, if_neg hg]
        exact .ok (.refl (by decide))
  | other h =>
      rw [groupText]
      by_cases hg : v.isGiven
      · rw [if_pos hg]
        cases v with
        | mapping es => exact nomatch h
        | _ => exact .error trivial
      · rw [if_neg hg]
        exact .ok (.refl (by decide))

/-- The text without an open literal of a group that both calls have in common. -/
theorem groupText_coupled {v : Value} {items : Value → Except Fault (List String)}
    (h : ∀ ts, items v = .ok ts → ∀ t ∈ ts, Closed t) :
    unobserved.Outcomes SameSkeleton (groupText v items) (groupText v items) := by
  refine .refl fun t ht => .refl ?_
  rw [groupText] at ht
  split at ht
  · obtain ⟨ts, hts, ht⟩ := bind_eq_ok_iff.mp ht
    rw [← Except.ok.inj ht]
    exact .intercalate (by decide) (h ts hts)
  · rw [← Except.ok.inj ht]
    decide

theorem closed_of_expressionItems {v : Value} (h : EntriesShowClosed v) :
    ∀ ts, expressionItems v = .ok ts → ∀ t ∈ ts, Closed t := by
  intro ts hts t ht
  obtain ⟨es, hes, hts⟩ := bind_eq_ok_iff.mp hts
  rw [← Except.ok.inj hts] at ht
  obtain ⟨e, he, rfl⟩ := List.mem_map.mp ht
  obtain ⟨hk, hv⟩ := h es hes e he
  exact (Closed.append hk (by decide : Closed " = ")).append hv

theorem closed_of_keywordItems {keyword : String} (hkeyword : Closed keyword) {v : Value}
    (h : v.ItemsShowClosed) :
    ∀ ts, keywordItems keyword v = .ok ts → ∀ t ∈ ts, Closed t := by
  intro ts hts t ht
  obtain ⟨vs, hvs, hts⟩ := bind_eq_ok_iff.mp hts
  rw [← Except.ok.inj hts] at ht
  obtain ⟨v, hv, rfl⟩ := List.mem_map.mp ht
  exact (Closed.append (h vs hvs v hv) (by decide : Closed " = ")).append hkeyword

/-- Alike UPDATEs have assignments with the same skeleton, or are both refused. -/
theorem assignments_coupled {s s' : Update} (h : s.Alike s') :
    unobserved.Outcomes SameSkeleton s.assignments s'.assignments := by
  have hvalues := valueText_coupled h.values
  rw [h.same]
  generalize s'.values = w at hvalues
  refine hvalues.bind fun _ _ h₁ => ?_
  refine (groupText_coupled (closed_of_expressionItems h.calculations)).bind fun _ _ h₂ => ?_
  refine (groupText_coupled (closed_of_expressionItems h.subQueries)).bind fun _ _ h₃ => ?_
  refine (groupText_coupled (closed_of_keywordItems (by decide) h.nulls)).bind fun _ _ h₄ => ?_
  refine (groupText_coupled (closed_of_keywordItems (by decide) h.defaults)).bind
    fun _ _ h₅ => .ok ?_
  have hgroups := List.Forall₂.cons h₁ (.cons h₂ (.cons h₃ (.cons h₄ (.cons h₅ .nil))))
  exact .intercalate (by decide) (SameSkeleton.filled hgroups)

/-- The statement with assignments that were written before. -/
def written (s : Update) (assignments : String) : Build String := do
  let joins ← Join.chain s.joins
  let ordering ← Build.whenGiven s.ordering OrderBy.text
  return "UPDATE" ++ joins ++ " " ++ s.table.display ++ " SET " ++ assignments ++
    " WHERE " ++ s.condition.display ++ ordering ++ Paging.limitSegment s.limit

/-- Assignments with the same skeleton make statements with the same skeleton. -/
theorem written_coupled {s s' : Update} (h : s.Alike s') {t u : String}
    (htu : SameSkeleton t u) (c : Context) :
    unobserved.Runs SameSkeleton ((s.written t).run c) ((s'.written u).run c) := by
  have hsame : s'.written u = s.written u := by rw [h.same]; rfl
  rw [hsame]
  refine Coupling.Runs.bind_same fun joins hjoins => ?_
  refine Coupling.Runs.bind_same fun ordering ho => ?_
  have hordering : Closed ordering := by
    rw [Build.whenGiven] at ho
    split at ho
    · exact OrderBy.closed_of_text h.ordering ho
    · rw [← Except.ok.inj ho]; decide
  have hchain := Join.closed_of_chain h.joins hjoins
  have htarget := (((by decide : Closed "UPDATE").append hchain).append
    (by decide : Closed " ")).append h.table
  have hassigned := htu.append_left (htarget.append (by decide : Closed " SET "))
  have hcondition := (hassigned.append_right (by decide : Closed " WHERE ")).append_right
    h.condition
  have hlimit := Paging.closed_limitSegment h.limit
  exact .pure ((hcondition.append_right hordering).append_right hlimit) c c

/-- Alike UPDATEs have the same skeleton, or both are refused. -/
theorem compose_coupled {s s' : Update} (h : s.Alike s') (c : Context) :
    unobserved.Runs SameSkeleton (s.compose.run c) (s'.compose.run c) := by
  have htable : s'.table = s.table := by rw [h.same]
  have hcondition : s'.condition = s.condition := by rw [h.same]
  rw [compose, compose, htable, hcondition]
  refine Coupling.Runs.bind_same fun _ _ => ?_
  refine Coupling.Runs.bind_same fun _ _ => ?_
  refine (Coupling.Runs.liftM (assignments_coupled h) c c).bind fun t u htu => ?_
  have hwritten := written_coupled h htu c
  rw [written, written, htable, hcondition] at hwritten
  -- a statement without assignments is reported first, in both calls or in neither
  rw [htu.isEmpty_eq]
  split
  · exact Coupling.Runs.bind_same fun _ _ => hwritten
  · exact hwritten

end Update

/-! ## Both statements -/

/-- Outcomes each of which is a statement exactly where the other is, the two statements equal
but for the contents of their literals. -/
def SameOutsideLiterals (x y : Except Fault String) : Prop :=
  (∀ t, x = .ok t → ∃ u, y = .ok u ∧ eraseLiterals t = eraseLiterals u) ∧
    ∀ u, y = .ok u → ∃ t, x = .ok t ∧ eraseLiterals t = eraseLiterals u

/-- Statements with the same skeleton stay so when they are recorded. -/
theorem sameOutsideLiterals_of_coupled {c : Context} (hc : c.LengthIsWhole)
    {x y : Build String} (h : unobserved.Runs SameSkeleton (x.run c) (y.run c))
    (logger verb : String) :
    SameOutsideLiterals ((Statement.recorded logger verb x).outcome c)
      ((Statement.recorded logger verb y).outcome c) := by
  have hout : unobserved.Outcomes SameSkeleton ((Statement.recorded logger verb x).outcome c)
      ((Statement.recorded logger verb y).outcome c) := by
    have hshort := Statement.shortens_of_lengthIsWhole hc
    rw [Statement.outcome_recorded hshort, Statement.outcome_recorded hshort]
    refine h.outcome.bind fun t u htu => ?_
    cases Settings.ofValue "log_statements" c.active with
    | error e => exact .error trivial
    | ok st => exact .ok htu
  constructor
  · intro t ht
    rw [ht] at hout
    obtain ⟨u, hu, htu⟩ := hout.of_ok
    exact ⟨u, hu, htu.eraseLiterals_eq⟩
  · intro u hu
    rw [hu] at hout
    obtain ⟨t, ht, htu⟩ := hout.of_ok_right
    exact ⟨t, ht, htu.eraseLiterals_eq⟩

/-- Under settings whose greatest length is a whole number, the contents of texts among the data
of an INSERT or an UPDATE influence nothing outside their literals: of two alike calls each gives
a statement exactly where the other does, and the two are equal once the contents of their
literals are dropped. -/
theorem contents_independence {c : Context} (hc : c.LengthIsWhole) :
    (∀ s s' : Insert, s.Alike s' →
      SameOutsideLiterals (s.text.outcome c) (s'.text.outcome c)) ∧
    ∀ s s' : Update, s.Alike s' →
      SameOutsideLiterals (s.text.outcome c) (s'.text.outcome c) :=
  ⟨fun _ _ h => sameOutsideLiterals_of_coupled hc (Insert.compose_coupled h c) _ _,
    fun _ _ h => sameOutsideLiterals_of_coupled hc (Update.compose_coupled h c) _ _⟩

/-- Notes of two persons, one of them with any text. -/
def notes (note : String) : Insert where
  table := .text "notes"
  rows := .list [
    .mapping [(.text "id", .int 1), (.text "note", .text note)],
    .mapping [(.text "id", .int 2), (.text "note", .text "n")]]

/-- A branch with any text as its result. -/
def bestGrade (best : String) : Value :=
  .mapping [(.text "when", .text "points > 9"), (.text "then", .text best)]

/-- Grades by a CASE expression, the texts among them any texts. -/
def gradeCase (best rest : String) : Value :=
  .mapping [(.text "case", .list [bestGrade best]), (.text "default", .text rest)]

/-- New names and grades, the texts among them any texts. -/
def grades (name best rest : String) : Update where
  table := .text "users"
  condition := .text "id > 0"
  values := .mapping [(.text "name", .text name), (.text "grade", gradeCase best rest)]

theorem alike_notes (s t : String) : (notes s).Alike (notes t) where
  same := rfl
  rows := .list (.cons (.rows (.cons ⟨rfl, .text (by decide), .refl rfl⟩
      (.cons ⟨rfl, .text (by decide), .texts s t⟩ .nil)))
    (.cons (.rows (.cons ⟨rfl, .text (by decide), .refl rfl⟩
      (.cons ⟨rfl, .text (by decide), .texts _ _⟩ .nil))) .nil))
  table := .text (by decide)
  dateFields := fun _ h => nomatch h
  updateFields := fun _ h => nomatch h

theorem alike_bestGrade (s t : String) : CaseExpr.AlikeBranch (bestGrade s) (bestGrade t) :=
  .mapping (.cons ⟨rfl, .condition (.text (by decide))⟩ (.cons ⟨rfl, .result (.texts s t)⟩ .nil))

theorem alike_gradeCase (s t s' t' : String) :
    CaseExpr.AlikeAssigned (gradeCase s s') (gradeCase t t') :=
  .mappings (.cons ⟨rfl, .branches (.list (.cons (alike_bestGrade s t) .nil))⟩
    (.cons ⟨rfl, .otherwise (.texts s' t')⟩ .nil))

theorem alike_grades (s t s' t' s'' t'' : String) :
    (grades s s' s'').Alike (grades t t' t'') where
  same := rfl
  values := .mapping (.cons ⟨rfl, .text (by decide), .literals (.texts s t) rfl rfl⟩
    (.cons ⟨rfl, .text (by decide), alike_gradeCase s' t' s'' t''⟩ .nil))
  table := .text (by decide)
  condition := .text (by decide)
  joins := fun _ h => nomatch h
  nulls := fun _ h => nomatch h
  defaults := fun _ h => nomatch h
  limit := (by decide : Value.null.ShowsClosed)
  ordering := trivial
  subQueries := fun _ h => nomatch h
  calculations := fun _ h => nomatch h

/-- Quotes, separators and backslashes at the end of a text, and blanks around it, change
nothing outside the literals. -/
theorem contents_independence_quoted :
    Context.LengthIsWhole {} ∧ (notes "").Alike (notes "\"), (3,\"\\") ∧
      (grades "a" "b" "c").Alike (grades " \\ " "\" END --" "\\\"") ∧
      SameOutsideLiterals ((notes "").text.outcome {})
        ((notes "\"), (3,\"\\").text.outcome {}) ∧
      SameOutsideLiterals ((grades "a" "b" "c").text.outcome {})
        ((grades " \\ " "\" END --" "\\\"").text.outcome {}) ∧
      (grades "a" "b" "c").text.outcome {} = .ok ("UPDATE users SET name = \"a\", " ++
        "grade = CASE WHEN points > 9 THEN \"b\" ELSE \"c\" END WHERE id > 0") := by
  have hc : Context.LengthIsWhole {} := lengthIsWhole_standard {}
  have hnotes := alike_notes "" "\"), (3,\"\\"
  have hgrades := alike_grades "a" " \\ " "b" "\" END --" "c" "\\\""
  refine ⟨hc, hnotes, hgrades, ?_, ?_, ?_⟩
  · exact (contents_independence hc).1 _ _ hnotes
  · exact (contents_independence hc).2 _ _ hgrades
  · exact eq_ok_of_toOption (by decide +kernel)

end SqlText
