import SqlText.Proofs.InputFaults
import SqlText.Proofs.SortEndings
import SqlText.Statement.Insert

/-!
# Faults of diagnostics — for what a look at an input may be refused

    FaultsIn j.Strays (j.report.outcome c)

Three reports compute on what a caller gave before they make their record: the words of a
join are put into upper case, the keys of a row are sorted, and a statement is cut at a
length from the settings. Each may be refused, for faults that no input is refused for when
it is read.

* **`Fault.FromDiagnostic`**: the faults in question.
* **`Join.Strays`**, **`Context.RecordFaults`**: what in a join and in the settings they come
  from.
* **`Join.faultsIn_report`**, **`Insert.faultsIn_reportRows`** and
  **`Statement.faultsIn_reportBuilt`**: the three reports.
* **`Join.read`**, **`Join.chainBy`**: joins whose words nobody looks at.
* **`Fault.FromInput.not_fromDiagnostic`**: they are not those of inputs.
-/

namespace SqlText

open Fault (Malformed OfJoin)

/-- The faults for which a report may be refused: a word that cannot be put into upper case,
keys that cannot be sorted, settings that cannot be read, and a length that is no limit or
cannot cut a text. -/
inductive Fault.FromDiagnostic : Fault → Prop where
  | word (type : String) : FromDiagnostic (.noAttribute type "upper")
  | order {e : Fault} (h : e.FromOrder) : FromDiagnostic e
  | settings (type : String) : FromDiagnostic (.noAttribute type "log_statements")
  | limit (type : String) : FromDiagnostic (.type (.notOrdered "<=" "int" type))
  | cut : FromDiagnostic (.type .notAnIndex)

open Fault (FromDiagnostic)

/-- What reading an input is refused for is no fault of a report. -/
theorem Fault.FromInput.not_fromDiagnostic {e : Fault} (h : e.FromInput) :
    ¬ e.FromDiagnostic := by
  intro hd
  cases hd with
  | word type => cases h with | noAttribute _ h => exact absurd h (by decide)
  | settings type => cases h with | noAttribute _ h => exact absurd h (by decide)
  | limit type => cases h with | hash h => exact nomatch h
  | cut => cases h with | hash h => exact nomatch h
  | order ho =>
      cases ho with
      | invalidOperation => exact nomatch h
      | _ => cases h with | hash h => exact nomatch h

variable {c : Context}

/-! ## Words of a join -/

/-- A value that is asked for its upper case and is neither a text nor a byte string. -/
inductive Value.LacksCase (v : Value) : Fault → Prop where
  | upper (htext : ∀ t, v ≠ .text t) (hbytes : ∀ bs, v ≠ .bytes bs) :
      LacksCase v (.noAttribute v.typeName "upper")

/-- A join whose kind or operator has no upper case. -/
inductive Join.Strays (j : Join) : Fault → Prop where
  | kind {e : Fault} (h : j.kind.LacksCase e) : Strays j e
  | operator {t c t' c' operator k : Value} {e : Fault} (hj : j = .equi t c t' c' operator k)
      (h : operator.LacksCase e) : Strays j e

theorem Join.Strays.fromDiagnostic {j : Join} {e : Fault} (h : j.Strays e) :
    e.FromDiagnostic := by
  cases h with
  | kind h => cases h with | upper _ _ => exact .word _
  | operator _ h => cases h with | upper _ _ => exact .word _

theorem Join.faultsIn_reportUnknown (what : String) (words : List String) (word : Value) :
    FaultsIn word.LacksCase ((reportUnknown what words word).outcome c) := by
  have hknown : FaultsIn word.LacksCase (isKnown words word) := by
    unfold isKnown
    split
    · trivial
    · trivial
    · rename_i htext hbytes
      exact .upper htext hbytes
  refine .outcome_bind hknown fun known => ?_
  cases known <;> trivial

theorem Join.faultsIn_report (j : Join) : FaultsIn j.Strays (j.report.outcome c) := by
  refine .outcome_bind ((faultsIn_reportUnknown _ _ _).mono fun _ => .kind) fun _ => ?_
  cases j with
  | explicit table condition kind => trivial
  | equi t c t' c' operator kind =>
      exact (faultsIn_reportUnknown _ _ _).mono fun _ => .operator rfl

namespace Join

/-- The join that a value describes, whatever its words are. -/
def read (v : Value) : Build Join :=
  match v with
  | .join j     => pure j
  | .mapping es => ofEntries es
  | v           => Build.refuse (.specification (.join v.typeName))

/-- A chain of joins, with a way to read one of them. -/
def chainBy (reader : Value → Build Join) (v : Value) : Build String := do
  if !v.isGiven then return ""
  else
    match v with
    | .mapping _ => Build.refuse (.specification (.joins v.typeName))
    | .text _    => Build.refuse (.specification (.joins v.typeName))
    | v          =>
      let js ← (← v.iterate).mapM reader
      return " ".intercalate (js.map segment)

theorem chain_eq (v : Value) : chain v = chainBy ofValue v := rfl

/-- A join is read, and then reported on. -/
theorem ofValue_eq (v : Value) :
    ofValue v = read v >>= fun j => j.report >>= fun _ => pure j := by
  cases v with
  | join j => rw [read, pure_bind]; rfl
  | mapping es => rfl
  | _ => rfl

theorem faultsIn_read (v : Value) : FaultsIn OfJoin ((read v).outcome c) := by
  unfold read
  split
  · trivial
  · exact faultsIn_ofEntries _
  · exact .malformed (.specification _)

/-- A chain of joins is refused for what is malformed or for what reading one of them is. -/
theorem faultsIn_chainBy {Q : Fault → Prop} {reader : Value → Build Join} {v : Value}
    (hQ : ∀ e, Malformed e → Q e)
    (hreader : ∀ ds, v.iterate = .ok ds → ∀ d ∈ ds, FaultsIn Q ((reader d).outcome c)) :
    FaultsIn Q ((chainBy reader v).outcome c) := by
  unfold chainBy
  split
  · trivial
  split
  · exact hQ _ (.specification _)
  · exact hQ _ (.specification _)
  · have hitems : FaultsIn Q v.iterate := v.faultsIn_iterate.mono hQ
    refine .outcome_bind_of (Ends.self hitems) fun ds hds => .outcome_bind ?_ fun js => trivial
    rw [Build.outcome_mapM]
    exact .mapM_of_mem (hreader ds hds)

/-- Joins that are chained, among them one whose words stray. -/
inductive ChainStrays (c : Context) (v : Value) : Fault → Prop where
  | item {ds : List Value} {d : Value} {j : Join} {e : Fault} (hds : v.iterate = .ok ds)
      (hd : d ∈ ds) (hj : (read d).outcome c = .ok j) (h : j.Strays e) : ChainStrays c v e

/-- A chain of joins is refused for reading one of them, or for the words of one. -/
theorem faultsIn_chain (v : Value) :
    FaultsIn (fun e => e.OfJoin ∨ ChainStrays c v e) ((chain v).outcome c) := by
  refine faultsIn_chainBy (fun _ h => .inl (.malformed h)) fun ds hds d hd => ?_
  rw [ofValue_eq]
  refine .outcome_bind_of (Ends.self ((faultsIn_read d).mono fun _ => .inl)) fun j hj => ?_
  refine .outcome_bind ((faultsIn_report j).mono fun _ he => .inr ?_) fun _ => trivial
  exact .item hds hd hj he

end Join

/-! ## Rows that differ -/

namespace Insert

variable {Q : Fault → Prop} {columns : List Value}

/-- A row is reported on without any fault but those of sorting its columns and the first
row's. -/
theorem faultsIn_reportRow {row : List (Value × Value)} (hcolumns : FaultsIn Q (sorted columns))
    (hrow : FaultsIn Q (sorted (keys row))) (index : Nat) :
    FaultsIn Q ((reportRow columns index row).outcome c) := by
  unfold reportRow
  split
  · exact .outcome_bind hrow fun own => .outcome_bind hcolumns fun first => trivial
  · trivial

theorem faultsIn_reportRows (hcolumns : FaultsIn Q (sorted columns)) :
    ∀ {rows : List (List (Value × Value))}, (∀ row ∈ rows, FaultsIn Q (sorted (keys row))) →
      ∀ index, FaultsIn Q ((reportRows columns index rows).outcome c) := by
  intro rows
  induction rows with
  | nil => intro _ index; trivial
  | cons row rows ih =>
      intro hrows index
      refine .outcome_bind (faultsIn_reportRow hcolumns (hrows row List.mem_cons_self) index)
        fun _ => ?_
      exact ih (fun row' hrow' => hrows row' (List.mem_cons_of_mem row hrow')) (index + 1)

/-- Rows are compared without any fault but those of an ordering. -/
theorem faultsIn_reportRows_order (columns : List Value) (rows : List (List (Value × Value)))
    (index : Nat) : FaultsIn Fault.FromOrder ((reportRows columns index rows).outcome c) :=
  faultsIn_reportRows (faultsIn_sorted columns) (fun row _ => faultsIn_sorted (keys row)) index

end Insert

/-! ## The record of a statement -/

/-- The faults of recording a statement: no settings are active, or their greatest length is
no limit, no number at all, or cannot cut a text. -/
inductive Context.RecordFaults (c : Context) : Fault → Prop where
  | settings (h : ∀ st, c.active ≠ .settings st) :
      RecordFaults c (.noAttribute c.active.typeName "log_statements")
  | notANumber {st : Settings} (h : c.active = .settings st)
      (hnan : st.maxLoggedLength.isDecimalNaN = true) : RecordFaults c .invalidOperation
  | limit (type : String) : RecordFaults c (.type (.notOrdered "<=" "int" type))
  | cut : RecordFaults c (.type .notAnIndex)

theorem Context.RecordFaults.fromDiagnostic {e : Fault} (h : c.RecordFaults e) :
    e.FromDiagnostic := by
  cases h with
  | settings _ => exact .settings _
  | notANumber _ _ => exact .order .invalidOperation
  | limit type => exact .limit type
  | cut => exact .cut

theorem Statement.faultsIn_shortened {st : Settings} (hc : c.active = .settings st)
    (sql : String) : FaultsIn c.RecordFaults (shortened st.maxLoggedLength sql) := by
  have hfits : FaultsIn c.RecordFaults (fits sql.length st.maxLoggedLength) := by
    unfold fits
    split
    · rename_i hnan
      exact .notANumber hc hnan
    · split
      · trivial
      · exact .limit _
  have hcut : FaultsIn c.RecordFaults (cutLength st.maxLoggedLength) := by
    unfold cutLength
    split
    · trivial
    · trivial
    · exact .cut
  refine hfits.bind fun fit => ?_
  cases fit with
  | true => trivial
  | false => exact hcut.bind fun n => trivial

theorem Statement.faultsIn_reportBuilt (logger verb sql : String) :
    FaultsIn c.RecordFaults ((reportBuilt logger verb sql).outcome c) := by
  have hsettings : Ends (fun st => c.active = .settings st) c.RecordFaults
      (Settings.ofValue "log_statements" c.active) := by
    unfold Settings.ofValue
    split
    · rename_i hactive
      exact hactive
    · rename_i hnone
      exact .settings hnone
  refine .outcome_bind_of hsettings fun st hst => ?_
  refine .outcome_bind (x := Build.context) trivial fun _ => ?_
  split
  · exact .outcome_bind (faultsIn_shortened hst sql) fun t => trivial
  · trivial

end SqlText
