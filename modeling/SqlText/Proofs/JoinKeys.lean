import SqlText.Proofs.JoinChains
import SqlText.Proofs.MappingEntries

/-!
# Keys of a join — which of them are tables, and where their order counts

    {"type": "LEFT JOIN", "u": "id", "on": "c", "t": "u_id"}     LEFT JOIN u ON c

A description has a kind, an operator and a condition under keys of their own; every other entry
is a pair of a table and a column, and the one under `table` is no exception. With a condition,
a value under `table` that counts as given is the table, whatever the pairs are, and without one
the first pair has it. So the word `table` itself becomes a table where its entry is one of two
pairs that are compared, or where it comes first among the pairs and holds nothing; in every
other description the tables are those of the remaining pairs.

The order of the entries counts among the pairs alone. A condition with its table is read alike
in any order, and two pairs the other way round are the same comparison from its other side.

* **`described?_eq_some_iff`**: the two ways to name a relation.
* **`tables_from_pairs`**: where the tables of a join come from.
* **`described?_perm`**: entries in another order.
* **`order_counts_among_pairs`**: what the order of the entries changes.
-/

namespace SqlText

/-- The warnings among the records of a run. -/
def Run.warnings {α : Type} (r : Run α) : List Log.Record :=
  r.records.filter fun x => x.severity = .warning

namespace Join

variable {es fs : List (Value × Value)} {j : Join} {c : Context}

/-! ## Reading -/

/-- The kind of join that a description asks for. -/
def kindOf (es : List (Value × Value)) : Value := (valueAt "type" es).orElse (.text "JOIN")

/-- The operator that a description asks for. -/
def operatorOf (es : List (Value × Value)) : Value := (valueAt "operator" es).orElse (.text "=")

/-- A relation is named by a condition and a pair, or by two pairs without a condition. -/
theorem described?_eq_some_iff :
    described? es = some j ↔
      ((valueAt "on" es).isGiven = true ∧ ∃ table column rest,
        pairs es = (table, column) :: rest ∧
        j = .explicit ((valueAt "table" es).orElse table) (valueAt "on" es) (kindOf es)) ∨
      ((valueAt "on" es).isGiven = false ∧ ∃ table column table' column',
        pairs es = [(table, column), (table', column')] ∧
        j = .equi table column table' column' (operatorOf es) (kindOf es)) := by
  rw [described?, kindOf, operatorOf]
  rcases (valueAt "on" es).isGiven with _ | _ <;>
    rcases pairs es with _ | ⟨⟨table, column⟩, _ | ⟨⟨table', column'⟩, _ | _⟩⟩ <;>
      simp [@eq_comm _ j]

/-- A description that names a relation is read as the join itself is. -/
theorem ofValue_of_described (h : described? es = some j) :
    ofValue (.mapping es) = ofValue (.join j) := by
  have hread : ofEntries es = pure j := by rw [ofEntries_eq, h]
  show (ofEntries es >>= fun k => k.report >>= fun _ => pure k) = _
  rw [hread, pure_bind]
  rfl

theorem run_ofValue_of_refused (h : described? es = none) :
    (ofValue (.mapping es)).run c = ⟨.error (.build (refusal es)), [refusalRecord es]⟩ := by
  rw [ofValue, ofEntries_eq, h]
  rfl

/-- A join that is there already is read as itself, if it is read. -/
theorem eq_of_ofValue_join {k : Join} (h : (ofValue (.join j)).outcome c = .ok k) : k = j := by
  obtain ⟨_, -, h⟩ := bind_eq_ok_iff.mp ((Build.outcome_bind _ _ _).symm.trans h)
  exact (Except.ok.inj h).symm

/-- What a description is read as is the join that it names. -/
theorem described?_of_ofValue (h : (ofValue (.mapping es)).outcome c = .ok j) :
    described? es = some j := by
  cases hj : described? es with
  | none =>
      rw [Build.outcome, run_ofValue_of_refused hj] at h
      cases h
  | some k =>
      rw [ofValue_of_described hj] at h
      rw [eq_of_ofValue_join h]

/-! ## Where tables come from -/

/-- The relations that a join names. -/
def tables : Join → List Value
  | explicit table _ _                    => [table]
  | equi leftTable _ rightTable _ _ _ => [leftTable, rightTable]

/-- The pairs of a description that do not stand under `table`. -/
def otherPairs (es : List (Value × Value)) : List (Value × Value) :=
  (pairs es).filter fun e => !e.1.isText "table"

/-- A join of a description whose tables are taken from some of its entries: that of a condition
is the value under `table`, where it counts as given, and else the key of the first of them, and
two tables are the keys of two of them, with their columns. -/
inductive TablesFrom (es ps : List (Value × Value)) : Join → Prop where
  | stated (condition kind : Value) (given : (valueAt "table" es).isGiven = true) :
      TablesFrom es ps (.explicit (valueAt "table" es) condition kind)
  | first {table column : Value} {rest : List (Value × Value)} (condition kind : Value)
      (missing : (valueAt "table" es).isGiven = false) (begins : ps = (table, column) :: rest) :
      TablesFrom es ps (.explicit table condition kind)
  | compared {table column table' column' : Value} (operator kind : Value)
      (both : [(table, column), (table', column')].Sublist ps) :
      TablesFrom es ps (.equi table column table' column' operator kind)

/-- Is the word `table` itself taken for a table? It is where there is an entry under it, and
either there is no condition, or it holds nothing and comes first among the pairs. -/
def TakesWord (es : List (Value × Value)) : Prop :=
  (∃ v, (.text "table", v) ∈ es) ∧
    ((valueAt "on" es).isGiven = false ∨ (valueAt "table" es).isGiven = false ∧
      (pairs es).head?.map Prod.fst = some (.text "table"))

theorem mem_pairs_table {v : Value} : (.text "table", v) ∈ pairs es ↔ (.text "table", v) ∈ es := by
  rw [pairs, List.mem_filter]
  exact and_iff_left rfl

/-- Pairs of which none is under `table` are other pairs. -/
theorem otherPairs_eq (h : ∀ v, (.text "table", v) ∉ es) : otherPairs es = pairs es := by
  refine List.filter_eq_self.mpr fun e he => ?_
  rw [Bool.not_eq_true', Bool.eq_false_iff]
  intro hkey
  refine h e.2 (mem_pairs_table.mp ?_)
  rw [← isText_iff.mp hkey]
  exact he

theorem not_mem_otherPairs {v : Value} : (.text "table", v) ∉ otherPairs es := by
  intro h
  exact absurd (List.mem_filter.mp h).2 (by simp [Value.isText])

/-- The tables of a join come from the pairs of its description. -/
theorem tablesFrom_pairs (h : described? es = some j) : TablesFrom es (pairs es) j := by
  rcases described?_eq_some_iff.mp h with
    ⟨-, table, column, rest, hpairs, rfl⟩ | ⟨-, table, column, table', column', hpairs, rfl⟩
  · rw [Value.orElse]
    by_cases hgiven : (valueAt "table" es).isGiven
    · rw [if_pos hgiven]
      exact .stated _ _ hgiven
    · rw [if_neg hgiven]
      exact .first _ _ (Bool.eq_false_iff.mpr hgiven) hpairs
  · exact .compared _ _ (by rw [hpairs])

/-- Where the word is taken for a table, the join names a relation of that name. -/
theorem mem_tables_of_takesWord (h : described? es = some j) (hword : TakesWord es) :
    .text "table" ∈ j.tables := by
  obtain ⟨⟨v, hv⟩, hplace⟩ := hword
  rcases described?_eq_some_iff.mp h with
    ⟨hon, table, column, rest, hpairs, rfl⟩ | ⟨-, table, column, table', column', hpairs, rfl⟩
  · obtain ⟨hmissing, hfirst⟩ := hplace.resolve_left (by rw [hon]; decide)
    rw [hpairs] at hfirst
    have htable : table = .text "table" := Option.some.inj hfirst
    rw [Value.orElse, if_neg (Bool.eq_false_iff.mp hmissing), htable]
    exact List.mem_singleton_self _
  · have hmem := mem_pairs_table.mpr hv
    rw [hpairs] at hmem
    rcases List.mem_cons.mp hmem with heq | hmem
    · rw [tables, ← (Prod.mk.inj heq).1]
      exact List.mem_cons_self
    · rw [tables, ← (Prod.mk.inj (List.mem_singleton.mp hmem)).1]
      exact List.mem_cons_of_mem _ List.mem_cons_self

/-- Where the word is not taken for a table, the tables come from the other pairs. -/
theorem tablesFrom_otherPairs (h : described? es = some j) (hword : ¬ TakesWord es) :
    TablesFrom es (otherPairs es) j := by
  rcases described?_eq_some_iff.mp h with
    ⟨hon, table, column, rest, hpairs, rfl⟩ | ⟨hon, table, column, table', column', hpairs, rfl⟩
  · rw [Value.orElse]
    by_cases hgiven : (valueAt "table" es).isGiven
    · rw [if_pos hgiven]
      exact .stated _ _ hgiven
    · rw [if_neg hgiven]
      have hmissing := Bool.eq_false_iff.mpr hgiven
      -- the first pair is not under the word, which would then be taken for a table
      have hkey : ¬ table.isText "table" = true := by
        intro hkey
        obtain rfl := isText_iff.mp hkey
        have hmem : (.text "table", column) ∈ pairs es := by
          rw [hpairs]
          exact List.mem_cons_self
        exact hword ⟨⟨column, mem_pairs_table.mp hmem⟩, .inr ⟨hmissing, by rw [hpairs]; rfl⟩⟩
      have hothers : otherPairs es =
          (table, column) :: rest.filter fun e => !e.1.isText "table" := by
        rw [otherPairs, hpairs, List.filter_cons_of_pos (by simpa using hkey)]
      exact .first _ _ hmissing hothers
  · have hnone : ∀ v, (.text "table", v) ∉ es := fun v hv => hword ⟨⟨v, hv⟩, .inl hon⟩
    refine .compared _ _ ?_
    rw [otherPairs_eq hnone, hpairs]

/-- The tables come from the other pairs exactly where the word is not taken for a table. -/
theorem tablesFrom_otherPairs_iff (h : described? es = some j) :
    TablesFrom es (otherPairs es) j ↔ ¬ TakesWord es := by
  refine ⟨fun hfrom hword => ?_, tablesFrom_otherPairs h⟩
  have hmem := mem_tables_of_takesWord h hword
  cases hfrom with
  | stated condition kind given =>
      rcases described?_eq_some_iff.mp h with ⟨hon, -⟩ | ⟨-, table, column, table', column', -, hj⟩
      · have hmissing := (hword.2.resolve_left (by rw [hon]; decide)).1
        rw [given] at hmissing
        exact nomatch hmissing
      · exact nomatch hj
  | first condition kind missing begins =>
      rw [← List.mem_singleton.mp hmem] at begins
      exact not_mem_otherPairs (begins ▸ List.mem_cons_self)
  | @compared table column table' column' operator kind both =>
      rcases List.mem_cons.mp hmem with rfl | hmem
      · exact not_mem_otherPairs (both.subset List.mem_cons_self)
      · obtain rfl := List.mem_singleton.mp hmem
        exact not_mem_otherPairs (both.subset (List.mem_cons_of_mem _ List.mem_cons_self))

/-- Every join that a description is read as has its tables from the pairs: the table of a
condition is the value under `table`, where it counts as given, and else the key of the first
pair, and two tables are the keys of two pairs. They come from the pairs that are not under
`table` exactly where that word is not taken for a table itself, and where it is, the join names
a relation of this name. -/
theorem tables_of_description (c : Context) (es : List (Value × Value)) (j : Join)
    (h : (ofValue (.mapping es)).outcome c = .ok j) :
    TablesFrom es (pairs es) j ∧ (TablesFrom es (otherPairs es) j ↔ ¬ TakesWord es) ∧
      (TakesWord es → .text "table" ∈ j.tables) := by
  have hj := described?_of_ofValue h
  exact ⟨tablesFrom_pairs hj, tablesFrom_otherPairs_iff hj, mem_tables_of_takesWord hj⟩

/-- A condition whose table is empty and stands before a pair. -/
def emptyBefore : List (Value × Value) :=
  [(.text "table", .text ""), (.text "u", .text "id"), (.text "on", .text "c")]

/-- A condition whose table is empty and stands behind a pair. -/
def emptyBehind : List (Value × Value) :=
  [(.text "u", .text "id"), (.text "on", .text "c"), (.text "table", .text "")]

/-- A table and a pair, without a condition. -/
def comparedWord : List (Value × Value) :=
  [(.text "table", .text "x"), (.text "u", .text "id")]

theorem takesWord_emptyBefore : TakesWord emptyBefore :=
  ⟨⟨_, List.mem_cons_self⟩, .inr ⟨rfl, rfl⟩⟩

/-- An empty table before the first pair is taken for a table, and behind it the table is that of
the pair. -/
theorem tables_of_description_empty :
    .text "table" ∈ (explicit (.text "table") (.text "c") (.text "JOIN")).tables ∧
      TablesFrom emptyBehind (otherPairs emptyBehind)
        (.explicit (.text "u") (.text "c") (.text "JOIN")) := by
  have hbefore : (ofValue (.mapping emptyBefore)).outcome {} =
      .ok (.explicit (.text "table") (.text "c") (.text "JOIN")) := rfl
  have hbehind : (ofValue (.mapping emptyBehind)).outcome {} =
      .ok (.explicit (.text "u") (.text "c") (.text "JOIN")) := rfl
  refine ⟨(tables_of_description {} _ _ hbefore).2.2 takesWord_emptyBefore,
    (tables_of_description {} _ _ hbehind).2.1.mpr ?_⟩
  rintro ⟨-, hon | ⟨-, hfirst⟩⟩
  · exact nomatch hon
  · exact absurd (Value.text.inj (Option.some.inj hfirst)) (by decide)

/-- The word `table` is a table of two joins that are read, so that the tables of a join do not
always come from the other pairs. -/
theorem word_taken_for_table :
    (ofValue (.mapping emptyBefore)).outcome {} =
        .ok (.explicit (.text "table") (.text "c") (.text "JOIN")) ∧
      (ofValue (.mapping comparedWord)).outcome {} =
        .ok (.equi (.text "table") (.text "x") (.text "u") (.text "id") (.text "=")
          (.text "JOIN")) ∧
      ¬ ∀ (es : List (Value × Value)) (j : Join), (ofValue (.mapping es)).outcome {} = .ok j →
        TablesFrom es (otherPairs es) j := by
  have hbefore : (ofValue (.mapping emptyBefore)).outcome {} =
      .ok (.explicit (.text "table") (.text "c") (.text "JOIN")) := rfl
  refine ⟨hbefore, rfl, fun h => ?_⟩
  exact (tablesFrom_otherPairs_iff (described?_of_ofValue hbefore)).mp (h _ _ hbefore)
    takesWord_emptyBefore

/-! ## Entries in another order -/

section Order

variable (hperm : es.Perm fs) (hkeys : KeysDiffer es)

include hperm hkeys

/-- Entries in another order name the same relation where the pairs are in the same order. -/
theorem described?_perm (hpairs : pairs fs = pairs es) : described? fs = described? es := by
  simp only [described?, valueAt_perm hperm hkeys, hpairs]

theorem refusal_perm (hpairs : pairs fs = pairs es) : refusal fs = refusal es := by
  rw [refusal, refusal, hpairs, valueAt?_perm hperm hkeys]

/-- A condition with its table names the same relation in any order. -/
theorem described?_of_stated (hon : (valueAt "on" es).isGiven = true)
    (htable : (valueAt "table" es).isGiven = true) :
    described? fs = some (.explicit (valueAt "table" es) (valueAt "on" es) (kindOf es)) := by
  obtain ⟨v, hv⟩ : ∃ v, (.text "table", v) ∈ fs := by
    cases hfound : valueAt? "table" es with
    | none =>
        rw [valueAt, hfound] at htable
        cases htable
    | some v => exact ⟨v, hperm.mem_iff.mp (mem_of_valueAt? hfound)⟩
  obtain ⟨⟨table, column⟩, rest, hpairs⟩ :=
    List.exists_cons_of_ne_nil (List.ne_nil_of_mem (mem_pairs_table.mpr hv))
  refine described?_eq_some_iff.mpr (.inl ?_)
  simp only [kindOf, valueAt_perm hperm hkeys, Value.orElse, htable]
  exact ⟨hon, table, column, rest, hpairs, rfl⟩

/-- Two pairs the other way round are compared from the other side. -/
theorem described?_of_swapped {a b a' b' operator kind : Value}
    (h : described? es = some (.equi a b a' b' operator kind))
    (hpairs : pairs fs = (pairs es).reverse) :
    described? fs = some (.equi a' b' a b operator kind) := by
  rcases described?_eq_some_iff.mp h with
    ⟨-, table, column, rest, -, hj⟩ | ⟨hon, table, column, table', column', hes, hj⟩
  · exact nomatch hj
  · obtain ⟨rfl, rfl, rfl, rfl, rfl, rfl⟩ := equi.inj hj
    refine described?_eq_some_iff.mpr (.inr ?_)
    simp only [operatorOf, kindOf, valueAt_perm hperm hkeys]
    exact ⟨hon, _, _, _, _, by rw [hpairs, hes]; rfl, rfl⟩

end Order

/-- A join with the words of another one is read with the same records. -/
theorem run_ofValue_of_report {k : Join} (hreport : k.report = j.report)
    (h : (ofValue (.join j)).outcome c = .ok j) :
    (ofValue (.join k)).run c = ⟨.ok k, ((ofValue (.join j)).run c).records⟩ := by
  have hread : ∀ l : Join, ofValue (.join l) = l.report >>= fun _ => pure l := fun _ => rfl
  obtain ⟨_, hok, -⟩ := bind_eq_ok_iff.mp ((Build.outcome_bind _ _ _).symm.trans h)
  have hrun : j.report.run c = ⟨.ok (), (j.report.run c).records⟩ := by rw [← hok]; rfl
  rw [hread, hread, hreport, Build.run_bind, Build.run_bind, hrun]
  rfl

/-- Entries in another order whose pairs are in the same order are read with the same outcome and
the same warnings. A condition with its table is read in any order as the one join, which it is
where its words are texts. Where two columns are compared, the pairs the other way round are the
same comparison from its other side, with the same records. -/
theorem order_counts_among_pairs (c : Context) :
    (∀ es fs, KeysDiffer es → es.Perm fs → pairs fs = pairs es →
      (ofValue (.mapping fs)).outcome c = (ofValue (.mapping es)).outcome c ∧
      ((ofValue (.mapping fs)).run c).warnings = ((ofValue (.mapping es)).run c).warnings) ∧
    (∀ es fs, KeysDiffer es → es.Perm fs → (valueAt "on" es).isGiven = true →
      (valueAt "table" es).isGiven = true →
      ofValue (.mapping fs) = ofValue (.mapping es) ∧
      (TextWords es → (ofValue (.mapping fs)).outcome c =
        .ok (.explicit (valueAt "table" es) (valueAt "on" es) (kindOf es)))) ∧
    ∀ es fs a b a' b' operator kind, KeysDiffer es → es.Perm fs →
      pairs fs = (pairs es).reverse →
      (ofValue (.mapping es)).outcome c = .ok (.equi a b a' b' operator kind) →
      (ofValue (.mapping fs)).run c =
        ⟨.ok (.equi a' b' a b operator kind), ((ofValue (.mapping es)).run c).records⟩ := by
  refine ⟨fun es fs hkeys hperm hpairs => ?_, fun es fs hkeys hperm hon htable => ?_,
    fun es fs a b a' b' operator kind hkeys hperm hpairs h => ?_⟩
  · have hsame := described?_perm hperm hkeys hpairs
    cases hes : described? es with
    | some j =>
        rw [ofValue_of_described (hsame.trans hes), ofValue_of_described hes]
        exact ⟨rfl, rfl⟩
    | none =>
        rw [Build.outcome, Build.outcome, run_ofValue_of_refused (hsame.trans hes),
          run_ofValue_of_refused hes, refusal_perm hperm hkeys hpairs]
        exact ⟨rfl, rfl⟩
  · have hes := described?_of_stated (List.Perm.refl es) hkeys hon htable
    have hread : ofValue (.mapping fs) = ofValue (.mapping es) := by
      rw [ofValue_of_described (described?_of_stated hperm hkeys hon htable),
        ofValue_of_described hes]
    rw [hread]
    exact ⟨rfl, fun hwords => (endsIn_ofValue hwords hes).outcome⟩
  · have hj := described?_of_ofValue h
    rw [ofValue_of_described hj] at h ⊢
    rw [ofValue_of_described (described?_of_swapped hperm hkeys hj hpairs)]
    exact run_ofValue_of_report rfl h

/-- Two pairs that are compared by words that are unknown. -/
def oddly : List (Value × Value) :=
  [(.text "type", .text "SIDE JOIN"), (.text "u", .text "id"), (.text "t", .text "u_id"),
    (.text "operator", .text "~")]

/-- The same pairs among words that are elsewhere. -/
def oddlyMixed : List (Value × Value) :=
  [(.text "u", .text "id"), (.text "type", .text "SIDE JOIN"), (.text "operator", .text "~"),
    (.text "t", .text "u_id")]

/-- The same words around pairs that are the other way round. -/
def oddlyBack : List (Value × Value) :=
  [(.text "type", .text "SIDE JOIN"), (.text "t", .text "u_id"), (.text "u", .text "id"),
    (.text "operator", .text "~")]

/-- A condition with its table behind a pair. -/
def statedLast : List (Value × Value) :=
  [(.text "u", .text "id"), (.text "on", .text "c"), (.text "table", .text "t")]

theorem order_counts_among_pairs_oddly :
    ((ofValue (.mapping oddlyMixed)).run {}).warnings =
        ((ofValue (.mapping oddly)).run {}).warnings ∧
      ((ofValue (.mapping oddly)).run {}).warnings.length = 2 ∧
      (ofValue (.mapping oddlyBack)).run {} =
        ⟨.ok (.equi (.text "t") (.text "u_id") (.text "u") (.text "id") (.text "~")
          (.text "SIDE JOIN")), ((ofValue (.mapping oddly)).run {}).records⟩ ∧
      (ofValue (.mapping statedLast.reverse)).outcome {} =
        .ok (.explicit (.text "t") (.text "c") (.text "JOIN")) := by
  have hkeys : KeysDiffer oddly := by decide
  have hmixed : oddly.Perm oddlyMixed :=
    (List.Perm.swap _ _ _).trans (.cons _ (.cons _ (.swap _ _ _)))
  have hback : oddly.Perm oddlyBack := .cons _ (.swap _ _ _)
  have hwords : TextWords statedLast := ⟨fun _ h => (nomatch h), fun _ h => (nomatch h)⟩
  obtain ⟨hsame, hstated, hswapped⟩ := order_counts_among_pairs {}
  refine ⟨(hsame oddly oddlyMixed hkeys hmixed rfl).2, by decide +kernel, ?_, ?_⟩
  · exact hswapped oddly oddlyBack _ _ _ _ _ _ hkeys hback rfl rfl
  · exact (hstated statedLast _ (by decide) (List.reverse_perm _).symm rfl rfl).2 hwords

end Join

end SqlText
