import SqlText.Proofs.ClauseOutcomes
import SqlText.Proofs.Recording
import SqlText.Statement.Select

/-!
# SELECT assembly — a SELECT is its segments, one after the other

    s.text  =  trimmed (relation ++ selection ++ list ++ source ++ … ++ limit ++ offset)

A SELECT has eleven segments. Each is a function of the options that it is written from and
of nothing else, so no clause leaks into another one. Eight options can be refused, and they
are read in a fixed order, which is not that of the segments: the first refusal is that of
the statement.

* **`outcome_of_segments`**: a SELECT all of whose segments can be written is their
  concatenation without the blanks at its end.
* **`outcome_of_firstFault?`**: the first refused option decides the fault.
* **`segment_eq_empty_iff`**: which segments are empty.
* **`segment_of_set?`**: an option bears on its own segments only.
* **`select_assembly`**: all of this about one SELECT.
-/

namespace SqlText

/-- The text without the blanks at its end. -/
def trimmed (t : String) : String := String.ofList (Text.trimEnd t.toList)

/-- The fault of an outcome, if it is one. -/
def faultOf? : Except Fault α → Option Fault
  | .error e => some e
  | .ok _    => none

theorem faultOf?_eq_none_iff {x : Except Fault α} : faultOf? x = none ↔ ∃ a, x = .ok a := by
  cases x with
  | error e => simp [faultOf?]
  | ok a => simp [faultOf?]

/-- The fault of two results in a row is that of the first or else that of the second. -/
theorem faultOf?_bind {x : Except Fault α} {f : α → Except Fault β} {rest : Option Fault}
    (h : ∀ a, x = .ok a → faultOf? (f a) = rest) :
    faultOf? (x >>= f) = (faultOf? x).or rest := by
  cases x with
  | error e => rfl
  | ok a => exact h a rfl

theorem findSome?_cons_or (f : α → Option β) (a : α) (as : List α) :
    (a :: as).findSome? f = (f a).or (as.findSome? f) := by
  rw [List.findSome?_cons]
  cases f a <;> rfl

namespace Select

/-! ## Segments -/

/-- The segments of a SELECT. -/
inductive Segment where
  | relation
  | selection
  | list
  | source
  | joins
  | condition
  | grouping
  | having
  | ordering
  | limit
  | offset

/-- The segments in the order in which they are written. -/
def Segment.all : List Segment :=
  [.relation, .selection, .list, .source, .joins, .condition, .grouping, .having, .ordering,
    .limit, .offset]

/-- The options that a segment is written from. -/
def Segment.options : Segment → List String
  | relation  => ["recursive_cte"]
  | selection => ["distinct"]
  | list      => ["columns", "sub_queries", "aggregates"]
  | source    => ["recursive_cte", "table"]
  | joins     => ["joins"]
  | condition => ["where"]
  | grouping  => ["group_by"]
  | having    => ["having"]
  | ordering  => ["sort"]
  | limit     => ["limit_skip"]
  | offset    => ["limit_skip"]

/-- The recursive relation before SELECT, nothing unless it counts as given. -/
def relationText (recursiveCte : Value) : Except Fault String :=
  if recursiveCte.isGiven then (RecursiveCte.ofValue recursiveCte).map RecursiveCte.segment
  else .ok ""

/-- What stands after FROM: the relation's alias where a relation counts as given, whatever
the table is, and the table elsewhere. -/
def sourceOf (recursiveCte table : Value) : Except Fault Value :=
  if recursiveCte.isGiven then (RecursiveCte.ofValue recursiveCte).map RecursiveCte.label
  else .ok table

/-- The source after its word, the empty text for one that does not count as given. -/
def sourceText (source : Value) : String := " FROM " ++ (source.orElse (.text "")).display

/-- The word SELECT, and DISTINCT where it is asked for. -/
def selectionText (distinct : Value) : String :=
  "SELECT " ++ if distinct.isGiven then "DISTINCT " else ""

/-- The columns of the select list. -/
def columnsText (columns : Value) : Except Fault String := (Columns.listText columns).outcome {}

/-- The three parts of a select list, those that are empty left out, or an asterisk. -/
def listOf (columns subQueries aggregates : String) : String :=
  let pieces := [columns, subQueries, aggregates].filter (· ≠ "")
  if pieces.isEmpty then "*" else ", ".intercalate pieces

def joinsText (joins : Value) : Except Fault String :=
  (Build.whenGiven joins Join.chain).outcome {}

def groupingText (grouping : Value) : Except Fault String :=
  (Build.whenGiven grouping Columns.groupText).outcome {}

def orderingText (ordering : Value) : Except Fault String :=
  (Build.whenGiven ordering OrderBy.text).outcome {}

/-- The paging of a SELECT, without limit and offset unless it counts as given. -/
def pagingOf (paging : Value) : Except Fault Paging :=
  if paging.isGiven then Paging.ofValue paging else .ok ⟨.null, .null⟩

/-- The text of one segment, which depends on the options of that segment alone. -/
def segment (s : Select) : Segment → Except Fault String
  | .relation  => relationText s.recursiveCte
  | .selection => .ok (selectionText s.distinct)
  | .list      => do
    return listOf (← columnsText s.columns) (← SubQuery.listText s.subQueries)
      (← Aggregate.listText s.aggregates)
  | .source    => (sourceOf s.recursiveCte s.table).map sourceText
  | .joins     => joinsText s.joins
  | .condition => .ok (wordSegment " WHERE " s.condition)
  | .grouping  => groupingText s.grouping
  | .having    => .ok (wordSegment " HAVING " s.having)
  | .ordering  => orderingText s.ordering
  | .limit     => (pagingOf s.paging).map fun p => Paging.limitSegment p.limit
  | .offset    => (pagingOf s.paging).map fun p => Paging.offsetSegment p.skip

/-! ## Options that can be refused -/

/-- The options that can be refused. -/
inductive Input where
  | recursiveCte
  | columns
  | subQueries
  | aggregates
  | joins
  | grouping
  | ordering
  | paging

/-- The options in the order in which they are read. -/
def Input.all : List Input :=
  [.recursiveCte, .columns, .subQueries, .aggregates, .joins, .grouping, .ordering, .paging]

/-- The fault for which one option is refused, if it is. -/
def fault? (s : Select) : Input → Option Fault
  | .recursiveCte => faultOf? (relationText s.recursiveCte)
  | .columns      => faultOf? (columnsText s.columns)
  | .subQueries   => faultOf? (SubQuery.listText s.subQueries)
  | .aggregates   => faultOf? (Aggregate.listText s.aggregates)
  | .joins        => faultOf? (joinsText s.joins)
  | .grouping     => faultOf? (groupingText s.grouping)
  | .ordering     => faultOf? (orderingText s.ordering)
  | .paging       => faultOf? (pagingOf s.paging)

/-- The fault of the first option that is refused. -/
def firstFault? (s : Select) : Option Fault := Input.all.findSome? s.fault?

/-! ## The outcome of a SELECT -/

variable {s : Select} {levels : Log.Levels}

/-- Under the standard settings a missing source is no fault. -/
theorem outcome_checkSource (s : Select) (levels : Log.Levels) (source : Value) :
    (s.checkSource source).outcome { levels } = .ok () := by
  rw [checkSource]
  split
  · rfl
  · rfl

/-- A build that looks at no context has one outcome. -/
theorem outcome_eq {x : Build α} (h : Build.ContextFree x) (c : Context) :
    x.outcome c = x.outcome {} := congrArg Run.outcome (h c {})

/-- The relation and the source are read together. -/
theorem source_eq (s : Select) :
    s.source = relationText s.recursiveCte >>= fun relation =>
      (sourceOf s.recursiveCte s.table).map fun source => (relation, source) := by
  rw [source, relationText, sourceOf]
  by_cases h : s.recursiveCte.isGiven
  · rw [if_pos h, if_pos h, if_pos h]
    cases RecursiveCte.ofValue s.recursiveCte with
    | error e => rfl
    | ok c => rfl
  · rw [if_neg h, if_neg h, if_neg h]
    rfl

theorem outcome_listText (s : Select) (c : Context) :
    (listText s.columns s.subQueries s.aggregates).outcome c = s.segment .list := by
  rw [listText, Build.outcome_bind, outcome_eq (Columns.contextFree_listText _)]
  show _ = columnsText s.columns >>= _
  rw [columnsText]
  refine bind_congr fun cs => ?_
  simp only [Build.outcome_bind, Build.outcome_liftM]
  rfl

/-- Paging is written as its limit and its offset. -/
theorem outcome_paging (paging : Value) (c : Context) :
    (Build.whenGiven paging fun v => Paging.text v).outcome c
      = (pagingOf paging).map Paging.segment := by
  rw [Build.whenGiven, pagingOf]
  by_cases h : paging.isGiven
  · rw [if_pos h, if_pos h]
    show Paging.text paging = _
    rw [Paging.text]
    cases Paging.ofValue paging with
    | error e => rfl
    | ok p => rfl
  · rw [if_neg h, if_neg h]
    rfl

/-- The outcome of a SELECT in terms of its options, in the order in which they are read. -/
theorem outcome_text (s : Select) (levels : Log.Levels) :
    s.text.outcome { levels } =
      (relationText s.recursiveCte >>= fun relation =>
        sourceOf s.recursiveCte s.table >>= fun source =>
        s.segment .list >>= fun list =>
        joinsText s.joins >>= fun joins =>
        groupingText s.grouping >>= fun grouping =>
        orderingText s.ordering >>= fun ordering =>
        pagingOf s.paging >>= fun paging =>
        .ok (Text.strip (relation ++ "SELECT " ++
          (if s.distinct.isGiven then "DISTINCT " else "") ++ list ++ " FROM " ++
          (source.orElse (.text "")).display ++ joins ++ wordSegment " WHERE " s.condition ++
          grouping ++ wordSegment " HAVING " s.having ++ ordering ++
          Paging.segment paging))) := by
  have hrecorded : s.text = Statement.recorded Log.Channel.selection "SELECT" s.compose := rfl
  rw [hrecorded,
    Statement.outcome_recorded (Statement.shortens_of_wellTyped Settings.wellTyped_standard levels)]
  simp only [compose, Build.outcome_bind, Build.outcome_liftM, outcome_checkSource,
    outcome_listText, outcome_paging, outcome_eq (.whenGiven (Join.contextFree_chain _)),
    outcome_eq (.whenGiven (Columns.contextFree_groupText _)),
    outcome_eq (.whenGiven (OrderBy.contextFree_text _)), Build.outcome_pure, source_eq]
  show _ = (relationText s.recursiveCte >>= _)
  rcases relationText s.recursiveCte with e | relation
  · rfl
  rcases sourceOf s.recursiveCte s.table with e | source
  · rfl
  rcases s.segment .list with e | list
  · rfl
  rw [joinsText, groupingText, orderingText]
  rcases (Build.whenGiven s.joins Join.chain).outcome {} with e | joins
  · rfl
  rcases (Build.whenGiven s.grouping Columns.groupText).outcome {} with e | grouping
  · rfl
  rcases (Build.whenGiven s.ordering OrderBy.text).outcome {} with e | ordering
  · rfl
  rcases pagingOf s.paging with e | paging
  · rfl
  · simp only [ok_bind, Except.map, Settings.ofValue]

/-- The source can be read where the relation can. -/
theorem exists_sourceOf {recursiveCte : Value} {t : String}
    (h : relationText recursiveCte = .ok t) (table : Value) :
    ∃ v, sourceOf recursiveCte table = .ok v := by
  rw [relationText] at h
  rw [sourceOf]
  by_cases hg : recursiveCte.isGiven
  · rw [if_pos hg] at h ⊢
    obtain ⟨c, hc, -⟩ := map_eq_ok_iff.mp h
    rw [hc]
    exact ⟨c.label, rfl⟩
  · rw [if_neg hg]
    exact ⟨table, rfl⟩

/-- The fault of a SELECT is that of the first option that is refused. -/
theorem faultOf?_text (s : Select) (levels : Log.Levels) :
    faultOf? (s.text.outcome { levels }) = s.firstFault? := by
  rw [outcome_text, firstFault?, segment]
  simp only [Input.all, findSome?_cons_or, bind_assoc, pure_bind]
  refine faultOf?_bind fun relation hr => ?_
  -- the source is read along with the relation
  obtain ⟨source, hs⟩ := exists_sourceOf hr s.table
  rw [hs, ok_bind]
  refine faultOf?_bind fun columns _ => ?_
  refine faultOf?_bind fun subQueries _ => ?_
  refine faultOf?_bind fun aggregates _ => ?_
  refine faultOf?_bind fun joins _ => ?_
  refine faultOf?_bind fun grouping _ => ?_
  refine faultOf?_bind fun ordering _ => ?_
  exact faultOf?_bind fun paging _ => rfl

/-- No option is refused exactly where every segment can be written. -/
theorem firstFault?_eq_none_iff : s.firstFault? = none ↔ ∀ g, ∃ t, s.segment g = .ok t := by
  rw [firstFault?, List.findSome?_eq_none_iff]
  constructor
  · intro h
    have hok : ∀ i, s.fault? i = none := by
      intro i
      cases i <;> exact h _ (by simp [Input.all])
    obtain ⟨relation, hr⟩ := faultOf?_eq_none_iff.mp (hok .recursiveCte)
    obtain ⟨source, hs⟩ := exists_sourceOf hr s.table
    obtain ⟨columns, hc⟩ := faultOf?_eq_none_iff.mp (hok .columns)
    obtain ⟨subQueries, hq⟩ := faultOf?_eq_none_iff.mp (hok .subQueries)
    obtain ⟨aggregates, ha⟩ := faultOf?_eq_none_iff.mp (hok .aggregates)
    obtain ⟨paging, hp⟩ := faultOf?_eq_none_iff.mp (hok .paging)
    intro g
    cases g with
    | relation => exact ⟨relation, hr⟩
    | selection => exact ⟨_, rfl⟩
    | list => exact ⟨_, by rw [segment, hc, hq, ha]; rfl⟩
    | source => exact ⟨_, by rw [segment, hs]; rfl⟩
    | joins => exact faultOf?_eq_none_iff.mp (hok .joins)
    | condition => exact ⟨_, rfl⟩
    | grouping => exact faultOf?_eq_none_iff.mp (hok .grouping)
    | having => exact ⟨_, rfl⟩
    | ordering => exact faultOf?_eq_none_iff.mp (hok .ordering)
    | limit => exact ⟨_, by rw [segment, hp]; rfl⟩
    | offset => exact ⟨_, by rw [segment, hp]; rfl⟩
  · intro h i _
    obtain ⟨list, hlist⟩ := h .list
    obtain ⟨columns, hc, hlist⟩ := bind_eq_ok_iff.mp hlist
    obtain ⟨subQueries, hq, hlist⟩ := bind_eq_ok_iff.mp hlist
    obtain ⟨aggregates, ha, -⟩ := bind_eq_ok_iff.mp hlist
    obtain ⟨limit, hlimit⟩ := h .limit
    obtain ⟨paging, hp, -⟩ := map_eq_ok_iff.mp hlimit
    cases i with
    | recursiveCte => exact faultOf?_eq_none_iff.mpr (h .relation)
    | columns => exact faultOf?_eq_none_iff.mpr ⟨columns, hc⟩
    | subQueries => exact faultOf?_eq_none_iff.mpr ⟨subQueries, hq⟩
    | aggregates => exact faultOf?_eq_none_iff.mpr ⟨aggregates, ha⟩
    | joins => exact faultOf?_eq_none_iff.mpr (h .joins)
    | grouping => exact faultOf?_eq_none_iff.mpr (h .grouping)
    | ordering => exact faultOf?_eq_none_iff.mpr (h .ordering)
    | paging => exact faultOf?_eq_none_iff.mpr ⟨paging, hp⟩

/-! ## The concatenation -/

/-- A text that begins with this character. -/
def BeginsWith (c : Char) (t : String) : Prop := ∃ cs, t.toList = c :: cs

theorem BeginsWith.append {c : Char} {t : String} (h : BeginsWith c t) (u : String) :
    BeginsWith c (t ++ u) := by
  obtain ⟨cs, hcs⟩ := h
  exact ⟨cs ++ u.toList, by rw [String.toList_append, hcs, List.cons_append]⟩

theorem BeginsWith.ne_empty {c : Char} {t : String} (h : BeginsWith c t) : t ≠ "" := by
  rintro rfl
  obtain ⟨cs, hcs⟩ := h
  exact nomatch hcs

theorem beginsWith_relation (c : RecursiveCte) : BeginsWith 'W' c.segment := by
  have hword : BeginsWith 'W' "WITH RECURSIVE " := ⟨_, rfl⟩
  exact (((((hword.append _).append _).append _).append _).append _).append _

theorem beginsWith_join (j : Join) : BeginsWith ' ' j.segment := by
  have hblank : BeginsWith ' ' " " := ⟨_, rfl⟩
  cases j with
  | explicit table condition kind =>
      exact ((((hblank.append _).append _).append _).append _).append _
  | equi a b c d operator kind =>
      have hsource := ((((hblank.append kind.display).append " ").append c.display).append " ON ")
      have hleft := (((hsource.append a.display).append ".").append b.display).append " "
      exact ((((hleft.append _).append _).append _).append _).append _

/-- A text that begins with a character that is not blank has blanks to lose at its end
only. -/
theorem strip_eq_trimmed {t : String} {c : Char} (h : BeginsWith c t)
    (hc : Text.isBlank c = false) : Text.strip t = trimmed t := by
  obtain ⟨cs, hcs⟩ := h
  have hstart : Text.trimStart t.toList = t.toList := by
    rw [hcs, Text.trimStart, List.dropWhile_cons_of_neg (by rw [hc]; decide)]
  rw [Text.strip, hstart, trimmed]

/-- The segments of a statement put together. -/
def joined (parts : Segment → String) : String := String.join (Segment.all.map parts)

theorem joined_eq (parts : Segment → String) :
    joined parts = parts .relation ++ (parts .selection ++ (parts .list ++ (parts .source ++
      (parts .joins ++ (parts .condition ++ (parts .grouping ++ (parts .having ++
      (parts .ordering ++ (parts .limit ++ parts .offset))))))))) := by
  simp only [joined, Segment.all, List.map_cons, List.map_nil, String.join_cons,
    String.join_nil, String.append_empty]

/-- A statement begins with a letter: that of WITH or that of SELECT. -/
theorem beginsWith_joined {parts : Segment → String}
    (h : ∀ g, s.segment g = .ok (parts g)) :
    BeginsWith 'W' (joined parts) ∨ BeginsWith 'S' (joined parts) := by
  rw [joined_eq]
  have hrelation := h .relation
  rw [segment, relationText] at hrelation
  by_cases hg : s.recursiveCte.isGiven
  · rw [if_pos hg] at hrelation
    obtain ⟨c, -, hc⟩ := map_eq_ok_iff.mp hrelation
    rw [← hc]
    exact .inl ((beginsWith_relation c).append _)
  · rw [if_neg hg] at hrelation
    have hword : BeginsWith 'S' "SELECT " := ⟨_, rfl⟩
    rw [← Except.ok.inj hrelation, ← Except.ok.inj (h .selection), String.empty_append]
    exact .inr ((hword.append _).append _)

/-- A SELECT all of whose segments can be written is their concatenation without the blanks
at its end. -/
theorem outcome_of_segments {parts : Segment → String} (levels : Log.Levels)
    (h : ∀ g, s.segment g = .ok (parts g)) :
    s.text.outcome { levels } = .ok (trimmed (joined parts)) := by
  have hstrip : Text.strip (joined parts) = trimmed (joined parts) := by
    rcases beginsWith_joined h with hw | hs
    · exact strip_eq_trimmed hw (by decide)
    · exact strip_eq_trimmed hs (by decide)
  have hrelation : relationText s.recursiveCte = .ok (parts .relation) := h .relation
  have hjoins : joinsText s.joins = .ok (parts .joins) := h .joins
  have hgrouping : groupingText s.grouping = .ok (parts .grouping) := h .grouping
  have hordering : orderingText s.ordering = .ok (parts .ordering) := h .ordering
  obtain ⟨source, hsource, hsourceText⟩ := map_eq_ok_iff.mp (h .source)
  obtain ⟨paging, hpaging, hlimit⟩ := map_eq_ok_iff.mp (h .limit)
  have hoffset := h .offset
  rw [segment, hpaging] at hoffset
  rw [outcome_text, hrelation, hsource, h .list, hjoins, hgrouping, hordering, hpaging]
  simp only [ok_bind]
  rw [← hstrip, joined_eq, ← Except.ok.inj (h .selection), ← hsourceText,
    ← Except.ok.inj (h .condition), ← Except.ok.inj (h .having), ← hlimit,
    ← Except.ok.inj hoffset]
  simp only [selectionText, sourceText, Paging.segment, String.append_assoc]

/-! ## Empty segments -/

/-- The items of a grouping. -/
def groupingItems (grouping : Value) : Except Fault (List Value) :=
  (Columns.ofValue? grouping).outcome {} >>= Columns.piecesOf?

/-- An ordering without keys. -/
def HasNoKey (ordering : Value) : Prop :=
  (OrderBy.ofValue? ordering).outcome {} = .ok none ∨
    ∃ ks, (OrderBy.ofValue? ordering).outcome {} = .ok (some (.keys ks)) ∧ ks.iterate = .ok []

/-- A segment has nothing to write: its option does not count as given, or it describes no
item. The selection, the list and the source always have something to write. -/
def RendersNothing (s : Select) : Segment → Prop
  | .relation  => ¬ s.recursiveCte.isGiven
  | .selection => False
  | .list      => False
  | .source    => False
  | .joins     => ¬ s.joins.isGiven
  | .condition => ¬ s.condition.isGiven
  | .grouping  => ¬ s.grouping.isGiven ∨ groupingItems s.grouping = .ok []
  | .having    => ¬ s.having.isGiven
  | .ordering  => ¬ s.ordering.isGiven ∨ HasNoKey s.ordering
  | .limit     => ∃ p, pagingOf s.paging = .ok p ∧ ¬ p.limit.isGiven
  | .offset    => ∃ p, pagingOf s.paging = .ok p ∧ ¬ p.skip.isGiven

theorem append_ne_empty {t : String} (h : t ≠ "") (u : String) : t ++ u ≠ "" :=
  fun he => h (String.append_eq_empty_iff.mp he).1

/-- Texts that are put together give a text where the first of them is not empty. -/
theorem intercalate_ne_empty {sep t : String} (h : t ≠ "") (ts : List String) :
    sep.intercalate (t :: ts) ≠ "" := by
  cases ts with
  | nil => rw [String.intercalate_singleton]; exact h
  | cons u us =>
      rw [String.intercalate_cons_cons]
      exact append_ne_empty (append_ne_empty h _) _

/-- A select list is never empty. -/
theorem listOf_ne_empty (columns subQueries aggregates : String) :
    listOf columns subQueries aggregates ≠ "" := by
  have hpieces : ∀ t ∈ [columns, subQueries, aggregates].filter (· ≠ ""), t ≠ "" :=
    fun t ht => by simpa using (List.mem_filter.mp ht).2
  unfold listOf
  dsimp only
  generalize [columns, subQueries, aggregates].filter (· ≠ "") = pieces at hpieces ⊢
  cases pieces with
  | nil => decide
  | cons t ts => exact intercalate_ne_empty (hpieces t List.mem_cons_self) ts

/-- A word segment is empty exactly where its value does not count as given. -/
theorem wordSegment_eq_empty_iff {word : String} (hword : word ≠ "") (v : Value) :
    wordSegment word v = "" ↔ ¬ v.isGiven := by
  rw [wordSegment]
  by_cases h : v.isGiven
  · rw [if_pos h]
    exact ⟨fun he => absurd he (append_ne_empty hword _), fun hn => absurd h hn⟩
  · rw [if_neg h]
    exact ⟨fun _ => h, fun _ => rfl⟩

/-- A value that counts as given and can be iterated has an item. -/
theorem iterate_ne_nil {v : Value} {vs : List Value} (hv : v.isGiven = true)
    (h : v.iterate = .ok vs) : vs ≠ [] := by
  rintro rfl
  cases v with
  | text s =>
      have hs : s.toList = [] := List.map_eq_nil_iff.mp (Except.ok.inj h)
      rw [String.toList_eq_nil_iff.mp hs] at hv
      exact nomatch hv
  | bytes bs =>
      rw [List.map_eq_nil_iff.mp (Except.ok.inj h)] at hv
      exact nomatch hv
  | list xs =>
      rw [Except.ok.inj h] at hv
      exact nomatch hv
  | tuple xs =>
      rw [Except.ok.inj h] at hv
      exact nomatch hv
  | mapping es =>
      rw [List.map_eq_nil_iff.mp (Except.ok.inj h)] at hv
      exact nomatch hv
  | _ => exact nomatch h

/-- Joins that count as given give a segment that is not empty. -/
theorem joinsText_eq_empty_iff (joins : Value) : joinsText joins = .ok "" ↔ ¬ joins.isGiven := by
  rw [joinsText, Build.whenGiven]
  by_cases hg : joins.isGiven
  · rw [if_pos hg]
    refine ⟨fun h => ?_, fun hn => absurd hg hn⟩
    rcases Join.of_chain h with ⟨hn, -⟩ | ⟨vs, js, hvs, hjs, ht⟩
    · exact hn
    · cases hjs with
      | nil => exact absurd rfl (iterate_ne_nil hg hvs)
      | @cons _ j _ js _ _ =>
          exact absurd ht.symm (intercalate_ne_empty (beginsWith_join j).ne_empty _)
  · rw [if_neg hg]
    exact ⟨fun _ => hg, fun _ => rfl⟩

/-- A grouping is written from its items. -/
theorem outcome_groupText (grouping : Value) :
    (Columns.groupText grouping).outcome {} = groupingItems grouping >>= fun items =>
      if items.isEmpty then .ok "" else (joinTexts ", " items).map (" GROUP BY " ++ ·) := by
  rw [Columns.groupText, Build.outcome_bind, groupingItems, bind_assoc]
  refine bind_congr fun columns => ?_
  rw [Build.outcome_bind, Build.outcome_liftM]
  refine bind_congr fun items => ?_
  by_cases h : items.isEmpty
  · rw [if_pos h, if_pos h]
    rfl
  · rw [if_neg h, if_neg h, Build.outcome_bind, Build.outcome_liftM]
    cases joinTexts ", " items with
    | error e => rfl
    | ok t => rfl

/-- A grouping gives no segment exactly where it has no item. -/
theorem groupingText_eq_empty_iff (grouping : Value) :
    groupingText grouping = .ok "" ↔ ¬ grouping.isGiven ∨ groupingItems grouping = .ok [] := by
  rw [groupingText, Build.whenGiven]
  by_cases hg : grouping.isGiven
  · rw [if_pos hg, or_iff_right (fun hn => hn hg), outcome_groupText]
    constructor
    · intro h
      obtain ⟨items, hitems, h⟩ := bind_eq_ok_iff.mp h
      cases items with
      | nil => exact hitems
      | cons item items =>
          obtain ⟨t, -, ht⟩ := map_eq_ok_iff.mp h
          exact absurd ht (append_ne_empty (by decide) t)
    · intro h
      rw [h]
      rfl
  · rw [if_neg hg]
    exact ⟨fun _ => .inl hg, fun _ => rfl⟩

/-- The segment of an ordering is empty exactly where it has no key. -/
theorem orderBySegment_eq_empty_iff (o : OrderBy) :
    o.segment = .ok "" ↔ ∃ ks, o = .keys ks ∧ ks.iterate = .ok [] := by
  cases o with
  | raw content =>
      refine ⟨fun h => ?_, fun ⟨ks, hks, _⟩ => nomatch hks⟩
      exact absurd (Except.ok.inj h) (append_ne_empty (by decide) _)
  | keys ks =>
      constructor
      · intro h
        obtain ⟨vs, hvs, h⟩ := bind_eq_ok_iff.mp h
        obtain ⟨ts, hts, h⟩ := bind_eq_ok_iff.mp h
        cases (mapM_eq_ok_iff vs ts).mp hts with
        | nil => exact ⟨ks, rfl, hvs⟩
        | cons _ _ => exact absurd (Except.ok.inj h) (append_ne_empty (by decide) _)
      · rintro ⟨ks', hks, h⟩
        rw [← OrderBy.keys.inj hks] at h
        rw [OrderBy.segment, h]
        rfl

/-- An ordering gives no segment exactly where it has no key. -/
theorem orderingText_eq_empty_iff (ordering : Value) :
    orderingText ordering = .ok "" ↔ ¬ ordering.isGiven ∨ HasNoKey ordering := by
  rw [orderingText, Build.whenGiven]
  by_cases hg : ordering.isGiven
  · rw [if_pos hg, or_iff_right (fun hn => hn hg), HasNoKey, OrderBy.text, Build.outcome_bind]
    rcases (OrderBy.ofValue? ordering).outcome {} with e | o?
    · simp
    · cases o? with
      | none => exact ⟨fun _ => .inl rfl, fun _ => rfl⟩
      | some o =>
          rw [ok_bind]
          show o.segment = .ok "" ↔ _
          rw [orderBySegment_eq_empty_iff]
          simp
  · rw [if_neg hg]
    exact ⟨fun _ => .inl hg, fun _ => rfl⟩

/-- The segments that have nothing to write are empty, and no others. -/
theorem segment_eq_empty_iff (s : Select) (g : Segment) :
    s.segment g = .ok "" ↔ s.RendersNothing g := by
  cases g with
  | relation =>
      rw [segment, relationText, RendersNothing]
      by_cases hg : s.recursiveCte.isGiven
      · rw [if_pos hg]
        refine ⟨fun h => ?_, fun hn => absurd hg hn⟩
        obtain ⟨c, -, hc⟩ := map_eq_ok_iff.mp h
        exact absurd hc (beginsWith_relation c).ne_empty
      · rw [if_neg hg]
        exact ⟨fun _ => hg, fun _ => rfl⟩
  | selection =>
      exact ⟨fun h => append_ne_empty (by decide) _ (Except.ok.inj h), False.elim⟩
  | list =>
      refine ⟨fun h => ?_, False.elim⟩
      obtain ⟨columns, -, h⟩ := bind_eq_ok_iff.mp h
      obtain ⟨subQueries, -, h⟩ := bind_eq_ok_iff.mp h
      obtain ⟨aggregates, -, h⟩ := bind_eq_ok_iff.mp h
      exact listOf_ne_empty _ _ _ (Except.ok.inj h)
  | source =>
      refine ⟨fun h => ?_, False.elim⟩
      obtain ⟨source, -, h⟩ := map_eq_ok_iff.mp h
      exact append_ne_empty (by decide) _ h
  | joins => exact joinsText_eq_empty_iff s.joins
  | condition =>
      rw [segment, Except.ok.injEq]
      exact wordSegment_eq_empty_iff (by decide) s.condition
  | grouping => exact groupingText_eq_empty_iff s.grouping
  | having =>
      rw [segment, Except.ok.injEq]
      exact wordSegment_eq_empty_iff (by decide) s.having
  | ordering => exact orderingText_eq_empty_iff s.ordering
  | limit =>
      have hword : " LIMIT " ≠ "" := by decide
      rw [segment, map_eq_ok_iff]
      exact exists_congr fun p => and_congr_right fun _ => wordSegment_eq_empty_iff hword p.limit
  | offset =>
      have hword : " OFFSET " ≠ "" := by decide
      rw [segment, map_eq_ok_iff]
      exact exists_congr fun p => and_congr_right fun _ => wordSegment_eq_empty_iff hword p.skip

/-! ## One option at a time -/

/-- An option bears on its own segments only. -/
theorem segment_of_set? {s s' : Select} {name : String} {v : Value}
    (h : s.set? name v = some s') {g : Segment} (hg : name ∉ g.options) :
    s'.segment g = s.segment g := by
  unfold set? at h
  split at h
  case h_13 => exact nomatch h
  all_goals
    cases h
    cases g <;> first | rfl | exact absurd (by decide) hg

/-- Where a relation counts as given, the table bears on nothing. -/
theorem outcome_of_relation {s : Select} (h : s.recursiveCte.isGiven = true) (table : Value)
    (levels : Log.Levels) :
    { s with table }.text.outcome { levels } = s.text.outcome { levels } := by
  have hsource : sourceOf s.recursiveCte table = sourceOf s.recursiveCte s.table := by
    rw [sourceOf, sourceOf, if_pos h, if_pos h]
  rw [outcome_text, outcome_text]
  dsimp only
  rw [hsource]
  rfl

/-! ## All of it -/

/-- A statement that is put together from the texts of its segments. -/
structure Assembled (s : Select) (parts : Segment → String) (t : String) : Prop where
  segment : ∀ g, s.segment g = .ok (parts g)
  text : t = trimmed (joined parts)

/-- A SELECT gives a text exactly where every segment does, and the text is theirs. -/
theorem outcome_eq_ok_iff {s : Select} {levels : Log.Levels} {t : String} :
    s.text.outcome { levels } = .ok t ↔ ∃ parts, s.Assembled parts t := by
  constructor
  · intro h
    have hnone : s.firstFault? = none := by
      rw [← faultOf?_text s levels, h]
      rfl
    have hall := firstFault?_eq_none_iff.mp hnone
    refine ⟨fun g => (hall g).choose, fun g => (hall g).choose_spec, ?_⟩
    rw [outcome_of_segments levels fun g => (hall g).choose_spec] at h
    exact (Except.ok.inj h).symm
  · rintro ⟨parts, hparts, rfl⟩
    exact outcome_of_segments levels hparts

/-- Under the standard settings a SELECT fails with the fault of its first refused option, if
one is refused, and else is the concatenation of its segments, each of which depends on its
own options alone and is empty exactly where these have nothing to write. Two SELECTs that
differ in one option differ in the segments of that option at most. -/
theorem select_assembly (s : Select) (levels : Log.Levels) :
    faultOf? (s.text.outcome { levels }) = s.firstFault? ∧
      (s.firstFault? = none ↔ ∀ g, ∃ t, s.segment g = .ok t) ∧
      (∀ t, s.text.outcome { levels } = .ok t ↔ ∃ parts, s.Assembled parts t) ∧
      (∀ g, s.segment g = .ok "" ↔ s.RendersNothing g) ∧
      (s.recursiveCte.isGiven = true → ∀ table,
        { s with table }.text.outcome { levels } = s.text.outcome { levels }) ∧
      ∀ name v s', s.set? name v = some s' →
        (∀ g, name ∉ g.options → s'.segment g = s.segment g) ∧
        ∀ parts parts' t t', s.Assembled parts t → s'.Assembled parts' t' →
          ∀ g, name ∉ g.options → parts' g = parts g := by
  refine ⟨faultOf?_text s levels, firstFault?_eq_none_iff, fun t => outcome_eq_ok_iff,
    segment_eq_empty_iff s, fun h table => outcome_of_relation h table levels, ?_⟩
  intro name v s' hset
  refine ⟨fun g hg => segment_of_set? hset hg, ?_⟩
  intro parts parts' t t' h h' g hg
  have hsame := segment_of_set? hset hg
  rw [h.segment g, h'.segment g] at hsame
  exact Except.ok.inj hsame

/-- A SELECT with a value under every option, two of which render nothing. -/
def everyOption : Select where
  table := .text "ignored"
  columns := .list [.text "a"]
  distinct := .bool true
  subQueries := .list [.text "q"]
  aggregates := .list [.mapping [(.text "MIN", .text "b"), (.text "alias", .text "m")]]
  joins := .list [.mapping [(.text "u", .text "x"), (.text "on", .text "c")]]
  condition := .text "w"
  grouping := .mapping [(.text "u", .text "no list")]
  having := .text "h "
  ordering := .mapping [(.text "a", .text "no code")]
  paging := .mapping [(.text "limit", .int 0), (.text "skip", .null)]
  recursiveCte := .mapping [(.text "baseCase", .text "b"), (.text "recursiveCase", .text "r"),
    (.text "alias", .text "t")]

/-- Every option leaves its trace in its own place or none at all. -/
theorem select_assembly_everyOption :
    ∃ parts, everyOption.Assembled parts
      ("WITH RECURSIVE t AS (b UNION ALL r) SELECT DISTINCT a, (q), MIN(b) AS m FROM t " ++
        "JOIN u ON c WHERE w HAVING h") :=
  ((select_assembly everyOption {}).2.2.1 _).mp (eq_ok_of_toOption (by decide +kernel))

end Select

end SqlText
