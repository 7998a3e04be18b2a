import SqlText.Clause.Columns
import SqlText.Proofs.ItemLists

/-!
# Items of columns — what a list of columns and a grouping are written from

    {"u": ["id", "name"], "v": 5, "extra": "NOW()"}   u.id, u.name, NOW()

Columns are names in a row, or a mapping from aliases to such rows in which `extra` holds a text
or a row of texts that belong to no alias. Each name under an alias makes an item with the alias
before it, every other name or text makes an item as it stands, and an entry that holds no row
makes none. The list of columns is the row of these items, and a grouping is the same row after
its words, so a row of texts that have no comma gives all of them back.

Empty texts are the exception. An `extra` that holds no more than an empty text makes no item; an
empty name in a row, and an empty text among others under `extra`, is an item like the others. It
leaves the row with a comma at its beginning or with nothing between two of its commas, and where
it is the only item the grouping has its words alone.

* **`listText_listing`**, **`groupText_listing`**: both clauses as rows of the items that show.
* **`column_items_read_back`**: the items are read back where no text is empty.
* **`tidy_iff_no_gap`**: what empty texts do to both clauses.
-/

namespace SqlText

/-- Texts are put together, whichever they are. -/
theorem joinTexts_texts (sep : String) (ts : List String) :
    joinTexts sep (ts.map .text) = .ok (sep.intercalate ts) := by
  have hall : ∀ (ts : List String) (index : Nat), textsFrom index (ts.map .text) = .ok ts := by
    intro ts
    induction ts with
    | nil => exact fun _ => rfl
    | cons t ts ih =>
        intro index
        rw [List.map_cons, textsFrom, ih]
        rfl
  rw [joinTexts, hall]
  rfl

namespace Columns

/-! ## Columns and their items -/

/-- Texts in a row. -/
inductive Row where
  | list (ts : List String)
  | tuple (ts : List String)

namespace Row

def texts : Row → List String
  | list ts  => ts
  | tuple ts => ts

/-- The row as a value. -/
def value : Row → Value
  | list ts  => .list (ts.map .text)
  | tuple ts => .tuple (ts.map .text)

theorem sequence?_value (r : Row) : r.value.sequence? = some (r.texts.map .text) := by
  cases r <;> rfl

end Row

/-- An entry of a mapping: an alias with a row of names, what stands under the key that is no
alias, or a key with anything but a row. -/
inductive Entry where
  | table (label : String) (r : Row) (other : label ≠ extraKey)
  | extraText (t : String)
  | extraRow (r : Row)
  | unfit (label : String) (value : Value) (other : label ≠ extraKey)
      (noRow : value.sequence? = none)

namespace Entry

/-- The entry of the mapping. -/
def pair : Entry → Value × Value
  | table label r _       => (.text label, r.value)
  | extraText t           => (.text extraKey, .text t)
  | extraRow r            => (.text extraKey, r.value)
  | unfit label value _ _ => (.text label, value)

/-- The items of an entry. -/
def items : Entry → List String
  | table label r _ => r.texts.map fun name => label ++ "." ++ name
  | extraText t     => [t]
  | extraRow r      => r.texts
  | unfit ..        => []

/-- The texts that the items of an entry are made of. -/
def texts : Entry → List String
  | table label r _ => label :: r.texts
  | extraText t     => [t]
  | extraRow r      => r.texts
  | unfit ..        => []

/-- The items of an entry that show: an empty text that is the only one does not. -/
def shown (e : Entry) : List String := if e.items = [""] then [] else e.items

end Entry

/-- Columns: names in a row, or a mapping. -/
inductive Listing where
  | row (r : Row)
  | tables (entries : List Entry)

namespace Listing

/-- The columns as a value. -/
def value : Listing → Value
  | row r          => r.value
  | tables entries => .mapping (entries.map Entry.pair)

/-- The items of the columns, in their order. -/
def items : Listing → List String
  | row r          => r.texts
  | tables entries => entries.flatMap Entry.items

/-- The items of the columns that show. -/
def shown : Listing → List String
  | row r          => r.texts
  | tables entries => entries.flatMap Entry.shown

/-- The texts that the items of the columns are made of. -/
def texts : Listing → List String
  | row r          => r.texts
  | tables entries => entries.flatMap Entry.texts

end Listing

/-! ## Reading -/

theorem displays_texts (ts : List String) : displays (ts.map .text) = .tuple (ts.map .text) := by
  rw [displays, List.map_map]
  rfl

namespace Entry

/-- The group that an entry is read as. -/
def group? : Entry → Option ColumnGroup
  | table label r _ => some ⟨.text label, .tuple (r.texts.map .text)⟩
  | extraText t     => some ⟨.null, .tuple [.text t]⟩
  | extraRow r      => some ⟨.null, .tuple (r.texts.map .text)⟩
  | unfit ..        => none

/-- The items of an entry, in the groups in which they are put together first: those under
`extra` make one. -/
def groups : Entry → List (List String)
  | table label r other => (table label r other).items.map fun item => [item]
  | extraText t         => [[t]]
  | extraRow r          => [r.texts]
  | unfit ..            => []

/-- The key of an alias is not the one of `extra`. -/
theorem isText_extraKey {label : String} (h : label ≠ extraKey) :
    (Value.text label).isText extraKey = false := by
  simpa [Value.isText] using h

/-- An entry is read as its group. -/
theorem groupOf_pair (e : Entry) (c : Context) :
    (groupOf e.pair.1 e.pair.2).outcome c = .ok e.group? := by
  cases e with
  | table label r other =>
      show (groupOf (.text label) r.value).outcome c = _
      rw [groupOf, isText_extraKey other, if_neg Bool.false_ne_true, r.sequence?_value]
      show Except.ok (some (ColumnGroup.mk _ (displays _))) = _
      rw [displays_texts]
      rfl
  | extraText t => rfl
  | extraRow r =>
      have hgroup : extraGroup r.value = .ok ⟨.null, .tuple (r.texts.map .text)⟩ := by
        rw [← displays_texts]
        cases r <;> rfl
      show (groupOf (.text extraKey) r.value).outcome c = _
      rw [groupOf, if_pos (by rfl), hgroup]
      rfl
  | unfit label value other noRow =>
      show (groupOf (.text label) value).outcome c = _
      rw [groupOf, isText_extraKey other, if_neg Bool.false_ne_true, noRow]
      rfl

end Entry

/-- What belongs to no alias is put together before anything else. -/
theorem groupPieces_extra (ts : List String) :
    groupPieces (.columnGroup ⟨.null, .tuple (ts.map .text)⟩) = .ok [", ".intercalate ts] := by
  have hjoin : (Value.tuple (ts.map .text)).joinItems ", " = .ok (", ".intercalate ts) :=
    joinTexts_texts ", " ts
  show ((Value.tuple (ts.map .text)).joinItems ", " >>= _) = _
  rw [hjoin]
  rfl

/-! ## Mappings -/

section Mappings

variable {ι : Type} {pair : ι → Value × Value} {group? : ι → Option ColumnGroup}
  {texts : ι → List String} {entries : List ι} {c : Context}

/-- Entries are read as their groups. -/
theorem groupsOf_map
    (hread : ∀ i ∈ entries, (groupOf (pair i).1 (pair i).2).outcome c = .ok (group? i)) :
    (groupsOf (entries.map pair)).outcome c = .ok (entries.filterMap group?) := by
  have hgroups : ((entries.map pair).mapM fun p => groupOf p.1 p.2).outcome c =
      .ok (entries.map group?) := by
    rw [Build.outcome_mapM, List.mapM_map]
    exact mapM_eq_ok_map hread
  rw [groupsOf, Build.outcome_bind, hgroups, ok_bind, Build.outcome_pure, List.filterMap_map]
  rfl

/-- The groups of entries are written as the texts of one entry after the other, those that are
empty left out. -/
theorem groupPieces_filterMap
    (hsome : ∀ i ∈ entries, ∀ g, group? i = some g →
      ∃ ps, groupPieces (.columnGroup g) = .ok ps ∧ ps.filter (· ≠ "") = texts i)
    (hnone : ∀ i ∈ entries, group? i = none → texts i = []) :
    ∃ pieces, ((entries.filterMap group?).map Value.columnGroup).mapM groupPieces = .ok pieces ∧
      pieces.flatten.filter (· ≠ "") = entries.flatMap texts := by
  induction entries with
  | nil => exact ⟨[], rfl, rfl⟩
  | cons i entries ih =>
      obtain ⟨hi, hentries⟩ := List.forall_mem_cons.mp hsome
      obtain ⟨hi', hentries'⟩ := List.forall_mem_cons.mp hnone
      obtain ⟨pieces, hread, hfilter⟩ := ih hentries hentries'
      rw [List.flatMap_cons, ← hfilter]
      cases hgroup : group? i with
      | none =>
          rw [List.filterMap_cons_none hgroup, hi' hgroup]
          exact ⟨pieces, hread, rfl⟩
      | some g =>
          obtain ⟨ps, hps, htexts⟩ := hi g hgroup
          refine ⟨ps :: pieces, ?_, by rw [List.flatten_cons, List.filter_append, htexts]⟩
          rw [List.filterMap_cons_some hgroup, List.map_cons, List.mapM_cons, hps, ok_bind, hread]
          rfl

/-- A mapping is read as the texts of its entries. -/
theorem pieces_mapping
    (hread : ∀ i ∈ entries, (groupOf (pair i).1 (pair i).2).outcome c = .ok (group? i))
    (hsome : ∀ i ∈ entries, ∀ g, group? i = some g →
      ∃ ps, groupPieces (.columnGroup g) = .ok ps ∧ ps.filter (· ≠ "") = texts i)
    (hnone : ∀ i ∈ entries, group? i = none → texts i = []) :
    ((ofValue? (.mapping (entries.map pair))).outcome c >>= piecesOf?) =
      .ok ((entries.flatMap texts).map .text) := by
  obtain ⟨pieces, hpieces, hfilter⟩ := groupPieces_filterMap hsome hnone
  rw [← hfilter]
  cases entries with
  | nil =>
      rw [← Except.ok.inj hpieces]
      rfl
  | cons i entries =>
      show ((groupsOf ((i :: entries).map pair) >>= fun gs =>
        Pure.pure (some (Columns.tables (.tuple (gs.map .columnGroup))))).outcome c
          >>= piecesOf?) = _
      rw [Build.outcome_bind, groupsOf_map hread, ok_bind]
      show ((((i :: entries).filterMap group?).map Value.columnGroup).mapM groupPieces >>=
        fun ps => Except.ok ((ps.flatten.filter (· ≠ "")).map Value.text)) = _
      rw [hpieces]
      rfl

end Mappings

/-- Columns that are read as texts are written as the row of these. -/
theorem listText_of_pieces {v : Value} {ts : List String} {c : Context}
    (h : ((ofValue? v).outcome c >>= piecesOf?) = .ok (ts.map .text)) :
    (listText v).outcome c = .ok (", ".intercalate ts) := by
  obtain ⟨columns, hcolumns, hpieces⟩ := bind_eq_ok_iff.mp h
  rw [listText, Build.outcome_bind, hcolumns, ok_bind, Build.outcome_bind, Build.outcome_liftM,
    hpieces, ok_bind, Build.outcome_liftM, joinTexts_texts]

/-- They are written after the words of a grouping, if there are any. -/
theorem groupText_of_pieces {v : Value} {ts : List String} {c : Context}
    (h : ((ofValue? v).outcome c >>= piecesOf?) = .ok (ts.map .text)) :
    (groupText v).outcome c =
      .ok (if ts = [] then "" else " GROUP BY " ++ ", ".intercalate ts) := by
  obtain ⟨columns, hcolumns, hpieces⟩ := bind_eq_ok_iff.mp h
  rw [groupText, Build.outcome_bind, hcolumns, ok_bind, Build.outcome_bind, Build.outcome_liftM,
    hpieces, ok_bind]
  cases ts with
  | nil => rfl
  | cons t ts =>
      rw [if_neg (List.cons_ne_nil t ts)]
      show (Build.lift (joinTexts ", " ((t :: ts).map .text)) >>= _).outcome c = _
      rw [Build.outcome_bind, Build.outcome_lift, joinTexts_texts]
      rfl

namespace Entry

/-- The group of an entry is written as the texts of its groups of items. -/
theorem groupPieces_group {e : Entry} {g : ColumnGroup} (h : e.group? = some g) :
    groupPieces (.columnGroup g) = .ok (e.groups.map ", ".intercalate) := by
  cases e with
  | table label r other =>
      obtain rfl := Option.some.inj h
      show Except.ok ((r.texts.map Value.text).map fun c => label ++ "." ++ c.display) = _
      rw [groups, items, List.map_map, List.map_map, List.map_map]
      refine congrArg Except.ok (List.map_congr_left fun name _ => ?_)
      exact (String.intercalate_singleton (s := ", ")).symm
  | extraText t =>
      obtain rfl := Option.some.inj h
      exact groupPieces_extra [t]
  | extraRow r =>
      obtain rfl := Option.some.inj h
      exact groupPieces_extra r.texts
  | unfit label value other noRow => exact nomatch h

/-- An entry without a group has no items. -/
theorem groups_of_group?_eq_none {e : Entry} (h : e.group? = none) : e.groups = [] := by
  cases e with
  | unfit label value other noRow => rfl
  | _ => exact nomatch h

/-! ## Items that show -/

/-- No item under an alias is empty. -/
theorem table_items_ne_empty {label : String} {r : Row} {other : label ≠ extraKey} :
    ∀ item ∈ (table label r other).items, item ≠ "" := by
  intro item hitem hempty
  obtain ⟨name, -, rfl⟩ := List.mem_map.mp hitem
  have hdot := (String.append_eq_empty_iff.mp (String.append_eq_empty_iff.mp hempty).1).2
  exact absurd hdot (by decide)

/-- Every item shows where none is empty. -/
theorem shown_eq_items {e : Entry} (h : ∀ item ∈ e.items, item ≠ "") : e.shown = e.items := by
  rw [shown, if_neg]
  intro hempty
  have hmem : "" ∈ e.items := by
    rw [hempty]
    exact List.mem_singleton_self ""
  exact h "" hmem rfl

/-- The items that show are those of the groups whose text is not empty. -/
theorem flatten_filledGroups (e : Entry) : (filledGroups ", " e.groups).flatten = e.shown := by
  have hextra : (filledGroups ", " [e.items]).flatten = e.shown := by
    rw [shown, filledGroups]
    -- a row is empty without an item, and where its only item is
    by_cases hempty : ", ".intercalate e.items = ""
    · rw [List.filter_cons_of_neg (by simpa using hempty)]
      rcases (intercalate_eq_empty_iff (by decide)).mp hempty with h | h
      · rw [h]
        rfl
      · rw [h]
        rfl
    · rw [List.filter_cons_of_pos (by simpa using hempty), if_neg]
      · simp
      · exact fun h => hempty (by rw [h]; rfl)
  cases e with
  | table label r other =>
      have hgroups : ∀ ts ∈ (table label r other).groups, ∀ t ∈ ts, t ≠ "" := by
        intro ts hts
        obtain ⟨item, hitem, rfl⟩ := List.mem_map.mp hts
        exact List.forall_mem_singleton.mpr (table_items_ne_empty item hitem)
      rw [SqlText.flatten_filledGroups hgroups, groups, ← List.flatMap_def,
        List.flatMap_singleton', shown_eq_items table_items_ne_empty]
  | unfit label value other noRow => rfl
  | _ => exact hextra

end Entry

/-! ## Both clauses -/

namespace Listing

/-- The texts that the columns are put together from. -/
def written : Listing → List String
  | row r          => r.texts
  | tables entries => groupTexts ", " (entries.flatMap Entry.groups)

theorem flatten_filledGroups (entries : List Entry) :
    (filledGroups ", " (entries.flatMap Entry.groups)).flatten = (tables entries).shown := by
  rw [filledGroups, List.filter_flatMap, List.flatMap_def, List.flatten_flatten, List.map_map,
    ← List.flatMap_def]
  exact congrArg (entries.flatMap ·) (funext Entry.flatten_filledGroups)

/-- Whatever is put together first, the row is that of the items that show. -/
theorem intercalate_written (l : Listing) :
    ", ".intercalate l.written = ", ".intercalate l.shown := by
  cases l with
  | row r => rfl
  | tables entries => rw [written, intercalate_groupTexts, flatten_filledGroups]

theorem written_eq_nil_iff (l : Listing) : l.written = [] ↔ l.shown = [] := by
  cases l with
  | row r => rfl
  | tables entries => rw [written, groupTexts_eq_nil_iff, flatten_filledGroups]

/-- Columns are read as the texts that they are put together from. -/
theorem pieces_value (l : Listing) (c : Context) :
    ((ofValue? l.value).outcome c >>= piecesOf?) = .ok (l.written.map .text) := by
  cases l with
  | row r =>
      have hnames : ∀ t ts, piecesOf? (some (.names (displays ((t :: ts).map .text)))) =
          .ok ((t :: ts).map .text) := by
        intro t ts
        rw [displays_texts]
        rfl
      cases r with
      | list ts => cases ts with
          | nil => rfl
          | cons t ts => exact hnames t ts
      | tuple ts => cases ts with
          | nil => rfl
          | cons t ts => exact hnames t ts
  | tables entries =>
      rw [written, groupTexts, List.map_flatMap, List.filter_flatMap]
      exact pieces_mapping (fun e _ => e.groupOf_pair c)
        (fun e _ g hgroup => ⟨_, e.groupPieces_group hgroup, rfl⟩)
        fun e _ hnone => by rw [Entry.groups_of_group?_eq_none hnone]; rfl

end Listing

/-- The list of columns is the row of the items that show. -/
theorem listText_listing (l : Listing) (c : Context) :
    (listText l.value).outcome c = .ok (", ".intercalate l.shown) := by
  rw [listText_of_pieces (l.pieces_value c), l.intercalate_written]

/-- A grouping is the same row after its words, and nothing without an item that shows. -/
theorem groupText_listing (l : Listing) (c : Context) :
    (groupText l.value).outcome c =
      .ok (if l.shown = [] then "" else " GROUP BY " ++ ", ".intercalate l.shown) := by
  rw [groupText_of_pieces (l.pieces_value c), l.intercalate_written]
  simp only [l.written_eq_nil_iff]

/-- A grouping is empty exactly where there is no item. -/
theorem grouping_eq_empty_iff {ts : List String} {t : String} :
    (if ts = [] then "" else " GROUP BY " ++ t) = "" ↔ ts = [] := by
  by_cases hts : ts = []
  · rw [if_pos hts]
    exact iff_of_true rfl hts
  · rw [if_neg hts]
    exact iff_of_false (fun h => absurd (String.append_eq_empty_iff.mp h).1 (by decide)) hts

/-! ## Items without commas -/

/-- The items of an entry have no comma where its texts have none. -/
theorem Entry.items_uncut {e : Entry} (h : ∀ t ∈ e.texts, ',' ∉ t.toList) :
    ∀ item ∈ e.items, ',' ∉ item.toList := by
  cases e with
  | table label r other =>
      obtain ⟨hlabel, hnames⟩ := List.forall_mem_cons.mp h
      intro item hitem
      obtain ⟨name, hname, rfl⟩ := List.mem_map.mp hitem
      simp [String.toList_append, hlabel, hnames name hname]
  | _ => exact h

namespace Listing

theorem items_uncut {l : Listing} (h : ∀ t ∈ l.texts, ',' ∉ t.toList) :
    ∀ item ∈ l.items, ',' ∉ item.toList := by
  cases l with
  | row r => exact h
  | tables entries =>
      intro item hitem
      obtain ⟨e, he, hitem⟩ := List.mem_flatMap.mp hitem
      exact e.items_uncut (fun t ht => h t (List.mem_flatMap.mpr ⟨e, he, ht⟩)) item hitem

/-- What shows is an item. -/
theorem shown_subset (l : Listing) : l.shown ⊆ l.items := by
  cases l with
  | row r => exact List.Subset.refl _
  | tables entries =>
      intro item hitem
      obtain ⟨e, he, hitem⟩ := List.mem_flatMap.mp hitem
      refine List.mem_flatMap.mpr ⟨e, he, ?_⟩
      rw [Entry.shown] at hitem
      split at hitem
      · exact nomatch hitem
      · exact hitem

/-- No item is empty where no text is. -/
theorem items_ne_empty {l : Listing} (h : ∀ t ∈ l.texts, t ≠ "") : ∀ item ∈ l.items, item ≠ "" := by
  cases l with
  | row r => exact h
  | tables entries =>
      intro item hitem
      obtain ⟨e, he, hitem⟩ := List.mem_flatMap.mp hitem
      have htexts : ∀ t ∈ e.texts, t ≠ "" := fun t ht => h t (List.mem_flatMap.mpr ⟨e, he, ht⟩)
      cases e with
      | table label r other => exact Entry.table_items_ne_empty item hitem
      | _ => exact htexts item hitem

theorem shown_eq_items {l : Listing} (h : ∀ item ∈ l.items, item ≠ "") : l.shown = l.items := by
  cases l with
  | row r => rfl
  | tables entries =>
      refine List.flatMap_congr fun e he => Entry.shown_eq_items fun item hitem => ?_
      exact h item (List.mem_flatMap.mpr ⟨e, he, hitem⟩)

end Listing

/-! ## Reading the items back -/

/-- Columns whose texts have no comma and are not empty: the list of columns is empty where there
is no item, and is else the row that the items are read back from, without a comma at either end.
A grouping is the same row after its words, and empty where there is no item. -/
theorem column_items_read_back (c : Context) (l : Listing)
    (h : ∀ t ∈ l.texts, t ≠ "" ∧ ',' ∉ t.toList) :
    ∃ t g, (listText l.value).outcome c = .ok t ∧ (groupText l.value).outcome c = .ok g ∧
      (t = "" ↔ l.items = []) ∧
      (l.items ≠ [] → splitRow t = l.items ∧
        t.toList.head? ≠ some ',' ∧ t.toList.getLast? ≠ some ',') ∧
      (g = "" ↔ l.items = []) ∧
      (l.items ≠ [] → g = " GROUP BY " ++ t) := by
  have hne : ∀ item ∈ l.items, item ≠ "" := Listing.items_ne_empty fun t ht => (h t ht).1
  have huncut : ∀ item ∈ l.items, ',' ∉ item.toList := Listing.items_uncut fun t ht => (h t ht).2
  have hshown := Listing.shown_eq_items hne
  have hnot : "" ∉ l.items := fun hmem => hne "" hmem rfl
  refine ⟨_, _, listText_listing l c, groupText_listing l c, ?_⟩
  rw [hshown]
  refine ⟨?_, fun hitems => ⟨splitRow_intercalate hitems huncut, ?_, getLast?_row_ne huncut⟩,
    ?_, fun hitems => if_neg hitems⟩
  · rw [intercalate_eq_empty_iff (by decide)]
    refine or_iff_left fun heq => hnot ?_
    rw [heq]
    exact List.mem_singleton_self ""
  · intro hhead
    obtain ⟨after, -, heq⟩ := (head?_row_iff huncut).mp hhead
    refine hnot ?_
    rw [heq]
    exact List.mem_cons_self
  · exact grouping_eq_empty_iff

/-- Two tables with a column in each that is written with care, one without columns, `extra` with
two texts, and an entry that holds no row. -/
def oddListing : Listing :=
  .tables [.table "a.b" (.list ["x y", "`né`"]) (by decide), .table "u" (.tuple []) (by decide),
    .unfit "v" (.int 5) (by decide) rfl, .extraRow (.list ["NOW()", "COUNT(*) AS \x22n\x22"]),
    .table "w" (.tuple ["id"]) (by decide)]

theorem column_items_read_back_odd :
    (∀ t ∈ oddListing.texts, t ≠ "" ∧ ',' ∉ t.toList) ∧
      ∃ t g, (listText oddListing.value).outcome {} = .ok t ∧
        (groupText oddListing.value).outcome {} = .ok g ∧
        splitRow t = ["a.b.x y", "a.b.`né`", "NOW()", "COUNT(*) AS \x22n\x22", "w.id"] ∧
        g = " GROUP BY " ++ t := by
  have htexts : ∀ t ∈ oddListing.texts, t ≠ "" ∧ ',' ∉ t.toList := by decide
  have hitems : oddListing.items ≠ [] := by decide
  obtain ⟨t, g, ht, hg, -, hread, -, hgroup⟩ := column_items_read_back {} oddListing htexts
  exact ⟨htexts, t, g, ht, hg, (hread hitems).1, hgroup hitems⟩

/-! ## Empty texts -/

/-- A list of columns and a grouping without an empty item: no comma at either end of the list,
no two commas with nothing or a blank between them, and no grouping of its words alone. -/
structure Tidy (columns grouping : String) : Prop where
  starts : columns.toList.head? ≠ some ','
  ends : columns.toList.getLast? ≠ some ','
  apart : ¬ [',', ','] <:+: columns.toList
  filled : ¬ [',', ' ', ','] <:+: columns.toList
  together : grouping = "" ↔ columns = ""

/-- An empty item which is not the last one of several. -/
def Gap (items : List String) : Prop :=
  ∃ before after, items = before ++ "" :: after ∧ (before = [] ∨ after ≠ [])

/-- A row and its grouping are tidy exactly where the row has no gap. -/
theorem tidy_row_iff {ts : List String} (h : ∀ t ∈ ts, ',' ∉ t.toList) :
    Tidy (", ".intercalate ts) (if ts = [] then "" else " GROUP BY " ++ ", ".intercalate ts) ↔
      ¬ Gap ts := by
  constructor
  · rintro tidy ⟨before, after, heq, hplace⟩
    by_cases hbefore : before = []
    · rw [hbefore, List.nil_append] at heq
      by_cases hafter : after = []
      · -- the only item: the list is empty, and the grouping is not
        rw [hafter] at heq
        have hempty : ", ".intercalate ts = "" :=
          (intercalate_eq_empty_iff (by decide)).mpr (.inr heq)
        rw [grouping_eq_empty_iff.mp (tidy.together.mpr hempty)] at heq
        exact nomatch heq
      · exact tidy.starts ((head?_row_iff h).mpr ⟨after, hafter, heq⟩)
    · exact tidy.filled
        ((gap_infix_row_iff h).mpr ⟨before, after, hbefore, hplace.resolve_left hbefore, heq⟩)
  · intro hgap
    constructor
    · intro hhead
      obtain ⟨after, -, heq⟩ := (head?_row_iff h).mp hhead
      exact hgap ⟨[], after, heq, .inl rfl⟩
    · exact getLast?_row_ne h
    · exact not_commas_infix_row h
    · intro hpiece
      obtain ⟨before, after, -, hafter, heq⟩ := (gap_infix_row_iff h).mp hpiece
      exact hgap ⟨before, after, heq, .inr hafter⟩
    · rw [grouping_eq_empty_iff, intercalate_eq_empty_iff (by decide)]
      exact (or_iff_left fun heq => hgap ⟨[], [], heq, .inl rfl⟩).symm

/-- Columns whose texts have no comma but may be empty: the list of columns is read back as the
items that show, and the list and the grouping are tidy exactly where no empty item stands among
these but at the end of several. -/
theorem tidy_iff_no_gap (c : Context) (l : Listing) (h : ∀ t ∈ l.texts, ',' ∉ t.toList) :
    ∃ t g, (listText l.value).outcome c = .ok t ∧ (groupText l.value).outcome c = .ok g ∧
      (l.shown ≠ [] → splitRow t = l.shown) ∧
      (Tidy t g ↔ ¬ Gap l.shown) := by
  have huncut : ∀ item ∈ l.shown, ',' ∉ item.toList :=
    fun item hitem => Listing.items_uncut h item (l.shown_subset hitem)
  exact ⟨_, _, listText_listing l c, groupText_listing l c,
    fun hshown => splitRow_intercalate hshown huncut, tidy_row_iff huncut⟩

/-- Two tables with an empty name in each, and an empty text under `extra`. -/
def hollowListing : Listing :=
  .tables [.extraText "", .table "u" (.list ["", "id"]) (by decide), .extraRow (.list [""]),
    .table "v" (.tuple [""]) (by decide)]

/-- An empty name under an alias makes an item that is not empty, and an empty text that is alone
under `extra` makes none. -/
theorem tidy_iff_no_gap_hollow :
    (∀ t ∈ hollowListing.texts, ',' ∉ t.toList) ∧ hollowListing.shown = ["u.", "u.id", "v."] ∧
      ∃ t g, (listText hollowListing.value).outcome {} = .ok t ∧
        (groupText hollowListing.value).outcome {} = .ok g ∧
        splitRow t = ["u.", "u.id", "v."] ∧ Tidy t g := by
  have htexts : ∀ t ∈ hollowListing.texts, ',' ∉ t.toList := by decide
  have hshown : hollowListing.shown = ["u.", "u.id", "v."] := by decide
  have hgap : ¬ Gap hollowListing.shown := by
    rintro ⟨before, after, heq, -⟩
    have hmem : "" ∈ hollowListing.shown := by
      rw [heq]
      exact List.mem_append_right before List.mem_cons_self
    rw [hshown] at hmem
    exact absurd hmem (by decide)
  obtain ⟨t, g, ht, hg, hread, htidy⟩ := tidy_iff_no_gap {} hollowListing htexts
  exact ⟨htexts, hshown, t, g, ht, hg, (hread (by decide)).trans hshown, htidy.mpr hgap⟩

/-- An empty name before another one, or an empty text before another one under `extra`, leaves a
comma at the beginning, one between two others leaves nothing between their commas, and a single
empty name leaves a grouping of its words alone. -/
theorem empty_names_leave_gaps :
    (listText (.list [.text "", .text "a"])).outcome {} = .ok ", a" ∧
      (listText (.mapping [(.text "extra", .list [.text "", .text "NOW()"])])).outcome {} =
        .ok ", NOW()" ∧
      (listText (.list [.text "a", .text "", .text "b"])).outcome {} = .ok "a, , b" ∧
      (listText (.list [.text ""])).outcome {} = .ok "" ∧
      (groupText (.list [.text ""])).outcome {} = .ok " GROUP BY " ∧
      ¬ ∀ l : Listing, (∀ t ∈ l.texts, ',' ∉ t.toList) →
        ∃ t g, (listText l.value).outcome {} = .ok t ∧ (groupText l.value).outcome {} = .ok g ∧
          Tidy t g := by
  have hfirst : (listText (.list [.text "", .text "a"])).outcome {} = .ok ", a" := rfl
  refine ⟨hfirst, rfl, rfl, rfl, rfl, fun h => ?_⟩
  obtain ⟨t, g, ht, -, tidy⟩ := h (.row (.list ["", "a"])) (by decide)
  have heq : ", a" = t := Except.ok.inj (hfirst.symm.trans ht)
  refine tidy.starts ?_
  rw [← heq]
  rfl

end Columns

end SqlText
