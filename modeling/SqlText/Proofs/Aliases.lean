import Mathlib.Algebra.Order.BigOperators.Group.List
import SqlText.Proofs.ColumnItems
import SqlText.Proofs.MappingEntries
import SqlText.Proofs.OrderingLeaves

/-!
# Aliases — which keys are written before what stands under them

    {"": ["a"]}     .a            {"": {"a": 1}}     ORDER BY a ASC
    {null: ["a"]}   a             {0: {"a": 1}}      ORDER BY a ASC

The keys of a mapping may be any values. In columns and in a grouping every key but `extra` is
an alias, and in an ordering every key that holds a mapping is; the names under an alias are
written with the alias and a point before them. Two encodings stand against it: a group of columns
without an alias has null in its place, and a key of an ordering without one has anything that
does not count as given. So null as an alias is lost in columns, and in an ordering every alias is
lost that does not count as given, the empty text and zero among them.

* **`Columns.listText_mapping`**, **`Columns.groupText_mapping`**, **`OrderBy.text_entries`**: the
  clauses of mappings with any keys.
* **`row_flatMap_eq_iff`**: rows that are the same item by item.
* **`aliases_kept_iff`**: the clauses with every alias, and where they differ from these.
* **`aliases_are_lost`**: aliases that are not written.
-/

namespace SqlText

/-! ## Rows of items -/

/-- A row after some words, and nothing without an item. -/
def headed (words : String) (ts : List String) : String :=
  if ts = [] then "" else words ++ ", ".intercalate ts

/-- The characters that items take up in a row, with a separator to each. -/
def width (ts : List String) : Nat := (ts.map fun t => t.length + 2).sum

theorem width_append (ts us : List String) : width (ts ++ us) = width ts + width us := by
  rw [width, List.map_append, List.sum_append]
  rfl

theorem width_flatMap {ι : Type} (f : ι → List String) (xs : List ι) :
    width (xs.flatMap f) = (xs.map fun i => width (f i)).sum := by
  induction xs with
  | nil => rfl
  | cons i xs ih => rw [List.flatMap_cons, width_append, ih, List.map_cons, List.sum_cons]

/-- Items that are not empty make a row that is not empty. -/
theorem row_eq_empty_iff {ts : List String} (h : "" ∉ ts) :
    ", ".intercalate ts = "" ↔ ts = [] := by
  rw [intercalate_eq_empty_iff (by decide)]
  refine or_iff_left fun heq => h ?_
  rw [heq]
  exact List.mem_singleton_self ""

/-- They take up as much as those of any other row that is the same. -/
theorem width_eq_of_row {ts us : List String} (hts : "" ∉ ts) (hus : "" ∉ us)
    (h : ", ".intercalate ts = ", ".intercalate us) : width ts = width us := by
  by_cases hnil : ts = []
  · rw [hnil, String.intercalate_nil, eq_comm, row_eq_empty_iff hus] at h
    rw [hnil, h]
  · have hnil' : us ≠ [] := by
      rwa [← row_eq_empty_iff hts, h, row_eq_empty_iff hus] at hnil
    have hlength := length_intercalate ", " hnil
    rw [h, length_intercalate ", " hnil'] at hlength
    exact hlength.symm

/-- Rows after the same words are the same exactly where the rows are. -/
theorem headed_eq_iff {words : String} {ts us : List String} (hts : "" ∉ ts) (hus : "" ∉ us) :
    headed words ts = headed words us ↔ ", ".intercalate ts = ", ".intercalate us := by
  rw [headed, headed]
  by_cases hnil : ts = [] <;> by_cases hnil' : us = []
  · exact iff_of_true (by rw [hnil, hnil']) (by rw [hnil, hnil'])
  · rw [if_pos hnil, if_neg hnil', hnil, String.intercalate_nil]
    refine iff_of_false (fun h => ?_) fun h => hnil' ((row_eq_empty_iff hus).mp h.symm)
    exact hnil' ((row_eq_empty_iff hus).mp (String.append_eq_empty_iff.mp h.symm).2)
  · rw [if_neg hnil, if_pos hnil', hnil', String.intercalate_nil]
    refine iff_of_false (fun h => ?_) fun h => hnil ((row_eq_empty_iff hts).mp h)
    exact hnil ((row_eq_empty_iff hts).mp (String.append_eq_empty_iff.mp h).2)
  · rw [if_neg hnil, if_neg hnil', String.append_right_inj]

theorem empty_not_mem_flatMap {ι : Type} {f : ι → List String} (h : ∀ i, "" ∉ f i)
    (xs : List ι) : "" ∉ xs.flatMap f := by
  rw [List.mem_flatMap]
  rintro ⟨i, -, hmem⟩
  exact h i hmem

/-- Rows of several parts are the same exactly where every part is, if a part that differs takes
up less in one of them. -/
theorem row_flatMap_eq_iff {ι : Type} {f g : ι → List String} {Kept : ι → Prop} {xs : List ι}
    (hf : ∀ i, "" ∉ f i) (hg : ∀ i, "" ∉ g i) (hkept : ∀ i, Kept i → f i = g i)
    (hlost : ∀ i, ¬ Kept i → width (f i) < width (g i)) :
    ", ".intercalate (xs.flatMap f) = ", ".intercalate (xs.flatMap g) ↔ ∀ i ∈ xs, Kept i := by
  constructor
  · intro h
    have hwidth := width_eq_of_row (empty_not_mem_flatMap hf xs) (empty_not_mem_flatMap hg xs) h
    rw [width_flatMap, width_flatMap] at hwidth
    by_contra hnot
    simp only [not_forall] at hnot
    obtain ⟨i, hi, hki⟩ := hnot
    -- one part is narrower and no part is wider, so that the rows cannot be the same
    have hle : ∀ i ∈ xs, width (f i) ≤ width (g i) := by
      intro i _
      by_cases hk : Kept i
      · rw [hkept i hk]
      · exact (hlost i hk).le
    exact (List.sum_lt_sum _ _ hle ⟨i, hi, hlost i hki⟩).ne hwidth
  · intro h
    rw [List.flatMap_congr fun i hi => hkept i (h i hi)]

/-! ## Columns -/

namespace Columns

/-- The texts of a row, none where a value is no row. -/
def rowTexts (v : Value) : List String := (v.sequence?.getD []).map Value.display

/-- The texts under `extra`: a text alone, or those of a row. -/
def extraTexts : Value → List String
  | .text s => [s]
  | v       => rowTexts v

/-- Texts as one item that has no alias, and none where it would be empty. -/
def verbatim (ts : List String) : List String := [", ".intercalate ts].filter (· ≠ "")

/-- Names with a key before each. -/
def qualified (key : Value) (ts : List String) : List String :=
  ts.map fun t => key.display ++ "." ++ t

/-- The items of an entry where every key but `extra` is an alias. -/
def stated (e : Value × Value) : List String :=
  if e.1.isText extraKey then verbatim (extraTexts e.2) else qualified e.1 (rowTexts e.2)

/-- The items of an entry as they are written: null is no alias. -/
def written (e : Value × Value) : List String :=
  match e.1 with
  | .null => verbatim (rowTexts e.2)
  | _     => stated e

/-- Under `extra` there is a text or a row, if there is anything. -/
def ExtraFits (es : List (Value × Value)) : Prop :=
  ∀ v, (.text extraKey, v) ∈ es → (∃ s, v = .text s) ∨ ∃ vs, v.sequence? = some vs

/-- An entry whose alias is written, or has nothing to be written before. -/
def Kept (e : Value × Value) : Prop := e.1 = .null → rowTexts e.2 = []

/-- The group that an entry is read as. -/
def groupAt? (e : Value × Value) : Option ColumnGroup :=
  if e.1.isText extraKey then some ⟨.null, .tuple ((extraTexts e.2).map .text)⟩
  else e.2.sequence?.map fun vs => ⟨e.1, displays vs⟩

variable {es : List (Value × Value)} {c : Context}

theorem displays_eq (vs : List Value) :
    displays vs = .tuple ((vs.map Value.display).map .text) := by
  rw [displays, List.map_map]
  rfl

/-- A row under `extra` is read as a group without an alias. -/
theorem extra_of_sequence? {v : Value} {vs : List Value} (h : v.sequence? = some vs) :
    extraGroup v = .ok ⟨.null, displays vs⟩ ∧ extraTexts v = vs.map Value.display := by
  cases v with
  | list us =>
      cases h
      exact ⟨rfl, rfl⟩
  | tuple us =>
      cases h
      exact ⟨rfl, rfl⟩
  | _ => cases h

/-- An entry is read as its group. -/
theorem groupOf_outcome (h : ExtraFits es) :
    ∀ e ∈ es, (groupOf e.1 e.2).outcome c = .ok (groupAt? e) := by
  rintro ⟨k, v⟩ he
  rw [groupOf, groupAt?]
  by_cases hkey : k.isText extraKey = true
  · rw [if_pos hkey, if_pos hkey]
    obtain rfl := isText_iff.mp hkey
    rcases h v he with ⟨s, rfl⟩ | ⟨vs, hvs⟩
    · rfl
    · obtain ⟨hgroup, htexts⟩ := extra_of_sequence? hvs
      rw [hgroup, htexts, displays_eq]
      rfl
  · rw [if_neg hkey, if_neg hkey]
    dsimp only
    cases v.sequence? <;> rfl

/-- A group with an alias is written with it before every name. -/
theorem groupPieces_alias {k : Value} (hk : k ≠ .null) (ts : List String) :
    groupPieces (.columnGroup ⟨k, .tuple (ts.map .text)⟩) = .ok (qualified k ts) := by
  have hdisplay : (ts.map Value.text).map (fun c => k.display ++ "." ++ c.display) =
      qualified k ts := by
    rw [List.map_map]
    rfl
  rw [← hdisplay]
  cases k with
  | null => exact absurd rfl hk
  | _ => rfl

theorem rowTexts_of_sequence? {v : Value} {vs : List Value} (h : v.sequence? = some vs) :
    rowTexts v = vs.map Value.display := by
  rw [rowTexts, h]
  rfl

theorem written_eq_stated {e : Value × Value} (h : e.1 ≠ .null) : written e = stated e := by
  obtain ⟨k, v⟩ := e
  cases k with
  | null => exact absurd rfl h
  | _ => rfl

theorem qualified_ne_empty (k : Value) (ts : List String) : "" ∉ qualified k ts := by
  intro h
  obtain ⟨t, -, heq⟩ := List.mem_map.mp h
  have hdot := (String.append_eq_empty_iff.mp (String.append_eq_empty_iff.mp heq).1).2
  exact absurd hdot (by decide)

theorem verbatim_ne_empty (ts : List String) : "" ∉ verbatim ts := by
  intro h
  exact absurd rfl (of_decide_eq_true (List.mem_filter.mp h).2)

theorem stated_ne_empty (e : Value × Value) : "" ∉ stated e := by
  rw [stated]
  split
  · exact verbatim_ne_empty _
  · exact qualified_ne_empty _ _

theorem written_ne_empty (e : Value × Value) : "" ∉ written e := by
  rw [written]
  split
  · exact verbatim_ne_empty _
  · exact stated_ne_empty e

/-- The group of an entry is written as its items, those that are empty left out. -/
theorem groupPieces_groupAt? {e : Value × Value} {g : ColumnGroup} (h : groupAt? e = some g) :
    ∃ ps, groupPieces (.columnGroup g) = .ok ps ∧ ps.filter (· ≠ "") = written e := by
  obtain ⟨k, v⟩ := e
  rw [groupAt?] at h
  by_cases hkey : k.isText extraKey = true
  · rw [if_pos hkey] at h
    obtain rfl := isText_iff.mp hkey
    rw [← Option.some.inj h]
    exact ⟨_, groupPieces_extra _, rfl⟩
  · rw [if_neg hkey] at h
    obtain ⟨vs, hvs, rfl⟩ := Option.map_eq_some_iff.mp h
    rw [displays_eq, ← rowTexts_of_sequence? hvs]
    -- a group under null is not told from one under `extra`
    by_cases hnull : k = .null
    · rw [hnull]
      exact ⟨_, groupPieces_extra _, rfl⟩
    · refine ⟨_, groupPieces_alias hnull _, ?_⟩
      rw [written_eq_stated hnull, stated, if_neg hkey, List.filter_eq_self]
      exact fun t ht => decide_eq_true fun hempty => qualified_ne_empty _ _ (hempty ▸ ht)

theorem written_of_groupAt?_eq_none {e : Value × Value} (h : groupAt? e = none) :
    written e = [] := by
  obtain ⟨k, v⟩ := e
  rw [groupAt?] at h
  by_cases hkey : k.isText extraKey = true
  · rw [if_pos hkey] at h
    exact nomatch h
  · rw [if_neg hkey, Option.map_eq_none_iff] at h
    have htexts : rowTexts v = [] := by
      rw [rowTexts, h]
      rfl
    by_cases hnull : k = .null
    · rw [hnull, written, htexts]
      rfl
    · rw [written_eq_stated hnull, stated, if_neg hkey, htexts]
      rfl

/-- A mapping is read as the items of its entries. -/
theorem pieces_entries (h : ExtraFits es) (c : Context) :
    ((ofValue? (.mapping es)).outcome c >>= piecesOf?) =
      .ok ((es.flatMap written).map .text) := by
  have hpieces : ((ofValue? (.mapping (es.map id))).outcome c >>= piecesOf?) =
      .ok ((es.flatMap written).map .text) :=
    pieces_mapping (groupOf_outcome h) (fun e _ g hg => groupPieces_groupAt? hg)
      fun e _ hnone => written_of_groupAt?_eq_none hnone
  rwa [List.map_id] at hpieces

/-- A mapping is written as the row of its items. -/
theorem listText_mapping (h : ExtraFits es) (c : Context) :
    (listText (.mapping es)).outcome c = .ok (", ".intercalate (es.flatMap written)) :=
  listText_of_pieces (pieces_entries h c)

/-- As a grouping it is written as the same row after its words. -/
theorem groupText_mapping (h : ExtraFits es) (c : Context) :
    (groupText (.mapping es)).outcome c = .ok (headed " GROUP BY " (es.flatMap written)) :=
  groupText_of_pieces (pieces_entries h c)

theorem width_verbatim_le (ts : List String) : width (verbatim ts) ≤ width ts := by
  rw [verbatim]
  by_cases hempty : ", ".intercalate ts = ""
  · rw [List.filter_cons_of_neg (by simpa using hempty)]
    exact Nat.zero_le _
  · have hne : ts ≠ [] := by
      rintro rfl
      exact hempty String.intercalate_nil
    rw [List.filter_cons_of_pos (by simpa using hempty)]
    exact (length_intercalate ", " hne).le

theorem width_lt_qualified (k : Value) {ts : List String} (h : ts ≠ []) :
    width ts < width (qualified k ts) := by
  rw [qualified, width, width, List.map_map]
  refine List.sum_lt_sum_of_ne_nil h _ _ fun t _ => ?_
  rw [Function.comp_apply, String.length_append, String.length_append]
  show t.length + 2 < k.display.length + 1 + t.length + 2
  omega

/-- The row of a mapping has every alias exactly where none is lost. -/
theorem row_written_iff (es : List (Value × Value)) :
    ", ".intercalate (es.flatMap written) = ", ".intercalate (es.flatMap stated) ↔
      ∀ e ∈ es, Kept e := by
  refine row_flatMap_eq_iff written_ne_empty stated_ne_empty ?_ ?_
  · intro e hkept
    by_cases hnull : e.1 = .null
    · obtain ⟨k, v⟩ := e
      obtain rfl : k = .null := hnull
      have htexts : rowTexts v = [] := hkept rfl
      rw [written, htexts, stated, htexts]
      rfl
    · exact written_eq_stated hnull
  · intro e hlost
    obtain ⟨k, v⟩ := e
    rw [Kept, Classical.not_imp] at hlost
    obtain ⟨rfl, htexts⟩ := hlost
    exact (width_verbatim_le _).trans_lt (width_lt_qualified _ htexts)

end Columns

/-! ## Orderings -/

namespace OrderBy

/-- The keys that an entry is read as. -/
def keysAt (e : Value × Value) : List SortKey :=
  if e.2.isPlainNumber then [keyOf .null e.1 e.2]
  else (e.2.entries?.getD []).map fun p => keyOf e.1 p.1 p.2

/-- The item of a key. -/
def keyItem (k : SortKey) : String :=
  (if k.table.isGiven then k.table.display ++ "." else "") ++ k.column.display ++ " " ++
    k.direction.display

/-- The items of an entry as they are written: what does not count as given is no alias. -/
def written (e : Value × Value) : List String := (keysAt e).map keyItem

/-- The items of an entry where every key that holds a mapping is an alias. -/
def stated (e : Value × Value) : List String :=
  if e.2.isPlainNumber then [e.1.display ++ " " ++ directionFor e.2]
  else (e.2.entries?.getD []).map fun p =>
    e.1.display ++ "." ++ p.1.display ++ " " ++ directionFor p.2

/-- An entry whose alias is written, or has nothing to be written before. -/
def Kept (e : Value × Value) : Prop :=
  ∀ inner, e.2 = .mapping inner → inner ≠ [] → e.1.isGiven = true

/-- An entry is read as its keys. -/
theorem keysOf_eq_keysAt (e : Value × Value) (c : Context) :
    (keysOf e.1 e.2).outcome c = .ok (keysAt e) := by
  obtain ⟨k, v⟩ := e
  cases v <;> rfl

/-- A mapping with any keys is written as the row of its items after its words. -/
theorem text_entries (es : List (Value × Value)) (c : Context) :
    (text (.mapping es)).outcome c = .ok (headed " ORDER BY " (es.flatMap written)) := by
  by_cases hne : es = []
  · rw [hne]
    rfl
  have hread : (ofValue? (.mapping (es.map id))).outcome c = _ :=
    ofValue?_mapping hne fun e _ => keysOf_eq_keysAt e c
  have hitems : ((es.flatMap keysAt).map Value.sortKey).mapM keyText =
      .ok (es.flatMap written) := by
    have hwritten : es.flatMap written = (es.flatMap keysAt).map keyItem :=
      List.map_flatMap.symm
    rw [List.mapM_map, hwritten]
    exact mapM_eq_ok_map fun ⟨_, _, _⟩ _ => rfl
  rw [List.map_id] at hread
  rw [text, Build.outcome_bind, hread, ok_bind]
  show (((es.flatMap keysAt).map Value.sortKey).mapM keyText >>= _) = _
  rw [hitems, ok_bind, headed]
  cases es.flatMap written <;> rfl

theorem item_ne_empty (s direction : String) : s ++ " " ++ direction ≠ "" := by
  intro h
  have hblank := (String.append_eq_empty_iff.mp (String.append_eq_empty_iff.mp h).1).2
  exact absurd hblank (by decide)

theorem written_ne_empty (e : Value × Value) : "" ∉ written e := by
  intro h
  obtain ⟨k, -, heq⟩ := List.mem_map.mp h
  exact item_ne_empty _ _ heq

theorem stated_ne_empty (e : Value × Value) : "" ∉ stated e := by
  intro h
  rw [stated] at h
  split at h
  · exact item_ne_empty _ _ (List.mem_singleton.mp h).symm
  · obtain ⟨p, -, heq⟩ := List.mem_map.mp h
    exact item_ne_empty _ _ heq

theorem written_mapping (k : Value) (inner : List (Value × Value)) :
    written (k, .mapping inner) = inner.map fun p =>
      (if k.isGiven then k.display ++ "." else "") ++ p.1.display ++ " " ++ directionFor p.2 := by
  show (inner.map fun p => keyOf k p.1 p.2).map keyItem = _
  rw [List.map_map]
  rfl

theorem stated_mapping (k : Value) (inner : List (Value × Value)) :
    stated (k, .mapping inner) = inner.map fun p =>
      k.display ++ "." ++ p.1.display ++ " " ++ directionFor p.2 := rfl

theorem written_eq_stated {e : Value × Value} (h : Kept e) : written e = stated e := by
  obtain ⟨k, v⟩ := e
  cases v with
  | mapping inner =>
      by_cases hinner : inner = []
      · rw [hinner]
        rfl
      · simp only [written_mapping, stated_mapping, if_pos (h inner rfl hinner)]
  | int n =>
      show ["" ++ k.display ++ " " ++ directionFor (.int n)] = _
      rw [String.empty_append]
      rfl
  | float x =>
      show ["" ++ k.display ++ " " ++ directionFor (.float x)] = _
      rw [String.empty_append]
      rfl
  | _ => rfl

theorem width_written_lt {e : Value × Value} (h : ¬ Kept e) :
    width (written e) < width (stated e) := by
  obtain ⟨k, v⟩ := e
  simp only [Kept, not_forall] at h
  obtain ⟨inner, hinner, hne, hgiven⟩ := h
  obtain rfl : v = .mapping inner := hinner
  rw [written_mapping, stated_mapping, width, width, List.map_map, List.map_map]
  refine List.sum_lt_sum_of_ne_nil hne _ _ fun p _ => ?_
  simp only [Function.comp_apply, if_neg hgiven, String.length_append]
  show 0 + _ + _ + _ + 2 < _ + 1 + _ + _ + _ + 2
  omega

/-- The clause of a mapping has every alias exactly where none is lost. -/
theorem row_written_iff (es : List (Value × Value)) :
    ", ".intercalate (es.flatMap written) = ", ".intercalate (es.flatMap stated) ↔
      ∀ e ∈ es, Kept e :=
  row_flatMap_eq_iff written_ne_empty stated_ne_empty (fun _ => written_eq_stated)
    fun _ => width_written_lt

end OrderBy

/-! ## The same alias in both -/

/-- An item without an alias is a row of its own. -/
theorem Columns.row_verbatim (ts : List String) :
    ", ".intercalate (verbatim ts) = ", ".intercalate ts := by
  rw [verbatim]
  by_cases hempty : ", ".intercalate ts = ""
  · rw [List.filter_cons_of_neg (by simpa using hempty), hempty]
    rfl
  · rw [List.filter_cons_of_pos (by simpa using hempty)]
    exact String.intercalate_singleton

variable {c : Context}

/-- The same alias of a column is written alike in columns and in an ordering exactly where it is
null, which is lost in both, or counts as given. -/
theorem agree_iff {k : Value} (h : k.isText Columns.extraKey = false) (column code : Value) :
    ∃ t, (Columns.listText (.mapping [(k, .list [column])])).outcome c = .ok t ∧
      ((OrderBy.text (.mapping [(k, .mapping [(column, code)])])).outcome c =
        .ok (" ORDER BY " ++ (t ++ " " ++ directionFor code)) ↔ k = .null ∨ k.isGiven = true) := by
  have hfits : Columns.ExtraFits [(k, .list [column])] := by
    intro v hv
    obtain ⟨hkey, -⟩ := Prod.mk.inj (List.mem_singleton.mp hv)
    rw [← hkey] at h
    exact nomatch h
  have htext : (OrderBy.text (.mapping [(k, .mapping [(column, code)])])).outcome c =
      .ok (" ORDER BY " ++ ((if k.isGiven then k.display ++ "." else "") ++ column.display ++ " " ++
        directionFor code)) := by
    rw [OrderBy.text_entries, List.flatMap_singleton, OrderBy.written_mapping, List.map_singleton,
      headed, if_neg (List.cons_ne_nil _ _), String.intercalate_singleton]
  refine ⟨_, Columns.listText_mapping hfits c, ?_⟩
  rw [htext, Except.ok.injEq, String.append_right_inj, String.append_left_inj,
    String.append_left_inj, List.flatMap_singleton]
  have htexts : Columns.rowTexts (.list [column]) = [column.display] := rfl
  by_cases hnull : k = .null
  · rw [hnull, Columns.written, Columns.row_verbatim, htexts, String.intercalate_singleton]
    exact iff_of_true (String.empty_append (s := _)) (.inl rfl)
  · rw [Columns.written_eq_stated hnull, Columns.stated, if_neg (Bool.eq_false_iff.mp h), htexts,
      Columns.qualified, List.map_singleton, String.intercalate_singleton, String.append_left_inj,
      or_iff_right hnull]
    cases k.isGiven with
    | true => exact iff_of_true rfl rfl
    | false =>
        refine iff_of_false (fun hempty => ?_) Bool.false_ne_true
        exact absurd (String.append_eq_empty_iff.mp hempty.symm).2 (by decide)

/-- Mappings with any keys: columns and groupings are rows of items with every alias before its
names, exactly where no name stands under null; an ordering is one exactly where every alias with
a column under it counts as given. So one alias is written alike in columns and in an ordering
where it counts as given, and else only where it is null, which is lost in both. -/
theorem aliases_kept_iff (c : Context) :
    (∀ es, Columns.ExtraFits es →
      (Columns.listText (.mapping es)).outcome c =
        .ok (", ".intercalate (es.flatMap Columns.written)) ∧
      (Columns.groupText (.mapping es)).outcome c =
        .ok (headed " GROUP BY " (es.flatMap Columns.written)) ∧
      ((Columns.listText (.mapping es)).outcome c =
        .ok (", ".intercalate (es.flatMap Columns.stated)) ↔ ∀ e ∈ es, Columns.Kept e) ∧
      ((Columns.groupText (.mapping es)).outcome c =
        .ok (headed " GROUP BY " (es.flatMap Columns.stated)) ↔ ∀ e ∈ es, Columns.Kept e)) ∧
    (∀ es,
      (OrderBy.text (.mapping es)).outcome c =
        .ok (headed " ORDER BY " (es.flatMap OrderBy.written)) ∧
      ((OrderBy.text (.mapping es)).outcome c =
        .ok (headed " ORDER BY " (es.flatMap OrderBy.stated)) ↔ ∀ e ∈ es, OrderBy.Kept e)) ∧
    ∀ k column code, k.isText Columns.extraKey = false →
      ∃ t, (Columns.listText (.mapping [(k, .list [column])])).outcome c = .ok t ∧
        ((OrderBy.text (.mapping [(k, .mapping [(column, code)])])).outcome c =
          .ok (" ORDER BY " ++ (t ++ " " ++ directionFor code)) ↔
            k = .null ∨ k.isGiven = true) := by
  refine ⟨fun es hfits => ?_, fun es => ?_, fun k column code h => agree_iff h column code⟩
  · have hlist := Columns.listText_mapping hfits c
    have hgroup := Columns.groupText_mapping hfits c
    refine ⟨hlist, hgroup, ?_, ?_⟩
    · rw [hlist, Except.ok.injEq]
      exact Columns.row_written_iff es
    · rw [hgroup, Except.ok.injEq,
        headed_eq_iff (empty_not_mem_flatMap Columns.written_ne_empty es)
          (empty_not_mem_flatMap Columns.stated_ne_empty es)]
      exact Columns.row_written_iff es
  · have htext := OrderBy.text_entries es c
    refine ⟨htext, ?_⟩
    rw [htext, Except.ok.injEq,
      headed_eq_iff (empty_not_mem_flatMap OrderBy.written_ne_empty es)
        (empty_not_mem_flatMap OrderBy.stated_ne_empty es)]
    exact OrderBy.row_written_iff es

/-- Aliases of several kinds in columns, the empty text among them. -/
def columnsByKind : List (Value × Value) :=
  [(.int 0, .list [.text "a", .int 1]), (.text "extra", .text "NOW()"), (.null, .tuple []),
    (.text "", .tuple [.text "b"])]

/-- Aliases of several kinds in an ordering, and a column at its top. -/
def orderByKind : List (Value × Value) :=
  [(.tuple [.text "x"], .mapping [(.text "a", .int 1)]), (.int 0, .int 1), (.null, .mapping []),
    (.text "u", .mapping [(.text "b", .null)])]

/-- Null has no name under it here, and zero no column, so that no alias is lost. -/
theorem aliases_kept_iff_byKind :
    Columns.ExtraFits columnsByKind ∧
      (Columns.listText (.mapping columnsByKind)).outcome {} = .ok "0.a, 0.1, NOW(), .b" ∧
      (Columns.listText (.mapping columnsByKind)).outcome {} =
        .ok (", ".intercalate (columnsByKind.flatMap Columns.stated)) ∧
      (OrderBy.text (.mapping orderByKind)).outcome {} =
        .ok (headed " ORDER BY " (orderByKind.flatMap OrderBy.stated)) ∧
      (Value.text "").isText Columns.extraKey = false ∧
      ∃ t, (Columns.listText (.mapping [(.text "", .list [.text "a"])])).outcome {} = .ok t ∧
        (OrderBy.text (.mapping [(.text "", .mapping [(.text "a", .int 1)])])).outcome {} ≠
          .ok (" ORDER BY " ++ (t ++ " " ++ "ASC")) := by
  obtain ⟨hcolumns, horder, hagree⟩ := aliases_kept_iff {}
  have hfits : Columns.ExtraFits columnsByKind := by
    intro v hv
    have htext : v = .text "NOW()" := by simpa [columnsByKind, Columns.extraKey] using hv
    exact .inl ⟨_, htext⟩
  have hcolumnsKept : ∀ e ∈ columnsByKind, Columns.Kept e := by
    simp only [columnsByKind, List.forall_mem_cons, Columns.Kept]
    exact ⟨nofun, nofun, fun _ => rfl, nofun, List.forall_mem_nil _⟩
  have horderKept : ∀ e ∈ orderByKind, OrderBy.Kept e := by
    simp only [orderByKind, List.forall_mem_cons, OrderBy.Kept]
    exact ⟨fun _ _ _ => rfl, nofun, fun _ h hne => absurd (Value.mapping.inj h).symm hne,
      fun _ _ _ => rfl, List.forall_mem_nil _⟩
  obtain ⟨hlist, -, hkept, -⟩ := hcolumns _ hfits
  refine ⟨hfits, hlist.trans rfl, hkept.mpr hcolumnsKept, (horder _).2.mpr horderKept, rfl, ?_⟩
  obtain ⟨t, ht, hiff⟩ := hagree (.text "") (.text "a") (.int 1) rfl
  refine ⟨t, ht, fun heq => ?_⟩
  rcases hiff.mp heq with h | h
  · exact nomatch h
  · exact nomatch h

/-- An empty alias and zero are lost in an ordering, where columns keep them, and null is lost in
columns, so that neither is always the row of its items with every alias. -/
theorem aliases_are_lost :
    (OrderBy.text (.mapping [(.text "", .mapping [(.text "a", .int 1)])])).outcome {} =
        .ok " ORDER BY a ASC" ∧
      (OrderBy.text (.mapping [(.int 0, .mapping [(.text "a", .int 1)])])).outcome {} =
        .ok " ORDER BY a ASC" ∧
      (Columns.listText (.mapping [(.text "", .list [.text "a"])])).outcome {} = .ok ".a" ∧
      (Columns.listText (.mapping [(.null, .list [.text "a"])])).outcome {} = .ok "a" ∧
      (¬ ∀ es, (OrderBy.text (.mapping es)).outcome {} =
        .ok (headed " ORDER BY " (es.flatMap OrderBy.stated))) ∧
      ¬ ∀ es, Columns.ExtraFits es → (Columns.listText (.mapping es)).outcome {} =
        .ok (", ".intercalate (es.flatMap Columns.stated)) := by
  refine ⟨rfl, rfl, rfl, rfl, fun h => ?_, fun h => ?_⟩
  · have hlost := h [(.text "", .mapping [(.text "a", .int 1)])]
    have heq : " ORDER BY a ASC" = " ORDER BY .a ASC" := Except.ok.inj hlost
    exact absurd heq (by decide)
  · have hlost := h [(.null, .list [.text "a"])] fun v hv =>
      nomatch (Prod.mk.inj (List.mem_singleton.mp hv)).1
    have heq : "a" = "None.a" := Except.ok.inj hlost
    exact absurd heq (by decide)

end SqlText
