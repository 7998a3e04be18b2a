import SqlText.Proofs.ColumnItems
import SqlText.Proofs.Parts
import SqlText.Proofs.SelectAssembly

/-!
# Select items — every item of a select list, once and in its place

    ["id"]   [{"query": "SELECT 1", "as": "n"}]   [{"MIN": "x", "SUM": "y"}]

    id, (SELECT 1) AS n, MIN(x) AS minimum, SUM(y) AS summation

A select list is asked for in three parts, each of which may be left out: columns, queries and
aggregates. A query makes one item, with its alias if it has one. An aggregate makes an item of
each of its calls; an alias that it has itself stands after the last one, and without it each call
has the alias of its function. Every part is put together from its own items, and the list from the
parts that are not empty. It is the row of all items nevertheless, and an asterisk where there is
none; it is an asterisk also where one was asked for and nothing else.

* **`SubQuery.Plain`**, **`Aggregate.Plain`**: queries and aggregates given as texts and mappings.
* **`Aggregate.itemText_plain`**: one aggregate as the row of its calls.
* **`select_items`**: the select list as the row of its items.
* **`asterisk_asked_for`**: a list that is an asterisk and has an item.
-/

namespace SqlText

open Select (append_ne_empty)

/-! ## Parts that may be left out -/

/-- Descriptions as a list of values, or null where there are none. -/
def listed {α : Type} (value : α → Value) (xs : Option (List α)) : Value :=
  xs.elim .null fun xs => .list (xs.map value)

/-- Descriptions that are left out are worked through like a list without items. -/
theorem listed_bind {α β : Type} (value : α → Value) (xs : Option (List α))
    (f : List Value → Except Fault β) {b : β} (hnil : f [] = .ok b) :
    (if (listed value xs).isGiven then (listed value xs).iterate >>= f else .ok b) =
      f ((xs.getD []).map value) := by
  cases xs with
  | none => exact hnil.symm
  | some xs =>
      cases xs with
      | nil => exact hnil.symm
      | cons x xs => rfl

/-- A text with an alias after it, if there is one. -/
def labelled (t : String) (label : Value) : String :=
  if label.isGiven then t ++ " AS " ++ label.display else t

theorem labelled_ne_empty {t : String} (h : t ≠ "") (label : Value) : labelled t label ≠ "" := by
  rw [labelled]
  split
  · exact append_ne_empty (append_ne_empty h _) _
  · exact h

/-! ## Queries -/

namespace SubQuery

/-- A query as a text, or as a mapping in which it is not empty. -/
inductive Plain where
  | text (s : String)
  | mapping (entries : List (Value × Value)) (given : (valueAt "query" entries).isGiven = true)

namespace Plain

def value : Plain → Value
  | text s            => .text s
  | mapping entries _ => .mapping entries

/-- The item of a query: in parentheses, and with its alias if it has one. -/
def item : Plain → String
  | text s            => "(" ++ s ++ ")"
  | mapping entries _ =>
    labelled ("(" ++ (valueAt "query" entries).display ++ ")")
      ((valueAt "as" entries).orElse (valueAt "alias" entries))

/-- What a query is read as. -/
def description : Plain → SubQuery
  | text s            => ⟨.text s, .null⟩
  | mapping entries _ =>
    ⟨valueAt "query" entries, (valueAt "as" entries).orElse (valueAt "alias" entries)⟩

theorem ofValue_value (q : Plain) : ofValue q.value = .ok q.description := by
  cases q with
  | text s => rfl
  | mapping entries given =>
      show ofValue (.mapping entries) = _
      rw [ofValue, if_pos given]
      rfl

/-- The mappings that are accepted are those of plain queries. -/
theorem exists_value_iff {entries : List (Value × Value)} :
    (∃ q : Plain, q.value = .mapping entries) ↔ ∃ q, ofValue (.mapping entries) = .ok q := by
  constructor
  · rintro ⟨q, hq⟩
    exact ⟨q.description, hq ▸ q.ofValue_value⟩
  · rintro ⟨q, hq⟩
    rw [ofValue] at hq
    split at hq
    · exact ⟨.mapping entries ‹_›, rfl⟩
    · cases hq

theorem text_description (q : Plain) : q.description.text = q.item := by
  have hlabelled : ∀ query label : Value,
      SubQuery.text ⟨query, label⟩ = labelled ("(" ++ query.display ++ ")") label := by
    intro query label
    rw [SubQuery.text, labelled]
    dsimp only
    split
    · exact String.append_assoc.symm
    · exact String.append_empty
  cases q with
  | text s => exact hlabelled (.text s) .null
  | mapping entries given => exact hlabelled _ _

theorem item_ne_empty (q : Plain) : q.item ≠ "" := by
  have hquery : ∀ t : String, "(" ++ t ++ ")" ≠ "" :=
    fun t => append_ne_empty (append_ne_empty (by decide) t) ")"
  cases q with
  | text s => exact hquery s
  | mapping entries given => exact labelled_ne_empty (hquery _) _

end Plain

/-- Queries are listed as the row of their items. -/
theorem listText_plain (queries : Option (List Plain)) :
    listText (listed Plain.value queries) =
      .ok (", ".intercalate ((queries.getD []).map Plain.item)) := by
  have hread : ∀ qs : List Plain, (qs.map Plain.value).mapM ofValue =
      .ok (qs.map Plain.description) := by
    intro qs
    rw [List.mapM_map]
    exact mapM_eq_ok_map fun q _ => q.ofValue_value
  have hlist := listed_bind Plain.value queries
    (fun vs => vs.mapM ofValue >>= fun qs => Except.ok (", ".intercalate (qs.map text))) rfl
  refine hlist.trans ?_
  rw [hread, ok_bind, List.map_map]
  exact congrArg (fun ts => Except.ok (", ".intercalate ts))
    (List.map_congr_left fun q _ => q.text_description)

end SubQuery

/-! ## Aggregates -/

/-- A row of items with a text after the last of them. -/
def endedWith (ending : String) : List String → List String
  | []           => []
  | [t]          => [t ++ ending]
  | t :: u :: us => t :: endedWith ending (u :: us)

theorem endedWith_ne_nil {ending : String} {ts : List String} (h : ts ≠ []) :
    endedWith ending ts ≠ [] := by
  cases ts with
  | nil => exact absurd rfl h
  | cons t ts =>
      cases ts with
      | nil => exact List.cons_ne_nil _ _
      | cons u us => exact List.cons_ne_nil _ _

/-- What stands after a row stands after its last item. -/
theorem intercalate_endedWith (sep ending : String) :
    ∀ {ts : List String}, ts ≠ [] →
      sep.intercalate (endedWith ending ts) = sep.intercalate ts ++ ending := by
  intro ts
  induction ts with
  | nil => exact fun h => absurd rfl h
  | cons t ts ih =>
      intro _
      cases ts with
      | nil => rw [endedWith, String.intercalate_singleton, String.intercalate_singleton]
      | cons u us =>
          have hne : u :: us ≠ [] := List.cons_ne_nil u us
          rw [endedWith, String.intercalate_cons_of_ne_nil (endedWith_ne_nil hne), ih hne,
            String.intercalate_cons_of_ne_nil hne, ← String.append_assoc]

theorem endedWith_ne_empty {ending : String} :
    ∀ {ts : List String}, (∀ t ∈ ts, t ≠ "") → ∀ t ∈ endedWith ending ts, t ≠ "" := by
  intro ts
  induction ts with
  | nil => exact fun h => h
  | cons t ts ih =>
      intro h
      obtain ⟨ht, hts⟩ := List.forall_mem_cons.mp h
      cases ts with
      | nil => exact List.forall_mem_singleton.mpr (append_ne_empty ht ending)
      | cons u us => exact List.forall_mem_cons.mpr ⟨ht, ih hts⟩

namespace Aggregate

/-- An aggregate as a mapping that has a call. Its keys can be looked up in a table, as the keys
of every mapping can. -/
structure Plain where
  entries : List (Value × Value)
  hashable : ∀ e ∈ entries, e.1.hashFault? = none
  filled : ∃ e ∈ entries, e.1.isText "alias" = false

namespace Plain

def value (a : Plain) : Value := .mapping a.entries

/-- The functions with their expressions: all entries but that of the alias. -/
def functions (a : Plain) : List (Value × Value) := a.entries.filter fun e => !e.1.isText "alias"

/-- The alias for all calls. -/
def label (a : Plain) : Value := valueAt "alias" a.entries

/-- The alias of a function's call: the one that is known for it, or else its name. -/
def ownLabel : Value → String
  | .text s => (aliasOf? s).getD s
  | v       => v.display

/-- The items of an aggregate, one for each call. -/
def items (a : Plain) : List String :=
  if a.label.isGiven then
    endedWith (" AS " ++ a.label.display) (a.functions.map fun e => callText e.1 e.2)
  else a.functions.map fun e => callText e.1 e.2 ++ " AS " ++ ownLabel e.1

theorem functions_ne_nil (a : Plain) : a.functions ≠ [] := by
  obtain ⟨e, he, hkey⟩ := a.filled
  refine List.ne_nil_of_mem (List.mem_filter.mpr ⟨he, ?_⟩)
  rw [hkey]
  rfl

theorem items_ne_nil (a : Plain) : a.items ≠ [] := by
  rw [items]
  split
  · exact endedWith_ne_nil (mt List.map_eq_nil_iff.mp a.functions_ne_nil)
  · exact mt List.map_eq_nil_iff.mp a.functions_ne_nil

theorem callText_ne_empty (function expression : Value) : callText function expression ≠ "" := by
  intro h
  exact absurd (String.append_eq_empty_iff.mp h).2 (by decide)

theorem items_ne_empty (a : Plain) : ∀ item ∈ a.items, item ≠ "" := by
  rw [items]
  split
  · refine endedWith_ne_empty fun t ht => ?_
    obtain ⟨e, -, rfl⟩ := List.mem_map.mp ht
    exact callText_ne_empty e.1 e.2
  · intro t ht
    obtain ⟨e, -, rfl⟩ := List.mem_map.mp ht
    exact append_ne_empty (append_ne_empty (callText_ne_empty e.1 e.2) _) _

/-- What an aggregate is read as. -/
theorem ofValue_value (a : Plain) :
    ofValue a.value =
      .ok ⟨.tuple (a.functions.map fun e => .tuple [e.1, .text e.2.display]),
        a.label.orElse .null⟩ := by
  have hne : a.functions.isEmpty = false := by simpa using a.functions_ne_nil
  show ofValue (.mapping a.entries) = _
  rw [ofValue]
  show (if a.functions.isEmpty = true then _ else _) = _
  rw [hne, if_neg Bool.false_ne_true]
  rfl

/-- The mappings that are accepted are those of plain aggregates. -/
theorem exists_value_iff {entries : List (Value × Value)}
    (hashable : ∀ e ∈ entries, e.1.hashFault? = none) :
    (∃ a : Plain, a.value = .mapping entries) ↔ ∃ a, ofValue (.mapping entries) = .ok a := by
  constructor
  · rintro ⟨a, ha⟩
    exact ⟨_, ha ▸ a.ofValue_value⟩
  · rintro ⟨a, ha⟩
    have hne : (entries.filter fun e => !e.1.isText "alias") ≠ [] := by
      intro hnil
      rw [ofValue, hnil] at ha
      cases ha
    obtain ⟨e, he⟩ := List.exists_mem_of_ne_nil _ hne
    obtain ⟨hmem, hkey⟩ := List.mem_filter.mp he
    exact ⟨⟨entries, hashable, e, hmem, by simpa using hkey⟩, rfl⟩

/-- The alias of a call whose function can be looked up. -/
theorem aliasFor_eq {function : Value} (h : function.hashFault? = none) :
    aliasFor function = .ok (ownLabel function) := by
  have hrequire : function.requireHashable = .ok () := by rw [Value.requireHashable, h]
  unfold aliasFor
  rw [hrequire, ok_bind]
  cases function <;> rfl

end Plain

/-- One aggregate is the row of its calls. -/
theorem itemText_plain (a : Plain) : itemText a.value = .ok (", ".intercalate a.items) := by
  rw [itemText, a.ofValue_value, ok_bind, text_orElse_null, text]
  show (if a.label.isGiven = true then _ else _) = _
  rw [Plain.items]
  split
  · have hcalls : (a.functions.map fun e => Value.tuple [e.1, .text e.2.display]).mapM sharedCall =
        .ok (a.functions.map fun e => callText e.1 e.2) := by
      rw [List.mapM_map]
      exact mapM_eq_ok_map fun e _ => rfl
    show (List.mapM sharedCall _ >>= _) = _
    rw [hcalls, ok_bind, intercalate_endedWith ", " _
      (mt List.map_eq_nil_iff.mp a.functions_ne_nil), String.append_assoc]
    rfl
  · have hcalls : (a.functions.map fun e => Value.tuple [e.1, .text e.2.display]).mapM ownCall =
        .ok (a.functions.map fun e => callText e.1 e.2 ++ " AS " ++ Plain.ownLabel e.1) := by
      rw [List.mapM_map]
      refine mapM_eq_ok_map fun e he => ?_
      have hhash := a.hashable e (List.mem_of_mem_filter he)
      show (aliasFor e.1 >>= _) = _
      rw [Plain.aliasFor_eq hhash]
      rfl
    show (List.mapM ownCall _ >>= _) = _
    rw [hcalls]
    rfl

/-- Aggregates are listed as the row of all their calls. -/
theorem listText_plain (aggregates : Option (List Plain)) :
    listText (listed Plain.value aggregates) =
      .ok (", ".intercalate ((aggregates.getD []).flatMap Plain.items)) := by
  have hitems : ∀ as : List Plain, (as.map Plain.value).mapM itemText =
      .ok (as.map fun a => ", ".intercalate a.items) := by
    intro as
    rw [List.mapM_map]
    exact mapM_eq_ok_map fun a _ => itemText_plain a
  have hne : ∀ as : List Plain, ∀ ts ∈ as.map Plain.items, ts ≠ [] := by
    intro as ts hts
    obtain ⟨a, -, rfl⟩ := List.mem_map.mp hts
    exact a.items_ne_nil
  have hlist := listed_bind Plain.value aggregates
    (fun vs => vs.mapM itemText >>= fun ts => Except.ok (", ".intercalate ts)) rfl
  refine hlist.trans ?_
  rw [hitems, ok_bind, List.flatMap_def, ← intercalate_flatten (hne _), List.map_map]
  rfl

end Aggregate

/-! ## The select list -/

namespace Columns

/-- The columns of a select list: none, a text that is written as it is, or columns with items. -/
inductive Selection where
  | none
  | text (t : String)
  | listing (l : Listing)

namespace Selection

def value : Selection → Value
  | none      => .null
  | text t    => .text t
  | listing l => l.value

/-- The items of the columns; a text is one item. -/
def items : Selection → List String
  | none      => []
  | text t    => [t]
  | listing l => l.items

/-- Columns without an empty item are the row of their items. -/
theorem listText_value {s : Selection} (h : ∀ item ∈ s.items, item ≠ "") (c : Context) :
    (listText s.value).outcome c = .ok (", ".intercalate s.items) := by
  cases s with
  | none => rfl
  | text t =>
      have ht : t.isEmpty = false := by simpa using h t (List.mem_singleton_self t)
      show ((Pure.pure (if t.isEmpty then Option.none else some (Columns.raw (.text t))) : Build _)
        >>= fun columns => _).outcome c = _
      rw [ht]
      exact joinTexts_texts ", " [t]
  | listing l =>
      show (listText l.value).outcome c = .ok (", ".intercalate l.items)
      rw [listText_listing, Listing.shown_eq_items h]

end Selection

end Columns

namespace Select

/-- What a select list is asked for: columns, queries and aggregates. -/
structure Request where
  columns : Columns.Selection := .none
  queries : Option (List SubQuery.Plain) := none
  aggregates : Option (List Aggregate.Plain) := none

namespace Request

/-- All items, in the order of the parts. -/
def items (r : Request) : List String :=
  r.columns.items ++ (r.queries.getD []).map SubQuery.Plain.item ++
    (r.aggregates.getD []).flatMap Aggregate.Plain.items

/-- The select list that the request is written as. -/
def listText (r : Request) : Build String :=
  Select.listText r.columns.value (listed SubQuery.Plain.value r.queries)
    (listed Aggregate.Plain.value r.aggregates)

end Request

/-- A part of a select list is not a text of its own but the row of its items. -/
theorem listOf_groups {columns queries calls : List String}
    (h : ∀ ts ∈ [columns, queries, calls], ∀ t ∈ ts, t ≠ "") :
    listOf (", ".intercalate columns) (", ".intercalate queries) (", ".intercalate calls) =
      if columns ++ queries ++ calls = [] then "*"
      else ", ".intercalate (columns ++ queries ++ calls) := by
  have hflatten : [columns, queries, calls].flatten = columns ++ queries ++ calls := by simp
  have hnil : groupTexts ", " [columns, queries, calls] = [] ↔
      columns ++ queries ++ calls = [] := by
    rw [groupTexts_eq_nil_iff, flatten_filledGroups h, hflatten]
  show (if (groupTexts ", " [columns, queries, calls]).isEmpty = true then "*"
    else ", ".intercalate (groupTexts ", " [columns, queries, calls])) = _
  rw [intercalate_groups h, hflatten]
  simp only [List.isEmpty_iff, hnil]

/-- A row is an asterisk where this is its only item. -/
theorem row_eq_asterisk_iff {ts : List String} : ", ".intercalate ts = "*" ↔ ts = ["*"] := by
  cases ts with
  | nil => exact ⟨fun h => absurd h (by decide), fun h => nomatch h⟩
  | cons t ts =>
      cases ts with
      | nil => simp
      | cons u us =>
          refine iff_of_false (fun h => ?_) (fun h => nomatch h)
          have hlength := congrArg (fun t => t.toList.length) h
          rw [toList_row, List.length_append, List.length_cons, List.length_cons] at hlength
          have hone : "*".toList.length = 1 := by decide
          omega

namespace Request

/-- A request whose columns have no empty item is written as the row of all its items. -/
theorem outcome_listText {r : Request} (h : ∀ item ∈ r.columns.items, item ≠ "") (c : Context) :
    r.listText.outcome c =
      .ok (if r.items = [] then "*" else ", ".intercalate r.items) := by
  have hqueries : ∀ t ∈ (r.queries.getD []).map SubQuery.Plain.item, t ≠ "" := by
    intro t ht
    obtain ⟨q, -, rfl⟩ := List.mem_map.mp ht
    exact q.item_ne_empty
  have hcalls : ∀ t ∈ (r.aggregates.getD []).flatMap Aggregate.Plain.items, t ≠ "" := by
    intro t ht
    obtain ⟨a, -, ht⟩ := List.mem_flatMap.mp ht
    exact a.items_ne_empty t ht
  have hgroups := listOf_groups (List.forall_mem_cons.mpr
    ⟨h, List.forall_mem_cons.mpr ⟨hqueries, List.forall_mem_singleton.mpr hcalls⟩⟩)
  rw [items, ← hgroups, listText, Select.listText, Build.outcome_bind,
    Columns.Selection.listText_value h, ok_bind, Build.outcome_bind, Build.outcome_liftM,
    SubQuery.listText_plain, ok_bind, Build.outcome_bind, Build.outcome_liftM,
    Aggregate.listText_plain, ok_bind]
  rfl

end Request

/-- A select list whose columns have no empty item is the row of all its items: those of the
columns, one for each query and one for each call of an aggregate. Without an item it is an
asterisk, which is else the list where it is the only item. -/
theorem select_items (r : Request) (h : ∀ item ∈ r.columns.items, item ≠ "") (c : Context) :
    ∃ t, r.listText.outcome c = .ok t ∧
      (r.items ≠ [] → t = ", ".intercalate r.items) ∧
      (r.items = [] → t = "*") ∧
      (t = "*" ↔ r.items = [] ∨ r.items = ["*"]) := by
  refine ⟨_, Request.outcome_listText h c, fun hne => if_neg hne, fun hnil => if_pos hnil, ?_⟩
  by_cases hitems : r.items = []
  · rw [if_pos hitems]
    exact iff_of_true rfl (.inl hitems)
  · rw [if_neg hitems, row_eq_asterisk_iff]
    exact (or_iff_right hitems).symm

/-- One column, which is an asterisk. -/
def asteriskRequest : Request where
  columns := .text "*"

/-- An asterisk that is asked for is an item, and yet the list is an asterisk: that there are no
items does not follow from this. -/
theorem asterisk_asked_for :
    (∀ item ∈ asteriskRequest.columns.items, item ≠ "") ∧ asteriskRequest.items = ["*"] ∧
      asteriskRequest.listText.outcome {} = .ok "*" ∧
      ¬ ∃ t, asteriskRequest.listText.outcome {} = .ok t ∧
        (t = "*" ↔ asteriskRequest.items = []) := by
  have hitems : asteriskRequest.items = ["*"] := rfl
  have hlist : asteriskRequest.listText.outcome {} = .ok "*" := rfl
  refine ⟨by decide, hitems, hlist, ?_⟩
  rintro ⟨t, ht, hiff⟩
  have hnil := hiff.mp (Except.ok.inj (ht.symm.trans hlist))
  rw [hitems] at hnil
  exact List.cons_ne_nil _ _ hnil

/-- Columns of a table with a text beside them, two queries, and two aggregates: one with an alias
before its second call, and one with a function that has no alias of its own. -/
def reportRequest : Request where
  columns := .listing (.tables [.table "orders" (.list ["id", "paid"]) (by decide),
    .table "items" (.list []) (by decide), .extraText "NOW()"])
  queries := some [.text "SELECT 1", .mapping
    [(.text "alias", .text "b"), (.text "query", .text "SELECT 2"), (.text "as", .text "a")] rfl]
  aggregates := some [
    ⟨[(.text "MIN", .text "x"), (.text "alias", .text "m"), (.text "SUM", .text "y")],
      by decide, by decide⟩,
    ⟨[(.text "COUNT", .text "*"), (.text "VARIANCE", .int 2)], by decide, by decide⟩]

/-- The calls of the first aggregate share an alias, and those of the second have one each. -/
theorem select_items_report :
    (∀ item ∈ reportRequest.columns.items, item ≠ "") ∧
      reportRequest.listText.outcome {} =
        .ok ("orders.id, orders.paid, NOW(), (SELECT 1), (SELECT 2) AS a, " ++
          "MIN(x), SUM(y) AS m, COUNT(*) AS count, VARIANCE(2) AS VARIANCE") := by
  have hcolumns : ∀ item ∈ reportRequest.columns.items, item ≠ "" := by decide
  have hitems : reportRequest.items = ["orders.id", "orders.paid", "NOW()", "(SELECT 1)",
      "(SELECT 2) AS a", "MIN(x)", "SUM(y) AS m", "COUNT(*) AS count",
      "VARIANCE(2) AS VARIANCE"] := by decide
  obtain ⟨t, ht, hrow, -⟩ := select_items reportRequest hcolumns {}
  refine ⟨hcolumns, ht.trans ?_⟩
  rw [hrow (by rw [hitems]; exact List.cons_ne_nil _ _), hitems]
  rfl

end Select

end SqlText
