import Mathlib.Algebra.Order.Field.Power
import Mathlib.Tactic.Linarith
import SqlText.Clause.OrderBy
import SqlText.Proofs.ItemLists

/-!
# Leaves of an ordering — one item for each of them

    ORDER BY users.name ASC, users.age DESC, id DESC

An ordering is a mapping of two levels. A column at the top with a number is a leaf, and so is
each column under an alias; an alias without columns and an entry with anything else at the top
have none. The leaves are the items of the clause, in the order of the mapping, and without a
leaf there is no clause. A leaf sorts upwards exactly where its number is one, whichever way the
one is written, and downwards for every other number and for what is no number at all.

* **`Double.isOne_iff`**: the doubles that are one.
* **`keysOf_outcome`**: an entry is read as its leaves.
* **`text_mapping`**: a mapping whose entries are read as leaves is written as their clause.
* **`ordering_leaves`**: the clause of an ordering, and the items that are read back from it.
-/

namespace SqlText

/-- The number that a double is; none where it is infinite or no number. -/
def Double.value? : Double → Option ℚ
  | .finite negative m e => some (if negative then -(m * 2 ^ e) else m * 2 ^ e)
  | .infinite _          => none
  | .nan                 => none

/-- A scaled mantissa is one exactly where it is the power of two that the scale takes away. -/
theorem Double.scaled_eq_one_iff (m : Nat) (e : Int) :
    (m * 2 ^ e : ℚ) = 1 ↔ e ≤ 0 ∧ m = 2 ^ (-e).toNat := by
  obtain ⟨n, rfl | rfl⟩ := e.eq_nat_or_neg
  · rw [zpow_natCast]
    norm_cast
    constructor
    · intro h
      -- the power divides one, so that nothing is scaled
      have hn : n = 0 := by
        by_contra hn
        have := Nat.eq_one_of_mul_eq_one_left h
        exact absurd this (Nat.one_lt_two_pow hn).ne'
      rw [hn, pow_zero, mul_one] at h
      simp [hn, h]
    · rintro ⟨hn, rfl⟩
      obtain rfl : n = 0 := by omega
      rfl
  · have hn : (2 ^ n : ℚ) ≠ 0 := by positivity
    rw [zpow_neg, zpow_natCast, mul_inv_eq_one₀ hn, neg_neg, Int.toNat_natCast]
    norm_cast
    exact ⟨fun h => ⟨by omega, h⟩, And.right⟩

theorem Double.isOne_iff (x : Double) : x.isOne = true ↔ x.value? = some 1 := by
  cases x with
  | finite negative m e =>
      rw [value?, Option.some.injEq]
      cases negative with
      | false =>
          rw [if_neg Bool.false_ne_true, scaled_eq_one_iff]
          simp [isOne]
      | true =>
          have hpos : (0 : ℚ) ≤ m * 2 ^ e := by positivity
          rw [if_pos rfl]
          refine ⟨fun h => (nomatch h), fun h => absurd h ?_⟩
          linarith
  | infinite negative => exact ⟨fun h => (nomatch h), fun h => (nomatch h)⟩
  | nan => exact ⟨fun h => (nomatch h), fun h => (nomatch h)⟩

namespace OrderBy

/-! ## Orderings and their leaves -/

/-- The number under a column. -/
inductive Code where
  | whole (n : Int)
  | double (x : Double)

namespace Code

/-- The number as a value. -/
def value : Code → Value
  | whole n  => .int n
  | double x => .float x

/-- The number that a code is, if it is one. -/
def number? : Code → Option ℚ
  | whole n  => some n
  | double x => x.value?

/-- The word for the direction: upwards for one and downwards for everything else. -/
def direction (code : Code) : String := if code.number? = some 1 then "ASC" else "DESC"

theorem directionFor_value (code : Code) : directionFor code.value = code.direction := by
  cases code with
  | whole n =>
      show (if n = 1 then "ASC" else "DESC") = if some (n : ℚ) = some 1 then "ASC" else "DESC"
      simp
  | double x =>
      show (if x.isOne = true then "ASC" else "DESC") = if x.value? = some 1 then "ASC" else "DESC"
      simp only [Double.isOne_iff]

end Code

/-- An entry of an ordering: a column with a number, an alias with columns, or a name with a
value that is neither a number nor a mapping. -/
inductive Entry where
  | column (name : String) (code : Code)
  | table (label : String) (codes : List (String × Code))
  | unfit (name : String) (value : Value) (number : value.isPlainNumber = false)
      (mapping : value.entries? = none)

/-- A column that rows are sorted by. -/
structure Leaf where
  table : Option String
  column : String
  code : Code

namespace Entry

/-- The entry of a mapping. -/
def pair : Entry → Value × Value
  | column name code   => (.text name, code.value)
  | table label codes  => (.text label, .mapping (codes.map fun p => (.text p.1, p.2.value)))
  | unfit name value _ _ => (.text name, value)

/-- The leaves of an entry. -/
def leaves : Entry → List Leaf
  | column name code  => [⟨none, name, code⟩]
  | table label codes => codes.map fun p => ⟨some label, p.1, p.2⟩
  | unfit ..          => []

/-- The names of an entry: the one at the top, and those of the columns under an alias. -/
def names : Entry → List String
  | column name _     => [name]
  | table label codes => label :: codes.map Prod.fst
  | unfit name ..     => [name]

/-- Every name is there, and none of them has a comma. -/
def Named (e : Entry) : Prop := ∀ name ∈ e.names, name ≠ "" ∧ ',' ∉ name.toList

end Entry

/-- Entries as the value that a statement takes for its ordering. -/
def ordering (entries : List Entry) : Value := .mapping (entries.map Entry.pair)

/-- The leaves of an ordering, in the order of its entries. -/
def leavesOf (entries : List Entry) : List Leaf := entries.flatMap Entry.leaves

namespace Leaf

/-- The key that a leaf is read as. -/
def key (l : Leaf) : SortKey := keyOf (l.table.elim .null .text) (.text l.column) l.code.value

/-- The column as it is written, with its alias if it has one. -/
def qualified (l : Leaf) : String :=
  match l.table with
  | none       => l.column
  | some label => label ++ "." ++ l.column

/-- The item of a leaf. -/
def item (l : Leaf) : String := l.qualified ++ " " ++ l.code.direction

/-- Neither the column nor the alias, if there is one, is empty or has a comma. -/
def Named (l : Leaf) : Prop :=
  ∀ name ∈ l.column :: l.table.toList, name ≠ "" ∧ ',' ∉ name.toList

end Leaf

/-- An alias that is there is not empty. -/
def Leaf.Labelled (l : Leaf) : Prop := l.table ≠ some ""

theorem Leaf.Named.labelled {l : Leaf} (h : l.Named) : l.Labelled := by
  intro htable
  have hmem : "" ∈ l.column :: l.table.toList := by
    rw [htable]
    exact List.mem_cons_of_mem _ List.mem_cons_self
  exact (h "" hmem).1 rfl

/-- The leaves of a named entry are named. -/
theorem Entry.Named.leaves {e : Entry} (h : e.Named) : ∀ l ∈ e.leaves, l.Named := by
  cases e with
  | column name code => exact List.forall_mem_singleton.mpr h
  | table label codes =>
      intro l hl
      obtain ⟨p, hp, rfl⟩ := List.mem_map.mp hl
      have hcolumn := h p.1 (List.mem_cons_of_mem _ (List.mem_map_of_mem hp))
      have hlabel := h label List.mem_cons_self
      exact List.forall_mem_cons.mpr ⟨hcolumn, List.forall_mem_singleton.mpr hlabel⟩
  | unfit name value number mapping => exact List.forall_mem_nil _

/-! ## Reading and writing -/

/-- An entry is read as the keys of its leaves. -/
theorem keysOf_outcome (e : Entry) (c : Context) :
    (keysOf e.pair.1 e.pair.2).outcome c = .ok (e.leaves.map Leaf.key) := by
  cases e with
  | column name code => cases code <;> rfl
  | table label codes =>
      show Except.ok _ = _
      rw [Entry.leaves, List.map_map, List.map_map]
      rfl
  | unfit name value number mapping =>
      cases value with
      | int n => exact nomatch number
      | float x => exact nomatch number
      | mapping es => exact nomatch mapping
      | _ => rfl

/-- The key of a leaf is written as its item. -/
theorem keyText_key {l : Leaf} (h : l.Labelled) : keyText (.sortKey l.key) = .ok l.item := by
  obtain ⟨table, column, code⟩ := l
  have hdirection := code.directionFor_value
  cases table with
  | none =>
      show Except.ok ("" ++ column ++ " " ++ directionFor code.value) = _
      rw [hdirection, String.empty_append]
      rfl
  | some label =>
      have hlabel : label ≠ "" := fun hempty => h (congrArg some hempty)
      have hgiven : (Value.text label).isGiven = true := by
        simpa [Value.isGiven] using hlabel
      show Except.ok ((if (Value.text label).isGiven then label ++ "." else "") ++ column ++ " " ++
        directionFor code.value) = _
      rw [if_pos hgiven, hdirection]
      rfl

/-- No item has a comma. -/
theorem Leaf.Named.comma_not_mem {l : Leaf} (h : l.Named) : ',' ∉ l.item.toList := by
  obtain ⟨table, column, code⟩ := l
  have hcolumn := (h column List.mem_cons_self).2
  have hdirection : ',' ∉ code.direction.toList := by
    rw [Code.direction]
    split <;> decide
  rw [item, String.toList_append, String.toList_append]
  simp only [List.mem_append, not_or]
  refine ⟨⟨?_, by decide⟩, hdirection⟩
  cases table with
  | none => exact hcolumn
  | some label =>
      have hlabel := (h label (List.mem_cons_of_mem _ List.mem_cons_self)).2
      rw [qualified, String.toList_append, String.toList_append]
      simp only [List.mem_append, not_or]
      exact ⟨⟨hlabel, by decide⟩, hcolumn⟩

/-- The clause of leaves: nothing without a leaf, and else a row of their items. -/
def clauseOf (leaves : List Leaf) : String :=
  if leaves = [] then "" else " ORDER BY " ++ ", ".intercalate (leaves.map Leaf.item)

/-- The keys of leaves are written as their clause. -/
theorem segment_keys {leaves : List Leaf} (h : ∀ l ∈ leaves, l.Labelled) :
    segment (.keys (.tuple (leaves.map fun l => .sortKey l.key))) = .ok (clauseOf leaves) := by
  have hitems : (leaves.map fun l => Value.sortKey l.key).mapM keyText =
      .ok (leaves.map Leaf.item) := by
    rw [List.mapM_map]
    exact mapM_eq_ok_map fun l hl => keyText_key (h l hl)
  show ((leaves.map fun l => Value.sortKey l.key).mapM keyText >>= _) = _
  rw [hitems, ok_bind, clauseOf]
  cases leaves with
  | nil => rfl
  | cons l leaves => rfl

section Mappings

variable {ι : Type} {pair : ι → Value × Value} {c : Context}

/-- A mapping with an entry is read as the keys of all its entries. -/
theorem ofValue?_mapping {keys : ι → List SortKey} {entries : List ι} (h : entries ≠ [])
    (hread : ∀ i ∈ entries, (keysOf (pair i).1 (pair i).2).outcome c = .ok (keys i)) :
    (ofValue? (.mapping (entries.map pair))).outcome c =
      .ok (some (.keys (.tuple ((entries.flatMap keys).map .sortKey)))) := by
  obtain ⟨e, es, rfl⟩ := List.exists_cons_of_ne_nil h
  have hkeys : (((e :: es).map pair).mapM fun p => keysOf p.1 p.2).outcome c =
      .ok ((e :: es).map keys) := by
    rw [Build.outcome_mapM, List.mapM_map]
    exact mapM_eq_ok_map hread
  show ((((e :: es).map pair).mapM fun p => keysOf p.1 p.2) >>= _).outcome c = _
  rw [Build.outcome_bind, hkeys, ok_bind, List.flatMap]
  rfl

variable {leaves : ι → List Leaf}

/-- A mapping is written as the clause of all leaves where each of its entries is read as the
keys of its own. -/
theorem text_mapping {entries : List ι}
    (hread : ∀ i ∈ entries,
      (keysOf (pair i).1 (pair i).2).outcome c = .ok ((leaves i).map Leaf.key))
    (h : ∀ l ∈ entries.flatMap leaves, l.Labelled) :
    (text (.mapping (entries.map pair))).outcome c = .ok (clauseOf (entries.flatMap leaves)) := by
  by_cases hne : entries = []
  · rw [hne]
    rfl
  rw [text, Build.outcome_bind, ofValue?_mapping hne hread, ok_bind, ← List.map_flatMap,
    List.map_map]
  exact segment_keys h

end Mappings

theorem clauseOf_eq_empty_iff (leaves : List Leaf) : clauseOf leaves = "" ↔ leaves = [] := by
  rw [clauseOf]
  split
  · exact ⟨fun _ => ‹_›, fun _ => rfl⟩
  · refine ⟨fun h => ?_, fun h => absurd h ‹_›⟩
    exact absurd (String.append_eq_empty_iff.mp h).1 (by decide)

theorem named_leavesOf {entries : List Entry} (h : ∀ e ∈ entries, e.Named) :
    ∀ l ∈ leavesOf entries, l.Named := by
  intro l hl
  obtain ⟨e, he, hl⟩ := List.mem_flatMap.mp hl
  exact (h e he).leaves l hl

/-- An ordering is written as the clause of its leaves. -/
theorem text_ordering {entries : List Entry} (h : ∀ e ∈ entries, e.Named) (c : Context) :
    (text (ordering entries)).outcome c = .ok (clauseOf (leavesOf entries)) :=
  text_mapping (fun e _ => keysOf_outcome e c) fun l hl => (named_leavesOf h l hl).labelled

/-! ## The clause of an ordering -/

/-- The clause of an ordering with named columns: it is empty exactly where there is no leaf, and
else the items that are read back from behind its words are those of the leaves in their order. A
leaf is written with its alias, if it has one, and upwards exactly where its number is one. -/
theorem ordering_leaves (c : Context) (entries : List Entry) (h : ∀ e ∈ entries, e.Named) :
    ∃ t, (text (ordering entries)).outcome c = .ok t ∧
      (t = "" ↔ leavesOf entries = []) ∧
      (leavesOf entries ≠ [] → ∃ row, t = " ORDER BY " ++ row ∧
        splitRow row = (leavesOf entries).map Leaf.item) := by
  have hitems : ∀ t ∈ (leavesOf entries).map Leaf.item, ',' ∉ t.toList := by
    intro t ht
    obtain ⟨l, hl, rfl⟩ := List.mem_map.mp ht
    exact (named_leavesOf h l hl).comma_not_mem
  refine ⟨_, text_ordering h c, clauseOf_eq_empty_iff _, fun hne => ⟨_, if_neg hne, ?_⟩⟩
  exact splitRow_intercalate (mt List.map_eq_nil_iff.mp hne) hitems

/-- An ordering with a column under an alias, one at the top, an alias without columns and a name
with a word; the codes are a one that is written with a fraction, and what is no number. -/
def mixedOrdering : List Entry :=
  [.table "u" [("name", .double (.finite false 2 (-1))), ("a\"b", .double .nan)],
    .table "v" [], .unfit "id" (.text "asc") rfl rfl, .column "id" (.whole (-1))]

/-- The items of `mixedOrdering` are read back from its clause. -/
theorem ordering_leaves_mixed :
    (∀ e ∈ mixedOrdering, e.Named) ∧
      ∃ row, (text (ordering mixedOrdering)).outcome {} = .ok (" ORDER BY " ++ row) ∧
        splitRow row = ["u.name ASC", "u.a\"b DESC", "id DESC"] := by
  have hnamed : ∀ e ∈ mixedOrdering, e.Named := by
    unfold Entry.Named
    decide
  obtain ⟨t, ht, -, hrow⟩ := ordering_leaves {} mixedOrdering hnamed
  obtain ⟨row, rfl, hsplit⟩ := hrow (by decide)
  -- a direction is computed from the code, and not from the number that the code is
  have hitem : Leaf.item = fun l => l.qualified ++ " " ++ directionFor l.code.value :=
    funext fun l => by rw [Leaf.item, Code.directionFor_value]
  refine ⟨hnamed, row, ht, hsplit.trans ?_⟩
  rw [hitem]
  decide

end OrderBy

end SqlText
