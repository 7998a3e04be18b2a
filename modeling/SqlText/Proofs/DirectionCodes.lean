import Mathlib.Algebra.BigOperators.Group.List.Basic
import SqlText.Proofs.MappingEntries
import SqlText.Proofs.OrderingLeaves

/-!
# Direction codes — at the top of an ordering and under an alias

    {"name": "asc"}           no clause
    {"u": {"name": "asc"}}    ORDER BY u.name DESC

A code may be of any type. A number says the same wherever it stands: upwards where it is one,
and downwards elsewhere. A truth value, or anything else that is no number, leaves its column out
at the top; under an alias every column is kept, and such a code sorts downwards. So columns under
an alias give the items of the same columns at the top, each with the alias before it, once what
is no number is read as a number that sorts downwards, and without that only where every code is
a number.

* **`Code.ofValue`**: the number that a code is read as under an alias.
* **`length_clauseOf_lt`**: a clause without some of its leaves is shorter.
* **`codes_by_level`**: the clause of codes of any type, at the top and under an alias.
* **`words_sort_under_aliases`**: an alias before the columns is not all that it changes.
-/

namespace SqlText

namespace OrderBy

/-! ## Codes of any type -/

/-- The number that a code is read as under an alias: a number as itself, and what is no number
as one that sorts downwards. -/
def Code.ofValue : Value → Code
  | .int n   => .whole n
  | .float x => .double x
  | _        => .whole 0

theorem Code.directionFor_ofValue (v : Value) :
    directionFor (Code.ofValue v).value = directionFor v := by
  cases v <;> rfl

/-- The direction of a leaf is computed from its code, and not from the number that the code is. -/
theorem Leaf.item_eq :
    Leaf.item = fun l => l.qualified ++ " " ++ directionFor l.code.value :=
  funext fun l => by rw [item, Code.directionFor_value]

theorem Code.ofValue_value (code : Code) : Code.ofValue code.value = code := by
  cases code <;> rfl

theorem Code.isPlainNumber_value (code : Code) : code.value.isPlainNumber = true := by
  cases code <;> rfl

/-- Columns with codes of any type. -/
abbrev Codes := List (String × Value)

namespace Codes

/-- The columns at the top of an ordering. -/
def atTop (m : Codes) : Value := .mapping (named m)

/-- The columns under an alias. -/
def underAlias (label : String) (m : Codes) : Value := .mapping [(.text label, .mapping (named m))]

/-- The codes as the numbers that they are read as under an alias. -/
def numbered (m : Codes) : Codes := m.map fun p => (p.1, (Code.ofValue p.2).value)

/-- The leaf of a column at the top. -/
def topLeaf (p : String × Value) : Leaf := ⟨none, p.1, .ofValue p.2⟩

/-- The leaves at the top: columns whose codes are numbers. -/
def topLeaves (m : Codes) : List Leaf := (m.filter fun p => p.2.isPlainNumber).map topLeaf

end Codes

/-- The leaf with an alias before its column. -/
def Leaf.under (label : String) (l : Leaf) : Leaf := { l with table := some label }

/-- An entry of an ordering whose codes are of any type: a column with a code, or an alias with
columns. -/
inductive CodedEntry where
  | column (name : String) (code : Value) (plain : code.entries? = none)
  | table (label : String) (codes : Codes)

namespace CodedEntry

/-- The entry of a mapping. -/
def pair : CodedEntry → Value × Value
  | column name code _ => (.text name, code)
  | table label codes  => (.text label, .mapping (named codes))

/-- The leaves of an entry: a column at the top has one where its code is a number, and a column
under an alias has one whatever its code is. -/
def leaves : CodedEntry → List Leaf
  | column name code _ => Codes.topLeaves [(name, code)]
  | table label codes  => codes.numbered.topLeaves.map (Leaf.under label)

/-- An alias is not empty. -/
def Labelled : CodedEntry → Prop
  | column ..     => True
  | table label _ => label ≠ ""

end CodedEntry

/-! ## What is read -/

namespace Codes

/-- The leaves at the top come from one column after the other. -/
theorem topLeaves_eq_flatMap (m : Codes) : m.topLeaves = m.flatMap fun p => topLeaves [p] := by
  show _ = m.flatMap fun p => ([p].filter fun q => q.2.isPlainNumber).map topLeaf
  rw [← List.map_flatMap, ← List.filter_flatMap, List.flatMap_singleton']
  rfl

/-- Every code that is read as a number has its leaf. -/
theorem topLeaves_numbered (m : Codes) : m.numbered.topLeaves = m.map topLeaf := by
  have hall : ∀ p ∈ m.numbered, p.2.isPlainNumber = true := by
    intro p hp
    obtain ⟨q, -, rfl⟩ := List.mem_map.mp hp
    exact (Code.ofValue q.2).isPlainNumber_value
  rw [topLeaves, List.filter_eq_self.mpr hall, numbered, List.map_map]
  refine List.map_congr_left fun p _ => ?_
  rw [Function.comp_apply, topLeaf, Code.ofValue_value, topLeaf]

/-- A column under an alias is read as the key of a leaf, which has the direction of its code. -/
theorem key_under (label : String) (p : String × Value) :
    ((topLeaf p).under label).key = keyOf (.text label) (.text p.1) p.2 := by
  show keyOf (.text label) (.text p.1) (Code.ofValue p.2).value = _
  rw [keyOf, Code.directionFor_ofValue, keyOf]

end Codes

/-- An entry is read as the keys of its leaves. -/
theorem CodedEntry.keysOf_pair (e : CodedEntry) (c : Context) :
    (keysOf e.pair.1 e.pair.2).outcome c = .ok (e.leaves.map Leaf.key) := by
  cases e with
  | column name code plain =>
      cases code with
      | mapping es => exact nomatch plain
      | _ => rfl
  | table label codes =>
      show Except.ok _ = _
      rw [leaves, Codes.topLeaves_numbered, List.map_map, List.map_map, named, List.map_map]
      refine congrArg Except.ok (List.map_congr_left fun p _ => ?_)
      exact (Codes.key_under label p).symm

theorem CodedEntry.Labelled.leaves {e : CodedEntry} (h : e.Labelled) :
    ∀ l ∈ e.leaves, l.Labelled := by
  cases e with
  | column name code plain =>
      intro l hl
      obtain ⟨p, -, rfl⟩ := List.mem_map.mp hl
      exact nofun
  | table label codes =>
      intro l hl
      obtain ⟨l, -, rfl⟩ := List.mem_map.mp hl
      exact fun hlabel => h (Option.some.inj hlabel)

/-- An ordering with codes of any type is written as the clause of its leaves. -/
theorem text_coded {entries : List CodedEntry} (h : ∀ e ∈ entries, e.Labelled) (c : Context) :
    (text (.mapping (entries.map CodedEntry.pair))).outcome c =
      .ok (clauseOf (entries.flatMap CodedEntry.leaves)) := by
  refine text_mapping (fun e _ => e.keysOf_pair c) fun l hl => ?_
  obtain ⟨e, he, hl⟩ := List.mem_flatMap.mp hl
  exact (h e he).leaves l hl

/-- Columns at the top are written as their leaves. -/
theorem text_atTop {m : Codes} (hm : ∀ p ∈ m, p.2.entries? = none) (c : Context) :
    (text m.atTop).outcome c = .ok (clauseOf m.topLeaves) := by
  rw [Codes.topLeaves_eq_flatMap]
  refine text_mapping (fun p hp => ?_) fun l hl => ?_
  · exact (CodedEntry.column p.1 p.2 (hm p hp)).keysOf_pair c
  · obtain ⟨p, -, hl⟩ := List.mem_flatMap.mp hl
    obtain ⟨p, -, rfl⟩ := List.mem_map.mp hl
    exact nofun

/-- Columns under an alias are written as the leaves of the same columns with numbers, each with
the alias before it. -/
theorem text_underAlias {label : String} (h : label ≠ "") (m : Codes) (c : Context) :
    (text (m.underAlias label)).outcome c =
      .ok (clauseOf (m.numbered.topLeaves.map (Leaf.under label))) := by
  have hlabelled : ∀ e ∈ [CodedEntry.table label m], e.Labelled :=
    List.forall_mem_singleton.mpr h
  have htext := text_coded hlabelled c
  rw [List.flatMap_singleton] at htext
  exact htext

/-! ## Where both levels agree -/

/-- The characters that a leaf takes up in a clause, those of the separator included. -/
def Leaf.width (l : Leaf) : Nat := l.item.length + 2

theorem length_clauseOf {leaves : List Leaf} (h : leaves ≠ []) :
    (clauseOf leaves).length = 8 + (leaves.map Leaf.width).sum := by
  have hrow := length_intercalate ", " (mt List.map_eq_nil_iff.mp h : leaves.map Leaf.item ≠ [])
  rw [List.map_map] at hrow
  have hsum : (leaves.map Leaf.width).sum = (", ".intercalate (leaves.map Leaf.item)).length + 2 :=
    hrow.symm
  rw [clauseOf, if_neg h, String.length_append, hsum]
  show 10 + _ = 8 + (_ + 2)
  omega

/-- A clause without some of its leaves is shorter. -/
theorem length_clauseOf_lt {ls ms : List Leaf} (h : ls.Sublist ms) (hlt : ls.length < ms.length) :
    (clauseOf ls).length < (clauseOf ms).length := by
  have hms : ms ≠ [] := List.ne_nil_of_length_pos (Nat.zero_lt_of_lt hlt)
  by_cases hls : ls = []
  · rw [hls, length_clauseOf hms]
    show 0 < _
    omega
  obtain ⟨rest, hperm⟩ := h.exists_perm_append
  have hrest : rest ≠ [] := by
    rintro rfl
    rw [hperm.length_eq, List.append_nil] at hlt
    exact absurd hlt (Nat.lt_irrefl _)
  obtain ⟨l, rest, rfl⟩ := List.exists_cons_of_ne_nil hrest
  have hsum := (hperm.map Leaf.width).sum_eq
  rw [List.map_append, List.sum_append, List.map_cons, List.sum_cons] at hsum
  have hwidth : 0 < l.width := Nat.succ_pos _
  rw [length_clauseOf hms, length_clauseOf hls]
  omega

/-- The alias before the columns is all that it changes exactly where every code is a number. -/
theorem clauseOf_under_eq_iff (label : String) (m : Codes) :
    clauseOf (m.numbered.topLeaves.map (Leaf.under label)) =
      clauseOf (m.topLeaves.map (Leaf.under label)) ↔ ∀ p ∈ m, p.2.isPlainNumber = true := by
  rw [Codes.topLeaves_numbered, Codes.topLeaves]
  constructor
  · intro h p hp
    by_contra hcode
    have hfilter : (m.filter fun p => p.2.isPlainNumber).length < m.length :=
      List.length_filter_lt_length_iff_exists.mpr ⟨p, hp, hcode⟩
    have hsublist : (m.filter fun p => p.2.isPlainNumber).Sublist m := List.filter_sublist
    have hshorter := length_clauseOf_lt ((hsublist.map Codes.topLeaf).map (Leaf.under label))
      (by simpa only [List.length_map] using hfilter)
    rw [h] at hshorter
    exact absurd hshorter (Nat.lt_irrefl _)
  · intro h
    rw [List.filter_eq_self.mpr h]

/-! ## Both levels -/

/-- The clause of an ordering with codes of any type. At the top a column whose code is no number
has no item; under an alias every column has one, which sorts downwards where its code is no
number. So columns under an alias give the items of the same columns at the top with numbers for
codes, each with the alias before it, and those of the columns as they are exactly where every
code is a number. -/
theorem codes_by_level (c : Context) :
    (∀ entries : List CodedEntry, (∀ e ∈ entries, e.Labelled) →
      (text (.mapping (entries.map CodedEntry.pair))).outcome c =
        .ok (clauseOf (entries.flatMap CodedEntry.leaves))) ∧
    ∀ (label : String) (m : Codes), label ≠ "" → (∀ p ∈ m, p.2.entries? = none) →
      (text m.atTop).outcome c = .ok (clauseOf m.topLeaves) ∧
      (text (m.underAlias label)).outcome c =
        .ok (clauseOf (m.numbered.topLeaves.map (Leaf.under label))) ∧
      ((text (m.underAlias label)).outcome c =
        .ok (clauseOf (m.topLeaves.map (Leaf.under label))) ↔
          ∀ p ∈ m, p.2.isPlainNumber = true) := by
  refine ⟨fun entries h => text_coded h c, fun label m hlabel hm => ?_⟩
  have hunder := text_underAlias hlabel m c
  refine ⟨text_atTop hm c, hunder, ?_⟩
  rw [hunder, Except.ok.injEq]
  exact clauseOf_under_eq_iff label m

/-- Columns with a word, a one that is written with a fraction, a truth value and nothing for
their codes. -/
def mixedCodes : Codes :=
  [("a", .text "asc"), ("b", .float (.finite false 2 (-1))), ("c", .bool true), ("d", .null)]

/-- A column at the top whose code is a word, and `mixedCodes` under an alias. -/
def mixedEntries : List CodedEntry := [.column "x" (.text "up") rfl, .table "u" mixedCodes]

/-- Of `mixedCodes` one column is kept at the top, and under an alias all are. -/
theorem codes_by_level_mixed :
    (∀ e ∈ mixedEntries, e.Labelled) ∧ "u" ≠ "" ∧ (∀ p ∈ mixedCodes, p.2.entries? = none) ∧
      (text (.mapping (mixedEntries.map CodedEntry.pair))).outcome {} =
        .ok " ORDER BY u.a DESC, u.b ASC, u.c DESC, u.d DESC" ∧
      (text mixedCodes.atTop).outcome {} = .ok " ORDER BY b ASC" ∧
      (text (mixedCodes.underAlias "u")).outcome {} =
        .ok " ORDER BY u.a DESC, u.b ASC, u.c DESC, u.d DESC" := by
  have hlabel : "u" ≠ "" := by decide
  have hcodes : ∀ p ∈ mixedCodes, p.2.entries? = none := by decide
  have hentries : ∀ e ∈ mixedEntries, e.Labelled :=
    List.forall_mem_cons.mpr ⟨trivial, List.forall_mem_singleton.mpr hlabel⟩
  have hwhole := (codes_by_level {}).1 mixedEntries hentries
  obtain ⟨htop, hunder, -⟩ := (codes_by_level {}).2 "u" mixedCodes hlabel hcodes
  refine ⟨hentries, hlabel, hcodes, hwhole.trans ?_, htop.trans ?_, hunder.trans ?_⟩
  all_goals
    rw [clauseOf, Leaf.item_eq]
    rfl

/-- A word and a truth value sort their columns under an alias and leave them out at the top, so
that the columns under an alias are not those at the top with the alias before them. -/
theorem words_sort_under_aliases :
    (text (Codes.underAlias "t" [("a", .text "asc")])).outcome {} = .ok " ORDER BY t.a DESC" ∧
      (text (Codes.underAlias "t" [("a", .bool true)])).outcome {} = .ok " ORDER BY t.a DESC" ∧
      ¬ ∀ (label : String) (m : Codes), label ≠ "" →
        (∀ p ∈ m, p.1 ≠ "" ∧ p.2.entries? = none) →
          (text (m.underAlias label)).outcome {} =
            .ok (clauseOf (m.topLeaves.map (Leaf.under label))) := by
  refine ⟨rfl, rfl, fun h => ?_⟩
  have heq := h "t" [("a", .text "asc")] (by decide) (by decide)
  have hempty : " ORDER BY t.a DESC" = "" := Except.ok.inj heq
  exact absurd hempty (by decide)

end OrderBy

end SqlText
