import SqlText.Proofs.Quoting

/-!
# Scanning tuples — rows of fields between parentheses

    readTuples "(1,\"a,b\"), (2,NULL)"  =  some [["1", "\"a,b\""], ["2", "NULL"]]

Tuples stand in a row with a comma and a blank between them. The scan cuts them at
parentheses and commas, but only at those outside all literals, so a field that shows none
of them comes back as it was written, whatever stands between its quotes.

* **`scan_field`**: the invariant of the scan: until a separator shows, the open field
  takes every character, and the quoting state goes along.
* **`readTuples_intercalate`**: tuples of such fields are read back.
-/

namespace SqlText

open Text (Quoting)
open Text.Quoting (outside)

/-- Where a scan of tuples stands: between two tuples, or within one that has some complete
fields, an open one and the state of its quotes. -/
inductive TupleScan where
  | between (tuples : List (List String))
  | within (tuples : List (List String)) (fields : List String) (field : List Char)
      (quoting : Quoting)

/-- The characters that cut tuples and fields. -/
def separators : List Char := ['(', ',', ')']

namespace TupleScan

/-- The scan after one more character; none where no tuple can go on like this. -/
def step : TupleScan → Char → Option TupleScan
  | between ts, c =>
    if c = '(' then some (within ts [] [] outside)
    else if c = ',' ∨ c = ' ' then some (between ts)
    else none
  | within ts fs f .outside, c =>
    if c = ',' then some (within ts (fs ++ [String.ofList f]) [] outside)
    else if c = ')' then some (between (ts ++ [fs ++ [String.ofList f]]))
    else if c = '(' then none
    else some (within ts fs (f ++ [c]) (outside.next c))
  | within ts fs f q, c => some (within ts fs (f ++ [c]) (q.next c))

/-- The scan after more characters. -/
def scan (s : TupleScan) (cs : List Char) : Option TupleScan := cs.foldlM step s

end TupleScan

/-- The tuples of a text, each with its fields; none where the text is no row of tuples. -/
def readTuples (s : String) : Option (List (List String)) :=
  match TupleScan.scan (.between []) s.toList with
  | some (.between ts) => some ts
  | _                  => none

/-- Fields as a tuple. -/
def tupleOfFields (fields : List String) : String := "(" ++ ",".intercalate fields ++ ")"

/-- A text that a scan cannot cut: outside its literals it shows no separator, and it leaves
no literal open. -/
structure IsField (t : String) : Prop where
  closed : outside.after t.toList = outside
  uncut : ∀ c ∈ outside.erase t.toList, c ∉ separators

namespace TupleScan

theorem scan_cons (s : TupleScan) (c : Char) (cs : List Char) :
    s.scan (c :: cs) = (s.step c).bind fun t => t.scan cs := List.foldlM_cons

theorem scan_append (s : TupleScan) (cs ds : List Char) :
    s.scan (cs ++ ds) = (s.scan cs).bind fun t => t.scan ds := List.foldlM_append

/-- A character that is no separator, or that does not show, goes into the open field. -/
theorem step_within {q : Quoting} {c : Char} (h : q.shows c = true → c ∉ separators)
    (ts : List (List String)) (fs : List String) (f : List Char) :
    (within ts fs f q).step c = some (within ts fs (f ++ [c]) (q.next c)) := by
  cases q with
  | outside =>
      have hc : c ∉ separators := h rfl
      simp only [separators, List.mem_cons, List.not_mem_nil, or_false, not_or] at hc
      rw [step, if_neg hc.2.1, if_neg hc.2.2, if_neg hc.1]
  | inside => rfl
  | escaped => rfl

/-- Until a separator shows the open field takes every character. -/
theorem scan_field (ts : List (List String)) (fs : List String) :
    ∀ (cs f : List Char) (q : Quoting), (∀ c ∈ q.erase cs, c ∉ separators) →
      (within ts fs f q).scan cs = some (within ts fs (f ++ cs) (q.after cs)) := by
  intro cs
  induction cs with
  | nil =>
      intro f q _
      rw [List.append_nil]
      rfl
  | cons c cs ih =>
      intro f q h
      have hc : q.shows c = true → c ∉ separators := by
        intro hs
        refine h c ?_
        rw [Quoting.erase_cons, if_pos hs]
        exact List.mem_cons_self
      have hcs : ∀ d ∈ (q.next c).erase cs, d ∉ separators := by
        intro d hd
        refine h d ?_
        rw [Quoting.erase_cons]
        by_cases hs : q.shows c
        · rw [if_pos hs]; exact List.mem_cons_of_mem c hd
        · rw [if_neg hs]; exact hd
      rw [scan_cons, step_within hc, Option.bind_some, ih (f ++ [c]) (q.next c) hcs,
        List.append_assoc]
      rfl

/-- The fields of an open tuple up to its end. -/
theorem scan_fields (ts : List (List String)) :
    ∀ (rest fs : List String) (t : String), (∀ u ∈ t :: rest, IsField u) →
      (within ts fs [] outside).scan ((",".intercalate (t :: rest)).toList ++ [')'])
        = some (between (ts ++ [fs ++ t :: rest])) := by
  intro rest
  induction rest with
  | nil =>
      intro fs t h
      obtain ⟨hclosed, huncut⟩ := h t List.mem_cons_self
      rw [String.intercalate_singleton, scan_append, scan_field ts fs t.toList [] outside huncut,
        hclosed, Option.bind_some, List.nil_append, scan_cons]
      show some (between (ts ++ [fs ++ [String.ofList t.toList]])) = _
      rw [String.ofList_toList]
  | cons u rest ih =>
      intro fs t h
      obtain ⟨⟨hclosed, huncut⟩, hrest⟩ := List.forall_mem_cons.mp h
      rw [String.intercalate_cons_cons, String.toList_append, String.toList_append,
        List.append_assoc, List.append_assoc, scan_append,
        scan_field ts fs t.toList [] outside huncut, hclosed, Option.bind_some,
        List.nil_append]
      show (within ts (fs ++ [String.ofList t.toList]) [] outside).scan
        ((",".intercalate (u :: rest)).toList ++ [')']) = _
      rw [String.ofList_toList, ih (fs ++ [t]) u hrest, List.append_assoc]
      rfl

/-- One tuple with at least one field. -/
theorem scan_tuple (ts : List (List String)) (t : String) (rest : List String)
    (h : ∀ u ∈ t :: rest, IsField u) :
    (between ts).scan (tupleOfFields (t :: rest)).toList = some (between (ts ++ [t :: rest])) := by
  rw [tupleOfFields, String.toList_append, String.toList_append, List.append_assoc]
  exact scan_fields ts rest [] t h

/-- Tuples in a row, each with at least one field. -/
theorem scan_tuples : ∀ (rows ts : List (List String)),
    (∀ row ∈ rows, row ≠ [] ∧ ∀ t ∈ row, IsField t) →
      (between ts).scan (", ".intercalate (rows.map tupleOfFields)).toList
        = some (between (ts ++ rows)) := by
  intro rows
  induction rows with
  | nil =>
      intro ts _
      rw [List.append_nil]
      rfl
  | cons row rows ih =>
      intro ts h
      obtain ⟨⟨hne, hrow⟩, hrows⟩ := List.forall_mem_cons.mp h
      obtain ⟨t, rest, rfl⟩ := List.exists_cons_of_ne_nil hne
      have hscan := scan_tuple ts t rest hrow
      cases rows with
      | nil => rw [List.map_singleton, String.intercalate_singleton, hscan]
      | cons row' rows =>
          rw [List.map_cons, List.map_cons, String.intercalate_cons_cons, String.toList_append,
            String.toList_append, List.append_assoc, scan_append, hscan, Option.bind_some]
          show (between (ts ++ [t :: rest])).scan
            (", ".intercalate ((row' :: rows).map tupleOfFields)).toList = _
          rw [ih (ts ++ [t :: rest]) hrows, List.append_assoc]
          rfl

end TupleScan

/-- Tuples are read back where each has at least one field and no field can be cut. -/
theorem readTuples_intercalate {rows : List (List String)}
    (h : ∀ row ∈ rows, row ≠ [] ∧ ∀ t ∈ row, IsField t) :
    readTuples (", ".intercalate (rows.map tupleOfFields)) = some rows := by
  rw [readTuples, TupleScan.scan_tuples rows [] h]
  rfl

/-- The case of a comma and a parenthesis between quotes, behind a quote that is protected. -/
example : readTuples "(1,\"a\\\",)\"), (2,NULL)" = some [["1", "\"a\\\",)\""], ["2", "NULL"]] := by
  decide

end SqlText
