import SqlText.Sorting.Merging

/-!
# Runs — sorting by the order that a list already has

    sort lt [3, 2, 1, 9, 4]  =  .ok [1, 2, 3, 4, 9]

A list is cut into runs, each the longest that rises or strictly falls; a falling run is
turned round, and a short one is filled up by inserting the items that follow it. Runs
wait on a stack and are merged with their neighbours in the order of a nearly optimal
merge tree. The sort is stable. A comparison may fail, and the first one that does is the
fault of the sort, so the comparisons made are a matter of the definition; so is the
outcome for an order that is no order.
-/

namespace SqlText.Sorting

/-- How many items continue a run that falls, or one that does not. -/
def runLength (lt : α → α → Except ε Bool) (falling : Bool) (before : α) :
    List α → Except ε Nat
  | []      => .ok 0
  | x :: xs => do
    if (← lt x before) == falling then return (← runLength lt falling x xs) + 1 else return 0

/-- Puts an item into a sorted list, behind its equals. -/
def insertSorted (lt : α → α → Except ε Bool) (xs : List α) (v : α) : Except ε (List α) := do
  let n ← bisect .upper (fun i =>
    match xs[i]? with
    | some x => (lt v x).map not
    | none   => .ok false) 0 xs.length
  return xs.take n ++ v :: xs.drop n

/-- A sorted run from the front of a list, and how many items after the first it took. It
has `least` items at least, if there are so many. -/
def nextRun (lt : α → α → Except ε Bool) (least : Nat) (a : α) :
    List α → Except ε (List α × Nat)
  | []        => .ok ([a], 0)
  | b :: rest => do
    let falling ← lt b a
    let n ← runLength lt falling b rest
    -- a falling run holds no equal items, so turning it round keeps their order
    let run := a :: b :: rest.take n
    let fill := (rest.drop n).take (least - (n + 2))
    let sorted ← fill.foldlM (insertSorted lt) (if falling then run.reverse else run)
    return (sorted, n + 1 + fill.length)

/-- The least length of a run: the number of items halved, rounding up at the end, until it
is below 64. -/
def leastRun (n : Nat) (odd : Bool) : Nat :=
  if n < 64 then n + odd.toNat else leastRun (n / 2) (odd || n % 2 == 1)
termination_by n

/-- The place of the first binary digit in which `a / n` and `b / n` differ, for two
numbers below `2 * n`; the number of places looked at is bounded. -/
def splitPlace (n : Nat) : Nat → Nat → Nat → Nat
  | 0,          _, _ => 0
  | places + 1, a, b =>
    if n ≤ a then splitPlace n places (2 * (a - n)) (2 * (b - n)) + 1
    else if n ≤ b then 1
    else splitPlace n places (2 * a) (2 * b) + 1

/-- The depth in the merge tree at which a run and the next one meet: that of the midpoints
of the two, `start` items standing before the first of them. -/
def meetingDepth (total start first second : Nat) : Nat :=
  let middle := 2 * start + first
  splitPlace total (total.log2 + 2) middle (middle + first + second)

/-- A run that waits to be merged, and the depth at which it meets the run after it. -/
structure Waiting (α : Type) where
  items : List α
  depth : Nat

/-- Merges the latest two runs as long as they meet deeper than a given depth. -/
def settle (lt : α → α → Except ε Bool) (depth : Nat) (stack : List (Waiting α))
    (patience : Nat) : Except ε (List (Waiting α) × Nat) :=
  match stack with
  | late :: early :: rest =>
    if depth < early.depth then do
      let (items, patience) ← mergeRuns lt patience early.items late.items
      settle lt depth (⟨items, early.depth⟩ :: rest) patience
    else .ok (stack, patience)
  | few => .ok (few, patience)
termination_by stack.length

/-- Puts a run on the stack, the runs that meet deeper merged before. -/
def push (lt : α → α → Except ε Bool) (total : Nat) (stack : List (Waiting α))
    (patience : Nat) (run : List α) : Except ε (List (Waiting α) × Nat) := do
  match stack with
  | []          => return ([⟨run, 0⟩], patience)
  | top :: rest =>
    let start := (rest.flatMap fun w => w.items).length
    let depth := meetingDepth total start top.items.length run.length
    match ← settle lt depth stack patience with
    | (top :: rest, patience) => return (⟨run, 0⟩ :: ⟨top.items, depth⟩ :: rest, patience)
    | ([],          patience) => return ([⟨run, 0⟩], patience)

/-- Merges all runs of the stack. The latest run waits while it is longer than the one
before the last two. -/
def mergeAll (lt : α → α → Except ε Bool) (stack : List (Waiting α)) (patience : Nat) :
    Except ε (List α) :=
  match stack with
  | []    => .ok []
  | [run] => .ok run.items
  | late :: middle :: rest =>
    match rest with
    | [] => do
      let (items, _) ← mergeRuns lt patience middle.items late.items
      return items
    | early :: rest => do
      if early.items.length < late.items.length then
        let (items, patience) ← mergeRuns lt patience early.items middle.items
        mergeAll lt (late :: ⟨items, 0⟩ :: rest) patience
      else
        let (items, patience) ← mergeRuns lt patience middle.items late.items
        mergeAll lt (⟨items, 0⟩ :: early :: rest) patience
termination_by stack.length

/-- Cuts the rest of a list into runs, puts them on the stack and merges them. -/
def sortRest (lt : α → α → Except ε Bool) (total least : Nat) (stack : List (Waiting α))
    (patience : Nat) (rest : List α) : Except ε (List α) :=
  match rest with
  | []      => mergeAll lt stack patience
  | a :: xs => do
    let (run, n) ← nextRun lt least a xs
    let (stack, patience) ← push lt total stack patience run
    sortRest lt total least stack patience (xs.drop n)
termination_by rest.length
decreasing_by simp only [List.length_drop, List.length_cons]; omega

/-- The items in increasing order, equal ones in the order given. -/
def sort (lt : α → α → Except ε Bool) (xs : List α) : Except ε (List α) :=
  sortRest lt xs.length (leastRun xs.length false) [] Merge.longStride xs

end SqlText.Sorting
