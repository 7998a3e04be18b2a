import SqlText.Sorting.Search

/-!
# Merging — one sorted list from two that stand side by side

    mergeRuns lt 7 [1, 4, 6] [2, 3, 9]  =  .ok ([1, 2, 3, 4, 6, 9], 7)

Items that are in place already at either end stay there. Between them the shorter list is
merged into the longer one: from the front where the first is the shorter, and from the
back where the second is. A merge goes item by item until one list has won so often in a
row that its patience ends; then it moves in strides as long as the strides are long.
Patience shrinks while strides pay and grows when they stop, and is handed on to the next
merge. Items that compare as equal keep their order.
-/

namespace SqlText.Sorting

/-- The end at which a merge works. At the back both lists are held in reverse. -/
inductive Side where
  | front
  | back
deriving DecidableEq, Inhabited

/-- The middle that a search in strides from this end looks at. -/
def Side.middle : Side → Middle
  | .front => .upper
  | .back  => .lower

/-- Does an item of the first list go out before one of the second? At the front the
smaller goes out first and at the back the greater. -/
def Side.firstGoes (side : Side) (lt : α → α → Except ε Bool) (a b : α) : Except ε Bool :=
  match side with
  | .front => (lt b a).map not
  | .back  => lt b a

/-- A merge under way: what went out, the latest first, and what is left of either list. -/
structure Merge (α : Type) where
  out : List α
  first : List α
  second : List α

namespace Merge

/-- Is nothing left to compare? The shorter list's last item goes out after all others. -/
def isDone (side : Side) (m : Merge α) : Bool :=
  m.first.isEmpty || m.second.isEmpty ||
    (match side with
      | .front => m.first
      | .back  => m.second).length == 1

/-- What went out and then all that is left, in the order in which it goes out. -/
def finish (side : Side) (m : Merge α) : List α :=
  match side with
  | .front => m.out.reverse ++ (m.second ++ m.first)
  | .back  => m.out.reverse ++ (m.first ++ m.second)

/-- Puts out the first items of the first list. -/
def moveFirst (n : Nat) (m : Merge α) : Merge α :=
  ⟨(m.first.take n).reverse ++ m.out, m.first.drop n, m.second⟩

/-- Puts out the first items of the second list. -/
def moveSecond (n : Nat) (m : Merge α) : Merge α :=
  ⟨(m.second.take n).reverse ++ m.out, m.first, m.second.drop n⟩

/-- Puts out all items of the first list that go before the next one of the second. -/
def strideFirst (side : Side) (lt : α → α → Except ε Bool) (m : Merge α) :
    Except ε (Nat × Merge α) :=
  match m.second with
  | []     => .ok (0, m)
  | b :: _ => do
    let n ← countLeading side.middle (fun i =>
      match m.first[i]? with
      | some a => side.firstGoes lt a b
      | none   => .ok false) m.first.length
    return (n, m.moveFirst n)

/-- Puts out all items of the second list that go before the next one of the first. -/
def strideSecond (side : Side) (lt : α → α → Except ε Bool) (m : Merge α) :
    Except ε (Nat × Merge α) :=
  match m.first with
  | []     => .ok (0, m)
  | a :: _ => do
    let n ← countLeading side.middle (fun i =>
      match m.second[i]? with
      | some b => (side.firstGoes lt a b).map not
      | none   => .ok false) m.second.length
    return (n, m.moveSecond n)

/-- The least stride that pays. -/
def longStride : Nat := 7

/-- A stride of either list, each followed by the item that stopped it, and whether one of
the strides was long. It ends early when the merge is done. -/
def round (side : Side) (lt : α → α → Except ε Bool) (m : Merge α) :
    Except ε (Merge α × Bool) := do
  let (n, m) ← m.strideFirst side lt
  if m.isDone side then return (m, false)
  let m := m.moveSecond 1
  if m.isDone side then return (m, false)
  let (k, m) ← m.strideSecond side lt
  if m.isDone side then return (m, false)
  return (m.moveFirst 1, longStride ≤ n || longStride ≤ k)

end Merge

/-- How a merge goes on: item by item, with the wins in a row of either list, or in
strides. -/
inductive Pace where
  | single (firstWins secondWins : Nat)
  | strides

/-- Merges until the merge is done. Every step puts out one item at least, so as many steps
as there are items are enough. -/
def mergeSteps (side : Side) (lt : α → α → Except ε Bool) :
    Nat → Pace → Nat → Merge α → Except ε (Merge α × Nat)
  | 0,         _,    patience, m => .ok (m, patience)
  | steps + 1, pace, patience, m =>
    if m.isDone side then .ok (m, patience)
    else
      match pace, m.first, m.second with
      | .single wins losses, a :: _, b :: _ => do
        if ← side.firstGoes lt a b then
          mergeSteps side lt steps (if patience ≤ wins + 1 then .strides else .single (wins + 1) 0)
            patience (m.moveFirst 1)
        else
          mergeSteps side lt steps
            (if patience ≤ losses + 1 then .strides else .single 0 (losses + 1))
            patience (m.moveSecond 1)
      | _, _, _ => do
        let (m, long) ← m.round side lt
        if m.isDone side then return (m, patience)
        else if long then mergeSteps side lt steps .strides (max 1 (patience - 1)) m
        else mergeSteps side lt steps (.single 0 0) (patience + 1) m

/-- Merges from the front; the second list's first item is known to go out first. -/
def mergeFront (lt : α → α → Except ε Bool) (patience : Nat) (as bs : List α) :
    Except ε (List α × Nat) := do
  let m : Merge α := ⟨[], as, bs⟩
  let (m, patience) ←
    mergeSteps .front lt (as.length + bs.length) (.single 0 0) patience (m.moveSecond 1)
  return (m.finish .front, patience)

/-- Merges from the back; the first list's last item is known to go out first. -/
def mergeBack (lt : α → α → Except ε Bool) (patience : Nat) (as bs : List α) :
    Except ε (List α × Nat) := do
  let m : Merge α := ⟨[], as.reverse, bs.reverse⟩
  let (m, patience) ←
    mergeSteps .back lt (as.length + bs.length) (.single 0 0) patience (m.moveFirst 1)
  return ((m.finish .back).reverse, patience)

/-- How many items at the front of the first list are not above the second's first. -/
def countInPlace (lt : α → α → Except ε Bool) (as : List α) (b : α) : Except ε Nat :=
  countLeading .upper (fun i =>
    match as[i]? with
    | some a => (lt b a).map not
    | none   => .ok false) as.length

/-- How many items at the back of the second list are not below the first's last. -/
def countBeyond (lt : α → α → Except ε Bool) (a : α) (bs : List α) : Except ε Nat :=
  countLeading .lower (fun i =>
    match bs.reverse[i]? with
    | some b => (lt b a).map not
    | none   => .ok false) bs.length

/-- Two sorted lists as one, and the patience that is left for the next merge. -/
def mergeRuns (lt : α → α → Except ε Bool) (patience : Nat) (as bs : List α) :
    Except ε (List α × Nat) := do
  match bs with
  | []     => return (as, patience)
  | b :: _ =>
    let n ← countInPlace lt as b
    match (as.drop n).getLast? with
    | none   => return (as ++ bs, patience)
    | some a =>
      let k := bs.length - (← countBeyond lt a bs)
      if k = 0 then return (as ++ bs, patience)
      let (merged, patience) ←
        if (as.drop n).length ≤ k then mergeFront lt patience (as.drop n) (bs.take k)
        else mergeBack lt patience (as.drop n) (bs.take k)
      return (as.take n ++ merged ++ bs.drop k, patience)

end SqlText.Sorting
