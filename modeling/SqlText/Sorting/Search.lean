/-!
# Leading items — how far a property holds from the front

    countLeading .upper (fun i => .ok (i < 37)) 100  =  .ok 37

A property that holds of the first places and of none after them is searched in strides
that double, and then by halving between the last two places tried. Asking the property
may fail, and what is found of a property without that shape depends on the places asked:
they are fixed here.
-/

namespace SqlText.Sorting

/-- Which of two middle places is asked where an interval has two. -/
inductive Middle where
  | lower
  | upper
deriving DecidableEq, Inhabited

/-- The middle place of an interval from `lo` to below `hi`. -/
def Middle.between (m : Middle) (lo hi : Nat) : Nat :=
  match m with
  | lower => lo + (hi - lo - 1) / 2
  | upper => lo + (hi - lo) / 2

theorem Middle.le_between (m : Middle) (lo hi : Nat) : lo ≤ m.between lo hi := by
  cases m <;> simp [Middle.between]

theorem Middle.between_lt (m : Middle) {lo hi : Nat} (h : lo < hi) : m.between lo hi < hi := by
  cases m <;> simp only [Middle.between] <;> omega

/-- The first place from `lo` on that does not have the property, found by halving. -/
def bisect (m : Middle) (holds : Nat → Except ε Bool) (lo hi : Nat) : Except ε Nat :=
  if h : lo < hi then do
    have := m.le_between lo hi
    have := m.between_lt h
    if ← holds (m.between lo hi) then bisect m holds (m.between lo hi + 1) hi
    else bisect m holds lo (m.between lo hi)
  else .ok lo
termination_by hi - lo

/-- The last place found to have the property, and the first one found not to have it or
else `n`. The places asked are `next`, twice that and one, and so on. -/
def stride (holds : Nat → Except ε Bool) (n last next : Nat) : Except ε (Nat × Nat) :=
  if h : next < n then do
    if ← holds next then stride holds n next (2 * next + 1) else return (last, next)
  else .ok (last, n)
termination_by n - next

/-- How many of `n` places have the property, all before the first that does not. -/
def countLeading (m : Middle) (holds : Nat → Except ε Bool) (n : Nat) : Except ε Nat := do
  if n = 0 then return 0
  else if ← holds 0 then
    let (last, next) ← stride holds n 0 1
    bisect m holds (last + 1) next
  else return 0

end SqlText.Sorting
