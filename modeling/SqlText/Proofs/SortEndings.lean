import SqlText.Proofs.Endings
import SqlText.Value.Order

/-!
# Sorting and its comparisons — a sort ends as the comparisons of its items do

    (∀ a b, P a → P b → FaultsIn Q (lt a b))  gives  Ends (every item has P) Q (sort lt xs)

A sort compares items of its list and nothing else, and it has no fault of its own: what no
comparison of two such items ends in, the sort does not end in either. The items that it
gives back are items of the list. Each part of the sort keeps this, from the search of a
place up to the merging of all runs.

* **`ends_mergeRuns`**: two runs side by side.
* **`ends_sort`**: the whole sort.
* **`faultsIn_sorted`**, **`exists_sorted_of_texts`**: a sort of values, and one of texts.
-/

namespace SqlText.Sorting

variable {ε α : Type} {P : α → Prop} {Q : ε → Prop} {lt : α → α → Except ε Bool}

/-- Every item of a list has a property. -/
def All (P : α → Prop) (xs : List α) : Prop := ∀ x ∈ xs, P x

namespace All

variable {xs ys : List α}

theorem nil : All P [] := fun _ hx => absurd hx List.not_mem_nil

theorem cons {x : α} (hx : P x) (hxs : All P xs) : All P (x :: xs) :=
  List.forall_mem_cons.mpr ⟨hx, hxs⟩

theorem head {x : α} (h : All P (x :: xs)) : P x := h x List.mem_cons_self

theorem tail {x : α} (h : All P (x :: xs)) : All P xs := fun y hy => h y (List.mem_cons_of_mem x hy)

theorem append (hxs : All P xs) (hys : All P ys) : All P (xs ++ ys) :=
  List.forall_mem_append.mpr ⟨hxs, hys⟩

theorem take (h : All P xs) (n : Nat) : All P (xs.take n) :=
  fun x hx => h x (List.mem_of_mem_take hx)

theorem drop (h : All P xs) (n : Nat) : All P (xs.drop n) :=
  fun x hx => h x (List.mem_of_mem_drop hx)

theorem reverse (h : All P xs) : All P xs.reverse := fun x hx => h x (List.mem_reverse.mp hx)

end All

/-! ## Searching -/

theorem faultsIn_bisect {holds : Nat → Except ε Bool} (h : ∀ i, FaultsIn Q (holds i))
    (m : Middle) (lo hi : Nat) : FaultsIn Q (bisect m holds lo hi) := by
  fun_induction bisect m holds lo hi with
  | case1 lo hi _ _ _ ihUpper ihLower =>
      refine (h _).bind fun b => ?_
      cases b with
      | true => exact ihUpper
      | false => exact ihLower
  | case2 lo hi _ => trivial

theorem faultsIn_stride {holds : Nat → Except ε Bool} (h : ∀ i, FaultsIn Q (holds i))
    (n last next : Nat) : FaultsIn Q (stride holds n last next) := by
  fun_induction stride holds n last next with
  | case1 last next _ ih =>
      refine (h _).bind fun b => ?_
      cases b with
      | true => exact ih
      | false => trivial
  | case2 last next _ => trivial

theorem faultsIn_countLeading {holds : Nat → Except ε Bool} (h : ∀ i, FaultsIn Q (holds i))
    (m : Middle) (n : Nat) : FaultsIn Q (countLeading m holds n) := by
  rw [countLeading]
  split
  · trivial
  · refine (h 0).bind fun b => ?_
    cases b with
    | true => exact (faultsIn_stride h n 0 1).bind fun places => faultsIn_bisect h m _ _
    | false => trivial

/-- A property of places that compares the item there, if there is one. -/
theorem faultsIn_place {xs : List α} (hxs : All P xs) {f : α → Except ε Bool}
    (hf : ∀ x, P x → FaultsIn Q (f x)) (i : Nat) :
    FaultsIn Q (match xs[i]? with
      | some x => f x
      | none   => .ok false) := by
  cases hx : xs[i]? with
  | none => trivial
  | some x => exact hf x (hxs x (List.mem_of_getElem? hx))

/-! ## Merging two runs -/

/-- Every item of a merge has a property. -/
structure Merge.Holds (P : α → Prop) (m : Merge α) : Prop where
  out : All P m.out
  first : All P m.first
  second : All P m.second

namespace Merge

variable {m : Merge α}

theorem Holds.moveFirst (h : m.Holds P) (n : Nat) : (m.moveFirst n).Holds P :=
  ⟨(h.first.take n).reverse.append h.out, h.first.drop n, h.second⟩

theorem Holds.moveSecond (h : m.Holds P) (n : Nat) : (m.moveSecond n).Holds P :=
  ⟨(h.second.take n).reverse.append h.out, h.first, h.second.drop n⟩

theorem Holds.finish (h : m.Holds P) (side : Side) : All P (m.finish side) := by
  cases side with
  | front => exact h.out.reverse.append (h.second.append h.first)
  | back => exact h.out.reverse.append (h.first.append h.second)

end Merge

section Comparisons

variable (hlt : ∀ a b, P a → P b → FaultsIn Q (lt a b))
include hlt

theorem faultsIn_firstGoes (side : Side) {a b : α} (ha : P a) (hb : P b) :
    FaultsIn Q (side.firstGoes lt a b) := by
  cases side with
  | front => exact (hlt b a hb ha).map not
  | back => exact hlt b a hb ha

theorem Merge.ends_strideFirst (side : Side) {m : Merge α} (h : m.Holds P) :
    Ends (fun r : Nat × Merge α => r.2.Holds P) Q (m.strideFirst side lt) := by
  unfold strideFirst
  split
  · exact h
  · rename_i b bs hsecond
    have hb : P b := h.second b (hsecond ▸ List.mem_cons_self)
    refine Ends.bind (faultsIn_countLeading (fun i => ?_) _ _) fun n _ => h.moveFirst n
    exact faultsIn_place h.first (fun a ha => faultsIn_firstGoes hlt side ha hb) i

theorem Merge.ends_strideSecond (side : Side) {m : Merge α} (h : m.Holds P) :
    Ends (fun r : Nat × Merge α => r.2.Holds P) Q (m.strideSecond side lt) := by
  unfold strideSecond
  split
  · exact h
  · rename_i a as hfirst
    have ha : P a := h.first a (hfirst ▸ List.mem_cons_self)
    refine Ends.bind (faultsIn_countLeading (fun i => ?_) _ _) fun n _ => h.moveSecond n
    exact faultsIn_place h.second (fun b hb => (faultsIn_firstGoes hlt side ha hb).map not) i

theorem Merge.ends_round (side : Side) {m : Merge α} (h : m.Holds P) :
    Ends (fun r : Merge α × Bool => r.1.Holds P) Q (m.round side lt) := by
  refine (ends_strideFirst hlt side h).bind fun ⟨n, m⟩ h => ?_
  dsimp only
  split
  · exact h
  split
  · exact h.moveSecond 1
  refine (ends_strideSecond hlt side (h.moveSecond 1)).bind fun ⟨k, m⟩ h => ?_
  dsimp only
  split
  · exact h
  · exact h.moveFirst 1

/-- Every step of a merge keeps the items and compares two of them at most. -/
theorem ends_mergeSteps (side : Side) :
    ∀ (steps : Nat) (pace : Pace) (patience : Nat) {m : Merge α}, m.Holds P →
      Ends (fun r : Merge α × Nat => r.1.Holds P) Q (mergeSteps side lt steps pace patience m) := by
  intro steps
  induction steps with
  | zero => intro pace patience m h; exact h
  | succ steps ih =>
      intro pace patience m h
      rw [mergeSteps.eq_def]
      dsimp only
      split
      · exact h
      split
      · rename_i a as b bs hfirst hsecond
        have ha : P a := h.first a (hfirst ▸ List.mem_cons_self)
        have hb : P b := h.second b (hsecond ▸ List.mem_cons_self)
        refine Ends.bind (faultsIn_firstGoes hlt side ha hb) fun goes _ => ?_
        cases goes with
        | true => exact ih _ _ (h.moveFirst 1)
        | false => exact ih _ _ (h.moveSecond 1)
      · refine (Merge.ends_round hlt side h).bind fun ⟨m, long⟩ h => ?_
        dsimp only
        split
        · exact h
        split
        · exact ih _ _ h
        · exact ih _ _ h

theorem ends_mergeFront (patience : Nat) {as bs : List α} (has : All P as) (hbs : All P bs) :
    Ends (fun r : List α × Nat => All P r.1) Q (mergeFront lt patience as bs) := by
  have h : Merge.Holds P ⟨[], as, bs⟩ := ⟨.nil, has, hbs⟩
  exact (ends_mergeSteps hlt .front _ _ _ (h.moveSecond 1)).bind fun _ h => h.finish .front

theorem ends_mergeBack (patience : Nat) {as bs : List α} (has : All P as) (hbs : All P bs) :
    Ends (fun r : List α × Nat => All P r.1) Q (mergeBack lt patience as bs) := by
  have h : Merge.Holds P ⟨[], as.reverse, bs.reverse⟩ := ⟨.nil, has.reverse, hbs.reverse⟩
  exact (ends_mergeSteps hlt .back _ _ _ (h.moveFirst 1)).bind fun _ h => (h.finish .back).reverse

theorem faultsIn_countInPlace {as : List α} {b : α} (has : All P as) (hb : P b) :
    FaultsIn Q (countInPlace lt as b) :=
  faultsIn_countLeading (fun i => faultsIn_place has (fun a ha => (hlt b a hb ha).map not) i) _ _

theorem faultsIn_countBeyond {a : α} {bs : List α} (ha : P a) (hbs : All P bs) :
    FaultsIn Q (countBeyond lt a bs) :=
  faultsIn_countLeading
    (fun i => faultsIn_place hbs.reverse (fun b hb => (hlt b a hb ha).map not) i) _ _

/-- Two runs whose items have a property give one whose items have it. -/
theorem ends_mergeRuns (patience : Nat) {as bs : List α} (has : All P as) (hbs : All P bs) :
    Ends (fun r : List α × Nat => All P r.1) Q (mergeRuns lt patience as bs) := by
  unfold mergeRuns
  split
  · exact has
  · rename_i b bs
    refine Ends.bind (faultsIn_countInPlace hlt has hbs.head) fun n _ => ?_
    split
    · exact has.append hbs
    · rename_i a hlast
      have ha : P a := has.drop n a (List.mem_of_getLast? hlast)
      refine Ends.bind (faultsIn_countBeyond hlt ha hbs) fun k _ => ?_
      dsimp only
      split
      · exact has.append hbs
      have htake := has.take n
      have hrest := hbs.drop ((b :: bs).length - k)
      split
      · refine (ends_mergeFront hlt patience (has.drop n) (hbs.take _)).bind fun _ h => ?_
        exact (htake.append h).append hrest
      · refine (ends_mergeBack hlt patience (has.drop n) (hbs.take _)).bind fun _ h => ?_
        exact (htake.append h).append hrest

/-! ## Runs -/

theorem faultsIn_runLength (falling : Bool) :
    ∀ {xs : List α} {before : α}, P before → All P xs →
      FaultsIn Q (runLength lt falling before xs) := by
  intro xs
  induction xs with
  | nil => intro before _ _; trivial
  | cons x xs ih =>
      intro before hbefore h
      refine (hlt x before h.head hbefore).bind fun goes => ?_
      split
      · exact (ih h.head h.tail).bind fun n => trivial
      · trivial

theorem ends_insertSorted {xs : List α} {v : α} (hxs : All P xs) (hv : P v) :
    Ends (All P) Q (insertSorted lt xs v) := by
  have hplaces := fun i => faultsIn_place hxs (fun x hx => (hlt v x hv hx).map not) i
  refine Ends.bind (faultsIn_bisect hplaces .upper 0 xs.length) fun n _ => ?_
  exact (hxs.take n).append (.cons hv (hxs.drop n))

theorem ends_nextRun (least : Nat) {a : α} {xs : List α} (ha : P a) (hxs : All P xs) :
    Ends (fun r : List α × Nat => All P r.1) Q (nextRun lt least a xs) := by
  cases xs with
  | nil => exact .cons ha .nil
  | cons b rest =>
      refine Ends.bind (hlt b a hxs.head ha) fun falling _ => ?_
      refine Ends.bind (faultsIn_runLength hlt falling hxs.head hxs.tail) fun n _ => ?_
      have hrun : All P (a :: b :: rest.take n) := .cons ha (.cons hxs.head (hxs.tail.take n))
      have hstart : All P (if falling then (a :: b :: rest.take n).reverse
          else a :: b :: rest.take n) := by
        split
        · exact hrun.reverse
        · exact hrun
      have hfill := (hxs.tail.drop n).take (least - (n + 2))
      exact (Ends.foldlM hstart fun xs h x hx => ends_insertSorted hlt h (hfill x hx)).bind
        fun _ h => h

/-! ## Merging all runs -/

/-- Two runs that are merged on the stack. -/
theorem ends_merged {early late : List α} (patience : Nat) (hearly : All P early)
    (hlate : All P late) {β : Type} {R : β → Prop} {f : List α × Nat → Except ε β}
    (hf : ∀ items patience, All P items → Ends R Q (f (items, patience))) :
    Ends R Q (mergeRuns lt patience early late >>= f) :=
  (ends_mergeRuns hlt patience hearly hlate).bind fun ⟨items, patience⟩ h => hf items patience h

theorem ends_settle (depth : Nat) (stack : List (Waiting α)) (patience : Nat)
    (h : All (fun w => All P w.items) stack) :
    Ends (fun r : List (Waiting α) × Nat => All (fun w => All P w.items) r.1) Q
      (settle lt depth stack patience) := by
  fun_induction settle lt depth stack patience with
  | case1 patience late early rest _ ih =>
      refine ends_merged hlt patience h.tail.head h.head fun items patience hitems => ?_
      exact ih items patience (.cons hitems h.tail.tail)
  | case2 patience late early rest _ => exact h
  | case3 few patience => exact h

theorem ends_push (total : Nat) {stack : List (Waiting α)} (patience : Nat) {run : List α}
    (h : All (fun w => All P w.items) stack) (hrun : All P run) :
    Ends (fun r : List (Waiting α) × Nat => All (fun w => All P w.items) r.1) Q
      (push lt total stack patience run) := by
  unfold push
  split
  · exact .cons hrun .nil
  · refine (ends_settle hlt _ _ patience h).bind fun settled h => ?_
    obtain ⟨stack, patience⟩ := settled
    cases stack with
    | nil => exact .cons hrun .nil
    | cons top rest => exact .cons hrun (.cons h.head h.tail)

theorem ends_mergeAll (stack : List (Waiting α)) (patience : Nat)
    (h : All (fun w => All P w.items) stack) :
    Ends (All P) Q (mergeAll lt stack patience) := by
  fun_induction mergeAll lt stack patience with
  | case1 patience => exact .nil
  | case2 patience run => exact h.head
  | case3 patience late middle =>
      exact ends_merged hlt patience h.tail.head h.head fun _ _ hitems => hitems
  | case4 patience late middle early rest _ ih =>
      refine ends_merged hlt patience h.tail.tail.head h.tail.head fun items patience hitems => ?_
      exact ih items patience (.cons h.head (.cons hitems h.tail.tail.tail))
  | case5 patience late middle early rest _ ih =>
      refine ends_merged hlt patience h.tail.head h.head fun items patience hitems => ?_
      exact ih items patience (.cons hitems (.cons h.tail.tail.head h.tail.tail.tail))

theorem ends_sortRest (total least : Nat) (stack : List (Waiting α)) (patience : Nat)
    (rest : List α) (h : All (fun w => All P w.items) stack) (hrest : All P rest) :
    Ends (All P) Q (sortRest lt total least stack patience rest) := by
  fun_induction sortRest lt total least stack patience rest with
  | case1 stack patience => exact ends_mergeAll hlt stack patience h
  | case2 stack patience a xs ih =>
      refine (ends_nextRun hlt least hrest.head hrest.tail).bind fun ⟨run, n⟩ hrun => ?_
      refine (ends_push hlt total patience h hrun).bind fun ⟨stack, patience⟩ h => ?_
      exact ih n stack patience h (hrest.tail.drop n)

/-- A sort ends in items of its list, or in a fault that a comparison of two of them ends in. -/
theorem ends_sort {xs : List α} (hxs : All P xs) : Ends (All P) Q (sort lt xs) :=
  ends_sortRest hlt _ _ [] _ xs .nil hxs

end Comparisons

end SqlText.Sorting

/-! ## Keys -/

namespace SqlText

/-- The faults in which a comparison of two values may end. -/
inductive Fault.FromOrder : Fault → Prop where
  | notOrdered (left right : String) : FromOrder (.type (.notOrdered "<" left right))
  | mixedOffsets : FromOrder (.type .mixedOffsets)
  | mixedDates : FromOrder (.type .mixedDates)
  | invalidOperation : FromOrder .invalidOperation

open Fault (FromOrder)

theorem faultsIn_ltScalar (v w : Value) : FaultsIn FromOrder (ltScalar v w) := by
  unfold ltScalar
  split
  case h_4 =>
    split
    · trivial
    · exact .mixedOffsets
  case h_5 => exact .mixedDates
  case h_6 => exact .mixedDates
  case h_7 =>
    split
    · unfold ltNumber
      split
      · exact .invalidOperation
      · trivial
    · exact .notOrdered _ _
  all_goals trivial

/-- Collections are compared by their items, so they bring in no other fault. -/
theorem Value.faultsIn_lt (v w : Value) : FaultsIn FromOrder (v.lt w) := by
  apply Value.lt.induct (fun v w => FaultsIn FromOrder (v.lt w))
    (fun xs ys => FaultsIn FromOrder (ltItems xs ys))
  all_goals
    intros
    simp only [Value.lt, ltItems]
  case case3 => exact faultsIn_ltScalar _ _
  case case4 hsame ih =>
    rw [if_pos hsame]
    exact ih
  case case5 hsame ih =>
    rw [if_neg hsame]
    exact ih
  case case6 => trivial
  case case7 => trivial
  all_goals assumption

/-- The keys of a sorted list are keys of the list, and the sort has only the faults of its
comparisons. -/
theorem faultsIn_sorted (vs : List Value) : FaultsIn FromOrder (sorted vs) := by
  have hlt : ∀ v w : Value, True → True → FaultsIn FromOrder (v.lt w) :=
    fun v w _ _ => v.faultsIn_lt w
  exact (Sorting.ends_sort hlt fun _ _ => trivial).faultsIn

/-- Texts can always be sorted. -/
theorem exists_sorted_of_texts {vs : List Value} (h : ∀ v ∈ vs, ∃ s, v = .text s) :
    ∃ ws, sorted vs = .ok ws := by
  have hlt : ∀ v w : Value, (∃ s, v = .text s) → (∃ s, w = .text s) →
      FaultsIn (fun _ => False) (v.lt w) := by
    rintro _ _ ⟨s, rfl⟩ ⟨t, rfl⟩
    rw [Value.lt]
    · trivial
    · intro xs ys h; exact nomatch h
    · intro xs ys h; exact nomatch h
  obtain ⟨ws, hws, -⟩ := (Sorting.ends_sort hlt h).exists_ok
  exact ⟨ws, hws⟩

end SqlText
