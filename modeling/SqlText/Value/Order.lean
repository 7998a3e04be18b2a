import SqlText.Fault
import SqlText.Number.Exact
import SqlText.Sorting.Runs

/-!
# Equality and order of values — mapping keys and their sorted lists

    [Value.text "b", .text "a"] |> sorted  =  .ok [.text "a", .text "b"]

Two values are the same key when they are equal in value: a number equals every number of
its value, truth values count as one and zero, and collections are equal item by item.
What is no number equals nothing, itself included. Only values of like kinds are ordered,
and the first comparison of unlike kinds is the fault of a sort.
-/

namespace SqlText

/-- The number that a value is, truth values included. -/
def Value.number? : Value → Option Number
  | .bool b    => some (.exact (Exact.ofInt (if b then 1 else 0)))
  | .int n     => some (.exact (Exact.ofInt n))
  | .float x   => some (.ofDouble x)
  | .decimal d => some (.ofDecimal d)
  | _          => none

/-- Are both values numbers, and equal ones? -/
def sameNumber (v w : Value) : Bool :=
  match v.number?, w.number? with
  | some x, some y => x.same y
  | _,      _      => false

/-- Are two points in time equal? Without an offset only another one without can be. -/
def DateTime.same (t u : DateTime) : Bool :=
  t.offset.isSome == u.offset.isSome && t.instant == u.instant

mutual

/-- Are two values one mapping key? -/
def Value.same : Value → Value → Bool
  | .null,       .null       => true
  | .text s,     .text t     => s == t
  | .bytes bs,   .bytes cs   => bs == cs
  | .list xs,    .list ys    => sameItems xs ys
  | .tuple xs,   .tuple ys   => sameItems xs ys
  | .date d,     .date e     => d == e
  | .datetime t, .datetime u => t.same u
  | .raw s,      .raw t      => s == t
  | .keyword s,  .keyword t  => s == t
  | .noElse,     .noElse     => true
  | .columns (.raw a),    .columns (.raw a')    => a.same a'
  | .columns (.names a),  .columns (.names a')  => a.same a'
  | .columns (.tables a), .columns (.tables a') => a.same a'
  | .columnGroup ⟨a, b⟩,  .columnGroup ⟨a', b'⟩ => a.same a' && b.same b'
  | .orderBy (.raw a),    .orderBy (.raw a')    => a.same a'
  | .orderBy (.keys a),   .orderBy (.keys a')   => a.same a'
  | .sortKey ⟨a, b, c⟩,   .sortKey ⟨a', b', c'⟩ => a.same a' && b.same b' && c.same c'
  | .join (.explicit a b c), .join (.explicit a' b' c') =>
    a.same a' && b.same b' && c.same c'
  | .join (.equi a b c d e f), .join (.equi a' b' c' d' e' f') =>
    a.same a' && b.same b' && c.same c' && d.same d' && e.same e' && f.same f'
  | .subQuery ⟨a, b⟩,   .subQuery ⟨a', b'⟩   => a.same a' && b.same b'
  | .aggregate ⟨a, b⟩,  .aggregate ⟨a', b'⟩  => a.same a' && b.same b'
  | .recursiveCte ⟨a, b, c⟩, .recursiveCte ⟨a', b', c'⟩ =>
    a.same a' && b.same b' && c.same c'
  | .paging ⟨a, b⟩,     .paging ⟨a', b'⟩     => a.same a' && b.same b'
  | .caseBranch ⟨a, b⟩, .caseBranch ⟨a', b'⟩ => a.same a' && b.same b'
  | .caseExpr ⟨a, b⟩,   .caseExpr ⟨a', b'⟩   => a.same a' && b.same b'
  | .settings ⟨a, b, c, d, e, f, g⟩, .settings ⟨a', b', c', d', e', f', g'⟩ =>
    a.same a' && b.same b' && c.same c' && d.same d' && e.same e' && f.same f' && g.same g'
  | v, w => sameNumber v w
termination_by structural v => v

/-- Are two lists equal item by item? -/
def sameItems : List Value → List Value → Bool
  | [],      []      => true
  | x :: xs, y :: ys => x.same y && sameItems xs ys
  | _,       _       => false
termination_by structural xs => xs

end

/-- The value of a mapping under any key, null where there is none. -/
def lookup (key : Value) : List (Value × Value) → Value
  | []           => .null
  | (k, v) :: es => if k.same key then v else lookup key es

/-- Puts an entry into a mapping: a key that is there keeps its place and takes the new value,
a new one comes last. -/
def insertEntry (key value : Value) : List (Value × Value) → List (Value × Value)
  | []           => [(key, value)]
  | (k, v) :: es =>
    if k.same key then (k, value) :: es else (k, v) :: insertEntry key value es

/-- Do two lists hold the same keys, in whatever order? -/
def sameKeySet (ks ls : List Value) : Bool :=
  ks.all (fun k => ls.any (·.same k)) && ls.all (fun l => ks.any (·.same l))

/-- Is a value a decimal number? -/
def Value.isDecimal : Value → Bool
  | .decimal _ => true
  | _          => false

/-- The order of two numbers. Where one of them is a decimal, the other has to be a number
indeed. -/
def ltNumber (v w : Value) (x y : Number) : Except Fault Bool :=
  if (v.isDecimal || w.isDecimal) && (x.isNan || y.isNan) then .error .invalidOperation
  else .ok (x.lt y)

/-- Is a value a decimal that is no number? -/
def Value.isDecimalNaN : Value → Bool
  | .decimal (.nan ..) => true
  | _                  => false

/-- The order of two values that are not collections. -/
def ltScalar (v w : Value) : Except Fault Bool :=
  match v, w with
  | .text s,     .text t     => .ok (s < t)
  | .bytes bs,   .bytes cs   => .ok (bs.map UInt8.toNat < cs.map UInt8.toNat)
  | .date d,     .date e     => .ok (d.dayNumber < e.dayNumber)
  | .datetime t, .datetime u =>
    if t.offset.isSome == u.offset.isSome then .ok (t.instant < u.instant)
    else .error (.type .mixedOffsets)
  | .date _,     .datetime _ => .error (.type .mixedDates)
  | .datetime _, .date _     => .error (.type .mixedDates)
  | _,           _           =>
    match v.number?, w.number? with
    | some x, some y => ltNumber v w x y
    | _,      _      => .error (.type (.notOrdered "<" v.typePath w.typePath))

mutual

/-- Is the first value below the second? Collections are compared at their first
difference. -/
def Value.lt : Value → Value → Except Fault Bool
  | .list xs,  .list ys  => ltItems xs ys
  | .tuple xs, .tuple ys => ltItems xs ys
  | v,         w         => ltScalar v w
termination_by structural v => v

/-- The order of two lists: that of their first unequal items, or of their lengths. -/
def ltItems : List Value → List Value → Except Fault Bool
  | x :: xs, y :: ys => if x.same y then ltItems xs ys else x.lt y
  | [],      _ :: _  => .ok true
  | _,       []      => .ok false
termination_by structural xs => xs

end

/-- The values in increasing order, equal ones in the order given. -/
def sorted (vs : List Value) : Except Fault (List Value) := Sorting.sort Value.lt vs

end SqlText
