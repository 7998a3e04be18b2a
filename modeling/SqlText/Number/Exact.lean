import SqlText.Number.Decimal
import SqlText.Number.Double

/-!
# Exact comparison — whole, binary and decimal numbers on one line

    Exact.ofDouble (1/2)  =  Exact.ofDecimal 0.50

Every finite number of the three kinds is `± core * 2 ^ twos * 5 ^ fives` with a core that
neither two nor five divides. That form is unique, so two finite numbers are equal exactly
when their forms are, whatever their kinds; the order is that of the values. What is no
number is not in order with anything and equals nothing.
-/

namespace SqlText

/-- A finite number as `± core * 2 ^ twos * 5 ^ fives`, all factors two and five taken out. -/
structure Exact where
  negative : Bool
  core : Nat
  twos : Int
  fives : Int
deriving DecidableEq, Inhabited

namespace Exact

/-- Takes the factor `p` out of `n` at most `fuel` times: what is left, and how often. -/
def takeFactor (p : Nat) : Nat → Nat → Nat × Nat
  | 0,        n => (n, 0)
  | fuel + 1, n =>
    if n % p = 0 then ((takeFactor p fuel (n / p)).1, (takeFactor p fuel (n / p)).2 + 1)
    else (n, 0)

/-- The form of `± n * 2 ^ twos * 5 ^ fives`; zero has one form only. -/
def make (negative : Bool) (n : Nat) (twos fives : Int) : Exact :=
  if n = 0 then ⟨false, 0, 0, 0⟩
  else
    -- neither factor can be taken out more often than the number has bits
    let (odd, t) := takeFactor 2 (n.log2 + 1) n
    let (core, f) := takeFactor 5 (n.log2 + 1) odd
    ⟨negative, core, twos + t, fives + f⟩

/-- The value of an integer. -/
def ofInt (n : Int) : Exact := make (n < 0) n.natAbs 0 0

/-- The value of a double, if it is finite. -/
def ofDouble? : Double → Option Exact
  | .finite negative m e => some (make negative m e 0)
  | _                    => none

/-- The value of a decimal, if it is finite. -/
def ofDecimal? : Decimal → Option Exact
  | .finite negative c e => some (make negative c e e)
  | _                    => none

/-- Whole numbers below and above the binary logarithm of `5 ^ n`. -/
def fiveBits (n : Int) : Int × Int :=
  (min ((n * 2321928094).fdiv 1000000000) ((n * 2321928095).fdiv 1000000000),
    max ((n * 2321928094).fdiv 1000000000) ((n * 2321928095).fdiv 1000000000) + 1)

/-- Is the magnitude of the first below that of the second? The sizes settle it where they
are apart, so that no great power has to be computed. -/
def magnitudeLt (x y : Exact) : Bool :=
  let t := x.twos - y.twos
  let f := x.fives - y.fives
  if y.core = 0 then false
  else if x.core = 0 then true
  else if x.core.log2 + 1 + t + (fiveBits f).2 ≤ y.core.log2 then true
  else if (y.core.log2 + 1 : Int) ≤ x.core.log2 + t + (fiveBits f).1 then false
  else
    x.core * Nat.pow 2 t.toNat * Nat.pow 5 f.toNat <
      y.core * Nat.pow 2 (-t).toNat * Nat.pow 5 (-f).toNat

/-- The order of the values. -/
def lt (x y : Exact) : Bool :=
  match x.negative, y.negative with
  | true,  false => true
  | false, true  => false
  | false, false => magnitudeLt x y
  | true,  true  => magnitudeLt y x

end Exact

/-- A number for comparison: a finite value, an infinity, or none at all. -/
inductive Number where
  | exact (value : Exact)
  | infinite (negative : Bool)
  | nan
deriving DecidableEq, Inhabited

namespace Number

/-- A double as a number for comparison. -/
def ofDouble (x : Double) : Number :=
  match x, Exact.ofDouble? x with
  | _,                  some e => .exact e
  | .infinite negative, none   => .infinite negative
  | _,                  none   => .nan

/-- A decimal as a number for comparison. -/
def ofDecimal (x : Decimal) : Number :=
  match x, Exact.ofDecimal? x with
  | _,                  some e => .exact e
  | .infinite negative, none   => .infinite negative
  | _,                  none   => .nan

/-- The order of numbers; what is no number is below nothing and above nothing. -/
def lt : Number → Number → Bool
  | .exact x,        .exact y        => x.lt y
  | .infinite true,  .infinite false => true
  | .infinite true,  .exact _        => true
  | .exact _,        .infinite false => true
  | _,               _               => false

/-- Is it no number at all? -/
def isNan : Number → Bool
  | .nan => true
  | _    => false

/-- Equality of numbers; what is no number does not even equal itself. -/
def same (x y : Number) : Bool := !x.isNan && x == y

/-- Below or equal; what is no number is neither. -/
def le (x y : Number) : Bool := x.lt y || x.same y

end Number

end SqlText
