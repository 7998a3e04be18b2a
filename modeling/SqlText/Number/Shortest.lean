import SqlText.Number.Double

/-!
# Shortest digits — the text of a double that reads back

    (Double.read? "1E5").map Double.text  =  some "100000.0"

The reals that round to a double form an interval around it, its ends included when the
mantissa is even. The text has the fewest digits of all decimals in that interval and is
the nearest of those. On a grid of `n` digits only the two neighbours of the double can be
nearest, so each grid from one digit to seventeen is tried in turn.
-/

namespace SqlText

/-- The reals that round to one double, scaled by a common denominator. -/
structure RoundingInterval where
  lo : Nat
  mid : Nat
  hi : Nat
  den : Nat
  closed : Bool

namespace RoundingInterval

/-- The interval of `m * 2 ^ e`: half a gap to each side, a quarter below a power of two. -/
def ofDouble (m : Nat) (e : Int) : RoundingInterval :=
  -- the gap below a power of two is half the gap above it
  let below := if m = Nat.pow 2 52 && Double.leastExponent < e then 4 * m - 1 else 4 * m - 2
  let scale := Nat.pow 2 (e - 2).toNat
  ⟨below * scale, 4 * m * scale, (4 * m + 2) * scale, Nat.pow 2 (2 - e).toNat, m % 2 == 0⟩

/-- Does `c * 10 ^ k` lie in the interval? -/
def covers (i : RoundingInterval) (c : Nat) (k : Int) : Bool :=
  let x := c * Nat.pow 10 k.toNat * i.den
  let unit := Nat.pow 10 (-k).toNat
  if i.closed then i.lo * unit ≤ x && x ≤ i.hi * unit
  else i.lo * unit < x && x < i.hi * unit

/-- The middle rounded down to a multiple of `10 ^ k`. -/
def gridFloor (i : RoundingInterval) (k : Int) : Nat :=
  i.mid * Nat.pow 10 (-k).toNat / (i.den * Nat.pow 10 k.toNat)

/-- Is the middle nearer to `(c + 1) * 10 ^ k` than to `c * 10 ^ k`, a tie going to even? -/
def prefersNext (i : RoundingInterval) (c : Nat) (k : Int) : Bool :=
  let twice := 2 * i.mid * Nat.pow 10 (-k).toNat
  let half := (2 * c + 1) * Nat.pow 10 k.toNat * i.den
  half < twice || (half == twice && c % 2 == 1)

/-- The point of the grid `10 ^ k` in the interval that is nearest to the middle. -/
def nearest? (i : RoundingInterval) (k : Int) : Option Nat :=
  let c := i.gridFloor k
  match i.covers c k, i.covers (c + 1) k with
  | true,  true  => some (if i.prefersNext c k then c + 1 else c)
  | true,  false => some c
  | false, true  => some (c + 1)
  | false, false => none

/-- The number of digits before the point of the middle: the least `p` with the middle
below `10 ^ p`. -/
def magnitude (i : RoundingInterval) : Int :=
  -- the numbers of digits fix the magnitude up to one
  let guess : Int := (Nat.toDigits 10 i.mid).length - (Nat.toDigits 10 i.den).length
  if i.den * Nat.pow 10 guess.toNat ≤ i.mid * Nat.pow 10 (-guess).toNat then guess + 1
  else guess

/-- The shortest decimal in the interval: its digits as a number, and the power of ten. -/
def shortest (i : RoundingInterval) : Nat × Int :=
  let grids := (List.range 17).map fun n : Nat => i.magnitude - ((n + 1 : Nat) : Int)
  (grids.findSome? fun k => (i.nearest? k).map (·, k)).getD (0, 0)

end RoundingInterval

namespace Double

/-- The significant digits without the zeros at their end. -/
def dropTrailingZeros (digits : List Char) : List Char :=
  (digits.reverse.dropWhile (· == '0')).reverse

/-- An exponent of at least two digits after its letter, the sign always written. -/
def exponentText (e : Int) : List Char :=
  let digits := Nat.toDigits 10 e.natAbs
  let padded := if digits.length < 2 then '0' :: digits else digits
  'e' :: (if e < 0 then '-' else '+') :: padded

/-- Digits with the point at `place`: positional for places from -3 to 16, where the text
always shows a digit on each side of the point, and with an exponent otherwise. -/
def digitsText (digits : List Char) (place : Int) : List Char :=
  if -4 < place && place ≤ 16 then
    if place ≤ 0 then '0' :: '.' :: (List.replicate (-place).toNat '0' ++ digits)
    else if digits.length ≤ place.toNat then
      digits ++ List.replicate (place.toNat - digits.length) '0' ++ ['.', '0']
    else digits.take place.toNat ++ '.' :: digits.drop place.toNat
  else
    match digits with
    | []      => []
    | [d]     => d :: exponentText (place - 1)
    | d :: ds => d :: '.' :: (ds ++ exponentText (place - 1))

/-- The shortest text of a positive double. -/
def positiveText (m : Nat) (e : Int) : String :=
  let (c, k) := (RoundingInterval.ofDouble m e).shortest
  let digits := Nat.toDigits 10 c
  String.ofList (digitsText (dropTrailingZeros digits) (digits.length + k))

/-- The text of a double: the fewest digits that read back, the nearest of those. -/
def text : Double → String
  | .finite negative m e =>
    (if negative then "-" else "") ++ (if m = 0 then "0.0" else positiveText m e)
  | .infinite negative => if negative then "-inf" else "inf"
  | .nan => "nan"

end Double

end SqlText
