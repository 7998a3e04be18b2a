import SqlText.Number.Numeral
import SqlText.Text.Integer

/-!
# Double precision — binary numbers by value

    Double.read? "0.5"  =  some (.finite false (2 ^ 52) (-53))

A finite double is `± mantissa * 2 ^ exponent` with a mantissa below `2 ^ 53`. Rounding
gives the canonical one: the mantissa is at least `2 ^ 52`, or the exponent is the least
one, `-1074`. Reading rounds to the nearest double, a tie going to the even mantissa, and
overflows to infinity; single low lines may stand between the digits.
-/

namespace SqlText

/-- A double by its value: `± mantissa * 2 ^ exponent`, an infinity, or no number. -/
inductive Double where
  | finite (negative : Bool) (mantissa : Nat) (exponent : Int)
  | infinite (negative : Bool)
  | nan
deriving DecidableEq, Inhabited

namespace Double

/-- The least exponent, that of the subnormal numbers. -/
def leastExponent : Int := -1074

/-- The greatest exponent of a finite double. -/
def greatestExponent : Int := 971

/-- Zero of either sign. -/
def isZero : Double → Bool
  | .finite _ m _ => m == 0
  | _             => false

/-- Neither infinite nor without a number. -/
def isFinite : Double → Bool
  | .finite .. => true
  | _          => false

/-- Exactly one, the only code that sorts upwards. -/
def isOne : Double → Bool
  | .finite false m e => e ≤ 0 && m == Nat.pow 2 (-e).toNat
  | _                 => false

/-- The quotient rounded to the nearest whole number, a half going to the even one. -/
def roundQuotient (num den : Nat) : Nat :=
  let q := num / den
  let r := num % den
  if den < 2 * r || (den == 2 * r && q % 2 == 1) then q + 1 else q

/-- The quotient `num / den` with `2 ^ e` divided out, as a pair of whole numbers. -/
def scaledBy (num den : Nat) (e : Int) : Nat × Nat :=
  if 0 ≤ e then (num, den * Nat.pow 2 e.toNat) else (num * Nat.pow 2 (-e).toNat, den)

/-- The double nearest to `num / den`. -/
def ofRatio (negative : Bool) (num den : Nat) : Double :=
  if num = 0 then .finite negative 0 leastExponent
  else
    -- the quotient at this exponent has 53 or 54 bits, or fewer at the least exponent
    let guess := max ((num.log2 : Int) - den.log2 - 53) leastExponent
    let (n, d) := scaledBy num den guess
    let e := if Nat.pow 2 53 ≤ n / d then guess + 1 else guess
    let (n, d) := scaledBy num den e
    let m := roundQuotient n d
    -- rounding up may carry into one bit more
    let (m, e) := if m = Nat.pow 2 53 then (Nat.pow 2 52, e + 1) else (m, e)
    if greatestExponent < e then .infinite negative else .finite negative m e

/-- The double nearest to a numeral; numerals far outside the range are settled by their
number of digits alone. -/
def ofNumeral (n : Numeral) : Double :=
  let size : Int := (Nat.toDigits 10 n.coefficient).length + n.exponent
  if n.coefficient = 0 || size < -400 then .finite n.negative 0 leastExponent
  else if 400 < size then .infinite n.negative
  else if 0 ≤ n.exponent then ofRatio n.negative (n.coefficient * Nat.pow 10 n.exponent.toNat) 1
  else ofRatio n.negative n.coefficient (Nat.pow 10 (-n.exponent).toNat)

/-- A decimal digit of any script as an ASCII digit; other characters stay. -/
def asciiDigit (c : Char) : Char :=
  match Text.digitValue? c with
  | some d => Char.ofNat (0x30 + d)
  | none   => c

/-- Characters without the low lines among them, each of which has to stand between two
digits. -/
def withoutLowLines? (afterDigit : Bool) : List Char → Option (List Char)
  | []      => some []
  | c :: cs =>
    if c == '_' then
      if afterDigit && cs.head?.any Char.isDigit then withoutLowLines? false cs else none
    else (withoutLowLines? c.isDigit cs).map (c :: ·)

/-- The double that characters stand for. -/
def readPlain? (cs : List Char) : Option Double :=
  match Numeral.read? cs with
  | some n => some (ofNumeral n)
  | none   =>
    let (negative, rest) := Numeral.takeSign cs
    match String.ofList (rest.map Char.toLower) with
    | "inf" | "infinity" => some (.infinite negative)
    | "nan"              => some .nan
    | _                  => none

/-- The double that a text stands for, blanks around it ignored. Digits may be of any
script. -/
def read? (s : String) : Option Double :=
  (withoutLowLines? false ((Text.strip s).toList.map asciiDigit)).bind readPlain?

end Double

end SqlText
