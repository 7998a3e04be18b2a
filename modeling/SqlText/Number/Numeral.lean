/-!
# Numerals — a sign, a coefficient and a power of ten

    Numeral.read? "-1.50E3"  =  some (-, 150, 1)

The finite part that binary and decimal numbers share when they are read: digits with at
most one point among them, and an exponent after the letter `e` of either case. The value
is `coefficient * 10 ^ exponent`; zeros after the point count, so `1.50` and `1.5` are two
numerals.
-/

namespace SqlText

/-- A finite numeral as it is written: `± coefficient * 10 ^ exponent`. -/
structure Numeral where
  negative : Bool
  coefficient : Nat
  exponent : Int
deriving DecidableEq, Inhabited

namespace Numeral

/-- The number that ASCII digits stand for. -/
def ofDigits (cs : List Char) : Nat :=
  cs.foldl (fun n c => 10 * n + (c.toNat - 0x30)) 0

/-- A sign, if any, taken off the front. -/
def takeSign : List Char → Bool × List Char
  | '-' :: cs => (true, cs)
  | '+' :: cs => (false, cs)
  | cs        => (false, cs)

/-- An exponent: nothing at all, or the letter, a sign if any, and digits. -/
def readExponent? : List Char → Option Int
  | []      => some 0
  | c :: cs =>
    let (negative, digits) := takeSign cs
    if (c == 'e' || c == 'E') && !digits.isEmpty && digits.all Char.isDigit then
      some (if negative then -(ofDigits digits : Int) else ofDigits digits)
    else none

/-- Digits with at most one point, followed by an exponent. -/
def readUnsigned? (negative : Bool) (cs : List Char) : Option Numeral :=
  let whole := cs.takeWhile Char.isDigit
  let rest := cs.dropWhile Char.isDigit
  let (places, tail) : List Char × List Char :=
    match rest with
    | '.' :: r => (r.takeWhile Char.isDigit, r.dropWhile Char.isDigit)
    | r        => ([], r)
  if whole.isEmpty && places.isEmpty then none
  else
    (readExponent? tail).map fun e =>
      ⟨negative, ofDigits (whole ++ places), e - places.length⟩

/-- A numeral with its sign, if any. -/
def read? (cs : List Char) : Option Numeral :=
  let (negative, rest) := takeSign cs
  readUnsigned? negative rest

end Numeral

end SqlText
