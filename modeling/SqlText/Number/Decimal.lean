import SqlText.Number.Numeral

/-!
# Decimal numbers — exact coefficients and powers of ten

    (Decimal.finite false 150 (-2)).text  =  "1.50"

A decimal keeps its coefficient and exponent as they were given, so trailing zeros are part
of the number. Its text is the scientific string of decimal arithmetic: positional while
the exponent is not positive and at most five zeros follow the point, and with an exponent
otherwise.
-/

namespace SqlText

/-- A decimal number: `± coefficient * 10 ^ exponent`, an infinity, or no number. -/
inductive Decimal where
  | finite (negative : Bool) (coefficient : Nat) (exponent : Int)
  | infinite (negative : Bool)
  /-- No number, quiet or signaling, with its diagnostic payload (0 for none). -/
  | nan (negative signaling : Bool) (payload : Nat)
deriving DecidableEq, Inhabited

namespace Decimal

/-- Zero in any of its forms. -/
def isZero : Decimal → Bool
  | .finite _ c _ => c == 0
  | _             => false

/-- Neither infinite nor without a number. -/
def isFinite : Decimal → Bool
  | .finite .. => true
  | _          => false

/-- The sign of a negative number; others have none. -/
def signText (negative : Bool) : String := if negative then "-" else ""

/-- An exponent after its letter, the sign always written. -/
def exponentText (e : Int) : String :=
  if e < 0 then "E-" ++ e.natAbs.repr else "E+" ++ e.natAbs.repr

/-- A number of zeros. -/
def zeros (n : Nat) : List Char := List.replicate n '0'

/-- Digits with the point after the first `place` of them; a place that is not positive
puts zeros between the point and the digits. -/
def pointed (digits : List Char) (place : Int) : List Char :=
  if place ≤ 0 then '0' :: '.' :: (zeros (-place).toNat ++ digits)
  else if digits.length ≤ place.toNat then digits ++ zeros (place.toNat - digits.length)
  else digits.take place.toNat ++ '.' :: digits.drop place.toNat

/-- The scientific string of a coefficient and an exponent. -/
def finiteText (coefficient : Nat) (exponent : Int) : String :=
  let digits := Nat.toDigits 10 coefficient
  let leading : Int := exponent + digits.length
  if exponent ≤ 0 && leading > -6 then String.ofList (pointed digits leading)
  else String.ofList (pointed digits 1) ++
    (if leading = 1 then "" else exponentText (leading - 1))

/-- The text of a decimal number. -/
def text : Decimal → String
  | .finite negative c e => signText negative ++ finiteText c e
  | .infinite negative   => signText negative ++ "Infinity"
  | .nan negative signaling payload =>
    signText negative ++ (if signaling then "sNaN" else "NaN") ++
      (if payload = 0 then "" else payload.repr)

/-- The diagnostic payload after the letters of a number that is none. -/
def readPayload? (cs : List Char) : Option Nat :=
  if cs.all Char.isDigit then some (Numeral.ofDigits cs) else none

/-- A number that is infinite or none, its sign already read. -/
def readSpecial? (negative : Bool) (cs : List Char) : Option Decimal :=
  match cs.map Char.toLower with
  | ['i', 'n', 'f'] => some (.infinite negative)
  | ['i', 'n', 'f', 'i', 'n', 'i', 't', 'y'] => some (.infinite negative)
  | 'n' :: 'a' :: 'n' :: ds => (readPayload? ds).map (.nan negative false)
  | 's' :: 'n' :: 'a' :: 'n' :: ds => (readPayload? ds).map (.nan negative true)
  | _ => none

/-- The decimal number that a text stands for. -/
def read? (s : String) : Option Decimal :=
  match Numeral.read? s.toList with
  | some n => some (.finite n.negative n.coefficient n.exponent)
  | none   =>
    let (negative, rest) := Numeral.takeSign s.toList
    readSpecial? negative rest

end Decimal

end SqlText
