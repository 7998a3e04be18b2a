/-!
# Hexadecimal escapes — code points written with a fixed number of digits

    hexPadded 4 0xE9  =  "00e9"
-/

namespace SqlText.Text

/-- The lower-case hexadecimal digit of a number below 16. -/
def hexDigit (n : Nat) : Char :=
  if n < 10 then Char.ofNat (0x30 + n) else Char.ofNat (0x57 + n)

/-- The last `width` hexadecimal digits of `n`, leading zeros included. -/
def hexPadded : Nat → Nat → List Char
  | 0,         _ => []
  | width + 1, n => hexPadded width (n / 16) ++ [hexDigit (n % 16)]

end SqlText.Text
