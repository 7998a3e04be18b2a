import SqlText.Text.Hex
import SqlText.Text.Printable

/-!
# Quoted text — how diagnostics show a text or a byte string

    quoted "it's"  =  "\"it's\""        quoted "a\n"  =  "'a\\n'"

A text stands in single quotes, or in double quotes when it holds a single quote and no
double one. The quote in use and the backslash are escaped by a backslash, line feed,
carriage return and tab have their letters, and every other unprintable character is
written by its code point: two digits after `x`, four after `u` or eight after `U`.
-/

namespace SqlText.Text

/-- The single quote U+0027. -/
def singleQuote : Char := '\x27'

/-- The double quote U+0022. -/
def doubleQuote : Char := '\x22'

/-- Double quotes serve where they save an escape, single quotes everywhere else. -/
def quoteFor (cs : List Char) : Char :=
  if cs.contains singleQuote && !cs.contains doubleQuote then doubleQuote else singleQuote

/-- The escape of a code point: the shortest of the three forms that holds it. -/
def codePointEscape (n : Nat) : List Char :=
  if n < 0x100 then '\\' :: 'x' :: hexPadded 2 n
  else if n < 0x10000 then '\\' :: 'u' :: hexPadded 4 n
  else '\\' :: 'U' :: hexPadded 8 n

/-- One character of a quoted text, `plain` telling which characters stand for themselves. -/
def quotedChar (plain : Char → Bool) (quote c : Char) : List Char :=
  if c == quote || c == '\\' then ['\\', c]
  else if c == '\n' then ['\\', 'n']
  else if c == '\r' then ['\\', 'r']
  else if c == '\t' then ['\\', 't']
  else if plain c then [c]
  else codePointEscape c.toNat

/-- The characters between their quotes. -/
def quotedChars (plain : Char → Bool) (cs : List Char) : List Char :=
  quoteFor cs :: (cs.flatMap (quotedChar plain (quoteFor cs)) ++ [quoteFor cs])

/-- A text between quotes; printable characters of every script stand for themselves. -/
def quoted (s : String) : String := String.ofList (quotedChars isPrintable s.toList)

/-- Is the character one of U+0020 to U+007E? -/
def isPlainAscii (c : Char) : Bool := 0x20 ≤ c.toNat && c.toNat ≤ 0x7E

/-- A byte string between quotes after the letter `b`; only plain ASCII stands for itself. -/
def quotedBytes (bytes : List UInt8) : String :=
  String.ofList ('b' :: quotedChars isPlainAscii (bytes.map fun b => Char.ofNat b.toNat))

/-- A text in which every character beyond ASCII is written by its code point. -/
def asciiOnly (s : String) : String :=
  String.ofList (s.toList.flatMap fun c => if c.toNat < 0x80 then [c] else codePointEscape c.toNat)

end SqlText.Text
