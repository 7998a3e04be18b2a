import SqlText.Text.Blank

/-!
# Integers in text — writing and reading whole numbers

    integerText (-7)  =  "-7"        readInteger? " +1_000 "  =  some 1000

An integer is written in decimal digits after its sign. Read, it is a sign, if any, and
decimal digits of any script; a single low line may stand between two digits. Blanks around
it are ignored. A number of more than 4300 digits is refused.

The limit is one of reading alone. Read, it decides which of a caller's texts stand for a number,
and a longer one is refused like any other text that stands for none. Written, an integer has no
limit here: how many digits a machine is willing to print is a bound on its resources, which can be
set from outside, and not a rule of how statements are written.
-/

namespace SqlText.Text

/-- An integer in decimal digits, a minus sign before those of a negative one. -/
def integerText : Int → String
  | .ofNat n   => n.repr
  | .negSucc n => "-" ++ (n + 1).repr

/-- The zeros of the decimal digit ranges: each is followed by its digits one to nine. -/
def digitZeros : List Nat :=
  [0x30, 0x660, 0x6F0, 0x7C0, 0x966, 0x9E6, 0xA66, 0xAE6, 0xB66, 0xBE6, 0xC66, 0xCE6, 0xD66, 0xDE6,
   0xE50, 0xED0, 0xF20, 0x1040, 0x1090, 0x17E0, 0x1810, 0x1946, 0x19D0, 0x1A80, 0x1A90, 0x1B50,
   0x1BB0, 0x1C40, 0x1C50, 0xA620, 0xA8D0, 0xA900, 0xA9D0, 0xA9F0, 0xAA50, 0xABF0, 0xFF10, 0x104A0,
   0x10D30, 0x11066, 0x110F0, 0x11136, 0x111D0, 0x112F0, 0x11450, 0x114D0, 0x11650, 0x116C0,
   0x11730, 0x118E0, 0x11950, 0x11C50, 0x11D50, 0x11DA0, 0x16A60, 0x16AC0, 0x16B50, 0x1D7CE,
   0x1D7D8, 0x1D7E2, 0x1D7EC, 0x1D7F6, 0x1E140, 0x1E2F0, 0x1E950, 0x1FBF0]

/-- The value of a decimal digit of any script. -/
def digitValue? (c : Char) : Option Nat :=
  (digitZeros.find? fun z => z ≤ c.toNat && c.toNat < z + 10).map (c.toNat - ·)

/-- One digit or more, a single low line allowed between two of them. -/
def digitRun? : List Char → Option (List Nat)
  | []               => none
  | [c]              => (digitValue? c).map ([·])
  -- a low line has to have a digit on either side
  | c :: '_' :: rest => do
      let d ← digitValue? c
      let ds ← digitRun? rest
      return d :: ds
  | c :: d :: rest   => do
      let v ← digitValue? c
      let ds ← digitRun? (d :: rest)
      return v :: ds

/-- The longest run of digits that is read. -/
def digitLimit : Nat := 4300

/-- The number that a digit run stands for, most significant digit first. -/
def digitRunValue (ds : List Nat) : Nat := ds.foldl (fun n d => 10 * n + d) 0

/-- A digit run as a number, refused when it is too long. -/
def readNatural? (cs : List Char) : Option Nat := do
  let ds ← digitRun? cs
  if ds.length ≤ digitLimit then return digitRunValue ds else none

/-- A sign, if any, and a digit run. -/
def readSigned? : List Char → Option Int
  | '+' :: cs => (readNatural? cs).map Int.ofNat
  | '-' :: cs => (readNatural? cs).map fun n => -(n : Int)
  | cs        => (readNatural? cs).map Int.ofNat

/-- The integer a text stands for, blanks around it ignored. -/
def readInteger? (s : String) : Option Int := readSigned? (strip s).toList

end SqlText.Text
