/-!
# Blank characters — trimming text at both ends

    strip "\t a b \n"  =  "a b"

A character is blank when Unicode gives it the property of white space or it is one of
the four information separators U+001C to U+001F. The zero-width characters U+200B and
U+FEFF are not blank.
-/

namespace SqlText.Text

/-- White space of Unicode, with the information separators U+001C to U+001F. -/
def isBlank (c : Char) : Bool :=
  let n := c.toNat
  (0x09 ≤ n && n ≤ 0x0D) || (0x1C ≤ n && n ≤ 0x20) || n == 0x85 || n == 0xA0 ||
    n == 0x1680 || (0x2000 ≤ n && n ≤ 0x200A) || n == 0x2028 || n == 0x2029 ||
    n == 0x202F || n == 0x205F || n == 0x3000

/-- The characters after the leading blanks. -/
def trimStart (cs : List Char) : List Char := cs.dropWhile isBlank

/-- The characters before the trailing blanks. -/
def trimEnd (cs : List Char) : List Char := (cs.reverse.dropWhile isBlank).reverse

/-- The text without its leading and trailing blanks. -/
def strip (s : String) : String := String.ofList (trimEnd (trimStart s.toList))

/-- A text of blanks only, the empty one included. -/
def isBlankText (s : String) : Bool := s.toList.all isBlank

end SqlText.Text
