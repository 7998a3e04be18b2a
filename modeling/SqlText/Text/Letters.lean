/-!
# Letter case — comparing words without regard to it

    upper "straße"  =  "STRASSE"

Words of the statement language (verbs, join kinds, levels, flags) are plain ASCII, and
case is folded only to look a word up among them. So the two maps are exact on every
character whose full Unicode case form is ASCII, the ligatures and dotless letters
included, and leave every other character as it is: such a character has no ASCII form
and stops the word from matching either way.
-/

namespace SqlText.Text

/-- Upper-case form of a character, where that form is ASCII. -/
def upperChars (c : Char) : List Char :=
  match c with
  | 'ß' => ['S', 'S']
  | 'ı' => ['I']
  | 'ſ' => ['S']
  | 'ﬀ' => ['F', 'F']
  | 'ﬁ' => ['F', 'I']
  | 'ﬂ' => ['F', 'L']
  | 'ﬃ' => ['F', 'F', 'I']
  | 'ﬄ' => ['F', 'F', 'L']
  | 'ﬅ' => ['S', 'T']
  | 'ﬆ' => ['S', 'T']
  | c   => [c.toUpper]

/-- Lower-case form of a character, where that form is ASCII; U+212A is the Kelvin sign. -/
def lowerChar (c : Char) : Char :=
  if c == '\u212A' then 'k' else c.toLower

/-- The text in upper case, as far as its letters have an ASCII upper-case form. -/
def upper (s : String) : String := String.ofList (s.toList.flatMap upperChars)

/-- The text in lower case, as far as its letters have an ASCII lower-case form. -/
def lower (s : String) : String := String.ofList (s.toList.map lowerChar)

end SqlText.Text
