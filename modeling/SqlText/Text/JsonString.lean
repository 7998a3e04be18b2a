import SqlText.Text.Hex

/-!
# JSON strings — the double-quoted literal of a text

    jsonString "a\"b\n"  =  "\"a\\\"b\\n\""

The double quote and the backslash are escaped by a backslash, five control characters
have their letters, and the other characters below U+0020 are written by four hexadecimal
digits. All else, U+007F and every character beyond ASCII included, stands for itself.
-/

namespace SqlText.Text

/-- One character between the quotes of a JSON string. -/
def jsonChar (c : Char) : List Char :=
  if c == '\x22' then ['\\', '\x22']
  else if c == '\\' then ['\\', '\\']
  else if c == '\n' then ['\\', 'n']
  else if c == '\r' then ['\\', 'r']
  else if c == '\t' then ['\\', 't']
  else if c == '\x0c' then ['\\', 'f']
  else if c == '\x08' then ['\\', 'b']
  else if c.toNat < 0x20 then '\\' :: 'u' :: hexPadded 4 c.toNat
  else [c]

/-- The characters between the quotes of a JSON string. -/
def jsonBody (cs : List Char) : List Char := cs.flatMap jsonChar

/-- A text as a JSON string. -/
def jsonString (s : String) : String :=
  String.ofList ('\x22' :: (jsonBody s.toList ++ ['\x22']))

@[simp] theorem jsonBody_nil : jsonBody [] = [] := rfl

@[simp] theorem jsonBody_cons (c : Char) (cs : List Char) :
    jsonBody (c :: cs) = jsonChar c ++ jsonBody cs := List.flatMap_cons

end SqlText.Text
