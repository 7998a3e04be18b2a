import SqlText.Build
import SqlText.Text.LineEnd

/-!
# Files of variables — one entry to a line

    VariableFile.entries [] "# logging\nexport QUERY_LOG_LEVEL = debug # verbose\n"

A file of variables has one entry to a line, after the word `export` or not. A value in
quotes is what stands between them, line ends and all, with its escapes resolved; one
without quotes ends before blanks and a number sign and loses its trailing blanks. A name
alone has no value, and a line that is no entry is reported and passed over. A variable in
braces after a dollar sign is replaced by its value, first by that of an entry before it. Of
several entries for one name the last counts.

How such files are read is the matter of a library of its own, and nothing that is proved of
settings rests on it: they are read with any reader, and this one is what the program runs with.
-/

namespace SqlText

namespace VariableFile

open Text (isBlank trimStart trimEnd singleQuote doubleQuote)

/-! ## Escapes -/

/-- The character that a letter after a backslash stands for in double quotes. -/
def doubleEscape? : Char → Option Char
  | '\\'   => some '\\'
  | '\x27' => some '\x27'
  | '\x22' => some '\x22'
  | 'a'    => some '\x07'
  | 'b'    => some '\x08'
  | 'f'    => some '\x0c'
  | 'n'    => some '\n'
  | 'r'    => some '\r'
  | 't'    => some '\t'
  | 'v'    => some '\x0b'
  | _      => none

/-- The character that one after a backslash stands for in single quotes. -/
def singleEscape? (c : Char) : Option Char :=
  if c == '\\' || c == singleQuote then some c else none

/-- A text with its escapes resolved; a backslash that escapes nothing stands for itself. -/
def unescaped (escape? : Char → Option Char) : List Char → List Char
  | '\\' :: c :: cs =>
    match escape? c with
    | some d => d :: unescaped escape? cs
    | none   => '\\' :: unescaped escape? (c :: cs)
  | c :: cs         => c :: unescaped escape? cs
  | []              => []

/-- The number of characters between an opening quote and the one that closes it: the first
that no backslash stands before or, where a backslash stands before each, the last. -/
def quotedLength? (quote : Char) : List Char → Option Nat
  | []           => none
  | [c]          => if c == quote then some 0 else none
  | c :: d :: cs =>
    if c == quote then some 0
    else if c == '\\' && d == quote then
      match quotedLength? quote cs with
      | some n => some (n + 2)
      | none   => some 1
    else (quotedLength? quote (d :: cs)).map (· + 1)

/-! ## Entries -/

/-- A reading of the file: what was read, or the rest at which it failed. -/
abbrev Reading := Except (List Char)

/-- The rest after the blanks of a line. -/
def dropBlanks (cs : List Char) : List Char := cs.dropWhile fun c => isBlank c && c != '\n'

/-- The rest from the end of the line on. -/
def dropLine (cs : List Char) : List Char := cs.dropWhile (· != '\n')

/-- The rest after the word `export` and blanks at the front, if they are there. -/
def dropExport (cs : List Char) : List Char :=
  match cs with
  | 'e' :: 'x' :: 'p' :: 'o' :: 'r' :: 't' :: c :: rest =>
    if isBlank c && c != '\n' then dropBlanks rest else cs
  | _ => cs

/-- The characters of which a name without quotes consists. -/
def isNameChar (c : Char) : Bool := !(c == '=' || c == '#' || isBlank c)

/-- Reads a name; a comment has none. -/
def readName (cs : List Char) : Reading (Option String × List Char) :=
  match cs with
  | '#' :: _     => .ok (none, cs)
  | '\x27' :: ds =>
    let name := ds.takeWhile (· != singleQuote)
    match ds.dropWhile (· != singleQuote) with
    | _ :: rest => if name.isEmpty then .error cs else .ok (some (String.ofList name), rest)
    | []        => .error cs
  | _            =>
    let name := cs.takeWhile isNameChar
    if name.isEmpty then .error cs
    else .ok (some (String.ofList name), cs.dropWhile isNameChar)

/-- Reads a value up to the quote that closes it. -/
def readQuoted (quote : Char) (escape? : Char → Option Char) (cs : List Char) :
    Reading (List Char × List Char) :=
  match quotedLength? quote cs with
  | some n => .ok (unescaped escape? (cs.take n), cs.drop (n + 1))
  | none   => .error cs

/-- A value without quotes: what stands before the first blanks that a number sign follows. -/
def beforeComment : List Char → List Char
  | []      => []
  | c :: cs =>
    if isBlank c && (trimStart cs).head? == some '#' then [] else c :: beforeComment cs

/-- Reads a value after the equals sign. -/
def readValue (cs : List Char) : Reading (List Char × List Char) :=
  match cs with
  | '\x27' :: rest => readQuoted singleQuote singleEscape? rest
  | '\x22' :: rest => readQuoted doubleQuote doubleEscape? rest
  | _              => .ok (trimEnd (beforeComment (cs.takeWhile (· != '\n'))), dropLine cs)

/-- Reads what follows a name: an equals sign and a value, or nothing. -/
def readAssigned (cs : List Char) : Reading (Option (List Char) × List Char) :=
  match cs with
  | '=' :: rest => (readValue (dropBlanks rest)).map fun r => (some r.1, r.2)
  | _           => .ok (none, cs)

/-- Reads a comment, if there is one, and the end of the line, and gives the rest. -/
def readLineEnd (cs : List Char) : Reading (List Char) :=
  let rest := match dropBlanks cs with
    | '#' :: ds => dropLine ds
    | ds        => ds
  match rest with
  | []         => .ok []
  | '\n' :: ds => .ok ds
  | _          => .error cs

/-- Reads one entry, or a comment, up to its line's end. -/
def readEntry (cs : List Char) :
    Reading (Option (String × Option (List Char)) × List Char) := do
  let (name?, cs) ← readName (dropExport cs)
  let (value?, cs) ← readAssigned (dropBlanks cs)
  return (name?.map fun name => (name, value?), ← readLineEnd cs)

/-- What a file holds besides comments. -/
inductive Item where
  | entry (name : String) (value? : Option (List Char))
  /-- What is no entry, by the number of the line at which it was looked for. -/
  | malformed (line : Nat)

/-- The first item of a text that begins at a line, if it is no comment, and the rest. -/
def readItem (line : Nat) (cs : List Char) : Option Item × List Char :=
  match readEntry cs with
  | .ok (found?, rest) => (found?.map fun e => .entry e.1 e.2, rest)
  | .error rest        => (some (.malformed line), (dropLine rest).drop 1)

/-- The items of a text that begins at a line, at most as many as given. -/
def items : Nat → Nat → List Char → List Item
  | 0,     _,    _  => []
  | n + 1, line, cs =>
    match trimStart cs with
    | []      => []
    | d :: ds =>
      let (item?, rest) := readItem line (d :: ds)
      item?.toList ++ items n (line + cs.count '\n' - rest.count '\n') rest

/-- The items of a file; each takes one character at least, so that there are no more items
than characters. -/
def itemsOf (content : String) : List Item :=
  let cs := Text.withLineFeeds content.toList
  items cs.length 1 cs

/-! ## Variables within values -/

/-- A variable in braces: its name, the value in its place where there is none, and the
number of characters up to the closing brace. -/
def readVariable? (cs : List Char) : Option (String × String × Nat) :=
  let name := cs.takeWhile fun c => c != '\x7d' && c != ':'
  match cs.drop name.length with
  | '\x7d' :: _       => some (String.ofList name, "", name.length + 1)
  | ':' :: '-' :: rest =>
    let other := rest.takeWhile (· != '\x7d')
    if other.length < rest.length then
      some (String.ofList name, String.ofList other, name.length + other.length + 3)
    else none
  | _ => none

/-- A value with its variables replaced by what they stand for. -/
def filled (meaning : String → String → String) : List Char → List Char
  | []                   => []
  | '$' :: '\x7b' :: cs =>
    match readVariable? cs with
    | some (name, other, n) => (meaning name other).toList ++ filled meaning (cs.drop n)
    | none                  => '$' :: filled meaning ('\x7b' :: cs)
  | c :: cs => c :: filled meaning cs
termination_by cs => cs.length
decreasing_by
  · simp only [List.length_cons, List.length_drop]; omega
  · simp
  · simp

/-- What a variable stands for: its value among the entries read before or else in the
process, nothing where that is null, and the other text where there is no such variable. -/
def meaningIn (before process : List (Value × Value)) (name other : String) : String :=
  match (valueAt? name before).or (valueAt? name process) with
  | some .null => ""
  | some v     => v.display
  | none       => other

/-- The variables read before an item and that of the item, if it is an entry. -/
def addItem (process before : List (Value × Value)) : Item → List (Value × Value)
  | .entry name (some cs) =>
    insertEntry (.text name) (.text (String.ofList (filled (meaningIn before process) cs))) before
  | .entry name none      => insertEntry (.text name) .null before
  | .malformed _          => before

/-- The variables of a file that a process reads, one to a name. -/
def entries (process : List (Value × Value)) (content : String) : List (Value × Value) :=
  (itemsOf content).foldl (addItem process) []

/-- The numbers of the lines at which a file holds what is no entry. -/
def malformedLines (content : String) : List Nat :=
  (itemsOf content).filterMap fun
    | .malformed line => some line
    | .entry ..       => none

/-- Reads a file of variables; before that, `warn` reports the lines that hold no entry. -/
def read (warn : Nat → Build Unit) (process : List (Value × Value)) (content : String) :
    Build (List (Value × Value)) := do
  (malformedLines content).forM warn
  return entries process content

end VariableFile

end SqlText
