import SqlText.Fault
import SqlText.Log.Record
import SqlText.Text.Integer
import SqlText.Text.Word

/-!
# Line templates — records written in a form of the caller's choice

    colouredLine "%(levelname)s: %(message)s"
      ⟨"12:00", .text "ERROR", .text "app", .text "down"⟩

A template names the parts of a record in parentheses after a percent sign, and two percent
signs stand for one. After the name there may be flags, a least width and, behind a point, a
greatest length; the letter at the end chooses the form: the text itself, the inspected
value, or one character. A part is cut to its length and then filled up with blanks, at the
front unless a hyphen is among the flags. A template in which nothing looks like a part is
refused before any record is written.
-/

namespace SqlText.Log

/-- A record as templates see it, with the text of its time. -/
structure Entry where
  time : String
  level : Value
  name : Value
  message : Value

/-- The part of a record that a template names. Written by hand, a record has no function,
fault or stack to show. -/
def Entry.part? (e : Entry) : String → Option Value
  | "asctime"     => some (.text e.time)
  | "levelname"   => some e.level
  | "name"        => some e.name
  | "message"     => some (.text e.message.display)
  | "msg"         => some e.message
  | "funcName"    => some .null
  | "exc_info"    => some .null
  | "exc_text"    => some .null
  | "stack_info"  => some .null
  | "threadName"  => some (.text "MainThread")
  | "processName" => some (.text "MainProcess")
  | _             => none

/-- The beginning of a whole record in text, up to where it depends on the place at which the
record was made. -/
def Entry.opening (e : Entry) : String :=
  "\x7b'name': " ++ e.name.inspect ++ ", 'msg': " ++ e.message.inspect ++ ", 'args': "

/-- The record with its level's name in colour. -/
def Entry.inColour (e : Entry) : Entry :=
  match e.level with
  | .text s => { e with level := .text (coloured s) }
  | _       => e

/-! ## Reading a template -/

/-- The flags that may stand before a width. -/
def isFlag (c : Char) : Bool := ['#', '0', '+', ' ', '-'].contains c

/-- The number of characters before the parenthesis that closes the outermost of those that
are open. -/
def keyLength (depth : Nat) : List Char → Nat
  | []      => 0
  | c :: cs =>
    if c == ')' then if depth ≤ 1 then 0 else keyLength (depth - 1) cs + 1
    else if c == '(' then keyLength (depth + 1) cs + 1
    else keyLength depth cs + 1

/-- The name in parentheses at the front, if there is one, and the rest. -/
def splitKey : List Char → Option String × List Char
  | '(' :: cs =>
    let n := keyLength 1 cs
    (some (String.ofList (cs.take n)), cs.drop (n + 1))
  | cs        => (none, cs)

/-- The digits, or the star in their place, at the front, and the rest. -/
def splitSize : List Char → List Char × List Char
  | '*' :: cs => (['*'], cs)
  | cs        => (cs.takeWhile Char.isDigit, cs.dropWhile Char.isDigit)

/-- The size behind a point at the front, if there is a point, and the rest. -/
def splitLength : List Char → Option (List Char) × List Char
  | '.' :: cs =>
    let (size, rest) := splitSize cs
    (some size, rest)
  | cs        => (none, cs)

/-- The rest after one letter that once told the size of a number. -/
def dropModifier : List Char → List Char
  | 'h' :: cs => cs
  | 'l' :: cs => cs
  | 'L' :: cs => cs
  | cs        => cs

/-- What a percent sign begins. -/
structure Directive where
  key : Option String
  flags : List Char
  width : List Char
  length : Option (List Char)
  /-- The letter at the end, none where the template ends before it. -/
  letter : Option Char

/-- The directive at the front, after its percent sign, and the rest. -/
def Directive.split (cs : List Char) : Directive × List Char :=
  let (key, cs) := splitKey cs
  let flags := cs.takeWhile isFlag
  let (width, cs) := splitSize (cs.dropWhile isFlag)
  let (length, cs) := splitLength cs
  let cs := dropModifier cs
  (⟨key, flags, width, length, cs.head?⟩, cs.drop 1)

/-- Dropping characters leaves no more than there were. -/
theorem length_dropWhile_le (p : Char → Bool) (cs : List Char) :
    (cs.dropWhile p).length ≤ cs.length :=
  (List.dropWhile_sublist p).length_le

/-- A name in parentheses takes nothing but characters of the text. -/
theorem splitKey_length_le (cs : List Char) : (splitKey cs).2.length ≤ cs.length := by
  unfold splitKey
  split
  · simp; omega
  · exact Nat.le_refl _

/-- A size takes nothing but characters of the text. -/
theorem splitSize_length_le (cs : List Char) : (splitSize cs).2.length ≤ cs.length := by
  unfold splitSize
  split
  · simp
  · exact length_dropWhile_le _ _

/-- A size behind a point takes nothing but characters of the text. -/
theorem splitLength_length_le (cs : List Char) : (splitLength cs).2.length ≤ cs.length := by
  unfold splitLength
  split
  · exact Nat.le_succ_of_le (splitSize_length_le _)
  · exact Nat.le_refl _

/-- The letter of a size takes nothing but characters of the text. -/
theorem dropModifier_length_le (cs : List Char) : (dropModifier cs).length ≤ cs.length := by
  unfold dropModifier
  split <;> simp

/-- A directive takes nothing but characters of the text. -/
theorem Directive.split_length_le (cs : List Char) :
    (Directive.split cs).2.length ≤ cs.length := by
  have h₁ := splitKey_length_le cs
  have h₂ := length_dropWhile_le isFlag (splitKey cs).2
  have h₃ := splitSize_length_le ((splitKey cs).2.dropWhile isFlag)
  have h₄ := splitLength_length_le (splitSize ((splitKey cs).2.dropWhile isFlag)).2
  have h₅ := dropModifier_length_le
    (splitLength (splitSize ((splitKey cs).2.dropWhile isFlag)).2).2
  simp only [Directive.split, List.length_drop]
  omega

/-- A piece of a template. -/
inductive Piece where
  | literal (c : Char)
  | directive (d : Directive)

/-- The pieces of a template. -/
def pieces : List Char → List Piece
  | []               => []
  | '%' :: '%' :: cs => .literal '%' :: pieces cs
  | '%' :: cs        => .directive (Directive.split cs).1 :: pieces (Directive.split cs).2
  | c :: cs          => .literal c :: pieces cs
termination_by cs => cs.length
decreasing_by
  · simp only [List.length_cons]; omega
  · exact Nat.lt_succ_of_le (Directive.split_length_le cs)
  · simp

/-! ## Does anything look like a part? -/

/-- The letters after which a template counts as one of parts, in either case; the dotted
and the dotless I and the long S count as I and S. -/
def isLetter (c : Char) : Bool :=
  "diouxefgcrsa%".toList.contains c.toLower || ['İ', 'ı', 'ſ'].contains c

/-- The rest after what looks like a size: a star or digits of any script. -/
def afterSize : List Char → List Char
  | '*' :: cs => cs
  | cs        => cs.dropWhile fun c => (Text.digitValue? c).isSome

/-- The rest after what looks like a size behind a point. -/
def afterLength (cs : List Char) : List Char :=
  match cs with
  | '.' :: ds => if (afterSize ds).length < ds.length then afterSize ds else cs
  | _         => cs

/-- Do the characters begin with something that looks like a part? -/
def beginsPart : List Char → Bool
  | '%' :: '(' :: cs =>
    match cs.dropWhile Text.isWordChar with
    | ')' :: rest =>
      cs.head? != some ')' && (afterLength (afterSize (rest.dropWhile isFlag))).head?.any isLetter
    | _ => false
  | _ => false

/-- Is there anything in a template that looks like a part? -/
def hasPart : List Char → Bool
  | []      => false
  | c :: cs => beginsPart (c :: cs) || hasPart cs

/-! ## Writing a record -/

/-- The fault of a template that is malformed or names no part of a record. -/
def malformed : Fault := .value .noFormatField

/-- The fault of a part that is no number where one is asked for. -/
def notANumber : Fault := .type .badCall

/-- The greatest length to which a part can be cut. -/
def greatestLength : Nat := Nat.pow 2 31 - 1

/-- The greatest width that can be written in a template. -/
def greatestWidth : Nat := Nat.pow 2 63 - 1

/-- Is the value a whole number, truth values included? -/
def isWhole : Value → Bool
  | .int _  => true
  | .bool _ => true
  | _       => false

/-- The sign that a size is to be taken from a part. -/
def star : List Char := ['*']

/-- The size, at most the greatest one, that digits stand for. A star needs a whole number
to take; what it takes is not there any more when the directive is written, and the size
does not matter then. -/
def sizeOfDigits (canTake : Bool) (greatest : Nat) (cs : List Char) : Except Fault Nat :=
  if cs == star then if canTake then .ok 0 else .error notANumber
  else
    let n := cs.foldl (fun n c => 10 * n + (c.toNat - 0x30)) 0
    if greatest < n then .error malformed else .ok n

/-- A text cut to a length, if one is given, and filled up to a width. -/
def fitted (toLeft : Bool) (width : Nat) (length : Option Nat) (s : String) : String :=
  let cs := match length with
    | some n => s.toList.take n
    | none   => s.toList
  let blanks := List.replicate (width - cs.length) ' '
  String.ofList (if toLeft then cs ++ blanks else blanks ++ cs)

/-- The letters that ask for a number or, the first of them, for a single character. -/
def isNumberLetter (c : Char) : Bool := "cdiouxXeEfFgG".toList.contains c

/-- A part in the form that a letter chooses, fitted into its place; there is room for no
more characters than a part can have. -/
def formed (letter : Char) (toLeft : Bool) (width : Nat) (length : Option Nat) (v : Value) :
    Except Fault String :=
  let fit (length : Option Nat) (s : String) : Except Fault String :=
    if greatestLength < width then .error malformed else .ok (fitted toLeft width length s)
  if letter == 's' then fit length v.display
  else if letter == 'r' then fit length v.inspect
  else if letter == 'a' then fit length (Text.asciiOnly v.inspect)
  else if isNumberLetter letter then
    match v with
    | .text s => if letter == 'c' && s.length == 1 then fit none s else .error notANumber
    | _       => .error notANumber
  else .error malformed

/-- A whole record in the form that a letter chooses, as far as its beginning reaches. -/
def formedWhole (letter : Char) (toLeft : Bool) (width : Nat) (length : Option Nat)
    (e : Entry) : Except Fault String :=
  if isNumberLetter letter then .error notANumber
  else if letter == 'a' then formed 's' toLeft width length (.text (Text.asciiOnly e.opening))
  else if letter == 'r' || letter == 's' then formed 's' toLeft width length (.text e.opening)
  else .error malformed

/-- What a directive writes of a record. Without a name it asks for the next of several
parts: the first time for the whole record, and later for one that is not there. -/
def Directive.fill (d : Directive) (e : Entry) (isFirst : Bool) : Except Fault String := do
  let part ← match d.key with
    | none     => .ok none
    | some key =>
      match e.part? key with
      | some v => .ok (some v)
      | none   => .error malformed
  let canTake := part.any isWhole
  let width ← sizeOfDigits canTake greatestWidth d.width
  let length ← d.length.mapM (sizeOfDigits (canTake && d.width != star) greatestLength)
  let isTaken := d.width == star || d.length == some star
  let toLeft := d.flags.contains '-'
  match d.letter, part with
  | none,   _      => throw malformed
  | some c, some v => if isTaken then throw notANumber else formed c toLeft width length v
  | some c, none   => if isFirst then formedWhole c toLeft width length e else throw notANumber

/-- The texts of pieces, `isFirst` telling whether no directive came before them. -/
def fillAll (e : Entry) (isFirst : Bool) : List Piece → Except Fault (List String)
  | []                 => .ok []
  | .literal c :: ps   => return String.singleton c :: (← fillAll e isFirst ps)
  | .directive d :: ps => do
    let s ← d.fill e isFirst
    return s :: (← fillAll e false ps)

/-- A record written by a template, its level's name in colour. -/
def colouredLine (template : String) (e : Entry) : Except Fault String :=
  if hasPart template.toList then
    return String.join (← fillAll e.inColour true (pieces template.toList))
  else .error malformed

end SqlText.Log
