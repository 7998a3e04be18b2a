import Mathlib.Tactic.SplitIfs
import SqlText.Text.JsonString

/-!
# Reading JSON strings — the text that a literal stands for

    readJsonChar? (jsonChar c ++ cs)  =  some (c, cs)

Between the quotes of a JSON string a character stands for itself, or it is written by a
backslash: with one of eight letters, or with the four hexadecimal digits of a code unit,
two such units making a character beyond U+FFFF. A reader takes one character at a time and
says what is left, so whatever the characters are, nothing that is written after them can be
mistaken for a part of them.

* **`jsonCode_jsonChar`**: the three forms that a written character takes.
* **`readJsonChar?_jsonChar`**: a written character is read back, and no more than that.
* **`jsonString_inj`**: different texts have different literals.
-/

namespace SqlText.Text

/-- The letters that stand after a backslash, each with the character that it stands for. -/
def jsonLetters : List (Char × Char) :=
  [('\x22', '\x22'), ('\\', '\\'), ('/', '/'), ('n', '\n'), ('r', '\r'), ('t', '\t'),
    ('f', '\x0c'), ('b', '\x08')]

/-- A character that ends nothing and begins no escape inside a JSON string. -/
def IsPlain (c : Char) : Prop := c ≠ '\x22' ∧ c ≠ '\\'

/-- What a character may become inside a JSON string: a backslash with a letter, a backslash
with the digits of a code point below U+0020, or itself. -/
inductive JsonCode (c : Char) : List Char → Prop where
  | letter (d : Char) (h : jsonLetters.lookup d = some c) : JsonCode c ['\\', d]
  | codePoint (h : c.toNat < 0x20) : JsonCode c ('\\' :: 'u' :: hexPadded 4 c.toNat)
  | itself (h : IsPlain c) (hc : 0x20 ≤ c.toNat) : JsonCode c [c]

/-- Every character is written in one of the three forms. -/
theorem jsonCode_jsonChar (c : Char) : JsonCode c (jsonChar c) := by
  simp only [jsonChar, beq_iff_eq]
  split_ifs with hq hb hn hr ht hf hs hlow
  · exact .letter '\x22' (by rw [hq]; decide)
  · exact .letter '\\' (by rw [hb]; decide)
  · exact .letter 'n' (by rw [hn]; decide)
  · exact .letter 'r' (by rw [hr]; decide)
  · exact .letter 't' (by rw [ht]; decide)
  · exact .letter 'f' (by rw [hf]; decide)
  · exact .letter 'b' (by rw [hs]; decide)
  · exact .codePoint hlow
  · exact .itself ⟨hq, hb⟩ (Nat.le_of_not_lt hlow)

/-! ## Code units -/

/-- The value of a hexadecimal digit, in either letter case. -/
def hexValue? (c : Char) : Option Nat :=
  if '0' ≤ c ∧ c ≤ '9' then some (c.toNat - 0x30)
  else if 'a' ≤ c ∧ c ≤ 'f' then some (c.toNat - 0x57)
  else if 'A' ≤ c ∧ c ≤ 'F' then some (c.toNat - 0x37)
  else none

/-- The code unit of four hexadecimal digits, and what follows them. -/
def readUnit? : List Char → Option (Nat × List Char)
  | a :: b :: c :: d :: cs => do
    let a ← hexValue? a
    let b ← hexValue? b
    let c ← hexValue? c
    let d ← hexValue? d
    return (((a * 16 + b) * 16 + c) * 16 + d, cs)
  | _ => none

theorem hexValue?_hexDigit : ∀ d : Fin 16, hexValue? (hexDigit d) = some d.val := by decide

/-- A code unit is read back from its four digits. -/
theorem readUnit?_hexPadded {n : Nat} (h : n < 0x10000) (cs : List Char) :
    readUnit? (hexPadded 4 n ++ cs) = some (n, cs) := by
  have digit : ∀ m : Nat, hexValue? (hexDigit (m % 16)) = some (m % 16) :=
    fun m => hexValue?_hexDigit ⟨m % 16, Nat.mod_lt m (by decide)⟩
  have hn : ((n / 16 / 16 / 16 % 16 * 16 + n / 16 / 16 % 16) * 16 + n / 16 % 16) * 16 + n % 16
      = n := by omega
  show (do
    let a ← hexValue? (hexDigit (n / 16 / 16 / 16 % 16))
    let b ← hexValue? (hexDigit (n / 16 / 16 % 16))
    let c ← hexValue? (hexDigit (n / 16 % 16))
    let d ← hexValue? (hexDigit (n % 16))
    return (((a * 16 + b) * 16 + c) * 16 + d, cs)) = some (n, cs)
  rw [digit, digit, digit, digit]
  exact congrArg (fun m => some (m, cs)) hn

/-! ## Characters -/

/-- The character that a code unit begins: the unit itself, or a pair with the unit that
follows in a second escape. -/
def readCodePoint? (n : Nat) (cs : List Char) : Option (Char × List Char) :=
  if n < 0xD800 ∨ 0xDFFF < n then some (Char.ofNat n, cs)
  else
    match cs with
    | '\\' :: 'u' :: ds => do
      let (m, rest) ← readUnit? ds
      if n < 0xDC00 ∧ 0xDC00 ≤ m ∧ m ≤ 0xDFFF then
        some (Char.ofNat (0x10000 + (n - 0xD800) * 0x400 + (m - 0xDC00)), rest)
      else none
    | _ => none

/-- The first character between the quotes of a JSON string, and what follows it; none at
the closing quote. -/
def readJsonChar? : List Char → Option (Char × List Char)
  | '\\' :: 'u' :: cs => do
    let (n, rest) ← readUnit? cs
    readCodePoint? n rest
  | '\\' :: d :: cs   => (jsonLetters.lookup d).map (·, cs)
  | '\x22' :: _       => none
  | c :: cs           => if c.toNat < 0x20 then none else some (c, cs)
  | []                => none

/-- A written character is read back, whatever follows it. -/
theorem readJsonChar?_jsonChar (c : Char) (cs : List Char) :
    readJsonChar? (jsonChar c ++ cs) = some (c, cs) := by
  have h := jsonCode_jsonChar c
  generalize jsonChar c = code at h
  cases h with
  | letter d h =>
      have hu : d ≠ 'u' := by
        rintro rfl
        exact nomatch (show none = some c from h)
      show readJsonChar? ('\\' :: d :: cs) = some (c, cs)
      rw [readJsonChar?, h]
      · rfl
      · exact hu
  | codePoint h =>
      show (do
        let (n, rest) ← readUnit? (hexPadded 4 c.toNat ++ cs)
        readCodePoint? n rest) = some (c, cs)
      rw [readUnit?_hexPadded (by omega) cs]
      show readCodePoint? c.toNat cs = some (c, cs)
      unfold readCodePoint?
      rw [if_pos (Or.inl (by omega)), Char.ofNat_toNat]
  | itself h hc =>
      show readJsonChar? (c :: cs) = some (c, cs)
      rw [readJsonChar?, if_neg (Nat.not_lt.mpr hc)]
      · intro _ hb _
        exact h.2 hb
      · intro _ _ hb _
        exact h.2 hb
      · exact h.1

/-- No written character begins with a closing quote. -/
theorem jsonChar_append_ne_quote (c : Char) (cs ds : List Char) :
    jsonChar c ++ cs ≠ '\x22' :: ds := by
  intro h
  have hr := readJsonChar?_jsonChar c cs
  rw [h] at hr
  exact nomatch hr

/-- What is written up to the closing quote determines the text, and what follows. -/
theorem jsonBody_append_inj : ∀ (xs ys r r' : List Char),
    jsonBody xs ++ '\x22' :: r = jsonBody ys ++ '\x22' :: r' → xs = ys ∧ r = r' := by
  intro xs
  induction xs with
  | nil =>
      intro ys r r' h
      cases ys with
      | nil => exact ⟨rfl, (List.cons.inj h).2⟩
      | cons y ys =>
          rw [jsonBody_cons, List.append_assoc] at h
          exact absurd h.symm (jsonChar_append_ne_quote y _ r)
  | cons x xs ih =>
      intro ys r r' h
      cases ys with
      | nil =>
          rw [jsonBody_cons, List.append_assoc] at h
          exact absurd h (jsonChar_append_ne_quote x _ r')
      | cons y ys =>
          rw [jsonBody_cons, jsonBody_cons, List.append_assoc, List.append_assoc] at h
          have hx := readJsonChar?_jsonChar x (jsonBody xs ++ '\x22' :: r)
          rw [h, readJsonChar?_jsonChar y] at hx
          obtain ⟨hxy, hrest⟩ := Prod.mk.inj (Option.some.inj hx)
          obtain ⟨hxs, hr⟩ := ih ys r r' hrest.symm
          exact ⟨by rw [hxy, hxs], hr⟩

/-- Different texts have different literals. -/
theorem jsonString_inj {s t : String} (h : jsonString s = jsonString t) : s = t := by
  have hl := congrArg String.toList h
  rw [jsonString, jsonString, String.toList_ofList, String.toList_ofList] at hl
  have hb := jsonBody_append_inj s.toList t.toList [] [] (List.cons.inj hl).2
  exact String.toList_inj.mp hb.1

end SqlText.Text
