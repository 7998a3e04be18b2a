import SqlText.Proofs.AlikeCases
import SqlText.Proofs.InsertReadBack
import SqlText.Proofs.StringLiterals

/-!
# Stored texts — what the database keeps of a text that it is sent

    readSqlString? (jsonString "tab\t, form feed\x0c")  =  some "tab\t, form feedf"

The literal of a text has the escapes of JSON, and the database reads it by escapes of its own.
The two agree on the quote, the backslash and four control characters. The database has no
escape with an `f` or a `u`: it drops the backslash and keeps the letter. So a form feed is
stored as the letter, and any other control character as the letter and four digits. A text
without such characters is stored as it is.

* **`readSqlBody?_jsonChar`**: what is read for one written character.
* **`storedText_eq_iff`**: the texts that are stored as they are.
* **`readBack_iff`**: what is read from a literal.
* **`texts_stored`**: literals, the rows of an INSERT and the values of an UPDATE.
* **`form_feed_is_lost`**: a text of which a letter is stored.
-/

namespace SqlText

namespace Text

/-! ## Strings as the database reads them -/

/-- What a character stands for behind a backslash in an SQL string: six letters stand for
control characters, the two wildcards keep their backslash, and every other character stands for
itself. -/
def escapeValue : Char → List Char
  | '0' => ['\x00']
  | 'b' => ['\x08']
  | 'n' => ['\n']
  | 'r' => ['\r']
  | 't' => ['\t']
  | 'Z' => ['\x1a']
  | '%' => ['\\', '%']
  | '_' => ['\\', '_']
  | c   => [c]

/-- The characters that an SQL string stands for, read from behind its opening quote up to the
quote that closes it; none unless that one comes last. Two quotes in a row stand for one. -/
def readSqlBody? : List Char → Option (List Char)
  | ['\x22']               => some []
  | '\x22' :: '\x22' :: cs => (readSqlBody? cs).map ('\x22' :: ·)
  | '\x22' :: _            => none
  | '\\' :: c :: cs        => (readSqlBody? cs).map (escapeValue c ++ ·)
  | ['\\']                 => none
  | c :: cs                => (readSqlBody? cs).map (c :: ·)
  | []                     => none

/-- The text that an SQL string stands for; none where the characters are no complete string. -/
def readSqlString? (t : String) : Option String :=
  match t.toList with
  | '\x22' :: cs => (readSqlBody? cs).map String.ofList
  | _            => none

/-! ## What is stored -/

/-- A character that JSON and the database write alike: no control character, or one of the four
for which both have the same letter. -/
def IsKept (c : Char) : Prop := 0x20 ≤ c.toNat ∨ c ∈ ['\x08', '\t', '\n', '\r']

instance (c : Char) : Decidable (IsKept c) := inferInstanceAs (Decidable (_ ∨ _))

/-- What is stored for a character: itself where it is kept, else the letter of its escape in
JSON and the digits, if any. -/
def storedChar (c : Char) : List Char :=
  if IsKept c then [c] else if c = '\x0c' then ['f'] else 'u' :: hexPadded 4 c.toNat

/-- What is stored for a text. -/
def storedText (s : String) : String := String.ofList (s.toList.flatMap storedChar)

/-- A character that begins nothing is read as it is. -/
theorem readSqlBody?_cons {c : Char} (h : IsPlain c) (cs : List Char) :
    readSqlBody? (c :: cs) = (readSqlBody? cs).map (c :: ·) := by
  rw [readSqlBody?]
  all_goals simp [h.1, h.2]

/-- Characters that begin nothing are read as they are. -/
theorem readSqlBody?_append (rest : List Char) :
    ∀ cs : List Char, (∀ c ∈ cs, IsPlain c) →
      readSqlBody? (cs ++ rest) = (readSqlBody? rest).map (cs ++ ·) := by
  intro cs
  induction cs with
  | nil => intro _; exact Option.map_id'.symm
  | cons c cs ih =>
      intro h
      obtain ⟨hc, hcs⟩ := List.forall_mem_cons.mp h
      rw [List.cons_append, readSqlBody?_cons hc, ih hcs, Option.map_map]
      rfl

/-- For a written character the database reads what it stores for it. -/
theorem readSqlBody?_jsonChar (c : Char) (cs : List Char) :
    readSqlBody? (jsonChar c ++ cs) = (readSqlBody? cs).map (storedChar c ++ ·) := by
  simp only [jsonChar, beq_iff_eq]
  split_ifs with hq hb hn hr ht hf hs hlow
  · subst hq; rfl
  · subst hb; rfl
  · subst hn; rfl
  · subst hr; rfl
  · subst ht; rfl
  · subst hf; rfl
  · subst hs; rfl
  · have hlost : ¬ IsKept c := by
      simp only [IsKept, List.mem_cons, List.not_mem_nil, or_false, not_or]
      exact ⟨by omega, hs, ht, hn, hr⟩
    have hdigits := readSqlBody?_append cs (hexPadded 4 c.toNat) (Quoting.isPlain_hexPadded 4 _)
    show (readSqlBody? (hexPadded 4 c.toNat ++ cs)).map ('u' :: ·) = _
    rw [hdigits, Option.map_map, storedChar, if_neg hlost, if_neg hf]
    rfl
  · rw [storedChar, if_pos (.inl (Nat.le_of_not_lt hlow))]
    exact readSqlBody?_cons ⟨hq, hb⟩ cs

theorem readSqlBody?_jsonBody (cs : List Char) :
    readSqlBody? (jsonBody cs ++ ['\x22']) = some (cs.flatMap storedChar) := by
  induction cs with
  | nil => rfl
  | cons c cs ih =>
      rw [jsonBody_cons, List.append_assoc, readSqlBody?_jsonChar, ih, List.flatMap_cons]
      rfl

/-- The literal of a text is a complete string, and its stored text is read from it. -/
theorem readSqlString?_jsonString (s : String) :
    readSqlString? (jsonString s) = some (storedText s) := by
  rw [readSqlString?, jsonString, String.toList_ofList]
  show (readSqlBody? (jsonBody s.toList ++ ['\x22'])).map String.ofList = _
  rw [readSqlBody?_jsonBody]
  rfl

/-! ## Texts that are stored as they are -/

/-- No other control character is ever stored. -/
theorem isKept_storedChar (c : Char) : ∀ d ∈ storedChar c, IsKept d := by
  rw [storedChar]
  split_ifs with hkept hf
  · exact List.forall_mem_singleton.mpr hkept
  · exact List.forall_mem_singleton.mpr (by decide)
  · exact List.forall_mem_cons.mpr
      ⟨by decide, fun d hd => .inl (le_toNat_hexPadded 4 _ d hd)⟩

/-- A text is stored as it is exactly where the two notations agree on every character of it. -/
theorem storedText_eq_iff (s : String) : storedText s = s ↔ ∀ c ∈ s.toList, IsKept c := by
  constructor
  · intro h c hc
    rw [← h, storedText, String.toList_ofList] at hc
    obtain ⟨d, -, hd⟩ := List.mem_flatMap.mp hc
    exact isKept_storedChar d c hd
  · intro h
    have hstored : s.toList.flatMap storedChar = s.toList.flatMap fun c => [c] :=
      List.flatMap_congr fun c hc => if_pos (h c hc)
    rw [storedText, hstored, List.flatMap_singleton', String.ofList_toList]

end Text

open Text (IsKept Trimmed readSqlString? storedText)

/-! ## Literals -/

/-- A text that the database reads from the literal of another one. -/
def ReadBack (trim : Bool) (s r : String) : Prop :=
  ∃ t, Literal.text trim (.text s) = .ok t ∧ readSqlString? t = some r

/-- From the literal of a text the database reads what it stores for it, and nothing else. -/
theorem readBack_iff (s r : String) : ReadBack false s r ↔ storedText s = r := by
  constructor
  · rintro ⟨t, ht, hr⟩
    rw [← Except.ok.inj ht] at hr
    exact Option.some.inj ((Text.readSqlString?_jsonString s).symm.trans hr)
  · rintro rfl
    exact ⟨_, rfl, Text.readSqlString?_jsonString s⟩

/-- A literal that is trimmed is that of the text without its blanks. -/
theorem readBack_trimmed {s u : String} (h : Trimmed s u) (r : String) :
    ReadBack true s r ↔ ReadBack false u r := by
  rw [← h.strip_eq]
  exact Iff.rfl

/-! ## Statements -/

namespace Insert

/-- Fields of a row of which the database stores the text that the row has under the columns,
wherever it has that one. -/
def StoresText (s : String) (columns : List Value) (row : List (Value × Value))
    (fields : List String) : Prop :=
  List.Forall₂ (fun k t => lookup k row = .text s → readSqlString? t = some (storedText s))
    columns (fields.take columns.length)

theorem IsRow.storesText (s : String) {columns : List Value} {dates : Nat}
    {row : List (Value × Value)} {fields : List String} (h : IsRow columns dates row fields) :
    StoresText s columns row fields := by
  refine h.literals.imp fun k t ht hs => ?_
  rw [hs] at ht
  rw [← Except.ok.inj ht]
  exact Text.readSqlString?_jsonString s

end Insert

/-- A text is read back from its literal exactly where it has no other control character than a
backspace, a tab and the two ends of a line, and so it is with the text without its blanks where
the literal is trimmed. Any other text is stored in another form. The same is stored for the text
wherever it stands in a row of an INSERT, and for the text without its blanks where an UPDATE
assigns it. -/
theorem texts_stored (s : String) :
    (ReadBack false s s ↔ ∀ c ∈ s.toList, IsKept c) ∧
    (∀ u, Trimmed s u → (ReadBack true s u ↔ ∀ c ∈ u.toList, IsKept c)) ∧
    ReadBack false s (storedText s) ∧
    (∀ (i : Insert) (c : Context) (sql : String), i.text.outcome c = .ok sql →
      ∃ p, i.Layout p sql ∧
        ((∀ row ∈ p.rows, ∀ k ∈ p.columns, (lookup k row).isFragment = false) →
          ∃ tuples, readTuples p.values = some tuples ∧
            List.Forall₂ (Insert.StoresText s p.columns) p.rows tuples)) ∧
    ∀ column : Value, ∃ u t, Trimmed s u ∧
      CaseExpr.assignment column (.text s) = .ok (column.display ++ " = " ++ t) ∧
      readSqlString? t = some (storedText u) := by
  have hself : ∀ u, ReadBack false u u ↔ ∀ c ∈ u.toList, IsKept c :=
    fun u => (readBack_iff u u).trans (Text.storedText_eq_iff u)
  refine ⟨hself s, fun u hu => (readBack_trimmed hu u).trans (hself u), (readBack_iff s _).mpr rfl,
    fun i c sql h => ?_, fun column => ?_⟩
  · obtain ⟨p, hp⟩ := Insert.Layout.of_text h
    refine ⟨p, hp, fun hrows => ?_⟩
    obtain ⟨tuples, hread, htuples⟩ := hp.toHasParts.readTuples_values hrows
    exact ⟨tuples, hread, htuples.imp fun _ _ => Insert.IsRow.storesText s⟩
  · exact ⟨_, _, Text.trimmed_strip s, CaseExpr.assignment_of_literal rfl rfl,
      Text.readSqlString?_jsonString _⟩

/-- The text in `quotedRows` is stored as it is. -/
theorem texts_stored_quoted :
    ReadBack false "x\", (" "x\", (" ∧
      ∃ p, (Insert.quotedRows false).Layout p Insert.quotedText ∧
        ∃ tuples, readTuples p.values = some tuples ∧
          List.Forall₂ (Insert.StoresText "x\", (" p.columns) p.rows tuples := by
  obtain ⟨hiff, -, -, hinsert, -⟩ := texts_stored "x\", ("
  have hkept : ("x\", (".toList.all fun c => decide (IsKept c)) = true := by decide
  have hall : ∀ c ∈ "x\", (".toList, IsKept c :=
    fun c hc => of_decide_eq_true (List.all_eq_true.mp hkept c hc)
  refine ⟨hiff.mpr hall, ?_⟩
  obtain ⟨p, hp, hread⟩ := hinsert (Insert.quotedRows false) {} Insert.quotedText
    (eq_ok_of_toOption (by decide +kernel))
  have hrows : (Insert.quotedParts false).rows = p.rows := Except.ok.inj hp.rows
  have hfirst : (Insert.quotedParts false).first = p.first := (List.cons.inj hrows).1
  refine ⟨p, hp, hread ?_⟩
  rw [← hrows, Insert.Parts.columns, ← hfirst]
  decide

/-- A form feed is written with an escape that the database does not have, and a letter is stored
in its place; so not every text is stored as it is. -/
theorem form_feed_is_lost :
    Literal.text false (.text "\x0c") = .ok "\"\\f\"" ∧ readSqlString? "\"\\f\"" = some "f" ∧
      ¬ ∀ s : String, ReadBack false s s := by
  have hwritten : Literal.text false (.text "\x0c") = .ok "\"\\f\"" := rfl
  have hread : readSqlString? "\"\\f\"" = some "f" := by decide
  refine ⟨hwritten, hread, fun h => ?_⟩
  obtain ⟨t, ht, hs⟩ := h "\x0c"
  rw [hwritten] at ht
  rw [← Except.ok.inj ht, hread] at hs
  exact absurd (Option.some.inj hs) (by decide)

end SqlText
