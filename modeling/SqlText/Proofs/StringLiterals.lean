import Mathlib.Data.List.Forall2
import Mathlib.Data.List.Induction
import SqlText.Literal
import SqlText.Proofs.Quoting
import SqlText.Proofs.Trimming

/-!
# String literals — texts that are written between quotes and read back

    readJsonString? (jsonString s ++ rest)  =  some (s, rest)

The literal of a text is one JSON string, complete and with nothing after it. A reader that
takes a character or an escape at a time, up to the quote that closes the string, has the text
back at the end of the literal. A quote closes a string unless an odd number of backslashes
stands before it, so the first and the last character of the literal are the only quotes that
count. No control character is written, and every character that needs no escape stands for
itself.

* **`readJsonString?_jsonString`**: the reader takes the whole literal and gives the text.
* **`Quoting.inside_of_erase_nil`**: where a scan stands, by the backslashes before it.
* **`isJsonString_jsonString`**: all that a literal is.
* **`text_read_back`**: the literals of a text, with and without its blanks.
-/

namespace SqlText

namespace Text

/-! ## Reading a JSON string -/

theorem length_of_readUnit? {cs rest : List Char} {n : Nat} (h : readUnit? cs = some (n, rest)) :
    rest.length < cs.length := by
  unfold readUnit? at h
  split at h
  · simp only [Option.bind_eq_bind, Option.bind_eq_some_iff] at h
    obtain ⟨_, -, _, -, _, -, _, -, h⟩ := h
    rw [← (Prod.mk.inj (Option.some.inj h)).2]
    simp only [List.length_cons]
    omega
  · exact nomatch h

theorem length_of_readCodePoint? {n : Nat} {cs rest : List Char} {c : Char}
    (h : readCodePoint? n cs = some (c, rest)) : rest.length ≤ cs.length := by
  unfold readCodePoint? at h
  split at h
  · have hrest : cs = rest := (Prod.mk.inj (Option.some.inj h)).2
    exact Nat.le_of_eq (congrArg List.length hrest.symm)
  split at h
  · obtain ⟨⟨m, ds⟩, hunit, h⟩ := Option.bind_eq_some_iff.mp h
    have hlength := length_of_readUnit? hunit
    dsimp only at h
    split at h
    · rw [← (Prod.mk.inj (Option.some.inj h)).2]
      simp only [List.length_cons]
      omega
    · exact nomatch h
  · exact nomatch h

/-- To read a character takes one character at least. -/
theorem length_of_readJsonChar? {cs rest : List Char} {c : Char}
    (h : readJsonChar? cs = some (c, rest)) : rest.length < cs.length := by
  unfold readJsonChar? at h
  split at h
  · obtain ⟨⟨n, ds⟩, hunit, h⟩ := Option.bind_eq_some_iff.mp h
    have hunit := length_of_readUnit? hunit
    have hpoint := length_of_readCodePoint? h
    simp only [List.length_cons]
    omega
  · obtain ⟨_, -, h⟩ := Option.map_eq_some_iff.mp h
    rw [← (Prod.mk.inj h).2]
    simp only [List.length_cons]
    omega
  · exact nomatch h
  · split at h
    · exact nomatch h
    · rw [← (Prod.mk.inj (Option.some.inj h)).2]
      exact Nat.lt_succ_self _
  · exact nomatch h

/-- The characters up to the quote that closes a JSON string, and what follows it; none where
something else than a character comes before. -/
def readJsonBody? : List Char → Option (List Char × List Char)
  | '\x22' :: cs => some ([], cs)
  | cs           =>
    match h : readJsonChar? cs with
    | some (c, rest) =>
      have := length_of_readJsonChar? h
      (readJsonBody? rest).map fun r => (c :: r.1, r.2)
    | none           => none
termination_by cs => cs.length

/-- The text of the JSON string at the front of some characters, and what follows it. -/
def readJsonString? : List Char → Option (String × List Char)
  | '\x22' :: cs => (readJsonBody? cs).map fun r => (String.ofList r.1, r.2)
  | _            => none

/-- What is no closing quote is read a character at a time. -/
theorem readJsonBody?_of_readJsonChar? {cs rest : List Char} {c : Char}
    (h : readJsonChar? cs = some (c, rest)) :
    readJsonBody? cs = (readJsonBody? rest).map fun r => (c :: r.1, r.2) := by
  rw [readJsonBody?]
  · split
    · rename_i hread
      rw [h] at hread
      obtain ⟨rfl, rfl⟩ := Prod.mk.inj (Option.some.inj hread)
      rfl
    · rename_i hread
      rw [h] at hread
      exact nomatch hread
  · rintro ds rfl
    exact nomatch h

theorem readJsonBody?_jsonBody (rest : List Char) :
    ∀ cs : List Char, readJsonBody? (jsonBody cs ++ '\x22' :: rest) = some (cs, rest) := by
  intro cs
  induction cs with
  | nil => rw [jsonBody_nil, List.nil_append, readJsonBody?]
  | cons c cs ih =>
      rw [jsonBody_cons, List.append_assoc,
        readJsonBody?_of_readJsonChar? (readJsonChar?_jsonChar c _), ih]
      rfl

/-- A literal is read to its end, whatever follows it, and gives the text. -/
theorem readJsonString?_jsonString (s : String) (rest : List Char) :
    readJsonString? ((jsonString s).toList ++ rest) = some (s, rest) := by
  have hbody := readJsonBody?_jsonBody rest s.toList
  rw [jsonString, String.toList_ofList, List.cons_append, List.append_assoc]
  show (readJsonBody? (jsonBody s.toList ++ '\x22' :: rest)).map _ = _
  rw [hbody]
  exact congrArg (fun t => some (t, rest)) String.ofList_toList

/-! ## Quotes and the backslashes before them -/

/-- The number of backslashes at the end. -/
def backslashes (cs : List Char) : Nat := (cs.reverse.takeWhile (· == '\\')).length

theorem backslashes_concat (cs : List Char) (c : Char) :
    backslashes (cs ++ [c]) = if c = '\\' then backslashes cs + 1 else 0 := by
  rw [backslashes, List.reverse_append, List.reverse_singleton, List.singleton_append,
    List.takeWhile_cons]
  by_cases h : c = '\\'
  · rw [if_pos h, if_pos (beq_iff_eq.mpr h)]
    rfl
  · rw [if_neg h, if_neg (by simpa using h)]
    rfl

namespace Quoting

/-- Inside a literal that is not closed on the way, a scan stands behind a backslash that
protects the next character exactly after an odd number of backslashes. -/
theorem inside_of_erase_nil (cs : List Char) (h : inside.erase cs = []) :
    (inside.after cs = escaped ∧ backslashes cs % 2 = 1) ∨
      (inside.after cs = inside ∧ backslashes cs % 2 = 0) := by
  induction cs using List.reverseRecOn with
  | nil => exact .inr ⟨rfl, rfl⟩
  | append_singleton cs c ih =>
      rw [erase_append, List.append_eq_nil_iff] at h
      rw [after_append, backslashes_concat, after_cons, after_nil]
      rcases ih h.1 with ⟨hstate, hparity⟩ | ⟨hstate, hparity⟩
      · -- the character is protected, and protects nothing itself
        rw [hstate]
        refine .inr ⟨rfl, ?_⟩
        split <;> omega
      · rw [hstate] at h ⊢
        have hquote : c ≠ '\x22' := by
          rintro rfl
          exact nomatch h.2
        by_cases hc : c = '\\'
        · rw [hc]
          exact .inl ⟨rfl, by rw [if_pos rfl]; omega⟩
        · rw [if_neg hc]
          exact .inr ⟨by rw [next, if_neg hquote, if_neg hc], rfl⟩

end Quoting

theorem backslashes_cons_quote (cs : List Char) : backslashes ('\x22' :: cs) = backslashes cs := by
  induction cs using List.reverseRecOn with
  | nil => rfl
  | append_singleton cs c ih =>
      rw [← List.cons_append, backslashes_concat, backslashes_concat, ih]

/-- Of the quotes of a literal only its first and its last character have no odd number of
backslashes before them. -/
theorem even_backslashes_iff (s : String) {before after : List Char}
    (h : (jsonString s).toList = before ++ '\x22' :: after) :
    backslashes before % 2 = 0 ↔ before = [] ∨ after = [] := by
  have herase : Quoting.inside.erase (jsonBody s.toList) = [] := (Quoting.inside_jsonBody _).2
  rw [jsonString, String.toList_ofList] at h
  cases before with
  | nil => exact ⟨fun _ => .inl rfl, fun _ => rfl⟩
  | cons q before =>
      rw [List.cons_append, List.cons.injEq] at h
      obtain ⟨rfl, hbody⟩ := h
      rw [backslashes_cons_quote, or_iff_right (List.cons_ne_nil _ _)]
      rcases List.eq_nil_or_concat after with rfl | ⟨after, q, rfl⟩
      · -- the closing quote: the whole body is before it
        replace hbody := List.append_cancel_right hbody
        rw [hbody] at herase
        rcases Quoting.inside_of_erase_nil before herase with ⟨hstate, -⟩ | ⟨-, hparity⟩
        · rw [← hbody, (Quoting.inside_jsonBody _).1] at hstate
          cases hstate
        · exact ⟨fun _ => rfl, fun _ => hparity⟩
      · -- any other quote is a part of the body, and does not show
        rw [List.concat_eq_append, ← List.cons_append, ← List.append_assoc] at hbody
        replace hbody := (List.append_inj' hbody rfl).1
        rw [hbody, Quoting.erase_append, List.append_eq_nil_iff] at herase
        rcases Quoting.inside_of_erase_nil before herase.1 with ⟨-, hparity⟩ | ⟨hstate, -⟩
        · simp [hparity]
        · rw [hstate] at herase
          exact absurd herase.2 (List.cons_ne_nil _ _)

/-! ## Characters of a literal -/

theorem le_toNat_hexDigit : ∀ n : Fin 16, 0x20 ≤ (hexDigit n).toNat := by decide

theorem le_toNat_hexPadded : ∀ (width n : Nat), ∀ c ∈ hexPadded width n, 0x20 ≤ c.toNat := by
  intro width
  induction width with
  | zero => exact fun n c h => nomatch h
  | succ width ih =>
      intro n c h
      rcases List.mem_append.mp h with h | h
      · exact ih (n / 16) c h
      · rw [List.mem_singleton.mp h]
        exact le_toNat_hexDigit ⟨n % 16, Nat.mod_lt n (by decide)⟩

/-- A letter that stands for a character is no control character. -/
theorem le_toNat_of_lookup {c d : Char} (h : jsonLetters.lookup d = some c) : 0x20 ≤ d.toNat := by
  have hall : ∀ e ∈ jsonLetters, 0x20 ≤ e.1.toNat := by decide
  have hmem : (d, c) ∈ jsonLetters := by
    obtain ⟨before, after, heq, -⟩ := List.lookup_eq_some_iff.mp h
    rw [heq]
    exact List.mem_append_right _ List.mem_cons_self
  exact hall _ hmem

theorem le_toNat_jsonChar (c : Char) : ∀ d ∈ jsonChar c, 0x20 ≤ d.toNat := by
  have h := jsonCode_jsonChar c
  generalize jsonChar c = code at h
  cases h with
  | letter d h =>
      exact List.forall_mem_cons.mpr
        ⟨by decide, List.forall_mem_singleton.mpr (le_toNat_of_lookup h)⟩
  | codePoint h =>
      have hdigits := le_toNat_hexPadded 4 c.toNat
      exact List.forall_mem_cons.mpr ⟨by decide, List.forall_mem_cons.mpr ⟨by decide, hdigits⟩⟩
  | itself h hc => simpa using hc

theorem le_toNat_jsonString (s : String) : ∀ c ∈ (jsonString s).toList, 0x20 ≤ c.toNat := by
  have hquote : ∀ c ∈ ['\x22'], 0x20 ≤ c.toNat := List.forall_mem_singleton.mpr (by decide)
  have hbody : ∀ c ∈ jsonBody s.toList, 0x20 ≤ c.toNat := by
    intro c hc
    obtain ⟨d, -, hd⟩ := List.mem_flatMap.mp hc
    exact le_toNat_jsonChar d c hd
  rw [jsonString, String.toList_ofList]
  exact List.forall_mem_cons.mpr
    ⟨by decide, List.forall_mem_append.mpr ⟨hbody, hquote⟩⟩

/-- What a character is written as: a code that is read as that character, and the character
itself unless it is a quote, a backslash or a control character. -/
structure IsCode (c : Char) (code : List Char) : Prop where
  read : ∀ rest, readJsonChar? (code ++ rest) = some (c, rest)
  itself : IsPlain c → 0x20 ≤ c.toNat → code = [c]

theorem isCode_jsonChar (c : Char) : IsCode c (jsonChar c) where
  read := readJsonChar?_jsonChar c
  itself hplain hc := by
    simp only [jsonChar, beq_iff_eq]
    have hne : ∀ d : Char, d.toNat < 0x20 → c ≠ d := by
      rintro d hd rfl
      omega
    rw [if_neg hplain.1, if_neg hplain.2, if_neg (hne _ (by decide)), if_neg (hne _ (by decide)),
      if_neg (hne _ (by decide)), if_neg (hne _ (by decide)), if_neg (hne _ (by decide)),
      if_neg (Nat.not_lt.mpr hc)]

/-! ## Literals -/

/-- One JSON string that is complete and stands for a text. A reader takes all of it and gives
the text; it has no control character, its first and its last character are its only quotes
without an odd number of backslashes before them, and between these two each character of the
text has its code. -/
structure IsJsonString (s t : String) : Prop where
  reads : readJsonString? t.toList = some (s, [])
  printed : ∀ c ∈ t.toList, 0x20 ≤ c.toNat
  quotes : ∀ before after, t.toList = before ++ '\x22' :: after →
    (backslashes before % 2 = 0 ↔ before = [] ∨ after = [])
  codes : ∃ codes, List.Forall₂ IsCode s.toList codes ∧
    t.toList = '\x22' :: (codes.flatten ++ ['\x22'])

theorem isJsonString_jsonString (s : String) : IsJsonString s (jsonString s) where
  reads := by
    have h := readJsonString?_jsonString s []
    rwa [List.append_nil] at h
  printed := le_toNat_jsonString s
  quotes _ _ := even_backslashes_iff s
  codes := by
    refine ⟨s.toList.map jsonChar, ?_, ?_⟩
    · exact List.forall₂_map_right_iff.mpr (List.forall₂_same.mpr fun c _ => isCode_jsonChar c)
    · rw [jsonString, String.toList_ofList, jsonBody, List.flatMap]

end Text

open Text (IsJsonString Trimmed)

/-- Every text has a literal that is one JSON string and stands for the text and, where it is
trimmed, one that stands for what is left of it without the blanks around it. -/
theorem text_read_back (s : String) :
    (∃ t, Literal.text false (.text s) = .ok t ∧ IsJsonString s t) ∧
      ∃ u t, Trimmed s u ∧ Literal.text true (.text s) = .ok t ∧ IsJsonString u t :=
  ⟨⟨_, rfl, Text.isJsonString_jsonString s⟩,
    ⟨_, _, Text.trimmed_strip s, rfl, Text.isJsonString_jsonString _⟩⟩

/-- The case of a backslash before a letter that would make an escape, and of one at the end. -/
example : Text.readJsonString? "\"\\\\u0041\\\"\\\\\"".toList =
    some ("\\u0041\"\\", []) := by
  cbv

end SqlText
