import SqlText.Proofs.LiteralTexts
import SqlText.Proofs.Skeletons
import SqlText.Text.Word

/-!
# Case marks — a text parted at the words WHEN, THEN, ELSE and END

    CASE WHEN a THEN "x END" ELSE 0 END   is parted at   WHEN, THEN, ELSE and the last END

A text is a row of tokens: words, which are as long as they can be, and characters that belong
to none. Inside a literal no character belongs to a word. Where a token is one of the four words,
the text is parted. A blank ends every word, so a text between two blanks gives the tokens that
it gives alone, and stays in one part where it leaves no literal open and holds none of the four
words outside its literals. Neither a number nor a JSON string holds any of them.

* **`tokens_append_blank`**: a text before a blank gives its own tokens.
* **`mem_erase_of_mem_word`**: words show outside all literals.
* **`IsPiece`**, **`IsPiece.of_kind`**: what is not parted, literals among it.
* **`parted_append_blank`**, **`parted_mark`**: a piece, and one after one of the four words.
-/

namespace SqlText

open Text (Quoting isWordChar jsonString)
open Text.Quoting (outside)

/-! ## Tokens -/

/-- One word of a text, or one character that belongs to none. -/
inductive Token where
  | word (cs : List Char)
  | char (c : Char)
deriving DecidableEq

namespace Token

/-- The characters of a token. -/
def chars : Token → List Char
  | word cs => cs
  | char c  => [c]

end Token

/-- A character of a word in front of tokens, the first of which it belongs to if that is a
word. -/
def consWord (c : Char) : List Token → List Token
  | .word cs :: ts => .word (c :: cs) :: ts
  | ts             => .word [c] :: ts

/-- The tokens of characters. -/
def tokens (q : Quoting) : List Char → List Token
  | []      => []
  | c :: cs =>
    if q = outside ∧ isWordChar c = true then consWord c (tokens outside cs)
    else .char c :: tokens (q.next c) cs

theorem chars_consWord (c : Char) (ts : List Token) :
    (consWord c ts).flatMap Token.chars = c :: ts.flatMap Token.chars := by
  cases ts with
  | nil => rfl
  | cons t ts => cases t <;> rfl

/-- The tokens of characters hold these characters. -/
theorem chars_tokens : ∀ (cs : List Char) (q : Quoting),
    (tokens q cs).flatMap Token.chars = cs := by
  intro cs
  induction cs with
  | nil => intro q; rfl
  | cons c cs ih =>
      intro q
      rw [tokens]
      split
      · rw [chars_consWord, ih]
      · rw [List.flatMap_cons, ih]
        rfl

/-- A word does not go on behind a character that belongs to none. -/
theorem consWord_append_char (c d : Char) (ts us : List Token) :
    consWord c (ts ++ .char d :: us) = consWord c ts ++ .char d :: us := by
  cases ts with
  | nil => rfl
  | cons t ts => cases t <;> rfl

/-- No character of a word opens a literal. -/
theorem outside_next_of_isWordChar {c : Char} (h : isWordChar c = true) :
    outside.next c = outside := by
  refine if_neg ?_
  rintro rfl
  exact absurd h (by decide)

/-- What stands before a blank gives its own tokens. -/
theorem tokens_append_blank (ds : List Char) : ∀ (cs : List Char) (q : Quoting),
    q.after cs = outside →
      tokens q (cs ++ ' ' :: ds) = tokens q cs ++ .char ' ' :: tokens outside ds := by
  intro cs
  induction cs with
  | nil =>
      rintro q rfl
      rfl
  | cons c cs ih =>
      intro q hq
      rw [List.cons_append, tokens, tokens]
      split
      · -- the word that the character begins or goes on with ends at the blank at the latest
        rename_i hword
        rw [hword.1, Quoting.after_cons, outside_next_of_isWordChar hword.2] at hq
        rw [ih outside hq, consWord_append_char]
      · rw [ih (q.next c) hq, List.cons_append]

/-- A word that begins with the character was there without it, or is the character alone. -/
theorem mem_consWord {c : Char} {w : List Char} {ts : List Token}
    (h : .word w ∈ consWord c ts) :
    (∃ v, w = c :: v ∧ (v = [] ∨ .word v ∈ ts)) ∨ .word w ∈ ts := by
  have hfirst : ∀ {v : List Char} {us : List Token}, .word w ∈ .word (c :: v) :: us →
      w = c :: v ∨ .word w ∈ us := fun h => (List.mem_cons.mp h).imp_left Token.word.inj
  cases ts with
  | nil => exact (hfirst h).imp_left fun heq => ⟨[], heq, .inl rfl⟩
  | cons t ts =>
      cases t with
      | word v =>
          rcases hfirst h with heq | h
          · exact .inl ⟨v, heq, .inr List.mem_cons_self⟩
          · exact .inr (List.mem_cons_of_mem _ h)
      | char d => exact (hfirst h).imp_left fun heq => ⟨[], heq, .inl rfl⟩

/-- The words of a text stand outside all literals. -/
theorem mem_erase_of_mem_word {w : List Char} {c : Char} (hc : c ∈ w) :
    ∀ (cs : List Char) (q : Quoting), .word w ∈ tokens q cs → c ∈ q.erase cs := by
  intro cs
  induction cs generalizing w with
  | nil => intro q h; exact nomatch h
  | cons d cs ih =>
      intro q h
      rw [tokens] at h
      split at h
      · rename_i hword
        have hshows : q.erase (d :: cs) = d :: outside.erase cs := by
          rw [hword.1, Quoting.erase_cons, outside_next_of_isWordChar hword.2]
          rfl
        rw [hshows]
        rcases mem_consWord h with ⟨v, rfl, hv⟩ | hw
        · rcases List.mem_cons.mp hc with rfl | hc
          · exact List.mem_cons_self
          · rcases hv with rfl | hv
            · exact nomatch hc
            · exact List.mem_cons_of_mem _ (ih hc outside hv)
        · exact List.mem_cons_of_mem _ (ih hc outside hw)
      · have hrest : c ∈ (q.next d).erase cs := by
          rcases List.mem_cons.mp h with heq | h
          · exact nomatch heq
          · exact ih hc (q.next d) h
        rw [Quoting.erase_cons]
        split
        · exact List.mem_cons_of_mem _ hrest
        · exact hrest

/-! ## The four words -/

namespace CaseExpr

/-- The words at which a CASE expression is parted, by what each of them begins. -/
inductive Mark where
  | condition
  | result
  | otherwise
  | close
deriving DecidableEq

namespace Mark

/-- The word itself. -/
def word : Mark → String
  | condition => "WHEN"
  | result    => "THEN"
  | otherwise => "ELSE"
  | close     => "END"

def all : List Mark := [condition, result, otherwise, close]

theorem mem_all (m : Mark) : m ∈ all := by cases m <;> decide

/-- The word that a token is, if it is one of the four. -/
def ofToken? (t : Token) : Option Mark := all.find? fun m => t = .word m.word.toList

theorem ofToken?_word (m : Mark) : ofToken? (.word m.word.toList) = some m := by
  cases m <;> decide

theorem ofToken?_eq_none {t : Token} (h : ∀ m : Mark, t ≠ .word m.word.toList) :
    ofToken? t = none := by
  refine List.find?_eq_none.mpr fun m _ => ?_
  rw [decide_eq_true_eq]
  exact h m

/-- Each of the four words has a letter that no number and no quote is. -/
theorem exists_letter (m : Mark) :
    ∃ c ∈ m.word.toList, isNumeric c = false ∧ c ≠ '\x22' := by
  cases m with
  | condition => exact ⟨'W', by decide⟩
  | result => exact ⟨'T', by decide⟩
  | otherwise => exact ⟨'L', by decide⟩
  | close => exact ⟨'N', by decide⟩

end Mark

/-! ## Parting -/

/-- Tokens parted at the four words: what stands before the first of them, and behind each of
them what stands before the next. -/
def partsOfTokens : List Token → List Token × List (Mark × List Token)
  | []      => ([], [])
  | t :: ts =>
    match Mark.ofToken? t with
    | some m => ([], (m, (partsOfTokens ts).1) :: (partsOfTokens ts).2)
    | none   => (t :: (partsOfTokens ts).1, (partsOfTokens ts).2)

/-- A text parted at the four words outside all literals. -/
def parted (s : String) : List Token × List (Mark × List Token) :=
  partsOfTokens (tokens outside s.toList)

/-- Tokens that are none of the four words stay together. -/
theorem partsOfTokens_append (us : List Token) :
    ∀ {ts : List Token}, (∀ t ∈ ts, Mark.ofToken? t = none) →
      partsOfTokens (ts ++ us) = (ts ++ (partsOfTokens us).1, (partsOfTokens us).2) := by
  intro ts
  induction ts with
  | nil => intro _; rfl
  | cons t ts ih =>
      intro h
      obtain ⟨ht, hts⟩ := List.forall_mem_cons.mp h
      rw [List.cons_append, partsOfTokens, ht, ih hts]
      rfl

/-! ## Pieces -/

/-- A text that is not parted: it leaves no literal open and has none of the four words outside
its literals. -/
structure IsPiece (t : String) : Prop where
  closed : Closed t
  noMark : ∀ m : Mark, .word m.word.toList ∉ tokens outside t.toList

/-- A text without quotes in which none of the four words stands. -/
def Unparted (t : String) : Prop :=
  '\x22' ∉ t.toList ∧ ∀ m ∈ Mark.all, .word m.word.toList ∉ tokens outside t.toList

instance (t : String) : Decidable (Unparted t) := inferInstanceAs (Decidable (_ ∧ _))

namespace IsPiece

theorem of_unparted {t : String} (h : Unparted t) : IsPiece t :=
  ⟨closed_of_not_mem h.1, fun m => h.2 m m.mem_all⟩

/-- No word, no number and no JSON string that is a literal is parted. -/
theorem of_kind {t : String} (h : LiteralKind t) : IsPiece t := by
  refine ⟨(LiteralForm.of_kind h).after, fun m hm => ?_⟩
  obtain ⟨c, hc, hnumeric, hquote⟩ := m.exists_letter
  have hshown : c ∈ outside.erase t.toList := mem_erase_of_mem_word hc _ outside hm
  cases h with
  | word h =>
      have hwords : ∀ t ∈ ["NULL", "true", "false"], Unparted t := by decide
      exact (hwords t h).2 m m.mem_all hm
  | number h =>
      -- a number shows as it is, but has no such letter
      rw [Quoting.erase_of_not_mem _ (LiteralForm.not_mem_of_bare h.bare rfl)] at hshown
      rw [h c hshown] at hnumeric
      exact Bool.noConfusion hnumeric
  | quoted s =>
      rw [Quoting.erase_jsonString] at hshown
      exact hquote (by simpa using hshown)

theorem ofToken?_eq_none {t : String} (h : IsPiece t) :
    ∀ tok ∈ tokens outside t.toList, Mark.ofToken? tok = none := by
  intro tok htok
  refine Mark.ofToken?_eq_none fun m hm => ?_
  rw [hm] at htok
  exact h.noMark m htok

end IsPiece

/-- The tokens of a text between two blanks. -/
def between (t : String) : List Token := .char ' ' :: tokens outside t.toList ++ [.char ' ']

/-- A text without the blanks at its ends, one at each, as its tokens have them. -/
def inner (ts : List Token) : String := String.ofList (ts.flatMap Token.chars).tail.dropLast

theorem inner_between (t : String) : inner (between t) = t := by
  rw [inner, between, List.cons_append, List.flatMap_cons, List.flatMap_append, chars_tokens]
  show String.ofList (t.toList ++ [' ']).dropLast = t
  rw [List.dropLast_concat, String.ofList_toList]

/-- A blank is none of the four words. -/
theorem ofToken?_blank : Mark.ofToken? (.char ' ') = none :=
  Mark.ofToken?_eq_none fun _ => nofun

/-- A piece and a blank stay together with what follows them, up to the first of the four
words. -/
theorem parted_append_blank {t : String} (ht : IsPiece t) (s : String) :
    parted (t ++ " " ++ s) =
      (tokens outside t.toList ++ .char ' ' :: (parted s).1, (parted s).2) := by
  have hrow : tokens outside (t ++ " " ++ s).toList =
      tokens outside t.toList ++ .char ' ' :: tokens outside s.toList := by
    rw [String.toList_append, String.toList_append, List.append_assoc]
    exact tokens_append_blank _ _ _ ht.closed
  rw [parted, hrow, partsOfTokens_append _ ht.ofToken?_eq_none, partsOfTokens, ofToken?_blank]
  rfl

/-- A piece between blanks after one of the four words is the part that this word begins, where
another of them follows. -/
theorem parted_mark (m : Mark) {t : String} (ht : IsPiece t) {s : String}
    (hs : (parted s).1 = []) :
    parted (m.word ++ " " ++ t ++ " " ++ s) = ([], (m, between t) :: (parted s).2) := by
  have hmark : tokens outside m.word.toList = [.word m.word.toList] ∧
      outside.after m.word.toList = outside := by cases m <;> decide
  have hrow : tokens outside (m.word ++ " " ++ t ++ " " ++ s).toList =
      .word m.word.toList :: .char ' ' :: tokens outside (t ++ " " ++ s).toList := by
    rw [String.append_assoc, String.append_assoc, String.append_assoc, String.toList_append,
      String.toList_append, ← String.append_assoc]
    show tokens outside (m.word.toList ++ ' ' :: (t ++ " " ++ s).toList) = _
    rw [tokens_append_blank _ _ _ hmark.2, hmark.1]
    rfl
  rw [parted, hrow, partsOfTokens, Mark.ofToken?_word, partsOfTokens, ofToken?_blank, ← parted,
    parted_append_blank ht, hs, between]
  rfl

end CaseExpr

end SqlText
