import SqlText.Literal
import SqlText.Proofs.Quoting

/-!
# Texts of literals — bare tokens and JSON strings

    Literal.text false v  =  .ok t    only if  t  is one bare token or one JSON string

A literal that is not an SQL fragment takes one of two forms. Numbers, truth values and null
are bare: no character of theirs quotes or separates anything. Texts, dates and times are
JSON strings. Either way the text is a piece that a scan for separators cannot cut, and
among null, truth values, whole numbers and texts no two values share a literal.

* **`LiteralKind.of_text`**: the literal of what is no fragment is a word, a number or a JSON
  string.
* **`LiteralForm.of_text`**: it has one of the two forms.
* **`text_scalar_inj`**: the literal of a scalar determines it.
-/

namespace SqlText

open Text (jsonString jsonString_inj)
open Text.Quoting (outside)

/-! ## Bare characters -/

/-- A character that neither quotes nor separates. -/
def isBare (c : Char) : Bool := c != '\x22' && c != ',' && c != '(' && c != ')'

/-- Characters none of which quotes or separates. -/
def Bare (cs : List Char) : Prop := ∀ c ∈ cs, isBare c = true

instance (cs : List Char) : Decidable (Bare cs) :=
  decidable_of_iff (cs.all isBare = true) List.all_eq_true

/-! ## Numbers -/

/-- A character that numbers are written with: a digit, a sign, a point or the letter before an
exponent. -/
def isNumeric (c : Char) : Bool :=
  c.isDigit || c == '+' || c == '-' || c == '.' || c == 'e' || c == 'E'

/-- Characters that numbers are written with. -/
def Numeric (cs : List Char) : Prop := ∀ c ∈ cs, isNumeric c = true

instance (cs : List Char) : Decidable (Numeric cs) :=
  decidable_of_iff (cs.all isNumeric = true) List.all_eq_true

namespace Numeric

theorem nil : Numeric [] := fun _ h => absurd h List.not_mem_nil

theorem cons {c : Char} {cs : List Char} (hc : isNumeric c = true) (h : Numeric cs) :
    Numeric (c :: cs) := List.forall_mem_cons.mpr ⟨hc, h⟩

theorem append {cs ds : List Char} (h : Numeric cs) (h' : Numeric ds) : Numeric (cs ++ ds) :=
  List.forall_mem_append.mpr ⟨h, h'⟩

theorem sublist {cs ds : List Char} (h : Numeric ds) (hs : cs.Sublist ds) : Numeric cs :=
  fun c hc => h c (hs.subset hc)

theorem replicate (n : Nat) {c : Char} (hc : isNumeric c = true) :
    Numeric (List.replicate n c) :=
  fun d hd => by rw [List.eq_of_mem_replicate hd]; exact hc

/-- No character of a number quotes or separates. -/
theorem bare {cs : List Char} (h : Numeric cs) : Bare cs := by
  intro c hc
  have hne : ∀ d : Char, isNumeric d = false → c ≠ d := by
    rintro d hd rfl
    rw [h c hc] at hd
    exact Bool.noConfusion hd
  rw [isBare]
  simp [hne '\x22' rfl, hne ',' rfl, hne '(' rfl, hne ')' rfl]

end Numeric

theorem numeric_toDigits (n : Nat) : Numeric (Nat.toDigits 10 n) := by
  intro c h
  rw [isNumeric, Nat.isDigit_of_mem_toDigits (by decide) (by decide) h]
  rfl

theorem numeric_repr (n : Nat) : Numeric n.repr.toList := by
  rw [Nat.toList_repr]
  exact numeric_toDigits n

theorem numeric_integerText : ∀ n : Int, Numeric (Text.integerText n).toList := by
  intro n
  cases n with
  | ofNat n => exact numeric_repr n
  | negSucc n =>
      rw [Text.integerText, String.toList_append]
      exact Numeric.append (Numeric.cons rfl Numeric.nil) (numeric_repr (n + 1))

namespace Double

theorem numeric_exponentText (e : Int) : Numeric (exponentText e) := by
  have hd : Numeric (Nat.toDigits 10 e.natAbs) := numeric_toDigits e.natAbs
  refine Numeric.cons rfl (Numeric.cons ?_ ?_)
  · by_cases h : e < 0
    · rw [if_pos h]; rfl
    · rw [if_neg h]; rfl
  · split
    · exact Numeric.cons rfl hd
    · exact hd

theorem numeric_digitsText {ds : List Char} (h : Numeric ds) (place : Int) :
    Numeric (digitsText ds place) := by
  have hexp : Numeric (exponentText (place - 1)) := numeric_exponentText (place - 1)
  unfold digitsText
  split
  · split
    · exact Numeric.cons rfl (Numeric.cons rfl (Numeric.append (Numeric.replicate _ rfl) h))
    · split
      · exact Numeric.append (Numeric.append h (Numeric.replicate _ rfl)) (by decide)
      · exact Numeric.append (h.sublist (List.take_sublist _ _))
          (Numeric.cons rfl (h.sublist (List.drop_sublist _ _)))
  · split
    · exact Numeric.nil
    · exact Numeric.cons (h _ (List.mem_singleton_self _)) hexp
    · next d ds _ =>
        obtain ⟨hd, hds⟩ := List.forall_mem_cons.mp h
        exact Numeric.cons hd (Numeric.cons rfl (Numeric.append hds hexp))

theorem numeric_text_of_isFinite {x : Double} (h : x.isFinite = true) : Numeric x.text.toList := by
  cases x with
  | finite negative m e =>
      rw [text, String.toList_append]
      refine Numeric.append ?_ ?_
      · cases negative with
        | false => exact Numeric.nil
        | true => exact Numeric.cons rfl Numeric.nil
      · by_cases hm : m = 0
        · rw [if_pos hm]
          decide
        · rw [if_neg hm, positiveText, String.toList_ofList]
          refine numeric_digitsText ?_ _
          refine (numeric_toDigits (RoundingInterval.ofDouble m e).shortest.1).sublist ?_
          rw [dropTrailingZeros, ← List.reverse_sublist, List.reverse_reverse]
          exact List.dropWhile_sublist _
  | infinite negative => exact Bool.noConfusion h
  | nan => exact Bool.noConfusion h

end Double

namespace Decimal

theorem numeric_pointed {ds : List Char} (h : Numeric ds) (place : Int) :
    Numeric (pointed ds place) := by
  rw [pointed]
  split
  · exact Numeric.cons rfl (Numeric.cons rfl (Numeric.append (Numeric.replicate _ rfl) h))
  · split
    · exact Numeric.append h (Numeric.replicate _ rfl)
    · exact Numeric.append (h.sublist (List.take_sublist _ _))
        (Numeric.cons rfl (h.sublist (List.drop_sublist _ _)))

theorem numeric_exponentText (e : Int) : Numeric (exponentText e).toList := by
  rw [exponentText]
  split
  · rw [String.toList_append]
    exact Numeric.append (by decide) (numeric_repr e.natAbs)
  · rw [String.toList_append]
    exact Numeric.append (by decide) (numeric_repr e.natAbs)

theorem numeric_finiteText (c : Nat) (e : Int) : Numeric (finiteText c e).toList := by
  have hd : Numeric (Nat.toDigits 10 c) := numeric_toDigits c
  simp only [finiteText]
  split
  · rw [String.toList_ofList]
    exact numeric_pointed hd _
  · rw [String.toList_append, String.toList_ofList]
    refine Numeric.append (numeric_pointed hd 1) ?_
    split
    · exact Numeric.nil
    · exact numeric_exponentText _

end Decimal

namespace Decimal

theorem numeric_text_of_isFinite {d : Decimal} (h : d.isFinite = true) : Numeric d.text.toList := by
  cases d with
  | finite negative c e =>
      rw [text, String.toList_append]
      refine Numeric.append ?_ (numeric_finiteText c e)
      cases negative with
      | false => exact Numeric.nil
      | true => exact Numeric.cons rfl Numeric.nil
  | infinite negative => exact Bool.noConfusion h
  | nan negative signaling payload => exact Bool.noConfusion h

end Decimal

/-! ## Kinds and forms of literals -/

namespace Value

/-- Is the value an SQL fragment, which is written as it is? -/
def isFragment : Value → Bool
  | raw _     => true
  | keyword _ => true
  | _         => false

/-- Is the value null, a truth value, a whole number or a text? -/
def isScalar : Value → Bool
  | null   => true
  | bool _ => true
  | int _  => true
  | text _ => true
  | _      => false

end Value

/-- What a literal that is no fragment is written as: one of three words, the characters of a
number, or a JSON string. -/
inductive LiteralKind : String → Prop where
  | word {t : String} (h : t ∈ ["NULL", "true", "false"]) : LiteralKind t
  | number {t : String} (h : Numeric t.toList) : LiteralKind t
  | quoted (s : String) : LiteralKind (jsonString s)

namespace LiteralKind

/-- The literal of a value that is no fragment is of one of the three kinds. -/
theorem of_text {trim : Bool} {v : Value} {t : String} (hv : v.isFragment = false)
    (h : Literal.text trim v = .ok t) : LiteralKind t := by
  unfold Literal.text at h
  split at h
  case h_1 => exact Bool.noConfusion hv
  case h_2 => exact Bool.noConfusion hv
  case h_3 =>
    rw [← Except.ok.inj h]
    exact word (by decide)
  case h_4 b =>
    rw [← Except.ok.inj h]
    cases b <;> exact word (by decide)
  case h_5 n =>
    rw [← Except.ok.inj h]
    exact number (numeric_integerText n)
  case h_6 x =>
    split at h
    · next hx =>
        rw [← Except.ok.inj h]
        exact number (Double.numeric_text_of_isFinite hx)
    · exact nomatch h
  case h_7 d =>
    split at h
    · next hd =>
        rw [← Except.ok.inj h]
        exact number (Decimal.numeric_text_of_isFinite hd)
    · exact nomatch h
  case h_8 s =>
    rw [← Except.ok.inj h]
    exact quoted _
  case h_9 d =>
    rw [← Except.ok.inj h]
    exact quoted _
  case h_10 d =>
    rw [← Except.ok.inj h]
    exact quoted _
  case h_11 => exact nomatch h

/-- Every literal is of one of the three kinds, unless it is that of a fragment and written as
that is. -/
theorem or_fragment {trim : Bool} {v : Value} {t : String} (h : Literal.text trim v = .ok t) :
    LiteralKind t ∨ v = .raw t ∨ v = .keyword t := by
  cases hf : v.isFragment with
  | false => exact .inl (of_text hf h)
  | true =>
      cases v with
      | raw e => exact .inr (.inl (congrArg Value.raw (Except.ok.inj h)))
      | keyword n => exact .inr (.inr (congrArg Value.keyword (Except.ok.inj h)))
      | _ => exact Bool.noConfusion hf

end LiteralKind

/-- One bare token or one JSON string. -/
inductive LiteralForm : String → Prop where
  | bare {t : String} (h : Bare t.toList) : LiteralForm t
  | quoted (s : String) : LiteralForm (jsonString s)

namespace LiteralForm

/-- Words and numbers are bare tokens. -/
theorem of_kind {t : String} (h : LiteralKind t) : LiteralForm t := by
  cases h with
  | word h =>
      have hwords : ∀ t ∈ ["NULL", "true", "false"], Bare t.toList := by decide
      exact bare (hwords t h)
  | number h => exact bare h.bare
  | quoted s => exact quoted s

/-- The literal of a value that is no fragment has one of the two forms. -/
theorem of_text {trim : Bool} {v : Value} {t : String} (hv : v.isFragment = false)
    (h : Literal.text trim v = .ok t) : LiteralForm t := of_kind (.of_text hv h)

/-- Every literal has one of the two forms, unless it is that of a fragment and written as that
is. -/
theorem or_fragment {trim : Bool} {v : Value} {t : String} (h : Literal.text trim v = .ok t) :
    LiteralForm t ∨ v = .raw t ∨ v = .keyword t := (LiteralKind.or_fragment h).imp_left of_kind

theorem not_mem_of_bare {cs : List Char} (h : Bare cs) {c : Char} (hc : isBare c = false) :
    c ∉ cs := by
  intro hm
  rw [h c hm] at hc
  exact Bool.noConfusion hc

/-- A literal ends outside all literals. -/
theorem after {t : String} (h : LiteralForm t) : outside.after t.toList = outside := by
  cases h with
  | bare h => exact Text.Quoting.after_of_not_mem _ (not_mem_of_bare h rfl)
  | quoted s => exact Text.Quoting.after_jsonString s

/-- A literal shows no comma and no parenthesis outside its quotes. -/
theorem not_mem_erase {t : String} (h : LiteralForm t) {c : Char} (hc : isBare c = false)
    (hq : c ≠ '\x22') : c ∉ outside.erase t.toList := by
  cases h with
  | bare h =>
      rw [Text.Quoting.erase_of_not_mem _ (not_mem_of_bare h rfl)]
      exact not_mem_of_bare h hc
  | quoted s =>
      rw [Text.Quoting.erase_jsonString]
      simpa using hq

end LiteralForm

/-! ## Scalars -/

theorem repr_inj {n m : Nat} (h : n.repr = m.repr) : n = m := by
  have hl := congrArg (fun s => Nat.ofDigitChars 10 s.toList 0) h
  simpa [Nat.toList_repr, Nat.ofDigitChars_ten_toDigits] using hl

/-- The text of a whole number begins with a digit, or with the sign of a negative one. -/
theorem integerText_inj : ∀ {n m : Int}, Text.integerText n = Text.integerText m → n = m := by
  have hsign : ∀ n m : Nat, n.repr ≠ "-" ++ (m + 1).repr := by
    intro n m h
    have hmem : '-' ∈ n.repr.toList := by
      rw [h, String.toList_append]
      exact List.mem_cons_self
    rw [Nat.toList_repr] at hmem
    exact absurd (Nat.isDigit_of_mem_toDigits (by decide) (by decide) hmem) (by decide)
  intro n m h
  cases n with
  | ofNat n =>
      cases m with
      | ofNat m => rw [repr_inj h]
      | negSucc m => exact absurd h (hsign n m)
  | negSucc n =>
      cases m with
      | ofNat m => exact absurd h.symm (hsign m n)
      | negSucc m =>
          have hr : (n + 1).repr = (m + 1).repr := by
            have hl := congrArg String.toList h
            rw [Text.integerText, Text.integerText, String.toList_append,
              String.toList_append] at hl
            exact String.toList_inj.mp (List.append_cancel_left hl)
          rw [Nat.succ.inj (repr_inj hr)]

/-- What kind of scalar a first character begins: null, a truth value, a text or a number. -/
def headKind : List Char → Nat
  | 'N' :: _    => 0
  | 't' :: _    => 1
  | 'f' :: _    => 1
  | '\x22' :: _ => 2
  | _           => 3

/-- The kind of a scalar, as the first character of its literal tells it. -/
def scalarKind : Value → Nat
  | .null   => 0
  | .bool _ => 1
  | .text _ => 2
  | _       => 3

theorem headKind_of_isDigit {c : Char} (h : c.isDigit = true) (cs : List Char) :
    headKind (c :: cs) = 3 := by
  unfold headKind
  split
  case h_5 => rfl
  all_goals
    next heq =>
      rw [(List.cons.inj heq).1] at h
      exact absurd h (by decide)

theorem headKind_integerText (n : Int) : headKind (Text.integerText n).toList = 3 := by
  cases n with
  | ofNat n =>
      have hd : ∀ c ∈ Nat.toDigits 10 n, c.isDigit = true :=
        fun c hc => Nat.isDigit_of_mem_toDigits (by decide) (by decide) hc
      show headKind n.repr.toList = 3
      rw [Nat.toList_repr]
      cases hn : Nat.toDigits 10 n with
      | nil => rfl
      | cons c cs =>
          rw [hn] at hd
          exact headKind_of_isDigit (hd c List.mem_cons_self) cs
  | negSucc n =>
      rw [Text.integerText, String.toList_append]
      rfl

/-- A scalar is one of four. -/
theorem scalar_cases {v : Value} (h : v.isScalar = true) :
    v = .null ∨ (∃ b, v = .bool b) ∨ (∃ n, v = .int n) ∨ ∃ s, v = .text s := by
  cases v with
  | null => exact .inl rfl
  | bool b => exact .inr (.inl ⟨b, rfl⟩)
  | int n => exact .inr (.inr (.inl ⟨n, rfl⟩))
  | text s => exact .inr (.inr (.inr ⟨s, rfl⟩))
  | _ => exact Bool.noConfusion h

theorem headKind_text {v : Value} {t : String} (hv : v.isScalar = true)
    (h : Literal.text false v = .ok t) : headKind t.toList = scalarKind v := by
  rcases scalar_cases hv with rfl | ⟨b, rfl⟩ | ⟨n, rfl⟩ | ⟨s, rfl⟩
  · rw [← Except.ok.inj h]; decide
  · rw [← Except.ok.inj h]
    cases b <;> decide
  · rw [← Except.ok.inj h]
    exact headKind_integerText n
  · rw [← Except.ok.inj h]
    show headKind (jsonString s).toList = 2
    rw [jsonString, String.toList_ofList]
    rfl

/-- The literal of a scalar determines it. -/
theorem text_scalar_inj {v w : Value} {t : String} (hv : v.isScalar = true)
    (hw : w.isScalar = true) (h : Literal.text false v = .ok t)
    (h' : Literal.text false w = .ok t) : v = w := by
  have hk : scalarKind v = scalarKind w := by
    rw [← headKind_text hv h, ← headKind_text hw h']
  have ht : Literal.text false v = Literal.text false w := by rw [h, h']
  rcases scalar_cases hv with rfl | ⟨b, rfl⟩ | ⟨n, rfl⟩ | ⟨s, rfl⟩
  · rcases scalar_cases hw with rfl | ⟨b', rfl⟩ | ⟨n', rfl⟩ | ⟨s', rfl⟩
    · rfl
    all_goals exact nomatch hk
  · rcases scalar_cases hw with rfl | ⟨b', rfl⟩ | ⟨n', rfl⟩ | ⟨s', rfl⟩
    · exact nomatch hk
    · have hb : (if b then "true" else "false") = if b' then "true" else "false" :=
        Except.ok.inj ht
      cases b <;> cases b' <;> first | rfl | exact absurd hb (by decide)
    all_goals exact nomatch hk
  · rcases scalar_cases hw with rfl | ⟨b', rfl⟩ | ⟨n', rfl⟩ | ⟨s', rfl⟩
    · exact nomatch hk
    · exact nomatch hk
    · rw [integerText_inj (Except.ok.inj ht)]
    · exact nomatch hk
  · rcases scalar_cases hw with rfl | ⟨b', rfl⟩ | ⟨n', rfl⟩ | ⟨s', rfl⟩
    · exact nomatch hk
    · exact nomatch hk
    · exact nomatch hk
    · have hs : jsonString s = jsonString s' := Except.ok.inj ht
      rw [jsonString_inj hs]

end SqlText
