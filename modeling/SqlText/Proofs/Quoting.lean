import SqlText.Proofs.JsonStrings

/-!
# Quoting — which characters of a statement stand within literals

    eraseLiterals "a = \"x\\\"y\", b"  =  "a = \"\", b"

A literal opens at a double quote. Inside it a backslash protects the next character, and
the next double quote that is not protected closes it. A scan needs three states to tell
where it stands. What it leaves when it drops the contents of the literals is the part of a
statement that the data cannot be seen in.

* **`Quoting.after_append`**, **`Quoting.erase_append`**: scans go on where they stopped.
* **`Quoting.after_jsonString`**, **`Quoting.erase_jsonString`**: a JSON string is one
  literal, whatever text it holds.
-/

namespace SqlText.Text

/-- Where a scan stands with respect to the literals of a statement. -/
inductive Quoting where
  | outside
  | inside
  /-- Inside, after a backslash. -/
  | escaped
deriving DecidableEq

namespace Quoting

/-- The state after one more character. -/
def next : Quoting → Char → Quoting
  | outside, c => if c = '\x22' then inside else outside
  | inside,  c => if c = '\x22' then outside else if c = '\\' then escaped else inside
  | escaped, _ => inside

/-- The state after more characters. -/
def after (q : Quoting) (cs : List Char) : Quoting := cs.foldl next q

/-- Does a character show where the contents of literals are dropped? The quotes of a
literal do. -/
def shows : Quoting → Char → Bool
  | outside, _ => true
  | inside,  c => c == '\x22'
  | escaped, _ => false

/-- The characters without the contents of literals. -/
def erase (q : Quoting) : List Char → List Char
  | []      => []
  | c :: cs => if q.shows c then c :: erase (q.next c) cs else erase (q.next c) cs

@[simp] theorem after_nil (q : Quoting) : q.after [] = q := rfl

@[simp] theorem after_cons (q : Quoting) (c : Char) (cs : List Char) :
    q.after (c :: cs) = (q.next c).after cs := rfl

@[simp] theorem erase_nil (q : Quoting) : q.erase [] = [] := rfl

theorem erase_cons (q : Quoting) (c : Char) (cs : List Char) :
    q.erase (c :: cs)
      = if q.shows c then c :: (q.next c).erase cs else (q.next c).erase cs := rfl

theorem after_append (q : Quoting) (cs ds : List Char) :
    q.after (cs ++ ds) = (q.after cs).after ds := List.foldl_append

theorem erase_append : ∀ (cs ds : List Char) (q : Quoting),
    q.erase (cs ++ ds) = q.erase cs ++ (q.after cs).erase ds := by
  intro cs
  induction cs with
  | nil => intro ds q; rfl
  | cons c cs ih =>
      intro ds q
      rw [List.cons_append, erase_cons, erase_cons, ih ds (q.next c), after_cons]
      by_cases h : q.shows c
      · rw [if_pos h, if_pos h, List.cons_append]
      · rw [if_neg h, if_neg h]

/-! ## Characters without quotes -/

/-- Outside all literals nothing but a quote opens one. -/
theorem after_of_not_mem : ∀ cs : List Char, '\x22' ∉ cs → outside.after cs = outside := by
  intro cs
  induction cs with
  | nil => intro _; rfl
  | cons c cs ih =>
      intro h
      obtain ⟨hc, hcs⟩ := List.ne_and_not_mem_of_not_mem_cons h
      have hn : outside.next c = outside := if_neg (Ne.symm hc)
      rw [after_cons, hn]
      exact ih hcs

/-- Characters outside all literals show, and so does everything before the first quote. -/
theorem erase_of_not_mem : ∀ cs : List Char, '\x22' ∉ cs → outside.erase cs = cs := by
  intro cs
  induction cs with
  | nil => intro _; rfl
  | cons c cs ih =>
      intro h
      obtain ⟨hc, hcs⟩ := List.ne_and_not_mem_of_not_mem_cons h
      have hn : outside.next c = outside := if_neg (Ne.symm hc)
      rw [erase_cons, hn, ih hcs]
      rfl

/-- What begins outside all literals does not vanish with their contents. -/
theorem erase_eq_nil_iff {cs : List Char} : outside.erase cs = [] ↔ cs = [] := by
  cases cs with
  | nil => exact iff_of_true rfl rfl
  | cons c cs =>
      have hshows : outside.shows c = true := rfl
      rw [erase_cons, if_pos hshows]
      exact iff_of_false (List.cons_ne_nil _ _) (List.cons_ne_nil _ _)

/-! ## JSON strings -/

/-- Plain characters inside a literal leave the scan inside and do not show. -/
theorem inside_of_plain : ∀ cs : List Char, (∀ c ∈ cs, IsPlain c) →
    inside.after cs = inside ∧ inside.erase cs = [] := by
  intro cs
  induction cs with
  | nil => intro _; exact ⟨rfl, rfl⟩
  | cons c cs ih =>
      intro h
      obtain ⟨⟨hq, hb⟩, hcs⟩ := List.forall_mem_cons.mp h
      have hn : inside.next c = inside := by
        show (if c = '\x22' then outside else if c = '\\' then escaped else inside) = inside
        rw [if_neg hq, if_neg hb]
      have hs : inside.shows c = false := beq_eq_false_iff_ne.mpr hq
      obtain ⟨ha, he⟩ := ih hcs
      rw [after_cons, erase_cons, hn, hs]
      exact ⟨ha, he⟩

/-- A digit of a code point is plain. -/
theorem isPlain_hexDigit : ∀ n : Fin 16, IsPlain (hexDigit n) := by
  unfold IsPlain
  decide

theorem isPlain_hexPadded : ∀ (width n : Nat), ∀ c ∈ hexPadded width n, IsPlain c := by
  intro width
  induction width with
  | zero => intro n c h; exact absurd h List.not_mem_nil
  | succ width ih =>
      intro n c h
      rcases List.mem_append.mp h with h | h
      · exact ih (n / 16) c h
      · rw [List.mem_singleton.mp h]
        exact isPlain_hexDigit ⟨n % 16, Nat.mod_lt n (by decide)⟩

/-- The code of one character leaves the scan inside and does not show. -/
theorem inside_jsonChar (c : Char) :
    inside.after (jsonChar c) = inside ∧ inside.erase (jsonChar c) = [] := by
  have h := jsonCode_jsonChar c
  generalize jsonChar c = code at h
  cases h with
  | letter d h => exact ⟨rfl, rfl⟩
  | codePoint h => exact inside_of_plain (hexPadded 4 c.toNat) (isPlain_hexPadded 4 c.toNat)
  | itself h hc => exact inside_of_plain [c] (by simpa using h)

theorem inside_jsonBody : ∀ cs : List Char,
    inside.after (jsonBody cs) = inside ∧ inside.erase (jsonBody cs) = [] := by
  intro cs
  induction cs with
  | nil => exact ⟨rfl, rfl⟩
  | cons c cs ih =>
      obtain ⟨ha, he⟩ := inside_jsonChar c
      rw [jsonBody_cons, after_append, erase_append, ha, he, ih.1, ih.2]
      exact ⟨rfl, rfl⟩

/-- A JSON string ends outside all literals. -/
theorem after_jsonString (s : String) : outside.after (jsonString s).toList = outside := by
  rw [jsonString, String.toList_ofList]
  show inside.after (jsonBody s.toList ++ ['\x22']) = outside
  rw [after_append, (inside_jsonBody s.toList).1]
  rfl

/-- Of a JSON string only its two quotes show. -/
theorem erase_jsonString (s : String) :
    outside.erase (jsonString s).toList = ['\x22', '\x22'] := by
  rw [jsonString, String.toList_ofList]
  show '\x22' :: inside.erase (jsonBody s.toList ++ ['\x22']) = ['\x22', '\x22']
  rw [erase_append, (inside_jsonBody s.toList).1, (inside_jsonBody s.toList).2]
  rfl

end Quoting

end SqlText.Text
