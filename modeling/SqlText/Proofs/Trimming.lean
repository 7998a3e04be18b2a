import SqlText.Text.Blank

/-!
# Trimming — what is left of a text without the blanks around it

    Trimmed " a b\n" u   ↔   u = "a b"

A text is trimmed to what stands between its leading and its trailing blanks: what is left is
empty, or begins and ends with a character that is not blank. There is one such text only, and
it is the one that stripping gives.

* **`trimmed_strip`**, **`Trimmed.strip_eq`**: stripping trims a text, and nothing else does.
* **`exists_blank_of_strip_ne`**: a text that is not what it is trimmed to has a blank.
-/

namespace SqlText.Text

/-- Characters that are all blank. -/
def Blanks (cs : List Char) : Prop := ∀ c ∈ cs, isBlank c = true

/-- Characters of which the first one, if there is one, is not blank. -/
def BeginsFull (cs : List Char) : Prop := ∀ c ∈ cs.head?, isBlank c = false

/-- What is left of a text without the blanks around it. -/
structure Trimmed (s u : String) : Prop where
  between : ∃ leading trailing, s.toList = leading ++ u.toList ++ trailing ∧
    Blanks leading ∧ Blanks trailing
  head : BeginsFull u.toList
  last : BeginsFull u.toList.reverse

/-! ## One end -/

theorem Blanks.reverse {cs : List Char} (h : Blanks cs) : Blanks cs.reverse :=
  fun c hc => h c (List.mem_reverse.mp hc)

theorem blanks_takeWhile (cs : List Char) : Blanks (cs.takeWhile isBlank) :=
  List.all_eq_true.mp List.all_takeWhile

theorem beginsFull_dropWhile (cs : List Char) : BeginsFull (cs.dropWhile isBlank) := by
  intro c hc
  have h := List.head?_dropWhile_not isBlank cs
  rw [Option.mem_def.mp hc] at h
  exact h

/-- Blanks before a character that is not blank are dropped, and nothing more. -/
theorem dropWhile_blanks_append {bs cs : List Char} (hb : Blanks bs) (hc : BeginsFull cs) :
    (bs ++ cs).dropWhile isBlank = cs := by
  rw [List.dropWhile_append_of_pos hb]
  cases cs with
  | nil => rfl
  | cons c cs => exact List.dropWhile_cons_of_neg (by rw [hc c rfl]; decide)

/-! ## Both ends -/

theorem trimEnd_append (cs : List Char) :
    cs = trimEnd cs ++ (cs.reverse.takeWhile isBlank).reverse := by
  rw [trimEnd, ← List.reverse_append, List.takeWhile_append_dropWhile, List.reverse_reverse]

/-- What is before the trailing blanks begins as the whole does. -/
theorem BeginsFull.trimEnd {cs : List Char} (h : BeginsFull cs) : BeginsFull (trimEnd cs) := by
  intro c hc
  refine h c ?_
  rw [trimEnd_append cs, List.head?_append, Option.mem_def.mp hc]
  rfl

theorem trimmed_strip (s : String) : Trimmed s (strip s) := by
  have hend := trimEnd_append (trimStart s.toList)
  refine ⟨⟨s.toList.takeWhile isBlank, _, ?_, blanks_takeWhile _,
    (blanks_takeWhile (trimStart s.toList).reverse).reverse⟩, ?_, ?_⟩
  · rw [strip, String.toList_ofList, List.append_assoc, ← hend]
    exact List.takeWhile_append_dropWhile.symm
  · rw [strip, String.toList_ofList]
    exact (beginsFull_dropWhile s.toList).trimEnd
  · rw [strip, String.toList_ofList, trimEnd, List.reverse_reverse]
    exact beginsFull_dropWhile _

/-- Nothing but stripping trims a text. -/
theorem Trimmed.strip_eq {s u : String} (h : Trimmed s u) : strip s = u := by
  obtain ⟨leading, trailing, hs, hleading, htrailing⟩ := h.between
  have hkept : trimEnd (trimStart s.toList) = u.toList := by
    rw [hs, List.append_assoc, trimStart, List.dropWhile_append_of_pos hleading]
    cases hu : u.toList with
    | nil =>
        -- the text consists of blanks alone
        have hnone : BeginsFull [] := fun _ hc => nomatch hc
        have hall := dropWhile_blanks_append htrailing hnone
        rw [List.append_nil] at hall
        rw [List.nil_append, hall]
        rfl
    | cons c cs =>
        have hc : isBlank c = false := h.head c (by rw [hu]; rfl)
        rw [List.cons_append, List.dropWhile_cons_of_neg (by rw [hc]; decide), ← List.cons_append,
          ← hu, trimEnd, List.reverse_append, dropWhile_blanks_append htrailing.reverse h.last,
          List.reverse_reverse]
  rw [strip, hkept, String.ofList_toList]

/-- What is left of a text has nothing more to be trimmed. -/
theorem strip_strip (s : String) : strip (strip s) = strip s :=
  Trimmed.strip_eq ⟨⟨[], [], by simp, fun _ h => (nomatch h), fun _ h => nomatch h⟩,
    (trimmed_strip s).head, (trimmed_strip s).last⟩

/-- A text that is not what it is trimmed to has a blank. -/
theorem exists_blank_of_strip_ne {s : String} (h : strip s ≠ s) :
    ∃ c ∈ s.toList, isBlank c = true := by
  obtain ⟨leading, trailing, hs, hleading, htrailing⟩ := (trimmed_strip s).between
  cases leading with
  | cons c cs => exact ⟨c, by rw [hs]; exact List.mem_cons_self, hleading c List.mem_cons_self⟩
  | nil =>
      cases trailing with
      | cons c cs => exact ⟨c, by simp [hs], htrailing c List.mem_cons_self⟩
      | nil =>
          rw [List.nil_append, List.append_nil] at hs
          exact absurd (String.toList_inj.mp hs).symm h

end SqlText.Text
