import Mathlib.Algebra.BigOperators.Group.List.Basic
import Mathlib.Algebra.GroupWithZero.Nat
import SqlText.Proofs.SelectAssembly
import SqlText.Proofs.Skeletons

/-!
# Item lists — items with a comma and a blank between them

    splitItems "a = \"x, y\", b = NULL"  =  ["a = \"x, y\"", "b = NULL"]

Items stand in a row with a comma and a blank between them. Outside all literals these two
cut the row, so an item that shows no comma there and leaves no literal open comes back as
it was written, whatever stands between its quotes. Items that have no comma at all leave a row with
a comma at its beginning, or with no more than a blank between two of its commas, exactly where
one of them is empty and another one follows. Items that were put together in groups, and the
groups then in the same way, give the row of all items: a group without an item is an empty text,
and what is not empty is put together.

* **`IsItem`**: a text that a scan for items cannot cut.
* **`split_intercalate`**: a row of items is read back where each is split off.
* **`splitItems_intercalate`**: items that cannot be cut are read back.
* **`splitRow_intercalate`**: items without a comma, where literals are not looked for.
* **`head?_row_iff`**, **`gap_infix_row_iff`**: what an empty item does to the commas of a row.
* **`intercalate_flatten`**, **`intercalate_groups`**: groups of items, put together in two steps
  and in one.
-/

namespace SqlText

open Text (Quoting)
open Text.Quoting (outside)
open Select (intercalate_ne_empty)

/-! ## Texts that cannot be cut -/

/-- A text without commas and quotes. -/
def Unmarked (t : String) : Prop := ',' ∉ t.toList ∧ '\x22' ∉ t.toList

instance (t : String) : Decidable (Unmarked t) := inferInstanceAs (Decidable (_ ∧ _))

/-- A text that a scan for items cannot cut: it leaves no literal open, and outside its
literals it shows no comma. -/
structure IsItem (t : String) : Prop where
  closed : Closed t
  uncut : ',' ∉ outside.erase t.toList

namespace IsItem

theorem of_unmarked {t : String} (h : Unmarked t) : IsItem t := by
  refine ⟨closed_of_not_mem h.2, ?_⟩
  rw [Quoting.erase_of_not_mem _ h.2]
  exact h.1

/-- A literal of one of the two forms cannot be cut. -/
theorem of_form {t : String} (h : LiteralForm t) : IsItem t :=
  ⟨h.after, h.not_mem_erase (by decide) (by decide)⟩

theorem append {t u : String} (h : IsItem t) (h' : IsItem u) : IsItem (t ++ u) := by
  refine ⟨h.closed.append h'.closed, fun hc => ?_⟩
  rw [String.toList_append, Quoting.erase_append, h.closed] at hc
  exact (List.mem_append.mp hc).elim h.uncut h'.uncut

/-- Pieces that cannot be cut, put together with one that cannot be cut either. -/
theorem intercalate {sep : String} (hsep : IsItem sep) :
    ∀ {ts : List String}, (∀ t ∈ ts, IsItem t) → IsItem (sep.intercalate ts) := by
  intro ts
  induction ts with
  | nil => intro _; rw [String.intercalate_nil]; exact of_unmarked (by decide)
  | cons t ts ih =>
      intro h
      obtain ⟨ht, hts⟩ := List.forall_mem_cons.mp h
      cases ts with
      | nil => rw [String.intercalate_singleton]; exact ht
      | cons u us =>
          rw [String.intercalate_cons_cons]
          exact (ht.append hsep).append (ih hts)

end IsItem

/-! ## Splitting -/

/-- Where an item is split off from whatever follows it, a row of items is read back. -/
theorem split_intercalate {split : String → List String} {sep : String} {P : String → Prop}
    (hitem : ∀ t, P t → split t = [t] ∧ ∀ rest, split (t ++ sep ++ rest) = t :: split rest) :
    ∀ {ts : List String}, ts ≠ [] → (∀ t ∈ ts, P t) → split (sep.intercalate ts) = ts := by
  intro ts
  induction ts with
  | nil => exact fun hne _ => absurd rfl hne
  | cons t ts ih =>
      intro _ h
      obtain ⟨ht, hts⟩ := List.forall_mem_cons.mp h
      cases ts with
      | nil => rw [String.intercalate_singleton, (hitem t ht).1]
      | cons u us =>
          rw [String.intercalate_cons_cons, (hitem t ht).2, ih (List.cons_ne_nil u us) hts]

/-- Cuts characters at each comma with a blank after it that stands outside all literals. The
characters of the open item come first. -/
def cutItems : Quoting → List Char → List Char → List (List Char)
  | .outside, item, ',' :: ' ' :: cs => item :: cutItems .outside [] cs
  | q,        item, c :: cs          => cutItems (q.next c) (item ++ [c]) cs
  | _,        item, []               => [item]

/-- The items of a text. -/
def splitItems (s : String) : List String := (cutItems .outside [] s.toList).map String.ofList

/-- Until a comma shows the open item takes every character. -/
theorem cutItems_append (rest : List Char) :
    ∀ (cs item : List Char) (q : Quoting), ',' ∉ q.erase cs →
      cutItems q item (cs ++ rest) = cutItems (q.after cs) (item ++ cs) rest := by
  intro cs
  induction cs with
  | nil => intro item q _; rw [List.append_nil]; rfl
  | cons c cs ih =>
      intro item q h
      rw [Quoting.erase_cons] at h
      have hc : q.shows c = true → c ≠ ',' := by
        rintro hs rfl
        rw [if_pos hs] at h
        exact h List.mem_cons_self
      have hcs : ',' ∉ (q.next c).erase cs := by
        split at h
        · exact (List.ne_and_not_mem_of_not_mem_cons h).2
        · exact h
      have hstep : cutItems q item (c :: (cs ++ rest))
          = cutItems (q.next c) (item ++ [c]) (cs ++ rest) := by
        rw [cutItems]
        rintro _ rfl rfl _
        exact hc rfl rfl
      rw [List.cons_append, hstep, ih _ _ hcs, List.append_assoc]
      rfl

/-- An item that cannot be cut is the only one of its own text, and the first one of a longer
row. -/
theorem splitItems_item {t : String} (h : IsItem t) :
    splitItems t = [t] ∧ ∀ rest, splitItems (t ++ ", " ++ rest) = t :: splitItems rest := by
  have hcut := fun rest => cutItems_append rest t.toList [] outside h.uncut
  rw [h.closed, List.nil_append] at hcut
  constructor
  · have hend := hcut []
    rw [List.append_nil] at hend
    rw [splitItems, hend]
    show [String.ofList t.toList] = [t]
    rw [String.ofList_toList]
  · intro rest
    rw [splitItems, String.toList_append, String.toList_append, List.append_assoc, hcut]
    show String.ofList t.toList :: splitItems rest = t :: splitItems rest
    rw [String.ofList_toList]

/-- Items that cannot be cut are read back from the row of them. -/
theorem splitItems_intercalate {ts : List String} (hne : ts ≠ []) (h : ∀ t ∈ ts, IsItem t) :
    splitItems (", ".intercalate ts) = ts :=
  split_intercalate (fun _ => splitItems_item) hne h

/-- The case of a comma and a blank between quotes, behind a quote that is protected. -/
example : splitItems "a = \"x\\\", y\", b = NULL" = ["a = \"x\\\", y\"", "b = NULL"] := by decide

/-! ## Splitting without regard to literals -/

/-- Cuts characters at each comma with a blank after it, wherever it stands. The characters of the
open item come first. -/
def cutRow : List Char → List Char → List (List Char)
  | item, ',' :: ' ' :: cs => item :: cutRow [] cs
  | item, c :: cs          => cutRow (item ++ [c]) cs
  | item, []               => [item]

/-- The items of a text whose literals are not looked for. -/
def splitRow (s : String) : List String := (cutRow [] s.toList).map String.ofList

/-- Until the first comma the open item takes every character. -/
theorem cutRow_append (rest : List Char) :
    ∀ cs item : List Char, ',' ∉ cs → cutRow item (cs ++ rest) = cutRow (item ++ cs) rest := by
  intro cs
  induction cs with
  | nil => intro item _; rw [List.append_nil]; rfl
  | cons c cs ih =>
      intro item h
      obtain ⟨hc, hcs⟩ := List.ne_and_not_mem_of_not_mem_cons h
      rw [List.cons_append, cutRow, ih _ hcs, List.append_assoc]
      · rfl
      · rintro _ rfl _
        exact hc rfl

/-- A text without a comma is the only item of itself, and the first one of a longer row. -/
theorem splitRow_item {t : String} (h : ',' ∉ t.toList) :
    splitRow t = [t] ∧ ∀ rest, splitRow (t ++ ", " ++ rest) = t :: splitRow rest := by
  have hcut := fun rest => cutRow_append rest t.toList [] h
  constructor
  · have hend := hcut []
    rw [List.append_nil] at hend
    rw [splitRow, hend]
    show [String.ofList t.toList] = [t]
    rw [String.ofList_toList]
  · intro rest
    rw [splitRow, String.toList_append, String.toList_append, List.append_assoc, hcut]
    show String.ofList t.toList :: splitRow rest = t :: splitRow rest
    rw [String.ofList_toList]

/-- Items without a comma are read back from the row of them. -/
theorem splitRow_intercalate {ts : List String} (hne : ts ≠ []) (h : ∀ t ∈ ts, ',' ∉ t.toList) :
    splitRow (", ".intercalate ts) = ts :=
  split_intercalate (fun _ => splitRow_item) hne h

/-! ## Commas of a row -/

section Commas

variable {ts : List String}

theorem intercalate_eq_empty_iff {sep : String} (hsep : sep ≠ "") :
    sep.intercalate ts = "" ↔ ts = [] ∨ ts = [""] := by
  cases ts with
  | nil => exact ⟨fun _ => .inl rfl, fun _ => rfl⟩
  | cons t ts =>
      cases ts with
      | nil => simp
      | cons u us =>
          rw [String.intercalate_cons_cons, String.append_eq_empty_iff, String.append_eq_empty_iff]
          exact ⟨fun h => absurd h.1.2 hsep, fun h => (nomatch h)⟩

/-- A row is as long as its items, with a separator to each of them but the last. -/
theorem length_intercalate (sep : String) :
    ∀ {ts : List String}, ts ≠ [] →
      (sep.intercalate ts).length + sep.length = (ts.map fun t => t.length + sep.length).sum := by
  intro ts
  induction ts with
  | nil => exact fun hne => absurd rfl hne
  | cons t ts ih =>
      intro _
      cases ts with
      | nil => rw [String.intercalate_singleton, List.map_singleton, List.sum_singleton]
      | cons u us =>
          rw [String.intercalate_cons_cons, String.length_append, String.length_append,
            List.map_cons, List.sum_cons, ← ih (List.cons_ne_nil u us)]
          omega

/-- The characters of a row of two items or more. -/
theorem toList_row (t u : String) (us : List String) :
    (", ".intercalate (t :: u :: us)).toList =
      t.toList ++ ',' :: ' ' :: (", ".intercalate (u :: us)).toList := by
  rw [String.intercalate_cons_cons, String.toList_append, String.toList_append, List.append_assoc]
  rfl

/-- A row begins with a comma exactly where its first item is empty and another one follows. -/
theorem head?_row_iff (h : ∀ t ∈ ts, ',' ∉ t.toList) :
    (", ".intercalate ts).toList.head? = some ',' ↔ ∃ after, after ≠ [] ∧ ts = "" :: after := by
  cases ts with
  | nil => exact ⟨fun h => (nomatch h), fun ⟨_, _, h⟩ => (nomatch h)⟩
  | cons t ts =>
      have ht : ',' ∉ t.toList := h t List.mem_cons_self
      cases ts with
      | nil =>
          rw [String.intercalate_singleton]
          refine ⟨fun hhead => absurd (List.mem_of_head? hhead) ht, ?_⟩
          rintro ⟨after, hne, heq⟩
          exact absurd (List.cons.inj heq).2.symm hne
      | cons u us =>
          rw [toList_row]
          by_cases hempty : t = ""
          · rw [hempty]
            exact ⟨fun _ => ⟨u :: us, List.cons_ne_nil u us, rfl⟩, fun _ => rfl⟩
          · obtain ⟨c, cs, hc⟩ := List.exists_cons_of_ne_nil (mt String.toList_eq_nil_iff.mp hempty)
            rw [hc]
            refine ⟨fun hhead => absurd ?_ ht, ?_⟩
            · rw [hc, ← Option.some.inj hhead]
              exact List.mem_cons_self
            · rintro ⟨after, -, heq⟩
              exact absurd (List.cons.inj heq).1 hempty

/-- No row ends with a comma, for a blank follows each of its own. -/
theorem getLast?_row_ne :
    ∀ {ts : List String}, (∀ t ∈ ts, ',' ∉ t.toList) →
      (", ".intercalate ts).toList.getLast? ≠ some ',' := by
  intro ts
  induction ts with
  | nil => exact fun _ h => nomatch h
  | cons t ts ih =>
      intro h hlast
      obtain ⟨ht, hts⟩ := List.forall_mem_cons.mp h
      cases ts with
      | nil =>
          rw [String.intercalate_singleton] at hlast
          exact ht (List.mem_of_getLast? hlast)
      | cons u us =>
          rw [toList_row, List.getLast?_append_cons, List.getLast?_cons_cons,
            List.getLast?_cons] at hlast
          cases hrest : (", ".intercalate (u :: us)).toList.getLast? with
          | none => rw [hrest] at hlast; exact absurd hlast (by decide)
          | some c => rw [hrest] at hlast; exact ih hts (hrest.trans hlast)

/-- A piece of a text that begins with a character begins where that character can stand. -/
theorem infix_of_append_of_not_mem {α : Type} {a : α} {w : List α} :
    ∀ {l m : List α}, a ∉ l → a :: w <:+: l ++ m → a :: w <:+: m := by
  intro l
  induction l with
  | nil => exact fun _ h => h
  | cons b l ih =>
      intro m hl h
      obtain ⟨hb, hl⟩ := List.ne_and_not_mem_of_not_mem_cons hl
      rcases List.infix_cons_iff.mp h with hstart | hpiece
      · exact absurd (List.cons_prefix_cons.mp hstart).1 hb
      · exact ih hl hpiece

/-- No two commas of a row stand next to each other. -/
theorem not_commas_infix_row :
    ∀ {ts : List String}, (∀ t ∈ ts, ',' ∉ t.toList) →
      ¬ [',', ','] <:+: (", ".intercalate ts).toList := by
  intro ts
  induction ts with
  | nil => exact fun _ h => nomatch List.eq_nil_of_infix_nil h
  | cons t ts ih =>
      intro h hpiece
      obtain ⟨ht, hts⟩ := List.forall_mem_cons.mp h
      cases ts with
      | nil =>
          rw [String.intercalate_singleton] at hpiece
          exact ht (hpiece.subset List.mem_cons_self)
      | cons u us =>
          rw [toList_row] at hpiece
          rcases List.infix_cons_iff.mp (infix_of_append_of_not_mem ht hpiece) with h | hpiece
          · exact absurd (List.cons_prefix_cons.mp (List.cons_prefix_cons.mp h).2).1 (by decide)
          rcases List.infix_cons_iff.mp hpiece with h | hpiece
          · exact absurd (List.cons_prefix_cons.mp h).1 (by decide)
          · exact ih hts hpiece

/-- Two commas of a row have no more than a blank between them exactly where an item between two
others is empty. -/
theorem gap_infix_row_iff :
    ∀ {ts : List String}, (∀ t ∈ ts, ',' ∉ t.toList) →
      ([',', ' ', ','] <:+: (", ".intercalate ts).toList ↔
        ∃ before after, before ≠ [] ∧ after ≠ [] ∧ ts = before ++ "" :: after) := by
  intro ts h
  constructor
  · induction ts with
    | nil => exact fun h => nomatch List.eq_nil_of_infix_nil h
    | cons t ts ih =>
        intro hpiece
        obtain ⟨ht, hts⟩ := List.forall_mem_cons.mp h
        cases ts with
        | nil =>
            rw [String.intercalate_singleton] at hpiece
            exact absurd (hpiece.subset List.mem_cons_self) ht
        | cons u us =>
            rw [toList_row] at hpiece
            rcases List.infix_cons_iff.mp (infix_of_append_of_not_mem ht hpiece) with h | hpiece
            · -- the first comma is that after the first item, so the rest begins with the second
              obtain ⟨rest, hrest⟩ :=
                (List.cons_prefix_cons.mp (List.cons_prefix_cons.mp h).2).2
              have hhead : (", ".intercalate (u :: us)).toList.head? = some ',' := by
                rw [← hrest]
                rfl
              obtain ⟨after, hafter, heq⟩ := (head?_row_iff hts).mp hhead
              exact ⟨[t], after, List.cons_ne_nil t [], hafter, congrArg (t :: ·) heq⟩
            rcases List.infix_cons_iff.mp hpiece with h | hpiece
            · exact absurd (List.cons_prefix_cons.mp h).1 (by decide)
            · obtain ⟨before, after, -, hafter, heq⟩ := ih hts hpiece
              exact ⟨t :: before, after, List.cons_ne_nil t before, hafter, congrArg (t :: ·) heq⟩
  · rintro ⟨before, after, hbefore, hafter, rfl⟩
    rw [String.intercalate_append_of_ne_nil hbefore (List.cons_ne_nil "" after),
      String.intercalate_cons_of_ne_nil hafter]
    refine ⟨(", ".intercalate before).toList, ' ' :: (", ".intercalate after).toList, ?_⟩
    simp only [String.toList_append, String.empty_append, List.append_assoc]
    rfl

end Commas

/-! ## Groups -/

/-- Groups with an item each, put together from the texts of the groups. -/
theorem intercalate_flatten {sep : String} :
    ∀ {groups : List (List String)}, (∀ ts ∈ groups, ts ≠ []) →
      sep.intercalate (groups.map sep.intercalate) = sep.intercalate groups.flatten := by
  intro groups
  induction groups with
  | nil => intro _; rfl
  | cons ts groups ih =>
      intro h
      obtain ⟨hts, hgroups⟩ := List.forall_mem_cons.mp h
      cases groups with
      | nil => simp
      | cons us groups =>
          have hne : (us :: groups).flatten ≠ [] := by
            rw [List.flatten_cons]
            exact List.append_ne_nil_of_left_ne_nil (hgroups us List.mem_cons_self) _
          rw [List.map_cons, String.intercalate_cons_of_ne_nil (mt List.map_eq_nil_iff.mp
            (List.cons_ne_nil us groups)), ih hgroups, List.flatten_cons (l := ts),
            String.intercalate_append_of_ne_nil hts hne]

/-- The texts of groups that are not empty, each put together from its items. -/
def groupTexts (sep : String) (groups : List (List String)) : List String :=
  (groups.map sep.intercalate).filter (· ≠ "")

/-- The groups whose text is not empty. -/
def filledGroups (sep : String) (groups : List (List String)) : List (List String) :=
  groups.filter fun ts => sep.intercalate ts ≠ ""

theorem groupTexts_eq_map (sep : String) (groups : List (List String)) :
    groupTexts sep groups = (filledGroups sep groups).map sep.intercalate :=
  List.filter_map

theorem filledGroups_ne_nil {sep : String} {groups : List (List String)} :
    ∀ ts ∈ filledGroups sep groups, ts ≠ [] := by
  rintro ts hts rfl
  exact of_decide_eq_true (List.mem_filter.mp hts).2 String.intercalate_nil

/-- The texts of groups, put together, are the row of the items of those whose text is not empty. -/
theorem intercalate_groupTexts (sep : String) (groups : List (List String)) :
    sep.intercalate (groupTexts sep groups) =
      sep.intercalate (filledGroups sep groups).flatten := by
  rw [groupTexts_eq_map, intercalate_flatten filledGroups_ne_nil]

/-- There is a text of a group exactly where there is an item of such a group. -/
theorem groupTexts_eq_nil_iff {sep : String} {groups : List (List String)} :
    groupTexts sep groups = [] ↔ (filledGroups sep groups).flatten = [] := by
  rw [groupTexts_eq_map, List.map_eq_nil_iff, List.flatten_eq_nil_iff]
  constructor
  · intro h
    rw [h]
    exact List.forall_mem_nil _
  · intro h
    exact List.eq_nil_iff_forall_not_mem.mpr fun ts hts => filledGroups_ne_nil ts hts (h ts hts)

/-- Where no item is empty, no item is in a group whose text is. -/
theorem flatten_filledGroups {sep : String} {groups : List (List String)}
    (h : ∀ ts ∈ groups, ∀ t ∈ ts, t ≠ "") : (filledGroups sep groups).flatten = groups.flatten := by
  have hfilled : filledGroups sep groups = groups.filter fun ts => ts ≠ [] := by
    refine List.filter_congr fun ts hts => ?_
    rw [decide_eq_decide]
    cases ts with
    | nil => exact iff_of_false (not_not_intro String.intercalate_nil) (not_not_intro rfl)
    | cons t ts =>
        have ht : t ≠ "" := h _ hts t List.mem_cons_self
        exact iff_of_true (intercalate_ne_empty ht ts) (List.cons_ne_nil t ts)
  rw [hfilled, List.flatten_filter_ne_nil]

/-- Items that are put together in groups, and then the groups that are not empty, give the row
of all items. -/
theorem intercalate_groups {sep : String} {groups : List (List String)}
    (h : ∀ ts ∈ groups, ∀ t ∈ ts, t ≠ "") :
    sep.intercalate (groupTexts sep groups) = sep.intercalate groups.flatten := by
  rw [intercalate_groupTexts, flatten_filledGroups h]

end SqlText
