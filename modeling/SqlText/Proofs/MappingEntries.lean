import Mathlib.Data.List.Induction
import SqlText.Value.Order

/-!
# Mapping entries — what entries come to that are put into a mapping one by one

    collected [(.text "a", x), (.text "b", y), (.text "a", z)]  =  [(.text "a", z), (.text "b", y)]

An entry that is put into a mapping takes over the place of its key, or comes last where its
key is new. So the keys of what is collected stand in the order in which they first occurred,
no two of them are the same, and entries whose keys differ already are collected as they are.

* **`insertEntry_cases`**: what one entry changes.
* **`valueAt?_perm`**: the order of entries does not bear on what is found under a text.
* **`keys_collected`**: the keys, in the order of their first occurrence.
* **`collected_of_keysDiffer`**: what a mapping could be is what is collected.
* **`named`**: entries under names.
-/

namespace SqlText

/-! ## Keys that are texts -/

/-- A value is a text key exactly where it is that text. -/
theorem isText_iff {key : String} {v : Value} : v.isText key = true ↔ v = .text key := by
  constructor
  · intro h
    cases v with
    | text s => exact congrArg Value.text (eq_of_beq h)
    | _ => exact Bool.noConfusion h
  · rintro rfl
    exact beq_self_eq_true key

/-- A text is the same key as itself alone. -/
theorem Value.text_same_iff (s : String) (v : Value) :
    (Value.text s).same v = true ↔ v = .text s := by
  cases v with
  | text t =>
      show (s == t) = true ↔ _
      rw [beq_iff_eq, Value.text.injEq]
      exact eq_comm
  | _ => exact ⟨(nomatch ·), (nomatch ·)⟩

/-- Nothing but a text is the same key as that text. -/
theorem Value.same_text_iff (v : Value) (s : String) : v.same (.text s) = true ↔ v = .text s := by
  cases v with
  | text t =>
      show (t == s) = true ↔ _
      rw [beq_iff_eq, Value.text.injEq]
  | _ => simp [Value.same, sameNumber, Value.number?]

/-- A text counts as given where it is not empty. -/
theorem Value.isGiven_text (s : String) : (Value.text s).isGiven = true ↔ s ≠ "" := by
  rw [isGiven, Bool.not_eq_true', ← Bool.not_eq_true, String.isEmpty_iff]

/-! ## One entry -/

/-- No key is the same as one before it, as it is in every mapping. -/
def KeysDiffer (es : List (Value × Value)) : Prop :=
  (es.map Prod.fst).Pairwise fun k l => k.same l = false

instance (es : List (Value × Value)) : Decidable (KeysDiffer es) :=
  inferInstanceAs (Decidable (List.Pairwise _ _))

/-- An entry whose key is new comes last, and another one takes over the place of the first
entry that has its key. -/
theorem insertEntry_cases (key value : Value) (es : List (Value × Value)) :
    ((∀ e ∈ es, e.1.same key = false) ∧ insertEntry key value es = es ++ [(key, value)]) ∨
      ∃ before k v after, es = before ++ (k, v) :: after ∧ k.same key = true ∧
        insertEntry key value es = before ++ (k, value) :: after := by
  induction es with
  | nil => exact .inl ⟨by simp, rfl⟩
  | cons e es ih =>
      obtain ⟨k, v⟩ := e
      rw [insertEntry]
      by_cases hk : k.same key = true
      · rw [if_pos hk]
        exact .inr ⟨[], k, v, es, rfl, hk, rfl⟩
      · rw [if_neg hk]
        rcases ih with ⟨hnew, h⟩ | ⟨before, k', v', after, rfl, hk', h⟩
        · refine .inl ⟨?_, by rw [h]; rfl⟩
          simpa [hk] using hnew
        · exact .inr ⟨(k, v) :: before, k', v', after, rfl, hk', by rw [h]; rfl⟩

/-- The keys stay as they are, or a new one comes last. -/
theorem keys_insertEntry (key value : Value) (es : List (Value × Value)) :
    (insertEntry key value es).map Prod.fst =
      if (es.map Prod.fst).any (·.same key) then es.map Prod.fst
      else es.map Prod.fst ++ [key] := by
  rcases insertEntry_cases key value es with ⟨hnew, h⟩ | ⟨before, k, v, after, rfl, hk, h⟩
  · rw [h, if_neg (by simpa using hnew), List.map_append]
    rfl
  · rw [h, if_pos (by simp [hk])]
    simp

/-- Keys that differ still do when an entry was put among them. -/
theorem KeysDiffer.insertEntry {es : List (Value × Value)} (h : KeysDiffer es)
    (key value : Value) : KeysDiffer (insertEntry key value es) := by
  rw [KeysDiffer, keys_insertEntry]
  split
  · exact h
  · rename_i hnew
    refine List.pairwise_append.mpr ⟨h, List.pairwise_singleton _ _, fun k hk l hl => ?_⟩
    rw [List.mem_singleton.mp hl]
    simpa using fun hsame => hnew (List.any_eq_true.mpr ⟨k, hk, hsame⟩)

/-- Among keys that differ, an entry under a text is the only one with its key. -/
theorem mem_insertEntry_text {es : List (Value × Value)} (h : KeysDiffer es) {s : String}
    {value k v : Value} (hmem : (k, v) ∈ insertEntry (.text s) value es) :
    (k = .text s ∧ v = value) ∨ (k.same (.text s) = false ∧ (k, v) ∈ es) := by
  rcases insertEntry_cases (.text s) value es with
    ⟨hnew, hes⟩ | ⟨before, k', v', after, rfl, hk', hes⟩
  · rw [hes] at hmem
    rcases List.mem_append.mp hmem with hold | hlast
    · exact .inr ⟨hnew _ hold, hold⟩
    · exact .inl (Prod.mk.inj (List.mem_singleton.mp hlast))
  · obtain rfl := (k'.same_text_iff s).mp hk'
    rw [KeysDiffer, List.map_append, List.map_cons, List.pairwise_append, List.pairwise_cons] at h
    obtain ⟨-, ⟨hafter, -⟩, hbefore⟩ := h
    rw [hes] at hmem
    rcases List.mem_append.mp hmem with hmem | hmem
    · have hkey : k ∈ before.map Prod.fst := List.mem_map_of_mem hmem
      exact .inr ⟨hbefore k hkey _ List.mem_cons_self, List.mem_append_left _ hmem⟩
    · rcases List.mem_cons.mp hmem with heq | hmem
      · exact .inl (Prod.mk.inj heq)
      · have hkey : k ∈ after.map Prod.fst := List.mem_map_of_mem hmem
        refine .inr ⟨?_, List.mem_append_right _ (List.mem_cons_of_mem _ hmem)⟩
        -- the key stands behind the text, so that the text is not the same as it
        refine Bool.eq_false_iff.mpr fun hsame => ?_
        have hdiffer := hafter k hkey
        rw [(k.same_text_iff s).mp hsame, (Value.text_same_iff s _).mpr rfl] at hdiffer
        exact nomatch hdiffer

/-! ## Looking up -/

/-- A value that is found under a text is that of an entry. -/
theorem mem_of_valueAt? {key : String} {v : Value} :
    ∀ {es : List (Value × Value)}, valueAt? key es = some v → (.text key, v) ∈ es := by
  intro es
  induction es with
  | nil => exact fun h => nomatch h
  | cons e es ih =>
      intro h
      obtain ⟨k, w⟩ := e
      rw [valueAt?] at h
      by_cases hkey : k.isText key
      · rw [if_pos hkey] at h
        rw [isText_iff.mp hkey, Option.some.inj h]
        exact List.mem_cons_self
      · rw [if_neg hkey] at h
        exact List.mem_cons_of_mem _ (ih h)

/-- Among keys that differ, every entry under a text is found there. -/
theorem valueAt?_of_mem {key : String} {v : Value} :
    ∀ {es : List (Value × Value)}, KeysDiffer es → (.text key, v) ∈ es →
      valueAt? key es = some v := by
  intro es
  induction es with
  | nil => exact fun _ h => nomatch h
  | cons e es ih =>
      intro h hmem
      obtain ⟨k, w⟩ := e
      obtain ⟨hdiffer, hes⟩ := List.pairwise_cons.mp h
      rw [valueAt?]
      rcases List.mem_cons.mp hmem with heq | hmem
      · obtain ⟨rfl, rfl⟩ := Prod.mk.inj heq
        rw [if_pos (isText_iff.mpr rfl)]
      · -- the key stands behind another one, so that this one is not the text
        have hkey : k.same (.text key) = false := hdiffer _ (List.mem_map_of_mem hmem)
        rw [if_neg, ih hes hmem]
        intro htext
        rw [(Value.same_text_iff _ _).mpr (isText_iff.mp htext)] at hkey
        exact nomatch hkey

/-- Where there is an entry under a text, a value is found there. -/
theorem exists_valueAt? {key : String} {v : Value} :
    ∀ {es : List (Value × Value)}, (.text key, v) ∈ es → ∃ w, valueAt? key es = some w := by
  intro es
  induction es with
  | nil => exact fun h => nomatch h
  | cons e es ih =>
      intro hmem
      obtain ⟨k, w⟩ := e
      rw [valueAt?]
      by_cases hkey : k.isText key
      · exact ⟨w, if_pos hkey⟩
      · rw [if_neg hkey]
        refine ih ((List.mem_cons.mp hmem).resolve_left fun heq => hkey ?_)
        exact isText_iff.mpr (Prod.mk.inj heq).1.symm

/-- Entries with keys that differ have the same value under a text in any order. -/
theorem valueAt?_perm {es fs : List (Value × Value)} (hperm : es.Perm fs) (h : KeysDiffer es)
    (key : String) : valueAt? key fs = valueAt? key es := by
  have hfound : ∀ {v : Value}, valueAt? key fs = some v → valueAt? key es = some v :=
    fun hv => valueAt?_of_mem h (hperm.mem_iff.mpr (mem_of_valueAt? hv))
  cases hfs : valueAt? key fs with
  | some v => exact (hfound hfs).symm
  | none =>
      refine (Option.eq_none_iff_forall_ne_some.mpr fun v hes => ?_).symm
      obtain ⟨w, hw⟩ := exists_valueAt? (hperm.mem_iff.mp (mem_of_valueAt? hes))
      rw [hfs] at hw
      exact nomatch hw

theorem valueAt_perm {es fs : List (Value × Value)} (hperm : es.Perm fs) (h : KeysDiffer es)
    (key : String) : valueAt key fs = valueAt key es :=
  congrArg (·.getD .null) (valueAt?_perm hperm h key)

/-! ## Entries one after the other -/

/-- The mapping of the entries given, each put into it after those before. -/
def collected (es : List (Value × Value)) : List (Value × Value) :=
  es.foldl (fun acc e => insertEntry e.1 e.2 acc) []

theorem collected_concat (es : List (Value × Value)) (e : Value × Value) :
    collected (es ++ [e]) = insertEntry e.1 e.2 (collected es) := by
  rw [collected, List.foldl_append]
  rfl

theorem keysDiffer_collected (es : List (Value × Value)) : KeysDiffer (collected es) := by
  induction es using List.reverseRecOn with
  | nil => exact List.Pairwise.nil
  | append_singleton es e ih =>
      rw [collected_concat]
      exact ih.insertEntry e.1 e.2

/-- A value that is the last of a list is left out where one before it is the same. -/
theorem eraseDupsBy_concat {α : Type} (r : α → α → Bool) (xs : List α) (x : α) :
    (xs ++ [x]).eraseDupsBy r =
      if (xs.eraseDupsBy r).any (r x) then xs.eraseDupsBy r else xs.eraseDupsBy r ++ [x] := by
  -- the items that were kept so far are the second list of the loop, in reverse
  have hloop : ∀ ys : List α, List.eraseDupsBy.loop r (xs ++ [x]) ys =
      if (List.eraseDupsBy.loop r xs ys).any (r x) then List.eraseDupsBy.loop r xs ys
      else List.eraseDupsBy.loop r xs ys ++ [x] := by
    induction xs with
    | nil =>
        intro ys
        simp only [List.nil_append, List.eraseDupsBy.loop, List.any_reverse]
        split <;> simp_all
    | cons y xs ih =>
        intro ys
        simp only [List.cons_append, List.eraseDupsBy.loop]
        by_cases hy : ys.any (r y) = true
        · simp only [hy, ih]
        · simp only [Bool.eq_false_iff.mpr hy, ih]
  exact hloop []

/-- The keys of what is collected are those of the entries, in the order in which each first
occurred. -/
theorem keys_collected (es : List (Value × Value)) :
    (collected es).map Prod.fst = (es.map Prod.fst).eraseDupsBy fun k l => l.same k := by
  induction es using List.reverseRecOn with
  | nil => rfl
  | append_singleton es e ih =>
      rw [collected_concat, keys_insertEntry, ih, List.map_append, List.map_singleton,
        eraseDupsBy_concat]

/-- Every key that was collected is the key of an entry. -/
theorem exists_of_mem_collected {es : List (Value × Value)} :
    ∀ e ∈ collected es, ∃ e' ∈ es, e'.1 = e.1 := by
  induction es using List.reverseRecOn with
  | nil => exact fun e he => nomatch he
  | append_singleton es e ih =>
      intro f hf
      have hkey : f.1 ∈ (collected (es ++ [e])).map Prod.fst := List.mem_map_of_mem hf
      rw [collected_concat, keys_insertEntry] at hkey
      have hcases : f.1 ∈ (collected es).map Prod.fst ∨ f.1 = e.1 := by
        split at hkey
        · exact .inl hkey
        · simpa using hkey
      rcases hcases with h | h
      · obtain ⟨g, hg, hgf⟩ := List.mem_map.mp h
        obtain ⟨e', he', h'⟩ := ih g hg
        exact ⟨e', List.mem_append_left _ he', h'.trans hgf⟩
      · exact ⟨e, List.mem_append_right _ (List.mem_singleton_self e), h.symm⟩

/-- Entries whose keys differ are collected as they are. -/
theorem collected_of_keysDiffer {es : List (Value × Value)} (h : KeysDiffer es) :
    collected es = es := by
  induction es using List.reverseRecOn with
  | nil => rfl
  | append_singleton es e ih =>
      rw [KeysDiffer, List.map_append, List.pairwise_append] at h
      obtain ⟨hes, -, hnew⟩ := h
      rw [collected_concat, ih hes]
      rcases insertEntry_cases e.1 e.2 es with ⟨-, h⟩ | ⟨before, k, v, after, rfl, hk, -⟩
      · exact h
      · have hk' := hnew k (by simp) e.1 (by simp)
        rw [hk] at hk'
        exact nomatch hk'

/-! ## Entries under names -/

/-- Entries under names, as a mapping has them. -/
def named (fields : List (String × Value)) : List (Value × Value) :=
  fields.map fun f => (.text f.1, f.2)

/-- A value is looked up under its name. -/
theorem valueAt?_named (name : String) (fields : List (String × Value)) :
    valueAt? name (named fields) = fields.lookup name := by
  induction fields with
  | nil => rfl
  | cons f fields ih =>
      show (if f.1 == name then some f.2 else valueAt? name (named fields)) = _
      rw [ih, List.lookup_cons, BEq.comm]
      cases name == f.1 <;> rfl

/-- The first of some entries has the value under its own name. -/
theorem lookup_cons_if {α : Type} (name : String) (f : String × α) (fields : List (String × α)) :
    (f :: fields).lookup name = if name = f.1 then some f.2 else fields.lookup name := by
  rw [List.lookup_cons]
  by_cases h : name = f.1
  · rw [if_pos h, beq_iff_eq.mpr h]
  · rw [if_neg h, beq_eq_false_iff_ne.mpr h]

theorem lookup_of_not_mem {α : Type} {name : String} {fields : List (String × α)}
    (h : name ∉ fields.map Prod.fst) : fields.lookup name = none :=
  List.lookup_eq_none_iff.mpr fun _ hf =>
    bne_iff_ne.mpr fun heq => h (heq ▸ List.mem_map_of_mem hf)

/-- The names of the entries are those under which a value is found. -/
theorem forall_name_iff {fields : List (String × Value)} {P : String → Prop} :
    (∀ f ∈ fields, P f.1) ↔ ∀ name, (fields.lookup name).isSome = true → P name := by
  simp only [List.lookup_isSome_iff, beq_iff_eq]
  constructor
  · rintro h _ ⟨f, hf, rfl⟩
    exact h f hf
  · exact fun h f hf => h f.1 ⟨f, hf, rfl⟩

/-- Entries under distinct names are entries under keys that differ. -/
theorem keysDiffer_named {fields : List (String × Value)} (h : (fields.map Prod.fst).Nodup) :
    KeysDiffer (named fields) := by
  rw [KeysDiffer, named, List.map_map, List.pairwise_map]
  refine (List.pairwise_map.mp h).imp fun {f g} hfg => Bool.eq_false_iff.mpr fun hsame => ?_
  exact hfg (Value.text.inj ((Value.text_same_iff _ _).mp hsame)).symm

end SqlText
