import Mathlib.Data.List.Perm.Lattice
import SqlText.Proofs.CamelCase
import SqlText.Proofs.Dispatch
import SqlText.Proofs.MappingEntries

/-!
# Spellings — a mapping of options in either spelling and in any order

    Rearranged es es'   →   ofMapping kind (named es')  =  ofMapping kind (named es)

Thirteen options have a second spelling. A mapping is read under the names of its options, so
that neither the spelling of an entry nor its place among the others has a part in what is
built, as long as no two entries have one name. Where two of them do, the place is that of the
first and the value that of the last.

* **`normalized_normalized`**, **`keys_normalized`**, **`last_of_mem_normalized`**: any mapping
  under the names of its options.
* **`Rearranged`**: entries in another order and in other spellings.
* **`rearranged_iff`**: these are the entries that are permuted under their names.
* **`run_ofMapping_rearranged`**: what a request makes of them.
-/

namespace SqlText

namespace Statement

/-! ## Any mapping under the names of its options -/

/-- A key under the name of the option that it stands for; a key that is no text stays as it
is. -/
def optionKey : Value → Value
  | .text name => .text (optionOf name)
  | v          => v

theorem respelledKey_eq_optionKey (key : Value) : respelledKey key = optionKey key := by
  cases key with
  | text name => exact congrArg Value.text (respelled_eq_optionOf name)
  | _ => rfl

theorem optionKey_optionKey (key : Value) : optionKey (optionKey key) = optionKey key := by
  cases key with
  | text name => exact congrArg Value.text (optionOf_optionOf name)
  | _ => rfl

/-- A mapping under the names of its options is what its entries come to, each under its
name. -/
theorem normalized_eq (es : List (Value × Value)) :
    normalized es = collected (es.map fun e => (optionKey e.1, e.2)) := by
  rw [collected, List.foldl_map, normalized]
  simp only [respelledKey_eq_optionKey]

theorem normalized_concat (es : List (Value × Value)) (e : Value × Value) :
    normalized (es ++ [e]) = insertEntry (optionKey e.1) e.2 (normalized es) := by
  simp only [normalized_eq, List.map_append, List.map_singleton, collected_concat]

theorem keysDiffer_normalized (es : List (Value × Value)) : KeysDiffer (normalized es) := by
  rw [normalized_eq]
  exact keysDiffer_collected _

/-- The keys are the names of the entries, in the order in which each first occurred. -/
theorem keys_normalized (es : List (Value × Value)) :
    (normalized es).map Prod.fst =
      (es.map fun e => optionKey e.1).eraseDupsBy fun k l => l.same k := by
  rw [normalized_eq, keys_collected, List.map_map]
  rfl

/-- Every key is the name of an entry. -/
theorem exists_of_mem_normalized {es : List (Value × Value)} {e : Value × Value}
    (h : e ∈ normalized es) : ∃ e' ∈ es, optionKey e'.1 = e.1 := by
  rw [normalized_eq] at h
  obtain ⟨_, hmem, hkey⟩ := exists_of_mem_collected e h
  obtain ⟨e', he', rfl⟩ := List.mem_map.mp hmem
  exact ⟨e', he', hkey⟩

/-- A mapping under the names of its options stays as it is. -/
theorem normalized_normalized (es : List (Value × Value)) :
    normalized (normalized es) = normalized es := by
  have hkeys : ∀ e ∈ normalized es, (optionKey e.1, e.2) = e := by
    intro e he
    obtain ⟨e', -, he'⟩ := exists_of_mem_normalized he
    rw [← he', optionKey_optionKey, he']
  rw [normalized_eq (normalized es), List.map_congr_left hkeys, List.map_id']
  exact collected_of_keysDiffer (keysDiffer_normalized es)

/-- A key that is no text is its own name, so that no entry before it has that name. -/
theorem notMem_normalized_of_ne_text {es : List (Value × Value)} {e : Value × Value}
    (h : KeysDiffer (es ++ [e])) (hkey : ∀ name, e.1 ≠ .text name) :
    ∀ f ∈ normalized es, f.1.same (optionKey e.1) = false := by
  intro f hf
  obtain ⟨e', he', hname⟩ := exists_of_mem_normalized hf
  have hself : optionKey e.1 = e.1 := by
    cases hkind : e.1 with
    | text name => exact absurd hkind (hkey name)
    | _ => rfl
  rw [KeysDiffer, List.map_append, List.pairwise_append] at h
  have hdiffer := h.2.2 e'.1 (List.mem_map_of_mem he') e.1 (by simp)
  rw [hself, ← hname]
  cases hname' : e'.1 with
  | text name =>
      refine Bool.eq_false_iff.mpr fun hsame => ?_
      exact hkey _ ((Value.text_same_iff _ _).mp hsame)
  | _ => rw [hname'] at hdiffer; exact hdiffer

/-- Every entry has the value of the last of those with its name. -/
theorem last_of_mem_normalized {es : List (Value × Value)} (h : KeysDiffer es) :
    ∀ k v, (k, v) ∈ normalized es →
      ∃ before e after, es = before ++ e :: after ∧ optionKey e.1 = k ∧ e.2 = v ∧
        ∀ e' ∈ after, k.same (optionKey e'.1) = false := by
  induction es using List.reverseRecOn with
  | nil => intro _ _ hmem; exact nomatch hmem
  | append_singleton es e ih =>
      intro k v hmem
      -- an entry is the last one, or it was there and the last one has another name
      have hcases : (k = optionKey e.1 ∧ v = e.2) ∨
          (k.same (optionKey e.1) = false ∧ (k, v) ∈ normalized es) := by
        rw [normalized_concat] at hmem
        by_cases htext : ∃ name, e.1 = .text name
        · obtain ⟨name, hname⟩ := htext
          rw [hname] at hmem ⊢
          exact mem_insertEntry_text (keysDiffer_normalized es) hmem
        · have hnew := notMem_normalized_of_ne_text h (not_exists.mp htext)
          rcases insertEntry_cases (optionKey e.1) e.2 (normalized es) with
            ⟨-, hes⟩ | ⟨before, k', v', after, hes, hsame, -⟩
          · rw [hes] at hmem
            rcases List.mem_append.mp hmem with hold | hlast
            · exact .inr ⟨hnew _ hold, hold⟩
            · exact .inl (Prod.mk.inj (List.mem_singleton.mp hlast))
          · have hdiffer := hnew (k', v') (by simp [hes])
            rw [hsame] at hdiffer
            exact nomatch hdiffer
      rcases hcases with ⟨rfl, rfl⟩ | ⟨hdiffer, hold⟩
      · exact ⟨es, e, [], rfl, rfl, rfl, fun _ he' => nomatch he'⟩
      · rw [KeysDiffer, List.map_append, List.pairwise_append] at h
        obtain ⟨before, e', after, rfl, hk, hv, hafter⟩ := ih h.1 k v hold
        refine ⟨before, e', after ++ [e], by simp, hk, hv, ?_⟩
        exact List.forall_mem_append.mpr ⟨hafter, List.forall_mem_singleton.mpr hdiffer⟩

/-! ## Mappings with one entry for each name -/

/-- Entries under the names of their options. -/
def translated (es : List (String × Value)) : List (String × Value) :=
  es.map fun e => (optionOf e.1, e.2)

/-- Entries that a mapping of options can have, no two of them with one name. -/
structure IsConfig (es : List (String × Value)) : Prop where
  ne_kind : ∀ e ∈ es, e.1 ≠ "kind"
  nodup : ((translated es).map Prod.fst).Nodup

variable {es es' : List (String × Value)}

/-- Where no two entries have one name, each of them only takes its name. -/
theorem normalized_named (h : ((translated es).map Prod.fst).Nodup) :
    normalized (named es) = named (translated es) := by
  rw [normalized_eq, ← collected_of_keysDiffer (keysDiffer_named h)]
  simp only [named, translated, List.map_map]
  rfl

/-- Entries under names other than that of the kind are options. -/
theorem optionsOf_named :
    ∀ es : List (String × Value), (∀ e ∈ es, e.1 ≠ "kind") → optionsOf (named es) = .ok es := by
  intro es h
  induction es with
  | nil => rfl
  | cons e es ih =>
      obtain ⟨he, hes⟩ := List.forall_mem_cons.mp h
      show (if e.1 == "kind" then _ else _) = _
      rw [if_neg (by simpa using he)]
      show (optionsOf (named es)).map _ = _
      rw [ih hes]
      rfl

/-- A mapping with one entry for each name is a request with the options so named. -/
theorem ofMapping_named (h : IsConfig es) (kind : Value) :
    ofMapping kind (.mapping (named es)) = request kind (translated es) := by
  have hoptions : optionsOf (normalized (named es)) = .ok (translated es) := by
    rw [normalized_named h.nodup]
    refine optionsOf_named _ fun e he => ?_
    obtain ⟨e', he', rfl⟩ := List.mem_map.mp he
    exact optionOf_ne_kind (h.ne_kind e' he')
  show (liftM (optionsOf (normalized (named es))) >>= request kind : Build String) = _
  rw [hoptions]
  exact pure_bind _ _

/-! ## Other orders and other spellings -/

/-- Entries that come from others by changes of their order and of single spellings, where an
option takes its second spelling or goes back to its name. -/
inductive Rearranged : List (String × Value) → List (String × Value) → Prop where
  | refl (es : List (String × Value)) : Rearranged es es
  | symm {es es' : List (String × Value)} (h : Rearranged es es') : Rearranged es' es
  | trans {es es' es'' : List (String × Value)} (h : Rearranged es es')
      (h' : Rearranged es' es'') : Rearranged es es''
  | reorder {es es' : List (String × Value)} (h : es.Perm es') : Rearranged es es'
  | respell {option : String} (h : option ∈ allOptions) (before v after) :
      Rearranged (before ++ (option, v) :: after) (before ++ (camelCase option, v) :: after)

/-- An entry may take the name of the option that it stands for. -/
theorem rearranged_optionOf (before : List (String × Value)) (e : String × Value)
    (after : List (String × Value)) :
    Rearranged (before ++ e :: after) (before ++ (optionOf e.1, e.2) :: after) := by
  rcases optionOf_cases e.1 with hself | ⟨hmem, hname⟩
  · rw [hself]
    exact .refl _
  · have hback := (Rearranged.respell hmem before e.2 after).symm
    rwa [hname] at hback

/-- The entries may take their names one after the other. -/
theorem rearranged_translated :
    ∀ es before : List (String × Value), Rearranged (before ++ es) (before ++ translated es) := by
  intro es
  induction es with
  | nil => exact fun before => .refl _
  | cons e es ih =>
      intro before
      refine (rearranged_optionOf before e es).trans ?_
      have hrest := ih (before ++ [(optionOf e.1, e.2)])
      rw [List.append_assoc, List.append_assoc] at hrest
      exact hrest

/-- Entries may take their names and the other order. -/
theorem rearranged_reverse (es : List (String × Value)) :
    Rearranged es (translated es).reverse :=
  (rearranged_translated es []).trans (.reorder (List.reverse_perm _).symm)

/-- Rearranged entries are those that are permuted under their names. -/
theorem rearranged_iff : Rearranged es es' ↔ (translated es).Perm (translated es') := by
  constructor
  · intro h
    induction h with
    | refl es => exact .refl _
    | symm _ ih => exact ih.symm
    | trans _ _ ih ih' => exact ih.trans ih'
    | reorder h => exact h.map _
    | respell h before v after =>
        simp [translated, optionOf_of_mem h, optionOf_camelCase h]
  · intro h
    exact (rearranged_translated es []).trans
      ((Rearranged.reorder h).trans (rearranged_translated es' []).symm)

/-- Rearranged entries are entries of a mapping as well. -/
theorem Rearranged.isConfig (h : Rearranged es es') (hes : IsConfig es) : IsConfig es' := by
  have hperm := rearranged_iff.mp h
  refine ⟨fun e he hkind => ?_, (hperm.map Prod.fst).nodup_iff.mp hes.nodup⟩
  -- only the kind itself has the name of the kind
  have hmem : ("kind", e.2) ∈ translated es' :=
    List.mem_map.mpr ⟨e, he, by rw [hkind]; rfl⟩
  obtain ⟨e', he', heq⟩ := List.mem_map.mp (hperm.mem_iff.mpr hmem)
  exact optionOf_ne_kind (hes.ne_kind e' he') (Prod.mk.inj heq).1

/-! ## Requests -/

variable {c : Context} {kind : Value}

/-- Options that the statement takes can be rearranged without a change of what is built. -/
theorem ofMapping_rearranged (hes : IsConfig es) (h : Rearranged es es')
    (hknown : ∀ verb, Verb.named? (Text.upper (Text.strip kind.display)) = some verb →
      ∀ o ∈ translated es, o.1 ∈ verb.optionNames) :
    ofMapping kind (.mapping (named es')) = ofMapping kind (.mapping (named es)) := by
  rw [ofMapping_named hes, ofMapping_named (h.isConfig hes), request, request]
  cases hverb : Verb.named? (Text.upper (Text.strip kind.display)) with
  | none => rfl
  | some verb =>
      show ofVerb verb _ = ofVerb verb _
      rw [ofVerb, ofVerb, ofOptions_perm (rearranged_iff.mp h) hes.nodup (hknown verb hverb)]

/-- Where an option is unknown to the statement, one such option is refused and nothing is
built. -/
theorem run_ofMapping_of_unknown {verb : Verb} (hes : IsConfig es)
    (hverb : Verb.named? (Text.upper (Text.strip kind.display)) = some verb)
    (hunknown : ∃ o ∈ translated es, o.1 ∉ verb.optionNames) :
    ∃ o ∈ translated es, o.1 ∉ verb.optionNames ∧
      (ofMapping kind (.mapping (named es))).run c =
        ⟨.error (.build (.request
            (.invalidOptions verb (.unexpectedOption verb.builderName o.1)))),
          [invalidRecord verb (.unexpectedOption verb.builderName o.1)]⟩ := by
  obtain ⟨o, hfirst⟩ : ∃ o, (translated es).find? (·.1 ∉ verb.optionNames) = some o := by
    rw [← Option.isSome_iff_exists, List.find?_isSome]
    simpa using hunknown
  refine ⟨o, List.mem_of_find?_eq_some hfirst, by simpa using List.find?_some hfirst, ?_⟩
  rw [ofMapping_named hes, request, hverb]
  exact run_ofVerb_of_unknown hfirst

/-- A mapping with one entry for each option name, and all that come from it by changes of
order and spelling, give the same run where the statement takes every option; where it does
not, each of them is refused for an option that it does not take, with the one record of that
and nothing built. Under the names of its options any mapping stays as it is when it is named
again, its keys are the names of its entries as each first occurred, and each of them has the
value of the last entry with its name. -/
theorem run_ofMapping_rearranged (c : Context) :
    (∀ (kind : Value) (es es' : List (String × Value)), IsConfig es → Rearranged es es' →
      ((∀ verb, Verb.named? (Text.upper (Text.strip kind.display)) = some verb →
          ∀ o ∈ translated es, o.1 ∈ verb.optionNames) →
        (ofMapping kind (.mapping (named es'))).run c =
          (ofMapping kind (.mapping (named es))).run c) ∧
      ∀ verb, Verb.named? (Text.upper (Text.strip kind.display)) = some verb →
        (∃ o ∈ translated es, o.1 ∉ verb.optionNames) →
        ∃ o ∈ translated es, o.1 ∉ verb.optionNames ∧
          (ofMapping kind (.mapping (named es'))).run c =
            ⟨.error (.build (.request
                (.invalidOptions verb (.unexpectedOption verb.builderName o.1)))),
              [invalidRecord verb (.unexpectedOption verb.builderName o.1)]⟩) ∧
    ∀ es : List (Value × Value),
      normalized (normalized es) = normalized es ∧
      (normalized es).map Prod.fst =
        (es.map fun e => optionKey e.1).eraseDupsBy (fun k l => l.same k) ∧
      (KeysDiffer es → ∀ k v, (k, v) ∈ normalized es →
        ∃ before e after, es = before ++ e :: after ∧ optionKey e.1 = k ∧ e.2 = v ∧
          ∀ e' ∈ after, k.same (optionKey e'.1) = false) := by
  refine ⟨fun kind es es' hes h => ⟨fun hknown => ?_, fun verb hverb hunknown => ?_⟩,
    fun es => ⟨normalized_normalized es, keys_normalized es, last_of_mem_normalized⟩⟩
  · rw [ofMapping_rearranged hes h hknown]
  · obtain ⟨o, ho, hname⟩ := hunknown
    have hperm := rearranged_iff.mp h
    obtain ⟨o', ho', hname', hrun⟩ :=
      run_ofMapping_of_unknown (h.isConfig hes) hverb ⟨o, hperm.mem_iff.mp ho, hname⟩
    exact ⟨o', hperm.mem_iff.mpr ho', hname', hrun⟩

/-- A SELECT with every option of it that has a second spelling, in that spelling. -/
def counted : List (String × Value) :=
  [("recursiveCTE", .mapping [(.text "baseCase", .text "SELECT 1"),
      (.text "recursiveCase", .text "SELECT n + 1 FROM c"), (.text "alias", .text "c")]),
    ("columns", .list [.text "n"]), ("subQueries", .list [.text "SELECT 2"]),
    ("groupBy", .list [.text "n"]), ("limitSkip", .mapping [(.text "limit", .int 5)])]

/-- An UPDATE with every option of it that has a second spelling, in that spelling. -/
def repriced : List (String × Value) :=
  [("updateData", .mapping [(.text "name", .text "pen")]), ("nullValues", .list [.text "note"]),
    ("table", .text "t"), ("defaultValues", .list [.text "stock"]),
    ("fromSubQuery", .mapping [(.text "best", .text "(SELECT 3)")]),
    ("setCalculations", .mapping [(.text "price", .text "price * 2")]), ("where", .text "id = 7")]

/-- An INSERT with every option of it that has a second spelling, in that spelling. -/
def oneRow : List (String × Value) :=
  [("table", .text "t"), ("onDuplicateUpdateFields", .list [.text "a"]),
    ("uniqueColumn", .bool false), ("dateFields", .list [.text "at"]),
    ("insertData", .mapping [(.text "a", .int 1)])]

/-- The three are built alike under the names of their options and the other way round. The last
is refused as a DELETE, and another entry with the name of one that is there changes its value. -/
theorem run_ofMapping_rearranged_spellings :
    (IsConfig counted ∧ Rearranged counted (translated counted).reverse ∧
      (ofMapping (.text "select") (.mapping (named (translated counted).reverse))).run {} =
        (ofMapping (.text "select") (.mapping (named counted))).run {} ∧
      (ofMapping (.text "select") (.mapping (named counted))).outcome {} =
        .ok ("WITH RECURSIVE c AS (SELECT 1 UNION ALL SELECT n + 1 FROM c) " ++
          "SELECT n, (SELECT 2) FROM c GROUP BY n LIMIT 5")) ∧
    (IsConfig repriced ∧ Rearranged repriced (translated repriced).reverse ∧
      (ofMapping (.text "update") (.mapping (named (translated repriced).reverse))).run {} =
        (ofMapping (.text "update") (.mapping (named repriced))).run {} ∧
      (ofMapping (.text "update") (.mapping (named repriced))).outcome {} =
        .ok ("UPDATE t SET name = \"pen\", price = price * 2, best = (SELECT 3), " ++
          "note = NULL, stock = DEFAULT WHERE id = 7")) ∧
    (IsConfig oneRow ∧ Rearranged oneRow (translated oneRow).reverse ∧
      (ofMapping (.text "insert") (.mapping (named (translated oneRow).reverse))).run {} =
        (ofMapping (.text "insert") (.mapping (named oneRow))).run {} ∧
      (ofMapping (.text "insert") (.mapping (named oneRow))).outcome {} =
        .ok ("INSERT INTO t (a, at) VALUES (1,CURRENT_TIMESTAMP) " ++
          "ON DUPLICATE KEY UPDATE a = VALUES(a)")) ∧
    (∃ o ∈ translated oneRow, o.1 ∉ Verb.delete.optionNames ∧
      (ofMapping (.text "delete") (.mapping (named (translated oneRow).reverse))).run {} =
        ⟨.error (.build (.request
            (.invalidOptions .delete (.unexpectedOption Verb.delete.builderName o.1)))),
          [invalidRecord .delete (.unexpectedOption Verb.delete.builderName o.1)]⟩) ∧
    ∃ before e after, named (counted ++ [("group_by", .null)]) = before ++ e :: after ∧
      optionKey e.1 = .text "group_by" ∧ e.2 = .null ∧
      ∀ e' ∈ after, (Value.text "group_by").same (optionKey e'.1) = false := by
  obtain ⟨hrun, hmapping⟩ := run_ofMapping_rearranged {}
  have hselect : Verb.named? (Text.upper (Text.strip (Value.text "select").display)) =
      some .select := by decide +kernel
  have hupdate : Verb.named? (Text.upper (Text.strip (Value.text "update").display)) =
      some .update := by decide +kernel
  have hinsert : Verb.named? (Text.upper (Text.strip (Value.text "insert").display)) =
      some .insert := by decide +kernel
  have hdelete : Verb.named? (Text.upper (Text.strip (Value.text "delete").display)) =
      some .delete := by decide +kernel
  have hcounted : IsConfig counted := ⟨by decide, by decide⟩
  have hrepriced : IsConfig repriced := ⟨by decide, by decide⟩
  have honeRow : IsConfig oneRow := ⟨by decide, by decide⟩
  refine ⟨⟨hcounted, rearranged_reverse _, ?_, ?_⟩, ⟨hrepriced, rearranged_reverse _, ?_, ?_⟩,
    ⟨honeRow, rearranged_reverse _, ?_, ?_⟩, ?_, ?_⟩
  · refine (hrun _ _ _ hcounted (rearranged_reverse _)).1 fun verb hverb => ?_
    rw [← Option.some.inj (hselect.symm.trans hverb)]
    decide
  · exact eq_ok_of_toOption (by decide +kernel)
  · refine (hrun _ _ _ hrepriced (rearranged_reverse _)).1 fun verb hverb => ?_
    rw [← Option.some.inj (hupdate.symm.trans hverb)]
    decide
  · rfl
  · refine (hrun _ _ _ honeRow (rearranged_reverse _)).1 fun verb hverb => ?_
    rw [← Option.some.inj (hinsert.symm.trans hverb)]
    decide
  · rfl
  · refine (hrun _ _ _ honeRow (rearranged_reverse _)).2 .delete hdelete ?_
    exact ⟨_, List.mem_of_getLast? rfl, by decide⟩
  · have hdiffer : KeysDiffer (named (counted ++ [("group_by", .null)])) :=
      keysDiffer_named (by decide)
    refine (hmapping _).2.2 hdiffer _ _ ?_
    simp [counted, named, normalized, respelledKey, respelled, insertEntry, Value.same]

end Statement

end SqlText
