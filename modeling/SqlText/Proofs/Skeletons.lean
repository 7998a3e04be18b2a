import SqlText.Proofs.Coupling
import SqlText.Proofs.LiteralTexts
import SqlText.Proofs.MappingEntries

/-!
# Skeletons — texts without the contents of their literals

    eraseLiterals "a = \"x\" AND b"  =  eraseLiterals "a = \"y\\\"\" AND b"

Two texts have the same skeleton when they leave no literal open and become equal once the
contents of their literals are dropped. Such texts may be put together piece by piece: a
text that leaves no literal open, as one without quotes does, is a piece that both have in
common, and the literals of any two texts are pieces with the same skeleton.

* **`SameSkeleton.append`**, **`SameSkeleton.intercalate`**: pieces put together.
* **`literal_coupled`**: values that differ at most as texts have literals with the same
  skeleton, or none of them has a literal.
* **`SameEntries`**: mappings with the same keys and related values.
-/

namespace SqlText

open Text (jsonString)
open Text.Quoting (outside after_append erase_append)

/-- The text without the contents of its literals; their quotes stay. -/
def eraseLiterals (t : String) : String := String.ofList (outside.erase t.toList)

/-- A text that leaves no literal open. -/
def Closed (t : String) : Prop := outside.after t.toList = outside

instance (t : String) : Decidable (Closed t) :=
  inferInstanceAs (Decidable (outside.after t.toList = outside))

/-- A text without quotes leaves no literal open. -/
theorem closed_of_not_mem {t : String} (h : '\x22' ∉ t.toList) : Closed t :=
  Text.Quoting.after_of_not_mem _ h

theorem Closed.append {t u : String} (h : Closed t) (h' : Closed u) : Closed (t ++ u) := by
  show outside.after (t ++ u).toList = outside
  rw [String.toList_append, after_append, h, h']

/-- Two texts that leave no literal open and differ at most within literals. -/
structure SameSkeleton (t u : String) : Prop where
  closed_left : Closed t
  closed_right : Closed u
  erase_eq : outside.erase t.toList = outside.erase u.toList

namespace SameSkeleton

theorem eraseLiterals_eq {t u : String} (h : SameSkeleton t u) :
    eraseLiterals t = eraseLiterals u := congrArg String.ofList h.erase_eq

theorem refl {t : String} (h : Closed t) : SameSkeleton t t := ⟨h, h, rfl⟩

/-- The literals of any two texts have the same skeleton. -/
theorem jsonString (s t : String) : SameSkeleton (jsonString s) (jsonString t) := by
  refine ⟨Text.Quoting.after_jsonString s, Text.Quoting.after_jsonString t, ?_⟩
  rw [Text.Quoting.erase_jsonString, Text.Quoting.erase_jsonString]

theorem append {t u t' u' : String} (h : SameSkeleton t u) (h' : SameSkeleton t' u') :
    SameSkeleton (t ++ t') (u ++ u') := by
  refine ⟨h.closed_left.append h'.closed_left, h.closed_right.append h'.closed_right, ?_⟩
  rw [String.toList_append, String.toList_append, erase_append, erase_append, h.closed_left,
    h.closed_right, h.erase_eq, h'.erase_eq]

/-- The same piece before two texts with the same skeleton. -/
theorem append_left {t : String} (ht : Closed t) {u u' : String} (h : SameSkeleton u u') :
    SameSkeleton (t ++ u) (t ++ u') := (refl ht).append h

/-- The same piece after two texts with the same skeleton. -/
theorem append_right {t t' : String} (h : SameSkeleton t t') {u : String} (hu : Closed u) :
    SameSkeleton (t ++ u) (t' ++ u) := h.append (refl hu)

/-- Pieces with the same skeletons, put together with a separator. -/
theorem intercalate {sep : String} (hsep : Closed sep) :
    ∀ {ts us : List String}, List.Forall₂ SameSkeleton ts us →
      SameSkeleton (sep.intercalate ts) (sep.intercalate us) := by
  intro ts us h
  induction h with
  | nil => exact refl (by rw [String.intercalate_nil]; decide)
  | @cons t u ts us htu htus ih =>
      cases htus with
      | nil => rw [String.intercalate_singleton, String.intercalate_singleton]; exact htu
      | cons _ _ =>
          rw [String.intercalate_cons_cons, String.intercalate_cons_cons]
          exact (htu.append_right hsep).append ih

/-- The empty text has no skeleton in common with another one. -/
theorem eq_empty_iff {t u : String} (h : SameSkeleton t u) : t = "" ↔ u = "" := by
  rw [← String.toList_eq_nil_iff, ← String.toList_eq_nil_iff,
    ← Text.Quoting.erase_eq_nil_iff, h.erase_eq, Text.Quoting.erase_eq_nil_iff]

theorem isEmpty_eq {t u : String} (h : SameSkeleton t u) : t.isEmpty = u.isEmpty := by
  rw [Bool.eq_iff_iff, String.isEmpty_iff, String.isEmpty_iff, h.eq_empty_iff]

/-- Pieces with the same skeletons, without those that are empty. -/
theorem filled {ts us : List String} (h : List.Forall₂ SameSkeleton ts us) :
    List.Forall₂ SameSkeleton (ts.filter (· ≠ "")) (us.filter (· ≠ "")) := by
  refine List.rel_filter (fun t u htu => ?_) h
  simp only [decide_eq_true_eq, ne_eq, htu.eq_empty_iff]

end SameSkeleton

/-- Pieces that leave no literal open, put together with a separator. -/
theorem Closed.intercalate {sep : String} (hsep : Closed sep) {ts : List String}
    (h : ∀ t ∈ ts, Closed t) : Closed (sep.intercalate ts) :=
  (SameSkeleton.intercalate hsep (List.forall₂_same.mpr fun t ht => .refl (h t ht))).closed_left

/-! ## Values that differ as texts -/

/-- Is the value a list, a tuple or a mapping? -/
def Value.isCollection (v : Value) : Bool := v.sequence?.isSome || v.entries?.isSome

/-- Two values that differ at most in the contents of texts: one value twice, which leaves
no literal open where it is an SQL fragment, or two texts, or two collections, which have no
literal whatever texts they hold. -/
inductive SameButText : Value → Value → Prop where
  | same {v : Value} (h : ∀ t, v = .raw t ∨ v = .keyword t → Closed t) : SameButText v v
  | texts (s t : String) : SameButText (.text s) (.text t)
  | collections {v w : Value} (hv : v.isCollection = true) (hw : w.isCollection = true) :
      SameButText v w

/-- A value that is no fragment differs from itself in nothing. -/
theorem SameButText.refl {v : Value} (h : v.isFragment = false) : SameButText v v := by
  refine .same fun t ht => ?_
  rcases ht with rfl | rfl
  · exact Bool.noConfusion h
  · exact Bool.noConfusion h

theorem SameButText.isCollection_eq {v w : Value} (h : SameButText v w) :
    v.isCollection = w.isCollection := by
  cases h with
  | same _ => rfl
  | texts s t => rfl
  | collections hv hw => rw [hv, hw]

/-- A literal leaves no literal open, unless it is a fragment that does. -/
theorem closed_of_text {trim : Bool} {v : Value} {t : String}
    (hv : ∀ t, v = .raw t ∨ v = .keyword t → Closed t)
    (h : Literal.text trim v = .ok t) : Closed t :=
  (LiteralForm.or_fragment h).elim LiteralForm.after (hv t)

/-- No collection has a literal. -/
theorem text_of_isCollection {trim : Bool} {v : Value} (h : v.isCollection = true) :
    Literal.text trim v = Literal.refuse (.noForm v) := by
  cases v with
  | list vs => rfl
  | tuple vs => rfl
  | mapping es => rfl
  | _ => exact Bool.noConfusion h

/-- Values that differ at most as texts have literals with the same skeleton, or neither has
a literal. -/
theorem literal_coupled (trim : Bool) {v w : Value} (h : SameButText v w) :
    Coupling.unobserved.Outcomes SameSkeleton (Literal.text trim v) (Literal.text trim w) := by
  cases h with
  | same h => exact .refl fun t ht => .refl (closed_of_text h ht)
  | texts s t => exact .ok (.jsonString _ _)
  | collections hv hw =>
      rw [text_of_isCollection hv, text_of_isCollection hw]
      exact .error trivial

/-! ## Mappings with the same keys -/

/-- Two mappings with the same keys in the same order, the values under them related. -/
def SameEntries (R : Value → Value → Value → Prop) :
    List (Value × Value) → List (Value × Value) → Prop :=
  List.Forall₂ fun e e' => e'.1 = e.1 ∧ R e.1 e.2 e'.2

namespace SameEntries

variable {R : Value → Value → Value → Prop}

theorem keys_eq : ∀ {es es' : List (Value × Value)}, SameEntries R es es' →
    es'.map Prod.fst = es.map Prod.fst := by
  intro es es' h
  induction h with
  | nil => rfl
  | cons he _ ih => rw [List.map_cons, List.map_cons, he.1, ih]

theorem isEmpty_eq {es es' : List (Value × Value)} (h : SameEntries R es es') :
    es'.isEmpty = es.isEmpty := by
  cases h with
  | nil => rfl
  | cons _ _ => rfl

/-- What is found under a key is related, or nothing is found in either. -/
theorem lookup (key : Value) :
    ∀ {es es' : List (Value × Value)}, SameEntries R es es' →
      (SqlText.lookup key es = .null ∧ SqlText.lookup key es' = .null) ∨
        ∃ k, R k (SqlText.lookup key es) (SqlText.lookup key es') := by
  intro es es' h
  induction h with
  | nil => exact .inl ⟨rfl, rfl⟩
  | @cons e e' es es' he _ ih =>
      obtain ⟨k, v⟩ := e
      obtain ⟨k', v'⟩ := e'
      obtain ⟨rfl, hv⟩ := he
      rw [SqlText.lookup, SqlText.lookup]
      by_cases hk : k'.same key
      · rw [if_pos hk, if_pos hk]
        exact .inr ⟨k', hv⟩
      · rw [if_neg hk, if_neg hk]
        exact ih

/-- What is found under a text key is related, if anything is. -/
theorem valueAt? (key : String) :
    ∀ {es es' : List (Value × Value)}, SameEntries R es es' →
      Option.Rel (R (.text key)) (SqlText.valueAt? key es) (SqlText.valueAt? key es') := by
  intro es es' h
  induction h with
  | nil => exact .none
  | @cons e e' es es' he _ ih =>
      obtain ⟨k, v⟩ := e
      obtain ⟨k', v'⟩ := e'
      obtain ⟨rfl, hv⟩ := he
      rw [SqlText.valueAt?, SqlText.valueAt?]
      by_cases hk : k'.isText key
      · rw [if_pos hk, if_pos hk]
        rw [isText_iff.mp hk] at hv
        exact .some hv
      · rw [if_neg hk, if_neg hk]
        exact ih

/-- A text key is in both mappings or in neither. -/
theorem isSome_valueAt? (key : String) {es es' : List (Value × Value)}
    (h : SameEntries R es es') :
    (SqlText.valueAt? key es').isSome = (SqlText.valueAt? key es).isSome := by
  have hr := h.valueAt? key
  generalize SqlText.valueAt? key es = o at hr ⊢
  generalize SqlText.valueAt? key es' = o' at hr ⊢
  cases hr with
  | some _ => rfl
  | none => rfl

/-- The values under a text key are related, where what replaces a missing one is related to
itself. -/
theorem getD {key : String} {v : Value} (hv : R (.text key) v v)
    {es es' : List (Value × Value)} (h : SameEntries R es es') :
    R (.text key) ((SqlText.valueAt? key es).getD v) ((SqlText.valueAt? key es').getD v) := by
  have hr := h.valueAt? key
  generalize SqlText.valueAt? key es = o at hr ⊢
  generalize SqlText.valueAt? key es' = o' at hr ⊢
  cases hr with
  | some h => exact h
  | none => exact hv

end SameEntries

end SqlText
