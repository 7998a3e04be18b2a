import SqlText.Clause.CaseExpr
import SqlText.Proofs.ClosedClauses

/-!
# Alike CASE values — assignments that differ in their texts

    salary = CASE WHEN a THEN "x" ELSE "y" END    salary = CASE WHEN a THEN "" ELSE "z" END

The values of two assignments are alike when they differ at most in the contents of texts
that are written as literals: the value itself, the results of the branches of a CASE
expression, or its ELSE. Conditions are the same in both and leave no literal open. Alike
values are assigned with the same skeleton, or neither of them can be assigned.

* **`AlikeAssigned`**: alike values of one column.
* **`assignment_coupled`**: their assignments have the same skeleton.
-/

namespace SqlText

namespace CaseExpr

open Coupling (unobserved)

/-! ## Branches -/

/-- What two branches have to do with each other under one key: the same condition, which
leaves no literal open, and results that differ at most as texts. -/
def BranchField (key v w : Value) : Prop :=
  (key = .text "when" → w = v ∧ v.ShowsClosed) ∧ (key = .text "then" → SameButText v w)

theorem BranchField.condition {v : Value} (h : v.ShowsClosed) :
    BranchField (.text "when") v v :=
  ⟨fun _ => ⟨rfl, h⟩, fun hkey => absurd (Value.text.inj hkey) (by decide)⟩

theorem BranchField.result {v w : Value} (h : SameButText v w) :
    BranchField (.text "then") v w :=
  ⟨fun hkey => absurd (Value.text.inj hkey) (by decide), fun _ => h⟩

/-- Two branches that differ at most in the text of their results, or two values none of
which describes a branch. -/
inductive AlikeBranch : Value → Value → Prop where
  | variant {condition r r' : Value} (hw : condition.ShowsClosed) (hr : SameButText r r') :
      AlikeBranch (.caseBranch ⟨condition, r⟩) (.caseBranch ⟨condition, r'⟩)
  | mapping {es es' : List (Value × Value)} (h : SameEntries BranchField es es') :
      AlikeBranch (.mapping es) (.mapping es')
  | other {v w : Value} (hv : ∀ b, v ≠ .caseBranch b) (hv' : v.entries? = none)
      (hw : ∀ b, w ≠ .caseBranch b) (hw' : w.entries? = none) : AlikeBranch v w

/-- Two lists of alike branches, or one value that holds branches alike to themselves. -/
inductive AlikeBranches : Value → Value → Prop where
  | list {vs ws : List Value} (h : List.Forall₂ AlikeBranch vs ws) :
      AlikeBranches (.list vs) (.list ws)
  | tuple {vs ws : List Value} (h : List.Forall₂ AlikeBranch vs ws) :
      AlikeBranches (.tuple vs) (.tuple ws)
  | same {v : Value} (h : ∀ vs, v.iterate = .ok vs → List.Forall₂ AlikeBranch vs vs) :
      AlikeBranches v v

/-- A value that is neither a branch nor a mapping describes no branch. -/
theorem branchOfValue_other {v : Value} (hv : ∀ b, v ≠ .caseBranch b)
    (hv' : v.entries? = none) : branchOfValue v = refuseBranch v := by
  cases v with
  | caseBranch b => exact absurd rfl (hv b)
  | mapping es => exact nomatch hv'
  | _ => rfl

/-- Nor is it written as one. -/
theorem branchText_other {v : Value} (hv : ∀ b, v ≠ .caseBranch b) :
    branchText v = .error (.noAttribute v.typeName "when") := by
  cases v with
  | caseBranch b => exact absurd rfl (hv b)
  | _ => rfl

/-- Alike values describe alike branches. -/
theorem branchOfValue_coupled {v w : Value} (h : AlikeBranch v w) :
    unobserved.Outcomes AlikeBranch (branchOfValue v) (branchOfValue w) := by
  cases h with
  | variant hw hr => exact .ok (.variant hw hr)
  | @mapping es es' h =>
      have hwhen : BranchField (.text "when") (valueAt "when" es) (valueAt "when" es') :=
        h.getD (.condition (by decide))
      have hthen : BranchField (.text "then") (valueAt "then" es) (valueAt "then" es') :=
        h.getD (.result (.refl rfl))
      obtain ⟨heq, hclosed⟩ := hwhen.1 rfl
      rw [branchOfValue, branchOfValue, heq]
      by_cases hg : (valueAt "when" es).isGiven
      · rw [if_pos hg, if_pos hg]
        exact .ok (.variant hclosed (hthen.2 rfl))
      · rw [if_neg hg, if_neg hg]
        exact .error trivial
  | other hv hv' hw hw' =>
      rw [branchOfValue_other hv hv', branchOfValue_other hw hw']
      exact .error trivial

/-- Alike branches are written with the same skeleton. -/
theorem branchText_coupled {v w : Value} (h : AlikeBranch v w) :
    unobserved.Outcomes SameSkeleton (branchText v) (branchText w) := by
  cases h with
  | @variant condition r r' hw hr =>
      refine (literal_coupled false hr).bind fun t u htu => .ok ?_
      have hc := (by decide : Closed "WHEN ").append hw
      exact htu.append_left (hc.append (by decide : Closed " THEN "))
  | mapping h => exact .error trivial
  | other hv _ hw _ =>
      rw [branchText_other hv, branchText_other hw]
      exact .error trivial

theorem AlikeBranches.iterate {v w : Value} (h : AlikeBranches v w) :
    unobserved.Outcomes (List.Forall₂ AlikeBranch) v.iterate w.iterate := by
  cases h with
  | list h => exact .ok h
  | tuple h => exact .ok h
  | same h => exact .refl h

/-- Branches that are not given are none. -/
theorem AlikeBranches.orElse {v w : Value} (h : AlikeBranches v w) :
    AlikeBranches (v.orElse (.tuple [])) (w.orElse (.tuple [])) := by
  cases h with
  | list h =>
      cases h with
      | nil => exact .tuple .nil
      | cons hv hvs => exact .list (.cons hv hvs)
  | tuple h =>
      cases h with
      | nil => exact .tuple .nil
      | cons hv hvs => exact .tuple (.cons hv hvs)
  | same h =>
      rw [Value.orElse]
      by_cases hg : v.isGiven
      · rw [if_pos hg]; exact .same h
      · rw [if_neg hg]; exact .tuple .nil

/-! ## CASE expressions -/

/-- What two descriptions of a CASE expression have to do with each other under one key. -/
def CaseField (key v w : Value) : Prop :=
  (key = .text "case" → AlikeBranches v w) ∧ (key = .text "default" → SameButText v w)

theorem CaseField.branches {v w : Value} (h : AlikeBranches v w) :
    CaseField (.text "case") v w :=
  ⟨fun _ => h, fun hkey => absurd (Value.text.inj hkey) (by decide)⟩

theorem CaseField.otherwise {v w : Value} (h : SameButText v w) :
    CaseField (.text "default") v w :=
  ⟨fun hkey => absurd (Value.text.inj hkey) (by decide), fun _ => h⟩

/-- Two CASE expressions that differ at most in the texts of their results. -/
structure AlikeParts (p q : Value × Value) : Prop where
  branches : AlikeBranches p.1 q.1
  otherwise : SameButText p.2 q.2

/-- Alike values of one column: literals that differ at most as texts, or descriptions of
CASE expressions that differ at most in the texts of their results. -/
inductive AlikeAssigned : Value → Value → Prop where
  | literals {v w : Value} (h : SameButText v w) (hv : isDescribed v = false)
      (hw : isDescribed w = false) : AlikeAssigned v w
  | mappings {es es' : List (Value × Value)} (h : SameEntries CaseField es es') :
      AlikeAssigned (.mapping es) (.mapping es')
  | variants {b b' o o' : Value} (h : AlikeParts (b, o) (b', o')) :
      AlikeAssigned (.caseExpr ⟨b, o⟩) (.caseExpr ⟨b', o'⟩)

/-- The ELSE of a CASE expression, empty where it has none. -/
def elseText : Value → Except Fault String
  | .noElse => .ok ""
  | v       => do return " ELSE " ++ (← Literal.text false v)

theorem elseText_eq {v : Value} (h : v ≠ .noElse) :
    elseText v = (Literal.text false v).map (" ELSE " ++ ·) := by
  cases v with
  | noElse => exact absurd rfl h
  | _ => rfl

/-- A CASE expression is its branches and its ELSE. -/
theorem text_eq (c : CaseExpr) :
    c.text = do
      let branches ← (← c.branches.iterate).mapM branchText
      return "CASE " ++ " ".intercalate branches ++ (← elseText c.otherwise) ++ " END" := by
  refine bind_congr fun vs => bind_congr fun branches => ?_
  by_cases ho : c.otherwise = .noElse
  · rw [ho]
    show Except.ok ("CASE " ++ " ".intercalate branches ++ " END")
      = .ok ("CASE " ++ " ".intercalate branches ++ "" ++ " END")
    rw [String.append_empty]
  · rw [elseText_eq ho]
    dsimp only
    split
    case h_1 h => exact absurd h ho
    case h_2 =>
      cases Literal.text false c.otherwise with
      | error e => rfl
      | ok t =>
          show Except.ok ("CASE " ++ " ".intercalate branches ++ " ELSE " ++ t ++ " END")
            = .ok ("CASE " ++ " ".intercalate branches ++ (" ELSE " ++ t) ++ " END")
          simp only [String.append_assoc]

/-- Values that differ at most as texts stand in an ELSE with the same skeleton. -/
theorem elseText_coupled {v w : Value} (h : SameButText v w) :
    unobserved.Outcomes SameSkeleton (elseText v) (elseText w) := by
  have hword : Closed " ELSE " := by decide
  by_cases hv : v = .noElse
  · subst hv
    cases h with
    | same _ => exact .ok (.refl (by decide))
    | collections hv _ => exact nomatch hv
  · have hw : w ≠ .noElse := by
      rintro rfl
      cases h with
      | same _ => exact hv rfl
      | collections _ hw => exact nomatch hw
    rw [elseText_eq hv, elseText_eq hw]
    exact (literal_coupled false h).map fun t u htu => htu.append_left hword

/-- CASE expressions that differ at most in the texts of their results have the same
skeleton. -/
theorem text_coupled {e e' : CaseExpr}
    (h : AlikeParts (e.branches, e.otherwise) (e'.branches, e'.otherwise)) :
    unobserved.Outcomes SameSkeleton e.text e'.text := by
  rw [text_eq, text_eq]
  refine h.branches.iterate.bind fun vs ws hvs => ?_
  refine (Coupling.Outcomes.mapM (fun _ _ h => branchText_coupled h) hvs).bind fun ts us hts => ?_
  refine (elseText_coupled h.otherwise).bind fun t u htu => .ok ?_
  have hbranches := SameSkeleton.intercalate (by decide : Closed " ") hts
  exact ((hbranches.append_left (by decide)).append htu).append_right (by decide)

/-- The parts that alike values hold are alike. -/
theorem partsOf_coupled {es es' : List (Value × Value)} (h : SameEntries CaseField es es') :
    unobserved.Outcomes AlikeParts (partsOf (.mapping es)) (partsOf (.mapping es')) := by
  have hnull : AlikeBranches .null .null := .same fun _ h => nomatch h
  have hcase : CaseField (.text "case") (valueAt "case" es) (valueAt "case" es') :=
    h.getD (.branches hnull)
  have hdefault : CaseField (.text "default") ((valueAt? "default" es).getD .noElse)
      ((valueAt? "default" es').getD .noElse) :=
    h.getD (.otherwise (.refl rfl))
  exact .ok ⟨(hcase.1 rfl).orElse, hdefault.2 rfl⟩

/-- Values that hold alike parts describe alike CASE expressions. -/
theorem ofValue_coupled {v w : Value}
    (h : unobserved.Outcomes AlikeParts (partsOf v) (partsOf w)) :
    unobserved.Outcomes
      (fun e e' => AlikeParts (e.branches, e.otherwise) (e'.branches, e'.otherwise))
      (ofValue v) (ofValue w) := by
  rw [ofValue]
  refine h.bind fun p q hpq => ?_
  obtain ⟨b, o⟩ := p
  obtain ⟨b', o'⟩ := q
  refine hpq.branches.iterate.bind fun vs ws hvs => ?_
  refine Coupling.Outcomes.bind
    (.mapM (fun _ _ h => branchOfValue_coupled h) hvs) fun bs bs' hbs => ?_
  cases hbs with
  | nil => exact .error trivial
  | cons hb hbs => exact .ok ⟨.tuple (.cons hb hbs), hpq.otherwise⟩

/-! ## Assignments -/

/-- A value that describes no CASE expression and is no collection is assigned as a
literal. -/
theorem assignment_of_literal {column v : Value} (h : isDescribed v = false)
    (hv : v.isCollection = false) :
    assignment column v = (Literal.text true v).map (column.display ++ " = " ++ ·) := by
  unfold assignment
  rw [if_neg (Bool.eq_false_iff.mp h)]
  cases v with
  | mapping es => exact nomatch hv
  | _ => rfl

/-- A collection that describes no CASE expression is not assigned. -/
theorem assignment_of_collection {column v : Value} (h : isDescribed v = false)
    (hv : v.isCollection = true) : ∃ e, assignment column v = .error e := by
  unfold assignment
  rw [if_neg (Bool.eq_false_iff.mp h)]
  cases v with
  | list vs => exact ⟨_, rfl⟩
  | tuple vs => exact ⟨_, rfl⟩
  | mapping es => exact ⟨_, rfl⟩
  | _ => exact nomatch hv

/-- A description of a CASE expression is read and then written. -/
theorem assignment_of_described {column v : Value} (h : isDescribed v = true) :
    assignment column v
      = (ofValue v >>= CaseExpr.text).map (column.display ++ " = " ++ ·) := by
  unfold assignment
  rw [if_pos h]
  cases ofValue v with
  | error e => rfl
  | ok e =>
      show (e.text >>= fun t => Except.ok (column.display ++ " = " ++ t)) = e.text.map _
      cases e.text with
      | error e => rfl
      | ok t => rfl

/-- Descriptions that hold alike parts are assigned with the same skeleton. -/
theorem assignment_coupled_of_parts {column v w : Value} (hc : column.ShowsClosed)
    (hv : isDescribed v = true) (hw : isDescribed w = true)
    (h : unobserved.Outcomes AlikeParts (partsOf v) (partsOf w)) :
    unobserved.Outcomes SameSkeleton (assignment column v) (assignment column w) := by
  rw [assignment_of_described hv, assignment_of_described hw]
  refine ((ofValue_coupled h).bind fun e e' => text_coupled).map fun t u htu => ?_
  exact htu.append_left (Closed.append hc (by decide : Closed " = "))

/-- Values that differ at most as texts are assigned with the same skeleton, or neither of
them is assigned. -/
theorem assignment_coupled_of_literals {column v w : Value} (hc : column.ShowsClosed)
    (hv : isDescribed v = false) (hw : isDescribed w = false) (h : SameButText v w) :
    unobserved.Outcomes SameSkeleton (assignment column v) (assignment column w) := by
  cases hcol : v.isCollection with
  | false =>
      have hcol' := h.isCollection_eq.symm.trans hcol
      rw [assignment_of_literal hv hcol, assignment_of_literal hw hcol']
      refine (literal_coupled true h).map fun t u htu => ?_
      exact htu.append_left (Closed.append hc (by decide : Closed " = "))
  | true =>
      obtain ⟨e, he⟩ := assignment_of_collection hv hcol
      obtain ⟨e', he'⟩ :=
        assignment_of_collection hw (h.isCollection_eq.symm.trans hcol)
      rw [he, he']
      exact .error trivial

/-- Alike values are assigned to a column with the same skeleton, or neither of them is
assigned. -/
theorem assignment_coupled {column v w : Value} (hc : column.ShowsClosed)
    (h : AlikeAssigned v w) :
    unobserved.Outcomes SameSkeleton (assignment column v) (assignment column w) := by
  cases h with
  | literals h hv hw => exact assignment_coupled_of_literals hc hv hw h
  | @mappings es es' h =>
      -- the keys decide whether a mapping describes a CASE expression
      have hcase : isDescribed (.mapping es') = isDescribed (.mapping es) :=
        h.isSome_valueAt? "case"
      cases hd : isDescribed (.mapping es) with
      | true =>
          exact assignment_coupled_of_parts hc hd (hcase.trans hd) (partsOf_coupled h)
      | false =>
          exact assignment_coupled_of_literals hc hd (hcase.trans hd) (.collections rfl rfl)
  | variants h => exact assignment_coupled_of_parts hc rfl rfl (.ok h)

end CaseExpr

end SqlText
