import SqlText.Proofs.AlikeCases
import SqlText.Proofs.CaseMarks
import SqlText.Proofs.InputFaults

/-!
# Reading back a CASE expression — conditions, results and ELSE

    CASE WHEN a = 1 THEN "WHEN x END" WHEN b THEN NULL ELSE 0 END

A CASE expression that is assigned is described by a list of branches, none of which is left
out: a list that is empty or holds something else is refused. Every branch is written with its
condition as it is and the literal of its result, and ELSE follows where a default is given that
is not the one that stands for none. Where no condition and no fragment among the results has a
quote or one of the words WHEN, THEN, ELSE and END, the conditions and the literals are read back
by parting the expression at these words, whatever the texts among the results hold.

* **`Describes`**, **`refused_iff`**: which lists describe branches.
* **`Writes`**, **`ElseOf`**, **`assignment_eq`**: what is written.
* **`readCase?_written`**: what is read back.
* **`branches_kept`**: the whole of it.
-/

namespace SqlText

open Fault (OfLiteral)

/-- A value that neither quotes nor has one of the four words where it is an SQL fragment. -/
def Value.FragmentUnparted (v : Value) : Prop :=
  ∀ t, v = .raw t ∨ v = .keyword t → CaseExpr.Unparted t

namespace CaseExpr

/-- The literal of such a value is not parted. -/
theorem isPiece_literal {trim : Bool} {v : Value} {t : String} (hv : v.FragmentUnparted)
    (h : Literal.text trim v = .ok t) : IsPiece t :=
  (LiteralKind.or_fragment h).elim .of_kind fun hfragment => .of_unparted (hv t hfragment)

/-! ## Descriptions of branches -/

/-- A value that describes a branch: the branch itself, or a mapping with a condition that
counts as given. -/
inductive Describes : Value → CaseBranch → Prop where
  | branch (b : CaseBranch) : Describes (.caseBranch b) b
  | mapping {es : List (Value × Value)} (h : (valueAt "when" es).isGiven = true) :
      Describes (.mapping es) ⟨valueAt "when" es, valueAt "then" es⟩

/-- A description of a branch is read as that branch. -/
theorem branchOfValue_of_describes {v : Value} {b : CaseBranch} (h : Describes v b) :
    branchOfValue v = .ok (.caseBranch b) := by
  cases h with
  | branch b => rfl
  | mapping h => rw [branchOfValue, if_pos h]

/-- What is read describes a branch. -/
theorem describes_of_branchOfValue {v w : Value} (h : branchOfValue v = .ok w) :
    ∃ b, Describes v b := by
  unfold branchOfValue at h
  split at h
  case h_1 b => exact ⟨b, .branch b⟩
  case h_2 es =>
    split at h
    · next hg => exact ⟨_, .mapping hg⟩
    · cases h
  case h_3 => cases h

theorem exists_branchOfValue_iff (v : Value) :
    (∃ w, branchOfValue v = .ok w) ↔ ∃ b, Describes v b :=
  ⟨fun ⟨_, hw⟩ => describes_of_branchOfValue hw, fun ⟨_, hb⟩ => ⟨_, branchOfValue_of_describes hb⟩⟩

/-- Whatever describes no branch is refused as such. -/
theorem faultsIn_branchOfValue (v : Value) :
    FaultsIn (fun e => ∃ w, e = .build (.specification (.caseBranch w))) (branchOfValue v) := by
  unfold branchOfValue
  split
  · trivial
  · split
    · trivial
    · exact ⟨_, rfl⟩
  · exact ⟨_, rfl⟩

/-! ## What is refused -/

variable {es : List (Value × Value)} {vs : List Value}

/-- The value of ELSE, or the one that stands for none. -/
def otherwiseOf (es : List (Value × Value)) : Value := (valueAt? "default" es).getD .noElse

/-- A list of branches is read one after the other, and there has to be one. -/
theorem ofValue_mapping (h : valueAt? "case" es = some (.list vs)) :
    ofValue (.mapping es) = vs.mapM branchOfValue >>= fun bs =>
      if bs.isEmpty then .error (.build (.specification .caseEmpty))
      else .ok ⟨.tuple bs, otherwiseOf es⟩ := by
  -- an empty list does not count as given, and an empty tuple takes its place
  have hbranches : ((valueAt "case" es).orElse (.tuple [])).iterate = .ok vs := by
    rw [valueAt, h]
    cases vs <;> rfl
  show ((valueAt "case" es).orElse (.tuple [])).iterate >>= _ = _
  rw [hbranches, ok_bind]
  refine bind_congr fun bs => ?_
  split <;> rfl

theorem isDescribed_of_case (h : valueAt? "case" es = some (.list vs)) :
    isDescribed (.mapping es) = true := by
  rw [isDescribed, h]
  rfl

/-- Branches that were read are refused for the literals of their results alone. -/
theorem faultsIn_text_of_read {bs : List Value} (h : vs.mapM branchOfValue = .ok bs)
    (otherwise : Value) : FaultsIn OfLiteral (text ⟨.tuple bs, otherwise⟩) := by
  refine faultsIn_text rfl fun b hb => ?_
  obtain ⟨v, -, hv⟩ := exists_mem_left_of_forall₂ ((mapM_eq_ok_iff vs bs).mp h) b hb
  have hread := ends_branchOfValue v
  rw [hv] at hread
  exact hread

/-- A list is refused as one of branches where it is empty or holds something else. -/
theorem refused_iff (column : Value) (h : valueAt? "case" es = some (.list vs)) :
    (∃ cause, assignment column (.mapping es) = .error (.build (.specification cause))) ↔
      vs = [] ∨ ∃ v ∈ vs, ¬ ∃ b, Describes v b := by
  rw [assignment_of_described (isDescribed_of_case h), ofValue_mapping h]
  by_cases hall : ∀ v ∈ vs, ∃ b, Describes v b
  · obtain ⟨bs, hbs⟩ := exists_mapM_iff.mpr fun v hv =>
      (exists_branchOfValue_iff v).mpr (hall v hv)
    have hpairs := (mapM_eq_ok_iff vs bs).mp hbs
    rw [hbs, ok_bind]
    cases hpairs with
    | nil => exact ⟨fun _ => .inl rfl, fun _ => ⟨.caseEmpty, rfl⟩⟩
    | @cons v b vs bs _ _ =>
        -- all values are branches, so that only a literal can be refused
        constructor
        · rintro ⟨cause, hcause⟩
          have hfault := ((faultsIn_text_of_read hbs (otherwiseOf es)).map _).of_error hcause
          exact nomatch hfault
        · rintro (hnil | ⟨v, hv, hnone⟩)
          · exact nomatch hnil
          · exact absurd (hall v hv) hnone
  · have hread : ¬ ∃ bs, vs.mapM branchOfValue = .ok bs := by
      rw [exists_mapM_iff]
      exact fun hread => hall fun v hv => (exists_branchOfValue_iff v).mp (hread v hv)
    cases hbs : vs.mapM branchOfValue with
    | ok bs => exact absurd ⟨bs, hbs⟩ hread
    | error e =>
        obtain ⟨w, rfl⟩ := (FaultsIn.mapM faultsIn_branchOfValue vs).of_error hbs
        refine ⟨fun _ => .inr ?_, fun _ => ⟨.caseBranch w, rfl⟩⟩
        simpa only [not_forall, exists_prop] using hall

/-! ## What is written -/

/-- What the value of a branch is written from: the condition as it is, and the literal of the
result, whose blanks are kept. -/
def Writes (v : Value) (p : String × String) : Prop :=
  ∃ b, Describes v b ∧ p.1 = b.condition.display ∧ Literal.text false b.result = .ok p.2

/-- What ELSE is written from: nothing, where there is no default or the one that stands for
none, and the literal of any other default. -/
inductive ElseOf (es : List (Value × Value)) : Option String → Prop where
  | absent (h : valueAt? "default" es = none) : ElseOf es none
  | noElse (h : valueAt? "default" es = some .noElse) : ElseOf es none
  | value {v : Value} {t : String} (h : valueAt? "default" es = some v) (hv : v ≠ .noElse)
      (ht : Literal.text false v = .ok t) : ElseOf es (some t)

/-- A branch as it is written. -/
def writtenBranch (p : String × String) : String := "WHEN " ++ p.1 ++ " THEN " ++ p.2

/-- ELSE as it is written. -/
def writtenElse : Option String → String
  | none   => ""
  | some t => " ELSE " ++ t

/-- A CASE expression of these conditions and literals. -/
def written (ps : List (String × String)) (otherwise : Option String) : String :=
  "CASE " ++ " ".intercalate (ps.map writtenBranch) ++ writtenElse otherwise ++ " END"

/-- Branches that can be written are read, and then written. -/
theorem exists_read_of_writes {ps : List (String × String)} (h : List.Forall₂ Writes vs ps) :
    ∃ bs, vs.mapM branchOfValue = .ok bs ∧ bs.mapM branchText = .ok (ps.map writtenBranch) := by
  induction h with
  | nil => exact ⟨[], rfl, rfl⟩
  | @cons v p vs ps hv _ ih =>
      obtain ⟨b, hb, hcondition, hresult⟩ := hv
      obtain ⟨bs, hread, hwritten⟩ := ih
      refine ⟨.caseBranch b :: bs, ?_, ?_⟩
      · rw [List.mapM_cons, branchOfValue_of_describes hb, ok_bind, hread]
        rfl
      · rw [List.mapM_cons, branchText, hresult, hwritten, List.map_cons, writtenBranch,
          hcondition]
        rfl

theorem elseText_of_elseOf {otherwise : Option String} (h : ElseOf es otherwise) :
    elseText (otherwiseOf es) = .ok (writtenElse otherwise) := by
  cases h with
  | absent h => rw [otherwiseOf, h]; rfl
  | noElse h => rw [otherwiseOf, h]; rfl
  | @value v t h hv ht =>
      rw [otherwiseOf, h]
      show elseText v = _
      rw [elseText_eq hv, ht]
      rfl

/-- Branches that can be written, with their ELSE, are assigned as they are written. -/
theorem assignment_eq (column : Value) (h : valueAt? "case" es = some (.list vs)) (hne : vs ≠ [])
    {ps : List (String × String)} (hps : List.Forall₂ Writes vs ps) {otherwise : Option String}
    (helse : ElseOf es otherwise) :
    assignment column (.mapping es) =
      .ok (column.display ++ " = " ++ written ps otherwise) := by
  obtain ⟨bs, hread, hwritten⟩ := exists_read_of_writes hps
  have hbs : bs.isEmpty = false := by
    cases (mapM_eq_ok_iff vs bs).mp hread with
    | nil => exact absurd rfl hne
    | cons _ _ => rfl
  have htext : text ⟨.tuple bs, otherwiseOf es⟩ = .ok (written ps otherwise) := by
    rw [text_eq]
    show (bs.mapM branchText >>= _) = _
    rw [hwritten, ok_bind, elseText_of_elseOf helse]
    rfl
  rw [assignment_of_described (isDescribed_of_case h), ofValue_mapping h, hread, ok_bind, hbs,
    if_neg Bool.false_ne_true, ok_bind, htext]
  rfl

/-! ## Reading back -/

/-- The conditions and the results of branches, and ELSE if it follows, as the parts of a CASE
expression; nothing follows END. -/
def branchesOfParts? : List (Mark × List Token) → Option (List (String × String) × Option String)
  | (.condition, w) :: (.result, r) :: ps =>
    (branchesOfParts? ps).map fun c => ((inner w, inner r) :: c.1, c.2)
  | [(.otherwise, e), (.close, [])] => some ([], some (inner e))
  | [(.close, [])] => some ([], none)
  | _ => none

/-- The conditions and the results of a CASE expression, and its ELSE if it has one. -/
def readCase? (t : String) : Option (List (String × String) × Option String) :=
  if (parted t).1 = [.word "CASE".toList, .char ' '] then branchesOfParts? (parted t).2 else none

/-- What follows the branches, piece by piece. -/
def rowEnd : Option String → String
  | none   => "END"
  | some t => Mark.otherwise.word ++ " " ++ t ++ " " ++ "END"

/-- What follows CASE, piece by piece. -/
def row (otherwise : Option String) : List (String × String) → String
  | []      => rowEnd otherwise
  | p :: ps =>
    Mark.condition.word ++ " " ++ p.1 ++ " " ++
      (Mark.result.word ++ " " ++ p.2 ++ " " ++ row otherwise ps)

theorem row_eq (otherwise : Option String) :
    ∀ {ps : List (String × String)}, ps ≠ [] →
      " ".intercalate (ps.map writtenBranch) ++ writtenElse otherwise ++ " END" =
        row otherwise ps := by
  have hwhen : "WHEN " = Mark.condition.word ++ " " := by decide
  have hthen : " THEN " = " " ++ (Mark.result.word ++ " ") := by decide
  have helse : " ELSE " = " " ++ (Mark.otherwise.word ++ " ") := by decide
  have hend : " END" = " " ++ "END" := by decide
  intro ps
  induction ps with
  | nil => exact fun hne => absurd rfl hne
  | cons p ps ih =>
      intro _
      cases ps with
      | nil =>
          rw [List.map_singleton, String.intercalate_singleton, row, row, writtenBranch, hwhen,
            hthen, hend]
          cases otherwise with
          | none => simp only [writtenElse, rowEnd, String.append_empty, String.append_assoc]
          | some t => simp only [writtenElse, rowEnd, helse, String.append_assoc]
      | cons p' ps =>
          rw [row, ← ih (List.cons_ne_nil p' ps), List.map_cons, List.map_cons,
            String.intercalate_cons_cons, writtenBranch, hwhen, hthen]
          simp only [String.append_assoc]

/-- A row of pieces that are not parted is read back piece by piece. -/
theorem branchesOfParts?_row {otherwise : Option String}
    (helse : ∀ t, otherwise = some t → IsPiece t) :
    ∀ {ps : List (String × String)}, (∀ p ∈ ps, IsPiece p.1 ∧ IsPiece p.2) →
      (parted (row otherwise ps)).1 = [] ∧
        branchesOfParts? (parted (row otherwise ps)).2 = some (ps, otherwise) := by
  have hend : parted "END" = ([], [(.close, [])]) := by decide
  intro ps
  -- every row begins with one of the four words, so that no piece before it takes anything of it
  induction ps with
  | nil =>
      intro _
      rw [row]
      cases otherwise with
      | none =>
          rw [rowEnd, hend]
          exact ⟨rfl, rfl⟩
      | some t =>
          have hfirst : (parted "END").1 = [] := by rw [hend]
          rw [rowEnd, parted_mark .otherwise (helse t rfl) hfirst, hend]
          refine ⟨rfl, ?_⟩
          rw [branchesOfParts?, inner_between]
  | cons p ps ih =>
      intro h
      obtain ⟨⟨hcondition, hresult⟩, hps⟩ := List.forall_mem_cons.mp h
      obtain ⟨hfirst, hread⟩ := ih hps
      have hthen := parted_mark .result hresult hfirst
      have hbehind :
          (parted (Mark.result.word ++ " " ++ p.2 ++ " " ++ row otherwise ps)).1 = [] := by
        rw [hthen]
      rw [row, parted_mark .condition hcondition hbehind, hthen]
      refine ⟨rfl, ?_⟩
      rw [branchesOfParts?, hread, Option.map_some, inner_between, inner_between]

/-- Conditions and literals that are not parted are read back from the CASE expression of
them. -/
theorem readCase?_written {ps : List (String × String)} {otherwise : Option String}
    (hne : ps ≠ []) (hps : ∀ p ∈ ps, IsPiece p.1 ∧ IsPiece p.2)
    (helse : ∀ t, otherwise = some t → IsPiece t) :
    readCase? (written ps otherwise) = some (ps, otherwise) := by
  obtain ⟨hfirst, hread⟩ := branchesOfParts?_row helse hps
  have htext : written ps otherwise = "CASE" ++ " " ++ row otherwise ps := by
    rw [← row_eq otherwise hne, written]
    simp only [String.append_assoc]
    rfl
  have hword : tokens .outside "CASE".toList = [.word "CASE".toList] := by decide
  have hcase := parted_append_blank (.of_unparted (by decide : Unparted "CASE")) (row otherwise ps)
  rw [← htext, hword, hfirst] at hcase
  rw [readCase?, hcase]
  exact (if_pos rfl).trans hread

/-! ## The whole of it -/

/-- No branch of a CASE expression is lost, and none can be taken for another. A list that is
empty or holds something else than branches is refused, and no other list is. Branches whose
results have literals are written in their order, with ELSE where a default asks for it; texts
are quoted with their blanks, and a default of null is the keyword. Where no condition and no
fragment has a quote or one of the four words, all of it is read back from the expression. -/
theorem branches_kept (column : Value) {es : List (Value × Value)} {vs : List Value}
    (h : valueAt? "case" es = some (.list vs)) :
    ((∃ cause, assignment column (.mapping es) = .error (.build (.specification cause))) ↔
        vs = [] ∨ ∃ v ∈ vs, ¬ ∃ b, Describes v b) ∧
      (∀ ps otherwise, vs ≠ [] → List.Forall₂ Writes vs ps → ElseOf es otherwise →
        assignment column (.mapping es) =
            .ok (column.display ++ " = " ++ written ps otherwise) ∧
          ((∀ v ∈ vs, ∀ b, Describes v b →
              Unparted b.condition.display ∧ b.result.FragmentUnparted) →
            (∀ v, valueAt? "default" es = some v → v.FragmentUnparted) →
              readCase? (written ps otherwise) = some (ps, otherwise))) ∧
      (∀ s, Literal.text false (.text s) = .ok (Text.jsonString s)) ∧
      Literal.text false .null = .ok "NULL" := by
  refine ⟨refused_iff column h, ?_, fun s => rfl, rfl⟩
  intro ps otherwise hne hps helse
  refine ⟨assignment_eq column h hne hps helse, fun hbranches hdefault => ?_⟩
  refine readCase?_written ?_ ?_ ?_
  · rintro rfl
    cases hps
    exact hne rfl
  · intro p hp
    obtain ⟨v, hv, b, hb, hcondition, hresult⟩ := exists_mem_left_of_forall₂ hps p hp
    obtain ⟨hplain, hfragment⟩ := hbranches v hv b hb
    rw [hcondition]
    exact ⟨.of_unparted hplain, isPiece_literal hfragment hresult⟩
  · rintro t rfl
    cases helse with
    | value hv _ ht => exact isPiece_literal (hdefault _ hv) ht

/-- Two branches: the words stand in the text of one result and within the column of the other
condition. -/
def badgeBranches : List Value :=
  [.mapping [(.text "when", .text "points > 9"), (.text "then", .text " WHEN \"END\" ")],
    .caseBranch ⟨.text "LEGEND = 1", .int (-1)⟩]

/-- A CASE expression of these branches whose ELSE is null. -/
def badge : List (Value × Value) := [(.text "case", .list badgeBranches), (.text "default", .null)]

/-- The conditions and literals of `badge`. -/
def badgePairs : List (String × String) :=
  [("points > 9", "\" WHEN \\\"END\\\" \""), ("LEGEND = 1", "-1")]

/-- The branches of `badge` are written and read back, with their ELSE. -/
theorem branches_kept_badge :
    assignment (.text "badge") (.mapping badge) =
        .ok ("badge = CASE WHEN points > 9 THEN \" WHEN \\\"END\\\" \" " ++
          "WHEN LEGEND = 1 THEN -1 ELSE NULL END") ∧
      readCase? (written badgePairs (some "NULL")) = some (badgePairs, some "NULL") := by
  have hwrites : List.Forall₂ Writes badgeBranches badgePairs :=
    .cons ⟨_, .mapping (by decide), rfl, eq_ok_of_toOption (by decide +kernel)⟩
      (.cons ⟨_, .branch _, rfl, eq_ok_of_toOption (by decide +kernel)⟩ .nil)
  have hcase : valueAt? "case" badge = some (.list badgeBranches) := rfl
  obtain ⟨-, hkept, -⟩ := branches_kept (.text "badge") hcase
  obtain ⟨htext, hread⟩ := hkept badgePairs (some "NULL") (List.cons_ne_nil _ _) hwrites
    (.value rfl (by nofun) rfl)
  refine ⟨htext.trans (congrArg Except.ok (by decide +kernel)), hread ?_ ?_⟩
  · intro v hv b hb
    rcases List.mem_cons.mp hv with rfl | hv
    · cases hb
      exact ⟨by decide +kernel, by rintro t (ht | ht) <;> exact nomatch ht⟩
    · rw [List.mem_singleton.mp hv] at hb
      cases hb
      exact ⟨by decide +kernel, by rintro t (ht | ht) <;> exact nomatch ht⟩
  · intro v hv t ht
    rw [← Option.some.inj hv] at ht
    rcases ht with ht | ht <;> exact nomatch ht

end CaseExpr

end SqlText
