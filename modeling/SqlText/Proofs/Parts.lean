import SqlText.Proofs.Coercions
import SqlText.Proofs.MappingEntries

/-!
# Parts of statements — what a description may leave out and a mapping may not

    p.Accepted p.mapping   ↔   p.Accepted p.description ∧ p.Complete

A part can be given as a description or as a mapping with the same contents. A mapping is
accepted where its contents are complete: a query that is not empty, both cases of a recursive
relation, one call at least, a condition. A description is accepted whatever it holds. So the
two ways to give a part agree where it is complete, and there alone; of complete parts they
make the same text.

* **`Part`**: the contents of a subquery, a recursive relation, an aggregate or a branch.
* **`SubQuery.ofValue_named`** and its kin: what a mapping is read as.
* **`Part.accepted_iff`**: what is accepted in either way.
-/

namespace SqlText

/-! ## Contents -/

/-- A CASE expression with one of its branches left open, given as a description or as a
mapping. -/
structure CaseFrame where
  described : Bool := false
  before : List Value := []
  after : List Value := []
  otherwise : Value := .noElse

/-- The CASE expression with a branch in the open place. -/
def CaseFrame.fill (f : CaseFrame) (branch : Value) : Value :=
  if f.described then .caseExpr ⟨.tuple (f.before ++ branch :: f.after), f.otherwise⟩
  else .mapping (named [("case", .list (f.before ++ branch :: f.after)), ("default", f.otherwise)])

/-- A part of a statement by its contents. A branch stands in a CASE expression; the functions
of an aggregate are distinct and none of them is the key of the alias. -/
inductive Part where
  | subQuery (query : String) (label : Option String)
  | recursiveCte (baseCase recursiveCase : String) (label : Option String)
  | aggregate (calls : List (String × String)) (label : Option String)
      (distinct : (calls.map Prod.fst).Nodup) (unreserved : ∀ call ∈ calls, call.1 ≠ "alias")
  | branch (condition : String) (result : Value) (frame : CaseFrame)

namespace Part

/-- An alias as a value. -/
def labelValue (label : Option String) : Value := label.elim .null .text

/-- The shape that a part is read in. -/
def shape : Part → Shape
  | subQuery ..     => .subQuery
  | recursiveCte .. => .recursiveCte
  | aggregate ..    => .aggregate
  | branch ..       => .caseExpr

/-- The part as a description. -/
def description : Part → Value
  | subQuery query label => .subQuery ⟨.text query, labelValue label⟩
  | recursiveCte baseCase recursiveCase label =>
    .recursiveCte ⟨.text baseCase, .text recursiveCase, labelValue label⟩
  | aggregate calls label _ _ =>
    .aggregate ⟨.tuple (calls.map fun call => .tuple [.text call.1, .text call.2]),
      labelValue label⟩
  | branch condition result frame => frame.fill (.caseBranch ⟨.text condition, result⟩)

/-- The part as a mapping with the same contents. -/
def mapping : Part → Value
  | subQuery query label => .mapping (named [("query", .text query), ("as", labelValue label)])
  | recursiveCte baseCase recursiveCase label =>
    .mapping (named [("base_case", .text baseCase), ("recursive_case", .text recursiveCase),
      ("alias", labelValue label)])
  | aggregate calls label _ _ =>
    .mapping (named ((calls.map fun call => (call.1, .text call.2)) ++
      [("alias", labelValue label)]))
  | branch condition result frame =>
    frame.fill (.mapping (named [("when", .text condition), ("then", result)]))

/-- Contents that leave nothing out. -/
def Complete : Part → Prop
  | subQuery query _ => query ≠ ""
  | recursiveCte baseCase recursiveCase _ => baseCase ≠ "" ∧ recursiveCase ≠ ""
  | aggregate calls _ _ _ => calls ≠ []
  | branch condition _ _ => condition ≠ ""

instance : (p : Part) → Decidable p.Complete
  | subQuery query _ => inferInstanceAs (Decidable (query ≠ ""))
  | recursiveCte baseCase recursiveCase _ =>
    inferInstanceAs (Decidable (baseCase ≠ "" ∧ recursiveCase ≠ ""))
  | aggregate calls _ _ _ => inferInstanceAs (Decidable (calls ≠ []))
  | branch condition _ _ => inferInstanceAs (Decidable (condition ≠ ""))

/-- The other branches of the CASE expression around a branch can be read. -/
def OthersRead : Part → Prop
  | branch _ _ frame => ∀ v ∈ frame.before ++ frame.after, ∃ b, CaseExpr.branchOfValue v = .ok b
  | _ => True

/-- A value is accepted where the part could be. -/
def Accepted (p : Part) (v : Value) : Prop := ∃ w, p.shape.coerce v = .ok w

/-- The text of a value in the place of the part. -/
def rendered : Part → Value → Except Fault String
  | subQuery .., v     => (SubQuery.ofValue v).map SubQuery.text
  | recursiveCte .., v => (RecursiveCte.ofValue v).map RecursiveCte.segment
  | aggregate .., v    => Aggregate.itemText v
  | branch .., v       => CaseExpr.ofValue v >>= CaseExpr.text

end Part

/-! ## Mappings that are read -/

/-- An alias that does not count as given may as well be null. -/
theorem Value.isGiven_orElse_null (v : Value) : (v.orElse .null).isGiven = v.isGiven := by
  rw [orElse]
  cases h : v.isGiven with
  | true => exact h
  | false => rfl

theorem Value.orElse_null_orElse (v other : Value) :
    (v.orElse .null).orElse other = v.orElse other := by
  rw [orElse, isGiven_orElse_null, orElse, orElse]
  cases v.isGiven <;> rfl

namespace SubQuery

/-- A mapping describes a subquery where its query is not empty. -/
theorem ofValue_named (query : String) (label : Value) :
    ofValue (.mapping (named [("query", .text query), ("as", label)])) =
      if query ≠ "" then .ok ⟨.text query, label.orElse .null⟩
      else .error (.build (.specification .subQueryEmpty)) := by
  show (if (Value.text query).isGiven = true then _ else _) = _
  simp only [Value.isGiven_text]
  rfl

theorem text_orElse_null (query label : Value) :
    text ⟨query, label.orElse .null⟩ = text ⟨query, label⟩ := by
  rw [text, text, Value.isGiven_orElse_null]
  cases h : label.isGiven with
  | true => rw [Value.orElse, if_pos h]
  | false => rfl

end SubQuery

namespace RecursiveCte

/-- The first spelling of a key decides where the second one is not there. -/
theorem firstGiven_named {fields : List (String × Value)} {key other text : String}
    (hkey : fields.lookup key = some (.text text)) (hother : fields.lookup other = none) :
    firstGiven (named fields) [key, other] = if text = "" then .null else .text text := by
  simp only [firstGiven, valueAt, valueAt?_named, hkey, hother, Option.getD_some,
    Option.getD_none, Value.isGiven_text]
  by_cases h : text = "" <;> simp [h]

/-- A mapping describes a recursive relation where neither case is empty. -/
theorem ofValue_named (baseCase recursiveCase : String) (label : Value) :
    ofValue (.mapping (named [("base_case", .text baseCase),
        ("recursive_case", .text recursiveCase), ("alias", label)])) =
      if baseCase ≠ "" ∧ recursiveCase ≠ "" then
        .ok ⟨.text baseCase, .text recursiveCase, label.orElse .null⟩
      else .error (.build (.specification .recursiveCteIncomplete)) := by
  have hgiven : ∀ text : String, (if text = "" then Value.null else .text text).isGiven =
      decide (text ≠ "") := by
    intro text
    by_cases h : text = "" <;> simp [h, Value.isGiven]
  rw [ofValue, firstGiven_named rfl rfl, firstGiven_named rfl rfl, hgiven, hgiven,
    ← Bool.decide_and]
  by_cases h : baseCase ≠ "" ∧ recursiveCase ≠ ""
  · rw [if_pos h, if_pos (decide_eq_true h), if_neg h.1, if_neg h.2]
    rfl
  · rw [if_neg h, if_neg (by simpa using h)]

theorem segment_orElse_null (baseCase recursiveCase label : Value) :
    segment ⟨baseCase, recursiveCase, label.orElse .null⟩ =
      segment ⟨baseCase, recursiveCase, label⟩ := by
  have hlabel := Value.orElse_null_orElse label (.text "")
  show "WITH RECURSIVE " ++ ((label.orElse .null).orElse (.text "")).display ++ " AS (" ++
    baseCase.display ++ " UNION ALL " ++ recursiveCase.display ++ ") " = _
  rw [hlabel]
  rfl

end RecursiveCte

namespace Aggregate

/-- A mapping describes an aggregate where it has one call at least. -/
theorem ofValue_named {calls : List (String × String)}
    (h : ∀ call ∈ calls, call.1 ≠ "alias") (label : Value) :
    ofValue (.mapping (named ((calls.map fun call => (call.1, .text call.2)) ++
        [("alias", label)]))) =
      if calls ≠ [] then
        .ok ⟨.tuple (calls.map fun call => .tuple [.text call.1, .text call.2]),
          label.orElse .null⟩
      else .error (.build (.specification .aggregateEmpty)) := by
  have hfunctions : (named ((calls.map fun call => (call.1, Value.text call.2)) ++
      [("alias", label)])).filter (fun e => !e.1.isText "alias") =
      named (calls.map fun call => (call.1, .text call.2)) := by
    rw [named, List.map_append, List.filter_append, List.filter_eq_self.mpr]
    · exact List.append_nil _
    · intro e he
      obtain ⟨_, hf, rfl⟩ := List.mem_map.mp he
      obtain ⟨call, hcall, rfl⟩ := List.mem_map.mp hf
      simpa [Value.isText] using h call hcall
  have hlabel : valueAt "alias" (named ((calls.map fun call => (call.1, Value.text call.2)) ++
      [("alias", label)])) = label := by
    have hnone : (calls.map fun call => (call.1, Value.text call.2)).lookup "alias" = none := by
      rw [List.lookup_eq_none_iff]
      intro f hf
      obtain ⟨call, hcall, rfl⟩ := List.mem_map.mp hf
      simpa using (h call hcall).symm
    rw [valueAt, valueAt?_named, List.lookup_append, hnone]
    rfl
  simp only [ofValue, hfunctions, hlabel]
  cases calls with
  | nil => rfl
  | cons call calls => simp [named, Value.display]

theorem text_orElse_null (functions label : Value) :
    text ⟨functions, label.orElse .null⟩ = text ⟨functions, label⟩ := by
  rw [text, text, Value.isGiven_orElse_null]
  cases h : label.isGiven with
  | true => rw [Value.orElse, if_pos h]
  | false => rfl

end Aggregate

namespace CaseExpr

/-- A mapping describes a branch where its condition is not empty. -/
theorem branchOfValue_named (condition : String) (result : Value) :
    branchOfValue (.mapping (named [("when", .text condition), ("then", result)])) =
      if condition ≠ "" then .ok (.caseBranch ⟨.text condition, result⟩)
      else refuseBranch (.mapping (named [("when", .text condition), ("then", result)])) := by
  show (if (Value.text condition).isGiven = true then _ else _) = _
  simp only [Value.isGiven_text]
  rfl

/-- A CASE expression holds its branches as they are read. -/
theorem ofValue_fill (f : CaseFrame) (branch : Value) :
    ofValue (f.fill branch) =
      ((f.before ++ branch :: f.after).mapM branchOfValue).map fun bs =>
        ⟨.tuple bs, f.otherwise⟩ := by
  have hgiven : (Value.list (f.before ++ branch :: f.after)).isGiven = true := by
    simp [Value.isGiven]
  have hread : ofValue (f.fill branch) =
      ((f.before ++ branch :: f.after).mapM branchOfValue >>= fun bs =>
        if bs.isEmpty then .error (.build (.specification .caseEmpty))
        else .ok ⟨.tuple bs, f.otherwise⟩) := by
    rw [CaseFrame.fill]
    split
    · rfl
    · have hparts : partsOf (.mapping (named [("case", .list (f.before ++ branch :: f.after)),
          ("default", f.otherwise)])) =
          .ok (.list (f.before ++ branch :: f.after), f.otherwise) := by
        show Except.ok ((Value.list (f.before ++ branch :: f.after)).orElse _, _) = _
        rw [Value.orElse, if_pos hgiven]
        rfl
      rw [ofValue, hparts]
      rfl
  rw [hread]
  cases hbranches : (f.before ++ branch :: f.after).mapM branchOfValue with
  | error e => rfl
  | ok bs =>
      have hlength := ((mapM_eq_ok_iff _ bs).mp hbranches).length_eq
      cases bs with
      | nil => simp at hlength
      | cons b bs => rfl

/-- A CASE expression can be read where all its branches can. -/
theorem exists_ofValue_fill (f : CaseFrame) (branch : Value) :
    (∃ e, ofValue (f.fill branch) = .ok e) ↔
      (∀ v ∈ f.before ++ f.after, ∃ b, branchOfValue v = .ok b) ∧
        ∃ b, branchOfValue branch = .ok b := by
  have hbranches : (∃ e, ofValue (f.fill branch) = .ok e) ↔
      ∀ v ∈ f.before ++ branch :: f.after, ∃ b, branchOfValue v = .ok b := by
    simp only [ofValue_fill, map_eq_ok_iff, ← exists_mapM_iff]
    constructor
    · rintro ⟨_, bs, hbs, -⟩
      exact ⟨bs, hbs⟩
    · rintro ⟨bs, hbs⟩
      exact ⟨_, bs, hbs, rfl⟩
  rw [hbranches]
  simp only [List.mem_append, List.mem_cons, or_imp, forall_and, forall_eq]
  exact ⟨fun ⟨hbefore, hbranch, hafter⟩ => ⟨⟨hbefore, hafter⟩, hbranch⟩,
    fun ⟨⟨hbefore, hafter⟩, hbranch⟩ => ⟨hbefore, hbranch, hafter⟩⟩

end CaseExpr

/-! ## Descriptions and mappings -/

namespace Part

/-- What stands behind a check is there where the check is passed. -/
theorem exists_map_ite_iff {α : Type} {P : Prop} [Decidable P] {a : α} {e : Fault}
    {f : α → Value} : (∃ w, (if P then Except.ok a else .error e).map f = .ok w) ↔ P := by
  by_cases h : P
  · rw [if_pos h]
    exact ⟨fun _ => h, fun _ => ⟨_, rfl⟩⟩
  · rw [if_neg h]
    exact ⟨fun ⟨_, hw⟩ => (nomatch hw), fun hP => absurd hP h⟩

/-- A branch is accepted where it can be read and so can the others around it. -/
theorem accepted_fill_iff (condition : String) (result : Value) (frame : CaseFrame)
    (v : Value) : (branch condition result frame).Accepted (frame.fill v) ↔
      (branch condition result frame).OthersRead ∧ ∃ b, CaseExpr.branchOfValue v = .ok b := by
  show (∃ w, (CaseExpr.ofValue (frame.fill v)).map Value.caseExpr = .ok w) ↔ _
  simp only [map_eq_ok_iff]
  rw [OthersRead, ← CaseExpr.exists_ofValue_fill]
  exact ⟨fun ⟨_, e, he, _⟩ => ⟨e, he⟩, fun ⟨e, he⟩ => ⟨_, e, he, rfl⟩⟩

/-- A description is accepted whatever it holds, unless another branch beside it is refused. -/
theorem accepted_description_iff (p : Part) : p.Accepted p.description ↔ p.OthersRead := by
  cases p with
  | branch condition result frame =>
      rw [description, accepted_fill_iff]
      exact ⟨And.left, fun h => ⟨h, _, rfl⟩⟩
  | _ => exact ⟨fun _ => trivial, fun _ => ⟨_, rfl⟩⟩

/-- A mapping is accepted where its contents are complete as well. -/
theorem accepted_mapping_iff (p : Part) :
    p.Accepted p.mapping ↔ p.OthersRead ∧ p.Complete := by
  cases p with
  | subQuery query label =>
      show (∃ w, (SubQuery.ofValue (.mapping (named _))).map Value.subQuery = .ok w) ↔ _
      rw [SubQuery.ofValue_named, exists_map_ite_iff]
      exact (iff_of_eq (true_and _)).symm
  | recursiveCte baseCase recursiveCase label =>
      show (∃ w, (RecursiveCte.ofValue (.mapping (named _))).map Value.recursiveCte = .ok w) ↔ _
      rw [RecursiveCte.ofValue_named, exists_map_ite_iff]
      exact (iff_of_eq (true_and _)).symm
  | aggregate calls label distinct unreserved =>
      show (∃ w, (Aggregate.ofValue (.mapping (named _))).map Value.aggregate = .ok w) ↔ _
      rw [Aggregate.ofValue_named unreserved, exists_map_ite_iff]
      exact (iff_of_eq (true_and _)).symm
  | branch condition result frame =>
      rw [mapping, accepted_fill_iff, CaseExpr.branchOfValue_named]
      refine and_congr_right fun _ => ?_
      show _ ↔ condition ≠ ""
      split
      · exact ⟨fun _ => ‹_›, fun _ => ⟨_, rfl⟩⟩
      · exact ⟨fun ⟨_, hb⟩ => (nomatch hb), fun h => absurd h ‹_›⟩

/-- Of complete contents, the description and the mapping make the same text. -/
theorem rendered_mapping (p : Part) (h : p.Complete) :
    p.rendered p.mapping = p.rendered p.description := by
  cases p with
  | subQuery query label =>
      have hquery : query ≠ "" := h
      show (SubQuery.ofValue (.mapping (named _))).map _ = .ok (SubQuery.text _)
      rw [SubQuery.ofValue_named, if_pos hquery]
      exact congrArg Except.ok (SubQuery.text_orElse_null _ _)
  | recursiveCte baseCase recursiveCase label =>
      have hcases : baseCase ≠ "" ∧ recursiveCase ≠ "" := h
      show (RecursiveCte.ofValue (.mapping (named _))).map _ = .ok (RecursiveCte.segment _)
      rw [RecursiveCte.ofValue_named, if_pos hcases]
      exact congrArg Except.ok (RecursiveCte.segment_orElse_null _ _ _)
  | aggregate calls label distinct unreserved =>
      have hcalls : calls ≠ [] := h
      show Aggregate.ofValue (.mapping (named _)) >>= Aggregate.text = Aggregate.text _
      rw [Aggregate.ofValue_named unreserved, if_pos hcalls]
      exact Aggregate.text_orElse_null _ _
  | branch condition result frame =>
      have hcondition : condition ≠ "" := h
      show CaseExpr.ofValue (frame.fill _) >>= _ = CaseExpr.ofValue (frame.fill _) >>= _
      rw [CaseExpr.ofValue_fill, CaseExpr.ofValue_fill, List.mapM_append, List.mapM_append,
        List.mapM_cons, List.mapM_cons, CaseExpr.branchOfValue_named, if_pos hcondition]
      rfl

/-- A description is accepted whatever it holds, and a mapping with the same contents where
these are complete. So they agree exactly where nothing is left out or another branch is
refused, and of complete contents they make the same text. -/
theorem accepted_iff (p : Part) :
    (p.Accepted p.description ↔ p.OthersRead) ∧
      (p.Accepted p.mapping ↔ p.OthersRead ∧ p.Complete) ∧
      ((p.Accepted p.description ↔ p.Accepted p.mapping) ↔ (p.OthersRead → p.Complete)) ∧
      (p.Complete → p.rendered p.mapping = p.rendered p.description) := by
  refine ⟨p.accepted_description_iff, p.accepted_mapping_iff, ?_, p.rendered_mapping⟩
  rw [accepted_description_iff, accepted_mapping_iff]
  constructor
  · intro h hothers
    exact (h.mp hothers).2
  · intro h
    exact ⟨fun hothers => ⟨hothers, h hothers⟩, And.left⟩

/-- A subquery with a query and an alias. -/
def oneAsN : Part := subQuery "SELECT 1" (some "n")

/-- A branch with a condition, the only one of its CASE expression. -/
def whenX : Part := branch "x" (.int 1) {}

/-- They are accepted in both ways, with the same text. -/
theorem accepted_iff_oneAsN :
    oneAsN.rendered oneAsN.mapping = oneAsN.rendered oneAsN.description ∧
      oneAsN.rendered oneAsN.description = .ok "(SELECT 1) AS n" ∧
      whenX.Accepted whenX.mapping ∧ whenX.Accepted whenX.description := by
  have hothers : whenX.OthersRead := fun v hv => nomatch hv
  refine ⟨(accepted_iff oneAsN).2.2.2 (by decide), rfl, ?_, ?_⟩
  · exact (accepted_iff whenX).2.1.mpr ⟨hothers, by decide⟩
  · exact (accepted_iff whenX).1.mpr hothers

/-- A part that is accepted as a description alone, with the text of that. -/
def Bypasses (p : Part) (text : String) : Prop :=
  p.Accepted p.description ∧ ¬ p.Accepted p.mapping ∧ p.rendered p.description = .ok text

/-- Parts with nothing in them get through as descriptions and leave nothing where a query, a
case, a call or a condition belongs. An empty text gets through as a subquery as well. -/
theorem hollow_parts_bypass :
    (subQuery "" none).Bypasses "()" ∧
      (recursiveCte "" "SELECT 1" (some "t")).Bypasses
        "WITH RECURSIVE t AS ( UNION ALL SELECT 1) " ∧
      (recursiveCte "SELECT 1" "" (some "t")).Bypasses
        "WITH RECURSIVE t AS (SELECT 1 UNION ALL ) " ∧
      (aggregate [] (some "n") .nil (by simp)).Bypasses " AS n" ∧
      (branch "" (.int 1) {}).Bypasses "CASE WHEN  THEN 1 END" ∧
      (SubQuery.ofValue (.text "")).map SubQuery.text = .ok "()" := by
  have hbypass : ∀ {p : Part} {text : String}, p.OthersRead → ¬ p.Complete →
      p.rendered p.description = .ok text → p.Bypasses text :=
    fun {p text} hothers hhollow htext => ⟨p.accepted_description_iff.mpr hothers,
      fun h => hhollow (p.accepted_mapping_iff.mp h).2, htext⟩
  refine ⟨hbypass trivial (by decide) rfl, hbypass trivial (by decide) rfl,
    hbypass trivial (by decide) rfl, hbypass trivial (by decide) rfl, ?_, rfl⟩
  exact hbypass (fun v hv => nomatch hv) (by decide) rfl

end Part

end SqlText
