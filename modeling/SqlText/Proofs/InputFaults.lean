import SqlText.Clause.Aggregate
import SqlText.Clause.CaseExpr
import SqlText.Clause.Columns
import SqlText.Clause.Join
import SqlText.Clause.OrderBy
import SqlText.Clause.Paging
import SqlText.Clause.RecursiveCte
import SqlText.Clause.SubQuery
import SqlText.Proofs.Endings

/-!
# Faults of inputs — for what an input of a statement may be refused

    FaultsIn (Fault.MalformedOr (Columns.Strays v)) ((Columns.listText v).outcome c)

An input is refused for its shape, for a value without a literal, or because a part of it
cannot be iterated, joined, unpacked or looked up: it is malformed. Beside that there are
parts that stray, for they are asked for what only the right kind of value has, its entries
for one or its two items, and no shape was checked before. There is nothing else in which
reading an input may end: it looks for no required input, compares nothing and reads no
setting.

* **`Fault.FromInput`**, **`Fault.Malformed`**: the faults in question, and those of a shape.
* **`Columns.Strays`**, **`OrderBy.Strays`**, **`Aggregate.Strays`**: parts that stray.
* **`Columns.faultsIn_listText`**, **`CaseExpr.faultsIn_assignment`** and their kin: one lemma
  for each clause.
-/

namespace SqlText

/-- The faults that keep a value out of a table. -/
inductive TypeFault.IsOfHash : TypeFault → Prop where
  | notHashable (type : String) : IsOfHash (.notHashable type)
  | signalingKey : IsOfHash .signalingKey

/-- The properties that parts of an input are asked for. -/
def askedProperties : List String := ["items", "is_extra", "table", "when", "branches"]

/-- The faults for which an input of a statement may be refused. -/
inductive Fault.FromInput : Fault → Prop where
  | specification (cause : Misshape) : FromInput (.build (.specification cause))
  | literal (cause : NoLiteral) : FromInput (.build (.literal cause))
  | joinSpec (found shorthand : Value) : FromInput (.build (.joinSpec found shorthand))
  | notIterable (type : String) : FromInput (.type (.notIterable type))
  | notJoinable : FromInput (.type .notJoinable)
  | joinItem (index : Nat) (type : String) : FromInput (.type (.joinItem index type))
  | notUnpackable (type : String) : FromInput (.type (.notUnpackable type))
  | hash {e : TypeFault} (h : e.IsOfHash) : FromInput (.type e)
  | value (e : ValueFault) : FromInput (.value e)
  | noAttribute (type : String) {name : String} (h : name ∈ askedProperties) :
      FromInput (.noAttribute type name)

namespace Fault

/-- The faults of a value that has no literal. -/
inductive OfLiteral : Fault → Prop where
  | literal (cause : NoLiteral) : OfLiteral (.build (.literal cause))

/-- The faults of an input that is malformed. -/
inductive Malformed : Fault → Prop where
  | specification (cause : Misshape) : Malformed (.build (.specification cause))
  | literal (cause : NoLiteral) : Malformed (.build (.literal cause))
  | notIterable (type : String) : Malformed (.type (.notIterable type))
  | notJoinable : Malformed (.type .notJoinable)
  | joinItem (index : Nat) (type : String) : Malformed (.type (.joinItem index type))
  | notUnpackable (type : String) : Malformed (.type (.notUnpackable type))
  | hash {e : TypeFault} (h : e.IsOfHash) : Malformed (.type e)

/-- The faults of a part that strays: a property that it does not have, or too few or too
many items. -/
inductive Stray : Fault → Prop where
  | noAttribute (type : String) {name : String} (h : name ∈ askedProperties) :
      Stray (.noAttribute type name)
  | value (e : ValueFault) : Stray (.value e)

/-- The faults of reading one join: it is malformed, or names no usable relation. -/
inductive OfJoin : Fault → Prop where
  | malformed {e : Fault} (h : e.Malformed) : OfJoin e
  | joinSpec (found shorthand : Value) : OfJoin (.build (.joinSpec found shorthand))

/-- The faults of a malformed input, and those of the parts that stray in it. -/
def MalformedOr (S : Fault → Prop) (e : Fault) : Prop := e.Malformed ∨ S e

theorem OfLiteral.malformed {e : Fault} (h : e.OfLiteral) : e.Malformed := by
  cases h with
  | literal cause => exact .literal cause

theorem Malformed.fromInput {e : Fault} (h : e.Malformed) : e.FromInput := by
  cases h with
  | specification cause => exact .specification cause
  | literal cause => exact .literal cause
  | notIterable type => exact .notIterable type
  | notJoinable => exact .notJoinable
  | joinItem index type => exact .joinItem index type
  | notUnpackable type => exact .notUnpackable type
  | hash h => exact .hash h

theorem Stray.fromInput {e : Fault} (h : e.Stray) : e.FromInput := by
  cases h with
  | noAttribute type h => exact .noAttribute type h
  | value e => exact .value e

theorem OfJoin.fromInput {e : Fault} (h : e.OfJoin) : e.FromInput := by
  cases h with
  | malformed h => exact h.fromInput
  | joinSpec found shorthand => exact .joinSpec found shorthand

theorem MalformedOr.fromInput {S : Fault → Prop} {e : Fault} (h : MalformedOr S e)
    (hS : S e → e.Stray) : e.FromInput := h.elim Malformed.fromInput fun hs => (hS hs).fromInput

end Fault

open Fault (Malformed MalformedOr OfJoin OfLiteral Stray)

theorem FaultsIn.orStray {α : Type} {S : Fault → Prop} {x : Except Fault α}
    (h : FaultsIn Malformed x) : FaultsIn (MalformedOr S) x := h.mono fun _ => .inl

variable {c : Context}

/-! ## Items, entries and texts -/

theorem Value.faultsIn_iterate (v : Value) : FaultsIn Malformed v.iterate := by
  unfold iterate
  split
  case h_6 => exact .notIterable _
  all_goals trivial

/-- A value that is asked for its entries and is no mapping. -/
inductive Value.LacksEntries (v : Value) : Fault → Prop where
  | items (h : v.entries? = none) : LacksEntries v (.noAttribute v.typeName "items")

theorem Value.LacksEntries.stray {v : Value} {e : Fault} (h : v.LacksEntries e) : e.Stray := by
  cases h with
  | items _ => exact .noAttribute _ (by decide)

theorem Value.faultsIn_items (v : Value) : FaultsIn v.LacksEntries v.items := by
  cases v with
  | mapping es => trivial
  | _ => exact .items rfl

theorem faultsIn_textsFrom : ∀ (vs : List Value) (index : Nat),
    FaultsIn Malformed (textsFrom index vs) := by
  intro vs
  induction vs with
  | nil => intro index; trivial
  | cons v vs ih =>
      intro index
      unfold textsFrom
      split
      · trivial
      · rename_i h
        rw [← (List.cons.inj h).2]
        exact (ih (index + 1)).map _
      · exact .joinItem index _

theorem faultsIn_joinTexts (sep : String) (vs : List Value) :
    FaultsIn Malformed (joinTexts sep vs) := (faultsIn_textsFrom vs 0).map _

theorem Value.faultsIn_joinItems (sep : String) (v : Value) :
    FaultsIn Malformed (v.joinItems sep) := by
  unfold joinItems
  split
  · exact faultsIn_joinTexts sep _
  · exact .notJoinable

/-- A value that is taken for a pair and holds another number of items than two. -/
inductive Value.LacksPair (v : Value) : Fault → Prop where
  | tooFew {items : List Value} (h : v.iterate = .ok items) (hlength : items.length < 2) :
      LacksPair v (.value (.tooFewItems items.length))
  | tooMany {items : List Value} (h : v.iterate = .ok items) (hlength : 2 < items.length) :
      LacksPair v (.value .tooManyItems)

theorem Value.LacksPair.stray {v : Value} {e : Fault} (h : v.LacksPair e) : e.Stray := by
  cases h <;> exact .value _

theorem Value.faultsIn_unpackPair (v : Value) :
    FaultsIn (MalformedOr v.LacksPair) v.unpackPair := by
  rw [unpackPair]
  rcases hitems : v.iterate with e | items
  · exact .inl (.notUnpackable _)
  match items with
  | [] => exact .inr (.tooFew hitems (by decide))
  | [a] => exact .inr (.tooFew hitems (by simp))
  | [a, b] => trivial
  | a :: b :: d :: rest => exact .inr (.tooMany hitems (by simp))

/-! ## Look-ups in a table -/

/-- A fault, if there is one, that keeps a value out of a table. -/
def HashFaults (fault? : Option TypeFault) : Prop := ∀ e, fault? = some e → e.IsOfHash

theorem HashFaults.none : HashFaults none := fun _ h => nomatch h

theorem HashFaults.some {e : TypeFault} (h : e.IsOfHash) : HashFaults (some e) :=
  fun _ he => Option.some.inj he ▸ h

theorem HashFaults.orElse {x y : Option TypeFault} (hx : HashFaults x) (hy : HashFaults y) :
    HashFaults (x <|> y) := by
  cases x with
  | none => exact hy
  | some e => exact hx

/-- Lists, mappings and one kind of number are kept out of a table, and whatever holds one. -/
theorem Value.hashFaults (v : Value) : HashFaults v.hashFault? := by
  apply Value.hashFault?.induct (fun v => HashFaults v.hashFault?)
    (fun xs => HashFaults (hashFaultIn? xs))
  all_goals
    intros
    simp only [Value.hashFault?, hashFaultIn?]
  case case1 => exact .some (.notHashable _)
  case case2 => exact .some (.notHashable _)
  case case4 => exact .some .signalingKey
  case case21 => exact .none
  case case22 => exact .none
  -- what is left asks one part after the other
  all_goals repeat' apply HashFaults.orElse
  all_goals assumption

theorem Value.faultsIn_requireHashable (v : Value) : FaultsIn Malformed v.requireHashable := by
  unfold requireHashable
  split
  · rename_i e h
    exact .hash (v.hashFaults e h)
  · trivial

/-! ## Literals and CASE expressions -/

theorem Literal.faultsIn_text (trim : Bool) (v : Value) : FaultsIn OfLiteral (text trim v) := by
  cases v with
  | float x =>
      rw [text]
      split
      · trivial
      · exact .literal _
  | decimal d =>
      rw [text]
      split
      · trivial
      · exact .literal _
  | null | bool | int | text | date | datetime | raw | keyword => trivial
  | _ => exact .literal _

/-- A branch that was read. -/
def Value.IsBranch (v : Value) : Prop := ∃ b, v = .caseBranch b

/-- Branches are read into branches. -/
theorem CaseExpr.ends_branchOfValue (v : Value) :
    Ends Value.IsBranch Malformed (branchOfValue v) := by
  unfold branchOfValue
  split
  · exact ⟨_, rfl⟩
  · split
    · exact ⟨_, rfl⟩
    · exact .specification _
  · exact .specification _

/-- A CASE expression is read into branches, whatever it was described by. -/
theorem CaseExpr.ends_ofValue (v : Value) :
    Ends (fun e => ∃ bs, e.branches = .tuple bs ∧ ∀ b ∈ bs, b.IsBranch) Malformed (ofValue v) := by
  have hparts : FaultsIn Malformed (partsOf v) := by
    unfold partsOf
    split
    · trivial
    · trivial
    · exact .specification _
  refine Ends.bind hparts fun ⟨branches, otherwise⟩ _ => ?_
  refine Ends.bind branches.faultsIn_iterate fun vs _ => ?_
  refine Ends.bind (.mapM fun v _ => ends_branchOfValue v) fun bs hbs => ?_
  split
  · exact .specification _
  · exact ⟨bs, rfl, hbs⟩

theorem CaseExpr.faultsIn_branchText {v : Value} (hv : v.IsBranch) :
    FaultsIn OfLiteral (branchText v) := by
  obtain ⟨b, rfl⟩ := hv
  exact (Literal.faultsIn_text false _).bind fun t => trivial

/-- The text of a CASE expression that was read is refused for its literals alone. -/
theorem CaseExpr.faultsIn_text {e : CaseExpr} {bs : List Value} (he : e.branches = .tuple bs)
    (hbs : ∀ b ∈ bs, b.IsBranch) : FaultsIn OfLiteral e.text := by
  have hbranches : FaultsIn OfLiteral (bs.mapM branchText) :=
    .mapM_of_mem fun b hb => faultsIn_branchText (hbs b hb)
  rw [text, he]
  refine hbranches.bind fun ts => ?_
  split
  · trivial
  · exact (Literal.faultsIn_text false _).bind fun t => trivial

theorem CaseExpr.faultsIn_assignment (column value : Value) :
    FaultsIn Malformed (assignment column value) := by
  unfold assignment
  split
  · refine Ends.bind (ends_ofValue value) fun e ⟨bs, he, hbs⟩ => ?_
    exact ((faultsIn_text he hbs).mono fun _ => OfLiteral.malformed).bind fun t => trivial
  · split
    · exact .specification _
    · refine FaultsIn.bind ?_ fun t => trivial
      exact (Literal.faultsIn_text true _).mono fun _ => OfLiteral.malformed

/-! ## Columns -/

theorem Columns.faultsIn_extraGroup (columns : Value) :
    FaultsIn Malformed (extraGroup columns) := by
  unfold extraGroup
  split
  · trivial
  · trivial
  · exact .specification _

theorem Columns.faultsIn_groupOf (table columns : Value) :
    FaultsIn Malformed ((groupOf table columns).outcome c) := by
  unfold groupOf
  split
  · exact .outcome_bind (faultsIn_extraGroup columns) fun g => trivial
  · split
    · trivial
    · exact .outcome_bind (.outcome_note _ _ _) fun _ => trivial

/-- Columns of several tables that hold something else than groups. -/
inductive Columns.Strays (v : Value) : Fault → Prop where
  | group {groups g : Value} {gs : List Value} (hv : v = .columns (.tables groups))
      (hgs : groups.iterate = .ok gs) (hg : g ∈ gs) (hnone : ∀ x, g ≠ .columnGroup x) :
      Strays v (.noAttribute g.typeName "is_extra")

theorem Columns.Strays.stray {v : Value} {e : Fault} (h : Strays v e) : e.Stray := by
  cases h with
  | group _ _ _ _ => exact .noAttribute _ (by decide)

theorem Columns.faultsIn_groupPieces {v : Value} (hv : ∃ x, v = .columnGroup x) :
    FaultsIn Malformed (groupPieces v) := by
  obtain ⟨⟨table, columns⟩, rfl⟩ := hv
  unfold groupPieces
  split
  · exact (Value.faultsIn_joinItems _ _).bind fun t => trivial
  · exact (Value.faultsIn_iterate _).bind fun vs => trivial
  · rename_i hnone
    exact absurd rfl (hnone table columns)

theorem Columns.faultsIn_pieces (cs : Columns) :
    FaultsIn (MalformedOr (Strays (.columns cs))) cs.pieces := by
  cases cs with
  | raw content => trivial
  | names ns => exact ns.faultsIn_iterate.orStray
  | tables groups =>
      refine Ends.bind (.self groups.faultsIn_iterate.orStray) fun gs hgs => ?_
      refine FaultsIn.bind (.mapM_of_mem fun g hg => ?_) fun ps => trivial
      by_cases hgroup : ∃ x, g = .columnGroup x
      · exact (faultsIn_groupPieces hgroup).orStray
      · have hnone : ∀ x, g ≠ .columnGroup x := fun x hx => hgroup ⟨x, hx⟩
        have hstray := Strays.group rfl hgs hg hnone
        unfold groupPieces
        split
        · exact absurd rfl (hnone _)
        · exact absurd rfl (hnone _)
        · exact .inr hstray

/-- Groups that were read are groups. -/
theorem Columns.not_strays_of_groups (gs : List ColumnGroup) (e : Fault) :
    ¬ Strays (.columns (.tables (.tuple (gs.map .columnGroup)))) e := by
  intro h
  cases h with
  | group hv hgs hg hnone =>
      rw [← Columns.tables.inj (Value.columns.inj hv)] at hgs
      rw [← Except.ok.inj hgs] at hg
      obtain ⟨g, -, rfl⟩ := List.mem_map.mp hg
      exact hnone g rfl

/-- The items of what is read from a value are refused for what is malformed or strays in the
value. -/
theorem Columns.ends_ofValue? (v : Value) :
    Ends (fun cs? => FaultsIn (MalformedOr (Strays v)) (piecesOf? cs?)) (MalformedOr (Strays v))
      ((ofValue? v).outcome c) := by
  have hnames : ∀ vs, FaultsIn (MalformedOr (Strays v)) (piecesOf? (some (names (displays vs)))) :=
    fun vs => (displays vs).faultsIn_iterate.orStray
  unfold ofValue?
  split
  · rename_i cs
    exact cs.faultsIn_pieces
  · trivial
  · split <;> trivial
  · rename_i vs
    split
    · trivial
    · exact hnames vs
  · rename_i vs
    split
    · trivial
    · exact hnames vs
  · rename_i es
    split
    · trivial
    · rw [groupsOf, bind_assoc, Build.outcome_bind]
      have hgroups : FaultsIn Malformed ((es.mapM fun e => groupOf e.1 e.2).outcome c) :=
        .outcome_mapM (fun e => faultsIn_groupOf e.1 e.2) es
      refine Ends.bind hgroups.orStray fun gs _ => ?_
      show FaultsIn (MalformedOr (Strays (.mapping es))) (pieces (.tables (.tuple _)))
      refine (faultsIn_pieces _).mono fun e he => ?_
      exact .inl (he.resolve_right (not_strays_of_groups _ e))
  · exact .inl (.specification _)

theorem Columns.faultsIn_listText (v : Value) :
    FaultsIn (MalformedOr (Strays v)) ((listText v).outcome c) := by
  refine .outcome_bind_of (ends_ofValue? v) fun cs? hcs => ?_
  exact .outcome_bind hcs fun ps => (faultsIn_joinTexts _ ps).orStray

theorem Columns.faultsIn_groupText (v : Value) :
    FaultsIn (MalformedOr (Strays v)) ((groupText v).outcome c) := by
  refine .outcome_bind_of (ends_ofValue? v) fun cs? hcs => ?_
  refine .outcome_bind hcs fun ps => ?_
  split
  · trivial
  · exact .outcome_bind (faultsIn_joinTexts _ ps).orStray fun t => trivial

/-! ## Orderings and joins -/

theorem OrderBy.faultsIn_keysOf (name direction : Value) :
    FaultsIn Malformed ((keysOf name direction).outcome c) := by
  unfold keysOf
  split
  · trivial
  split
  · trivial
  · exact .outcome_bind (.outcome_note _ _ _) fun _ => trivial

/-- An ordering that holds something else than keys. -/
inductive OrderBy.Strays (v : Value) : Fault → Prop where
  | key {ks k : Value} {vs : List Value} (hv : v = .orderBy (.keys ks))
      (hvs : ks.iterate = .ok vs) (hk : k ∈ vs) (hnone : ∀ x, k ≠ .sortKey x) :
      Strays v (.noAttribute k.typeName "table")

theorem OrderBy.Strays.stray {v : Value} {e : Fault} (h : Strays v e) : e.Stray := by
  cases h with
  | key _ _ _ _ => exact .noAttribute _ (by decide)

theorem OrderBy.faultsIn_segment (o : OrderBy) :
    FaultsIn (MalformedOr (Strays (.orderBy o))) o.segment := by
  cases o with
  | raw content => trivial
  | keys ks =>
      refine Ends.bind (.self ks.faultsIn_iterate.orStray) fun vs hvs => ?_
      refine FaultsIn.bind (.mapM_of_mem fun k hk => ?_) fun ts => trivial
      unfold keyText
      split
      · trivial
      · rename_i hnone
        exact .inr (.key rfl hvs hk fun ⟨column, direction, table⟩ => hnone column direction table)

/-- Keys that were read are keys. -/
theorem OrderBy.not_strays_of_keys (ks : List SortKey) (e : Fault) :
    ¬ Strays (.orderBy (.keys (.tuple (ks.map .sortKey)))) e := by
  intro h
  cases h with
  | key hv hvs hk hnone =>
      rw [← OrderBy.keys.inj (Value.orderBy.inj hv)] at hvs
      rw [← Except.ok.inj hvs] at hk
      obtain ⟨k, -, rfl⟩ := List.mem_map.mp hk
      exact hnone k rfl

/-- The segment of what is read from a value is refused for what is malformed or strays in the
value. -/
theorem OrderBy.ends_ofValue? (v : Value) :
    Ends (fun o? => ∀ o ∈ o?, FaultsIn (MalformedOr (Strays v)) o.segment)
      (MalformedOr (Strays v)) ((ofValue? v).outcome c) := by
  have hnone : ∀ o ∈ (none : Option OrderBy), FaultsIn (MalformedOr (Strays v)) o.segment :=
    fun o ho => nomatch ho
  unfold ofValue?
  split
  · rename_i o
    exact fun o' ho => Option.some.inj ho ▸ o.faultsIn_segment
  · exact hnone
  · split
    · exact hnone
    · exact fun o ho => Option.some.inj ho ▸ trivial
  · rename_i es
    split
    · exact hnone
    · have hkeys : FaultsIn Malformed ((es.mapM fun e => keysOf e.1 e.2).outcome c) :=
        .outcome_mapM (fun e => faultsIn_keysOf e.1 e.2) es
      rw [Build.outcome_bind]
      refine Ends.bind hkeys.orStray fun ks _ o ho => ?_
      rw [← Option.some.inj ho]
      refine (faultsIn_segment _).mono fun e he => ?_
      exact .inl (he.resolve_right (not_strays_of_keys _ e))
  · split
    · exact hnone
    · exact .inl (.specification _)

theorem OrderBy.faultsIn_text (v : Value) :
    FaultsIn (MalformedOr (Strays v)) ((text v).outcome c) := by
  refine .outcome_bind_of (ends_ofValue? v) fun o? ho => ?_
  cases o? with
  | none => trivial
  | some o => exact ho o rfl

theorem Join.faultsIn_ofEntries (es : List (Value × Value)) :
    FaultsIn OfJoin ((ofEntries es).outcome c) := by
  unfold ofEntries
  dsimp only
  split
  · trivial
  · trivial
  · exact .outcome_bind (.outcome_note _ _ _) fun _ => .joinSpec _ _

/-! ## Select lists, relations and paging -/

theorem SubQuery.faultsIn_ofValue (v : Value) : FaultsIn Malformed (ofValue v) := by
  unfold ofValue
  split
  · trivial
  · trivial
  · split
    · trivial
    · exact .specification _
  · exact .specification _

theorem SubQuery.faultsIn_listText (v : Value) : FaultsIn Malformed (listText v) := by
  unfold listText
  split
  · refine v.faultsIn_iterate.bind fun vs => ?_
    exact (FaultsIn.mapM faultsIn_ofValue vs).bind fun qs => trivial
  · trivial

/-- Aggregates that hold calls which are no pairs. -/
inductive Aggregate.Strays (v : Value) : Fault → Prop where
  | call {a : Aggregate} {calls : List Value} {call : Value} {e : Fault} (hv : v = .aggregate a)
      (hcalls : a.functions.iterate = .ok calls) (hcall : call ∈ calls) (h : call.LacksPair e) :
      Strays v e

theorem Aggregate.faultsIn_aliasFor (function : Value) :
    FaultsIn Malformed (aliasFor function) := by
  refine function.faultsIn_requireHashable.bind fun _ => ?_
  split <;> trivial

theorem Aggregate.faultsIn_sharedCall (v : Value) :
    FaultsIn (MalformedOr v.LacksPair) (sharedCall v) :=
  v.faultsIn_unpackPair.bind fun _ => trivial

theorem Aggregate.faultsIn_ownCall (v : Value) : FaultsIn (MalformedOr v.LacksPair) (ownCall v) :=
  v.faultsIn_unpackPair.bind fun call =>
    (faultsIn_aliasFor call.1).orStray.bind fun _ => trivial

theorem Aggregate.faultsIn_text (a : Aggregate) :
    FaultsIn (MalformedOr (Strays (.aggregate a))) a.text := by
  have hcalls : ∀ write, (∀ v, FaultsIn (MalformedOr v.LacksPair) (write v)) →
      FaultsIn (MalformedOr (Strays (.aggregate a)))
        (a.functions.iterate >>= fun vs => vs.mapM write : Except Fault (List String)) := by
    intro write hwrite
    refine Ends.bind (.self a.functions.faultsIn_iterate.orStray) fun vs hvs => ?_
    refine FaultsIn.mapM_of_mem fun v hv => (hwrite v).mono fun e he => ?_
    exact he.imp id (.call rfl hvs hv)
  rw [text]
  split
  · rw [← bind_assoc]
    exact (hcalls _ faultsIn_sharedCall).bind fun ts => trivial
  · rw [← bind_assoc]
    exact (hcalls _ faultsIn_ownCall).bind fun ts => trivial

/-- The calls of an aggregate that was read from a mapping are pairs. -/
theorem Aggregate.not_strays_of_entries (es : List (Value × Value)) (label : Value) (e : Fault) :
    ¬ Strays (.aggregate ⟨.tuple (es.map fun e => .tuple [e.1, .text e.2.display]), label⟩) e := by
  intro h
  cases h with
  | call hv hcalls hcall h =>
      rw [← Value.aggregate.inj hv] at hcalls
      rw [← Except.ok.inj hcalls] at hcall
      obtain ⟨entry, -, rfl⟩ := List.mem_map.mp hcall
      cases h with
      | tooFew hitems hlength => rw [← Except.ok.inj hitems] at hlength; simp at hlength
      | tooMany hitems hlength => rw [← Except.ok.inj hitems] at hlength; simp at hlength

theorem Aggregate.faultsIn_itemText (v : Value) :
    FaultsIn (MalformedOr (Strays v)) (itemText v) := by
  rw [itemText]
  unfold ofValue
  split
  · exact faultsIn_text _
  · dsimp only
    split
    · exact .inl (.specification _)
    · refine (faultsIn_text _).mono fun e he => ?_
      exact .inl (he.resolve_right (not_strays_of_entries _ _ e))
  · exact .inl (.specification _)

/-- Aggregates that are listed, among them one that strays. -/
inductive Aggregate.ListStrays (v : Value) : Fault → Prop where
  | item {items : List Value} {item : Value} {e : Fault} (hitems : v.iterate = .ok items)
      (hitem : item ∈ items) (h : Strays item e) : ListStrays v e

theorem Aggregate.ListStrays.stray {v : Value} {e : Fault} (h : ListStrays v e) : e.Stray := by
  cases h with
  | item _ _ h => cases h with | call _ _ _ h => exact h.stray

theorem Aggregate.faultsIn_listText (v : Value) :
    FaultsIn (MalformedOr (ListStrays v)) (listText v) := by
  unfold listText
  split
  · refine Ends.bind (.self v.faultsIn_iterate.orStray) fun vs hvs => ?_
    refine FaultsIn.bind (.mapM_of_mem fun item hitem => ?_) fun ts => trivial
    exact (faultsIn_itemText item).mono fun e he => he.imp id (.item hvs hitem)
  · trivial

theorem RecursiveCte.faultsIn_ofValue (v : Value) : FaultsIn Malformed (ofValue v) := by
  unfold ofValue
  split
  · trivial
  · dsimp only
    split
    · trivial
    · exact .specification _
  · exact .specification _

theorem Paging.faultsIn_text (v : Value) : FaultsIn Malformed (text v) := by
  have hread : FaultsIn Malformed (ofValue v) := by
    unfold ofValue
    split
    · trivial
    · trivial
    · exact .specification _
  exact hread.bind fun p => trivial

end SqlText
