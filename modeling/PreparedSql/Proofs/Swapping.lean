import PreparedSql.Description.Statement
import PreparedSql.Proofs.Correspondence
import PreparedSql.Proofs.Reading

/-!
# Tokens in place of scalars

The relations between a description and one that has tokens in place of some of its scalars, for
each kind of document in it. They say where a scalar is bound as a value: behind a column, in the
list of `in` and `between`, behind a comparison, in the cells of an insertion, in an assignment, and
as a limit or an offset. Everywhere else the documents are equal.

A reader takes the same branch for a token as for the scalar, so it succeeds with related results:
each lemma here simulates one reader by itself.

## Main definitions

* `Json.Swapped`: a token in place of a scalar.
* `Json.ConditionSwapped`, `Json.TablesSwapped`, `Json.CellsSwapped`, `Json.AssignmentsSwapped`,
  `Json.CountSwapped`: the parts of statements.
* `swapping`: the correspondence of what is read.

## Main statements

* `Condition.ofJson_swapped`: reading conditions.
-/

namespace PreparedSql

/-! ## Documents with tokens in place of scalars -/

/-- Members with one key whose values are related, in a way that depends on the key. -/
def Json.Alike (R : String → Json → Json → Prop) (m n : String × Json) : Prop :=
  m.1 = n.1 ∧ R m.1 m.2 n.2

section Documents

variable (values : List (String × Json))

/-- What is bound stays as it is, or a token takes the place of the scalar that is its value. -/
inductive Json.Swapped : Json → Json → Prop
  | refl (d : Json) : Swapped d d
  | token {d : Json} {v : Value} {name : String} (h : d.Scalar v) (mem : (name, d) ∈ values) :
      Swapped d (.object [("$token", .text name)])

/-- Behind an operator values are bound by the items of a list, and by what a comparison takes. -/
inductive Json.OperatorSwapped (operator : String) : Json → Json → Prop
  | refl (d : Json) : OperatorSwapped operator d d
  | items {items items' : List Json} (h : List.Forall₂ (Swapped values) items items') :
      OperatorSwapped operator (.array items) (.array items')
  | operand {d d' : Json} (h : operatorName operator ∈ Comparison.spellings.map Prod.fst)
      (hd : Swapped values d d') : OperatorSwapped operator d d'

/-- Behind a column values are bound by a scalar that is not `null`, by the items of a list and
behind operators. -/
inductive Json.RestrictionSwapped : Json → Json → Prop
  | refl (d : Json) : RestrictionSwapped d d
  | scalar {d d' : Json} (h : Swapped values d d') (hd : d ≠ .null) : RestrictionSwapped d d'
  | items {items items' : List Json} (h : List.Forall₂ (Swapped values) items items') :
      RestrictionSwapped (.array items) (.array items')
  | operators {members members' : List (String × Json)}
      (h : List.Forall₂ (Alike (OperatorSwapped values)) members members') :
      RestrictionSwapped (.object members) (.object members')

mutual

/-- Conditions that differ behind their columns. -/
inductive Json.ConditionSwapped : Json → Json → Prop
  | refl (d : Json) : ConditionSwapped d d
  | items {items items' : List Json} (h : List.Forall₂ ConditionSwapped items items') :
      ConditionSwapped (.array items) (.array items')
  | members {members members' : List (String × Json)}
      (h : List.Forall₂ RequirementSwapped members members') :
      ConditionSwapped (.object members) (.object members')

/-- Members of conditions that differ behind their columns. -/
inductive Json.RequirementSwapped : String × Json → String × Json → Prop
  | connective {key : String} {d d' : Json} (hKey : key ∈ connectiveKeys)
      (h : ConditionSwapped d d') : RequirementSwapped (key, d) (key, d')
  | column {key : String} {d d' : Json} (hKey : key ∉ connectiveKeys)
      (h : d.RestrictionSwapped values d') : RequirementSwapped (key, d) (key, d')

end

inductive Json.EntrySwapped : Json → Json → Prop
  | refl (d : Json) : EntrySwapped d d
  | members {members members' : List (String × Json)}
      (h : List.Forall₂ (Alike fun key d d' ↦ d = d' ∨ key = "on" ∧ d.ConditionSwapped values d')
        members members') : EntrySwapped (.object members) (.object members')

inductive Json.TablesSwapped : Json → Json → Prop
  | entry {d d' : Json} (h : d.EntrySwapped values d') : TablesSwapped d d'
  | items {items items' : List Json} (h : List.Forall₂ (EntrySwapped values) items items') :
      TablesSwapped (.array items) (.array items')

/-- A limit or an offset that is an integer. -/
inductive Json.CountSwapped : Json → Json → Prop
  | refl (d : Json) : CountSwapped d d
  | token {n : Int} {name : String} (mem : (name, .integer n) ∈ values) :
      CountSwapped (.integer n) (.object [("$token", .text name)])

inductive Json.RowSwapped : Json → Json → Prop
  | cells {cells cells' : List Json} (h : List.Forall₂ (Swapped values) cells cells') :
      RowSwapped (.array cells) (.array cells')

/-- The values of an insertion: by column, as rows or as a single row. -/
inductive Json.CellsSwapped : Json → Json → Prop
  | refl (d : Json) : CellsSwapped d d
  | members {members members' : List (String × Json)}
      (h : List.Forall₂ (Alike fun _ ↦ Swapped values) members members') :
      CellsSwapped (.object members) (.object members')
  | rows {rows rows' : List Json} (h : List.Forall₂ (RowSwapped values) rows rows') :
      CellsSwapped (.array rows) (.array rows')
  | row {cells cells' : List Json} (h : List.Forall₂ (Swapped values) cells cells') :
      CellsSwapped (.array cells) (.array cells')

inductive Json.AssignmentsSwapped : Json → Json → Prop
  | members {members members' : List (String × Json)}
      (h : List.Forall₂ (Alike fun _ ↦ Swapped values) members members') :
      AssignmentsSwapped (.object members) (.object members')

end Documents

/-! ## Reading conditions -/

/-- A binding stays as it is, or a token takes the place of the value. -/
inductive Binding.Swapped (values : List (String × Json)) : Binding → Binding → Prop
  | refl (b : Binding) : Swapped values b b
  | token {d : Json} {v : Value} {name : String} (h : d.Scalar v) (mem : (name, d) ∈ values) :
      Swapped values (.value v) (.token name)

/-- Equal names, equal raw SQL, and tokens in place of values. -/
def swapping (values : List (String × Json)) : Correspondence where
  name := Eq
  raw := Eq
  binding := Binding.Swapped values
  inlined _ _ := False

section Reading

variable {values : List (String × Json)} {d d' : Json}

theorem swapping_follows (values : List (String × Json)) : (swapping values).Follows id id :=
  Correspondence.follows_id (fun _ ↦ rfl) .refl

theorem Binding.ofJson_swapped (h : d.Swapped values d') :
    Simulates (Binding.Swapped values) (ofJson d) (ofJson d') := by
  cases h with
  | refl => exact .refl .refl _
  | token h mem =>
    rw [h.binding]
    exact Simulates.ok (.token h mem)

theorem Operand.ofJson_swapped (h : d.Swapped values d') :
    Simulates (Operand.Related (swapping values)) (ofJson d) (ofJson d') := by
  cases h with
  | refl => exact .refl (fun o ↦ (swapping_follows values).operand o fun _ _ ↦ rfl) _
  | token h mem =>
    rw [h.operand]
    exact Simulates.ok (.placeholder (.token h mem))

theorem Operand.mapM_swapped {items items' : List Json}
    (h : List.Forall₂ (Json.Swapped values) items items') :
    Simulates (List.Forall₂ (Operand.Related (swapping values))) (items.mapM ofJson)
      (items'.mapM ofJson) :=
  .mapM (h.imp fun _ _ ↦ ofJson_swapped)

theorem Test.ofJson_swapped {column operator : String} (h : d.OperatorSwapped values operator d') :
    Simulates (Test.Related (swapping values)) (ofJson column operator d)
      (ofJson column operator d') := by
  have self (t : Test) : t.Related (swapping values) t :=
    t.related_self (swapping_follows values) fun _ _ ↦ rfl
  intro t ht
  cases h with
  | refl => exact ⟨t, ht, self t⟩
  | items h =>
    rcases ofJson_eq_ok_iff.mp ht with ⟨_, _, form, _⟩ |
      ⟨negated, name, items, os, form, hos, rfl⟩ |
      ⟨negated, name, low, high, l, u, form, hl, hu, rfl⟩ | ⟨_, _, _, notOperand, _⟩
    · exact nomatch form
    · obtain rfl := Json.array.inj form
      obtain ⟨os', hos', related⟩ := Operand.mapM_swapped h os hos
      exact ⟨_, ofJson_eq_ok_iff.mpr (.inr (.inl ⟨negated, name, _, os', rfl, hos', rfl⟩)),
        .isIn related⟩
    · obtain rfl := Json.array.inj form
      cases h with
      | cons hLow h =>
        cases h with
        | cons hHigh h =>
          cases h with
          | nil =>
            obtain ⟨l', hl', relatedLow⟩ := Operand.ofJson_swapped hLow l hl
            obtain ⟨u', hu', relatedHigh⟩ := Operand.ofJson_swapped hHigh u hu
            exact ⟨_, ofJson_eq_ok_iff.mpr (.inr (.inr (.inl
              ⟨negated, name, _, _, l', u', rfl, hl', hu', rfl⟩))),
              .between relatedLow relatedHigh⟩
    · exact nomatch notOperand
  | operand h hd =>
    cases hd with
    | refl => exact ⟨t, ht, self t⟩
    | token scalar mem =>
      rcases ofJson_eq_ok_iff.mp ht with ⟨negated, name, _⟩ | ⟨_, _, _, _, form, _⟩ |
        ⟨_, _, _, _, _, _, form, _⟩ | ⟨c, comparison, o, ho, rfl⟩
      · -- behind `is` nothing is bound, and it is no comparison
        rw [name] at h
        cases negated <;> exact absurd h (by decide)
      · rw [form] at scalar
        exact nomatch scalar
      · rw [form] at scalar
        exact nomatch scalar
      · obtain ⟨o', ho', related⟩ := Operand.ofJson_swapped (.token scalar mem) o ho
        exact ⟨_, ofJson_eq_ok_iff.mpr (.inr (.inr (.inr ⟨c, comparison, o', ho', rfl⟩))),
          .compare related⟩

theorem Json.map_fst_eq_of_alike {R : String → Json → Json → Prop}
    {members members' : List (String × Json)} (h : List.Forall₂ (Alike R) members members') :
    members.map Prod.fst = members'.map Prod.fst := by
  rw [← List.forall₂_eq_eq_eq, List.forall₂_map_left_iff, List.forall₂_map_right_iff]
  exact h.imp fun _ _ hm ↦ hm.1

private theorem Json.OperatorSwapped.eq_of_text {key s : String} (hKey : key ∈ operandKeys)
    (h : (text s).OperatorSwapped values key d) : d = .text s := by
  cases h with
  | refl => rfl
  | operand h =>
    have unnamed : ∀ key ∈ operandKeys, operatorName key ∉ Comparison.spellings.map Prod.fst := by
      decide
    exact absurd h (unnamed key hKey)

namespace Condition

theorem ofTests_swapped {column : String} {ts ts' : List Test}
    (h : List.Forall₂ (Test.Related (swapping values)) ts ts') :
    Simulates (Condition.Related (swapping values)) (ofTests column ts) (ofTests column ts') := by
  have tests : ∀ {ts ts' : List Test}, List.Forall₂ (Test.Related (swapping values)) ts ts' →
      AllRelated (swapping values) (ts.map (test column)) (ts'.map (test column)) := by
    intro ts ts' h
    induction h with
    | nil => exact .nil
    | cons h _ ih => exact .cons (.test rfl h) ih
  cases h with
  | nil => exact .error _ _
  | cons first rest =>
    cases rest with
    | nil => exact Simulates.ok (.test rfl first)
    | cons second rest =>
      exact Simulates.ok (.group (tests (.cons first (.cons second rest))))

theorem columnOfJson_swapped {column : String} (h : d.RestrictionSwapped values d') :
    Simulates (Condition.Related (swapping values)) (columnOfJson column d)
      (columnOfJson column d') := by
  have self (c : Condition) : c.Related (swapping values) c :=
    c.related_self (swapping_follows values) fun _ _ ↦ rfl
  cases h with
  | refl => exact .refl self _
  | scalar h hd =>
    cases h with
    | refl => exact .refl self _
    | token scalar mem =>
      intro c hc
      rcases columnOfJson_eq_ok_iff.mp hc with ⟨null, _⟩ | ⟨_, o, ho, rfl⟩ | ⟨_, _, form, _⟩ |
        ⟨_, _, form, _⟩
      · exact absurd null hd
      · obtain ⟨o', ho', related⟩ := Operand.ofJson_swapped (.token scalar mem) o ho
        exact ⟨_, columnOfJson_eq_ok_iff.mpr (.inr (.inl ⟨nofun, o', ho', rfl⟩)),
          .test rfl (.compare related)⟩
      · rw [form] at scalar
        exact nomatch scalar
      · rw [form] at scalar
        exact nomatch scalar
  | items h =>
    exact (Operand.mapM_swapped h).bind fun _ _ related ↦ Simulates.ok (.test rfl (.isIn related))
  | @operators members members' h =>
    intro c hc
    rcases columnOfJson_eq_ok_iff.mp hc with ⟨form, _⟩ | ⟨_, o, ho, rfl⟩ | ⟨_, _, form, _⟩ |
      ⟨_, ts, form, notOperand, hts, hc⟩
    · exact nomatch form
    · -- an operand is an object with a string, which no token can replace
      obtain ⟨key, hKey, s, rfl⟩ := exists_text_of_operand ho
      obtain ⟨⟨_, d'⟩, _, ⟨rfl, hm⟩, nothing, rfl⟩ := List.forall₂_cons_left_iff.mp h
      obtain rfl := List.forall₂_nil_left_iff.mp nothing
      obtain rfl := hm.eq_of_text hKey
      exact ⟨_, hc, self _⟩
    · exact nomatch form
    · obtain rfl := Json.object.inj form
      have keys := Json.map_fst_eq_of_alike h
      have tests : Simulates (List.Forall₂ (Test.Related (swapping values)))
          (members.mapM fun m ↦ Test.ofJson column m.1 m.2)
          (members'.mapM fun m ↦ Test.ofJson column m.1 m.2) := by
        refine .mapM (h.imp ?_)
        rintro ⟨k, d⟩ ⟨_, d'⟩ ⟨rfl, hm⟩
        exact Test.ofJson_swapped hm
      obtain ⟨ts', hts', related⟩ := tests ts hts
      obtain ⟨c', hc', hcc'⟩ := ofTests_swapped related c hc
      refine ⟨c', columnOfJson_eq_ok_iff.mpr (.inr (.inr (.inr
        ⟨members', ts', rfl, ?_, hts', hc'⟩))), hcc'⟩
      -- which objects are operands depends on their keys alone
      rw [isOperandObject_iff, ← keys, ← isOperandObject_iff]
      exact notOperand

theorem allRelated_of_forall₂ {R : Correspondence} {cs cs' : List Condition}
    (h : List.Forall₂ (Condition.Related R) cs cs') : AllRelated R cs cs' := by
  induction h with
  | nil => exact .nil
  | cons h _ ih => exact .cons h ih

/-- The conditions in a list, if the list is simulated as a whole. -/
private theorem exists_mapM_of_swapped {items : List Json} {cs : List Condition}
    (h : (Json.array items).ConditionSwapped values d')
    (ih : Simulates (Condition.Related (swapping values)) (ofJson (.array items)) (ofJson d'))
    (hcs : items.mapM ofJson = .ok cs) : ∃ items' cs', d' = .array items' ∧
      items'.mapM ofJson = .ok cs' ∧ AllRelated (swapping values) cs cs' := by
  obtain ⟨c', hc', related⟩ := ih (any cs)
    (ofJson_eq_ok_iff.mpr (.inr (.inl ⟨items, cs, rfl, hcs, rfl⟩)))
  obtain ⟨items', rfl⟩ : ∃ items', d' = .array items' := by
    cases h with
    | refl | items => exact ⟨_, rfl⟩
  rcases ofJson_eq_ok_iff.mp hc' with ⟨_, form, _⟩ | ⟨_, cs', form, hcs', rfl⟩ | ⟨_, _, form, _⟩
  · exact nomatch form
  · obtain rfl := Json.array.inj form
    cases related with
    | group h => exact ⟨items', cs', rfl, hcs', h⟩
  · exact nomatch form

theorem requirementOfJson_swapped {m m' : String × Json} (h : Json.RequirementSwapped values m m')
    (ih : ∀ d', m.2.ConditionSwapped values d' →
      Simulates (Condition.Related (swapping values)) (ofJson m.2) (ofJson d')) :
    Simulates (Condition.Related (swapping values)) (requirementOfJson m.1 m.2)
      (requirementOfJson m'.1 m'.2) := by
  intro c hc
  cases h with
  | connective hKey h =>
    rcases requirementOfJson_eq_ok_iff.mp hc with ⟨isAnd, items, cs, rfl, hcs, rfl⟩ |
      ⟨isOr, items, cs, rfl, hcs, rfl⟩ | ⟨notKey, -⟩
    · obtain ⟨items', cs', rfl, hcs', related⟩ := exists_mapM_of_swapped h (ih _ h) hcs
      exact ⟨_, requirementOfJson_eq_ok_iff.mpr (.inl ⟨isAnd, items', cs', rfl, hcs', rfl⟩),
        .group related⟩
    · obtain ⟨items', cs', rfl, hcs', related⟩ := exists_mapM_of_swapped h (ih _ h) hcs
      exact ⟨_, requirementOfJson_eq_ok_iff.mpr (.inr (.inl ⟨isOr, items', cs', rfl, hcs', rfl⟩)),
        .group related⟩
    · exact absurd hKey notKey
  | column notKey h =>
    rcases requirementOfJson_eq_ok_iff.mp hc with ⟨rfl, _⟩ | ⟨rfl, _⟩ | ⟨-, hc⟩
    · exact absurd (by decide) notKey
    · exact absurd (by decide) notKey
    · obtain ⟨c', hc', related⟩ := columnOfJson_swapped h c hc
      exact ⟨c', requirementOfJson_eq_ok_iff.mpr (.inr (.inr ⟨notKey, hc'⟩)), related⟩

theorem ofJson_swapped (h : d.ConditionSwapped values d') :
    Simulates (Condition.Related (swapping values)) (ofJson d) (ofJson d') := by
  have self (d : Json) : Simulates (Condition.Related (swapping values)) (ofJson d) (ofJson d) :=
    .refl (fun c ↦ c.related_self (swapping_follows values) fun _ _ ↦ rfl) _
  induction d using Json.induction generalizing d' with
  | null | bool | integer | double | text =>
    cases h with
    | refl => exact self _
  | array items ih =>
    cases h with
    | refl => exact self _
    | items h =>
      rw [ofJson, ofJson, itemsOfJson_eq_mapM, itemsOfJson_eq_mapM]
      refine (Simulates.mapM (forall₂_imp_mem ?_ h)).bind fun _ _ related ↦
        Simulates.ok (.group (allRelated_of_forall₂ related))
      exact fun item hItem _ ↦ ih item hItem
  | object members ih =>
    cases h with
    | refl => exact self _
    | members h =>
      rw [ofJson, ofJson, membersOfJson_eq_mapM, membersOfJson_eq_mapM]
      refine (Simulates.mapM (forall₂_imp_mem ?_ h)).bind fun _ _ related ↦
        Simulates.ok (.group (allRelated_of_forall₂ related))
      exact fun m hm _ hmm' ↦ requirementOfJson_swapped hmm' fun _ ↦ ih m hm

end Condition

end Reading

end PreparedSql
