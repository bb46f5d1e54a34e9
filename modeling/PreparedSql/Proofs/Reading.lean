import PreparedSql.Description.Condition
import PreparedSql.Proofs.Canonical
import PreparedSql.Proofs.Steps

/-!
# Reading conditions

Which documents are read as bindings, operands, tests and conditions, and as which ones, in terms of
what their parts are read as. The definitions take the cases in an order, and a document that
several of them fit is read by the first one; here the cases exclude each other.

## Main definitions

* `Json.Scalar`: the documents that stand for a value.
* `operatorName`: the name of an operator, however it is written.
* `Comparison.spellings`: the names of the comparisons.

## Main statements

* `Test.ofJson_eq_ok_iff`: what is read behind an operator.
* `Condition.columnOfJson_eq_ok_iff`: what is read behind a column.
-/

namespace PreparedSql

/-! ## Operands -/

/-- The scalars, each with the value that it stands for. -/
inductive Json.Scalar : Json → Value → Prop
  | null : Scalar .null .null
  | bool (b : Bool) : Scalar (.bool b) (.bool b)
  | integer (n : Int) : Scalar (.integer n) (.ofInteger n)
  | double (d : Double) : Scalar (.double d) (.float d)
  | text (s : String) : Scalar (.text s) (.text s)

namespace Json

variable {d : Json} {v : Value}

theorem scalar_or (d : Json) :
    (∃ v, d.Scalar v) ∨ (∃ items, d = .array items) ∨ ∃ members, d = .object members := by
  cases d with
  | null => exact .inl ⟨_, .null⟩
  | bool b => exact .inl ⟨_, .bool b⟩
  | integer n => exact .inl ⟨_, .integer n⟩
  | double d => exact .inl ⟨_, .double d⟩
  | text s => exact .inl ⟨_, .text s⟩
  | array items => exact .inr (.inl ⟨items, rfl⟩)
  | object members => exact .inr (.inr ⟨members, rfl⟩)

theorem Scalar.canonical (h : d.Scalar v) : d.canonical = d := by
  cases h <;> rfl

theorem Scalar.binding (h : d.Scalar v) : Binding.ofJson d = .ok (.value v) := by
  cases h <;> rfl

theorem Scalar.operand (h : d.Scalar v) : Operand.ofJson d = .ok (.placeholder (.value v)) := by
  cases h <;> rfl

end Json

theorem requireText_eq_ok_iff {what : String} {d : Json} {s : String} :
    requireText what d = .ok s ↔ d = .text s := by
  cases d <;> simp [requireText]

theorem Binding.ofJson_object_eq_ok_iff {members : List (String × Json)} {b : Binding} :
    Binding.ofJson (.object members) = .ok b ↔
      ∃ s, members = [("$token", .text s)] ∧ b = .token s := by
  rw [Binding.ofJson.eq_def]
  split
  any_goals contradiction
  · next name same =>
    obtain rfl := Json.object.inj same
    rw [bind_pure_eq_ok_iff]
    simp only [requireText_eq_ok_iff]
    simp [eq_comm]
  · next other =>
    constructor
    · exact fun h ↦ nomatch h
    · rintro ⟨s, rfl, -⟩
      exact absurd rfl (other _)

theorem Operand.ofJson_object_eq_ok_iff {members : List (String × Json)} {o : Operand} :
    Operand.ofJson (.object members) = .ok o ↔
      ∃ s, (members = [("$token", .text s)] ∧ o = .placeholder (.token s)) ∨
        (members = [("$col", .text s)] ∧ o = .column s) ∨
        members = [("$raw", .text s)] ∧ o = .raw s := by
  rw [Operand.ofJson.eq_def]
  split
  · next name same =>
    obtain rfl := Json.object.inj same
    rw [bind_pure_eq_ok_iff]
    simp only [requireText_eq_ok_iff]
    simp [eq_comm]
  · next name same =>
    obtain rfl := Json.object.inj same
    rw [bind_pure_eq_ok_iff]
    simp only [requireText_eq_ok_iff]
    simp [eq_comm]
  · next notColumn notRaw =>
    rw [bind_pure_eq_ok_iff]
    simp only [Binding.ofJson_object_eq_ok_iff]
    constructor
    · rintro ⟨b, ⟨s, rfl, rfl⟩, rfl⟩
      exact ⟨s, .inl ⟨rfl, rfl⟩⟩
    · rintro ⟨s, ⟨rfl, rfl⟩ | ⟨rfl, -⟩ | ⟨rfl, -⟩⟩
      · exact ⟨_, ⟨s, rfl, rfl⟩, rfl⟩
      · exact absurd rfl (notColumn _)
      · exact absurd rfl (notRaw _)

/-- The keys of the objects that are operands. -/
def operandKeys : List String := ["$token", "$col", "$raw"]

theorem isOperandObject_iff {members : List (String × Json)} :
    isOperandObject members ↔ ∃ key ∈ operandKeys, members.map Prod.fst = [key] := by
  rw [isOperandObject.eq_def]
  split
  · simp [operandKeys, or_assoc]
  · next other =>
    refine iff_of_false (by decide) ?_
    rintro ⟨key, -, same⟩
    obtain ⟨⟨k, d⟩, rfl, -⟩ := List.map_eq_singleton_iff.mp same
    exact other _ _ rfl

theorem exists_text_of_operand {members : List (String × Json)} {o : Operand}
    (h : Operand.ofJson (.object members) = .ok o) :
    ∃ key ∈ operandKeys, ∃ s, members = [(key, .text s)] := by
  obtain ⟨s, ⟨rfl, -⟩ | ⟨rfl, -⟩ | ⟨rfl, -⟩⟩ := Operand.ofJson_object_eq_ok_iff.mp h
  · exact ⟨"$token", by decide, s, rfl⟩
  · exact ⟨"$col", by decide, s, rfl⟩
  · exact ⟨"$raw", by decide, s, rfl⟩

/-! ## Operators -/

/-- The name of an operator, however it is written. -/
def operatorName (operator : String) : String := Text.lower (Text.trim operator)

/-- The name of a test, or that of its negation. -/
def testName (plain negation : String) (negated : Bool) : String :=
  if negated then negation else plain

namespace Comparison

/-- The names of the comparisons. -/
def spellings : List (String × Comparison) :=
  [("=", equal), ("==", equal), ("eq", equal), ("!=", notEqual), ("<>", notEqual),
    ("ne", notEqual), ("<", less), ("lt", less), ("<=", lessOrEqual), ("le", lessOrEqual),
    (">", greater), ("gt", greater), (">=", greaterOrEqual), ("ge", greaterOrEqual),
    ("like", like), ("not like", notLike)]

theorem ofName?_eq_some_iff {s : String} {c : Comparison} :
    ofName? s = some c ↔ (Text.lower s, c) ∈ spellings := by
  rw [ofName?.eq_def]
  generalize Text.lower s = name
  split <;> simp_all [spellings, eq_comm]

theorem ofName?_operatorName_eq_some_iff {operator : String} {c : Comparison} :
    ofName? (operatorName operator) = some c ↔ (operatorName operator, c) ∈ spellings := by
  rw [ofName?_eq_some_iff, operatorName, Text.lower_lower]

end Comparison

theorem Test.ofJson_eq_ok_iff {column operator : String} {d : Json} {t : Test} :
    Test.ofJson column operator d = .ok t ↔
      (∃ negated, operatorName operator = testName "is" "is not" negated ∧ d = .null ∧
        t = .isNull negated) ∨
      (∃ negated, operatorName operator = testName "in" "not in" negated ∧ ∃ items os,
        d = .array items ∧ items.mapM Operand.ofJson = .ok os ∧ t = .isIn negated os) ∨
      (∃ negated, operatorName operator = testName "between" "not between" negated ∧
        ∃ low high l u, d = .array [low, high] ∧ Operand.ofJson low = .ok l ∧
          Operand.ofJson high = .ok u ∧ t = .between negated l u) ∨
      ∃ c, (operatorName operator, c) ∈ Comparison.spellings ∧ ∃ o, Operand.ofJson d = .ok o ∧
        t = .compare c o := by
  simp only [← Comparison.ofName?_operatorName_eq_some_iff]
  constructor
  · intro h
    rw [Test.ofJson.eq_def] at h
    dsimp only at h
    split at h
    · next name => exact .inl ⟨false, name, rfl, (Except.ok.inj h).symm⟩
    · next name => exact .inl ⟨true, name, rfl, (Except.ok.inj h).symm⟩
    · next items name =>
      obtain ⟨os, hos, rfl⟩ := bind_pure_eq_ok_iff.mp h
      exact .inr (.inl ⟨false, name, items, os, rfl, hos, rfl⟩)
    · next items name =>
      obtain ⟨os, hos, rfl⟩ := bind_pure_eq_ok_iff.mp h
      exact .inr (.inl ⟨true, name, items, os, rfl, hos, rfl⟩)
    · next low high name =>
      obtain ⟨l, hl, h⟩ := exists_of_bind_eq_ok h
      obtain ⟨u, hu, rfl⟩ := bind_pure_eq_ok_iff.mp h
      exact .inr (.inr (.inl ⟨false, name, low, high, l, u, rfl, hl, hu, rfl⟩))
    · next low high name =>
      obtain ⟨l, hl, h⟩ := exists_of_bind_eq_ok h
      obtain ⟨u, hu, rfl⟩ := bind_pure_eq_ok_iff.mp h
      exact .inr (.inr (.inl ⟨true, name, low, high, l, u, rfl, hl, hu, rfl⟩))
    · split at h
      · next c comparison =>
        obtain ⟨o, ho, rfl⟩ := bind_pure_eq_ok_iff.mp h
        exact .inr (.inr (.inr ⟨c, comparison, o, ho, rfl⟩))
      · exact nomatch h
  · rw [Test.ofJson.eq_def]
    dsimp only
    rw [← operatorName]
    rintro (⟨negated, name, rfl, rfl⟩ | ⟨negated, name, items, os, rfl, hos, rfl⟩ |
      ⟨negated, name, low, high, l, u, rfl, hl, hu, rfl⟩ | ⟨c, comparison, o, ho, rfl⟩)
    · cases negated <;> rw [name] <;> rfl
    · cases negated <;> rw [name] <;> exact bind_pure_eq_ok_iff.mpr ⟨os, hos, rfl⟩
    · cases negated <;> rw [name] <;>
        exact bind_eq_ok_iff.mpr ⟨l, hl, bind_pure_eq_ok_iff.mpr ⟨u, hu, rfl⟩⟩
    · -- the other names are no comparisons
      have other {name : String} (none : Comparison.ofName? name = none)
          (same : operatorName operator = name) : False := by
        rw [same, none] at comparison
        exact nomatch comparison
      split
      case h_7 =>
        rw [comparison]
        exact bind_pure_eq_ok_iff.mpr ⟨o, ho, rfl⟩
      all_goals
        next same => exact (other rfl same).elim

/-! ## Conditions -/

/-- The keys of the members that are no columns. -/
def connectiveKeys : List String := ["$and", "$or"]

namespace Condition

theorem columnOfJson_eq_ok_iff {column : String} {d : Json} {c : Condition} :
    columnOfJson column d = .ok c ↔
      (d = .null ∧ c = Column.isNull column) ∨
      (d ≠ .null ∧ ∃ o, Operand.ofJson d = .ok o ∧ c = Column.compare column .equal o) ∨
      (∃ items os, d = .array items ∧ items.mapM Operand.ofJson = .ok os ∧
        c = Column.isIn column os) ∨
      ∃ members ts, d = .object members ∧ ¬isOperandObject members ∧
        members.mapM (fun m ↦ Test.ofJson column m.1 m.2) = .ok ts ∧ ofTests column ts = .ok c := by
  constructor
  · intro h
    rw [columnOfJson.eq_def] at h
    split at h
    · exact .inl ⟨rfl, (Except.ok.inj h).symm⟩
    · next items =>
      obtain ⟨os, hos, rfl⟩ := bind_pure_eq_ok_iff.mp h
      exact .inr (.inr (.inl ⟨items, os, rfl, hos, rfl⟩))
    · next members =>
      split at h
      · obtain ⟨o, ho, rfl⟩ := bind_pure_eq_ok_iff.mp h
        exact .inr (.inl ⟨nofun, o, ho, rfl⟩)
      · next notOperand =>
        obtain ⟨ts, hts, h⟩ := exists_of_bind_eq_ok h
        exact .inr (.inr (.inr ⟨members, ts, rfl, notOperand, hts, h⟩))
    · next notNull _ _ =>
      obtain ⟨o, ho, rfl⟩ := bind_pure_eq_ok_iff.mp h
      exact .inr (.inl ⟨notNull, o, ho, rfl⟩)
  · rintro (⟨rfl, rfl⟩ | ⟨notNull, o, ho, rfl⟩ | ⟨items, os, rfl, hos, rfl⟩ |
      ⟨members, ts, rfl, notOperand, hts, h⟩)
    · rfl
    · rw [columnOfJson.eq_def]
      split
      · exact absurd rfl notNull
      · exact nomatch ho
      · obtain ⟨key, hKey, s, rfl⟩ := exists_text_of_operand ho
        rw [if_pos (isOperandObject_iff.mpr ⟨key, hKey, rfl⟩)]
        exact bind_pure_eq_ok_iff.mpr ⟨o, ho, rfl⟩
      · exact bind_pure_eq_ok_iff.mpr ⟨o, ho, rfl⟩
    · exact bind_pure_eq_ok_iff.mpr ⟨os, hos, rfl⟩
    · rw [columnOfJson, if_neg notOperand]
      exact bind_eq_ok_iff.mpr ⟨ts, hts, h⟩

theorem itemsOfJson_eq_mapM (items : List Json) : itemsOfJson items = items.mapM ofJson := by
  induction items with
  | nil => rfl
  | cons item items ih => rw [itemsOfJson, ih, List.mapM_cons]

/-- What a member of an object requires. -/
def requirementOfJson (key : String) (d : Json) : Except DescriptionError Condition :=
  if key = "$and" then (connectedOfJson key d).map all
  else if key = "$or" then (connectedOfJson key d).map any
  else columnOfJson key d

theorem membersOfJson_eq_mapM (members : List (String × Json)) :
    membersOfJson members = members.mapM fun m ↦ requirementOfJson m.1 m.2 := by
  induction members with
  | nil => rfl
  | cons m members ih =>
    obtain ⟨key, d⟩ := m
    rw [membersOfJson, ih, List.mapM_cons, requirementOfJson]
    split_ifs <;> rfl

theorem connectedOfJson_eq_ok_iff {key : String} {d : Json} {cs : List Condition} :
    connectedOfJson key d = .ok cs ↔ ∃ items, d = .array items ∧ items.mapM ofJson = .ok cs := by
  cases d with
  | array items => simp [connectedOfJson, itemsOfJson_eq_mapM]
  | null | bool | integer | double | text | object =>
    exact iff_of_false nofun fun ⟨_, same, _⟩ ↦ nomatch same

theorem requirementOfJson_eq_ok_iff {key : String} {d : Json} {c : Condition} :
    requirementOfJson key d = .ok c ↔
      (key = "$and" ∧ ∃ items cs, d = .array items ∧ items.mapM ofJson = .ok cs ∧ c = all cs) ∨
      (key = "$or" ∧ ∃ items cs, d = .array items ∧ items.mapM ofJson = .ok cs ∧ c = any cs) ∨
      (key ∉ connectiveKeys ∧ columnOfJson key d = .ok c) := by
  have keys : key ∈ connectiveKeys ↔ key = "$and" ∨ key = "$or" := List.mem_pair
  have grouped (group : List Condition → Condition) :
      (connectedOfJson key d).map group = .ok c ↔
        ∃ items cs, d = .array items ∧ items.mapM ofJson = .ok cs ∧ c = group cs := by
    rw [map_eq_ok_iff]
    simp only [connectedOfJson_eq_ok_iff]
    grind
  rw [requirementOfJson, keys, not_or]
  split_ifs with isAnd isOr
  · rw [grouped]
    have notOr : key ≠ "$or" := isAnd ▸ by decide
    simp [isAnd]
  · rw [grouped]
    simp [isOr]
  · simp [isAnd, isOr]

theorem ofJson_eq_ok_iff {d : Json} {c : Condition} : ofJson d = .ok c ↔
    (∃ sql, d = .text sql ∧ c = raw sql) ∨
    (∃ items cs, d = .array items ∧ items.mapM ofJson = .ok cs ∧ c = any cs) ∨
    ∃ members cs, d = .object members ∧
      members.mapM (fun m ↦ requirementOfJson m.1 m.2) = .ok cs ∧ c = all cs := by
  cases d with
  | null | bool | integer | double => exact iff_of_false nofun (by simp)
  | text s => simp [ofJson, eq_comm]
  | array items =>
    rw [ofJson, itemsOfJson_eq_mapM, bind_pure_eq_ok_iff]
    simp [eq_comm]
  | object members =>
    rw [ofJson, membersOfJson_eq_mapM, bind_pure_eq_ok_iff]
    simp [eq_comm]

end Condition

end PreparedSql
