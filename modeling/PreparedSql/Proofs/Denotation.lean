import PreparedSql.Proofs.Reading
import PreparedSql.Proofs.Untagged

/-!
# What conditions in descriptions stand for

A grammar says which documents are conditions, and a relation which condition each of them stands
for. Both go by what the members of an object say, which depends neither on the order in which they
are written nor on members that are overwritten. Reading a document in canonical form accepts the
documents of the grammar and gives the condition that they stand for.

An object requires all that its members say, in the order of their keys, and an array any of its
items. Several operators behind one column are all required; a single one stands for its test alone.

## Main definitions

* `Json.IsCondition`: the documents that are conditions.
* `Json.Denotes`: the condition that a document stands for.
* `DescriptionError.isOfCondition`: the errors about conditions.

## Main statements

* `Json.exists_denotes_iff`: the documents that are conditions stand for one.
* `Condition.ofJson_canonical`: what is read as a condition, and what else is refused.
-/

namespace PreparedSql

/-! ## Canonical form -/

namespace Json

variable {d : Json}

theorem eq_null_of_canonical (h : d.canonical = .null) : d = .null := by
  cases d with
  | null | bool | integer | double | text => exact h
  | array | object => exact nomatch h

theorem eq_text_of_canonical {s : String} (h : d.canonical = .text s) : d = .text s := by
  cases d with
  | null | bool | integer | double | text => exact h
  | array | object => exact nomatch h

private theorem exists_eq_array_of_canonical {items : List Json} (h : d.canonical = .array items) :
    ∃ ds, d = .array ds ∧ items = ds.map canonical := by
  cases d with
  | array ds =>
    rw [canonical_array] at h
    exact ⟨ds, rfl, (Json.array.inj h).symm⟩
  | null | bool | integer | double | text | object => exact nomatch h

private theorem exists_eq_object_of_canonical {ms : List (String × Json)}
    (h : d.canonical = .object ms) : ∃ members sorted, d = .object members ∧ Sorts members sorted ∧
      ms = sorted.map fun m ↦ (m.1, m.2.canonical) := by
  cases d with
  | object members =>
    have sorts := sorts_sortMembers members
    rw [sorts.canonical_object] at h
    exact ⟨members, _, rfl, sorts, (Json.object.inj h).symm⟩
  | null | bool | integer | double | text | array => exact nomatch h

private theorem Sorts.singleton_of_map {members sorted : List (String × Json)} {key s : String}
    (h : Sorts members sorted)
    (single : sorted.map (fun m ↦ (m.1, m.2.canonical)) = [(key, .text s)]) :
    Sorts members [(key, .text s)] := by
  obtain ⟨⟨k, d⟩, rfl, same⟩ := List.map_eq_singleton_iff.mp single
  obtain ⟨rfl, text⟩ : k = key ∧ d.canonical = .text s := Prod.mk.inj same
  rw [eq_text_of_canonical text] at h
  exact h

end Json

/-! ## Operands -/

/-- The documents that are neither arrays nor objects. -/
def Json.IsScalar : Json → Prop
  | .array _ | .object _ => False
  | _ => True

theorem Json.scalar_iff {d : Json} {v : Value} : d.Scalar v ↔ d.IsScalar ∧ d.Holds v := by
  rw [← Value.ofJson?_eq_some_iff]
  constructor
  · intro h
    cases h <;> exact ⟨trivial, rfl⟩
  · rintro ⟨scalar, h⟩
    cases d with
    | array | object => exact scalar.elim
    | null => exact Option.some.inj h ▸ .null
    | bool b => exact Option.some.inj h ▸ .bool b
    | integer n => exact Option.some.inj h ▸ .integer n
    | double d => exact Option.some.inj h ▸ .double d
    | text s => exact Option.some.inj h ▸ .text s

theorem Json.exists_scalar_iff {d : Json} : (∃ v, d.Scalar v) ↔ d.IsScalar := by
  constructor
  · rintro ⟨v, h⟩
    exact (scalar_iff.mp h).1
  · intro h
    rcases d.scalar_or with scalar | ⟨items, rfl⟩ | ⟨members, rfl⟩
    · exact scalar
    · exact h.elim
    · exact h.elim

/-- Operands are scalars and the objects whose only member is a string behind an operand key. -/
inductive Json.IsOperand : Json → Prop
  | scalar {d : Json} (h : d.IsScalar) : IsOperand d
  | marked {members : List (String × Json)} {key s : String} (h : Sorts members [(key, .text s)])
      (hKey : key ∈ operandKeys) : IsOperand (.object members)

/-- The operand that a document stands for. -/
inductive Json.DenotesOperand : Json → Operand → Prop
  | scalar {d : Json} {v : Value} (h : d.IsScalar) (hd : d.Holds v) :
      DenotesOperand d (.placeholder (.value v))
  | token {members : List (String × Json)} {name : String}
      (h : Sorts members [("$token", .text name)]) :
      DenotesOperand (.object members) (.placeholder (.token name))
  | column {members : List (String × Json)} {name : String}
      (h : Sorts members [("$col", .text name)]) : DenotesOperand (.object members) (.column name)
  | raw {members : List (String × Json)} {sql : String}
      (h : Sorts members [("$raw", .text sql)]) : DenotesOperand (.object members) (.raw sql)

theorem Json.exists_denotesOperand_iff {d : Json} : (∃ o, d.DenotesOperand o) ↔ d.IsOperand := by
  constructor
  · rintro ⟨o, h⟩
    cases h with
    | scalar h hd => exact .scalar h
    | token h | column h | raw h => exact .marked h (by decide)
  · intro h
    cases h with
    | scalar h =>
      obtain ⟨v, hd⟩ := exists_scalar_iff.mpr h
      exact ⟨_, .scalar h (scalar_iff.mp hd).2⟩
    | marked h hKey =>
      rw [operandKeys, List.mem_cons, List.mem_cons, List.mem_singleton] at hKey
      rcases hKey with rfl | rfl | rfl
      · exact ⟨_, .token h⟩
      · exact ⟨_, .column h⟩
      · exact ⟨_, .raw h⟩

private theorem Json.exists_forall₂_denotesOperand_iff {items : List Json} :
    (∃ os, List.Forall₂ DenotesOperand items os) ↔ ∀ item ∈ items, item.IsOperand := by
  simp only [exists_forall₂_iff, exists_denotesOperand_iff]

theorem Operand.ofJson_canonical_eq_ok_iff {d : Json} {o : Operand} :
    Operand.ofJson d.canonical = .ok o ↔ d.DenotesOperand o := by
  constructor
  · intro h
    rcases d.scalar_or with ⟨v, scalar⟩ | ⟨items, rfl⟩ | ⟨members, rfl⟩
    · rw [scalar.canonical, scalar.operand] at h
      obtain ⟨atom, holds⟩ := Json.scalar_iff.mp scalar
      exact Except.ok.inj h ▸ .scalar atom holds
    · exact nomatch h
    · have sorts := Json.sorts_sortMembers members
      rw [sorts.canonical_object, ofJson_object_eq_ok_iff] at h
      obtain ⟨s, ⟨single, rfl⟩ | ⟨single, rfl⟩ | ⟨single, rfl⟩⟩ := h
      · exact .token (sorts.singleton_of_map single)
      · exact .column (sorts.singleton_of_map single)
      · exact .raw (sorts.singleton_of_map single)
  · intro h
    cases h with
    | scalar h hd =>
      have scalar := Json.scalar_iff.mpr ⟨h, hd⟩
      rw [scalar.canonical, scalar.operand]
    | token h | column h | raw h =>
      rw [h.canonical_object]
      rfl

theorem Operand.mapM_canonical_eq_ok_iff {items : List Json} {os : List Operand} :
    (items.map Json.canonical).mapM Operand.ofJson = .ok os ↔
      List.Forall₂ Json.DenotesOperand items os := by
  rw [mapM_eq_ok_iff, List.forall₂_map_left_iff]
  simp only [Operand.ofJson_canonical_eq_ok_iff]

/-! ## Operators -/

/-- The documents that an operator takes. -/
inductive Json.IsTaken (operator : String) : Json → Prop
  | null (h : operatorName operator ∈ ["is", "is not"]) : IsTaken operator .null
  | items {items : List Json} (h : operatorName operator ∈ ["in", "not in"])
      (hItems : ∀ item ∈ items, item.IsOperand) : IsTaken operator (.array items)
  | bounds {low high : Json} (h : operatorName operator ∈ ["between", "not between"])
      (hLow : low.IsOperand) (hHigh : high.IsOperand) : IsTaken operator (.array [low, high])
  | operand {d : Json} {c : Comparison} (h : (operatorName operator, c) ∈ Comparison.spellings)
      (hd : d.IsOperand) : IsTaken operator d

/-- The test that a document behind an operator stands for. -/
inductive Json.DenotesTest (operator : String) : Json → Test → Prop
  | isNull (negated : Bool) (h : operatorName operator = testName "is" "is not" negated) :
      DenotesTest operator .null (.isNull negated)
  | isIn (negated : Bool) (h : operatorName operator = testName "in" "not in" negated)
      {items : List Json} {os : List Operand} (hItems : List.Forall₂ DenotesOperand items os) :
      DenotesTest operator (.array items) (.isIn negated os)
  | between (negated : Bool)
      (h : operatorName operator = testName "between" "not between" negated) {low high : Json}
      {l u : Operand} (hLow : low.DenotesOperand l) (hHigh : high.DenotesOperand u) :
      DenotesTest operator (.array [low, high]) (.between negated l u)
  | compare {d : Json} {c : Comparison} {o : Operand}
      (h : (operatorName operator, c) ∈ Comparison.spellings) (hd : d.DenotesOperand o) :
      DenotesTest operator d (.compare c o)

private theorem exists_eq_testName_iff {name plain negation : String} :
    (∃ negated, name = testName plain negation negated) ↔ name ∈ [plain, negation] := by
  rw [Bool.exists_bool, List.mem_pair]
  exact Iff.rfl

theorem Json.exists_denotesTest_iff {operator : String} {d : Json} :
    (∃ t, d.DenotesTest operator t) ↔ d.IsTaken operator := by
  constructor
  · rintro ⟨t, h⟩
    cases h with
    | isNull negated h => exact .null (exists_eq_testName_iff.mp ⟨negated, h⟩)
    | isIn negated h hItems =>
      exact .items (exists_eq_testName_iff.mp ⟨negated, h⟩)
        (exists_forall₂_denotesOperand_iff.mp ⟨_, hItems⟩)
    | between negated h hLow hHigh =>
      exact .bounds (exists_eq_testName_iff.mp ⟨negated, h⟩)
        (exists_denotesOperand_iff.mp ⟨_, hLow⟩) (exists_denotesOperand_iff.mp ⟨_, hHigh⟩)
    | compare h hd =>
      exact .operand h (exists_denotesOperand_iff.mp ⟨_, hd⟩)
  · intro h
    cases h with
    | null h =>
      obtain ⟨negated, name⟩ := exists_eq_testName_iff.mpr h
      exact ⟨_, .isNull negated name⟩
    | items h hItems =>
      obtain ⟨negated, name⟩ := exists_eq_testName_iff.mpr h
      obtain ⟨os, hos⟩ := exists_forall₂_denotesOperand_iff.mpr hItems
      exact ⟨_, .isIn negated name hos⟩
    | bounds h hLow hHigh =>
      obtain ⟨negated, name⟩ := exists_eq_testName_iff.mpr h
      obtain ⟨l, hl⟩ := exists_denotesOperand_iff.mpr hLow
      obtain ⟨u, hu⟩ := exists_denotesOperand_iff.mpr hHigh
      exact ⟨_, .between negated name hl hu⟩
    | operand h hd =>
      obtain ⟨o, ho⟩ := exists_denotesOperand_iff.mpr hd
      exact ⟨_, .compare h ho⟩

theorem Test.ofJson_canonical_eq_ok_iff {column operator : String} {d : Json} {t : Test} :
    Test.ofJson column operator d.canonical = .ok t ↔ d.DenotesTest operator t := by
  rw [Test.ofJson_eq_ok_iff]
  constructor
  · rintro (⟨negated, name, hd, rfl⟩ | ⟨negated, name, items, os, hd, hos, rfl⟩ |
      ⟨negated, name, low, high, l, u, hd, hl, hu, rfl⟩ | ⟨c, comparison, o, ho, rfl⟩)
    · rw [Json.eq_null_of_canonical hd]
      exact .isNull negated name
    · obtain ⟨ds, rfl, rfl⟩ := Json.exists_eq_array_of_canonical hd
      exact .isIn negated name (Operand.mapM_canonical_eq_ok_iff.mp hos)
    · obtain ⟨ds, rfl, bounds⟩ := Json.exists_eq_array_of_canonical hd
      obtain ⟨first, rest, rfl, rfl, last⟩ := List.map_eq_cons_iff.mp bounds.symm
      obtain ⟨second, rfl, rfl⟩ := List.map_eq_singleton_iff.mp last
      exact .between negated name (Operand.ofJson_canonical_eq_ok_iff.mp hl)
        (Operand.ofJson_canonical_eq_ok_iff.mp hu)
    · exact .compare comparison (Operand.ofJson_canonical_eq_ok_iff.mp ho)
  · intro h
    cases h with
    | isNull negated name => exact .inl ⟨negated, name, rfl, rfl⟩
    | isIn negated name hItems =>
      exact .inr (.inl ⟨negated, name, _, _, Json.canonical_array _,
        Operand.mapM_canonical_eq_ok_iff.mpr hItems, rfl⟩)
    | between negated name hLow hHigh =>
      exact .inr (.inr (.inl ⟨negated, name, _, _, _, _, Json.canonical_array _,
        Operand.ofJson_canonical_eq_ok_iff.mpr hLow, Operand.ofJson_canonical_eq_ok_iff.mpr hHigh,
        rfl⟩))
    | compare comparison hd =>
      exact .inr (.inr (.inr ⟨_, comparison, _, Operand.ofJson_canonical_eq_ok_iff.mpr hd, rfl⟩))

/-! ## What is asked of a column -/

/-- What may be asked of a column. -/
inductive Json.IsRestriction : Json → Prop
  | operand {d : Json} (h : d.IsOperand) : IsRestriction d
  | items {items : List Json} (h : ∀ item ∈ items, item.IsOperand) : IsRestriction (.array items)
  | operators {members sorted : List (String × Json)} (h : Sorts members sorted)
      (given : sorted ≠ []) (hTaken : ∀ m ∈ sorted, m.2.IsTaken m.1) :
      IsRestriction (.object members)

/-- The condition that a document stands for where it is asked of a column. -/
inductive Json.DenotesRestriction (column : String) : Json → Condition → Prop
  | isNull : DenotesRestriction column .null (.test column (.isNull false))
  | equal {d : Json} {o : Operand} (h : d.DenotesOperand o) (hd : d ≠ .null) :
      DenotesRestriction column d (.test column (.compare .equal o))
  | isIn {items : List Json} {os : List Operand} (h : List.Forall₂ DenotesOperand items os) :
      DenotesRestriction column (.array items) (.test column (.isIn false os))
  | operator {members : List (String × Json)} {operator : String} {d : Json} {t : Test}
      (h : Sorts members [(operator, d)]) (hTest : d.DenotesTest operator t) :
      DenotesRestriction column (.object members) (.test column t)
  | operators {members sorted : List (String × Json)} {ts : List Test} (h : Sorts members sorted)
      (several : 1 < sorted.length)
      (hTests : List.Forall₂ (fun m t ↦ m.2.DenotesTest m.1 t) sorted ts) :
      DenotesRestriction column (.object members) (.group .and (ts.map (.test column)))

private theorem Json.exists_denotesRestriction_iff {column : String} {d : Json} :
    (∃ c, d.DenotesRestriction column c) ↔ d.IsRestriction := by
  have eachTaken {sorted : List (String × Json)} :
      (∃ ts, List.Forall₂ (fun m t ↦ m.2.DenotesTest m.1 t) sorted ts) ↔
        ∀ m ∈ sorted, m.2.IsTaken m.1 := by
    simp only [exists_forall₂_iff, exists_denotesTest_iff]
  constructor
  · rintro ⟨c, h⟩
    cases h with
    | isNull => exact .operand (.scalar trivial)
    | equal h => exact .operand (exists_denotesOperand_iff.mp ⟨_, h⟩)
    | isIn h => exact .items (exists_forall₂_denotesOperand_iff.mp ⟨_, h⟩)
    | operator h hTest =>
      refine .operators h (List.cons_ne_nil _ _) ?_
      rw [List.forall_mem_singleton]
      exact exists_denotesTest_iff.mp ⟨_, hTest⟩
    | operators h several hTests =>
      exact .operators h (List.ne_nil_of_length_pos (Nat.zero_lt_of_lt several))
        (eachTaken.mp ⟨_, hTests⟩)
  · intro h
    cases h with
    | operand h =>
      obtain ⟨o, ho⟩ := exists_denotesOperand_iff.mpr h
      by_cases null : d = .null
      · rw [null]
        exact ⟨_, .isNull⟩
      · exact ⟨_, .equal ho null⟩
    | items h =>
      obtain ⟨os, hos⟩ := exists_forall₂_denotesOperand_iff.mpr h
      exact ⟨_, .isIn hos⟩
    | @operators members sorted h given hTaken =>
      obtain ⟨ts, hts⟩ := eachTaken.mpr hTaken
      -- one operator stands for its test alone, several for a group
      by_cases several : 1 < sorted.length
      · exact ⟨_, .operators h several hts⟩
      · cases hts with
        | nil => exact absurd rfl given
        | cons hTest rest =>
          cases rest with
          | nil => exact ⟨_, .operator h hTest⟩
          | cons => exact absurd (by simp) several

private theorem Json.DenotesTest.not_mem_operandKeys {operator : String} {d : Json} {t : Test}
    (h : d.DenotesTest operator t) : operator ∉ operandKeys := by
  intro mem
  have unnamed : ∀ key ∈ operandKeys, operatorName key ∉ ["is", "is not", "in", "not in",
      "between", "not between"] ∧ operatorName key ∉ Comparison.spellings.map Prod.fst := by
    decide
  obtain ⟨notNamed, notCompared⟩ := unnamed operator mem
  cases h with
  | isNull negated h | isIn negated h | between negated h =>
    cases negated <;> simp [h, testName] at notNamed
  | compare h => exact notCompared (List.mem_map.mpr ⟨_, h, rfl⟩)

theorem Condition.columnOfJson_canonical_eq_ok_iff {column : String} {d : Json} {c : Condition} :
    columnOfJson column d.canonical = .ok c ↔ d.DenotesRestriction column c := by
  have read {sorted : List (String × Json)} {ts : List Test} :
      (sorted.map fun m ↦ (m.1, m.2.canonical)).mapM (fun m ↦ Test.ofJson column m.1 m.2) =
          .ok ts ↔
        List.Forall₂ (fun m t ↦ m.2.DenotesTest m.1 t) sorted ts := by
    rw [mapM_eq_ok_iff, List.forall₂_map_left_iff]
    simp only [Test.ofJson_canonical_eq_ok_iff]
  rw [columnOfJson_eq_ok_iff]
  constructor
  · rintro (⟨hd, rfl⟩ | ⟨notNull, o, ho, rfl⟩ | ⟨items, os, hd, hos, rfl⟩ |
      ⟨ms, ts, hd, notOperand, hts, h⟩)
    · rw [Json.eq_null_of_canonical hd]
      exact .isNull
    · refine .equal (Operand.ofJson_canonical_eq_ok_iff.mp ho) ?_
      rintro rfl
      exact notNull rfl
    · obtain ⟨ds, rfl, rfl⟩ := Json.exists_eq_array_of_canonical hd
      exact .isIn (Operand.mapM_canonical_eq_ok_iff.mp hos)
    · obtain ⟨members, sorted, rfl, sorts, rfl⟩ := Json.exists_eq_object_of_canonical hd
      have tests := read.mp hts
      cases tests with
      | nil => exact nomatch h
      | cons first rest =>
        cases rest with
        | nil => exact Except.ok.inj h ▸ .operator sorts first
        | cons second rest =>
          exact Except.ok.inj h ▸ .operators sorts (by simp) (.cons first (.cons second rest))
  · intro h
    cases h with
    | isNull => exact .inl ⟨rfl, rfl⟩
    | equal h hd =>
      exact .inr (.inl ⟨mt Json.eq_null_of_canonical hd, _,
        Operand.ofJson_canonical_eq_ok_iff.mpr h, rfl⟩)
    | isIn h =>
      exact .inr (.inr (.inl ⟨_, _, Json.canonical_array _,
        Operand.mapM_canonical_eq_ok_iff.mpr h, rfl⟩))
    | @operator members operator d t h hTest =>
      have single : List.Forall₂ (fun m t ↦ m.2.DenotesTest m.1 t) [(operator, d)] [t] :=
        .cons hTest .nil
      refine .inr (.inr (.inr ⟨_, _, h.canonical_object, ?_, read.mpr single, rfl⟩))
      -- an object with one member could be an operand instead, but its key is an operator
      rw [isOperandObject_iff]
      rintro ⟨key, mem, same⟩
      obtain rfl : operator = key := (List.cons.inj same).1
      exact hTest.not_mem_operandKeys mem
    | @operators members sorted ts h several hTests =>
      refine .inr (.inr (.inr ⟨_, _, h.canonical_object, ?_, read.mpr hTests, ?_⟩))
      · rw [isOperandObject_iff]
        rintro ⟨key, -, same⟩
        have single := congrArg List.length same
        rw [List.length_map, List.length_map] at single
        exact several.ne' single
      · cases hTests with
        | nil => exact absurd several (by decide)
        | cons _ rest =>
          cases rest with
          | nil => exact absurd several (by simp)
          | cons => rfl

/-! ## Conditions -/

mutual

/-- The documents that are conditions. -/
inductive Json.IsCondition : Json → Prop
  | raw (sql : String) : IsCondition (.text sql)
  | any {items : List Json} (h : ∀ item ∈ items, item.IsCondition) : IsCondition (.array items)
  | all {members sorted : List (String × Json)} (h : Sorts members sorted)
      (hMembers : ∀ m ∈ sorted, m.2.IsRequirement m.1) : IsCondition (.object members)

/-- What the members of an object may be that is a condition. -/
inductive Json.IsRequirement : String → Json → Prop
  | connective {key : String} {items : List Json} (hKey : key ∈ connectiveKeys)
      (h : ∀ item ∈ items, item.IsCondition) : IsRequirement key (.array items)
  | column {key : String} {d : Json} (hKey : key ∉ connectiveKeys) (h : d.IsRestriction) :
      IsRequirement key d

end

mutual

/-- The condition that a document stands for. -/
inductive Json.Denotes : Json → Condition → Prop
  | raw (sql : String) : Denotes (.text sql) (.raw sql)
  | any {items : List Json} {cs : List Condition} (h : List.Forall₂ Denotes items cs) :
      Denotes (.array items) (.group .or cs)
  | all {members sorted : List (String × Json)} {cs : List Condition} (h : Sorts members sorted)
      (hMembers : List.Forall₂ (fun m c ↦ DenotesRequirement m.1 m.2 c) sorted cs) :
      Denotes (.object members) (.group .and cs)

/-- The condition that a member of an object stands for. -/
inductive Json.DenotesRequirement : String → Json → Condition → Prop
  | and {key : String} {items : List Json} {cs : List Condition} (hKey : key = "$and")
      (h : List.Forall₂ Denotes items cs) :
      DenotesRequirement key (.array items) (.group .and cs)
  | or {key : String} {items : List Json} {cs : List Condition} (hKey : key = "$or")
      (h : List.Forall₂ Denotes items cs) :
      DenotesRequirement key (.array items) (.group .or cs)
  | column {key : String} {d : Json} {c : Condition} (hKey : key ∉ connectiveKeys)
      (h : d.DenotesRestriction key c) : DenotesRequirement key d c

end

namespace Json

variable {items : List Json} {members sorted : List (String × Json)} {key : String} {d : Json}
  {c : Condition}

theorem isCondition_array_iff : (array items).IsCondition ↔ ∀ item ∈ items, item.IsCondition := by
  constructor
  · intro h
    cases h with
    | any h => exact h
  · exact .any

theorem isCondition_object_iff (h : Sorts members sorted) :
    (object members).IsCondition ↔ ∀ m ∈ sorted, m.2.IsRequirement m.1 := by
  constructor
  · intro hd
    cases hd with
    | all h' hMembers =>
      rw [h.eq h']
      exact hMembers
  · exact .all h

theorem denotes_array_iff :
    (array items).Denotes c ↔ ∃ cs, List.Forall₂ Denotes items cs ∧ .group .or cs = c := by
  constructor
  · intro hd
    cases hd with
    | any h => exact ⟨_, h, rfl⟩
  · rintro ⟨cs, h, rfl⟩
    exact .any h

theorem denotes_object_iff (h : Sorts members sorted) : (object members).Denotes c ↔
    ∃ cs, List.Forall₂ (fun m c ↦ DenotesRequirement m.1 m.2 c) sorted cs ∧
      .group .and cs = c := by
  constructor
  · intro hd
    cases hd with
    | all h' hMembers =>
      rw [h.eq h']
      exact ⟨_, hMembers, rfl⟩
  · rintro ⟨cs, hMembers, rfl⟩
    exact .all h hMembers

private theorem exists_denotesRequirement_iff (hd : (∃ c, d.Denotes c) ↔ d.IsCondition) :
    (∃ c, DenotesRequirement key d c) ↔ d.IsRequirement key := by
  constructor
  · rintro ⟨c, h⟩
    cases h with
    | and hKey h | or hKey h =>
      exact .connective (by simp [hKey, connectiveKeys])
        (isCondition_array_iff.mp (hd.mp ⟨_, .any h⟩))
    | column hKey h => exact .column hKey (exists_denotesRestriction_iff.mp ⟨c, h⟩)
  · intro h
    cases h with
    | connective hKey h =>
      obtain ⟨c, hc⟩ := hd.mpr (.any h)
      obtain ⟨cs, hcs, -⟩ := denotes_array_iff.mp hc
      rcases List.mem_pair.mp hKey with isAnd | isOr
      · exact ⟨_, .and isAnd hcs⟩
      · exact ⟨_, .or isOr hcs⟩
    | column hKey h =>
      obtain ⟨c, hc⟩ := exists_denotesRestriction_iff.mpr h
      exact ⟨c, .column hKey hc⟩

theorem exists_denotes_iff (d : Json) : (∃ c, d.Denotes c) ↔ d.IsCondition := by
  induction d using Json.induction with
  | null | bool | integer | double => exact iff_of_false (fun ⟨_, h⟩ ↦ nomatch h) nofun
  | text s => exact iff_of_true ⟨_, .raw s⟩ (.raw s)
  | array items ih =>
    rw [isCondition_array_iff, ← forall₂_congr ih, ← exists_forall₂_iff]
    simp only [denotes_array_iff]
    constructor
    · rintro ⟨-, cs, h, -⟩
      exact ⟨cs, h⟩
    · rintro ⟨cs, h⟩
      exact ⟨_, cs, h, rfl⟩
  | object members ih =>
    have sorts := sorts_sortMembers members
    have each : ∀ m ∈ sortMembers members,
        ((∃ c, DenotesRequirement m.1 m.2 c) ↔ m.2.IsRequirement m.1) :=
      fun m hm ↦ exists_denotesRequirement_iff (ih m (sorts.mem_of_mem hm))
    rw [isCondition_object_iff sorts, ← forall₂_congr each, ← exists_forall₂_iff]
    simp only [denotes_object_iff sorts]
    constructor
    · rintro ⟨-, cs, h, -⟩
      exact ⟨cs, h⟩
    · rintro ⟨cs, h⟩
      exact ⟨_, cs, h, rfl⟩

end Json

namespace Condition

theorem requirementOfJson_canonical_eq_ok_iff {key : String} {d : Json}
    (hd : ∀ c, ofJson d.canonical = .ok c ↔ d.Denotes c) {c : Condition} :
    requirementOfJson key d.canonical = .ok c ↔ d.DenotesRequirement key c := by
  -- behind a connective a list stands for what it stands for alone
  have list {items : List Json} {cs : List Condition} (form : d.canonical = .array items)
      (h : items.mapM ofJson = .ok cs) :
      ∃ ds, d = .array ds ∧ List.Forall₂ Json.Denotes ds cs := by
    have alone := (hd (any cs)).mp (ofJson_eq_ok_iff.mpr (.inr (.inl ⟨items, cs, form, h, rfl⟩)))
    cases alone with
    | any h => exact ⟨_, rfl, h⟩
  have read {ds : List Json} {cs : List Condition} (form : d = .array ds)
      (h : List.Forall₂ Json.Denotes ds cs) :
      ∃ items, d.canonical = .array items ∧ items.mapM ofJson = .ok cs := by
    have alone := ofJson_eq_ok_iff.mp ((hd (any cs)).mpr (form ▸ .any h))
    rcases alone with ⟨_, _, same⟩ | ⟨items, _, form, h, same⟩ | ⟨_, _, _, _, same⟩
    · exact nomatch same
    · cases same
      exact ⟨items, form, h⟩
    · exact nomatch same
  rw [requirementOfJson_eq_ok_iff]
  constructor
  · rintro (⟨isAnd, items, cs, form, h, rfl⟩ | ⟨isOr, items, cs, form, h, rfl⟩ | ⟨hKey, h⟩)
    · obtain ⟨ds, rfl, h⟩ := list form h
      exact .and isAnd h
    · obtain ⟨ds, rfl, h⟩ := list form h
      exact .or isOr h
    · exact .column hKey (columnOfJson_canonical_eq_ok_iff.mp h)
  · intro h
    cases h with
    | and isAnd h =>
      obtain ⟨items, form, h⟩ := read rfl h
      exact .inl ⟨isAnd, items, _, form, h, rfl⟩
    | or isOr h =>
      obtain ⟨items, form, h⟩ := read rfl h
      exact .inr (.inl ⟨isOr, items, _, form, h, rfl⟩)
    | column hKey h => exact .inr (.inr ⟨hKey, columnOfJson_canonical_eq_ok_iff.mpr h⟩)

/-- A document in canonical form is read as the condition that it stands for. -/
theorem ofJson_canonical_eq_ok_iff (d : Json) :
    ∀ c, ofJson d.canonical = .ok c ↔ d.Denotes c := by
  induction d using Json.induction with
  | null | bool | integer | double => exact fun c ↦ iff_of_false nofun nofun
  | text s =>
    intro c
    constructor
    · intro h
      exact Except.ok.inj h ▸ .raw s
    · intro h
      cases h
      rfl
  | array items ih =>
    intro c
    rw [Json.denotes_array_iff, Json.canonical_array, ofJson, bind_pure_eq_ok_iff,
      itemsOfJson_eq_mapM]
    refine exists_congr fun cs ↦ and_congr_left fun _ ↦ ?_
    rw [mapM_eq_ok_iff, List.forall₂_map_left_iff]
    exact forall₂_congr_mem ih
  | object members ih =>
    intro c
    have sorts := Json.sorts_sortMembers members
    rw [Json.denotes_object_iff sorts, sorts.canonical_object, ofJson, bind_pure_eq_ok_iff,
      membersOfJson_eq_mapM]
    refine exists_congr fun cs ↦ and_congr_left fun _ ↦ ?_
    rw [mapM_eq_ok_iff, List.forall₂_map_left_iff]
    exact forall₂_congr_mem fun m hm c ↦
      requirementOfJson_canonical_eq_ok_iff (ih m (sorts.mem_of_mem hm))

end Condition

/-! ## Refusals -/

/-- The errors about conditions. -/
def DescriptionError.isOfCondition : DescriptionError → Bool
  | conditionKind _ | connectiveKind _ _ | noOperator _ | operator _ _ _ | bindingKind _
  | textKind _ _ => true
  | _ => false

theorem requireText_failsWith (what : String) (d : Json) :
    FailsWith (·.isOfCondition) (requireText what d) := by
  rw [requireText.eq_def]
  split
  · exact .ok _
  · exact .error rfl

theorem Binding.ofJson_failsWith (d : Json) : FailsWith (·.isOfCondition) (ofJson d) := by
  rw [ofJson.eq_def]
  split
  case h_6 => exact (requireText_failsWith _ _).bind fun _ ↦ .ok _
  case h_7 => exact .error rfl
  all_goals exact .ok _

theorem Operand.ofJson_failsWith (d : Json) : FailsWith (·.isOfCondition) (ofJson d) := by
  rw [ofJson.eq_def]
  split
  · exact (requireText_failsWith _ _).bind fun _ ↦ .ok _
  · exact (requireText_failsWith _ _).bind fun _ ↦ .ok _
  · exact (Binding.ofJson_failsWith _).bind fun _ ↦ .ok _

theorem Test.ofJson_failsWith (column operator : String) (d : Json) :
    FailsWith (·.isOfCondition) (ofJson column operator d) := by
  have items (negated : Bool) (items : List Json) :
      FailsWith (·.isOfCondition) (do return isIn negated (← items.mapM Operand.ofJson)) :=
    (FailsWith.mapM fun d _ ↦ Operand.ofJson_failsWith d).bind fun _ ↦ .ok _
  have bounds (negated : Bool) (low high : Json) : FailsWith (·.isOfCondition)
      (do return between negated (← Operand.ofJson low) (← Operand.ofJson high)) :=
    (Operand.ofJson_failsWith low).bind fun _ ↦
      (Operand.ofJson_failsWith high).bind fun _ ↦ .ok _
  rw [ofJson.eq_def]
  dsimp only
  split
  · exact .ok _
  · exact .ok _
  · exact items false _
  · exact items true _
  · exact bounds false _ _
  · exact bounds true _ _
  · split
    · exact (Operand.ofJson_failsWith _).bind fun _ ↦ .ok _
    · exact .error rfl

namespace Condition

theorem columnOfJson_failsWith (column : String) (d : Json) :
    FailsWith (·.isOfCondition) (columnOfJson column d) := by
  rw [columnOfJson.eq_def]
  split
  · exact .ok _
  · exact (FailsWith.mapM fun d _ ↦ Operand.ofJson_failsWith d).bind fun _ ↦ .ok _
  · split
    · exact (Operand.ofJson_failsWith _).bind fun _ ↦ .ok _
    · apply FailsWith.bind
      · exact FailsWith.mapM fun m _ ↦ Test.ofJson_failsWith column m.1 m.2
      intro ts
      rw [ofTests.eq_def]
      split
      · exact .error rfl
      · exact .ok _
      · exact .ok _
  · exact (Operand.ofJson_failsWith _).bind fun _ ↦ .ok _

theorem connectedOfJson_failsWith (key : String) {d : Json}
    (h : FailsWith (·.isOfCondition) (ofJson d)) :
    FailsWith (·.isOfCondition) (connectedOfJson key d) := by
  rw [connectedOfJson.eq_def]
  split
  · rw [ofJson] at h
    exact h.of_bind
  · exact .error rfl

theorem requirementOfJson_failsWith (key : String) {d : Json}
    (h : FailsWith (·.isOfCondition) (ofJson d)) :
    FailsWith (·.isOfCondition) (requirementOfJson key d) := by
  rw [requirementOfJson]
  split_ifs
  · exact (connectedOfJson_failsWith key h).map
  · exact (connectedOfJson_failsWith key h).map
  · exact columnOfJson_failsWith key d

theorem ofJson_failsWith (d : Json) : FailsWith (·.isOfCondition) (ofJson d) := by
  induction d using Json.induction with
  | null | bool | integer | double => exact .error rfl
  | text => exact .ok _
  | array items ih =>
    rw [ofJson, itemsOfJson_eq_mapM]
    exact (FailsWith.mapM ih).bind fun _ ↦ .ok _
  | object members ih =>
    rw [ofJson, membersOfJson_eq_mapM]
    exact (FailsWith.mapM fun m hm ↦ requirementOfJson_failsWith m.1 (ih m hm)).bind fun _ ↦ .ok _

end Condition

/-- **Conditions in descriptions.** A document is read as a condition if and only if it is one, and
then as the condition that it stands for. Otherwise the error is about conditions. The order in
which the members of an object are written does not matter. -/
theorem Condition.ofJson_canonical (d : Json) :
    ((∃ c, ofJson d.canonical = .ok c) ↔ d.IsCondition) ∧
      (∀ c, ofJson d.canonical = .ok c ↔ d.Denotes c) ∧
      (∀ e, ofJson d.canonical = .error e → e.isOfCondition ∧
        e.message = "invalid statement description: " ++ e.cause) ∧
      ∀ members members' : List (String × Json), d = .object members →
        (members.map Prod.fst).Nodup → members.Perm members' →
          ofJson (Json.object members').canonical = ofJson d.canonical := by
  refine ⟨?_, ofJson_canonical_eq_ok_iff d, ?_, ?_⟩
  · simp only [ofJson_canonical_eq_ok_iff]
    exact d.exists_denotes_iff
  · intro e h
    exact ⟨ofJson_failsWith d.canonical e h, rfl⟩
  · rintro members members' rfl distinct perm
    have sorts := Json.sorts_sortMembers members
    rw [sorts.canonical_object, (sorts.of_perm distinct perm).canonical_object]

/-- Operators in several spellings and two connectives, in either order of the members; and an
operator that there is not. -/
theorem Condition.ofJson_canonical_spelled :
    let adult : Json := .object
      [(" GE ", .integer 18), ("<", .object [("$token", .text "limit")])]
    let members : List (String × Json) :=
      [("state", .null),
        ("$or", .array [.object [("age", adult)],
          .object [("name", .object [("Not Like", .text "x%")])], .text "a = 1"]),
        ("kind", .array [.integer 1, .object [("$col", .text "k")]])]
    let tree : Condition := .group .and
      [.group .or
        [.group .and [.group .and
          [.test "age" (.compare .greaterOrEqual (.placeholder (.value (.int 18)))),
            .test "age" (.compare .less (.placeholder (.token "limit")))]],
          .group .and [.test "name" (.compare .notLike (.placeholder (.value (.text "x%"))))],
          .raw "a = 1"],
        .test "kind" (.isIn false [.placeholder (.value (.int 1)), .column "k"]),
        .test "state" (.isNull false)]
    let refused : Json := .object [("age", .object [("=>", .integer 18)])]
    ofJson (Json.object members).canonical = .ok tree ∧ (Json.object members).Denotes tree ∧
      ofJson (Json.object members.reverse).canonical = .ok tree ∧ ¬refused.IsCondition ∧
      ∃ e, ofJson refused.canonical = .error e ∧ e.isOfCondition := by
  intro adult members tree refused
  obtain ⟨-, denotes, -, reordered⟩ := ofJson_canonical (.object members)
  obtain ⟨accepted, -, refusals, -⟩ := ofJson_canonical refused
  have read : ofJson (Json.object members).canonical = .ok tree := rfl
  have unread : ofJson refused.canonical = .error (.operator "=>" "age" (.integer 18)) := rfl
  refine ⟨read, (denotes tree).mp read, ?_, ?_, _, unread, (refusals _ unread).1⟩
  · exact (reordered members _ rfl (by decide) (List.reverse_perm members).symm).trans read
  · intro isCondition
    obtain ⟨c, hc⟩ := accepted.mpr isCondition
    rw [unread] at hc
    exact nomatch hc

end PreparedSql
