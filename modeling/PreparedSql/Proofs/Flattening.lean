import PreparedSql.Proofs.Outcome

/-!
# Joining conditions

Joining two conditions puts the second one into the first if that is a group under the same
connective, and groups the two of them otherwise. Whatever is joined in this way means what the
expression says that was written down, fully parenthesised; its bindings and what is wrong with it
are those of the parts, one after the other.

The meaning of a condition is its truth value, given one for each of its leaves. A part that says
nothing has none, and does not count.

## Main definitions

* `Condition.truth`: the truth value of a condition.
* `Condition.AddsUp`: what adds up over the members of groups.
* `Expression`: an expression built from conditions by joining and grouping.
* `Expression.truth`: the truth value of an expression, read as it is parenthesised.

## Main statements

* `Condition.truth_connect`, `Condition.AddsUp.connect`: two conditions that are joined.
* `Expression.condition_preserves`: joining keeps the meaning, the bindings and the errors.
-/

namespace PreparedSql

/-! ## Truth values -/

namespace Connective

/-- What a connective makes of two truth values. -/
def op : Connective → Bool → Bool → Bool
  | and => Bool.and
  | or => Bool.or

/-- What a connective makes of two parts; a part without a truth value does not count. -/
def merge (k : Connective) : Option Bool → Option Bool → Option Bool := Option.merge k.op

/-- What a connective makes of any number of parts. -/
def mergeAll (k : Connective) (parts : List (Option Bool)) : Option Bool := parts.foldr k.merge none

variable (k : Connective)

@[simp] private theorem merge_none (v : Option Bool) : k.merge v none = v := Option.merge_none_right

@[simp] private theorem none_merge (v : Option Bool) : k.merge none v = v := Option.merge_none_left

theorem merge_eq_none_iff {v w : Option Bool} : k.merge v w = none ↔ v = none ∧ w = none := by
  cases v <;> cases w <;> simp [merge, Option.merge]

instance : Std.Associative k.merge where
  assoc u v w := by
    have op_assoc (a b c : Bool) : k.op (k.op a b) c = k.op a (k.op b c) := by
      cases k with
      | and => exact Bool.and_assoc a b c
      | or => exact Bool.or_assoc a b c
    cases u <;> cases v <;> cases w <;> simp [merge, Option.merge, op_assoc]

theorem mergeAll_append (parts parts' : List (Option Bool)) :
    k.mergeAll (parts ++ parts') = k.merge (k.mergeAll parts) (k.mergeAll parts') := by
  have passed : k.mergeAll parts' = k.merge none (k.mergeAll parts') := (k.none_merge _).symm
  rw [mergeAll, List.foldr_append, ← mergeAll, passed, List.foldr_assoc, k.none_merge]
  rfl

end Connective

namespace Condition

mutual

def leafCount : Condition → ℕ
  | test _ _ => 1
  | group _ members => allLeafCount members
  | raw sql => if Text.allBlank sql then 0 else 1
termination_by structural condition => condition

def allLeafCount : List Condition → ℕ
  | [] => 0
  | member :: rest => leafCount member + allLeafCount rest
termination_by structural members => members

end

mutual

/-- The truth value of a condition, given one for each leaf and its place among all leaves. The
first leaf has the place `n`. -/
def truth (σ : ℕ → Condition → Bool) : ℕ → Condition → Option Bool
  | n, test column t => some (σ n (test column t))
  | n, group k members => k.mergeAll (truths σ n members)
  | n, raw sql => if Text.allBlank sql then none else some (σ n (raw sql))
termination_by structural _ condition => condition

/-- The truth values of conditions, the leaves of which follow each other. -/
def truths (σ : ℕ → Condition → Bool) : ℕ → List Condition → List (Option Bool)
  | _, [] => []
  | n, member :: rest => truth σ n member :: truths σ (n + leafCount member) rest
termination_by structural _ members => members

end

variable {σ : ℕ → Condition → Bool}

mutual

theorem truth_eq_none_iff (n : ℕ) : ∀ c : Condition, c.truth σ n = none ↔ c.isEmpty
  | .test _ _ => iff_of_false nofun nofun
  | .group k members => mergeAll_truths_eq_none_iff k n members
  | .raw sql => by
    rw [truth, isEmpty]
    split <;> simp_all
termination_by structural c => c

theorem mergeAll_truths_eq_none_iff (k : Connective) (n : ℕ) :
    ∀ cs : List Condition, k.mergeAll (truths σ n cs) = none ↔ allEmpty cs
  | [] => iff_of_true rfl rfl
  | c :: cs => by
    rw [allEmpty, Bool.and_eq_true, ← truth_eq_none_iff n c,
      ← mergeAll_truths_eq_none_iff k (n + c.leafCount) cs, ← k.merge_eq_none_iff]
    rfl
termination_by structural cs => cs

end

/-! ## What adds up over members -/

/-- Something that adds up over the members of groups: `measure` of a group is `measureAll` of its
members, and this is put together by `op` from the `measure` of each of them. -/
structure AddsUp {α : Type} (op : α → α → α) (e : α) (measure : Condition → α)
    (measureAll : List Condition → α) : Prop where
  nil : measureAll [] = e
  cons : ∀ c cs, measureAll (c :: cs) = op (measure c) (measureAll cs)
  group : ∀ k members, measure (group k members) = measureAll members

private theorem addsUp_leafCount : AddsUp (· + ·) 0 leafCount allLeafCount :=
  ⟨rfl, fun _ _ ↦ rfl, fun _ _ ↦ rfl⟩

private theorem addsUp_isEmpty : AddsUp (· && ·) true isEmpty allEmpty :=
  ⟨rfl, fun _ _ ↦ rfl, fun _ _ ↦ rfl⟩

private theorem addsUp_columns : AddsUp (· ++ ·) [] columns allColumns :=
  ⟨rfl, fun _ _ ↦ rfl, fun _ _ ↦ rfl⟩

private theorem addsUp_bindings : AddsUp (· ++ ·) [] bindings allBindings :=
  ⟨rfl, fun _ _ ↦ rfl, fun _ _ ↦ rfl⟩

theorem truths_append (n : ℕ) (cs cs' : List Condition) :
    truths σ n (cs ++ cs') = truths σ n cs ++ truths σ (n + allLeafCount cs) cs' := by
  induction cs generalizing n with
  | nil => rfl
  | cons c cs ih =>
    rw [List.cons_append, truths, truths, ih, allLeafCount, Nat.add_assoc]
    rfl

/-! ## Joining -/

variable (k : Connective) (a b : Condition)

theorem connect_cases : (∃ members, a = group k members ∧
    connect k a b = group k (members ++ [b])) ∨ connect k a b = group k [a, b] := by
  cases a with
  | test | raw => exact .inr rfl
  | group c members =>
    rw [connect]
    split
    · next same => exact .inl ⟨members, same ▸ rfl, rfl⟩
    · exact .inr rfl

/-- What adds up over members adds up over conditions that are joined. -/
theorem AddsUp.connect {α : Type} {op : α → α → α} {e : α} [Std.Associative op]
    [Std.LawfulIdentity op e] {measure : Condition → α} {measureAll : List Condition → α}
    (h : AddsUp op e measure measureAll) :
    measure (connect k a b) = op (measure a) (measure b) := by
  have right_id (x : α) : op x e = x := Std.LawfulRightIdentity.right_id x
  have left_id (x : α) : op e x = x := Std.LawfulLeftIdentity.left_id x
  have assoc (x y z : α) : op (op x y) z = op x (op y z) := Std.Associative.assoc x y z
  have single : measureAll [b] = measure b := by rw [h.cons, h.nil, right_id]
  have append (members : List Condition) :
      measureAll (members ++ [b]) = op (measureAll members) (measure b) := by
    induction members with
    | nil => rw [List.nil_append, single, h.nil, left_id]
    | cons c members ih => rw [List.cons_append, h.cons, h.cons, ih, assoc]
  obtain ⟨members, rfl, joined⟩ | joined := connect_cases k a b
  · rw [joined, h.group, h.group, append]
  · rw [joined, h.group, h.cons, single]

theorem truth_connect (n : ℕ) :
    (connect k a b).truth σ n = k.merge (a.truth σ n) (b.truth σ (n + a.leafCount)) := by
  have single (m : ℕ) : k.mergeAll (truths σ m [b]) = b.truth σ m := k.merge_none _
  obtain ⟨members, rfl, joined⟩ | joined := connect_cases k a b
  · rw [joined, truth, truths_append, k.mergeAll_append, single]
    rfl
  · rw [joined, ← single]
    rfl

theorem faults_connect : (connect k a b).faults = a.faults ++ b.faults := by
  rw [faults, addsUp_columns.connect, blankFaults_append]
  rfl

variable {k a b} {ctx : Context}

private theorem whereClause_connect_eq_error_iff {e : CompileError} :
    (connect k a b).whereClause ctx = .error e ↔
      a.whereClause ctx = .error e ∨
        (∃ t, a.whereClause ctx = .ok t) ∧ b.whereClause ctx = .error e := by
  rw [((connect k a b).outcome_whereClause ctx).eq_error_iff,
    (a.outcome_whereClause ctx).eq_error_iff, (a.outcome_whereClause ctx).exists_eq_ok_iff,
    (b.outcome_whereClause ctx).eq_error_iff, faults_connect]
  cases a.faults <;> simp

private theorem exists_of_whereClause_connect_eq_ok {t : Template}
    (h : (connect k a b).whereClause ctx = .ok t) :
    ∃ ta tb, a.whereClause ctx = .ok ta ∧ b.whereClause ctx = .ok tb ∧
      t.bindings = ta.bindings ++ tb.bindings := by
  have sound := ((connect k a b).outcome_whereClause ctx).exists_eq_ok_iff.mp ⟨t, h⟩
  rw [faults_connect, List.append_eq_nil_iff] at sound
  obtain ⟨ta, hta⟩ := (a.outcome_whereClause ctx).exists_eq_ok_iff.mpr sound.1
  obtain ⟨tb, htb⟩ := (b.outcome_whereClause ctx).exists_eq_ok_iff.mpr sound.2
  refine ⟨ta, tb, hta, htb, ?_⟩
  rw [((connect k a b).outcome_whereClause ctx).of_eq_ok h,
    (a.outcome_whereClause ctx).of_eq_ok hta, (b.outcome_whereClause ctx).of_eq_ok htb,
    addsUp_bindings.connect]

end Condition

/-! ## Expressions -/

/-- An expression that joins and groups conditions. -/
inductive Expression where
  /-- A condition. -/
  | leaf (condition : Condition)
  /-- Both expressions are required. -/
  | and (first second : Expression)
  /-- One of the two expressions is enough. -/
  | or (first second : Expression)
  /-- All of the expressions are required. -/
  | all (members : List Expression)
  /-- Any of the expressions is enough. -/
  | any (members : List Expression)

namespace Expression

mutual

def condition : Expression → Condition
  | leaf c => c
  | and x y => (condition x).and (condition y)
  | or x y => (condition x).or (condition y)
  | all members => .all (conditions members)
  | any members => .any (conditions members)
termination_by structural x => x

def conditions : List Expression → List Condition
  | [] => []
  | x :: rest => condition x :: conditions rest
termination_by structural members => members

end

mutual

def leafCount : Expression → ℕ
  | leaf c => c.leafCount
  | and x y | or x y => leafCount x + leafCount y
  | all members | any members => allLeafCount members
termination_by structural x => x

def allLeafCount : List Expression → ℕ
  | [] => 0
  | x :: rest => leafCount x + allLeafCount rest
termination_by structural members => members

end

mutual

/-- The truth value of an expression, read as it is parenthesised, given one for each leaf and its
place among all leaves. The first leaf has the place `n`. -/
def truth (σ : ℕ → Condition → Bool) : ℕ → Expression → Option Bool
  | n, leaf c => c.truth σ n
  | n, and x y => Connective.and.merge (truth σ n x) (truth σ (n + leafCount x) y)
  | n, or x y => Connective.or.merge (truth σ n x) (truth σ (n + leafCount x) y)
  | n, all members => Connective.and.mergeAll (truths σ n members)
  | n, any members => Connective.or.mergeAll (truths σ n members)
termination_by structural _ x => x

/-- The truth values of expressions, the leaves of which follow each other. -/
def truths (σ : ℕ → Condition → Bool) : ℕ → List Expression → List (Option Bool)
  | _, [] => []
  | n, x :: rest => truth σ n x :: truths σ (n + leafCount x) rest
termination_by structural _ members => members

end

mutual

theorem leafCount_condition : ∀ x : Expression, x.condition.leafCount = x.leafCount
  | .leaf _ => rfl
  | .and x y | .or x y => by
    rw [leafCount, ← leafCount_condition x, ← leafCount_condition y]
    exact Condition.addsUp_leafCount.connect _ _ _
  | .all members | .any members => allLeafCount_conditions members
termination_by structural x => x

theorem allLeafCount_conditions :
    ∀ xs : List Expression, Condition.allLeafCount (conditions xs) = allLeafCount xs
  | [] => rfl
  | x :: xs => by
    rw [conditions, Condition.allLeafCount, leafCount_condition x, allLeafCount_conditions xs]
    rfl
termination_by structural xs => xs

end

-- a member has its leaves at the same places on both sides because those before it have as many
mutual

theorem truth_condition (σ : ℕ → Condition → Bool) (n : ℕ) :
    ∀ x : Expression, x.condition.truth σ n = x.truth σ n
  | .leaf _ => rfl
  | .and x y | .or x y => by
    rw [truth, ← truth_condition σ n x, ← truth_condition σ _ y, ← leafCount_condition x]
    exact Condition.truth_connect _ _ _ _
  | .all members | .any members => congrArg _ (truths_conditions σ n members)
termination_by structural x => x

theorem truths_conditions (σ : ℕ → Condition → Bool) (n : ℕ) :
    ∀ xs : List Expression, Condition.truths σ n (conditions xs) = truths σ n xs
  | [] => rfl
  | x :: xs => by
    rw [conditions, Condition.truths, truth_condition σ n x, leafCount_condition x,
      truths_conditions σ _ xs]
    rfl
termination_by structural xs => xs

end

/-- **Joining conditions.** The condition that an expression builds has the truth value of the
expression, whatever the truth values of the leaves are, and has none if and only if it says
nothing. Two conditions that are joined say nothing if and only if neither of them does. Compiling
them fails if and only if it fails for one of them, with the error of the first one for which it
does; and otherwise they bind what the first one binds and then what the second one binds. -/
theorem condition_preserves :
    (∀ (x : Expression) (σ : ℕ → Condition → Bool), x.condition.truth σ 0 = x.truth σ 0) ∧
    (∀ (c : Condition) (σ : ℕ → Condition → Bool), c.truth σ 0 = none ↔ c.isEmpty) ∧
    ∀ a b c : Condition, c = a.and b ∨ c = a.or b →
      (c.isEmpty ↔ a.isEmpty ∧ b.isEmpty) ∧
      ∀ ctx, (∀ e, c.whereClause ctx = .error e ↔ a.whereClause ctx = .error e ∨
          (∃ t, a.whereClause ctx = .ok t) ∧ b.whereClause ctx = .error e) ∧
        ∀ t, c.whereClause ctx = .ok t → ∃ ta tb, a.whereClause ctx = .ok ta ∧
          b.whereClause ctx = .ok tb ∧ t.bindings = ta.bindings ++ tb.bindings := by
  refine ⟨fun x σ ↦ truth_condition σ 0 x, fun c σ ↦ c.truth_eq_none_iff 0, ?_⟩
  intro a b c joined
  obtain ⟨k, rfl⟩ : ∃ k, c = a.connect k b := joined.elim (⟨.and, ·⟩) (⟨.or, ·⟩)
  rw [Condition.addsUp_isEmpty.connect, Bool.and_eq_true]
  exact ⟨Iff.rfl, fun ctx ↦ ⟨fun e ↦ Condition.whereClause_connect_eq_error_iff,
    fun t ↦ Condition.exists_of_whereClause_connect_eq_ok⟩⟩

/-- A chain of both connectives that ends in a group, the first member of which says nothing; and
two conditions that are joined, one with a binding and one that is refused, in either order. -/
theorem condition_preserves_chain :
    let a : Condition := .test "a" (.compare .equal (.placeholder (.token "x")))
    let b : Condition := .test "b" (.compare .less (.placeholder (.token "y")))
    let blank : Condition := .test " " (.isNull false)
    let x : Expression := .or (.and (.or (.leaf a) (.leaf b)) (.leaf blank))
      (.all [.leaf (.raw " "), .leaf (.raw "d")])
    (∀ σ, x.condition.truth σ 0 = some (((σ 0 a || σ 1 b) && σ 2 blank) || σ 3 (.raw "d"))) ∧
      ¬(a.and b).isEmpty ∧
      (∃ t, (a.and b).whereClause .standard = .ok t ∧ t.bindings = [.token "x", .token "y"]) ∧
      (a.or blank).whereClause .standard = .error (.inCondition .blankColumn) ∧
      (blank.or a).whereClause .standard = .error (.inCondition .blankColumn) := by
  intro a b blank x
  obtain ⟨meaning, -, parts⟩ := condition_preserves
  have accepted : ∃ t, a.whereClause .standard = .ok t := ⟨_, rfl⟩
  have refused : blank.whereClause .standard = .error (.inCondition .blankColumn) := rfl
  obtain ⟨empty, joined⟩ := parts a b (a.and b) (.inl rfl)
  obtain ⟨-, first⟩ := parts a blank (a.or blank) (.inr rfl)
  obtain ⟨-, second⟩ := parts blank a (blank.or a) (.inr rfl)
  refine ⟨fun σ ↦ meaning x σ, fun h ↦ Bool.false_ne_true (empty.mp h).1, ?_,
    ((first .standard).1 _).mpr (.inr ⟨accepted, refused⟩),
    ((second .standard).1 _).mpr (.inl refused)⟩
  have compiled : ∃ t, (a.and b).whereClause .standard = .ok t := ⟨_, rfl⟩
  obtain ⟨t, ht⟩ := compiled
  obtain ⟨ta, tb, hta, htb, bound⟩ := (joined .standard).2 t ht
  rw [(a.outcome_whereClause .standard).of_eq_ok hta,
    (b.outcome_whereClause .standard).of_eq_ok htb] at bound
  exact ⟨t, ht, bound⟩

end Expression

end PreparedSql
