import PreparedSql.Proofs.Rebinding

/-!
# Resolving a query and binding its tokens before

The tokens of a statement can get their values in two ways: the statement is compiled with its
tokens and the query resolved for each execution, or the tokens are fixed first and the statement
is compiled again. Both give the same text and the same values, because compiling keeps bindings
apart from the text and adds fixed values only.

Resolving refuses the first token without a value; it never does if a source has a value for every
name, and so lenient resolution is resolution from the source that has `NULL` for the others.

## Main definitions

* `Binding.fix`: a binding with the value that a source has for its token.

## Main statements

* `Query.resolve_of_covered`, `Query.resolve_of_missing`: when resolving succeeds and how it fails.
* `Statement.compile_fix`: compiling a statement whose tokens are fixed.
* `Statement.resolve_compile`: resolving is compiling with fixed tokens.
-/

namespace PreparedSql

open NamedValues

variable {σ : Type} [NamedValues σ] (source : σ)

/-! ## Fixing tokens -/

/-- The binding, fixed to the value that the source has for its token if there is one. -/
def Binding.fix : Binding → Binding
  | .value v => .value v
  | .token n =>
    match valueOf? source n with
    | some v => .value v
    | none => .token n

/-- The source that has `NULL` for every name without a value. -/
def orNull (n : String) : Option Value := some ((valueOf? source n).getD .null)

variable {source}

/-- What a window binds on its own account is fixed already. -/
private theorem padding_map_fix (ctx : Context) (s : Statement) :
    (s.padding ctx).map (Binding.fix source) = s.padding ctx := by
  cases s with
  | select s =>
    rw [Statement.padding, Select.padding]
    split <;> rfl
  | insert | update | delete => rfl

theorem Statement.compile_fix {ctx : Context} {s : Statement} {q : Query}
    (hq : s.compile ctx = .ok q) : (s.mapBindings (Binding.fix source)).compile ctx =
      .ok ⟨q.sql, q.bindings.map (Binding.fix source)⟩ := by
  obtain ⟨t, ht, rfl⟩ := Statement.compile_eq_ok_iff.mp hq
  obtain ⟨u, hu, text, bound, bindings, fixed⟩ :=
    (s.template_mapBindings ctx (Binding.fix source)).exists_eq_ok ht
  refine Statement.compile_eq_ok_iff.mpr ⟨u, hu, ?_⟩
  rw [Query.ofTemplate, Query.ofTemplate, text, fixed, bindings, List.map_append, padding_map_fix]

/-! ## Resolving -/

theorem Query.resolveBinding_of_covered {b : Binding}
    (h : ∀ n ∈ b.token?, (valueOf? source n).isSome) :
    resolveBinding source b = .ok (resolveBindingOrNull source b) ∧
      b.fix source = .value (resolveBindingOrNull source b) := by
  cases b with
  | value v => exact ⟨rfl, rfl⟩
  | token n =>
    obtain ⟨v, hv⟩ := Option.isSome_iff_exists.mp (h n rfl)
    rw [resolveBinding, Binding.fix, resolveBindingOrNull, hv]
    exact ⟨rfl, rfl⟩

namespace Query

variable {q : Query}

theorem tokens_cons (sql : String) (b : Binding) (bs : List Binding) :
    tokens ⟨sql, b :: bs⟩ = b.token?.toList ++ tokens ⟨sql, bs⟩ := by
  cases b <;> rfl

theorem resolve_cons (sql : String) (b : Binding) (bs : List Binding) :
    resolve ⟨sql, b :: bs⟩ source = (do
      let v ← resolveBinding source b
      let vs ← resolve ⟨sql, bs⟩ source
      return v :: vs) := List.mapM_cons

theorem resolve_of_covered (h : ∀ n ∈ q.tokens, (valueOf? source n).isSome) :
    q.resolve source = .ok (q.resolveOrNull source) := by
  obtain ⟨sql, bs⟩ := q
  induction bs with
  | nil => rfl
  | cons b bs ih =>
    rw [tokens_cons, List.forall_mem_append] at h
    rw [resolve_cons, ih h.2,
      (resolveBinding_of_covered fun n hn ↦ h.1 n (Option.mem_toList.mpr hn)).1]
    rfl

private theorem bindings_map_fix (h : ∀ n ∈ q.tokens, (valueOf? source n).isSome) :
    q.bindings.map (Binding.fix source) = (q.resolveOrNull source).map .value := by
  rw [resolveOrNull, List.map_map]
  apply List.map_congr_left
  intro b hb
  exact (resolveBinding_of_covered fun n hn ↦ h n (List.mem_filterMap.mpr ⟨b, hb, hn⟩)).2

theorem resolve_of_missing {front back : List String} {n : String}
    (split : q.tokens = front ++ n :: back) (hFront : ∀ m ∈ front, (valueOf? source m).isSome)
    (missing : valueOf? source n = none) : q.resolve source = .error (.missingValue n) := by
  obtain ⟨sql, bs⟩ := q
  induction bs generalizing front with
  | nil => exact absurd split (by simp [tokens])
  | cons b bs ih =>
    rw [resolve_cons]
    cases b with
    | value v =>
      rw [ih hFront split]
      rfl
    | token m =>
      cases front with
      | nil =>
        obtain rfl : m = n := (List.cons.inj split).1
        rw [resolveBinding, missing]
        rfl
      | cons m' front =>
        obtain ⟨rfl, rest⟩ := List.cons.inj split
        rw [List.forall_mem_cons] at hFront
        obtain ⟨v, hv⟩ := Option.isSome_iff_exists.mp hFront.1
        rw [resolveBinding, hv, ih hFront.2 rest]
        rfl

theorem exists_missing (h : ¬∀ n ∈ q.tokens, (valueOf? source n).isSome) :
    ∃ front n back, q.tokens = front ++ n :: back ∧ (∀ m ∈ front, (valueOf? source m).isSome) ∧
      valueOf? source n = none := by
  cases first : q.tokens.find? fun n ↦ !(valueOf? source n).isSome with
  | none =>
    rw [List.find?_eq_none] at first
    exact absurd (fun n hn ↦ by simpa [Option.isSome_iff_ne_none] using first n hn) h
  | some n =>
    obtain ⟨missing, front, back, split, hFront⟩ := List.find?_eq_some_iff_append.mp first
    exact ⟨front, n, back, split, by simpa using hFront, by simpa using missing⟩

/-- Lenient resolution is resolution from a source with a value for every name. -/
private theorem resolve_orNull (q : Query) (source : σ) :
    q.resolve (orNull source) = .ok (q.resolveOrNull source) := by
  rw [resolve_of_covered fun _ _ ↦ rfl]
  apply congrArg Except.ok
  apply List.map_congr_left
  intro b _
  cases b <;> rfl

private theorem slots_getElem?_eq_some (q : Query) (k : Nat) (n : String) :
    q.slots[k]? = some (some n) ↔ q.bindings[k]? = some (.token n) := by
  rw [slots, List.getElem?_map, Option.map_eq_some_iff]
  constructor
  · rintro ⟨b, hb, token⟩
    cases b with
    | value => exact nomatch token
    | token m => rw [hb, Option.some.inj token]
  · exact fun h ↦ ⟨_, h, rfl⟩

theorem reduceOption_slots (q : Query) : q.slots.reduceOption = q.tokens := by
  have flat : q.slots.reduceOption = q.bindings.filterMap (id ∘ Binding.token?) :=
    List.filterMap_map
  exact flat

private theorem resolveOrNull_getElem?_of_token {k : Nat} {n : String}
    (covered : (valueOf? source n).isSome) (h : q.bindings[k]? = some (.token n)) :
    (q.resolveOrNull source)[k]? = valueOf? source n := by
  obtain ⟨v, hv⟩ := Option.isSome_iff_exists.mp covered
  rw [resolveOrNull, List.getElem?_map, h, Option.map_some, resolveBindingOrNull, hv,
    Option.getD_some]

theorem resolve_eq_ok_iff {vs : List Value} : q.resolve source = .ok vs ↔
    (∀ n ∈ q.tokens, (valueOf? source n).isSome) ∧ vs = q.resolveOrNull source := by
  constructor
  · intro h
    by_cases covered : ∀ n ∈ q.tokens, (valueOf? source n).isSome
    · rw [resolve_of_covered covered] at h
      exact ⟨covered, (Except.ok.inj h).symm⟩
    · obtain ⟨front, n, back, split, hFront, missing⟩ := exists_missing covered
      rw [resolve_of_missing split hFront missing] at h
      exact nomatch h
  · rintro ⟨covered, rfl⟩
    exact resolve_of_covered covered

end Query

/-! ## Resolving and compiling -/

/-- **Resolving is compiling with fixed tokens.** If a source has a value for every token of a
compiled query, then these values are what the same text has as bindings when the tokens of the
statement are fixed first. Otherwise the first token without a value is refused. Lenient resolution
has `NULL` for it and agrees wherever strict resolution succeeds. The values, the slots and the
bindings are in step. -/
theorem Statement.resolve_compile (source : σ) (ctx : Context) (s : Statement) (q : Query)
    (hq : s.compile ctx = .ok q) :
    ((∀ n ∈ q.tokens, (valueOf? source n).isSome) → ∃ vs, q.resolve source = .ok vs ∧
      (s.mapBindings (Binding.fix source)).compile ctx = .ok ⟨q.sql, vs.map .value⟩) ∧
    ((¬∀ n ∈ q.tokens, (valueOf? source n).isSome) → ∃ front n back,
      q.tokens = front ++ n :: back ∧ (∀ m ∈ front, (valueOf? source m).isSome) ∧
        valueOf? source n = none ∧ q.resolve source = .error (.missingValue n)) ∧
    (q.resolve (orNull source) = .ok (q.resolveOrNull source) ∧
      ∀ vs, q.resolve source = .ok vs → q.resolveOrNull source = vs) ∧
    q.slots.length = q.bindings.length ∧ (q.resolveOrNull source).length = q.bindings.length ∧
    q.slots.reduceOption = q.tokens ∧
    (∀ (k : Nat) (n : String), q.slots[k]? = some (some n) ↔ q.bindings[k]? = some (.token n)) ∧
    ∀ vs, q.resolve source = .ok vs → vs.length = q.bindings.length ∧
      ∀ (k : Nat) (n : String), q.slots[k]? = some (some n) →
        ∃ v, valueOf? source n = some v ∧ vs[k]? = some v := by
  refine ⟨?_, ?_, ⟨q.resolve_orNull source, ?_⟩, List.length_map _, List.length_map _,
    q.reduceOption_slots, q.slots_getElem?_eq_some, ?_⟩
  · intro covered
    refine ⟨_, Query.resolve_of_covered covered, ?_⟩
    rw [Statement.compile_fix hq, Query.bindings_map_fix covered]
  · intro uncovered
    obtain ⟨front, n, back, split, hFront, missing⟩ := Query.exists_missing uncovered
    exact ⟨front, n, back, split, hFront, missing, Query.resolve_of_missing split hFront missing⟩
  · intro vs h
    exact (Query.resolve_eq_ok_iff.mp h).2.symm
  · intro vs h
    obtain ⟨covered, rfl⟩ := Query.resolve_eq_ok_iff.mp h
    refine ⟨List.length_map _, ?_⟩
    intro k n hn
    rw [Query.slots_getElem?_eq_some] at hn
    have token : n ∈ q.tokens := List.mem_filterMap.mpr ⟨_, List.mem_of_getElem? hn, rfl⟩
    obtain ⟨v, hv⟩ := Option.isSome_iff_exists.mp (covered n token)
    exact ⟨v, hv, hv ▸ Query.resolveOrNull_getElem?_of_token (covered n token) hn⟩

/-- A source with a value for every token, and one that lacks the second of them. -/
theorem Statement.resolve_compile_delete :
    let s : Statement := .delete {
      table := "a"
      filter := some (.all [Column.compare "b" .equal (.placeholder (.token "t")),
        Column.compare "c" .equal (.placeholder (.token "u")),
        Column.compare "d" .equal (.placeholder (.token "t"))]) }
    let full : List (String × Value) := [("t", .int 7), ("u", .null)]
    let partly : List (String × Value) := [("t", .int 7)]
    ∃ q, s.compile .standard = .ok q ∧
      (∃ vs, q.resolve full = .ok vs ∧
        (s.mapBindings (Binding.fix full)).compile .standard = .ok ⟨q.sql, vs.map .value⟩) ∧
      ∃ n, valueOf? partly n = none ∧ q.resolve partly = .error (.missingValue n) := by
  intro s full partly
  obtain ⟨q, hq, tokens⟩ : ∃ q, s.compile .standard = .ok q ∧ q.tokens = ["t", "u", "t"] :=
    ⟨_, rfl, rfl⟩
  obtain ⟨covered, -⟩ := s.resolve_compile full .standard q hq
  obtain ⟨-, uncovered, -⟩ := s.resolve_compile partly .standard q hq
  rw [tokens] at covered uncovered
  obtain ⟨_, n, _, -, -, missing, refused⟩ := uncovered (by decide)
  exact ⟨q, hq, covered (by decide), n, missing, refused⟩

end PreparedSql
