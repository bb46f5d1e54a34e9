import PreparedSql.Proofs.Canonical
import PreparedSql.Proofs.Steps
import PreparedSql.Query

/-!
# Sources of values

The values of tokens can be given in a map, in an ordered map, in a list or in an array. A query
asks a source for the names of its tokens and for nothing else. What it resolves to, and which token
it refuses first, is therefore the same with any two sources that agree on these names.

Collections made of the same pairs differ in one point only: a map keeps the last value of a name,
and a list is searched from the front. So a map is the list read backwards; and where no name occurs
twice, neither the kind of a collection nor the order of its pairs is seen.

## Main definitions

* `Query.AnsweredAlike`: a query cannot tell two sources apart.

## Main statements

* `Query.AnsweredAlike.of_tokens`: only the names of tokens are asked for.
* `NamedValues.valueOf?_hashMap`, `NamedValues.valueOf?_treeMap`: a map is a list read backwards.
* `Query.sources_agree`: what of a collection of pairs matters to a query.
-/

namespace PreparedSql

open NamedValues

/-! ## Sources that a query cannot tell apart -/

namespace Query

section AnsweredAlike

variable {σ τ : Type} [NamedValues σ] [NamedValues τ]

/-- A query has the same outcome with two sources, whether tokens without a value are refused or
not. -/
structure AnsweredAlike (q : Query) (source : σ) (source' : τ) : Prop where
  /-- The same values, or the same refused token. -/
  resolve_eq : q.resolve source = q.resolve source'
  /-- The same values, `NULL` for tokens without one. -/
  resolveOrNull_eq : q.resolveOrNull source = q.resolveOrNull source'

/-- A query asks a source for the names of its tokens only. -/
theorem AnsweredAlike.of_tokens {q : Query} {source : σ} {source' : τ}
    (same : ∀ n ∈ q.tokens, valueOf? source n = valueOf? source' n) :
    q.AnsweredAlike source source' := by
  have each : ∀ b ∈ q.bindings, resolveBinding source b = resolveBinding source' b ∧
      resolveBindingOrNull source b = resolveBindingOrNull source' b := by
    intro b hb
    cases b with
    | value => exact ⟨rfl, rfl⟩
    | token n =>
      have value := same n (List.mem_filterMap.mpr ⟨_, hb, rfl⟩)
      rw [resolveBinding, resolveBinding, resolveBindingOrNull, resolveBindingOrNull, value]
      exact ⟨rfl, rfl⟩
  constructor
  · exact mapM_eq_of_forall₂ (List.forall₂_same.mpr fun b hb ↦ (each b hb).1)
  · exact List.map_congr_left fun b hb ↦ (each b hb).2

variable {q : Query} {source : σ} {source' : τ}

theorem AnsweredAlike.symm (h : q.AnsweredAlike source source') :
    q.AnsweredAlike source' source := ⟨h.resolve_eq.symm, h.resolveOrNull_eq.symm⟩

theorem AnsweredAlike.trans {υ : Type} [NamedValues υ] {source'' : υ}
    (h : q.AnsweredAlike source source') (h' : q.AnsweredAlike source' source'') :
    q.AnsweredAlike source source'' :=
  ⟨h.resolve_eq.trans h'.resolve_eq, h.resolveOrNull_eq.trans h'.resolveOrNull_eq⟩

end AnsweredAlike

end Query

/-! ## Looking up a name -/

variable {pairs pairs' : List (String × Value)}

namespace NamedValues

private theorem lookup_reverse (pairs : List (String × Value)) (n : String) :
    pairs.reverse.lookup n = pairs.findSomeRev? fun p ↦ if p.1 = n then some p.2 else none := by
  rw [List.lookup_eq_findSome?, List.findSomeRev?_eq_findSome?_reverse]
  simp only [beq_iff_eq, @eq_comm _ n]

theorem valueOf?_hashMap (pairs : List (String × Value)) (n : String) :
    valueOf? (Std.HashMap.ofList pairs) n = pairs.reverse.lookup n := by
  have last : (Std.HashMap.ofList pairs)[n]? = pairs.reverse.lookup n := by
    rw [Std.HashMap.ofList_eq_insertMany_empty, Std.HashMap.getElem?_insertMany_list,
      Std.HashMap.getElem?_empty, Option.or_none, lookup_reverse]
    simp only [beq_iff_eq]
  exact last

theorem valueOf?_treeMap (pairs : List (String × Value)) (n : String) :
    valueOf? (Std.TreeMap.ofList pairs) n = pairs.reverse.lookup n := by
  have last : (Std.TreeMap.ofList pairs)[n]? = pairs.reverse.lookup n := by
    rw [Std.TreeMap.ofList_eq_insertMany_empty, Std.TreeMap.getElem?_insertMany_list,
      Std.TreeMap.getElem?_emptyc, Option.or_none, lookup_reverse]
    simp only [Std.compare_eq_iff_eq]
  exact last

private theorem valueOf?_hashMap_insert_ne (map : Std.HashMap String Value) {n name : String}
    (other : n ≠ name) (value : Value) : valueOf? (map.insert name value) n = valueOf? map n := by
  have kept : (map.insert name value)[n]? = map[n]? := by
    rw [Std.HashMap.getElem?_insert, if_neg]
    exact fun same ↦ other (beq_iff_eq.mp same).symm
  exact kept

private theorem valueOf?_treeMap_insert_ne (map : Std.TreeMap String Value) {n name : String}
    (other : n ≠ name) (value : Value) : valueOf? (map.insert name value) n = valueOf? map n := by
  have kept : (map.insert name value)[n]? = map[n]? := by
    rw [Std.TreeMap.getElem?_insert, if_neg]
    exact fun same ↦ other (Std.compare_eq_iff_eq.mp same).symm
  exact kept

theorem lookup_perm (distinct : (pairs.map Prod.fst).Nodup) (perm : pairs'.Perm pairs)
    (n : String) : pairs'.lookup n = pairs.lookup n := by
  have given {pairs : List (String × Value)} (distinct : (pairs.map Prod.fst).Nodup) (v : Value) :
      pairs.lookup n = some v ↔ (n, v) ∈ pairs := by
    have reversed : (pairs.reverse.map Prod.fst).Nodup := by
      rwa [List.map_reverse, List.nodup_reverse]
    have last := Json.lookup_reverse_eq_some_iff reversed n v
    rwa [List.reverse_reverse, List.mem_reverse] at last
  refine Option.ext fun v ↦ ?_
  rw [given ((perm.map Prod.fst).nodup_iff.mpr distinct), given distinct, perm.mem_iff]

theorem lookup_insert_ne {n name : String} (other : n ≠ name) (value : Value)
    (front back : List (String × Value)) :
    (front ++ (name, value) :: back).lookup n = (front ++ back).lookup n := by
  rw [List.lookup_append, List.lookup_append, List.lookup_cons, beq_false_of_ne other]

theorem lookup_append_of_mem {name : String} (mem : name ∈ pairs.map Prod.fst) (value : Value)
    (n : String) : (pairs ++ [(name, value)]).lookup n = pairs.lookup n := by
  by_cases same : n = name
  · subst same
    obtain ⟨p, hp, found⟩ := List.mem_map.mp mem
    have some : (pairs.lookup n).isSome :=
      List.lookup_isSome_iff.mpr ⟨p, hp, beq_iff_eq.mpr found.symm⟩
    rw [List.lookup_append, Option.or_of_isSome some]
  · rw [lookup_insert_ne same, List.append_nil]

end NamedValues

/-! ## Collections of pairs -/

namespace Query

/-- A query cannot tell the collections of two lists of pairs apart, each from the one of its own
kind. -/
structure CollectedAlike (q : Query) (pairs pairs' : List (String × Value)) : Prop where
  /-- Maps under hashed names. -/
  hashed : q.AnsweredAlike (Std.HashMap.ofList pairs) (Std.HashMap.ofList pairs')
  /-- Maps under ordered names. -/
  ordered : q.AnsweredAlike (Std.TreeMap.ofList pairs) (Std.TreeMap.ofList pairs')
  /-- The lists themselves. -/
  listed : q.AnsweredAlike pairs pairs'
  /-- Arrays with the pairs as their items. -/
  fixed : ∀ {m n : Nat} (array : Vector (String × Value) m) (array' : Vector (String × Value) n),
    array.toList = pairs → array'.toList = pairs' → q.AnsweredAlike array array'

variable {q : Query}

namespace AnsweredAlike

theorem hashMap (pairs : List (String × Value)) :
    q.AnsweredAlike (Std.HashMap.ofList pairs) pairs.reverse :=
  .of_tokens fun n _ ↦ valueOf?_hashMap pairs n

theorem treeMap (pairs : List (String × Value)) :
    q.AnsweredAlike (Std.TreeMap.ofList pairs) pairs.reverse :=
  .of_tokens fun n _ ↦ valueOf?_treeMap pairs n

theorem array {n : Nat} (array : Vector (String × Value) n) :
    q.AnsweredAlike array array.toList := .of_tokens fun _ _ ↦ rfl

theorem of_perm (distinct : (pairs.map Prod.fst).Nodup) (perm : pairs'.Perm pairs) :
    q.AnsweredAlike pairs' pairs := .of_tokens fun n _ ↦ lookup_perm distinct perm n

theorem append_of_mem {name : String} (mem : name ∈ pairs.map Prod.fst) (value : Value) :
    q.AnsweredAlike (pairs ++ [(name, value)]) pairs :=
  .of_tokens fun n _ ↦ lookup_append_of_mem mem value n

end AnsweredAlike

/-- If a query cannot tell two lists apart, neither as they are nor read backwards, it cannot tell
collections of them apart. -/
private theorem CollectedAlike.of_lists (front : q.AnsweredAlike pairs pairs')
    (back : q.AnsweredAlike pairs.reverse pairs'.reverse) : q.CollectedAlike pairs pairs' where
  hashed := (AnsweredAlike.hashMap pairs).trans (back.trans (AnsweredAlike.hashMap pairs').symm)
  ordered := (AnsweredAlike.treeMap pairs).trans (back.trans (AnsweredAlike.treeMap pairs').symm)
  listed := front
  fixed := by
    rintro m n array array' rfl rfl
    exact (AnsweredAlike.array array).trans (front.trans (AnsweredAlike.array array').symm)

private theorem CollectedAlike.insert {name : String} (unused : name ∉ q.tokens) (value : Value)
    (front back : List (String × Value)) :
    q.CollectedAlike (front ++ (name, value) :: back) (front ++ back) := by
  have listed (front back : List (String × Value)) :
      q.AnsweredAlike (front ++ (name, value) :: back) (front ++ back) :=
    .of_tokens fun n hn ↦ lookup_insert_ne (ne_of_mem_of_not_mem hn unused) value front back
  refine .of_lists (listed front back) ?_
  -- read backwards, the pair stands between the same two lists the other way round
  rw [List.reverse_append, List.reverse_cons, List.append_assoc, List.singleton_append,
    List.reverse_append]
  exact listed back.reverse front.reverse

/-- **Sources of values agree.** A map gives a query what the list of its pairs gives that is read
backwards. Where no name occurs twice, all collections of the pairs, in any order, give the same. A
pair under a name that is no token changes nothing, wherever it is added; nor does a pair that is
added behind one with the same name, in a list or an array. -/
theorem sources_agree (q : Query) (pairs : List (String × Value)) :
    (q.AnsweredAlike (Std.HashMap.ofList pairs) pairs.reverse ∧
      q.AnsweredAlike (Std.TreeMap.ofList pairs) pairs.reverse) ∧
    ((pairs.map Prod.fst).Nodup → ∀ pairs', pairs'.Perm pairs →
      q.AnsweredAlike (Std.HashMap.ofList pairs') pairs ∧
      q.AnsweredAlike (Std.TreeMap.ofList pairs') pairs ∧
      q.AnsweredAlike pairs' pairs ∧
      ∀ {n : Nat} (array : Vector (String × Value) n), array.toList = pairs' →
        q.AnsweredAlike array pairs) ∧
    (∀ name ∉ q.tokens, ∀ value : Value,
      (∀ front back, front ++ back = pairs →
        q.CollectedAlike (front ++ (name, value) :: back) pairs) ∧
      (∀ map : Std.HashMap String Value, q.AnsweredAlike (map.insert name value) map) ∧
      ∀ map : Std.TreeMap String Value, q.AnsweredAlike (map.insert name value) map) ∧
    ∀ name ∈ pairs.map Prod.fst, ∀ value : Value,
      q.AnsweredAlike (pairs ++ [(name, value)]) pairs ∧
      ∀ {n : Nat} (array : Vector (String × Value) n), array.toList = pairs →
        q.AnsweredAlike (array.push (name, value)) array := by
  refine ⟨⟨.hashMap pairs, .treeMap pairs⟩, ?_, ?_, ?_⟩
  · intro distinct pairs' perm
    have backwards : q.AnsweredAlike pairs'.reverse pairs :=
      .of_perm distinct ((List.reverse_perm pairs').trans perm)
    refine ⟨(AnsweredAlike.hashMap pairs').trans backwards,
      (AnsweredAlike.treeMap pairs').trans backwards, .of_perm distinct perm, ?_⟩
    rintro n array rfl
    exact (AnsweredAlike.array array).trans (.of_perm distinct perm)
  · intro name unused value
    have other {n : String} (hn : n ∈ q.tokens) : n ≠ name := ne_of_mem_of_not_mem hn unused
    refine ⟨?_, ?_, ?_⟩
    · rintro front back rfl
      exact .insert unused value front back
    · exact fun map ↦ .of_tokens fun n hn ↦ valueOf?_hashMap_insert_ne map (other hn) value
    · exact fun map ↦ .of_tokens fun n hn ↦ valueOf?_treeMap_insert_ne map (other hn) value
  · intro name mem value
    refine ⟨.append_of_mem mem value, ?_⟩
    rintro n array rfl
    have pushed : (array.push (name, value)).toList = array.toList ++ [(name, value)] :=
      Vector.toList_push
    have appended : q.AnsweredAlike (array.toList ++ [(name, value)]) array.toList :=
      .append_of_mem mem value
    exact (AnsweredAlike.array _).trans (pushed ▸ appended.trans (AnsweredAlike.array array).symm)

/-- The name `a` is given twice, `b` once, and `c` not at all. -/
theorem sources_agree_repeated :
    let q : Query := ⟨"? ? ?", [.token "a", .value .null, .token "b"]⟩
    let pairs : List (String × Value) := [("a", .int 1), ("b", .int 2), ("a", .int 3)]
    q.resolve (Std.HashMap.ofList pairs) = .ok [.int 3, .null, .int 2] ∧
    q.resolve (pairs ++ [("b", .int 4)]) = .ok [.int 1, .null, .int 2] ∧
    q.resolve (("c", .int 5) :: pairs) = .ok [.int 1, .null, .int 2] ∧
    q.resolve (Std.TreeMap.ofList [("b", Value.int 2), ("a", .int 1)]) =
      .ok [.int 1, .null, .int 2] := by
  intro q pairs
  obtain ⟨⟨hashed, -⟩, -, unused, repeated⟩ := sources_agree q pairs
  obtain ⟨-, distinct, -⟩ := sources_agree q [("a", Value.int 1), ("b", .int 2)]
  refine ⟨?_, ?_, ?_, ?_⟩
  · rw [hashed.resolve_eq]
    rfl
  · rw [(repeated "b" (by decide) (.int 4)).1.resolve_eq]
    rfl
  · refine (((unused "c" (by decide) (.int 5)).1 [] pairs rfl).listed.resolve_eq).trans ?_
    rfl
  · rw [(distinct (by decide) _ (List.Perm.swap _ _ _)).2.1.resolve_eq]
    rfl

end Query

end PreparedSql
