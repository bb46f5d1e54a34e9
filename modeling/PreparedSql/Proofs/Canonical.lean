import Mathlib.Data.List.Induction
import Mathlib.Data.List.Sort
import Mathlib.Data.String.Basic
import PreparedSql.Json.Basic

/-!
# Documents in canonical form

A document that is read from a text lists the members of an object as they were written, but only
the last value of each key counts, and the order of the keys does not. What the members of an object
say is therefore the list of these values in the order of their keys, which exists once. The
canonical form of an object lists its members like this.

## Main definitions

* `Json.Sorts`: the members of an object without the overwritten ones, in the order of their keys.
* `Json.given?`: what the members of an object give for a key.

## Main statements

* `Json.induction`: induction over documents.
* `Json.sorts_iff`: canonical form sorts the members of an object.
* `Json.Sorts.of_perm`: the order in which members are written does not matter.
-/

namespace PreparedSql.Json

/-- What holds of a document if it holds of its items or of the values of its members holds of every
document. -/
@[elab_as_elim]
theorem induction {P : Json → Prop} (null : P .null) (bool : ∀ b, P (.bool b))
    (integer : ∀ n, P (.integer n)) (double : ∀ d, P (.double d)) (text : ∀ s, P (.text s))
    (array : ∀ items, (∀ v ∈ items, P v) → P (.array items))
    (object : ∀ members, (∀ m ∈ members, P m.2) → P (.object members)) (v : Json) : P v := by
  refine @Json.rec P (fun items ↦ ∀ v ∈ items, P v) (fun members ↦ ∀ m ∈ members, P m.2)
    (fun m ↦ P m.2) null bool integer double text array object ?_ ?_ ?_ ?_ ?_ v
  · exact fun _ h ↦ nomatch h
  · exact fun _ _ first rest ↦ List.forall_mem_cons.mpr ⟨first, rest⟩
  · exact fun _ h ↦ nomatch h
  · exact fun _ _ first rest ↦ List.forall_mem_cons.mpr ⟨first, rest⟩
  · exact fun _ _ value ↦ value

section Members

variable {α β : Type} {members members' sorted sorted' : List (String × α)}

/-- The second list has the last value of each key in the first one, in the order of the keys. -/
structure Sorts (members sorted : List (String × α)) : Prop where
  /-- The keys are in order, and each of them occurs once. -/
  increasing : sorted.Pairwise fun m n ↦ m.1 < n.1
  /-- A key has the value that is given last. -/
  mem_iff : ∀ key value, (key, value) ∈ sorted ↔ members.reverse.lookup key = some value

theorem mem_insertMember {key k : String} {value v : α} (h : sorted.Pairwise fun m n ↦ m.1 < n.1) :
    (k, v) ∈ insertMember key value sorted ↔
      if k = key then v = value else (k, v) ∈ sorted := by
  induction sorted with
  | nil => simp [insertMember]
  | cons m sorted ih =>
    obtain ⟨k', v'⟩ := m
    obtain ⟨first, rest⟩ := List.pairwise_cons.mp h
    have behind (hk : k ≤ k') : (k, v) ∉ sorted := fun mem ↦ absurd hk (not_le.mpr (first _ mem))
    rw [insertMember]
    rcases lt_trichotomy key k' with less | rfl | more
    · rw [if_pos less]
      by_cases same : k = key
      · subst same
        simp [less.ne, behind less.le]
      · simp [same]
    · rw [if_neg (lt_irrefl key), if_pos rfl]
      by_cases same : k = key
      · subst same
        simp [behind le_rfl]
      · simp [same]
    · rw [if_neg more.not_gt, if_neg more.ne', List.mem_cons, ih rest]
      by_cases same : k = key
      · subst same
        simp [more.ne']
      · simp [same]

private theorem increasing_insertMember {key : String} {value : α}
    (h : sorted.Pairwise fun m n ↦ m.1 < n.1) :
    (insertMember key value sorted).Pairwise fun m n ↦ m.1 < n.1 := by
  induction sorted with
  | nil => exact List.pairwise_singleton _ _
  | cons m sorted ih =>
    obtain ⟨k', v'⟩ := m
    obtain ⟨first, rest⟩ := List.pairwise_cons.mp h
    rw [insertMember]
    rcases lt_trichotomy key k' with less | rfl | more
    · rw [if_pos less]
      refine List.pairwise_cons.mpr ⟨?_, h⟩
      exact List.forall_mem_cons.mpr ⟨less, fun n hn ↦ less.trans (first n hn)⟩
    · rw [if_neg (lt_irrefl key), if_pos rfl]
      exact List.pairwise_cons.mpr ⟨first, rest⟩
    · rw [if_neg more.not_gt, if_neg more.ne']
      refine List.pairwise_cons.mpr ⟨?_, ih rest⟩
      rintro ⟨k, v⟩ hn
      rw [mem_insertMember rest] at hn
      split at hn
      · next same => exact same ▸ more
      · exact first _ hn

theorem sortMembers_concat (members : List (String × α)) (m : String × α) :
    sortMembers (members ++ [m]) = insertMember m.1 m.2 (sortMembers members) := by
  rw [sortMembers, List.foldl_append]
  rfl

theorem sorts_sortMembers (members : List (String × α)) : Sorts members (sortMembers members) := by
  induction members using List.reverseRecOn with
  | nil => exact ⟨List.Pairwise.nil, by simp [sortMembers]⟩
  | append_singleton members m ih =>
    obtain ⟨key, value⟩ := m
    rw [sortMembers_concat]
    refine ⟨increasing_insertMember ih.increasing, ?_⟩
    intro k v
    rw [mem_insertMember ih.increasing, List.reverse_append, List.reverse_singleton,
      List.singleton_append, List.lookup_cons]
    by_cases same : k = key
    · simp [same, eq_comm]
    · rw [if_neg same, ih.mem_iff, beq_false_of_ne same]

theorem Sorts.mem_of_mem (h : Sorts members sorted) {m : String × α} (hm : m ∈ sorted) :
    m ∈ members := by
  obtain ⟨front, back, split, -⟩ := List.lookup_eq_some_iff.mp ((h.mem_iff m.1 m.2).mp hm)
  rw [← List.mem_reverse, split]
  exact List.mem_append_right _ List.mem_cons_self

theorem Sorts.eq (h : Sorts members sorted) (h' : Sorts members sorted') : sorted = sorted' := by
  have irrefl : Std.Irrefl fun m n : String × α ↦ m.1 < n.1 := ⟨fun m ↦ lt_irrefl m.1⟩
  have antisymm : Std.Antisymm fun m n : String × α ↦ m.1 < n.1 :=
    ⟨fun _ _ less more ↦ absurd more (lt_asymm less)⟩
  refine h.increasing.eq_of_mem_iff h'.increasing ?_
  rintro ⟨key, value⟩
  rw [h.mem_iff, h'.mem_iff]

theorem sorts_iff : Sorts members sorted ↔ sortMembers members = sorted := by
  constructor
  · exact (sorts_sortMembers members).eq
  · rintro rfl
    exact sorts_sortMembers members

theorem lookup_reverse_eq_some_iff (distinct : (members.map Prod.fst).Nodup) (key : String)
    (value : α) : members.reverse.lookup key = some value ↔ (key, value) ∈ members := by
  rw [List.lookup_eq_some_iff, ← List.mem_reverse]
  constructor
  · rintro ⟨front, back, split, -⟩
    simp [split]
  · intro mem
    obtain ⟨front, back, split⟩ := List.append_of_mem mem
    refine ⟨front, back, split, ?_⟩
    have keys := List.nodup_reverse.mpr distinct
    rw [← List.map_reverse, split, List.map_append, List.map_cons] at keys
    intro p hp
    rw [bne_iff_ne]
    exact ((List.nodup_append.mp keys).2.2 p.1 (List.mem_map_of_mem hp) key
      List.mem_cons_self).symm

theorem Sorts.lookup_eq (h : Sorts members sorted) (key : String) :
    sorted.lookup key = members.reverse.lookup key := by
  have keys : (sorted.map Prod.fst).Pairwise (· < ·) := List.pairwise_map.mpr h.increasing
  have distinct : (sorted.reverse.map Prod.fst).Nodup := by
    rw [List.map_reverse, List.nodup_reverse]
    exact keys.imp ne_of_lt
  refine Option.ext fun value ↦ ?_
  rw [← h.mem_iff, ← List.mem_reverse, ← lookup_reverse_eq_some_iff distinct, List.reverse_reverse]

/-- What members say does not depend on the order in which they are written. -/
theorem Sorts.of_perm (h : Sorts members sorted) (distinct : (members.map Prod.fst).Nodup)
    (perm : members.Perm members') : Sorts members' sorted := by
  refine ⟨h.increasing, ?_⟩
  intro key value
  rw [h.mem_iff, lookup_reverse_eq_some_iff distinct, perm.mem_iff,
    lookup_reverse_eq_some_iff ((perm.map Prod.fst).nodup_iff.mp distinct)]

private theorem insertMember_map (f : α → β) (key : String) (value : α) (sorted : List (String × α))
    : insertMember key (f value) (sorted.map fun m ↦ (m.1, f m.2)) =
      (insertMember key value sorted).map fun m ↦ (m.1, f m.2) := by
  induction sorted with
  | nil => rfl
  | cons m sorted ih =>
    rw [List.map_cons, insertMember, insertMember, ih]
    split_ifs <;> rfl

theorem sortMembers_map (f : α → β) (members : List (String × α)) :
    sortMembers (members.map fun m ↦ (m.1, f m.2)) =
      (sortMembers members).map fun m ↦ (m.1, f m.2) := by
  induction members using List.reverseRecOn with
  | nil => rfl
  | append_singleton members m ih =>
    rw [List.map_append, List.map_singleton, sortMembers_concat, sortMembers_concat, ih]
    exact insertMember_map f m.1 m.2 _

/-! ### The value of a key -/

/-- What members give for a key: the value that is given last. -/
def given? (members : List (String × α)) (key : String) : Option α := members.reverse.lookup key

theorem given?_append (members members' : List (String × α)) (key : String) :
    given? (members ++ members') key = (given? members' key).or (given? members key) := by
  rw [given?, List.reverse_append, List.lookup_append]
  rfl

theorem given?_singleton (k key : String) (value : α) :
    given? [(k, value)] key = if key = k then some value else none := by
  rw [given?, List.reverse_singleton, List.lookup_cons]
  by_cases same : key = k
  · simp [same]
  · simp [same, beq_false_of_ne same]

theorem given?_eq_none {key : String} (h : ∀ m ∈ members, m.1 ≠ key) :
    given? members key = none := by
  rw [given?, List.lookup_eq_none_iff]
  intro m hm
  exact bne_iff_ne.mpr (h m (List.mem_reverse.mp hm)).symm

theorem lookup_filter (p : String → Bool) (members : List (String × α)) (key : String) :
    (members.filter fun m ↦ p m.1).lookup key = if p key then members.lookup key else none := by
  induction members with
  | nil => simp
  | cons m members ih =>
    obtain ⟨k, v⟩ := m
    by_cases same : key = k
    · subst same
      cases kept : p key <;> simp [kept, ih]
    · rw [List.lookup_cons, beq_false_of_ne same, ← ih, List.filter_cons]
      split
      · rw [List.lookup_cons, beq_false_of_ne same]
      · rfl

theorem given?_filter (p : String → Bool) (members : List (String × α)) (key : String) :
    given? (members.filter fun m ↦ p m.1) key = if p key then given? members key else none := by
  rw [given?, ← List.filter_reverse, lookup_filter]
  rfl

theorem Sorts.filter (h : Sorts members sorted) (p : String → Bool) :
    Sorts (members.filter fun m ↦ p m.1) (sorted.filter fun m ↦ p m.1) := by
  refine ⟨h.increasing.filter _, ?_⟩
  intro key value
  rw [List.mem_filter, h.mem_iff, ← given?, ← given?, given?_filter]
  cases p key <;> simp

private theorem sorts_nil_iff : Sorts members [] ↔ ∀ key, given? members key = none := by
  constructor
  · intro h key
    rw [given?, ← h.lookup_eq]
    rfl
  · intro h
    refine ⟨.nil, ?_⟩
    intro key value
    rw [← given?, h]
    simp

theorem sorts_singleton_iff {k : String} {v : α} :
    Sorts members [(k, v)] ↔
      given? members k = some v ∧ ∀ key, key ≠ k → given? members key = none := by
  constructor
  · intro h
    have given (key : String) : given? members key = if key = k then some v else none := by
      rw [given?, ← h.lookup_eq, List.lookup_cons]
      by_cases same : key = k
      · simp [same]
      · simp [same, beq_false_of_ne same]
    exact ⟨by rw [given, if_pos rfl], fun key other ↦ by rw [given, if_neg other]⟩
  · rintro ⟨hk, others⟩
    refine ⟨List.pairwise_singleton _ _, ?_⟩
    intro key value
    rw [← given?, List.mem_singleton, Prod.mk.injEq]
    by_cases same : key = k
    · subst same
      simp [hk, eq_comm]
    · simp [same, others key same]

/-- Nothing is said for some of the keys if the part of the list with these keys is empty. -/
theorem Sorts.filter_eq_nil_iff (h : Sorts members sorted) (p : String → Bool) :
    (sorted.filter fun m ↦ p m.1) = [] ↔ ∀ key, p key → given? members key = none := by
  have unique : (sorted.filter fun m ↦ p m.1) = [] ↔ Sorts (members.filter fun m ↦ p m.1) [] :=
    ⟨fun same ↦ same ▸ h.filter p, (h.filter p).eq⟩
  simp only [unique, sorts_nil_iff, given?_filter, ite_eq_right_iff]

/-- Of some of the keys only one is given if it makes up the part of the list with these keys. -/
theorem Sorts.filter_eq_singleton_iff (h : Sorts members sorted) (p : String → Bool) {k : String}
    {v : α} : (sorted.filter fun m ↦ p m.1) = [(k, v)] ↔
      p k ∧ given? members k = some v ∧ ∀ key, p key → key ≠ k → given? members key = none := by
  have unique : (sorted.filter fun m ↦ p m.1) = [(k, v)] ↔
      Sorts (members.filter fun m ↦ p m.1) [(k, v)] :=
    ⟨fun same ↦ same ▸ h.filter p, (h.filter p).eq⟩
  rw [unique, sorts_singleton_iff, given?_filter, Option.ite_none_right_eq_some, and_assoc]
  refine and_congr_right fun _ ↦ and_congr_right fun _ ↦ forall_congr' fun key ↦ ?_
  rw [given?_filter, ite_eq_right_iff]
  exact forall_comm

theorem Sorts.map (h : Sorts members sorted) (f : α → β) :
    Sorts (members.map fun m ↦ (m.1, f m.2)) (sorted.map fun m ↦ (m.1, f m.2)) := by
  rw [sorts_iff, sortMembers_map, sorts_iff.mp h]

theorem given?_map (f : α → β) (members : List (String × α)) (key : String) :
    given? (members.map fun m ↦ (m.1, f m.2)) key = (given? members key).map f := by
  rw [given?, given?, ← List.map_reverse]
  induction members.reverse with
  | nil => rfl
  | cons m members ih =>
    rw [List.map_cons, List.lookup_cons, List.lookup_cons, ih]
    split <;> rfl

end Members

theorem canonical_array (items : List Json) :
    canonical (.array items) = .array (items.map canonical) := by
  rw [canonical, canonicalItems_eq_map]

theorem Sorts.canonical_object {members sorted : List (String × Json)} (h : Sorts members sorted) :
    canonical (.object members) = .object (sorted.map fun m ↦ (m.1, canonical m.2)) := by
  rw [canonical, canonicalMembers_eq_map, sortMembers_map canonical members, sorts_iff.mp h]

end PreparedSql.Json
