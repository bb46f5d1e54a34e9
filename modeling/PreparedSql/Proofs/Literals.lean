import PreparedSql.Proofs.Congruence
import PreparedSql.Proofs.Loading

/-!
# Tokens in place of literals

A value can be written into the description of a statement, or a token can be written there and its
value be given for the execution. The difference is not seen by anyone: the text of the query is the
same, and so is the outcome of resolving it, as long as the values of the new tokens are read from
the scalars that the tokens stand for. Two readers have to agree for that, the one of descriptions
and the one of named values.

Documents are compared here, not texts. A token nests deeper than the scalar in its place, and a
text that is as deep as the reader of texts allows has no room for it.

## Main definitions

* `swappingCongruence`: compiling respects tokens in place of values.

## Main statements

* `Statement.compile_swapped`: compiling a statement with tokens in place of values.
* `Value.namedOfJson_scalars`: the values that a document of scalars gives to names.
* `Statement.resolve_of_swapped`: loading, compiling and resolving.
-/

namespace PreparedSql

open NamedValues

/-! ## Compiling -/

private theorem Text.stripEnclosing_forall₂ {α β : Type} {R : α → β → Prop} {shown : α → Char}
    {shown' : β → Char} (same : ∀ x y, R x y → shown x = shown' y) (openQuote closeQuote : Char)
    {xs : List α} {ys : List β} (h : List.Forall₂ R xs ys) :
    List.Forall₂ R (stripEnclosing shown openQuote closeQuote xs)
      (stripEnclosing shown' openQuote closeQuote ys) := by
  -- both texts are views of one list of related pairs
  obtain ⟨pairs, rfl, rfl⟩ : ∃ pairs : List { p : α × β // R p.1 p.2 },
      pairs.map (fun p ↦ p.1.1) = xs ∧ pairs.map (fun p ↦ p.1.2) = ys := by
    induction h with
    | nil => exact ⟨[], rfl, rfl⟩
    | @cons x y _ _ first _ ih =>
      obtain ⟨pairs, rfl, rfl⟩ := ih
      exact ⟨⟨(x, y), first⟩ :: pairs, rfl, rfl⟩
  have shows : (shown ∘ fun p : { p : α × β // R p.1 p.2 } ↦ p.1.1) =
      shown' ∘ fun p ↦ p.1.2 := funext fun p ↦ same _ _ p.2
  rw [stripEnclosing_map, stripEnclosing_map, shows, List.forall₂_map_left_iff,
    List.forall₂_map_right_iff, List.forall₂_same]
  exact fun p _ ↦ p.2

section Compile

variable (values : List (String × Json))

/-- Symbols that differ at most in a token in place of a value. -/
inductive Symbol.Swapped : Symbol → Symbol → Prop
  | char (c : Char) : Swapped (.char c) (.char c)
  | placeholder {b b' : Binding} (h : b.Swapped values b') :
      Swapped (.placeholder b) (.placeholder b')

/-- Templates that differ at most in tokens in place of values. -/
abbrev Template.Swapped : Template → Template → Prop := List.Forall₂ (Symbol.Swapped values)

variable {values}

theorem Template.swapped_ofString (s : String) :
    Template.Swapped values (.ofString s) (.ofString s) := by
  rw [Template.Swapped, Template.ofString, List.forall₂_map_left_iff, List.forall₂_map_right_iff]
  exact List.forall₂_same.mpr fun c _ ↦ .char c

theorem Symbol.Swapped.shown_eq {s s' : Symbol} (h : s.Swapped values s') : s.shown = s'.shown := by
  cases h <;> rfl

private theorem Template.Swapped.text_eq {t t' : Template} (h : t.Swapped values t') :
    t'.text = t.text := by
  rw [← String.toList_inj, Template.toList_text, Template.toList_text]
  induction h with
  | nil => rfl
  | cons first _ ih => rw [List.map_cons, List.map_cons, first.shown_eq, ih]

private theorem Template.Swapped.bindings {t t' : Template} (h : t.Swapped values t') :
    List.Forall₂ (Binding.Swapped values) t.bindings t'.bindings := by
  induction h with
  | nil => exact .nil
  | cons first _ ih =>
    cases first with
    | char => exact ih
    | placeholder h => exact .cons h ih

variable (values) in
/-- Compiling keeps templates related that differ in tokens in place of values. -/
def swappingCongruence (ctx : Context) : Congruence (swapping values) ctx ctx where
  lead := Template.Swapped values
  part := Template.Swapped values
  nil := .nil
  part_of_lead h := h
  append h h' := List.rel_append h h'
  glue h s _ := List.rel_append h (Template.swapped_ofString s)
  enclosed h h' := List.rel_append (List.rel_append (List.rel_append h
    (Template.swapped_ofString _)) h') (Template.swapped_ofString _)
  strip h := Text.stripEnclosing_forall₂ (fun _ _ hs ↦ hs.shown_eq) _ _ h
  isEmpty h := by cases h <;> rfl
  path h := h ▸ Template.swapped_ofString _
  qualifiedPath he hn := he ▸ hn ▸ Template.swapped_ofString _
  quotedName h := h ▸ Template.swapped_ofString _
  fixedName _ := Template.swapped_ofString _
  blankName h := congrArg Text.allBlank h
  placeholder h := .cons (.placeholder h) .nil
  inlined h := h.elim
  raw h := h ▸ Template.swapped_ofString _
  trimmedRaw h := h ▸ Template.swapped_ofString _
  blankRaw h := congrArg Text.allBlank h

theorem Statement.compile_swapped {ctx : Context} {s s' : Statement} {q : Query}
    (h : s.Related (swapping values) s') (hq : s.compile ctx = .ok q) :
    ∃ q', s'.compile ctx = .ok q' ∧ q'.sql = q.sql ∧
      List.Forall₂ (Binding.Swapped values) q.bindings q'.bindings := by
  obtain ⟨t, ht, rfl⟩ := compile_eq_ok_iff.mp hq
  have agree := (swappingCongruence values ctx).statement rfl (.refl _) h
  obtain ⟨u, hu, h⟩ := agree.exists_eq_ok ht
  have swapped : Template.Swapped values t u := h
  exact ⟨_, compile_eq_ok_iff.mpr ⟨u, hu, rfl⟩, swapped.text_eq, swapped.bindings⟩

end Compile

/-! ## Resolving -/

section Resolve

variable {values : List (String × Json)} {σ τ : Type} [NamedValues σ] [NamedValues τ] {source : σ}
  {merged : τ}

theorem Query.resolve_swapped {q q' : Query}
    (h : List.Forall₂ (Binding.Swapped values) q.bindings q'.bindings)
    (given : ∀ n d v, (n, d) ∈ values → d.Scalar v → valueOf? merged n = some v)
    (others : ∀ n ∈ q.tokens, valueOf? merged n = valueOf? source n) :
    q'.resolve merged = q.resolve source := by
  refine (mapM_eq_of_forall₂ (forall₂_imp_mem ?_ h)).symm
  intro b hb b' hbb'
  cases hbb' with
  | refl =>
    cases b with
    | value => rfl
    | token n =>
      rw [resolveBinding, resolveBinding, others n (List.mem_filterMap.mpr ⟨_, hb, rfl⟩)]
  | token scalar mem => rw [resolveBinding, resolveBinding, given _ _ _ mem scalar]

private theorem Json.Scalar.value {d : Json} {v : Value} (h : d.Scalar v) :
    Value.ofJson? d = some v := by
  cases h <;> rfl

/-- The names in an object of scalars are given the values that the scalars stand for, and no other
name is given a value. -/
theorem Value.namedOfJson_scalars (distinct : (values.map Prod.fst).Nodup)
    (scalars : ∀ m ∈ values, ∃ v, m.2.Scalar v) :
    ∃ decoded, namedOfJson (.object values) = .ok decoded ∧
      (∀ n d v, (n, d) ∈ values → d.Scalar v → decoded.lookup n = some v) ∧
        ∀ n ∉ values.map Prod.fst, decoded.lookup n = none := by
  let pairs := values.map fun m ↦ (m.1, (ofJson? m.2).getD .null)
  have keys : pairs.map Prod.fst = values.map Prod.fst := by
    rw [List.map_map]
    rfl
  have sorts := Json.sorts_sortMembers pairs
  refine ⟨Json.sortMembers pairs, ?_, ?_, ?_⟩
  · refine bind_eq_ok_iff.mpr ⟨values, rfl, bind_eq_ok_iff.mpr ⟨pairs, ?_, rfl⟩⟩
    rw [mapM_eq_ok_iff, List.forall₂_map_right_iff, List.forall₂_same]
    intro m hm
    obtain ⟨v, scalar⟩ := scalars m hm
    dsimp only
    rw [scalar.value]
    rfl
  · intro n d v mem scalar
    rw [sorts.lookup_eq, Json.lookup_reverse_eq_some_iff (keys ▸ distinct), List.mem_map]
    exact ⟨(n, d), mem, by rw [scalar.value]; rfl⟩
  · intro n hn
    rw [sorts.lookup_eq, List.lookup_eq_none_iff]
    intro p hp
    rw [bne_iff_ne]
    rintro rfl
    exact hn (keys ▸ List.mem_map_of_mem (List.mem_reverse.mp hp))

end Resolve

/-! ## Literals and tokens -/

/-- **Literals and tokens are interchangeable.** If tokens with names of their own take the place of
scalars in a description that is loaded and compiled, the new description is loaded and compiled to
the same text. Resolving it, with the values that an object of the scalars gives to these names and
with any other values, gives the values, or refuses the token, that resolving the first query with
the other values does. -/
theorem Statement.resolve_of_swapped {ctx : Context} {values : List (String × Json)} {d d' : Json}
    (distinct : (values.map Prod.fst).Nodup) (scalars : ∀ m ∈ values, ∃ v, m.2.Scalar v)
    (h : d.StatementSwapped values d') {s : Statement} {q : Query} (hs : ofJson d = .ok s)
    (hq : s.compile ctx = .ok q) (unused : ∀ n ∈ values.map Prod.fst, n ∉ q.tokens) :
    ∃ s' q' decoded, ofJson d' = .ok s' ∧ s'.compile ctx = .ok q' ∧ q'.sql = q.sql ∧
      Value.namedOfJson (.object values) = .ok decoded ∧
        ∀ {σ τ : Type} [NamedValues σ] [NamedValues τ] (source : σ) (merged : τ),
          (∀ n, valueOf? merged n = (decoded.lookup n).or (valueOf? source n)) →
            q'.resolve merged = q.resolve source := by
  obtain ⟨s', hs', related⟩ := Statement.ofJson_swapped h s hs
  obtain ⟨q', hq', text, bindings⟩ := Statement.compile_swapped related hq
  obtain ⟨decoded, hDecoded, given, absent⟩ := Value.namedOfJson_scalars distinct scalars
  refine ⟨s', q', decoded, hs', hq', text, hDecoded, fun source merged both ↦ ?_⟩
  -- the scalars come first, and the tokens of the first query are not among their names
  refine Query.resolve_swapped bindings ?_ ?_
  · intro n d v mem scalar
    rw [both, given n d v mem scalar, Option.some_or]
  · intro n hn
    rw [both, absent n fun mem ↦ unused n mem hn, Option.none_or]

/-- A selection with tokens in place of three of its literals; the fourth value that it needs is
that of a token of its own. -/
theorem Statement.resolve_of_swapped_select :
    let token (name : String) : Json := .object [("$token", .text name)]
    let selection (age name count : Json) : Json := .object [("select", .object [
      ("from", .text "users"), ("limit", count), ("where", .object [("age", age),
        ("name", .object [("in", .array [name, token "other"])])])])]
    let values : List (String × Json) :=
      [("age", .integer 42), ("name", .text "Ada"), ("count", .integer 5)]
    let others : List (String × Value) := [("other", .text "Max")]
    ∃ s q s' q' decoded, ofJson (selection (.integer 42) (.text "Ada") (.integer 5)) = .ok s ∧
      s.compile .standard = .ok q ∧
      ofJson (selection (token "age") (token "name") (token "count")) = .ok s' ∧
      s'.compile .standard = .ok q' ∧ q'.sql = q.sql ∧
      Value.namedOfJson (.object values) = .ok decoded ∧
      q'.resolve (decoded ++ others) = q.resolve others ∧
      q.resolve others = .ok [.int 42, .text "Ada", .text "Max", .int 5] := by
  intro token selection values others
  obtain ⟨s, hs⟩ : ∃ s, ofJson (selection (.integer 42) (.text "Ada") (.integer 5)) = .ok s :=
    ⟨_, rfl⟩
  obtain ⟨q, hq, tokens, result⟩ : ∃ q, s.compile .standard = .ok q ∧ q.tokens = ["other"] ∧
      q.resolve others = .ok [.int 42, .text "Ada", .text "Max", .int 5] := by
    obtain rfl := Except.ok.inj hs
    exact ⟨_, rfl, rfl, rfl⟩
  have swapped : (selection (.integer 42) (.text "Ada") (.integer 5)).StatementSwapped values
      (selection (token "age") (token "name") (token "count")) := by
    refine .select (.members (.cons ⟨rfl, .entry (.refl _)⟩
      (.cons ⟨rfl, ?_⟩ (.cons ⟨rfl, ?_⟩ .nil))))
    · exact .token (.tail _ (.tail _ (.head _)))
    · refine .members (.cons (.column (by decide) (.scalar (.token (.integer 42) (.head _)) nofun))
        (.cons (.column (by decide) (.operators (.cons ⟨rfl, .items ?_⟩ .nil))) .nil))
      exact .cons (.token (.text "Ada") (.tail _ (.head _))) (.cons (.refl _) .nil)
  have scalars : ∀ m ∈ values, ∃ v, m.2.Scalar v := by
    simp only [values, List.forall_mem_cons]
    exact ⟨⟨_, .integer 42⟩, ⟨_, .text "Ada"⟩, ⟨_, .integer 5⟩, nofun⟩
  obtain ⟨s', q', decoded, hs', hq', text, hDecoded, same⟩ :=
    resolve_of_swapped (by decide) scalars swapped hs hq (by rw [tokens]; decide)
  refine ⟨s, q, s', q', decoded, hs, hq, hs', hq', text, hDecoded, ?_, result⟩
  exact same others _ fun n ↦ List.lookup_append

end PreparedSql
