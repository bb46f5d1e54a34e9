import PreparedSql.Proofs.Masking

/-!
# Names stay inside their quotes

Take two statements that differ in their names only, where corresponding names have the same number
of parts and the `*` in the same positions. Whatever characters the names consist of, both compile
or neither does, they have the same bindings, and their texts are equal once the quoted identifiers
are masked. What a name contains can therefore not become SQL.

One character has to be both the opening and the closing quote, and it must not be white space. The
separator must not be `*`: an alias is never split, and would be left bare if it is `*`.

## Main statements

* `Statement.compile_renamed`: compiling statements that differ in their names.
-/

namespace PreparedSql

/-- The names say something, and their parts agree in number and in which ones are `*`. -/
structure Context.SameShape (ctx : Context) (n n' : String) : Prop where
  /-- The first name is not white space. -/
  named : Text.allBlank n = false
  /-- The second name is not white space. -/
  named' : Text.allBlank n' = false
  /-- The parts correspond. -/
  parts : List.Forall₂ (fun p p' ↦ p = ['*'] ↔ p' = ['*']) (n.toList.splitOn ctx.separator)
    (n'.toList.splitOn ctx.separator)

/-- Names of one shape, equal bindings, and equal raw SQL that leaves nothing unfinished. -/
def renamed (ctx : Context) : Correspondence where
  name := ctx.SameShape
  raw r r' := r = r' ∧ (ctx.after .outside r.toList).isFree
  binding := Eq
  inlined _ _ := False

/-- Templates that leave nothing unfinished, with equal bindings, and equal if identifiers are
masked. -/
structure MaskedAlike (ctx : Context) (t u : Template) : Prop where
  /-- The first template leaves nothing unfinished. -/
  free : (ctx.after .outside (t.map Symbol.shown)).isFree
  /-- The second template leaves nothing unfinished. -/
  free' : (ctx.after .outside (u.map Symbol.shown)).isFree
  /-- The bindings are equal. -/
  bindings : t.bindings = u.bindings
  /-- The masked templates are equal. -/
  masked : ctx.masked Symbol.shown .outside t = ctx.masked Symbol.shown .outside u

namespace MaskedAlike

variable {ctx : Context} {t u t' u' : Template}

theorem append (h : MaskedAlike ctx t u)
    (outside : ctx.after .outside (t.map Symbol.shown) = .outside)
    (outside' : ctx.after .outside (u.map Symbol.shown) = .outside) (h' : MaskedAlike ctx t' u') :
    MaskedAlike ctx (t ++ t') (u ++ u') := by
  refine ⟨?_, ?_, ?_, ?_⟩
  · rw [List.map_append, Context.after_append, outside]
    exact h'.free
  · rw [List.map_append, Context.after_append, outside']
    exact h'.free'
  · rw [Template.bindings_append, Template.bindings_append, h.bindings, h'.bindings]
  · rw [Context.masked_append, Context.masked_append, outside, outside', h.masked, h'.masked]

theorem ofString {s s' : String} (free : (ctx.after .outside s.toList).isFree)
    (free' : (ctx.after .outside s'.toList).isFree)
    (masked : ctx.masked id .outside s.toList = ctx.masked id .outside s'.toList) :
    MaskedAlike ctx (.ofString s) (.ofString s') := by
  refine ⟨?_, ?_, ?_, ?_⟩
  · rw [Template.shown_ofString]
    exact free
  · rw [Template.shown_ofString]
    exact free'
  · rw [Template.bindings_ofString, Template.bindings_ofString]
  · have same : Symbol.shown ∘ Symbol.char = id := rfl
    rw [Template.ofString, Template.ofString, Context.masked_map, Context.masked_map, same, masked]

theorem append_written (hctx : ctx.Readable) (h : MaskedAlike ctx t u) {s : String} (hne : s ≠ "")
    (hs : ∀ c ∈ s.toList, Text.isWritten c) :
    MaskedAlike ctx (t ++ .ofString s) (u ++ .ofString s) ∧
      ctx.after .outside ((t ++ .ofString s).map Symbol.shown) = .outside ∧
        ctx.after .outside ((u ++ .ofString s).map Symbol.shown) = .outside := by
  have inert : ∀ c ∈ s.toList, ctx.isInert c := by
    intro c hc
    exact hctx.isInert_of_isWritten (hs c hc)
  have outside := hctx.after_append_written h.free hne hs
  have outside' := hctx.after_append_written h.free' hne hs
  have kept {x : Template} (free : (ctx.after .outside (x.map Symbol.shown)).isFree) :
      ctx.masked Symbol.shown .outside (x ++ Template.ofString s) =
        ctx.masked Symbol.shown .outside x ++ (Template.ofString s).map some := by
    rw [Context.masked_append, Context.masked_of_isInert free]
    intro x hx
    obtain ⟨c, hc, rfl⟩ := List.mem_map.mp hx
    exact inert c hc
  refine ⟨⟨?_, ?_, ?_, ?_⟩, outside, outside'⟩
  · rw [outside]
    rfl
  · rw [outside']
    rfl
  · rw [Template.bindings_append, Template.bindings_append, h.bindings]
  · rw [kept h.free, kept h.free', h.masked]

theorem stripEnclosing (hctx : ctx.Readable) (sameQuote : ctx.openQuote = ctx.closeQuote)
    (hBlank : Text.isBlank ctx.openQuote = false) (h : MaskedAlike ctx t u) :
    MaskedAlike ctx (t.stripEnclosing ctx) (u.stripEnclosing ctx) := by
  have respelling := hctx.respelling_masked sameQuote hBlank Symbol.shown
  obtain ⟨free, masked⟩ := respelling.stripEnclosing t h.free
  obtain ⟨free', masked'⟩ := respelling.stripEnclosing u h.free'
  refine ⟨free, free', ?_, ?_⟩
  · rw [Template.bindings_stripEnclosing, Template.bindings_stripEnclosing, h.bindings]
  · exact masked.trans ((congrArg _ h.masked).trans masked'.symm)

end MaskedAlike

/-! ## Names of one shape -/

namespace Context.SameShape

variable {ctx : Context} {n n' e e' : String}

theorem symm (h : ctx.SameShape n n') : ctx.SameShape n' n :=
  ⟨h.named', h.named, (h.parts.imp fun _ _ ↦ Iff.symm).flip⟩

theorem maskedPart_eq {p p' : List Char} (h : p = ['*'] ↔ p' = ['*']) :
    maskedPart p = maskedPart p' := by
  rw [maskedPart, maskedPart]
  exact if_congr h rfl rfl

theorem map_maskedPart_eq {ps ps' : List (List Char)}
    (h : List.Forall₂ (fun p p' ↦ p = ['*'] ↔ p' = ['*']) ps ps') :
    ps.map maskedPart = ps'.map maskedPart := by
  induction h with
  | nil => rfl
  | cons h _ ih => rw [List.map_cons, List.map_cons, maskedPart_eq h, ih]

private theorem qualified (he : ctx.SameShape e e') (hn : ctx.SameShape n n') :
    ctx.SameShape (qualified ctx e n) (PreparedSql.qualified ctx e' n') := by
  refine ⟨allBlank_qualified hn.named, allBlank_qualified hn.named', ?_⟩
  rw [splitOn_qualified, splitOn_qualified]
  exact List.rel_append he.parts hn.parts

private theorem toList_eq_star (hStar : ctx.separator ≠ '*') (h : ctx.SameShape n n')
    (star : n.toList = ['*']) : n'.toList = ['*'] := by
  have single : n.toList.splitOn ctx.separator = [['*']] := by
    rw [star]
    exact List.splitOn_eq_singleton fun mem ↦ hStar (List.mem_singleton.mp mem)
  have parts := h.parts
  rw [single] at parts
  obtain ⟨p', hp, hs⟩ : ∃ p', p' = ['*'] ∧ n'.toList.splitOn ctx.separator = [p'] := by
    generalize n'.toList.splitOn ctx.separator = ps' at parts
    cases parts with
    | @cons _ p' _ _ hp hs =>
      cases hs with
      | nil => exact ⟨p', hp.mp rfl, rfl⟩
  -- a name is its parts with separators between them, and there is one part only
  have whole : [ctx.separator].intercalate (n'.toList.splitOn ctx.separator) = n'.toList :=
    List.intercalate_splitOn ctx.separator
  rw [← whole, hs, List.intercalate_singleton, hp]

private theorem toList_eq_star_iff (hStar : ctx.separator ≠ '*') (h : ctx.SameShape n n') :
    n.toList = ['*'] ↔ n'.toList = ['*'] :=
  ⟨h.toList_eq_star hStar, h.symm.toList_eq_star hStar⟩

end Context.SameShape

/-! ## Compiling -/

/-- Compiling keeps templates equal up to the names in them. -/
def renamedCongruence {ctx : Context} (hctx : ctx.Readable)
    (sameQuote : ctx.openQuote = ctx.closeQuote) (hBlank : Text.isBlank ctx.openQuote = false)
    (hStar : ctx.separator ≠ '*') : Congruence (renamed ctx) ctx ctx where
  lead t u := MaskedAlike ctx t u ∧ ctx.after .outside (t.map Symbol.shown) = .outside ∧
    ctx.after .outside (u.map Symbol.shown) = .outside
  part := MaskedAlike ctx
  nil := ⟨⟨rfl, rfl, rfl, rfl⟩, rfl, rfl⟩
  part_of_lead h := h.1
  append h h' := h.1.append h.2.1 h.2.2 h'
  glue h s hs := h.append_written hctx hs.1 hs.isWritten
  enclosed h h' := by
    have opened := h.1.append_written hctx (s := "( ") (by decide) (by decide)
    exact (opened.1.append opened.2.1 opened.2.2 h').append_written hctx (by decide) (by decide)
  strip h := h.stripEnclosing hctx sameQuote hBlank
  isEmpty h := by
    rw [← Context.isEmpty_masked, h.masked, Context.isEmpty_masked]
  path h := by
    refine .ofString (hctx.places_quotedPath _).2 (hctx.places_quotedPath _).2 ?_
    rw [hctx.masked_quotedPath, hctx.masked_quotedPath, Context.SameShape.map_maskedPart_eq h.parts]
  qualifiedPath he hn := by
    refine .ofString (hctx.places_quotedPath _).2 (hctx.places_quotedPath _).2 ?_
    rw [hctx.masked_quotedPath, hctx.masked_quotedPath,
      Context.SameShape.map_maskedPart_eq (he.qualified hn).parts]
  quotedName {n n'} h := by
    refine .ofString (hctx.isFree_after_quotedName n) (hctx.isFree_after_quotedName n') ?_
    rw [Context.toList_quotedName, Context.toList_quotedName, hctx.masked_quotedPart,
      hctx.masked_quotedPart, Context.SameShape.maskedPart_eq (h.toList_eq_star_iff hStar)]
  fixedName n := .ofString (hctx.isFree_after_quotedName n) (hctx.isFree_after_quotedName n) rfl
  blankName h := h.named.trans h.named'.symm
  placeholder h := by
    subst h
    exact ⟨congrArg Region.isFree (hctx.after_placeholder _),
      congrArg Region.isFree (hctx.after_placeholder _), rfl, rfl⟩
  inlined h := h.elim
  raw h := by
    obtain ⟨rfl, free⟩ := h
    exact .ofString free free rfl
  trimmedRaw h := by
    obtain ⟨rfl, free⟩ := h
    have free := hctx.isFree_after_trim hBlank (sameQuote ▸ hBlank) free
    exact .ofString free free rfl
  blankRaw h := by rw [h.1]

private theorem maskedText_text {ctx : Context} {t u : Template}
    (h : ctx.masked Symbol.shown .outside t = ctx.masked Symbol.shown .outside u) (mark : String) :
    ctx.maskedText mark t.text = ctx.maskedText mark u.text := by
  have same : id ∘ Symbol.shown = Symbol.shown := rfl
  rw [Context.maskedText, Context.maskedText, Template.toList_text, Template.toList_text,
    Context.masked_map, Context.masked_map, same, h]

/-- **Names stay inside their quotes.** Of two statements that differ in their names only, up to
their shape, both compile or neither does. The bindings are then equal, and so are the texts if the
same mark is put in place of every quoted identifier. -/
theorem Statement.compile_renamed (ctx : Context) (hctx : ctx.Readable)
    (sameQuote : ctx.openQuote = ctx.closeQuote) (hBlank : Text.isBlank ctx.openQuote = false)
    (hStar : ctx.separator ≠ '*') (s s' : Statement) (h : s.Related (renamed ctx) s') :
    ((∃ q, s.compile ctx = .ok q) ↔ ∃ q, s'.compile ctx = .ok q) ∧
      ∀ q q', s.compile ctx = .ok q → s'.compile ctx = .ok q' → q.bindings = q'.bindings ∧
        ∀ mark, ctx.maskedText mark q.sql = ctx.maskedText mark q'.sql := by
  have agree := (renamedCongruence hctx sameQuote hBlank hStar).statement rfl rfl h
  rw [Statement.compile, Statement.compile]
  generalize s.template ctx = x at agree
  generalize s'.template ctx = y at agree
  cases agree with
  | @ok t u h =>
    refine ⟨iff_of_true ⟨_, rfl⟩ ⟨_, rfl⟩, ?_⟩
    intro q q' hq hq'
    rw [← Except.ok.inj hq, ← Except.ok.inj hq']
    exact ⟨h.bindings, maskedText_text h.masked⟩
  | error =>
    refine ⟨iff_of_false ?_ ?_, ?_⟩
    · rintro ⟨q, hq⟩
      cases hq
    · rintro ⟨q, hq⟩
      cases hq
    · intro q q' hq
      cases hq

/-- The names of the second statement hold quotes, parentheses and keywords. -/
theorem Statement.compile_renamed_delete :
    let s (table column : String) : Statement :=
      .delete { table, filter := some (Column.compare column .equal (.placeholder (.token "t"))) }
    ∃ q q', (s "users" "u.id").compile .standard = .ok q ∧
      (s "a\" WHERE (1=1" ") OR \"b.'").compile .standard = .ok q' ∧ q.bindings = q'.bindings ∧
        ∀ mark,
          Context.standard.maskedText mark q.sql = Context.standard.maskedText mark q'.sql := by
  intro s
  have readable : Context.standard.Readable := ⟨by decide, by decide, by decide⟩
  have table : Context.standard.SameShape "users" "a\" WHERE (1=1" :=
    ⟨by decide, by decide, .cons (by decide) .nil⟩
  have column : Context.standard.SameShape "u.id" ") OR \"b.'" :=
    ⟨by decide, by decide, .cons (by decide) (.cons (by decide) .nil)⟩
  have related : (s "users" "u.id").Related (renamed .standard) (s "a\" WHERE (1=1" ") OR \"b.'") :=
    .delete ⟨table, .some (.test column (.compare (.placeholder rfl)))⟩
  have alike := Statement.compile_renamed .standard readable (by decide) (by decide) (by decide) _ _
    related
  exact ⟨_, _, rfl, rfl, alike.2 _ _ rfl rfl⟩

end PreparedSql
