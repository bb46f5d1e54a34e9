import PreparedSql.Proofs.Nesting

/-!
# Exactly the enclosing parentheses are removed

The parentheses around a whole text are removed one pair after the other, with the white space
around each. A pair is one around the whole text if the first character is a parenthesis and the
last one its partner: in between the depth never falls back to zero. This says nothing of how the
partner is looked for.

Which pairs the scan finds is settled by `Context.QuotesOnly.isEnclosed_iff`. Where one character is
both quotes, it finds exactly those around the whole text. With two different quotes it can be
misled by a name that has a closing quote in it, both to leave a pair and to remove parentheses that
are not partners.

## Main definitions

* `Context.IsPaired`: the texts with a pair of parentheses around them.
* `Context.Unwraps`: what is left of a text without the pairs around it.

## Main statements

* `stripEnclosing_eq_iff_unwraps`: exactly these pairs are removed.
-/

namespace PreparedSql

namespace Context

/-- The text starts with a parenthesis, and its last character is the partner: everywhere between
the two the depth is positive, and behind the last one it is zero. -/
def IsPaired (ctx : Context) (cs : List Char) : Prop :=
  ∃ inner, cs = '(' :: (inner ++ [')']) ∧
    (∀ front, front <+: inner → ∃ depth > 0, ctx.depth? ('(' :: front) = some depth) ∧
      ctx.depth? cs = some 0

section Unwraps

variable {α : Type}

/-- What is left of a text without the pairs of parentheses around it and the white space around
each of them. -/
inductive Unwraps (ctx : Context) (shown : α → Char) : List α → List α → Prop
  | pair {xs inner out : List α} {first last : α}
      (trimmed : Text.trimBy (fun x ↦ Text.isBlank (shown x)) xs = first :: (inner ++ [last]))
      (paired : ctx.IsPaired ((first :: (inner ++ [last])).map shown))
      (rest : Unwraps ctx shown inner out) : Unwraps ctx shown xs out
  | done {xs out : List α} (trimmed : Text.trimBy (fun x ↦ Text.isBlank (shown x)) xs = out)
      (bare : ¬ctx.IsPaired (out.map shown)) : Unwraps ctx shown xs out

private theorem Unwraps.eq {ctx : Context} {shown : α → Char} {xs out out' : List α}
    (h : ctx.Unwraps shown xs out) (h' : ctx.Unwraps shown xs out') : out = out' := by
  induction h with
  | pair trimmed paired _ ih =>
    cases h' with
    | pair trimmed' _ rest =>
      obtain ⟨rfl, same⟩ := List.cons.inj (trimmed.symm.trans trimmed')
      obtain ⟨rfl, -⟩ := List.append_inj' same rfl
      exact ih rest
    | done trimmed' bare => exact absurd paired (trimmed.symm.trans trimmed' ▸ bare)
  | done trimmed bare =>
    cases h' with
    | pair trimmed' paired _ => exact absurd paired (trimmed.symm.trans trimmed' ▸ bare)
    | done trimmed' _ => exact trimmed.symm.trans trimmed'

end Unwraps

variable {ctx : Context} {cs : List Char} {r : Region}

/-! ## What stands between partners -/

/-- The depth in a text throughout which a parenthesis before it stays open is one less without
it. -/
private theorem exists_nestAll?_of_forall {depth : Nat}
    (h : ∀ front, front <+: cs → ∃ inner > 0,
      nestAll? (depth + 1) (ctx.places id r front) = some inner) :
    ∃ inner, nestAll? depth (ctx.places id r cs) = some inner := by
  induction cs generalizing r depth with
  | nil => exact ⟨depth, rfl⟩
  | cons c cs ih =>
    obtain ⟨behind, positive, hBehind⟩ := h [c] (List.prefix_append [c] cs)
    obtain ⟨depth', rfl⟩ := Nat.exists_eq_add_one.mpr positive
    rw [places_cons, nestAll?_cons, Option.bind_eq_some_iff] at hBehind
    obtain ⟨_, first, rfl⟩ : ∃ d, nest? (depth + 1) (ctx.place r c, c) = some d ∧ d = depth' + 1 :=
      hBehind.imp fun d hd ↦ ⟨hd.1, Option.some.inj hd.2⟩
    rw [places_cons, nestAll?_cons, id, nest?_of_add_one first, Option.bind_some]
    refine ih fun front hFront ↦ ?_
    have whole := h (c :: front) (List.cons_prefix_cons.mpr ⟨rfl, hFront⟩)
    rwa [places_cons, nestAll?_cons, id, first, Option.bind_some] at whole

theorem QuotesOnly.isPaired_iff (hctx : ctx.QuotesOnly) :
    ctx.IsPaired cs ↔ ∃ inner, cs = '(' :: (inner ++ [')']) ∧ ctx.Balanced inner := by
  refine exists_congr fun inner ↦ and_congr_right fun split ↦ ?_
  have opened (front : List Char) :
      ctx.depth? ('(' :: front) = nestAll? 1 (ctx.places id .outside front) := by
    have opening : ctx.place .outside '(' = .plain :=
      place_of_isInert rfl hctx.isInert_parenthesis.1
    have behind : ctx.next .outside '(' = .outside := next_of_isInert hctx.isInert_parenthesis.1
    rw [depth?, places_cons, nestAll?_cons, id, opening, behind]
    rfl
  have closing (depth : Nat) (hInner : nestAll? 1 (ctx.places id .outside inner) = some depth) :
      ctx.depth? cs = nest? depth (ctx.place (ctx.after .outside inner) ')', ')') := by
    rw [split, opened, places_append, nestAll?_append, List.map_id, hInner, Option.bind_some,
      places_cons, nestAll?_cons]
    exact Option.bind_fun_some _
  simp only [opened]
  constructor
  · rintro ⟨positive, last⟩
    obtain ⟨depth, hDepth⟩ := exists_nestAll?_of_forall positive
    rw [closing _ (nestAll?_add 1 hDepth), nest?, if_neg (by simp)] at last
    split at last
    · next plain =>
      obtain rfl : depth = 0 := by simpa using last
      refine ⟨?_, hDepth⟩
      have plain : ctx.place (ctx.after .outside inner) ')' = .plain := congrArg Prod.fst plain
      generalize ctx.after .outside inner = r at plain
      cases r with
      | outside | closed => rfl
      | literal | identifier => cases plain
    · cases last
  · rintro ⟨closed, nested⟩
    refine ⟨?_, ?_⟩
    · rintro front ⟨back, rfl⟩
      obtain ⟨depth, hDepth⟩ := Balanced.exists_depth? ⟨closed, nested⟩
      exact ⟨depth + 1, Nat.succ_pos depth, nestAll?_add 1 hDepth⟩
    · rw [closing 1 (nestAll?_add 1 nested), place_of_isInert closed hctx.isInert_parenthesis.2]
      rfl

/-- The scan finds the pair around a text, unless a doubled closing quote misleads it. -/
private theorem QuotesOnly.isEnclosed_iff_isPaired (hctx : ctx.QuotesOnly) {α : Type}
    {shown : α → Char}
    {xs : List α} (plain : ctx.openQuote = ctx.closeQuote ∨ ctx.PlainBehindDoubled (xs.map shown)) :
    Text.isEnclosed shown ctx.openQuote ctx.closeQuote xs ↔ ctx.IsPaired (xs.map shown) := by
  rw [hctx.isPaired_iff, ← hctx.isEnclosed_iff plain, Text.isEnclosed_map]
  rfl

/-! ## Removing pairs -/

/-- A text without a doubled closing quote misleads nobody. -/
private theorem PlainBehindDoubled.of_single (h : ¬[ctx.closeQuote, ctx.closeQuote] <:+: cs) :
    ctx.PlainBehindDoubled cs := by
  rintro front c back rfl ⟨before, name, rfl, -, -⟩
  exact absurd ⟨before, name ++ c :: back, by simp⟩ h

private theorem PlainBehindDoubled.of_append {front mid back : List Char}
    (h : ctx.PlainBehindDoubled (front ++ mid ++ back)) (inert : ∀ c ∈ front, ctx.isInert c) :
    ctx.PlainBehindDoubled mid := by
  rintro left c right rfl ⟨before, name, rfl, inside, plain⟩
  refine h _ c (right ++ back) ?_ ⟨front ++ before, name, rfl, ?_, plain⟩
  · simp only [List.append_assoc, List.cons_append]
  · rw [after_append, after_outside_of_isInert inert, inside]

private theorem QuotesOnly.unwraps_stripEnclosing (hctx : ctx.QuotesOnly)
    (hOpen : Text.isBlank ctx.openQuote = false) (hClose : Text.isBlank ctx.closeQuote = false)
    {α : Type} (shown : α → Char) (xs : List α)
    (plain : ctx.openQuote = ctx.closeQuote ∨ ctx.PlainBehindDoubled (xs.map shown)) :
    ctx.Unwraps shown xs (Text.stripEnclosing shown ctx.openQuote ctx.closeQuote xs) := by
  -- what is removed in front begins and ends nothing, so what is left misleads nobody either
  have trim {xs : List α}
      (plain : ctx.openQuote = ctx.closeQuote ∨ ctx.PlainBehindDoubled (xs.map shown)) :
      ctx.openQuote = ctx.closeQuote ∨ ctx.PlainBehindDoubled
        ((Text.trimBy (fun x ↦ Text.isBlank (shown x)) xs).map shown) := by
    refine plain.imp_right fun plain ↦ ?_
    obtain ⟨front, back, whole, hFront, -⟩ :=
      Text.exists_trimBy_append (fun x ↦ Text.isBlank (shown x)) xs
    rw [whole, List.map_append, List.map_append] at plain
    rw [List.all_eq_true] at hFront
    exact plain.of_append (List.forall_mem_map.mpr fun x hx ↦
      isInert_of_isBlank hOpen hClose (hFront x hx))
  fun_induction Text.stripEnclosing shown ctx.openQuote ctx.closeQuote xs with
  | case1 xs trimmed enclosed ih =>
    have plain := trim plain
    obtain ⟨first, last, split, opens, -⟩ := Text.eq_cons_append_of_isEnclosed _ _ _ enclosed
    have paired : ctx.IsPaired (trimmed.map shown) :=
      (hctx.isEnclosed_iff_isPaired plain).mp enclosed
    rw [show Text.trimBy _ xs = trimmed from rfl, split, List.map_cons, List.map_append, opens,
      ← List.singleton_append, ← List.append_assoc] at plain
    refine .pair split (split ▸ paired) (ih (plain.imp_right fun plain ↦ plain.of_append ?_))
    simpa using hctx.isInert_parenthesis.1
  | case2 xs trimmed bare =>
    exact .done rfl fun paired ↦ bare ((hctx.isEnclosed_iff_isPaired (trim plain)).mpr paired)

/-! ## Two different quotes -/

/-- A quoted name with a closing quote and a parenthesis behind it, between parentheses. -/
def misleading (ctx : Context) : List Char :=
  '(' :: (ctx.quotedPart [ctx.closeQuote, '('] ++ [')'])

section Misleading

variable (hctx : ctx.QuotesOnly)

include hctx

theorem QuotesOnly.quotedPart_misleading : ctx.quotedPart [ctx.closeQuote, '('] =
    [ctx.openQuote, ctx.closeQuote, ctx.closeQuote, '(', ctx.closeQuote] := by
  simp [quotedPart, quotedBody, hctx.closeQuote.2.1.symm]

/-- In the name the parenthesis does not count. -/
private theorem QuotesOnly.balanced_quotedPart_misleading :
    ctx.Balanced (ctx.quotedPart [ctx.closeQuote, '(']) :=
  balanced_quotedPart hctx.openQuote.1 _ fun star ↦ nomatch (List.cons.inj star).2

/-- With two different quotes the scan leaves the name at the doubled quote, counts the parenthesis
in it and misses the partner of the first one. -/
private theorem QuotesOnly.not_isEnclosed_misleading (different : ctx.openQuote ≠ ctx.closeQuote) :
    ¬Text.isEnclosed id ctx.openQuote ctx.closeQuote ctx.misleading := by
  obtain ⟨hOpen, hClose⟩ := hctx
  have closesNothing : ctx.closeQuote ≠ ctx.openQuote := different.symm
  rw [Text.isEnclosed, misleading, QuotesOnly.quotedPart_misleading ⟨hOpen, hClose⟩]
  simp [Text.closesLast, hOpen, hClose, closesNothing, hOpen.2.1.symm, hOpen.2.2.symm]

/-- With two different quotes a pair around a text can be left. -/
private theorem QuotesOnly.exists_stripEnclosing_ne (hOpen : Text.isBlank ctx.openQuote = false)
    (hClose : Text.isBlank ctx.closeQuote = false) (different : ctx.openQuote ≠ ctx.closeQuote) :
    ∃ cs out, (ctx.after .outside cs).isFree ∧ ctx.Unwraps id cs out ∧
      Text.stripEnclosing id ctx.openQuote ctx.closeQuote cs ≠ out := by
  have untrimmed {first last : Char} (mid : List Char) (hFirst : Text.isBlank first = false)
      (hLast : Text.isBlank last = false) :
      Text.trimBy (fun c ↦ Text.isBlank (id c)) (first :: (mid ++ [last])) =
        first :: (mid ++ [last]) := by
    refine Text.trimBy_eq_self (by simpa using hFirst) ?_
    rw [← List.cons_append, List.getLast?_concat]
    simpa using hLast
  have outer : Text.trimBy (fun c ↦ Text.isBlank (id c)) ctx.misleading = ctx.misleading :=
    untrimmed _ (by decide) (by decide)
  have inner : Text.trimBy (fun c ↦ Text.isBlank (id c)) (ctx.quotedPart [ctx.closeQuote, '(']) =
      ctx.quotedPart [ctx.closeQuote, '('] := by
    rw [hctx.quotedPart_misleading]
    exact untrimmed [ctx.closeQuote, ctx.closeQuote, '('] hOpen hClose
  have balanced := hctx.balanced_quotedPart_misleading
  have paired : ctx.IsPaired ctx.misleading := hctx.isPaired_iff.mpr ⟨_, rfl, balanced⟩
  have bare : ¬ctx.IsPaired (ctx.quotedPart [ctx.closeQuote, '(']) := by
    rintro ⟨_, split, -⟩
    rw [hctx.quotedPart_misleading] at split
    exact hctx.openQuote.2.1 (List.cons.inj split).1
  refine ⟨ctx.misleading, ctx.quotedPart [ctx.closeQuote, '('], ?_, ?_, ?_⟩
  · have parentheses := hctx.isInert_parenthesis
    have free :
        (ctx.after .outside (['('] ++ ctx.quotedPart [ctx.closeQuote, '('] ++ [')'])).isFree =
          (ctx.after .outside (ctx.quotedPart [ctx.closeQuote, '('])).isFree :=
      isFree_after_of_append (by simpa using parentheses.1) (by simpa using parentheses.2)
    exact free.trans balanced.closed
  · exact .pair outer (by rwa [← misleading, List.map_id]) (.done inner (by rwa [List.map_id]))
  · rw [Text.stripEnclosing_of_not_isEnclosed, outer, misleading]
    · intro same
      have longer := congrArg List.length same
      simp only [List.length_cons, List.length_append] at longer
      omega
    · rw [outer]
      exact hctx.not_isEnclosed_misleading different

end Misleading

end Context

/-- **Exactly the pairs around a text are removed**, in every context whose quotes are not blank and
have no other meaning, if one character is both quotes. If they are two, the pairs around a text are
removed as long as no identifier in it has a `'`, an opening quote or a parenthesis behind a closing
quote in its name; without this condition a pair can be left. -/
theorem stripEnclosing_eq_iff_unwraps (ctx : Context) (hctx : ctx.QuotesOnly)
    (hOpen : Text.isBlank ctx.openQuote = false) (hClose : Text.isBlank ctx.closeQuote = false) :
    (∀ {α : Type} (shown : α → Char) (xs : List α),
      ctx.openQuote = ctx.closeQuote ∨ ctx.PlainBehindDoubled (xs.map shown) →
        ∀ out, Text.stripEnclosing shown ctx.openQuote ctx.closeQuote xs = out ↔
          ctx.Unwraps shown xs out) ∧
    (ctx.openQuote ≠ ctx.closeQuote →
      ∃ cs out, (ctx.after .outside cs).isFree ∧ ctx.Unwraps id cs out ∧
        Text.stripEnclosing id ctx.openQuote ctx.closeQuote cs ≠ out) := by
  refine ⟨fun shown xs plain out ↦ ?_, hctx.exists_stripEnclosing_ne hOpen hClose⟩
  have removed := hctx.unwraps_stripEnclosing hOpen hClose shown xs plain
  constructor
  · rintro rfl
    exact removed
  · exact removed.eq

/-- Two pairs are around the text. The parentheses in the name and in the literal do not count. -/
theorem stripEnclosing_unwraps_brackets :
    let ctx : Context := { Context.standard with openQuote := '[', closeQuote := ']' }
    let cs := "( ((a) OR ([x)] = ')')) )".toList
    ctx.PlainBehindDoubled cs ∧ ctx.Unwraps id cs "(a) OR ([x)] = ')')".toList := by
  intro ctx cs
  have plain : ctx.PlainBehindDoubled cs := .of_single (by decide +kernel)
  have removed : Text.stripEnclosing id ctx.openQuote ctx.closeQuote cs =
      "(a) OR ([x)] = ')')".toList := by decide +kernel
  have unwraps := (stripEnclosing_eq_iff_unwraps ctx ⟨by decide, by decide⟩ (by decide)
    (by decide)).1 id cs (.inr (by rwa [List.map_id])) "(a) OR ([x)] = ')')".toList
  exact ⟨plain, unwraps.mp removed⟩

/-- With two different quotes parentheses that are no partners can be removed: in both names the
scan counts what stands behind the closing quote, and so it takes the last parenthesis for the
partner of the first one. -/
theorem exists_cut_apart :
    ∃ (ctx : Context) (cs : List Char), ctx.QuotesOnly ∧ Text.isBlank ctx.openQuote = false ∧
      Text.isBlank ctx.closeQuote = false ∧ ctx.Balanced cs ∧ ctx.Unwraps id cs cs ∧
        Text.stripEnclosing id ctx.openQuote ctx.closeQuote cs =
          "[x]](] = 1) OR ([z]])] = 2".toList := by
  let ctx : Context := { Context.standard with openQuote := '[', closeQuote := ']' }
  let cs := "([x]](] = 1) OR ([z]])] = 2)".toList
  have hctx : ctx.QuotesOnly := ⟨by decide, by decide⟩
  have bare : ¬ctx.IsPaired cs := by
    rw [hctx.isPaired_iff]
    rintro ⟨inner, split, balanced⟩
    have middle : cs.tail.dropLast = inner := by
      rw [split, List.tail_cons, List.dropLast_concat]
    rw [← middle] at balanced
    exact absurd balanced (by decide +kernel)
  exact ⟨ctx, cs, hctx, by decide, by decide, by decide +kernel,
    .done (by decide +kernel) (by rwa [List.map_id]), by decide +kernel⟩

end PreparedSql
