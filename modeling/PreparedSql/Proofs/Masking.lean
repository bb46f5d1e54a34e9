import Mathlib.Data.List.Induction
import PreparedSql.Proofs.Region
import PreparedSql.Proofs.Stripping

/-!
# Texts whose identifiers are masked

To mask a text is to put one and the same mark in place of every quoted identifier. What is left
shows the literals and everything else that is written, but no name. If one character is both the
opening and the closing quote, parentheses can be matched in the masked text: the quotes in an
identifier come in pairs, so the matching never stops inside it.

## Main statements

* `Context.masked_quotedPath`: of a quoted name the mask leaves its separators and `*` only.
* `Context.respelling_masked`: removing parentheses commutes with masking.
-/

namespace PreparedSql

/-- What the mask leaves of an element: the start of an identifier is where the mark stands. -/
def Place.mask {α : Type} : Place × α → Option (Option α)
  | (.opening, _) => some none
  | (.inner, _) => none
  | (.plain, x) | (.literal, x) => some (some x)

namespace Context

variable {α β : Type}

/-- The text with nothing in place of every identifier. -/
def masked (ctx : Context) (shown : α → Char) (r : Region) (xs : List α) : List (Option α) :=
  (ctx.places shown r xs).filterMap Place.mask

/-- The text with a mark in place of every identifier. -/
def maskedText (ctx : Context) (mark : String) (sql : String) : String :=
  String.ofList ((ctx.masked id .outside sql.toList).flatMap fun
    | none => mark.toList
    | some c => [c])

variable {ctx : Context} {shown : α → Char} {r : Region}

@[simp] theorem masked_nil : ctx.masked shown r [] = [] := rfl

theorem masked_cons (x : α) (xs : List α) : ctx.masked shown r (x :: xs) =
    (Place.mask (ctx.place r (shown x), x)).toList ++
      ctx.masked shown (ctx.next r (shown x)) xs := by
  rw [masked, places_cons, List.filterMap_cons]
  cases Place.mask (ctx.place r (shown x), x) <;> rfl

theorem masked_append (xs ys : List α) : ctx.masked shown r (xs ++ ys) =
    ctx.masked shown r xs ++ ctx.masked shown (ctx.after r (xs.map shown)) ys := by
  rw [masked, places_append, List.filterMap_append]
  rfl

theorem masked_map (g : β → α) (xs : List β) :
    ctx.masked shown r (xs.map g) = (ctx.masked (shown ∘ g) r xs).map (Option.map g) := by
  have same : Place.mask ∘ Prod.map id g = fun x ↦ (Place.mask x).map (Option.map g) := by
    funext ⟨place, x⟩
    cases place <;> rfl
  rw [masked, places_map, List.filterMap_map, same, masked, List.map_filterMap]

theorem masked_of_isInert {xs : List α} (hr : r.isFree) (h : ∀ x ∈ xs, ctx.isInert (shown x)) :
    ctx.masked shown r xs = xs.map some := by
  rw [masked, places_of_isInert hr h, List.filterMap_map, ← List.filterMap_eq_map]
  rfl

theorem isEmpty_masked (xs : List α) : (ctx.masked shown .outside xs).isEmpty = xs.isEmpty := by
  cases xs with
  | nil => rfl
  | cons x xs =>
    rw [masked_cons, place, openedPlace]
    split
    · rfl
    · split <;> rfl

/-! ## Masked names -/

/-- What the mask leaves of one part of a name. -/
def maskedPart (part : List Char) : List (Option Char) :=
  if part = ['*'] then [some '*'] else [none]

private theorem filterMap_partPlaces (part : List Char) :
    (ctx.partPlaces part).filterMap Place.mask = maskedPart part := by
  rw [partPlaces, maskedPart]
  split
  · rfl
  · rw [List.filterMap_cons, List.filterMap_map]
    simp [Place.mask, Function.comp_def]

theorem Readable.masked_quotedPart (hctx : ctx.Readable) (part : List Char) :
    ctx.masked id .outside (ctx.quotedPart part) = maskedPart part := by
  rw [masked, (hctx.places_quotedPart part).1, filterMap_partPlaces]

theorem Readable.masked_quotedPath (hctx : ctx.Readable) (name : String) :
    ctx.masked id .outside (ctx.quotedPath name).toList =
      [some ctx.separator].intercalate ((name.toList.splitOn ctx.separator).map maskedPart) := by
  rw [masked, (hctx.places_quotedPath name).1]
  generalize name.toList.splitOn ctx.separator = parts
  induction parts with
  | nil => rfl
  | cons part parts ih =>
    cases parts with
    | nil =>
      rw [List.map_singleton, List.map_singleton, List.intercalate_singleton,
        List.intercalate_singleton, filterMap_partPlaces]
    | cons second parts =>
      rw [List.map_cons, List.map_cons, List.map_cons, List.map_cons, List.intercalate_cons_cons,
        List.intercalate_cons_cons, List.filterMap_append, List.filterMap_append,
        filterMap_partPlaces, ← List.map_cons, ← List.map_cons, ih]
      rfl

/-! ## Parentheses in a masked text -/

/-- How an element of a masked text looks; a mark looks like a letter. -/
def maskShown (shown : α → Char) : Option α → Char
  | none => 'x'
  | some x => shown x

/-- The quote that ends what a region continues, as far as a masked text shows it. -/
def maskedQuote : Region → Option Char
  | .literal => some '\''
  | .outside | .identifier | .closed => none

/-- The quote that ends what a region continues. -/
def pendingQuote (ctx : Context) : Region → Option Char
  | .literal => some '\''
  | .identifier => some ctx.closeQuote
  | .outside | .closed => none

theorem masked_closed_cons {x : α} {xs : List α} (h : shown x ≠ ctx.closeQuote) :
    ctx.masked shown .closed (x :: xs) = ctx.masked shown .outside (x :: xs) := by
  rw [masked_cons, masked_cons, place_closed h, next_closed h]

private theorem Readable.closesLast_mark (hctx : ctx.Readable) (depth : Nat) (rest : List Char) :
    Text.closesLast ctx.openQuote ctx.closeQuote depth none ('x' :: rest) =
      Text.closesLast ctx.openQuote ctx.closeQuote depth none rest := by
  have inert : ctx.isInert 'x' := hctx.isInert_of_isWritten (by decide)
  rw [Text.closesLast, if_neg (by decide), if_neg (isInert_iff.mp inert).2.1, if_neg (by decide),
    if_neg (by decide)]

/-- The parenthesis that closes the first one is the same in the masked text, wherever the text
starts. -/
private def ClosesAlike (ctx : Context) (shown : α → Char) (xs : List α) : Prop :=
  ∀ (depth : Nat) (r : Region),
    Text.closesLast ctx.openQuote ctx.closeQuote depth (maskedQuote r)
        ((ctx.masked shown r xs).map (maskShown shown)) =
      Text.closesLast ctx.openQuote ctx.closeQuote depth (ctx.pendingQuote r) (xs.map shown)

/-- An element that no literal or identifier contains before it. -/
private theorem Readable.closesLast_masked_outside (hctx : ctx.Readable) (x : α) {xs : List α}
    (ih : ctx.ClosesAlike shown xs) (depth : Nat) :
    Text.closesLast ctx.openQuote ctx.closeQuote depth none
        ((ctx.masked shown .outside (x :: xs)).map (maskShown shown)) =
      Text.closesLast ctx.openQuote ctx.closeQuote depth none ((x :: xs).map shown) := by
  have literal (depth : Nat) := ih depth .literal
  have identifier (depth : Nat) := ih depth .identifier
  have outside (depth : Nat) := ih depth .outside
  simp only [maskedQuote, pendingQuote] at literal identifier outside
  rw [masked_cons, place, next, openedPlace, Context.opened, List.map_cons]
  by_cases hLiteral : shown x = '\''
  · rw [if_pos hLiteral, if_pos hLiteral, Text.closesLast, if_pos hLiteral, ← literal]
    simp only [Place.mask, Option.toList_some, List.singleton_append, List.map_cons]
    rw [Text.closesLast, if_pos (show maskShown shown (some x) = '\'' from hLiteral)]
  · by_cases hOpen : shown x = ctx.openQuote
    · -- the whole identifier leaves one mark, at its opening quote
      rw [if_neg hLiteral, if_pos hOpen, if_neg hLiteral, if_pos hOpen, Text.closesLast,
        if_neg hLiteral, if_pos hOpen, ← identifier]
      exact hctx.closesLast_mark depth _
    · have empty : ((ctx.masked shown .outside xs).map (maskShown shown)).isEmpty =
          (xs.map shown).isEmpty := by
        rw [List.isEmpty_map, List.isEmpty_map, isEmpty_masked]
      rw [if_neg hLiteral, if_neg hOpen, if_neg hLiteral, if_neg hOpen]
      simp only [Place.mask, Option.toList_some, List.singleton_append, List.map_cons]
      rw [Text.closesLast, Text.closesLast, outside, outside, outside, empty, maskShown,
        if_neg hLiteral, if_neg hOpen, if_neg hLiteral, if_neg hOpen]

private theorem Readable.closesLast_masked (hctx : ctx.Readable)
    (same : ctx.openQuote = ctx.closeQuote) (xs : List α) (depth : Nat) (r : Region) :
    Text.closesLast ctx.openQuote ctx.closeQuote depth (maskedQuote r)
        ((ctx.masked shown r xs).map (maskShown shown)) =
      Text.closesLast ctx.openQuote ctx.closeQuote depth (ctx.pendingQuote r) (xs.map shown) := by
  induction xs generalizing depth r with
  | nil => cases r <;> rfl
  | cons x xs ih =>
    have opened := hctx.closesLast_masked_outside x ih depth
    cases r with
    | outside => exact opened
    | closed =>
      by_cases hClose : shown x = ctx.closeQuote
      · have continued : ctx.masked shown .closed (x :: xs) = ctx.masked shown .identifier xs := by
          rw [masked_cons, place, if_pos hClose, next, if_pos hClose]
          rfl
        have notLiteral : shown x ≠ '\'' := hClose ▸ hctx.closeQuote.2.1
        -- the scan takes a second closing quote for an opening one, which leads to the same region
        rw [continued, List.map_cons, pendingQuote, maskedQuote, Text.closesLast,
          if_neg notLiteral, if_pos (hClose.trans same.symm)]
        exact ih depth .identifier
      · rw [masked_closed_cons hClose]
        exact opened
    | literal =>
      have kept : ctx.masked shown .literal (x :: xs) =
          some x :: ctx.masked shown (ctx.next .literal (shown x)) xs := masked_cons x xs
      rw [kept, List.map_cons, List.map_cons, maskedQuote, pendingQuote, Text.closesLast,
        Text.closesLast, next, maskShown]
      by_cases hLiteral : shown x = '\''
      · rw [if_pos hLiteral, if_pos hLiteral]
        exact ih depth .outside
      · rw [if_neg hLiteral, if_neg hLiteral]
        exact ih depth .literal
    | identifier =>
      have dropped : ctx.masked shown .identifier (x :: xs) =
          ctx.masked shown (ctx.next .identifier (shown x)) xs := masked_cons x xs
      rw [dropped, List.map_cons, maskedQuote, pendingQuote, Text.closesLast, next]
      by_cases hClose : shown x = ctx.closeQuote
      · rw [if_pos hClose, if_pos hClose]
        exact ih depth .closed
      · rw [if_neg hClose, if_neg hClose]
        exact ih depth .identifier

/-- A text that ends in an identifier or right behind one leaves a mark at its end. -/
private theorem getLast?_masked_of_identifier (xs : List α)
    (h : ctx.after .outside (xs.map shown) = .identifier ∨
      ctx.after .outside (xs.map shown) = .closed) :
    (ctx.masked shown .outside xs).getLast? = some none := by
  induction xs using List.reverseRecOn with
  | nil =>
    rw [List.map_nil, after_nil] at h
    exact absurd h (by decide)
  | append_singleton xs x ih =>
    rw [List.map_append, after_append] at h
    rw [masked_append, masked_cons, masked_nil, List.append_nil]
    -- the last element decides; one that leaves nothing is preceded by what leaves the mark
    generalize ctx.after .outside (xs.map shown) = r at h ih
    have opened (h : ctx.opened (shown x) = .identifier ∨ ctx.opened (shown x) = .closed) :
        Place.mask (ctx.openedPlace (shown x), x) = some none := by
      rw [Context.opened] at h
      rw [openedPlace]
      split at h
      · exact absurd h (by decide)
      · split at h
        · next hLiteral hOpen => rw [if_neg hLiteral, if_pos hOpen]; rfl
        · exact absurd h (by decide)
    cases r with
    | identifier => exact (congrArg List.getLast? (List.append_nil _)).trans (ih (.inl rfl))
    | literal =>
      by_cases hLiteral : shown x = '\''
      · rw [List.map_singleton, after_cons, after_nil, next, if_pos hLiteral] at h
        exact absurd h (by decide)
      · rw [List.map_singleton, after_cons, after_nil, next, if_neg hLiteral] at h
        exact absurd h (by decide)
    | outside =>
      rw [place, opened h]
      exact List.getLast?_concat
    | closed =>
      by_cases hClose : shown x = ctx.closeQuote
      · rw [place, if_pos hClose]
        exact (congrArg List.getLast? (List.append_nil _)).trans (ih (.inr rfl))
      · rw [List.map_singleton, after_cons, next_closed hClose] at h
        rw [place_closed hClose, place, opened h]
        exact List.getLast?_concat

private theorem getLast?_masked_concat (xs : List α) (x : α)
    (h : (ctx.after .outside ((xs ++ [x]).map shown)).isFree) :
    (ctx.masked shown .outside (xs ++ [x])).getLast? = some (some x) ∨
      shown x = ctx.closeQuote ∧
        (ctx.masked shown .outside (xs ++ [x])).getLast? = some none := by
  by_cases hMark : ctx.after .outside ((xs ++ [x]).map shown) = .closed
  · refine .inr ⟨?_, getLast?_masked_of_identifier _ (.inr hMark)⟩
    rw [List.map_append, after_append] at hMark
    exact (of_next_eq_closed hMark).2
  · left
    rw [List.map_append, after_append] at h hMark
    rw [masked_append, masked_cons, masked_nil, List.append_nil]
    generalize ctx.after .outside (xs.map shown) = r at h hMark
    have opened (h : (ctx.opened (shown x)).isFree) :
        Place.mask (ctx.openedPlace (shown x), x) = some (some x) := by
      rw [Context.opened] at h
      rw [openedPlace]
      split at h
      · next hLiteral => exact absurd h (by decide)
      · split at h
        · exact absurd h (by decide)
        · next hLiteral hOpen => rw [if_neg hLiteral, if_neg hOpen]; rfl
    cases r with
    | literal => exact List.getLast?_concat
    | identifier =>
      rw [List.map_singleton, after_cons, after_nil, next] at h hMark
      split at h
      · next hClose => exact absurd (if_pos hClose) hMark
      · exact absurd h (by decide)
    | outside =>
      rw [place, opened h]
      exact List.getLast?_concat
    | closed =>
      rw [List.map_singleton, after_cons, after_nil] at h
      by_cases hClose : shown x = ctx.closeQuote
      · rw [next, if_pos hClose] at h
        exact absurd h (by decide)
      · rw [next_closed hClose] at h
        rw [place_closed hClose, place, opened h]
        exact List.getLast?_concat

private theorem maskShown_mark_ne {c : Char} (hc : Text.isWrapping c) :
    (some none).map (maskShown shown) ≠ some c := by
  intro h
  have letter : 'x' = c := Option.some.inj h
  rw [← letter] at hc
  exact absurd hc (by decide)

theorem Readable.respelling_masked (hctx : ctx.Readable) (same : ctx.openQuote = ctx.closeQuote)
    (hBlank : Text.isBlank ctx.openQuote = false) (shown : α → Char) :
    Text.Respelling shown (maskShown shown) ctx.openQuote ctx.closeQuote
      (fun xs ↦ (ctx.after .outside (xs.map shown)).isFree) (ctx.masked shown .outside) some where
  shown_embed _ := rfl
  peel {front mid back} h hFront hBack := by
    have inert {part : List α} (hPart : ∀ x ∈ part, Text.isWrapping (shown x)) :
        ∀ x ∈ part, ctx.isInert (shown x) := by
      intro x hx
      exact hctx.isInert_of_isWrapping hBlank (same ▸ hBlank) (hPart x hx)
    have inertShown {part : List α} (hPart : ∀ x ∈ part, Text.isWrapping (shown x)) :
        ∀ c ∈ part.map shown, ctx.isInert c := List.forall_mem_map.mpr (inert hPart)
    rw [List.map_append, List.map_append, isFree_after_of_append (inertShown hFront)
      (inertShown hBack)] at h
    refine ⟨h, ?_⟩
    rw [masked_append, masked_append, masked_of_isInert rfl (inert hFront), List.map_append,
      after_append, after_outside_of_isInert (inertShown hFront), masked_of_isInert h (inert hBack)]
  head {xs} _ {c} hc := by
    cases xs with
    | nil => rfl
    | cons x xs =>
      rw [masked_cons, place, openedPlace]
      by_cases hOpen : shown x ≠ '\'' ∧ shown x = ctx.openQuote
      · rw [if_neg hOpen.1, if_pos hOpen.2]
        apply iff_of_false (maskShown_mark_ne hc)
        intro front
        rw [List.head?_cons, Option.map_some, Option.some.injEq, hOpen.2] at front
        exact hctx.not_isWrapping_openQuote hBlank (front ▸ hc)
      · split
        · rfl
        · next hLiteral =>
          rw [if_neg fun h ↦ hOpen ⟨hLiteral, h⟩]
          rfl
  last {xs} h {c} hc := by
    rcases List.eq_nil_or_concat xs with rfl | ⟨xs, x, rfl⟩
    · rfl
    · rw [List.concat_eq_append] at h ⊢
      rw [List.getLast?_concat]
      rcases getLast?_masked_concat xs x h with last | ⟨hClose, last⟩
      · rw [last]
        rfl
      · rw [last]
        apply iff_of_false (maskShown_mark_ne hc)
        intro back
        rw [Option.map_some, Option.some.injEq, hClose, ← same] at back
        exact hctx.not_isWrapping_openQuote hBlank (back ▸ hc)
  closesLast {xs} _ := hctx.closesLast_masked same xs 0 .outside

end Context

end PreparedSql
