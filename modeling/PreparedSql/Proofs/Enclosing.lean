import PreparedSql.From.Template
import PreparedSql.Proofs.Lexing
import PreparedSql.Proofs.Stripping

/-!
# Templates between parentheses

If one character is both the opening and the closing quote, most templates are passed over when a
parenthesis is matched: their own parentheses nest properly, and those in their names do not count,
because the quotes in a name come in pairs. Such a template stands between parentheses that match
each other, and it is what is left when they are removed, provided that it neither starts nor ends
with white space.

## Main definitions

* `Passed`: the templates that are passed over.
* `Edged`: the templates without white space at their ends.

## Main statements

* `Passed.quotedPath`: a name is passed over, whatever it consists of.
* `Edged.stripEnclosing_enclosed`: removing the parentheses around a template.
-/

namespace PreparedSql

/-- Between two parentheses, the template does not change which one is matched. -/
def Passed (ctx : Context) (t : Template) : Prop := ∀ (depth : Nat) (rest : List Char),
  Text.closesLast ctx.openQuote ctx.closeQuote (depth + 1) none (t.map Symbol.shown ++ rest) =
    Text.closesLast ctx.openQuote ctx.closeQuote (depth + 1) none rest

/-- The quotes are no white space, and neither the opening quote nor the separator begins a literal
or is a parenthesis. -/
structure Context.Scannable (ctx : Context) : Prop where
  /-- The quotes are no white space. -/
  blank : Text.isBlank ctx.openQuote = false ∧ Text.isBlank ctx.closeQuote = false
  /-- The opening quote begins nothing else. -/
  quote : ctx.openQuote ≠ '\'' ∧ ctx.openQuote ≠ '(' ∧ ctx.openQuote ≠ ')'
  /-- The separator begins nothing. -/
  separator : ctx.separator ≠ ctx.openQuote ∧ ctx.separator ≠ '\'' ∧ ctx.separator ≠ '(' ∧
    ctx.separator ≠ ')'

theorem Context.Legible.scannable {ctx : Context} (hctx : ctx.Legible) : ctx.Scannable := by
  have opening := hctx.openQuote
  have closing := hctx.closeQuote
  simp only [Text.isReserved, Bool.or_eq_false_iff] at opening closing
  refine ⟨⟨opening.1.1.1, closing.1.1.1⟩, ⟨?_, ?_, ?_⟩, hctx.separator_ne.1, ?_, ?_, ?_⟩
  · exact (hctx.openQuote_ne (by decide)).symm
  · exact (hctx.openQuote_ne (by decide)).symm
  · exact (hctx.openQuote_ne (by decide)).symm
  · exact (hctx.separator_ne_of_isReserved (by decide)).symm
  · exact (hctx.separator_ne_of_isReserved (by decide)).symm
  · exact (hctx.separator_ne_of_isReserved (by decide)).symm

theorem Context.Scannable.space_ne {ctx : Context} (hctx : ctx.Scannable) :
    ' ' ≠ ctx.openQuote := by
  intro isSpace
  exact absurd hctx.blank.1 (by rw [← isSpace]; decide)

/-! ## What is passed over -/

section Passed

variable {ctx : Context} {t u : Template}

theorem Passed.append (h : Passed ctx t) (h' : Passed ctx u) : Passed ctx (t ++ u) := by
  intro depth rest
  rw [List.map_append, List.append_assoc, h, h']

theorem closesLast_cons {openQuote closeQuote c : Char} (hOpen : c ≠ openQuote)
    (hc : c ≠ '\'' ∧ c ≠ '(' ∧ c ≠ ')') (depth : Nat) (rest : List Char) :
    Text.closesLast openQuote closeQuote depth none (c :: rest) =
      Text.closesLast openQuote closeQuote depth none rest := by
  rw [Text.closesLast, if_neg hc.1, if_neg hOpen, if_neg hc.2.1, if_neg hc.2.2]

private theorem closesLast_append {openQuote closeQuote : Char} {cs : List Char}
    (h : ∀ c ∈ cs, c ≠ openQuote ∧ c ≠ '\'' ∧ c ≠ '(' ∧ c ≠ ')') (depth : Nat) (rest : List Char) :
    Text.closesLast openQuote closeQuote depth none (cs ++ rest) =
      Text.closesLast openQuote closeQuote depth none rest := by
  induction cs with
  | nil => rfl
  | cons c cs ih =>
    obtain ⟨hOpen, hc⟩ := h c List.mem_cons_self
    rw [List.cons_append, closesLast_cons hOpen hc, ih fun d hd ↦ h d (List.mem_cons_of_mem _ hd)]

theorem Passed.ofString {s : String}
    (h : ∀ c ∈ s.toList, c ≠ ctx.openQuote ∧ c ≠ '\'' ∧ c ≠ '(' ∧ c ≠ ')') :
    Passed ctx (.ofString s) := by
  intro depth rest
  rw [← Template.toList_text, Template.text_ofString]
  exact closesLast_append h _ _

theorem Passed.reserved (hctx : ctx.Legible) {s : String}
    (h : ∀ c ∈ s.toList, Text.isReserved c ∧ c ≠ '\'' ∧ c ≠ '(' ∧ c ≠ ')') :
    Passed ctx (.ofString s) :=
  .ofString fun c hc ↦ ⟨hctx.openQuote_ne (h c hc).1, (h c hc).2⟩

theorem Passed.placeholder (hctx : ctx.Legible) (b : Binding) : Passed ctx (.placeholder b) := by
  intro depth rest
  exact closesLast_cons (c := '?') (hctx.openQuote_ne (by decide)) (by decide) _ rest

private theorem shown_enclosed (t : Template) (rest : List Char) :
    (Template.ofString "( " ++ t ++ Template.ofString " )").map Symbol.shown ++ rest =
      '(' :: ' ' :: (t.map Symbol.shown ++ ' ' :: ')' :: rest) := by
  rw [List.map_append, List.map_append, List.append_assoc, List.append_assoc]
  rfl

/-- Parentheses around what is passed over match each other. -/
theorem Passed.closesLast_enclosed (hctx : ctx.Scannable) (h : Passed ctx t) (depth : Nat)
    (rest : List Char) :
    Text.closesLast ctx.openQuote ctx.closeQuote depth none
        ((Template.ofString "( " ++ t ++ Template.ofString " )").map Symbol.shown ++ rest) =
      if depth = 0 then rest.isEmpty
      else Text.closesLast ctx.openQuote ctx.closeQuote depth none rest := by
  have space (depth : Nat) (rest : List Char) :
      Text.closesLast ctx.openQuote ctx.closeQuote depth none (' ' :: rest) =
        Text.closesLast ctx.openQuote ctx.closeQuote depth none rest :=
    closesLast_cons hctx.space_ne (by decide) depth rest
  have opens (depth : Nat) (rest : List Char) :
      Text.closesLast ctx.openQuote ctx.closeQuote depth none ('(' :: rest) =
        Text.closesLast ctx.openQuote ctx.closeQuote (depth + 1) none rest := by
    rw [Text.closesLast, if_neg (by decide), if_neg hctx.quote.2.1.symm, if_pos rfl]
  have closes (depth : Nat) (rest : List Char) :
      Text.closesLast ctx.openQuote ctx.closeQuote depth none (')' :: rest) =
        if depth ≤ 1 then rest.isEmpty
        else Text.closesLast ctx.openQuote ctx.closeQuote (depth - 1) none rest := by
    rw [Text.closesLast, if_neg (by decide), if_neg hctx.quote.2.2.symm, if_neg (by decide),
      if_pos rfl]
  rw [shown_enclosed, opens, space, h, space, closes]
  cases depth with
  | zero => rfl
  | succ depth => rw [if_neg (by omega), if_neg (by omega), Nat.add_sub_cancel]

theorem Passed.enclosed (hctx : ctx.Scannable) (h : Passed ctx t) :
    Passed ctx (Template.ofString "( " ++ t ++ Template.ofString " )") := by
  intro depth rest
  rw [h.closesLast_enclosed hctx, if_neg (Nat.succ_ne_zero depth)]

section Names

variable (same : ctx.openQuote = ctx.closeQuote) (hctx : ctx.Scannable)

include same hctx

/-- The quotes in a quoted part come in pairs. -/
private theorem closesLast_quotedBody (part : List Char) (depth : Nat) (rest : List Char) :
    Text.closesLast ctx.openQuote ctx.closeQuote depth (some ctx.closeQuote)
        (ctx.quotedBody part ++ ctx.closeQuote :: rest) =
      Text.closesLast ctx.openQuote ctx.closeQuote depth none rest := by
  induction part with
  | nil =>
    rw [Context.quotedBody, List.flatMap_nil, List.nil_append, Text.closesLast, if_pos rfl]
  | cons c part ih =>
    rw [Context.quotedBody, List.flatMap_cons, ← Context.quotedBody, List.append_assoc]
    by_cases hc : c = ctx.closeQuote
    · -- of the two quotes the first one ends the quoted text, and the second one starts another
      have notLiteral : ctx.closeQuote ≠ '\'' := same ▸ hctx.quote.1
      rw [if_pos hc, hc, List.cons_append, List.singleton_append, Text.closesLast, if_pos rfl,
        Text.closesLast, if_neg notLiteral, if_pos same.symm, ih]
    · rw [if_neg hc, List.singleton_append, Text.closesLast, if_neg hc, ih]

/-- A part of a name is passed over; a bare `*` must not be a quote. -/
private theorem closesLast_quotedPart {part : List Char}
    (hStar : part = ['*'] → '*' ≠ ctx.openQuote) (depth : Nat) (rest : List Char) :
    Text.closesLast ctx.openQuote ctx.closeQuote depth none (ctx.quotedPart part ++ rest) =
      Text.closesLast ctx.openQuote ctx.closeQuote depth none rest := by
  rw [Context.quotedPart]
  split
  · next isStar =>
    rw [isStar]
    exact closesLast_cons (hStar isStar) (by decide) depth rest
  · rw [List.append_assoc, List.append_assoc, List.singleton_append, List.singleton_append,
      Text.closesLast, if_neg hctx.quote.1, if_pos rfl, closesLast_quotedBody same hctx]

theorem Passed.quotedPath {name : String}
    (hStar : ['*'] ∈ name.toList.splitOn ctx.separator → '*' ≠ ctx.openQuote) :
    Passed ctx (.ofString (ctx.quotedPath name)) := by
  intro depth rest
  rw [← Template.toList_text, Template.text_ofString, Context.toList_quotedPath]
  have separator (rest : List Char) :
      Text.closesLast ctx.openQuote ctx.closeQuote (depth + 1) none (ctx.separator :: rest) =
        Text.closesLast ctx.openQuote ctx.closeQuote (depth + 1) none rest :=
    closesLast_cons hctx.separator.1 hctx.separator.2 _ rest
  generalize name.toList.splitOn ctx.separator = parts at hStar
  induction parts with
  | nil => rfl
  | cons part parts ih =>
    have first : part = ['*'] → '*' ≠ ctx.openQuote :=
      fun isStar ↦ hStar (isStar ▸ List.mem_cons_self)
    cases parts with
    | nil =>
      rw [List.map_singleton, List.intercalate_singleton, closesLast_quotedPart same hctx first]
    | cons second parts =>
      rw [List.map_cons, List.map_cons, List.intercalate_cons_cons, List.append_assoc,
        List.append_assoc, closesLast_quotedPart same hctx first, List.singleton_append, separator]
      exact ih fun mem ↦ hStar (List.mem_cons_of_mem _ mem)

end Names

end Passed

/-! ## The ends of a template -/

/-- A template that neither starts nor ends with white space. -/
structure Edged (t : Template) : Prop where
  /-- The first symbol. -/
  first : ∃ s u, t = s :: u ∧ Text.isBlank s.shown = false
  /-- The last symbol. -/
  last : ∃ u s, t = u ++ [s] ∧ Text.isBlank s.shown = false

section Edged

variable {ctx : Context} {t u : Template}

theorem Edged.append (h : Edged t) (h' : Edged u) (x : Template) : Edged (t ++ x ++ u) := by
  obtain ⟨s, t', rfl, hs⟩ := h.first
  obtain ⟨u', s', rfl, hs'⟩ := h'.last
  refine ⟨⟨s, t' ++ x ++ (u' ++ [s']), rfl, hs⟩, ⟨s :: t' ++ x ++ u', s', ?_, hs'⟩⟩
  rw [← List.append_assoc]

theorem Edged.trimBy_append (h : Edged t) {front back : Template}
    (hFront : ∀ s ∈ front, Text.isBlank s.shown) (hBack : ∀ s ∈ back, Text.isBlank s.shown) :
    Text.trimBy (fun s ↦ Text.isBlank s.shown) (front ++ t ++ back) = t := by
  obtain ⟨⟨s, u, first, hs⟩, ⟨u', s', last, hs'⟩⟩ := h
  apply Text.trimBy_append hFront hBack
  · intro x hx
    rw [first, List.head?_cons, Option.mem_some_iff] at hx
    rw [← hx, hs]
    exact Bool.false_ne_true
  · intro x hx
    rw [last, List.getLast?_concat, Option.mem_some_iff] at hx
    rw [← hx, hs']
    exact Bool.false_ne_true

theorem Edged.trimBy (h : Edged t) : Text.trimBy (fun s ↦ Text.isBlank s.shown) t = t := by
  have nothing : ∀ s ∈ ([] : Template), Text.isBlank s.shown := fun _ hs ↦ nomatch hs
  have whole := h.trimBy_append nothing nothing
  rwa [List.nil_append, List.append_nil] at whole

private theorem exists_quotedPath_append (ctx : Context) (name : String) : ∃ cs c,
    (ctx.quotedPath name).toList = cs ++ [c] ∧ (c = '*' ∨ c = ctx.closeQuote) := by
  have part (p : List Char) : ∃ cs c, ctx.quotedPart p = cs ++ [c] ∧
      (c = '*' ∨ c = ctx.closeQuote) := by
    rw [Context.quotedPart]
    split
    · next hStar => exact ⟨[], '*', hStar, .inl rfl⟩
    · exact ⟨_, _, rfl, .inr rfl⟩
  rw [Context.toList_quotedPath]
  have hne := List.splitOn_ne_nil ctx.separator name.toList
  generalize name.toList.splitOn ctx.separator = parts at hne
  induction parts with
  | nil => exact absurd rfl hne
  | cons p parts ih =>
    cases parts with
    | nil =>
      rw [List.map_singleton, List.intercalate_singleton]
      exact part p
    | cons p' parts =>
      obtain ⟨cs, c, whole, hc⟩ := ih (List.cons_ne_nil _ _)
      rw [List.map_cons] at whole
      rw [List.map_cons, List.map_cons, List.intercalate_cons_cons, whole, ← List.append_assoc]
      exact ⟨_, c, rfl, hc⟩

theorem Edged.name (hctx : ctx.Scannable) (n : String) : Edged (.ofString (ctx.quotedPath n)) := by
  obtain ⟨blankOpen, blankClose⟩ := hctx.blank
  constructor
  · obtain ⟨c, cs, first, hc⟩ := quotedPath_eq_cons ctx n
    refine ⟨.char c, cs.map .char, by rw [Template.ofString, first, List.map_cons], ?_⟩
    rcases hc with rfl | rfl
    · rfl
    · exact blankOpen
  · obtain ⟨cs, c, last, hc⟩ := exists_quotedPath_append ctx n
    refine ⟨cs.map .char, .char c, by rw [Template.ofString, last, List.map_append]; rfl, ?_⟩
    rcases hc with rfl | rfl
    · rfl
    · exact blankClose

theorem Edged.enclosed (t : Template) :
    Edged (Template.ofString "( " ++ t ++ Template.ofString " )") := by
  have opens : Edged [.char '('] := ⟨⟨_, [], rfl, rfl⟩, ⟨[], _, rfl, rfl⟩⟩
  have closes : Edged [.char ')'] := ⟨⟨_, [], rfl, rfl⟩, ⟨[], _, rfl, rfl⟩⟩
  have whole := opens.append closes ([.char ' '] ++ t ++ [.char ' '])
  simpa [Template.ofString] using whole

theorem Edged.ne_nil (h : Edged t) : t ≠ [] := by
  obtain ⟨s, u, rfl, -⟩ := h.first
  exact List.cons_ne_nil s u

theorem Edged.join {between : String} {ts : List Template} (hne : ts ≠ [])
    (h : ∀ t ∈ ts, Edged t) : Edged (Template.join between ts) := by
  induction ts with
  | nil => exact absurd rfl hne
  | cons t ts ih =>
    have first := h t List.mem_cons_self
    cases ts with
    | nil =>
      rw [Template.join, List.intercalate_singleton]
      exact first
    | cons u ts =>
      rw [Template.join, List.intercalate_cons_cons]
      exact first.append (ih (List.cons_ne_nil _ _) fun v hv ↦ h v (List.mem_cons_of_mem _ hv)) _

theorem Edged.stripEnclosing (h : Edged t)
    (outer : ¬Text.isEnclosed Symbol.shown ctx.openQuote ctx.closeQuote t) :
    t.stripEnclosing ctx = t := by
  rw [Template.stripEnclosing, Text.stripEnclosing_of_not_isEnclosed, h.trimBy]
  rw [h.trimBy]
  exact outer

/-- Removing the parentheses around a template goes on with what is between them, if they match each
other. -/
theorem Edged.stripEnclosing_of_isEnclosed (h : Edged t)
    (outer : Text.isEnclosed Symbol.shown ctx.openQuote ctx.closeQuote
      (Template.ofString "( " ++ t ++ Template.ofString " )")) :
    (Template.ofString "( " ++ t ++ Template.ofString " )").stripEnclosing ctx =
      t.stripEnclosing ctx := by
  have whole : Template.ofString "( " ++ t ++ Template.ofString " )" =
      .char '(' :: ([.char ' '] ++ t ++ [.char ' '] ++ [.char ')']) := by
    simp [Template.ofString]
  have inner : Text.trimBy (fun s : Symbol ↦ Text.isBlank s.shown)
      ([.char ' '] ++ t ++ [.char ' ']) = Text.trimBy (fun s ↦ Text.isBlank s.shown) t := by
    have blank : ∀ s ∈ [Symbol.char ' '], Text.isBlank s.shown := by
      intro s hs
      rw [List.mem_singleton.mp hs]
      rfl
    rw [h.trimBy_append blank blank, h.trimBy]
  rw [Template.stripEnclosing, Text.stripEnclosing_of_isEnclosed, (Edged.enclosed t).trimBy, whole,
    List.tail_cons, List.dropLast_concat]
  · exact Text.stripEnclosing_congr inner
  · rw [(Edged.enclosed t).trimBy]
    exact outer

/-- Parentheses around what is passed over match each other. -/
theorem Passed.isEnclosed (hctx : ctx.Scannable) (passed : Passed ctx t) :
    Text.isEnclosed Symbol.shown ctx.openQuote ctx.closeQuote
      (Template.ofString "( " ++ t ++ Template.ofString " )") := by
  have closes := passed.closesLast_enclosed hctx 0 []
  rw [List.append_nil, if_pos rfl] at closes
  have last : Template.ofString "( " ++ t ++ Template.ofString " )" =
      Template.ofString "( " ++ t ++ [.char ' '] ++ [.char ')'] := by
    simp [Template.ofString]
  rw [Text.isEnclosed, closes, last, List.getLast?_concat]
  rfl

/-- Removing the parentheses around what is passed over goes on with what is between them. -/
theorem Edged.stripEnclosing_enclosed (h : Edged t) (hctx : ctx.Scannable) (passed : Passed ctx t) :
    (Template.ofString "( " ++ t ++ Template.ofString " )").stripEnclosing ctx =
      t.stripEnclosing ctx :=
  h.stripEnclosing_of_isEnclosed (passed.isEnclosed hctx)

end Edged

end PreparedSql
