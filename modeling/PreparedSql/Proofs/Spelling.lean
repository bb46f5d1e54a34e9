import PreparedSql.Proofs.Congruence
import PreparedSql.Proofs.Enclosing
import PreparedSql.Proofs.Grammar

/-!
# How conditions are spelled

The SQL of a condition is put together from pieces, each of which spells tokens of its own. If one
character is both the opening and the closing quote, a piece is also passed over when a parenthesis
is matched.

A template is the `Writing` of a formula if it spells the formula and if it still does so, up to the
groups of one member around it, when the parentheses around it are removed.

## Main statements

* `Writing.test`: the SQL of a test.
* `Writing.group`: the SQL of a group, from that of its members.
-/

namespace PreparedSql

/-! ## Pieces -/

/-- A template that spells tokens and, if the quotes are one character, is passed over. -/
structure Piece (ctx : Context) (t : Template) (ks : List Token) : Prop where
  /-- The template spells the tokens. -/
  spells : Spells ctx t ks
  /-- The template is passed over. -/
  passed : ctx.openQuote = ctx.closeQuote → Passed ctx t

/-- A piece that any piece may follow. -/
structure LeadingPiece (ctx : Context) (t : Template) (ks : List Token) : Prop where
  /-- All tokens have ended. -/
  reaches : Reaches ctx t ks .idle
  /-- The template is passed over. -/
  passed : ctx.openQuote = ctx.closeQuote → Passed ctx t

/-- Text that separates pieces: it starts with a space or a comma and consists of keywords,
operators and commas. -/
structure Separating (ctx : Context) (s : String) (ks : List Token) : Prop where
  /-- The text ends the tokens. -/
  reaches : Reaches ctx (.ofString s) ks .idle
  /-- The first character ends what is read before it. -/
  first : (Template.ofString s).head? = some (.char ' ') ∨
    (Template.ofString s).head? = some (.char ',')
  /-- No character quotes or groups. -/
  plain : ∀ c ∈ s.toList, Text.isReserved c ∧ c ≠ '\'' ∧ c ≠ '(' ∧ c ≠ ')'

section Piece

variable {ctx : Context} (hctx : ctx.Legible) {t u : Template} {s : String}
  {ks ls : List Token}

include hctx

theorem Piece.separated (h : Piece ctx t ks) (hs : Separating ctx s ls) :
    LeadingPiece ctx (t ++ .ofString s) (ks ++ ls) :=
  ⟨h.spells.append_reaches hctx hs.reaches hs.first,
    fun same ↦ (h.passed same).append (.reserved hctx hs.plain)⟩

omit hctx in
theorem LeadingPiece.append (h : LeadingPiece ctx t ks) (h' : Piece ctx u ls) :
    Piece ctx (t ++ u) (ks ++ ls) :=
  ⟨h.reaches.append_spells h'.spells, fun same ↦ (h.passed same).append (h'.passed same)⟩

theorem Piece.between {t' : Template} {ls' : List Token} (h : Piece ctx t ks)
    (hs : Separating ctx s ls) (h' : Piece ctx t' ls') :
    Piece ctx (t ++ .ofString s ++ t') (ks ++ ls ++ ls') :=
  (h.separated hctx hs).append h'

theorem Piece.join {k : Token} (hs : Separating ctx s [k]) {ts : List Template}
    {kss : List (List Token)} (hne : ts ≠ []) (h : List.Forall₂ (Piece ctx) ts kss) :
    Piece ctx (Template.join s ts) ([k].intercalate kss) := by
  induction h with
  | nil => exact absurd rfl hne
  | cons h rest ih =>
    cases rest with
    | nil =>
      rw [Template.join, List.intercalate_singleton, List.intercalate_singleton]
      exact h
    | cons =>
      rw [Template.join, List.intercalate_cons_cons, List.intercalate_cons_cons]
      exact h.between hctx hs (ih (List.cons_ne_nil _ _))

theorem LeadingPiece.enclosed (h : LeadingPiece ctx t ks) (h' : Piece ctx u ls) :
    Piece ctx (t ++ (.ofString "( " ++ u ++ .ofString " )"))
      (ks ++ (.symbol "(" :: ls ++ [.symbol ")"])) := by
  have opened : Reaches ctx (.ofString "( ") [.symbol "("] .idle := ⟨rfl, rfl⟩
  have closed : Reaches ctx (.ofString " )") [.symbol ")"] .idle := ⟨rfl, rfl⟩
  have inner := (opened.append_spells h'.spells).append_reaches hctx closed (.inl rfl)
  refine ⟨?_, fun same ↦ (h.passed same).append ((h'.passed same).enclosed hctx.scannable)⟩
  have whole := (h.reaches.append inner).spells [] rfl rfl
  rw [List.append_nil] at whole
  exact whole

theorem Piece.name (n : String) : Piece ctx (.ofString (ctx.quotedPath n)) [.name n] :=
  ⟨.quotedPath hctx n, fun same ↦
    .quotedPath same hctx.scannable fun _ ↦ hctx.openQuote_ne (by decide)⟩

theorem Piece.operand {o : Operand} (h : o.raws = []) :
    Piece ctx (o.template ctx) [o.token] := by
  cases o with
  | placeholder b => exact ⟨(Reaches.placeholder b).spells [] rfl rfl, fun _ ↦ .placeholder hctx b⟩
  | column n => exact .name hctx n
  | raw sql => exact nomatch h

/-! ## Tests -/

omit hctx

private theorem separating_operator (c : Comparison) :
    Separating ctx (" " ++ c.operator ++ " ") c.tokens := by
  cases c <;> exact ⟨⟨rfl, rfl⟩, .inl rfl, by decide⟩

private theorem separating_in (negated : Bool) : Separating ctx
    (" " ++ negatable negated "IN" ++ " ") (negationTokens negated ++ [.word "IN"]) := by
  cases negated <;> exact ⟨⟨rfl, rfl⟩, .inl rfl, by decide⟩

private theorem separating_between (negated : Bool) :
    Separating ctx (" " ++ negatable negated "BETWEEN" ++ " ")
      (negationTokens negated ++ [.word "BETWEEN"]) := by
  cases negated <;> exact ⟨⟨rfl, rfl⟩, .inl rfl, by decide⟩

theorem separating_connective (k : Connective) :
    Separating ctx (" " ++ k.keyword ++ " ") [.word k.keyword] := by
  cases k <;> exact ⟨⟨rfl, rfl⟩, .inl rfl, by decide⟩

private theorem separating_comma : Separating ctx ", " [.symbol ","] :=
    ⟨⟨rfl, rfl⟩, .inr rfl, by decide⟩

include hctx

theorem Piece.null (h : Piece ctx t ks) (negated : Bool) :
    Piece ctx (t ++ .ofString (if negated then " IS NOT NULL" else " IS NULL"))
      (ks ++ (.word "IS" :: negationTokens negated ++ [.word "NULL"])) := by
  cases negated with
  | false =>
    have last : Reaches ctx (.ofString " IS NULL") [.word "IS"] (.word "NULL".toList) := ⟨rfl, rfl⟩
    have whole := (h.spells.append_reaches hctx last (.inl rfl)).spells [.word "NULL"] rfl rfl
    rw [List.append_assoc] at whole
    exact ⟨whole, fun same ↦ (h.passed same).append (.reserved hctx (by decide))⟩
  | true =>
    have last : Reaches ctx (.ofString " IS NOT NULL") [.word "IS", .word "NOT"]
      (.word "NULL".toList) := ⟨rfl, rfl⟩
    have whole := (h.spells.append_reaches hctx last (.inl rfl)).spells [.word "NULL"] rfl rfl
    rw [List.append_assoc] at whole
    exact ⟨whole, fun same ↦ (h.passed same).append (.reserved hctx (by decide))⟩

theorem Piece.test (column : String) {x : Test} (hRaw : x.raws = [])
    (hItems : ∀ n, x ≠ .isIn n []) :
    Piece ctx (x.template ctx (ctx.quotedPath column)) (.name column :: x.tokens) := by
  have name := Piece.name hctx column
  cases x with
  | compare c o =>
    rw [Test.template, Template.ofString_keyword]
    exact name.between hctx (separating_operator c) (.operand hctx hRaw)
  | isIn negated items =>
    have hne : items ≠ [] := by
      intro empty
      exact hItems negated (by rw [empty])
    have joined : Piece ctx (Template.join ", " (items.map (Operand.template ctx)))
        ([.symbol ","].intercalate (items.map fun o ↦ [o.token])) := by
      refine Piece.join hctx separating_comma (fun h ↦ hne (List.map_eq_nil_iff.mp h)) ?_
      rw [List.forall₂_map_left_iff, List.forall₂_map_right_iff, List.forall₂_same]
      intro o ho
      exact .operand hctx (List.flatMap_eq_nil_iff.mp hRaw o ho)
    have whole := (name.separated hctx (separating_in negated)).enclosed hctx joined
    obtain ⟨o, os, rfl⟩ := List.exists_cons_of_ne_nil hne
    rw [Test.template, Template.ofString_keyword_open]
    · simpa [Test.tokens, List.append_assoc] using whole
    · simp
  | between negated low high =>
    obtain ⟨hLow, hHigh⟩ := List.append_eq_nil_iff.mp hRaw
    have bounds := (name.between hctx (separating_between negated) (.operand hctx hLow)).between
      hctx (separating_connective .and) (.operand hctx hHigh)
    rw [Test.template, Template.ofString_keyword]
    simpa [Test.tokens, List.append_assoc, Connective.keyword] using bounds
  | isNull negated =>
    have whole := name.null hctx negated
    rw [Test.template]
    cases negated with
    | false =>
      rw [if_neg (by decide), Template.ofString_append]
      rw [if_neg (by decide)] at whole
      exact whole
    | true =>
      rw [if_pos rfl, Template.ofString_append]
      rw [if_pos rfl] at whole
      exact whole

end Piece

/-! ## The ends of a test -/

section Edged

variable {ctx : Context}

theorem Edged.operand (hctx : ctx.Legible) {o : Operand} (h : o.raws = []) :
    Edged (o.template ctx) := by
  cases o with
  | placeholder b => exact ⟨⟨_, [], rfl, rfl⟩, ⟨[], _, rfl, rfl⟩⟩
  | column n => exact .name hctx.scannable n
  | raw sql => exact nomatch h

/-- A test starts with its column and ends in an operand, a parenthesis or a keyword. -/
private theorem exists_test_template_eq (hctx : ctx.Legible) (column : String) {x : Test}
    (hRaw : x.raws = []) (hItems : ∀ n, x ≠ .isIn n []) :
    ∃ y u, x.template ctx column = .ofString column ++ y ++ u ∧ Edged u := by
  cases x with
  | compare c o =>
    refine ⟨.ofString (" " ++ c.operator ++ " "), o.template ctx, ?_, .operand hctx hRaw⟩
    rw [Test.template, Template.ofString_keyword]
  | isIn negated items =>
    have hne : items ≠ [] := by
      intro empty
      exact hItems negated (by rw [empty])
    obtain ⟨o, os, rfl⟩ := List.exists_cons_of_ne_nil hne
    refine ⟨.ofString (" " ++ negatable negated "IN" ++ " ") ++ .ofString "( " ++
      Template.join ", " ((o :: os).map (Operand.template ctx)) ++ .ofString " ", .ofString ")", ?_,
      ⟨⟨_, [], rfl, rfl⟩, ⟨[], _, rfl, rfl⟩⟩⟩
    have closing : Template.ofString " )" = .ofString " " ++ .ofString ")" := rfl
    rw [Test.template, Template.ofString_keyword_open, closing]
    · simp only [List.append_assoc]
    · simp
  | between negated low high =>
    obtain ⟨-, hHigh⟩ := List.append_eq_nil_iff.mp hRaw
    refine ⟨.ofString (" " ++ negatable negated "BETWEEN" ++ " ") ++ low.template ctx ++
      .ofString " AND ", high.template ctx, ?_, .operand hctx hHigh⟩
    rw [Test.template, Template.ofString_keyword]
    simp only [List.append_assoc]
  | isNull negated =>
    refine ⟨.ofString (if negated then " IS NOT " else " IS "), .ofString "NULL", ?_,
      ⟨⟨_, _, rfl, rfl⟩, ⟨Template.ofString "NUL", .char 'L', rfl, rfl⟩⟩⟩
    rw [Test.template]
    cases negated with
    | false =>
      rw [if_neg (by decide), Template.ofString_append, List.append_assoc]
      rfl
    | true =>
      rw [if_pos rfl, Template.ofString_append, List.append_assoc]
      rfl

theorem Edged.test (hctx : ctx.Legible) (column : String) {x : Test}
    (hRaw : x.raws = []) (hItems : ∀ n, x ≠ .isIn n []) :
    Edged (x.template ctx (ctx.quotedPath column)) := by
  obtain ⟨y, u, whole, hu⟩ := exists_test_template_eq hctx (ctx.quotedPath column) hRaw hItems
  rw [whole]
  exact (Edged.name hctx.scannable column).append hu y

end Edged

/-! ## Formulas -/

namespace Formula

/-- A group of members that all say something. -/
def grouped (k : Connective) : List Formula → Formula
  | [f] => enclosed f
  | fs => joined k fs

theorem tokens_grouped (k : Connective) (fs : List Formula) : (grouped k fs).tokens =
    .symbol "(" :: [.word k.keyword].intercalate (fs.map tokens) ++ [.symbol ")"] := by
  match fs with
  | [] => rfl
  | [f] => rw [grouped, tokens, List.map_singleton, List.intercalate_singleton]
  | f :: g :: fs => rw [grouped, tokens, allTokens_eq_map]; simp

theorem Proper.grouped (k : Connective) {fs : List Formula} (hne : fs ≠ [])
    (h : ∀ f ∈ fs, f.Proper) : (Formula.grouped k fs).Proper := by
  match fs, hne with
  | [f], _ => exact .enclosed (h f List.mem_cons_self)
  | f :: g :: fs, _ => exact .joined h (by simp)

end Formula

/-- A template that is the SQL of a formula, with the parentheses around it or without. -/
structure Writing (ctx : Context) (t : Template) (f : Formula) : Prop where
  /-- The template spells the formula. -/
  piece : Piece ctx t f.tokens
  /-- The formula can be written. -/
  proper : f.Proper
  /-- No white space stands at the ends. -/
  edged : Edged t
  /-- A parenthesis at the front is closed at the end. -/
  closed (same : ctx.openQuote = ctx.closeQuote) (h : t.head?.map Symbol.shown = some '(')
    (rest : List Char) : Text.closesLast ctx.openQuote ctx.closeQuote 0 none
      (t.map Symbol.shown ++ rest) = rest.isEmpty
  /-- Without the parentheses around it, the template spells what is between them. -/
  stripped (same : ctx.openQuote = ctx.closeQuote) :
    Spells ctx (t.stripEnclosing ctx) (Formula.alternativeTokens f.alternatives)

section Writing

variable {ctx : Context} (hctx : ctx.Legible) {t : Template} {f : Formula}

/-- What does not start with a parenthesis. -/
theorem Writing.plain (piece : Piece ctx t f.tokens) (proper : f.Proper) (edged : Edged t)
    (hFirst : t.head?.map Symbol.shown ≠ some '(') (single : f.alternatives = [[f]]) :
    Writing ctx t f := by
  refine ⟨piece, proper, edged, fun _ h ↦ absurd h hFirst, ?_⟩
  intro _
  rw [edged.stripEnclosing, single, Formula.alternativeTokens_single]
  · exact piece.spells
  · rw [Text.isEnclosed, Bool.and_eq_true, Bool.and_eq_true, beq_iff_eq]
    intro outer
    exact hFirst outer.1.1

include hctx

theorem Writing.constant (holds : Bool) :
    Writing ctx (.ofString (if holds then "1=1" else "0=1")) (.constant holds) := by
  have first : Reaches ctx (.ofString (if holds then "1=1" else "0=1"))
      [.word (if holds then "1" else "0"), .symbol "="] (.word "1".toList) := by
    cases holds <;> exact ⟨rfl, rfl⟩
  refine .plain ⟨first.spells [.word "1"] rfl rfl, ?_⟩ .constant ?_ ?_ rfl
  · intro _
    cases holds <;> exact .reserved hctx (by decide)
  · cases holds with
    | false => exact ⟨⟨_, _, rfl, rfl⟩, ⟨Template.ofString "0=", .char '1', rfl, rfl⟩⟩
    | true => exact ⟨⟨_, _, rfl, rfl⟩, ⟨Template.ofString "1=", .char '1', rfl, rfl⟩⟩
  · cases holds <;> decide

theorem Writing.test (column : String) {x : Test} (hRaw : x.raws = [])
    (hItems : ∀ n, x ≠ .isIn n []) :
    Writing ctx (x.template ctx (ctx.quotedPath column)) (.test column x) := by
  refine .plain (.test hctx column hRaw hItems) (.test hRaw hItems) (.test hctx column hRaw hItems)
    ?_ rfl
  obtain ⟨c, cs, first, hc⟩ := quotedPath_eq_cons ctx column
  obtain ⟨y, u, whole, -⟩ := exists_test_template_eq hctx (ctx.quotedPath column) hRaw hItems
  rw [whole, Template.ofString, first, List.map_cons]
  change some c ≠ some '('
  rintro h
  rw [Option.some.injEq] at h
  rcases hc with rfl | rfl
  · exact absurd h (by decide)
  · exact hctx.openQuote_ne (by decide) h.symm

omit hctx

/-- Several members with their connective between them: parentheses around the first one do not
enclose the others. -/
private theorem Writing.not_isEnclosed_join (same : ctx.openQuote = ctx.closeQuote) (k : Connective)
    (h : Writing ctx t f) (u : Template) (ts : List Template) :
    ¬Text.isEnclosed Symbol.shown ctx.openQuote ctx.closeQuote
      (Template.join (" " ++ k.keyword ++ " ") (t :: u :: ts)) := by
  rw [Template.join, List.intercalate_cons_cons, List.append_assoc, Text.isEnclosed,
    Bool.and_eq_true, Bool.and_eq_true, beq_iff_eq]
  -- the parenthesis at the front is closed at the end of the first member, and more follows
  rintro ⟨⟨opens, -⟩, closes⟩
  obtain ⟨s, rest, rfl, -⟩ := h.edged.first
  rw [List.map_append, h.closed same opens, List.isEmpty_iff, List.map_eq_nil_iff] at closes
  have silent := (List.append_eq_nil_iff.mp closes).1
  cases k <;> exact absurd silent (by decide)

private theorem Writing.stripped_join (same : ctx.openQuote = ctx.closeQuote) (k : Connective)
    {ts : List Template} {fs : List Formula} (hne : ts ≠ []) (h : List.Forall₂ (Writing ctx) ts fs)
    (piece : Piece ctx (Template.join (" " ++ k.keyword ++ " ") ts)
      ([.word k.keyword].intercalate (fs.map Formula.tokens)))
    (edged : Edged (Template.join (" " ++ k.keyword ++ " ") ts)) :
    Spells ctx ((Template.join (" " ++ k.keyword ++ " ") ts).stripEnclosing ctx)
      (Formula.alternativeTokens (Formula.grouped k fs).alternatives) := by
  cases h with
  | nil => exact absurd rfl hne
  | cons first rest =>
    cases rest with
    | nil =>
      -- a single member may lose further parentheses
      rw [Template.join, List.intercalate_singleton]
      exact first.stripped same
    | cons second rest =>
      rw [edged.stripEnclosing (first.not_isEnclosed_join same k _ _), Formula.grouped]
      · rw [Formula.alternatives, k.alternativeTokens_alternatives]
        exact piece.spells
      · simp

include hctx

theorem Writing.group (k : Connective) {ts : List Template} {fs : List Formula} (hne : ts ≠ [])
    (h : List.Forall₂ (Writing ctx) ts fs) : Writing ctx (k.template ts) (.grouped k fs) := by
  obtain ⟨ends, -⟩ := (List.forall₂_and_left _ _).mp (h.imp fun _ _ hw ↦ ⟨hw.edged, hw⟩)
  obtain ⟨proper, -⟩ := (List.forall₂_and_left _ _).mp (h.flip.imp fun _ _ hw ↦ ⟨hw.proper, hw⟩)
  have joined : Piece ctx (Template.join (" " ++ k.keyword ++ " ") ts)
      ([.word k.keyword].intercalate (fs.map Formula.tokens)) := by
    refine .join hctx (separating_connective k) hne ?_
    rw [List.forall₂_map_right_iff]
    exact h.imp fun _ _ hw ↦ hw.piece
  have edged : Edged (Template.join (" " ++ k.keyword ++ " ") ts) := .join hne ends
  have nothing : LeadingPiece ctx [] [] := ⟨⟨rfl, rfl⟩, fun _ _ _ ↦ rfl⟩
  have some : fs ≠ [] := by
    rintro rfl
    exact hne (List.forall₂_nil_right_iff.mp h)
  rw [Connective.template, if_neg (by rwa [List.isEmpty_iff])]
  refine ⟨?_, .grouped k some proper, .enclosed _, ?_, ?_⟩
  · rw [Formula.tokens_grouped]
    exact nothing.enclosed hctx joined
  · intro same _ rest
    exact (joined.passed same).closesLast_enclosed hctx.scannable 0 rest
  · intro same
    rw [edged.stripEnclosing_enclosed hctx.scannable (joined.passed same)]
    exact Writing.stripped_join same k hne h joined edged

end Writing

end PreparedSql
