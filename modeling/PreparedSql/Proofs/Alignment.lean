import PreparedSql.Proofs.Marking
import PreparedSql.Proofs.Region
import PreparedSql.Proofs.Stripping

/-!
# Placeholders and bindings are aligned

Whoever executes a query finds the placeholders in its text alone: they are the `?` outside of
string literals and quoted identifiers. If the raw SQL in a statement leaves no literal and no
identifier unfinished and has no such `?` of its own, then the query has exactly as many of them as
it has bindings, and each is the one that was written for its binding.

The latter is stated with marks. A statement can be spelled with a text in place of each of its
bindings, and that text is also what comes out when the placeholders of its query are replaced, from
left to right, by the texts for the bindings of the query.

Quotes must not be white space. The text of a join's condition is trimmed, and a quote at one of its
ends would be trimmed away.

## Main statements

* `Template.count_placeholders`, `Template.fill_bindings`: placeholders that are found in the text.
* `Statement.compile_aligned`: the placeholders of a compiled statement.
* `exists_misaligned`: white space as a quote.
-/

namespace PreparedSql

/-! ## Placeholders in a text -/

/-- How many placeholders a text has: its `?` outside of literals and identifiers. -/
def Context.placeholders (ctx : Context) (sql : String) : Nat :=
  (ctx.places id .outside sql.toList).count (.plain, '?')

/-- The characters of a text, with the given texts in place of its placeholders. -/
def fillPlaces : List String → List (Place × Char) → List Char
  | _, [] => []
  | mark :: marks, (.plain, '?') :: rest => mark.toList ++ fillPlaces marks rest
  | marks, (_, c) :: rest => c :: fillPlaces marks rest

/-- The text with the given texts in place of its placeholders, from left to right. -/
def Context.fill (ctx : Context) (sql : String) (marks : List String) : String :=
  String.ofList (fillPlaces marks (ctx.places id .outside sql.toList))

/-- SQL that has no placeholder and leaves no literal and no identifier unfinished. -/
def Context.SelfContained (ctx : Context) (sql : String) : Prop :=
  (ctx.after .outside sql.toList).isFree ∧ ctx.placeholders sql = 0

instance (ctx : Context) (sql : String) : Decidable (ctx.SelfContained sql) :=
  inferInstanceAs (Decidable (_ ∧ _))

/-- A text that can be told from everything around it, such as one of letters and digits. -/
def Context.IsMark (ctx : Context) (mark : String) : Prop :=
  mark ≠ "" ∧ ∀ c ∈ mark.toList, ctx.isInert c ∧ ¬Text.isWrapping c

theorem Context.Readable.isMark_of_isAlphanum {ctx : Context} (hctx : ctx.Readable) {mark : String}
    (hne : mark ≠ "") (h : ∀ c ∈ mark.toList, c.isAlphanum) : ctx.IsMark mark := by
  refine ⟨hne, ?_⟩
  intro c hc
  constructor
  · apply hctx.isInert_of_isWritten
    rw [Text.isWritten, Text.isGlue, h c hc]
    rfl
  · exact Text.not_isWrapping_of_isAlphanum (h c hc)

theorem Context.Readable.isMark_question {ctx : Context} (hctx : ctx.Readable) :
    ctx.IsMark "?" := by
  refine ⟨by decide, ?_⟩
  intro c hc
  have hc : c ∈ ['?'] := hc
  rw [List.mem_singleton.mp hc]
  exact ⟨hctx.isInert_question, by decide⟩

/-! ## Templates whose placeholders are found in the text -/

/-- Read from a region on, a template has no `?` outside of literals and identifiers but its
placeholders. -/
def Template.Aligned (ctx : Context) (r : Region) (t : Template) : Prop :=
  ∀ x ∈ ctx.places Symbol.shown r t, x.2.binding?.isSome ↔ x.1 = .plain ∧ x.2.shown = '?'

namespace Template

variable {ctx : Context} {r : Region} {t u : Template}

theorem aligned_cons {s : Symbol} : Aligned ctx r (s :: t) ↔
    (s.binding?.isSome ↔ ctx.place r s.shown = .plain ∧ s.shown = '?') ∧
      Aligned ctx (ctx.next r s.shown) t := by
  rw [Aligned, Context.places_cons, List.forall_mem_cons]
  rfl

theorem aligned_append : Aligned ctx r (t ++ u) ↔
    Aligned ctx r t ∧ Aligned ctx (ctx.after r (t.map Symbol.shown)) u := by
  rw [Aligned, Context.places_append, List.forall_mem_append]
  rfl

theorem aligned_ofString {s : String} :
    Aligned ctx r (ofString s) ↔ (Place.plain, '?') ∉ ctx.places id r s.toList := by
  have same : Symbol.shown ∘ Symbol.char = id := rfl
  rw [Aligned, ofString, Context.places_map, same, List.forall_mem_map]
  constructor
  · intro h mem
    exact absurd ((h _ mem).mpr ⟨rfl, rfl⟩) Bool.false_ne_true
  · intro h x hx
    apply iff_of_false Bool.false_ne_true
    rintro ⟨hPlace, hChar⟩
    rw [show x = (Place.plain, '?') from Prod.ext hPlace hChar] at hx
    exact h hx

/-- A template has as many placeholders as its text shows. -/
theorem count_placeholders (h : Aligned ctx r t) :
    (ctx.places id r (t.map Symbol.shown)).count (.plain, '?') = t.bindings.length := by
  induction t generalizing r with
  | nil => rfl
  | cons s t ih =>
    obtain ⟨hs, ht⟩ := aligned_cons.mp h
    rw [List.map_cons, Context.places_cons, id, List.count_cons, ih ht]
    cases s with
    | char c =>
      have other : ((ctx.place r c, c) == (Place.plain, '?')) = false := by
        rw [beq_eq_false_iff_ne]
        intro same
        exact nomatch hs.mpr ⟨congrArg Prod.fst same, congrArg Prod.snd same⟩
      rw [Symbol.shown, other]
      rfl
    | placeholder b =>
      have plain : ctx.place r '?' = .plain := (hs.mp rfl).1
      rw [Symbol.shown, plain, if_pos (beq_self_eq_true _)]
      rfl

/-- Writing a text for each binding is filling in the placeholders of the text. -/
theorem fill_bindings (ρ : Binding → String) (h : Aligned ctx r t) :
    fillPlaces (t.bindings.map ρ) (ctx.places id r (t.map Symbol.shown)) =
      t.render fun b ↦ (ρ b).toList := by
  induction t generalizing r with
  | nil => rfl
  | cons s t ih =>
    obtain ⟨hs, ht⟩ := aligned_cons.mp h
    have rest := ih ht
    rw [List.map_cons, Context.places_cons, id]
    cases s with
    | char c =>
      have other : ¬(ctx.place r c = .plain ∧ c = '?') := by
        intro both
        exact nomatch hs.mpr both
      rw [show bindings (Symbol.char c :: t) = bindings t from rfl, fillPlaces, rest]
      · rfl
      · intro _ _ _ hPlace hChar
        exact other ⟨hPlace, hChar⟩
    | placeholder b =>
      have plain : ctx.place r '?' = .plain := (hs.mp rfl).1
      rw [Symbol.shown, plain, show bindings (Symbol.placeholder b :: t) = b :: bindings t from rfl,
        List.map_cons, fillPlaces]
      exact congrArg ((ρ b).toList ++ ·) rest

/-! ## Templates with marks -/

private theorem render_of_forall_ne (mark : Binding → List Char) (h : ∀ s ∈ t, s.shown ≠ '?') :
    t.render mark = t.map Symbol.shown := by
  induction t with
  | nil => rfl
  | cons s t ih =>
    rw [render_cons, ih fun x hx ↦ h x (List.mem_cons_of_mem _ hx)]
    cases s with
    | char c => rfl
    | placeholder b => exact absurd rfl (h _ List.mem_cons_self)

end Template

section Marks

variable {ctx : Context} {ρ : Binding → String} (hρ : ∀ b, ctx.IsMark (ρ b))

private theorem Context.IsMark.toList_ne_nil {mark : String} (h : ctx.IsMark mark) :
    mark.toList ≠ [] :=
  fun empty ↦ h.1 (String.toList_inj.mp empty)

private theorem Context.IsMark.head?_ne {mark : String} (h : ctx.IsMark mark) {c : Char}
    (hc : Text.isWrapping c) (rest : List Char) : (mark.toList ++ rest).head? ≠ some c := by
  intro front
  rw [List.head?_append_of_ne_nil _ h.toList_ne_nil] at front
  exact (h.2 c (List.mem_of_mem_head? front)).2 hc

private theorem Context.IsMark.getLast?_ne {mark : String} (h : ctx.IsMark mark) {c : Char}
    (hc : Text.isWrapping c) (front : List Char) : (front ++ mark.toList).getLast? ≠ some c := by
  intro back
  rw [List.getLast?_append_of_ne_nil _ h.toList_ne_nil] at back
  exact (h.2 c (List.mem_of_getLast? back)).2 hc

private theorem Context.IsMark.closesLast_append {mark : String} (h : ctx.IsMark mark) (depth : Nat)
    {inside : Option Char} (hInside : ∀ q ∈ inside, q = '\'' ∨ q = ctx.closeQuote)
    (rest : List Char) :
    Text.closesLast ctx.openQuote ctx.closeQuote depth inside (mark.toList ++ rest) =
      Text.closesLast ctx.openQuote ctx.closeQuote depth inside rest := by
  have passed := h.2
  generalize mark.toList = cs at passed
  induction cs with
  | nil => rfl
  | cons c cs ih =>
    obtain ⟨inert, visible⟩ := passed c List.mem_cons_self
    obtain ⟨hLiteral, hOpen, hClose⟩ := Context.isInert_iff.mp inert
    have ih := ih fun d hd ↦ passed d (List.mem_cons_of_mem _ hd)
    cases inside with
    | some q =>
      have other : c ≠ q := by
        rintro rfl
        exact (hInside c rfl).elim hLiteral hClose
      rw [List.cons_append, Text.closesLast, if_neg other, ih]
    | none =>
      have notOpening : c ≠ '(' := by
        rintro rfl
        exact visible (by decide)
      have notClosing : c ≠ ')' := by
        rintro rfl
        exact visible (by decide)
      rw [List.cons_append, Text.closesLast, if_neg hLiteral, if_neg hOpen, if_neg notOpening,
        if_neg notClosing, ih]

include hρ

theorem Template.isEmpty_render (t : Template) :
    (t.render fun b ↦ (ρ b).toList).isEmpty = t.isEmpty := by
  cases t with
  | nil => rfl
  | cons s t =>
    cases s with
    | char c => rfl
    | placeholder b =>
      rw [List.isEmpty_cons, List.isEmpty_eq_false_iff, Template.render_cons]
      refine List.append_ne_nil_of_left_ne_nil ?_ _
      rw [← Template.placeholder, Template.render_placeholder]
      exact (hρ b).toList_ne_nil

/-- Marks do not change which parenthesis closes the first one. -/
private theorem closesLast_render (hctx : ctx.Readable) (t : Template) (depth : Nat)
    {inside : Option Char} (hInside : ∀ q ∈ inside, q = '\'' ∨ q = ctx.closeQuote) :
    Text.closesLast ctx.openQuote ctx.closeQuote depth inside (t.render fun b ↦ (ρ b).toList) =
      Text.closesLast ctx.openQuote ctx.closeQuote depth inside (t.map Symbol.shown) := by
  induction t generalizing depth inside with
  | nil => rfl
  | cons s t ih =>
    rw [Template.render_cons, List.map_cons]
    cases s with
    | placeholder b =>
      rw [← Template.placeholder, Template.render_placeholder,
        (hρ b).closesLast_append depth hInside, ih depth hInside]
      exact (hctx.isMark_question.closesLast_append depth hInside _).symm
    | char c =>
      rw [Template.render_char, List.singleton_append, Symbol.shown]
      cases inside with
      | some q =>
        rw [Text.closesLast, Text.closesLast]
        apply ih depth
        intro x hx
        split at hx
        · exact absurd hx (by simp)
        · exact hInside x hx
      | none =>
        have same : (Template.render (fun b ↦ (ρ b).toList) t).isEmpty =
            (t.map Symbol.shown).isEmpty := by
          rw [Template.isEmpty_render hρ, List.isEmpty_map]
        have literal : ∀ q ∈ some '\'', q = '\'' ∨ q = ctx.closeQuote := by simp
        have identifier : ∀ q ∈ some ctx.closeQuote, q = '\'' ∨ q = ctx.closeQuote := by simp
        rw [Text.closesLast, Text.closesLast, same, ih depth literal, ih depth identifier,
          ih (depth + 1) hInside, ih (depth - 1) hInside, ih depth hInside]

private theorem respelling_render (hctx : ctx.Readable) :
    Text.Respelling Symbol.shown id ctx.openQuote ctx.closeQuote (fun _ ↦ True)
      (Template.render fun b ↦ (ρ b).toList) Symbol.shown where
  shown_embed _ := rfl
  peel {front mid back} _ hFront hBack := by
    have unmarked {part : Template} (h : ∀ s ∈ part, Text.isWrapping s.shown) :
        (part.render fun b ↦ (ρ b).toList) = part.map Symbol.shown := by
      apply Template.render_of_forall_ne
      intro s hs question
      have wrapping := h s hs
      rw [question] at wrapping
      exact absurd wrapping (by decide)
    refine ⟨trivial, ?_⟩
    rw [Template.render_append, Template.render_append, unmarked hFront, unmarked hBack]
  head {t} _ {c} hc := by
    cases t with
    | nil => rfl
    | cons s t =>
      -- neither a mark nor the `?` that it stands for is white space or a parenthesis
      rw [Option.map_id, id, ← List.head?_map, List.map_cons, Template.render_cons]
      cases s with
      | char d => rfl
      | placeholder b =>
        rw [← Template.placeholder, Template.render_placeholder]
        apply iff_of_false ((hρ b).head?_ne hc _)
        exact hctx.isMark_question.head?_ne hc []
  last {t} _ {c} hc := by
    rw [Option.map_id, id, ← List.getLast?_map]
    rcases List.eq_nil_or_concat t with rfl | ⟨front, s, rfl⟩
    · rfl
    · rw [List.concat_eq_append, Template.render_append, List.map_append]
      cases s with
      | char d =>
        rw [Template.render_char, List.getLast?_concat]
        exact iff_of_eq (congrArg (· = some c) List.getLast?_concat.symm)
      | placeholder b =>
        rw [← Template.placeholder, Template.render_placeholder]
        apply iff_of_false ((hρ b).getLast?_ne hc _)
        exact hctx.isMark_question.getLast?_ne hc _
  closesLast {t} _ := by
    rw [List.map_id]
    exact closesLast_render hρ hctx t 0 (by simp)

end Marks

/-! ## Self-contained texts -/

section SelfContained

variable {ctx : Context}

private theorem Context.SelfContained.of_append {s : String} {front back : List Char}
    (h : ctx.SelfContained (String.ofList (front ++ s.toList ++ back)))
    (hFront : ∀ c ∈ front, ctx.isInert c) (hBack : ∀ c ∈ back, ctx.isInert c) :
    ctx.SelfContained s := by
  obtain ⟨free, none⟩ := h
  rw [String.toList_ofList, isFree_after_of_append hFront hBack] at free
  refine ⟨free, ?_⟩
  rw [placeholders, String.toList_ofList, places_append, places_append, List.map_id,
    after_outside_of_isInert hFront, List.count_append, List.count_append] at none
  rw [placeholders]
  omega

theorem Context.SelfContained.trim (hctx : ctx.Readable)
    (hOpen : Text.isBlank ctx.openQuote = false) (hClose : Text.isBlank ctx.closeQuote = false)
    {s : String} (h : ctx.SelfContained s) : ctx.SelfContained (Text.trim s) := by
  obtain ⟨front, back, whole, hFront, hBack⟩ := hctx.exists_trim_append hOpen hClose s
  refine SelfContained.of_append ?_ hFront hBack
  rw [← whole, String.ofList_toList]
  exact h

theorem Context.Readable.selfContained_quotedPath (hctx : ctx.Readable) (name : String) :
    ctx.SelfContained (ctx.quotedPath name) := by
  obtain ⟨read, free⟩ := hctx.places_quotedPath name
  refine ⟨free, List.count_eq_zero.mpr ?_⟩
  rw [read]
  exact plain_not_mem_intercalate (by decide) hctx.separator.1.symm _

theorem Context.Readable.selfContained_quotedName (hctx : ctx.Readable) (name : String) :
    ctx.SelfContained (ctx.quotedName name) := by
  refine ⟨hctx.isFree_after_quotedName name, List.count_eq_zero.mpr ?_⟩
  rw [toList_quotedName, (hctx.places_quotedPart name.toList).1]
  exact plain_not_mem_partPlaces (by decide) _

end SelfContained

/-! ## Compiling keeps placeholders aligned -/

/-- Equal names, bindings and self-contained raw SQL, and marks in place of placeholders. -/
def inlining (ctx : Context) (ρ : Binding → String) : Correspondence where
  name := Eq
  raw r r' := r = r' ∧ ctx.SelfContained r
  binding := Eq
  inlined b r := r = ρ b

/-- Behind aligned templates that leave nothing unfinished, and that are spelled alike. -/
structure Inlined (ctx : Context) (ρ : Binding → String) (t u : Template) : Prop where
  /-- The placeholders of the first template are found in its text. -/
  aligned : t.Aligned ctx .outside
  /-- Its literals and identifiers are finished. -/
  free : (ctx.after .outside (t.map Symbol.shown)).isFree
  /-- With marks the templates are equal. -/
  same : (u.render fun b ↦ (ρ b).toList) = t.render fun b ↦ (ρ b).toList

namespace Inlined

variable {ctx : Context} {ρ : Binding → String} {t u t' u' : Template}

theorem append (h : Inlined ctx ρ t u)
    (outside : ctx.after .outside (t.map Symbol.shown) = .outside)
    (h' : Inlined ctx ρ t' u') : Inlined ctx ρ (t ++ t') (u ++ u') := by
  refine ⟨Template.aligned_append.mpr ⟨h.aligned, ?_⟩, ?_, ?_⟩
  · rw [outside]
    exact h'.aligned
  · rw [List.map_append, Context.after_append, outside]
    exact h'.free
  · rw [Template.render_append, Template.render_append, h.same, h'.same]

/-- What compiling writes itself can follow, and anything can follow it. -/
theorem append_written (hctx : ctx.Readable) (h : Inlined ctx ρ t u) {s : String} (hne : s ≠ "")
    (hs : ∀ c ∈ s.toList, Text.isWritten c) :
    Inlined ctx ρ (t ++ .ofString s) (u ++ .ofString s) ∧
      ctx.after .outside ((t ++ .ofString s).map Symbol.shown) = .outside := by
  have inert : ∀ c ∈ s.toList, ctx.isInert c := by
    intro c hc
    exact hctx.isInert_of_isWritten (hs c hc)
  have outside := hctx.after_append_written h.free hne hs
  refine ⟨⟨Template.aligned_append.mpr ⟨h.aligned, Template.aligned_ofString.mpr ?_⟩, ?_, ?_⟩,
    outside⟩
  · have plain : ctx.places id _ s.toList = s.toList.map (Place.plain, ·) :=
      Context.places_of_isInert h.free inert
    rw [plain, List.mem_map]
    -- the text is plain throughout, so it must not have a `?`
    rintro ⟨c, hc, question⟩
    have written := hs c hc
    rw [show c = '?' from congrArg Prod.snd question] at written
    exact absurd written (by decide)
  · rw [outside]
    rfl
  · rw [Template.render_append, Template.render_append, h.same]

theorem stripEnclosing (hctx : ctx.Readable) (hOpen : Text.isBlank ctx.openQuote = false)
    (hClose : Text.isBlank ctx.closeQuote = false) (hρ : ∀ b, ctx.IsMark (ρ b))
    (h : Inlined ctx ρ t u) : Inlined ctx ρ (t.stripEnclosing ctx) (u.stripEnclosing ctx) := by
  obtain ⟨front, back, whole, hFront, hBack⟩ :=
    Text.exists_stripEnclosing_append Symbol.shown ctx.openQuote ctx.closeQuote t
  have inert {part : Template} (hPart : ∀ s ∈ part, Text.isWrapping s.shown) :
      ∀ c ∈ part.map Symbol.shown, ctx.isInert c := by
    intro c hc
    obtain ⟨s, hs, rfl⟩ := List.mem_map.mp hc
    exact hctx.isInert_of_isWrapping hOpen hClose (hPart s hs)
  obtain ⟨aligned, free, same⟩ := h
  rw [← Template.stripEnclosing] at whole
  -- what is removed is white space and parentheses, which open no quotes
  refine ⟨?_, ?_, ?_⟩
  · rw [whole, Template.aligned_append, Template.aligned_append,
      Context.after_outside_of_isInert (inert hFront)] at aligned
    exact aligned.1.2
  · rw [whole, List.map_append, List.map_append,
      Context.isFree_after_of_append (inert hFront) (inert hBack)] at free
    exact free
  · have respelled (x : Template) := ((respelling_render hρ hctx).stripEnclosing x trivial).2
    rw [Template.stripEnclosing, Template.stripEnclosing, respelled, respelled, same]

theorem ofString {s : String} (h : ctx.SelfContained s) :
    Inlined ctx ρ (.ofString s) (.ofString s) := by
  refine ⟨Template.aligned_ofString.mpr (List.count_eq_zero.mp h.2), ?_, rfl⟩
  rw [Template.shown_ofString]
  exact h.1

end Inlined

private theorem Context.Readable.aligned_placeholder {ctx : Context} (hctx : ctx.Readable)
    (b : Binding) : Template.Aligned ctx .outside (.placeholder b) := by
  refine Template.aligned_cons.mpr ⟨iff_of_true rfl ⟨?_, rfl⟩, fun _ h ↦ (nomatch h)⟩
  exact place_of_isInert rfl hctx.isInert_question

/-- Compiling keeps placeholders aligned, and marks in place of operands do not change how. -/
def inliningCongruence {ctx : Context} (hctx : ctx.Readable)
    (hOpen : Text.isBlank ctx.openQuote = false) (hClose : Text.isBlank ctx.closeQuote = false)
    {ρ : Binding → String} (hρ : ∀ b, ctx.IsMark (ρ b)) :
    Congruence (inlining ctx ρ) ctx ctx where
  lead t u := Inlined ctx ρ t u ∧ ctx.after .outside (t.map Symbol.shown) = .outside
  part := Inlined ctx ρ
  nil := ⟨⟨fun _ h ↦ (nomatch h), rfl, rfl⟩, rfl⟩
  part_of_lead h := h.1
  append h h' := h.1.append h.2 h'
  glue h s hs := h.append_written hctx hs.1 hs.isWritten
  enclosed h h' := by
    have opened := h.1.append_written hctx (s := "( ") (by decide) (by decide)
    exact (opened.1.append opened.2 h').append_written hctx (by decide) (by decide)
  strip h := h.stripEnclosing hctx hOpen hClose hρ
  isEmpty h := by
    rw [← Template.isEmpty_render hρ, ← Template.isEmpty_render hρ, h.same]
  path h := by
    subst h
    exact .ofString (hctx.selfContained_quotedPath _)
  qualifiedPath he hn := by
    subst he hn
    exact .ofString (hctx.selfContained_quotedPath _)
  quotedName h := by
    subst h
    exact .ofString (hctx.selfContained_quotedName _)
  fixedName n := .ofString (hctx.selfContained_quotedName n)
  blankName h := by rw [h]
  placeholder h := by
    subst h
    exact ⟨hctx.aligned_placeholder _, congrArg Region.isFree (hctx.after_placeholder _), rfl⟩
  inlined h := by
    subst h
    refine ⟨hctx.aligned_placeholder _, congrArg Region.isFree (hctx.after_placeholder _), ?_⟩
    rw [Template.render_ofString, Template.render_placeholder]
  raw h := by
    obtain ⟨rfl, contained⟩ := h
    exact .ofString contained
  trimmedRaw h := by
    obtain ⟨rfl, contained⟩ := h
    exact .ofString (contained.trim hctx hOpen hClose)
  blankRaw h := by rw [h.1]

/-! ## Compiling -/

theorem inlining_follows (ctx : Context) (ρ : Binding → String) :
    (inlining ctx ρ).Follows (Operand.inlined ρ) id := by
  refine ⟨fun _ ↦ rfl, ?_, fun _ ↦ rfl⟩
  intro o h
  cases o with
  | placeholder b => exact .inlined rfl
  | column n => exact .column rfl
  | raw r => exact .raw (h r List.mem_cons_self)

theorem Statement.template_inlined {ctx : Context} (hctx : ctx.Readable)
    (hOpen : Text.isBlank ctx.openQuote = false) (hClose : Text.isBlank ctx.closeQuote = false)
    {ρ : Binding → String} (hρ : ∀ b, ctx.IsMark (ρ b)) (s : Statement)
    (hRaw : ∀ r ∈ s.raws, ctx.SelfContained r) :
    Agree (CompileError.Related (inlining ctx ρ)) (Inlined ctx ρ) (s.template ctx)
      ((s.rewrite (Operand.inlined ρ) id).template ctx) :=
  (inliningCongruence hctx hOpen hClose hρ).statement rfl rfl
    (s.related_rewrite (inlining_follows ctx ρ) fun r hr ↦ ⟨rfl, hRaw r hr⟩)

/-- **Placeholders and bindings are aligned.** The text of a compiled statement has as many
placeholders as there are bindings. Whatever marks are written for the bindings, replacing the
placeholders from left to right by the marks for the bindings gives the text of the statement that
is spelled with the marks. -/
theorem Statement.compile_aligned (ctx : Context) (hctx : ctx.Readable)
    (hOpen : Text.isBlank ctx.openQuote = false) (hClose : Text.isBlank ctx.closeQuote = false)
    (s : Statement) (hRaw : ∀ r ∈ s.raws, ctx.SelfContained r) (q : Query)
    (hq : s.compile ctx = .ok q) :
    ctx.placeholders q.sql = q.bindings.length ∧
      ∀ ρ : Binding → String, (∀ b, ctx.IsMark (ρ b)) →
        s.spelled ρ ctx = .ok (ctx.fill q.sql (q.bindings.map ρ)) := by
  have compiled {ρ : Binding → String} (hρ : ∀ b, ctx.IsMark (ρ b)) :
      ∃ t u, q = .ofTemplate t ∧ (s.rewrite (Operand.inlined ρ) id).template ctx = .ok u ∧
        Inlined ctx ρ t u := by
    obtain ⟨t, ht, rfl⟩ := Statement.compile_eq_ok_iff.mp hq
    obtain ⟨u, hu, h⟩ := (s.template_inlined hctx hOpen hClose hρ hRaw).exists_eq_ok ht
    exact ⟨t, u, rfl, hu, h⟩
  constructor
  · -- the number of placeholders does not depend on the marks: any mark will do
    obtain ⟨t, _, rfl, -, h⟩ := compiled fun _ ↦ hctx.isMark_question
    rw [Query.ofTemplate, Context.placeholders, Template.toList_text]
    exact Template.count_placeholders h.aligned
  · intro ρ hρ
    obtain ⟨t, u, rfl, spelled, h⟩ := compiled hρ
    rw [Statement.spelled_eq_ok spelled, h.same, Query.ofTemplate, Context.fill,
      Template.toList_text, Template.fill_bindings ρ h.aligned]

/-- A name and raw SQL that look like placeholders. -/
theorem Statement.compile_aligned_delete :
    let s : Statement := .delete {
      table := "a?"
      filter := some
        (.all [.raw "b IN ('?')", Column.compare "c" .equal (.placeholder (.token "t"))]) }
    ∃ q, s.compile .standard = .ok q ∧ Context.standard.placeholders q.sql = q.bindings.length ∧
      s.spelled (fun _ ↦ "m1") .standard = .ok (Context.standard.fill q.sql ["m1"]) := by
  intro s
  have readable : Context.standard.Readable := ⟨by decide, by decide, by decide⟩
  have aligned := s.compile_aligned .standard readable (by decide) (by decide) (by decide) _ rfl
  refine ⟨_, rfl, aligned.1, aligned.2 (fun _ ↦ "m1") ?_⟩
  intro _
  exact readable.isMark_of_isAlphanum (by decide) (by decide)

/-- White space cannot be a quote. The condition of this join starts with a quoted name, whose
opening quote is trimmed away, and so the closing one opens an identifier around the placeholder. -/
theorem exists_misaligned :
    ∃ (ctx : Context) (s : Statement) (q : Query), ctx.Readable ∧
      (∀ r ∈ s.raws, ctx.SelfContained r) ∧ s.compile ctx = .ok q ∧
        ctx.placeholders q.sql ≠ q.bindings.length := by
  let ctx : Context := { Context.standard with openQuote := '\t', closeQuote := '\t' }
  let x : Condition := Column.compare "x" .equal (.placeholder (.value (.int 1)))
  let tables : List FromEntry :=
    [.table { name := "a" }, .join { table := { name := "b" }, rows := .onCondition x }]
  refine ⟨ctx, .select { tables },
    ⟨"SELECT * FROM \ta\t JOIN \tb\t ON ( x\t = ? )", [.value (.int 1)]⟩,
    ⟨by decide, by decide, by decide⟩, by decide, ?_, by decide⟩
  -- the opening quote of the name is lost here, and the closing one is not
  have trimmed : Template.stripEnclosing ctx
      (.ofString "\tx\t = " ++ .placeholder (.value (.int 1))) =
        .ofString "x\t = " ++ .placeholder (.value (.int 1)) := by
    rw [Template.stripEnclosing, Text.stripEnclosing_of_not_isEnclosed _ _ _ _ (by decide)]
    rfl
  have compiled : fromTemplate ctx tables = .ok (.ofString "\ta\t" ++
      (.ofString " JOIN \tb\t ON ( " ++ Template.stripEnclosing ctx
        (.ofString "\tx\t = " ++ .placeholder (.value (.int 1))) ++ .ofString " )" ++ [])) := by
    subst ctx tables x
    rfl
  rw [trimmed] at compiled
  rw [Statement.compile, Statement.template, Select.template, Select.unlimited, compiled]
  rfl

end PreparedSql
