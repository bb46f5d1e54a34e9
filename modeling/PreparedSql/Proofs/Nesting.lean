import PreparedSql.Proofs.Chain
import PreparedSql.Proofs.Pairing

/-!
# Parentheses and quotes in compiled SQL

SQL text is balanced if every literal and every quoted identifier in it ends, and its parentheses
outside of them nest. Compiling writes parentheses in pairs around balanced SQL. The condition of a
join loses the parentheses around it; these are one pair, because the scan for the partner of the
first parenthesis counts as deep as the parentheses nest.

## Main definitions

* `Context.Balanced`: the texts that are balanced.
* `Context.Encloses`: the pairs of parentheses that belong together.

## Main statements

* `Context.Balanced.stripEnclosing`: removing parentheses around a balanced text.
* `Statement.compile_balanced`: compiled statements are balanced.
-/

namespace PreparedSql

namespace Context

/-- All literals and identifiers in the text end, and its parentheses outside of them nest. -/
structure Balanced (ctx : Context) (cs : List Char) : Prop where
  /-- No literal or identifier is left unfinished. -/
  closed : (ctx.after .outside cs).isFree
  /-- No parenthesis is closed before it is opened, and none stays open. -/
  nested : ctx.depth? cs = some 0

instance (ctx : Context) (cs : List Char) : Decidable (ctx.Balanced cs) :=
  decidable_of_iff ((ctx.after .outside cs).isFree ∧ ctx.depth? cs = some 0)
    ⟨fun h ↦ ⟨h.1, h.2⟩, fun h ↦ ⟨h.1, h.2⟩⟩

/-- The parentheses around `body`, behind `before`, belong together: the first one raises the
depth, which stays raised throughout `body` and falls to what it was at the second one. -/
def Encloses (ctx : Context) (before body : String) : Prop :=
  ∃ depth, ctx.depth? before.toList = some depth ∧
    (∀ front, front <+: body.toList →
      ∃ inner > depth, ctx.depth? ((before ++ "( ").toList ++ front) = some inner) ∧
    ctx.depth? (before ++ "( " ++ body ++ " )").toList = some depth

/-- One character is both the opening and the closing quote, and neither it nor the separator has
another meaning outside of identifiers. -/
structure UniformlyQuoted (ctx : Context) : Prop where
  /-- One character is both quotes. -/
  same : ctx.openQuote = ctx.closeQuote
  /-- The quote is no other quote and no parenthesis. -/
  quote : ctx.openQuote ≠ '\'' ∧ ctx.openQuote ≠ '(' ∧ ctx.openQuote ≠ ')'
  /-- The quote is no character that compiling writes outside of identifiers. -/
  unwritten : ctx.openQuote ≠ '?' ∧ Text.isPrinted ctx.openQuote = false
  /-- The separator is no quote and no parenthesis. -/
  separator : ctx.separator ≠ ctx.openQuote ∧ ctx.separator ≠ '\'' ∧ ctx.separator ≠ '(' ∧
    ctx.separator ≠ ')'

/-- A character that neither begins nor ends a literal, an identifier or anything in parentheses. -/
def IsIdle (ctx : Context) (c : Char) : Prop := ctx.isInert c ∧ c ≠ '(' ∧ c ≠ ')'

namespace UniformlyQuoted

variable {ctx : Context} (hctx : ctx.UniformlyQuoted) {c : Char}

include hctx

theorem isInert_of_ne (hLiteral : c ≠ '\'') (hQuote : c ≠ ctx.openQuote) : ctx.isInert c :=
  isInert_iff.mpr ⟨hLiteral, hQuote, hctx.same ▸ hQuote⟩

private theorem isInert_separator : ctx.isInert ctx.separator :=
  hctx.isInert_of_ne hctx.separator.2.1 hctx.separator.1

private theorem isIdle_question : ctx.IsIdle '?' :=
  ⟨hctx.isInert_of_ne (by decide) hctx.unwritten.1.symm, by decide, by decide⟩

theorem isIdle_of_isPrinted (h : Text.isPrinted c) : ctx.IsIdle c := by
  refine ⟨hctx.isInert_of_ne ?_ ?_, ?_, ?_⟩ <;> rintro rfl
  · exact absurd h (by decide)
  · exact absurd h (Bool.eq_false_iff.mp hctx.unwritten.2)
  · exact absurd h (by decide)
  · exact absurd h (by decide)

private theorem isIdle_of_isBlank (hBlank : Text.isBlank ctx.openQuote = false) (h : Text.isBlank c)
    : ctx.IsIdle c := by
  refine ⟨isInert_of_isBlank hBlank (hctx.same ▸ hBlank) h, ?_, ?_⟩ <;> rintro rfl
  · exact absurd h (by decide)
  · exact absurd h (by decide)

theorem quotesOnly : ctx.QuotesOnly := ⟨hctx.quote, hctx.same ▸ hctx.quote⟩

end UniformlyQuoted

/-! ## Putting balanced texts together -/

variable {ctx : Context} {cs ds : List Char} {depth : Nat} {r : Region}

theorem depth?_append :
    ctx.depth? (cs ++ ds) =
      (ctx.depth? cs).bind (nestAll? · (ctx.places id (ctx.after .outside cs) ds)) := by
  rw [depth?, places_append, nestAll?_append, List.map_id]
  rfl

theorem nestAll?_of_isIdle (hr : r.isFree) (idle : ∀ c ∈ cs, ctx.IsIdle c) :
    nestAll? depth (ctx.places id r cs) = some depth := by
  have read : ctx.places id r cs = cs.map (Place.plain, ·) :=
    places_of_isInert hr fun c hc ↦ (idle c hc).1
  have plain {c : Char} (hc : c ∉ cs) : (Place.plain, c) ∉ cs.map (Place.plain, ·) := by
    rw [List.mem_map]
    rintro ⟨d, hd, h⟩
    obtain rfl : d = c := congrArg Prod.snd h
    exact hc hd
  rw [read]
  exact nestAll?_of_not_mem (plain fun h ↦ (idle _ h).2.1 rfl) (plain fun h ↦ (idle _ h).2.2 rfl)

theorem UniformlyQuoted.nestAll?_opening (hctx : ctx.UniformlyQuoted) (depth : Nat)
    (hr : r.isFree) :
    nestAll? depth (ctx.places id r "( ".toList) = some (depth + 1) ∧
      ctx.after r "( ".toList = .outside := by
  have blank := hctx.isIdle_of_isPrinted (c := ' ') (by decide)
  have inert : ∀ c ∈ "( ".toList, ctx.isInert c := by
    simpa using ⟨hctx.quotesOnly.isInert_parenthesis.1, blank.1⟩
  have read : ctx.places id r "( ".toList = "( ".toList.map (Place.plain, ·) :=
    places_of_isInert hr inert
  rw [read, after_of_isInert inert (by decide), Region.settled_of_isFree hr]
  exact ⟨rfl, rfl⟩

private theorem UniformlyQuoted.nestAll?_closing (hctx : ctx.UniformlyQuoted) (depth : Nat)
    (hr : r.isFree) :
    nestAll? (depth + 1) (ctx.places id r " )".toList) = some depth ∧
      ctx.after r " )".toList = .outside := by
  have blank := hctx.isIdle_of_isPrinted (c := ' ') (by decide)
  have inert : ∀ c ∈ " )".toList, ctx.isInert c := by
    simpa using ⟨blank.1, hctx.quotesOnly.isInert_parenthesis.2⟩
  have read : ctx.places id r " )".toList = " )".toList.map (Place.plain, ·) :=
    places_of_isInert hr inert
  rw [read, after_of_isInert inert (by decide), Region.settled_of_isFree hr]
  exact ⟨rfl, rfl⟩

namespace Balanced

theorem nil : ctx.Balanced [] := ⟨rfl, rfl⟩

theorem append (h : ctx.Balanced cs) (outside : ctx.after .outside cs = .outside)
    (h' : ctx.Balanced ds) : ctx.Balanced (cs ++ ds) := by
  constructor
  · rw [after_append, outside]
    exact h'.closed
  · rw [depth?_append, h.nested, outside, Option.bind_some]
    exact h'.nested

theorem append_idle (h : ctx.Balanced cs) (idle : ∀ c ∈ ds, ctx.IsIdle c) :
    ctx.Balanced (cs ++ ds) := by
  constructor
  · rw [after_append, isFree_after_of_isInert fun c hc ↦ (idle c hc).1]
    exact h.closed
  · rw [depth?_append, h.nested, Option.bind_some]
    exact nestAll?_of_isIdle h.closed idle

theorem of_append {front back : List Char} (h : ctx.Balanced (front ++ cs ++ back))
    (hFront : ∀ c ∈ front, ctx.IsIdle c) (hBack : ∀ c ∈ back, ctx.IsIdle c) : ctx.Balanced cs := by
  obtain ⟨closed, nested⟩ := h
  have inertFront : ∀ c ∈ front, ctx.isInert c := fun c hc ↦ (hFront c hc).1
  rw [isFree_after_of_append inertFront fun c hc ↦ (hBack c hc).1] at closed
  refine ⟨closed, ?_⟩
  have skipped : ctx.depth? front = some 0 := nestAll?_of_isIdle rfl hFront
  rw [List.append_assoc, depth?_append, skipped, Option.bind_some,
    after_outside_of_isInert inertFront, places_append, nestAll?_append, List.map_id,
    Option.bind_eq_some_iff] at nested
  obtain ⟨depth, hDepth, rest⟩ := nested
  rw [nestAll?_of_isIdle closed hBack] at rest
  rw [depth?, hDepth, rest]

/-- Around a balanced text parentheses belong together, wherever they can stand. -/
theorem nestAll?_enclosed (hctx : ctx.UniformlyQuoted) (h : ctx.Balanced cs) (depth : Nat)
    (hr : r.isFree) :
    nestAll? depth (ctx.places id r ("( ".toList ++ cs ++ " )".toList)) = some depth ∧
      ctx.after r ("( ".toList ++ cs ++ " )".toList) = .outside := by
  obtain ⟨opened, outside⟩ := hctx.nestAll?_opening depth hr
  obtain ⟨closed, behind⟩ := hctx.nestAll?_closing depth h.closed
  have inner := nestAll?_add (depth + 1) h.nested
  rw [Nat.zero_add] at inner
  constructor
  · rw [places_append, places_append, nestAll?_append, nestAll?_append, List.map_id, List.map_id,
      after_append, opened, Option.bind_some, outside, inner, Option.bind_some]
    exact closed
  · rw [after_append, after_append, outside]
    exact behind

theorem enclosed (hctx : ctx.UniformlyQuoted) (h : ctx.Balanced cs)
    (outside : ctx.after .outside cs = .outside) (h' : ctx.Balanced ds) :
    ctx.Balanced (cs ++ "( ".toList ++ ds ++ " )".toList) ∧
      ctx.after .outside (cs ++ "( ".toList ++ ds ++ " )".toList) = .outside := by
  obtain ⟨nested, behind⟩ := h'.nestAll?_enclosed hctx 0 (r := .outside) rfl
  rw [List.append_assoc, List.append_assoc, ← List.append_assoc "( ".toList]
  refine ⟨h.append outside ⟨?_, nested⟩, ?_⟩
  · rw [behind]
    rfl
  · rw [after_append, outside, behind]

theorem trimBy (hctx : ctx.UniformlyQuoted) (hBlank : Text.isBlank ctx.openQuote = false)
    (h : ctx.Balanced cs) : ctx.Balanced (Text.trimBy Text.isBlank cs) := by
  obtain ⟨front, back, whole, hFront, hBack⟩ := Text.exists_trimBy_append Text.isBlank cs
  have idle {part : List Char} (blank : part.all Text.isBlank) : ∀ c ∈ part, ctx.IsIdle c := by
    intro c hc
    rw [List.all_eq_true] at blank
    exact hctx.isIdle_of_isBlank hBlank (blank c hc)
  rw [whole] at h
  exact h.of_append (idle hFront) (idle hBack)

end Balanced

/-! ## Names -/

theorem balanced_quotedPart (hOpen : ctx.openQuote ≠ '\'') (part : List Char)
    (hStar : part = ['*'] → ctx.isInert '*') : ctx.Balanced (ctx.quotedPart part) := by
  obtain ⟨read, free⟩ := places_quotedPart hOpen part hStar
  refine ⟨free, ?_⟩
  rw [depth?, read]
  exact nestAll?_of_not_mem (plain_not_mem_partPlaces (by decide) _)
    (plain_not_mem_partPlaces (by decide) _)

section Names

variable (hctx : ctx.UniformlyQuoted)

include hctx

theorem UniformlyQuoted.balanced_quotedPath (name : String) :
    ctx.Balanced (ctx.quotedPath name).toList := by
  have star : ctx.isInert '*' := (hctx.isIdle_of_isPrinted (by decide)).1
  rw [toList_quotedPath]
  obtain ⟨read, free⟩ := places_quotedParts hctx.quote.1 star hctx.isInert_separator
    (name.toList.splitOn ctx.separator)
  refine ⟨free, ?_⟩
  rw [depth?, read]
  exact nestAll?_of_not_mem (plain_not_mem_intercalate (by decide) hctx.separator.2.2.1.symm _)
    (plain_not_mem_intercalate (by decide) hctx.separator.2.2.2.symm _)

theorem UniformlyQuoted.balanced_quotedName (name : String) :
    ctx.Balanced (ctx.quotedName name).toList := by
  rw [toList_quotedName]
  exact balanced_quotedPart hctx.quote.1 _ fun _ ↦ (hctx.isIdle_of_isPrinted (by decide)).1

end Names

/-! ## Removing parentheses -/

/-- The parentheses that the scan takes for the ones around a whole text are those with a balanced
text between them, unless a doubled closing quote misleads it. -/
theorem QuotesOnly.isEnclosed_iff (hctx : ctx.QuotesOnly)
    (plain : ctx.openQuote = ctx.closeQuote ∨ ctx.PlainBehindDoubled cs) :
    Text.isEnclosed id ctx.openQuote ctx.closeQuote cs ↔
      ∃ inner, cs = '(' :: (inner ++ [')']) ∧ ctx.Balanced inner := by
  have started : ctx.after .outside ['('] = .outside :=
    after_outside_of_isInert (by simpa using hctx.isInert_parenthesis.1)
  have tracks : ctx.Tracks ['('] none := .inl (by rw [started]; rfl)
  have scan {back : List Char} (hBack : cs = ['('] ++ back) :
      Text.closesLast ctx.openQuote ctx.closeQuote 0 none cs ↔
        ∃ body, back = body ++ [')'] ∧ ctx.Balanced body := by
    rw [hBack] at plain
    have found := tracks.closesLast_iff 0 hctx plain
    rw [hBack, List.singleton_append, Text.closesLast, if_neg (by decide),
      if_neg hctx.openQuote.2.1.symm, if_pos rfl, found]
    refine exists_congr fun body ↦ and_congr_right fun _ ↦ ?_
    rw [after_append, started]
    exact ⟨fun h ↦ ⟨h.1, h.2⟩, fun h ↦ ⟨h.1, h.2⟩⟩
  constructor
  · intro h
    obtain ⟨first, last, split, opens, -⟩ := Text.eq_cons_append_of_isEnclosed _ _ _ h
    obtain rfl : first = '(' := opens
    have closes := (Bool.and_eq_true _ _ ▸ h).2
    rw [List.map_id] at closes
    obtain ⟨body, rest, balanced⟩ := (scan split).mp closes
    exact ⟨body, rest ▸ split, balanced⟩
  · rintro ⟨inner, split, balanced⟩
    have closes := (scan split).mpr ⟨inner, rfl, balanced⟩
    rw [Text.isEnclosed, List.map_id, closes, split, ← List.cons_append, List.getLast?_concat]
    rfl

theorem Balanced.stripEnclosing (hctx : ctx.UniformlyQuoted)
    (hBlank : Text.isBlank ctx.openQuote = false) (h : ctx.Balanced cs) :
    ctx.Balanced (Text.stripEnclosing id ctx.openQuote ctx.closeQuote cs) := by
  fun_induction Text.stripEnclosing id ctx.openQuote ctx.closeQuote cs with
  | case1 cs trimmed enclosed ih =>
    obtain ⟨inner, split, balanced⟩ := (hctx.quotesOnly.isEnclosed_iff (.inl hctx.same)).mp enclosed
    refine ih ?_
    rw [split, List.tail_cons, List.dropLast_concat]
    exact balanced
  | case2 cs trimmed plain => exact h.trimBy hctx hBlank

/-! ## Enclosing -/

theorem Balanced.exists_depth? (h : ctx.Balanced (cs ++ ds)) :
    ∃ depth, ctx.depth? cs = some depth := by
  have nested := h.nested
  rw [depth?_append, Option.bind_eq_some_iff] at nested
  obtain ⟨depth, hDepth, -⟩ := nested
  exact ⟨depth, hDepth⟩

theorem Balanced.encloses (hctx : ctx.UniformlyQuoted) {before body behind : String}
    (whole : ctx.Balanced (before ++ "( " ++ body ++ " )" ++ behind).toList)
    (free : (ctx.after .outside before.toList).isFree) (h : ctx.Balanced body.toList) :
    ctx.Encloses before body := by
  obtain ⟨depth, hBefore⟩ : ∃ depth, ctx.depth? before.toList = some depth := by
    simp only [String.toList_append, List.append_assoc] at whole
    exact whole.exists_depth?
  refine ⟨depth, hBefore, ?_, ?_⟩
  · rintro front ⟨rest, split⟩
    rw [← split] at h
    obtain ⟨inner, hInner⟩ := h.exists_depth?
    obtain ⟨opened, outside⟩ := hctx.nestAll?_opening depth free
    have raised := nestAll?_add (depth + 1) hInner
    rw [Nat.zero_add] at raised
    refine ⟨inner + (depth + 1), by omega, ?_⟩
    rw [String.toList_append, List.append_assoc, depth?_append, hBefore, Option.bind_some,
      places_append, nestAll?_append, List.map_id, opened, Option.bind_some, outside]
    exact raised
  · have enclosed := (h.nestAll?_enclosed hctx depth free).1
    rw [String.toList_append, String.toList_append, String.toList_append, List.append_assoc,
      List.append_assoc, ← List.append_assoc "( ".toList, depth?_append, hBefore, Option.bind_some]
    exact enclosed

end Context

/-! ## Compiling keeps texts balanced -/

/-- Equal names and bindings, and equal raw SQL that is balanced. -/
def nesting (ctx : Context) : Correspondence where
  name := Eq
  raw r r' := r = r' ∧ ctx.Balanced r.toList
  binding := Eq
  inlined _ _ := False

/-- Compiling puts balanced templates together. -/
def nestingCongruence {ctx : Context} (hctx : ctx.UniformlyQuoted)
    (hBlank : Text.isBlank ctx.openQuote = false) : Congruence (nesting ctx) ctx ctx where
  lead t u := t = u ∧ ctx.Balanced (t.map Symbol.shown) ∧
    ctx.after .outside (t.map Symbol.shown) = .outside
  part t u := t = u ∧ ctx.Balanced (t.map Symbol.shown)
  nil := ⟨rfl, .nil, rfl⟩
  part_of_lead h := ⟨h.1, h.2.1⟩
  append h h' := by
    obtain ⟨rfl, balanced, outside⟩ := h
    obtain ⟨rfl, balanced'⟩ := h'
    rw [List.map_append]
    exact ⟨rfl, balanced.append outside balanced'⟩
  glue h s hs := by
    obtain ⟨rfl, balanced⟩ := h
    have idle : ∀ c ∈ s.toList, ctx.IsIdle c := fun c hc ↦ hctx.isIdle_of_isPrinted (hs.2 c hc)
    have inert : ∀ c ∈ s.toList, ctx.isInert c := fun c hc ↦ (idle c hc).1
    rw [List.map_append, Template.shown_ofString]
    refine ⟨rfl, balanced.append_idle idle, ?_⟩
    rw [Context.after_append, Context.after_of_isInert inert fun h ↦ hs.1 (String.toList_inj.mp h),
      Region.settled_of_isFree balanced.closed]
  enclosed h h' := by
    obtain ⟨rfl, balanced, outside⟩ := h
    obtain ⟨rfl, balanced'⟩ := h'
    rw [List.map_append, List.map_append, List.map_append, Template.shown_ofString,
      Template.shown_ofString]
    exact ⟨rfl, balanced.enclosed hctx outside balanced'⟩
  strip {t _} h := by
    obtain ⟨rfl, balanced⟩ := h
    have shown := Text.stripEnclosing_map id ctx.openQuote ctx.closeQuote Symbol.shown t
    have shown : (t.stripEnclosing ctx).map Symbol.shown = _ := shown.symm
    rw [shown]
    exact ⟨rfl, balanced.stripEnclosing hctx hBlank⟩
  isEmpty h := by rw [h.1]
  path h := by
    obtain rfl := h
    rw [Template.shown_ofString]
    exact ⟨rfl, hctx.balanced_quotedPath _⟩
  qualifiedPath he hn := by
    obtain rfl := he
    obtain rfl := hn
    rw [Template.shown_ofString]
    exact ⟨rfl, hctx.balanced_quotedPath _⟩
  quotedName h := by
    obtain rfl := h
    rw [Template.shown_ofString]
    exact ⟨rfl, hctx.balanced_quotedName _⟩
  fixedName n := by
    rw [Template.shown_ofString]
    exact ⟨rfl, hctx.balanced_quotedName n⟩
  blankName h := by rw [h]
  placeholder h := by
    obtain rfl := h
    have idle : ∀ c ∈ ['?'], ctx.IsIdle c := by simpa using hctx.isIdle_question
    exact ⟨rfl, Context.Balanced.nil.append_idle idle⟩
  inlined h := h.elim
  raw h := by
    obtain ⟨rfl, balanced⟩ := h
    rw [Template.shown_ofString]
    exact ⟨rfl, balanced⟩
  trimmedRaw h := by
    obtain ⟨rfl, balanced⟩ := h
    rw [Template.shown_ofString, Text.trim, String.toList_ofList]
    exact ⟨rfl, balanced.trimBy hctx hBlank⟩
  blankRaw h := by rw [h.1]

/-! ## Compiled statements -/

section Compiled

variable {ctx : Context}

private theorem Statement.related_nesting {s : Statement}
    (hRaw : ∀ r ∈ s.raws, ctx.Balanced r.toList) : s.Related (nesting ctx) s :=
  s.related_self (fun _ ↦ rfl) (fun _ ↦ rfl) fun r hr ↦ ⟨rfl, hRaw r hr⟩

variable (hctx : ctx.UniformlyQuoted) (hBlank : Text.isBlank ctx.openQuote = false)

include hctx hBlank

private theorem after_window_front (limit offset : Option Binding) :
    ctx.after .outside ((window ctx limit offset).front.map Symbol.shown) = .outside := by
  cases limit with
  | none => rfl
  | some limit =>
    rw [window]
    cases ctx.limitStyle with
    | offset | xy => rfl
    | rownum =>
      have selecting : (nestingCongruence hctx hBlank).lead _ _ :=
        Congruence.glue_lead (s := "SELECT * FROM ") (by decide)
      have numbering := (nestingCongruence hctx hBlank).numberingFront
      have opened := (hctx.nestAll?_opening 0 (r := .outside) rfl).2
      rw [rownumWindow_front, show "SELECT * FROM ( " = "SELECT * FROM " ++ "( " from rfl,
        Template.ofString_append, List.map_append, List.map_append, List.map_append,
        Context.after_append, Context.after_append, Context.after_append, selecting.2.2,
        Template.shown_ofString, opened, numbering.2.2, opened]

theorem Statement.balanced_template {s : Statement} (hRaw : ∀ r ∈ s.raws, ctx.Balanced r.toList)
    {t : Template} (ht : s.template ctx = .ok t) : ctx.Balanced t.text.toList := by
  have agree := (nestingCongruence hctx hBlank).statement rfl rfl (s.related_nesting hRaw)
  rw [Template.toList_text]
  exact (agree.of_eq_ok ht ht).2

section Join

variable {s : Select} {before after : List FromEntry} {j : Join}
  (hs : s.tables = before ++ .join j :: after)
  (hRaw : ∀ r ∈ (Statement.select s).raws, ctx.Balanced r.toList)

include hs hRaw

/-- What a selection says up to the condition of a join leaves nothing unfinished. -/
private theorem after_leading {fields table : String} {front : Template}
    (hFields : fieldList ctx s.fields = .ok fields) (hFront : fromTemplate ctx before = .ok front)
    (hTable : j.table.sql ctx = .ok table) :
    ctx.after .outside ((Template.ofString ("SELECT " ++ fields ++ " FROM ") ++ front ++
      Template.ofString (" " ++ j.kind.keywords ++ table ++ " ON ")).map Symbol.shown) =
        .outside := by
  let C := nestingCongruence hctx hBlank
  cases Statement.related_nesting hRaw with
  | select related =>
    have entries := List.forall₂_same.mp related.tables
    rw [hs] at entries
    have frontRelated : List.Forall₂ (FromEntry.Related (nesting ctx)) before before :=
      List.forall₂_same.mpr fun e he ↦ entries e (List.mem_append_left _ he)
    cases entries (.join j) (List.mem_append_right _ List.mem_cons_self) with
    | join joined =>
      have keywords : Glue (" " ++ j.kind.keywords) := by cases j.kind <;> decide
      have selecting := C.glue (C.append (Congruence.glue_lead (s := "SELECT ") (by decide))
        ((C.fieldList related.fields).of_eq_ok hFields hFields)) (s := " FROM ") (by decide)
      have chain := C.append selecting ((C.fromTemplate frontRelated).of_eq_ok hFront hFront)
      have leading := C.glue (Congruence.between chain keywords
        ((C.tableName joined.table).of_eq_ok hTable hTable)) (s := " ON ") (by decide)
      rw [Template.ofString_append, Template.ofString_append, Template.ofString_append _ " ON ",
        Template.ofString_append _ table, ← List.append_assoc, ← List.append_assoc]
      exact leading.2.2

private theorem balanced_joinCondition {p : FromEntry} {c : Condition} {body : Template}
    (hc : j.condition ctx p.exposedName = .ok c) (hBody : c.template ctx = .ok body) :
    ctx.Balanced (body.stripEnclosing ctx).text.toList := by
  let C := nestingCongruence hctx hBlank
  cases Statement.related_nesting hRaw with
  | select related =>
    have entries := List.forall₂_same.mp related.tables
    rw [hs] at entries
    cases entries (.join j) (List.mem_append_right _ List.mem_cons_self) with
    | join joined =>
      have agree := ((C.joinCondition joined fun _ _ ↦ rfl).of_eq_ok hc hc).2
      rw [Template.toList_text]
      exact (C.strip (agree.of_eq_ok hBody hBody)).2

private theorem Select.encloses_joinCondition {t : Template} (ht : s.template ctx = .ok t) :
    ∃ opening front table body back closing, fromTemplate ctx before = .ok front ∧
      j.table.sql ctx = .ok table ∧ FromEntry.allBehind ctx (.join j) after = .ok back ∧
      t.text = opening ++ front.text ++ (" " ++ j.kind.keywords ++ table ++ " ON ") ++ "( " ++
        body ++ " )" ++ (back.text ++ closing) ∧
      ctx.Encloses (opening ++ front.text ++ (" " ++ j.kind.keywords ++ table ++ " ON ")) body := by
  have whole := Statement.balanced_template hctx hBlank hRaw ht
  obtain ⟨u, hu, around⟩ := exists_of_bind_eq_ok ht
  obtain ⟨tables, fields, filter, hTables, hFields, -, rfl⟩ := exists_of_unlimited_eq_ok hu
  rw [hs] at hTables
  obtain ⟨p, front, middle, back, -, hFront, hMiddle, hBack, rfl⟩ :=
    exists_of_fromTemplate_eq_ok hTables
  obtain ⟨table, c, body, hTable, hc, -, hBody, rfl⟩ :=
    Join.exists_condition_of_behind_eq_ok hMiddle
  have text : t.text = (window ctx s.limit s.offset).front.text ++ ("SELECT " ++ fields ++ " FROM ")
      ++ front.text ++ (" " ++ j.kind.keywords ++ table ++ " ON ") ++ "( " ++
        (body.stripEnclosing ctx).text ++ " )" ++ (back.text ++ (filter.text ++
          (groupByClause ctx s.groupBy ++ orderByClause ctx s.orderBy) ++
            (window ctx s.limit s.offset).back.text)) := by
    rw [← Except.ok.inj around, show " ON ( " = " ON " ++ "( " from rfl]
    simp only [Enclosure.around, Template.text_append, Template.text_ofString, String.append_assoc]
  refine ⟨_, front, table, _, back, _, hFront, hTable, hBack, text, ?_⟩
  rw [text] at whole
  refine whole.encloses hctx ?_ (balanced_joinCondition hctx hBlank hs hRaw hc hBody)
  -- the window in front and the selection behind it leave nothing unfinished
  rw [String.append_assoc, String.append_assoc, String.toList_append, Template.toList_text,
    Context.after_append, after_window_front hctx hBlank, ← String.append_assoc,
    ← Template.text_ofString ("SELECT " ++ fields ++ " FROM "), ← Template.text_append,
    ← Template.text_ofString (" " ++ j.kind.keywords ++ table ++ " ON "), ← Template.text_append,
    Template.toList_text, after_leading hctx hBlank hs hRaw hFields hFront hTable]
  rfl

end Join

private theorem Select.encloses_rownumWindow {s : Select}
    (hRaw : ∀ r ∈ (Statement.select s).raws, ctx.Balanced r.toList) {limit : Binding}
    (hStyle : ctx.limitStyle = .rownum) (hLimit : s.limit = some limit) {t : Template}
    (ht : s.template ctx = .ok t) :
    ∃ u kept closing, s.unlimited ctx = .ok u ∧
      t.text = "SELECT * FROM " ++ "( " ++ ((numberingFront ctx).text ++ "( " ++ u.text ++ " )" ++
        kept) ++ " )" ++ closing ∧
      ctx.Encloses "SELECT * FROM "
        ((numberingFront ctx).text ++ "( " ++ u.text ++ " )" ++ kept) ∧
      ctx.Encloses ("SELECT * FROM " ++ "( " ++ (numberingFront ctx).text) u.text := by
  let C := nestingCongruence hctx hBlank
  have whole := Statement.balanced_template hctx hBlank hRaw ht
  obtain ⟨u, hu, around⟩ := exists_of_bind_eq_ok ht
  have query : C.part u u := by
    cases Statement.related_nesting hRaw with
    | select related => exact (C.unlimited related).of_eq_ok hu hu
  generalize hSkipped : s.offset.getD (.value (.int 0)) = skipped
  have numbered : ctx.Balanced (numberedQuery ctx limit skipped u).text.toList := by
    rw [Template.toList_text]
    exact (C.numberedQuery rfl rfl query).2
  obtain ⟨kept, inner⟩ : ∃ kept, (numberedQuery ctx limit skipped u).text =
      (numberingFront ctx).text ++ "( " ++ u.text ++ " )" ++ kept := by
    refine ⟨" " ++ ctx.quotedName "A" ++ " WHERE ROWNUM <= " ++
      (Template.placeholder limit).text ++ " + " ++ (Template.placeholder skipped).text, ?_⟩
    simp only [numberedQuery, Template.text_append, Template.text_ofString, String.append_assoc]
  obtain ⟨closing, outer⟩ : ∃ closing, t.text = "SELECT * FROM " ++ "( " ++
      (numberedQuery ctx limit skipped u).text ++ " )" ++ closing := by
    refine ⟨" " ++ ctx.quotedName "B" ++ " WHERE " ++ ctx.quotedName "r" ++ " > " ++
      (Template.placeholder skipped).text, ?_⟩
    rw [← Except.ok.inj around, hLimit, window, hStyle]
    simp only [rownumWindow_around, hSkipped, Template.text_append, Template.text_ofString,
      String.append_assoc]
  rw [inner] at outer numbered
  have selecting : C.lead _ _ := Congruence.glue_lead (s := "SELECT * FROM ") (by decide)
  have selected : ctx.after .outside "SELECT * FROM ".toList = .outside := by
    rw [← Template.shown_ofString]
    exact selecting.2.2
  refine ⟨u, kept, closing, hu, outer, ?_, ?_⟩
  · rw [outer] at whole
    exact whole.encloses hctx (congrArg Region.isFree selected) numbered
  · have regrouped : t.text = "SELECT * FROM " ++ "( " ++ (numberingFront ctx).text ++ "( " ++
        u.text ++ " )" ++ (kept ++ " )" ++ closing) := by
      simpa only [String.append_assoc] using outer
    rw [regrouped] at whole
    refine whole.encloses hctx ?_ (Template.toList_text u ▸ query.2)
    have opened := (hctx.nestAll?_opening 0 (r := .outside) rfl).2
    rw [String.toList_append, String.toList_append, Context.after_append, Context.after_append,
      selected, opened, Template.toList_text]
    exact congrArg Region.isFree C.numberingFront.2.2

end Compiled

/-- **Compiled statements are balanced.** If all raw SQL in a statement is balanced, then so is the
text that the statement compiles to. In particular the condition of every join is enclosed by the
parentheses that are written around it, behind which the next entry of the chain follows, and the
window by row numbers encloses the whole query in each of its two pairs of parentheses. -/
theorem Statement.compile_balanced (ctx : Context) (hctx : ctx.UniformlyQuoted)
    (hBlank : Text.isBlank ctx.openQuote = false) (s : Statement)
    (hRaw : ∀ r ∈ s.raws, ctx.Balanced r.toList) (q : Query) (hq : s.compile ctx = .ok q) :
    ctx.Balanced q.sql.toList ∧
    (∀ selection before j after, s = .select selection →
      selection.tables = before ++ .join j :: after →
        ∃ opening front table body back closing, fromTemplate ctx before = .ok front ∧
          j.table.sql ctx = .ok table ∧ FromEntry.allBehind ctx (.join j) after = .ok back ∧
          q.sql = opening ++ front.text ++ (" " ++ j.kind.keywords ++ table ++ " ON ") ++ "( " ++
            body ++ " )" ++ (back.text ++ closing) ∧
          ctx.Encloses (opening ++ front.text ++ (" " ++ j.kind.keywords ++ table ++ " ON "))
            body) ∧
    ∀ selection limit, s = .select selection → ctx.limitStyle = .rownum →
      selection.limit = some limit →
        ∃ query kept closing, selection.unlimited ctx = .ok query ∧
          q.sql = "SELECT * FROM " ++ "( " ++ ((numberingFront ctx).text ++ "( " ++ query.text ++
            " )" ++ kept) ++ " )" ++ closing ∧
          ctx.Encloses "SELECT * FROM "
            ((numberingFront ctx).text ++ "( " ++ query.text ++ " )" ++ kept) ∧
          ctx.Encloses ("SELECT * FROM " ++ "( " ++ (numberingFront ctx).text) query.text := by
  obtain ⟨t, ht, hq⟩ := exists_of_bind_eq_ok hq
  obtain rfl : Query.ofTemplate t = q := Except.ok.inj hq
  refine ⟨s.balanced_template hctx hBlank hRaw ht, ?_, ?_⟩
  · rintro selection before j after rfl hTables
    exact selection.encloses_joinCondition hctx hBlank hTables hRaw ht
  · rintro selection limit rfl hStyle hLimit
    exact selection.encloses_rownumWindow hctx hBlank hRaw hStyle hLimit ht

/-- Raw SQL whose first parenthesis is not closed by its last one, with parentheses in literals. -/
theorem Statement.compile_balanced_rownum :
    let ctx := Context.standard.withLimitStyle .rownum
    let s : Select := {
      tables := [.table { name := "a" },
        .join { table := { name := "b" }, rows := .onCondition (.raw "(x = '(') AND (y = ')')") }]
      limit := some (.token "t") }
    ∃ q, (Statement.select s).compile ctx = .ok q ∧ ctx.Balanced q.sql.toList ∧
      (∃ lead body rest, q.sql = lead ++ "( " ++ body ++ " )" ++ rest ∧ ctx.Encloses lead body) ∧
      ∃ query, s.unlimited ctx = .ok query ∧
        ctx.Encloses "SELECT * FROM ( SELECT \"A\".*, ROWNUM \"r\" FROM " query.text := by
  intro ctx s
  have uniformlyQuoted : ctx.UniformlyQuoted := ⟨by decide, by decide, by decide, by decide⟩
  obtain ⟨q, hq⟩ : ∃ q, (Statement.select s).compile ctx = .ok q := ⟨_, rfl⟩
  obtain ⟨balanced, joins, windows⟩ := Statement.compile_balanced ctx uniformlyQuoted (by decide)
    (.select s) (by decide +kernel) q hq
  obtain ⟨_, _, _, body, _, _, -, -, -, text, joined⟩ := joins s [_] _ [] rfl rfl
  obtain ⟨query, _, _, compiled, -, -, whole⟩ := windows s _ rfl rfl rfl
  have front : "SELECT * FROM " ++ "( " ++ (numberingFront ctx).text =
      "SELECT * FROM ( SELECT \"A\".*, ROWNUM \"r\" FROM " := by decide +kernel
  rw [front] at whole
  exact ⟨q, hq, balanced, ⟨_, body, _, text, joined⟩, query, compiled, whole⟩

/-- White space cannot be a quote. Trimming takes the opening quote of the raw condition away, and
so the closing one opens an identifier that does not end. -/
theorem exists_unbalanced :
    ∃ (ctx : Context) (s : Statement) (q : Query), ctx.UniformlyQuoted ∧
      (∀ r ∈ s.raws, ctx.Balanced r.toList) ∧ s.compile ctx = .ok q ∧
        ¬ctx.Balanced q.sql.toList := by
  let ctx : Context := { Context.standard with openQuote := '\t', closeQuote := '\t' }
  refine ⟨ctx, .delete { table := "a", filter := some (.raw "\tx\t = 1") },
    ⟨"DELETE FROM \ta\t WHERE x\t = 1", []⟩, ⟨by decide, by decide, by decide, by decide⟩,
    by decide +kernel, by decide +kernel, by decide +kernel⟩

end PreparedSql
