import PreparedSql.Proofs.Congruence

/-!
# Literals and quoted identifiers in SQL text

Read from left to right, every character of SQL text stands in a string literal, in a quoted
identifier, or in neither of them. A literal lies between two `'`. An identifier lies between the
opening quote of a context and the first closing quote that is not doubled, which shows only one
character later: behind a closing quote, another one continues the identifier and anything else is
read as if it had not been in one.

## Main definitions

* `Context.next`, `Context.after`: the region behind a character, and behind a text.
* `Context.places`: a text with the place of each of its characters.
* `Context.Readable`: the quotes and the separator are not mistaken for anything that compiling
  writes.

## Main statements

* `Context.places_quotedPath`: how a qualified name is read.
-/

namespace PreparedSql

/-- What the text behind a position continues. -/
inductive Region where
  /-- Neither a literal nor an identifier. -/
  | outside
  /-- A string literal. -/
  | literal
  /-- A quoted identifier. -/
  | identifier
  /-- An identifier if a closing quote follows, and otherwise nothing. -/
  | closed
  deriving DecidableEq, Repr

namespace Region

/-- Neither a literal nor an identifier is left unfinished. -/
def isFree : Region → Bool
  | outside | closed => true
  | literal | identifier => false

/-- The region behind a character that neither begins nor ends anything. -/
def settled : Region → Region
  | closed => outside
  | r => r

theorem settled_of_isFree {r : Region} (h : r.isFree) : r.settled = outside := by
  cases r with
  | outside => rfl
  | closed => rfl
  | literal => exact absurd h (by decide)
  | identifier => exact absurd h (by decide)

@[simp] theorem isFree_settled (r : Region) : r.settled.isFree = r.isFree := by
  cases r <;> rfl

end Region

/-- Where a character stands. -/
inductive Place where
  /-- In neither a literal nor an identifier. -/
  | plain
  /-- In a literal or at one of its ends. -/
  | literal
  /-- At the start of an identifier. -/
  | opening
  /-- In an identifier or at its end. -/
  | inner
  deriving DecidableEq, Repr

theorem Template.shown_ofString (s : String) : (ofString s).map Symbol.shown = s.toList := by
  rw [ofString, List.map_map]
  exact List.map_id _

namespace Context

variable {α β : Type} (ctx : Context)

/-! ## Reading a text -/

/-- The region behind a character that no literal or identifier contains. -/
def opened (c : Char) : Region :=
  if c = '\'' then .literal else if c = ctx.openQuote then .identifier else .outside

/-- The region behind a character. -/
def next : Region → Char → Region
  | .outside, c => ctx.opened c
  | .literal, c => if c = '\'' then .outside else .literal
  | .identifier, c => if c = ctx.closeQuote then .closed else .identifier
  | .closed, c => if c = ctx.closeQuote then .identifier else ctx.opened c

/-- The place of a character that no literal or identifier contains before it. -/
def openedPlace (c : Char) : Place :=
  if c = '\'' then .literal else if c = ctx.openQuote then .opening else .plain

/-- The place of a character behind a region. -/
def place : Region → Char → Place
  | .outside, c => ctx.openedPlace c
  | .literal, _ => .literal
  | .identifier, _ => .inner
  | .closed, c => if c = ctx.closeQuote then .inner else ctx.openedPlace c

/-- The region behind a text. -/
def after (r : Region) (cs : List Char) : Region := cs.foldl ctx.next r

/-- The elements of a text, each with its place. -/
def places (shown : α → Char) : Region → List α → List (Place × α)
  | _, [] => []
  | r, x :: xs => (ctx.place r (shown x), x) :: places shown (ctx.next r (shown x)) xs

variable {ctx} {shown : α → Char} {r : Region}

/-- Behind an identifier, what does not continue it is read as anywhere else. -/
theorem next_closed {c : Char} (h : c ≠ ctx.closeQuote) :
    ctx.next .closed c = ctx.next .outside c := if_neg h

theorem place_closed {c : Char} (h : c ≠ ctx.closeQuote) :
    ctx.place .closed c = ctx.place .outside c := if_neg h

private theorem opened_ne_closed (c : Char) : ctx.opened c ≠ .closed := by
  rw [Context.opened]
  split
  · decide
  · split <;> decide

theorem of_next_eq_closed {c : Char} (h : ctx.next r c = .closed) :
    r = .identifier ∧ c = ctx.closeQuote := by
  cases r with
  | outside => exact absurd h (opened_ne_closed c)
  | literal =>
    rw [next] at h
    split at h <;> exact nomatch h
  | identifier =>
    refine ⟨rfl, ?_⟩
    by_contra other
    rw [next, if_neg other] at h
    exact nomatch h
  | closed =>
    by_cases other : c = ctx.closeQuote
    · rw [next, if_pos other] at h
      exact nomatch h
    · exact absurd ((next_closed other).symm.trans h) (opened_ne_closed c)

@[simp] theorem after_nil : ctx.after r [] = r := rfl

@[simp] theorem after_cons (c : Char) (cs : List Char) :
    ctx.after r (c :: cs) = ctx.after (ctx.next r c) cs := rfl

@[simp] theorem after_append (cs ds : List Char) :
    ctx.after r (cs ++ ds) = ctx.after (ctx.after r cs) ds := List.foldl_append

theorem places_cons (x : α) (xs : List α) : ctx.places shown r (x :: xs) =
    (ctx.place r (shown x), x) :: ctx.places shown (ctx.next r (shown x)) xs := rfl

theorem places_append (xs ys : List α) : ctx.places shown r (xs ++ ys) =
    ctx.places shown r xs ++ ctx.places shown (ctx.after r (xs.map shown)) ys := by
  induction xs generalizing r with
  | nil => rfl
  | cons x xs ih =>
    rw [List.cons_append, places_cons, ih, places_cons, List.cons_append]
    rfl

theorem places_map (g : β → α) (xs : List β) : ctx.places shown r (xs.map g) =
    (ctx.places (shown ∘ g) r xs).map (Prod.map id g) := by
  induction xs generalizing r with
  | nil => rfl
  | cons x xs ih =>
    rw [List.map_cons, places_cons, ih]
    rfl

/-! ## Characters that begin and end nothing -/

/-- A character that neither begins nor ends a literal or an identifier. -/
def isInert (ctx : Context) (c : Char) : Bool :=
  !(c == '\'' || c == ctx.openQuote || c == ctx.closeQuote)

theorem isInert_iff {c : Char} :
    ctx.isInert c ↔ c ≠ '\'' ∧ c ≠ ctx.openQuote ∧ c ≠ ctx.closeQuote := by
  simp [isInert, and_assoc]

theorem next_of_isInert {c : Char} (h : ctx.isInert c) : ctx.next r c = r.settled := by
  obtain ⟨hLiteral, hOpen, hClose⟩ := isInert_iff.mp h
  have outside : ctx.opened c = .outside := by rw [opened, if_neg hLiteral, if_neg hOpen]
  cases r with
  | outside => exact outside
  | literal => exact if_neg hLiteral
  | identifier => exact if_neg hClose
  | closed => exact (if_neg hClose).trans outside

theorem place_of_isInert {c : Char} (hr : r.isFree) (h : ctx.isInert c) :
    ctx.place r c = .plain := by
  obtain ⟨hLiteral, hOpen, hClose⟩ := isInert_iff.mp h
  have plain : ctx.openedPlace c = .plain := by rw [openedPlace, if_neg hLiteral, if_neg hOpen]
  cases r with
  | outside => exact plain
  | closed => exact (if_neg hClose).trans plain
  | literal => exact absurd hr (by decide)
  | identifier => exact absurd hr (by decide)

theorem after_of_isInert {cs : List Char} (h : ∀ c ∈ cs, ctx.isInert c) (hne : cs ≠ []) :
    ctx.after r cs = r.settled := by
  induction cs generalizing r with
  | nil => exact absurd rfl hne
  | cons c cs ih =>
    -- the first character settles the region, and the others leave it settled
    rw [after_cons, next_of_isInert (h c List.mem_cons_self)]
    cases cs with
    | nil => rfl
    | cons d cs =>
      rw [ih (fun x hx ↦ h x (List.mem_cons_of_mem _ hx)) (List.cons_ne_nil d cs)]
      cases r <;> rfl

/-- Such characters finish nothing that is unfinished and begin nothing. -/
theorem isFree_after_of_isInert {cs : List Char} (h : ∀ c ∈ cs, ctx.isInert c) :
    (ctx.after r cs).isFree = r.isFree := by
  by_cases hne : cs = []
  · rw [hne, after_nil]
  · rw [after_of_isInert h hne, Region.isFree_settled]

theorem after_outside_of_isInert {cs : List Char} (h : ∀ c ∈ cs, ctx.isInert c) :
    ctx.after .outside cs = .outside := by
  by_cases hne : cs = []
  · rw [hne, after_nil]
  · rw [after_of_isInert h hne]
    rfl

theorem isFree_after_of_append {front mid back : List Char} (hFront : ∀ c ∈ front, ctx.isInert c)
    (hBack : ∀ c ∈ back, ctx.isInert c) :
    (ctx.after .outside (front ++ mid ++ back)).isFree = (ctx.after .outside mid).isFree := by
  rw [after_append, after_append, after_outside_of_isInert hFront, isFree_after_of_isInert hBack]

theorem places_of_isInert {xs : List α} (hr : r.isFree) (h : ∀ x ∈ xs, ctx.isInert (shown x)) :
    ctx.places shown r xs = xs.map (Place.plain, ·) := by
  induction xs generalizing r with
  | nil => rfl
  | cons x xs ih =>
    have hx := h x List.mem_cons_self
    rw [places_cons, place_of_isInert hr hx, List.map_cons, ih _ fun y hy ↦
      h y (List.mem_cons_of_mem _ hy)]
    rw [next_of_isInert hx, Region.isFree_settled]
    exact hr

/-! ## Quoted names -/

/-- Neither a quote nor the separator is read as something that compiling writes, as the end of a
literal or as a placeholder, and the separator is no quote. -/
structure Readable (ctx : Context) : Prop where
  /-- The opening quote is no character that stands outside of identifiers. -/
  openQuote : ctx.openQuote ≠ '?' ∧ ctx.openQuote ≠ '\'' ∧ Text.isWritten ctx.openQuote = false
  /-- The closing quote is no character that stands outside of identifiers. -/
  closeQuote : ctx.closeQuote ≠ '?' ∧ ctx.closeQuote ≠ '\'' ∧ Text.isWritten ctx.closeQuote = false
  /-- The separator has one meaning only. -/
  separator : ctx.separator ≠ '?' ∧ ctx.separator ≠ '\'' ∧ ctx.separator ≠ ctx.openQuote ∧
    ctx.separator ≠ ctx.closeQuote

theorem Readable.isInert_of_isWritten (hctx : ctx.Readable) {c : Char} (h : Text.isWritten c) :
    ctx.isInert c := by
  refine isInert_iff.mpr ⟨?_, ?_, ?_⟩ <;> rintro rfl
  · exact absurd h (by decide)
  · exact absurd h (Bool.eq_false_iff.mp hctx.openQuote.2.2)
  · exact absurd h (Bool.eq_false_iff.mp hctx.closeQuote.2.2)

theorem Readable.isInert_separator (hctx : ctx.Readable) : ctx.isInert ctx.separator :=
  isInert_iff.mpr hctx.separator.2

theorem Readable.isInert_question (hctx : ctx.Readable) : ctx.isInert '?' :=
  isInert_iff.mpr ⟨by decide, hctx.openQuote.1.symm, hctx.closeQuote.1.symm⟩

theorem Readable.after_placeholder (hctx : ctx.Readable) (b : Binding) :
    ctx.after .outside ((Template.placeholder b).map Symbol.shown) = .outside := by
  have behind : ctx.next .outside '?' = Region.outside := next_of_isInert hctx.isInert_question
  exact behind

theorem Readable.after_append_written (hctx : ctx.Readable) {t : Template}
    (free : (ctx.after .outside (t.map Symbol.shown)).isFree) {s : String} (hne : s ≠ "")
    (hs : ∀ c ∈ s.toList, Text.isWritten c) :
    ctx.after .outside ((t ++ .ofString s).map Symbol.shown) = .outside := by
  rw [List.map_append, after_append, Template.shown_ofString,
    after_of_isInert (fun c hc ↦ hctx.isInert_of_isWritten (hs c hc))
      fun empty ↦ hne (String.toList_inj.mp empty),
    Region.settled_of_isFree free]

theorem isInert_of_isBlank (hOpen : Text.isBlank ctx.openQuote = false)
    (hClose : Text.isBlank ctx.closeQuote = false) {c : Char} (h : Text.isBlank c) :
    ctx.isInert c := by
  refine isInert_iff.mpr ⟨?_, ?_, ?_⟩ <;> rintro rfl
  · exact absurd h (by decide)
  · exact absurd h (Bool.eq_false_iff.mp hOpen)
  · exact absurd h (Bool.eq_false_iff.mp hClose)

theorem Readable.isInert_of_isWrapping (hctx : ctx.Readable)
    (hOpen : Text.isBlank ctx.openQuote = false) (hClose : Text.isBlank ctx.closeQuote = false)
    {c : Char} (h : Text.isWrapping c) : ctx.isInert c := by
  rw [Text.isWrapping, Bool.or_assoc, Bool.or_eq_true] at h
  rcases h with blank | parenthesis
  · exact isInert_of_isBlank hOpen hClose blank
  · apply hctx.isInert_of_isWritten
    rw [Text.isWritten, Bool.or_assoc, parenthesis, Bool.or_true]

theorem Readable.exists_trim_append (hctx : ctx.Readable)
    (hOpen : Text.isBlank ctx.openQuote = false) (hClose : Text.isBlank ctx.closeQuote = false)
    (s : String) : ∃ front back, s.toList = front ++ (Text.trim s).toList ++ back ∧
      (∀ c ∈ front, ctx.isInert c) ∧ ∀ c ∈ back, ctx.isInert c := by
  obtain ⟨front, back, whole, hFront, hBack⟩ :=
    Text.exists_trimBy_append Text.isBlank s.toList
  have inert {part : List Char} (blank : part.all Text.isBlank) : ∀ c ∈ part, ctx.isInert c := by
    intro c hc
    rw [List.all_eq_true] at blank
    exact hctx.isInert_of_isWrapping hOpen hClose (Text.isWrapping_of_isBlank (blank c hc))
  refine ⟨front, back, ?_, inert hFront, inert hBack⟩
  rw [Text.trim, String.toList_ofList]
  exact whole

theorem Readable.isFree_after_trim (hctx : ctx.Readable)
    (hOpen : Text.isBlank ctx.openQuote = false) (hClose : Text.isBlank ctx.closeQuote = false)
    {s : String} (h : (ctx.after .outside s.toList).isFree) :
    (ctx.after .outside (Text.trim s).toList).isFree := by
  obtain ⟨front, back, whole, hFront, hBack⟩ := hctx.exists_trim_append hOpen hClose s
  rw [whole, isFree_after_of_append hFront hBack] at h
  exact h

theorem Readable.not_isWrapping_openQuote (hctx : ctx.Readable)
    (hOpen : Text.isBlank ctx.openQuote = false) : ¬Text.isWrapping ctx.openQuote := by
  intro h
  have written := hctx.openQuote.2.2
  rw [Text.isWritten, Bool.or_assoc, Bool.or_eq_false_iff] at written
  rw [Text.isWrapping, Bool.or_assoc, hOpen, written.2] at h
  exact absurd h (by decide)

private theorem places_quotedBody (ctx : Context) (part : List Char) :
    ctx.places id .identifier (ctx.quotedBody part) = (ctx.quotedBody part).map (Place.inner, ·) ∧
      ctx.after .identifier (ctx.quotedBody part) = .identifier := by
  induction part with
  | nil => exact ⟨rfl, rfl⟩
  | cons c part ih =>
    rw [quotedBody, List.flatMap_cons, ← quotedBody]
    by_cases hc : c = ctx.closeQuote
    · -- a closing quote is written twice: the first one seems to close, the second one reopens
      have doubled :
          ctx.next (ctx.next .identifier ctx.closeQuote) ctx.closeQuote = .identifier := by
        rw [next, if_pos rfl, next, if_pos rfl]
      have continued : ctx.place (ctx.next .identifier ctx.closeQuote) ctx.closeQuote = .inner := by
        rw [next, if_pos rfl, place, if_pos rfl]
      rw [if_pos hc, hc]
      simp only [List.cons_append, List.nil_append, places_cons, after_cons, List.map_cons, id,
        doubled, continued, ih]
      exact ⟨rfl, trivial⟩
    · have kept : ctx.next .identifier c = .identifier := if_neg hc
      rw [if_neg hc]
      simp only [List.cons_append, List.nil_append, places_cons, after_cons, List.map_cons, id,
        kept, ih]
      exact ⟨rfl, trivial⟩

/-- One part of a name, each character with its place. -/
def partPlaces (ctx : Context) (part : List Char) : List (Place × Char) :=
  if part = ['*'] then [(.plain, '*')]
  else (.opening, ctx.openQuote) :: (ctx.quotedBody part ++ [ctx.closeQuote]).map (Place.inner, ·)

/-- How one part of a name is read, if it is no `*` or `*` has no meaning of its own. -/
theorem places_quotedPart (hOpen : ctx.openQuote ≠ '\'') (part : List Char)
    (hStar : part = ['*'] → ctx.isInert '*') :
    ctx.places id .outside (ctx.quotedPart part) = ctx.partPlaces part ∧
      (ctx.after .outside (ctx.quotedPart part)).isFree := by
  rw [quotedPart, partPlaces]
  by_cases star : part = ['*']
  · have inert : ∀ c ∈ ['*'], ctx.isInert c := by simpa using hStar star
    rw [if_pos star, if_pos star, star, after_outside_of_isInert inert]
    exact ⟨places_of_isInert rfl inert, rfl⟩
  · have entered : ctx.next .outside ctx.openQuote = .identifier := by
      rw [next, opened, if_neg hOpen, if_pos rfl]
    have start : ctx.place .outside ctx.openQuote = .opening := by
      rw [place, openedPlace, if_neg hOpen, if_pos rfl]
    have left : ctx.next .identifier ctx.closeQuote = .closed := if_pos rfl
    obtain ⟨body, behind⟩ := ctx.places_quotedBody part
    rw [if_neg star, if_neg star]
    simp only [List.cons_append, List.nil_append, places_cons, places_append, after_cons,
      after_append, List.map_id, id, start, entered, body, behind, left, List.map_append]
    exact ⟨rfl, rfl⟩

theorem places_quotedParts (hOpen : ctx.openQuote ≠ '\'') (hStar : ctx.isInert '*')
    (hSeparator : ctx.isInert ctx.separator) (parts : List (List Char)) :
    ctx.places id .outside ([ctx.separator].intercalate (parts.map ctx.quotedPart)) =
        [(Place.plain, ctx.separator)].intercalate (parts.map ctx.partPlaces) ∧
      (ctx.after .outside ([ctx.separator].intercalate (parts.map ctx.quotedPart))).isFree := by
  induction parts with
  | nil => exact ⟨rfl, rfl⟩
  | cons part parts ih =>
    obtain ⟨first, free⟩ := places_quotedPart hOpen part fun _ ↦ hStar
    cases parts with
    | nil => simpa using ⟨first, free⟩
    | cons second parts =>
      simp only [List.map_cons, List.intercalate_cons_cons] at ih ⊢
      rw [List.append_assoc, places_append, places_append, first, List.map_id, List.map_id,
        places_of_isInert free (by simpa using hSeparator), after_append, after_append,
        after_of_isInert (by simpa using hSeparator) (by simp), Region.settled_of_isFree free, ih.1]
      exact ⟨(List.append_assoc _ _ _).symm, ih.2⟩

/-- Outside of its identifiers a part is the `*` or nothing. -/
theorem plain_not_mem_partPlaces {c : Char} (hStar : c ≠ '*') (part : List Char) :
    (Place.plain, c) ∉ ctx.partPlaces part := by
  rw [partPlaces]
  split
  · rw [List.mem_singleton]
    intro h
    exact hStar (congrArg Prod.snd h)
  · rw [List.mem_cons, List.mem_map]
    rintro (h | ⟨d, -, h⟩)
    · cases congrArg Prod.fst h
    · cases congrArg Prod.fst h

theorem plain_not_mem_intercalate {c : Char} (hStar : c ≠ '*') (hSeparator : c ≠ ctx.separator)
    (parts : List (List Char)) :
    (Place.plain, c) ∉ [(Place.plain, ctx.separator)].intercalate (parts.map ctx.partPlaces) := by
  have separated : (Place.plain, c) ∉ [(Place.plain, ctx.separator)] := by
    rw [List.mem_singleton]
    intro h
    exact hSeparator (congrArg Prod.snd h)
  induction parts with
  | nil => exact List.not_mem_nil
  | cons part parts ih =>
    cases parts with
    | nil =>
      rw [List.map_singleton, List.intercalate_singleton]
      exact plain_not_mem_partPlaces hStar part
    | cons second parts =>
      rw [List.map_cons, List.map_cons, List.intercalate_cons_cons, List.mem_append,
        List.mem_append]
      rintro ((h | h) | h)
      · exact plain_not_mem_partPlaces hStar part h
      · exact separated h
      · exact ih h

theorem Readable.places_quotedPart (hctx : ctx.Readable) (part : List Char) :
    ctx.places id .outside (ctx.quotedPart part) = ctx.partPlaces part ∧
      (ctx.after .outside (ctx.quotedPart part)).isFree :=
  Context.places_quotedPart hctx.openQuote.2.1 part fun _ ↦ hctx.isInert_of_isWritten (by decide)

/-- How a qualified name is read: as its parts, each an identifier of its own or the `*`. -/
theorem Readable.places_quotedPath (hctx : ctx.Readable) (name : String) :
    ctx.places id .outside (ctx.quotedPath name).toList =
        [(Place.plain, ctx.separator)].intercalate
          ((name.toList.splitOn ctx.separator).map ctx.partPlaces) ∧
      (ctx.after .outside (ctx.quotedPath name).toList).isFree := by
  rw [toList_quotedPath]
  exact places_quotedParts hctx.openQuote.2.1 (hctx.isInert_of_isWritten (by decide))
    hctx.isInert_separator _

theorem Readable.isFree_after_quotedName (hctx : ctx.Readable) (name : String) :
    (ctx.after .outside (ctx.quotedName name).toList).isFree := by
  rw [toList_quotedName]
  exact (hctx.places_quotedPart name.toList).2

end Context

end PreparedSql
