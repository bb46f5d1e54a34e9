import PreparedSql.Proofs.Enclosing
import PreparedSql.Proofs.Masking

/-!
# The partner of a parenthesis

Outside of literals and identifiers a parenthesis makes a text deeper and its partner takes the
depth back. The scan for the partner of the first parenthesis counts along with the depth as long as
it knows where identifiers end. It takes the first closing quote for the end of one. If one
character is both quotes, the second of two closing quotes then opens an identifier again and the
scan is back where the text is. If not, the scan reads the rest of a name with a closing quote in it
as if it stood outside, which does no harm as long as this rest has nothing that counts there.

## Main definitions

* `nest?`, `Context.depth?`: how many parentheses are open behind a character, and behind a text.
* `Context.PlainBehindDoubled`: the texts in which the rest of no name misleads the scan.

## Main statements

* `Context.Tracks.closesLast_iff`: what the scan finds.
-/

namespace PreparedSql

/-! ## Depth -/

/-- The depth behind a character, given the depth before it. There is none behind a parenthesis
that closes nothing. -/
def nest? (depth : Nat) (x : Place × Char) : Option Nat :=
  if x = (.plain, '(') then some (depth + 1)
  else if x = (.plain, ')') then if depth = 0 then none else some (depth - 1)
  else some depth

/-- The depth behind a text, given the depth before it. -/
def nestAll? (depth : Nat) (l : List (Place × Char)) : Option Nat := l.foldlM nest? depth

section Depth

variable {depth depth' : Nat} {x : Place × Char} {l l' : List (Place × Char)}

private theorem nestAll?_nil : nestAll? depth [] = some depth := rfl

theorem nestAll?_cons : nestAll? depth (x :: l) = (nest? depth x).bind (nestAll? · l) :=
  List.foldlM_cons

theorem nestAll?_append :
    nestAll? depth (l ++ l') = (nestAll? depth l).bind (nestAll? · l') := List.foldlM_append

/-- Where parentheses are closed that were opened, more of them can be open around. -/
private theorem nest?_add (more : Nat) (h : nest? depth x = some depth') :
    nest? (depth + more) x = some (depth' + more) := by
  rw [nest?] at h ⊢
  split at h
  · next opening =>
    rw [if_pos opening, ← Option.some.inj h]
    congr 1
    omega
  · next notOpening =>
    rw [if_neg notOpening]
    split at h
    · next closing =>
      by_cases empty : depth = 0
      · rw [if_pos empty] at h
        exact nomatch h
      · rw [if_neg empty] at h
        rw [if_pos closing, if_neg (by omega), ← Option.some.inj h]
        congr 1
        omega
    · next notClosing => rw [if_neg notClosing, Option.some.inj h]

/-- Where one parenthesis stays open, it need not have been opened. -/
theorem nest?_of_add_one (h : nest? (depth + 1) x = some (depth' + 1)) :
    nest? depth x = some depth' := by
  rw [nest?] at h ⊢
  split at h
  · next opening => rw [if_pos opening, Nat.succ.inj (Option.some.inj h)]
  · next notOpening =>
    rw [if_neg notOpening]
    split at h
    · next closing =>
      obtain rfl : depth = depth' + 1 := Option.some.inj h
      rw [if_pos closing, if_neg (Nat.succ_ne_zero depth'), Nat.add_sub_cancel]
    · next notClosing => rw [if_neg notClosing, Nat.succ.inj (Option.some.inj h)]

theorem nestAll?_add (more : Nat) (h : nestAll? depth l = some depth') :
    nestAll? (depth + more) l = some (depth' + more) := by
  induction l generalizing depth with
  | nil => rw [nestAll?_nil, Option.some.inj h]
  | cons x l ih =>
    rw [nestAll?_cons, Option.bind_eq_some_iff] at h
    obtain ⟨between, hx, hl⟩ := h
    rw [nestAll?_cons, nest?_add more hx, Option.bind_some, ih hl]

private theorem nest?_of_ne_plain {place : Place} {c : Char} (h : place ≠ .plain) :
    nest? depth (place, c) = some depth := by
  rw [nest?, if_neg fun opening ↦ h (congrArg Prod.fst opening),
    if_neg fun closing ↦ h (congrArg Prod.fst closing)]

theorem nestAll?_of_not_mem (hOpen : (.plain, '(') ∉ l) (hClose : (.plain, ')') ∉ l) :
    nestAll? depth l = some depth := by
  induction l with
  | nil => rfl
  | cons x l ih =>
    rw [List.mem_cons, not_or] at hOpen hClose
    rw [nestAll?_cons, nest?, if_neg (Ne.symm hOpen.1), if_neg (Ne.symm hClose.1),
      Option.bind_some, ih hOpen.2 hClose.2]

end Depth

namespace Context

/-- How many parentheses are open behind a text; nothing if one is closed that was not opened. -/
def depth? (ctx : Context) (cs : List Char) : Option Nat :=
  nestAll? 0 (ctx.places id .outside cs)

/-- The quotes of identifiers neither begin literals nor group. -/
structure QuotesOnly (ctx : Context) : Prop where
  /-- The opening quote. -/
  openQuote : ctx.openQuote ≠ '\'' ∧ ctx.openQuote ≠ '(' ∧ ctx.openQuote ≠ ')'
  /-- The closing quote. -/
  closeQuote : ctx.closeQuote ≠ '\'' ∧ ctx.closeQuote ≠ '(' ∧ ctx.closeQuote ≠ ')'

/-- What stands behind the text is in an identifier, behind a doubled closing quote in it. -/
def IsBehindDoubled (ctx : Context) (cs : List Char) : Prop :=
  ∃ before name, cs = before ++ ctx.closeQuote :: ctx.closeQuote :: name ∧
    ctx.after .outside before = .identifier ∧ ctx.closeQuote ∉ name

/-- Behind a doubled closing quote, identifiers have no character that begins something elsewhere:
neither a `'` nor an opening quote nor a parenthesis. -/
def PlainBehindDoubled (ctx : Context) (cs : List Char) : Prop :=
  ∀ front c back, cs = front ++ c :: back → ctx.IsBehindDoubled front →
    c ≠ '\'' ∧ c ≠ ctx.openQuote ∧ c ≠ '(' ∧ c ≠ ')'

/-- Behind a text, the scan is in what the text leaves unfinished, or it has left the identifier at
a doubled closing quote. -/
def Tracks (ctx : Context) (cs : List Char) (inside : Option Char) : Prop :=
  inside = ctx.pendingQuote (ctx.after .outside cs) ∨
    inside = none ∧ ctx.openQuote ≠ ctx.closeQuote ∧ ctx.IsBehindDoubled cs

variable {ctx : Context} {cs : List Char} {depth : Nat} {r : Region}

theorem QuotesOnly.isInert_parenthesis (hctx : ctx.QuotesOnly) :
    ctx.isInert '(' ∧ ctx.isInert ')' :=
  ⟨isInert_iff.mpr ⟨by decide, hctx.openQuote.2.1.symm, hctx.closeQuote.2.1.symm⟩,
    isInert_iff.mpr ⟨by decide, hctx.openQuote.2.2.symm, hctx.closeQuote.2.2.symm⟩⟩

/-! ## Behind doubled quotes -/

private theorem IsBehindDoubled.after_eq (h : ctx.IsBehindDoubled cs) :
    ctx.after .outside cs = .identifier := by
  obtain ⟨before, name, rfl, inside, plain⟩ := h
  have kept : ctx.after .identifier name = .identifier := by
    clear inside
    induction name with
    | nil => rfl
    | cons c name ih =>
      rw [List.mem_cons, not_or] at plain
      rw [after_cons, next, if_neg (Ne.symm plain.1), ih plain.2]
  rw [after_append, inside, after_cons, after_cons, next, if_pos rfl, next, if_pos rfl, kept]

private theorem IsBehindDoubled.concat (h : ctx.IsBehindDoubled cs) {c : Char}
    (hc : c ≠ ctx.closeQuote) : ctx.IsBehindDoubled (cs ++ [c]) := by
  obtain ⟨before, name, rfl, inside, plain⟩ := h
  refine ⟨before, name ++ [c], by simp, inside, ?_⟩
  rw [List.mem_append, List.mem_singleton, not_or]
  exact ⟨plain, Ne.symm hc⟩

private theorem exists_of_after_eq_closed (h : ctx.after .outside cs = .closed) :
    ∃ before, cs = before ++ [ctx.closeQuote] ∧ ctx.after .outside before = .identifier := by
  rcases List.eq_nil_or_concat cs with rfl | ⟨before, c, rfl⟩
  · exact nomatch h
  · rw [List.concat_eq_append, after_append] at h
    obtain ⟨inside, rfl⟩ := of_next_eq_closed h
    exact ⟨before, List.concat_eq_append, inside⟩

/-! ## The scan -/

/-- One step of the scan for the partner of a parenthesis, with `depth` others open, at a
character that no literal or identifier contains before it. -/
private theorem closesLast_cons_outside (c : Char) :
    Text.closesLast ctx.openQuote ctx.closeQuote (depth + 1) none (c :: cs) =
      match nest? depth (ctx.place .outside c, c) with
      | some depth' => Text.closesLast ctx.openQuote ctx.closeQuote (depth' + 1)
          (ctx.pendingQuote (ctx.next .outside c)) cs
      | none => cs.isEmpty := by
  rw [Text.closesLast, place, openedPlace, next, opened]
  by_cases hLiteral : c = '\''
  · rw [if_pos hLiteral, if_pos hLiteral, if_pos hLiteral, nest?_of_ne_plain (by decide)]
    rfl
  · rw [if_neg hLiteral, if_neg hLiteral, if_neg hLiteral]
    by_cases hOpen : c = ctx.openQuote
    · rw [if_pos hOpen, if_pos hOpen, if_pos hOpen, nest?_of_ne_plain (by decide)]
      rfl
    · rw [if_neg hOpen, if_neg hOpen, if_neg hOpen]
      by_cases opening : c = '('
      · subst opening
        rfl
      · by_cases closing : c = ')'
        · subst closing
          rw [if_neg opening, if_pos rfl]
          cases depth with
          | zero => rfl
          | succ depth => rfl
        · rw [if_neg opening, if_neg closing, nest?,
            if_neg fun h ↦ opening (congrArg Prod.snd h),
            if_neg fun h ↦ closing (congrArg Prod.snd h)]
          rfl

/-- One step of the scan where it is in what the text leaves unfinished: the partner is found where
the depth would fall below zero. The second of two closing quotes counts for the scan as an opening
one. -/
private theorem QuotesOnly.closesLast_cons (hctx : ctx.QuotesOnly) {c : Char}
    (single : ctx.openQuote = ctx.closeQuote ∨ ¬(r = .closed ∧ c = ctx.closeQuote)) :
    Text.closesLast ctx.openQuote ctx.closeQuote (depth + 1) (ctx.pendingQuote r) (c :: cs) =
      match nest? depth (ctx.place r c, c) with
      | some depth' => Text.closesLast ctx.openQuote ctx.closeQuote (depth' + 1)
          (ctx.pendingQuote (ctx.next r c)) cs
      | none => cs.isEmpty := by
  cases r with
  | outside => exact closesLast_cons_outside c
  | closed =>
    by_cases hClose : c = ctx.closeQuote
    · have same : ctx.openQuote = ctx.closeQuote := single.resolve_right fun h ↦ h ⟨rfl, hClose⟩
      have notLiteral : c ≠ '\'' := hClose ▸ hctx.closeQuote.1
      rw [pendingQuote, Text.closesLast, if_neg notLiteral, if_pos (hClose.trans same.symm),
        place, if_pos hClose, next, if_pos hClose, nest?_of_ne_plain (by decide)]
      rfl
    · rw [place_closed hClose, next_closed hClose]
      exact closesLast_cons_outside c
  | literal =>
    rw [pendingQuote, Text.closesLast, place, nest?_of_ne_plain (by decide), next]
    split <;> rfl
  | identifier =>
    rw [pendingQuote, Text.closesLast, place, nest?_of_ne_plain (by decide), next]
    split <;> rfl

/-- One step of the scan, wherever it is: it keeps track of the text. -/
private theorem Tracks.exists_step {front back : List Char} {c : Char} {inside : Option Char}
    (h : ctx.Tracks front inside) (depth : Nat) (hctx : ctx.QuotesOnly)
    (plain : ctx.openQuote = ctx.closeQuote ∨ ctx.PlainBehindDoubled (front ++ c :: back)) :
    ∃ inside', ctx.Tracks (front ++ [c]) inside' ∧
      Text.closesLast ctx.openQuote ctx.closeQuote (depth + 1) inside (c :: back) =
        match nest? depth (ctx.place (ctx.after .outside front) c, c) with
        | some depth' => Text.closesLast ctx.openQuote ctx.closeQuote (depth' + 1) inside' back
        | none => back.isEmpty := by
  have behind : ctx.after .outside (front ++ [c]) = ctx.next (ctx.after .outside front) c :=
    after_append front [c]
  -- with two different quotes the scan passes over what it reads as if it stood outside
  have passed (different : ctx.openQuote ≠ ctx.closeQuote) (hIn : inside = none)
      (hPlace : ctx.place (ctx.after .outside front) c = .inner)
      (hc : c ≠ '\'' ∧ c ≠ ctx.openQuote ∧ c ≠ '(' ∧ c ≠ ')') :
      Text.closesLast ctx.openQuote ctx.closeQuote (depth + 1) inside (c :: back) =
        match nest? depth (ctx.place (ctx.after .outside front) c, c) with
        | some depth' => Text.closesLast ctx.openQuote ctx.closeQuote (depth' + 1) none back
        | none => back.isEmpty := by
    rw [hPlace, nest?_of_ne_plain (by decide), hIn]
    exact PreparedSql.closesLast_cons hc.2.1 ⟨hc.1, hc.2.2⟩ _ _
  rcases h with rfl | ⟨hIn, different, doubled⟩
  · by_cases second : ctx.after .outside front = .closed ∧ c = ctx.closeQuote
    · by_cases same : ctx.openQuote = ctx.closeQuote
      · exact ⟨_, .inl (by rw [behind]), hctx.closesLast_cons (.inl same)⟩
      · -- the identifier goes on, and the scan has left it
        obtain ⟨closed, rfl⟩ := second
        obtain ⟨before, rfl, started⟩ := exists_of_after_eq_closed closed
        refine ⟨none, .inr ⟨rfl, same, before, [], by simp, started, by simp⟩, passed same ?_ ?_ ?_⟩
        · rw [closed]
          rfl
        · rw [closed, place, if_pos rfl]
        · exact ⟨hctx.closeQuote.1, Ne.symm same, hctx.closeQuote.2⟩
    · exact ⟨_, .inl (by rw [behind]), hctx.closesLast_cons (.inr second)⟩
  · have inner : ctx.place (ctx.after .outside front) c = .inner := by
      rw [doubled.after_eq]
      rfl
    have step := passed different hIn inner (plain.resolve_left different front c back rfl doubled)
    by_cases hClose : c = ctx.closeQuote
    · refine ⟨none, .inl ?_, step⟩
      rw [behind, doubled.after_eq, hClose, next, if_pos rfl]
      rfl
    · exact ⟨none, .inr ⟨rfl, different, doubled.concat hClose⟩, step⟩

/-- A parenthesis is closed only where no literal or identifier is left unfinished. -/
private theorem eq_nil_of_nest? {c : Char} (h : nest? depth (ctx.place r c, c) = none) :
    depth = 0 ∧ c = ')' ∧ r.isFree := by
  rw [nest?] at h
  split at h
  · exact nomatch h
  · split at h
    · next closing =>
      split at h
      · next empty =>
        refine ⟨empty, congrArg Prod.snd closing, ?_⟩
        have plain : ctx.place r c = .plain := congrArg Prod.fst closing
        cases r with
        | outside | closed => rfl
        | literal | identifier => exact nomatch plain
      · exact nomatch h
    · exact nomatch h

/-- The scan, with `depth` other parentheses open, succeeds if the last character closes its own
one: what stands before it closes the others and ends its literals and identifiers. -/
theorem Tracks.closesLast_iff {front back : List Char} {inside : Option Char}
    (h : ctx.Tracks front inside) (depth : Nat) (hctx : ctx.QuotesOnly)
    (plain : ctx.openQuote = ctx.closeQuote ∨ ctx.PlainBehindDoubled (front ++ back)) :
    Text.closesLast ctx.openQuote ctx.closeQuote (depth + 1) inside back ↔
      ∃ body, back = body ++ [')'] ∧ (ctx.after .outside (front ++ body)).isFree ∧
        nestAll? depth (ctx.places id (ctx.after .outside front) body) = some 0 := by
  induction back generalizing front inside depth with
  | nil =>
    refine iff_of_false ?_ ?_
    · cases inside <;> exact Bool.false_ne_true
    · rintro ⟨body, split, -⟩
      exact absurd split.symm (by simp)
  | cons c back ih =>
    obtain ⟨inside', tracks, step⟩ := h.exists_step depth hctx plain
    rw [step]
    cases hc : nest? depth (ctx.place (ctx.after .outside front) c, c) with
    | none =>
      obtain ⟨rfl, rfl, free⟩ := eq_nil_of_nest? hc
      constructor
      · intro last
        rw [List.isEmpty_iff.mp last]
        exact ⟨[], rfl, by rwa [List.append_nil], rfl⟩
      · rintro ⟨body, split, -, nested⟩
        cases body with
        | nil => exact List.isEmpty_iff.mpr (List.cons.inj split).2
        | cons d body =>
          obtain rfl : ')' = d := (List.cons.inj split).1
          rw [places_cons, nestAll?_cons, id, hc] at nested
          exact nomatch nested
    | some depth' =>
      rw [List.append_cons] at plain
      refine (ih tracks depth' plain).trans ?_
      constructor
      · rintro ⟨body, rfl, free, nested⟩
        refine ⟨c :: body, rfl, by rwa [List.append_cons], ?_⟩
        rw [after_append] at nested
        rw [places_cons, nestAll?_cons, id, hc]
        exact nested
      · rintro ⟨body, split, free, nested⟩
        cases body with
        | nil =>
          -- a parenthesis that is the last character and at the right depth ends the scan
          obtain rfl : c = ')' := (List.cons.inj split).1
          obtain rfl : depth = 0 := Option.some.inj nested
          rw [List.append_nil] at free
          rw [place_of_isInert free hctx.isInert_parenthesis.2] at hc
          exact nomatch hc
        | cons d body =>
          obtain ⟨rfl, rfl⟩ := List.cons.inj split
          rw [places_cons, nestAll?_cons, id, hc] at nested
          refine ⟨body, rfl, by rwa [← List.append_cons], ?_⟩
          rw [after_append]
          exact nested

end Context

end PreparedSql
