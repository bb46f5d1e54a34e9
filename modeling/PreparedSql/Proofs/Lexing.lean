import PreparedSql.Context.Basic
import PreparedSql.Template
import PreparedSql.Text.Blank

/-!
# Tokens of a condition

The SQL of a condition is a sequence of words, symbols, paths and placeholders. The lexer reads it
from left to right, one character at a time, and knows nothing of how conditions are compiled. It is
in a mode that says what it has read of the current lexeme; a character either continues the lexeme
or ends it and starts afresh.

A path is a sequence of parts with separators between them. A part is a `*` or stands between
quotes, where a doubled closing quote stands for one. It stands for the name with just these parts:
a part between quotes that has a separator in it belongs to no name.

What a placeholder is bound to is not in the text. The placeholders take their bindings from a list,
in the order of the text.

## Main definitions

* `Context.lex`: the lexemes of a text.
* `Context.nameOf?`: the name that a path stands for.
* `Context.tokens`: the tokens of a text whose placeholders have bindings.
* `Spells`: a template whose text and bindings have given tokens.

## Main statements

* `Spells.tokens_text`: the tokens of a template that spells them.
* `Spells.quotedPath`: a quoted name is one token, whatever the name.
-/

namespace PreparedSql

/-- A part of a path. -/
inductive PathPart where
  /-- All columns. -/
  | all
  /-- What stands between quotes. -/
  | quoted (text : List Char)
  deriving DecidableEq, Repr

/-- What the text of a condition consists of. -/
inductive Lexeme where
  /-- A keyword or a number. -/
  | word (text : String)
  /-- An operator or punctuation. -/
  | symbol (text : String)
  /-- The parts of a name, without their quotes. -/
  | path (parts : List PathPart)
  /-- A placeholder. -/
  | placeholder
  deriving DecidableEq, Repr

/-- What the SQL of a condition consists of. -/
inductive Token where
  /-- A keyword or a number. -/
  | word (text : String)
  /-- An operator or punctuation. -/
  | symbol (text : String)
  /-- A name. -/
  | name (name : String)
  /-- A placeholder. -/
  | placeholder (binding : Binding)
  deriving DecidableEq, Repr

def Token.binding? : Token → Option Binding
  | placeholder b => some b
  | _ => none

/-- What has been read of the current lexeme. -/
inductive LexMode where
  /-- Nothing. -/
  | idle
  /-- The start of a word. -/
  | word (text : List Char)
  /-- The start of an operator. -/
  | operator (text : List Char)
  /-- Parts of a path, and the start of a quoted one. -/
  | inside (front : List PathPart) (part : List Char)
  /-- Parts of a path, and a quoted one up to a closing quote. -/
  | closed (front : List PathPart) (part : List Char)
  /-- Parts of a path, the last of them a `*`. -/
  | starred (parts : List PathPart)
  /-- Parts of a path, and a separator. -/
  | separated (front : List PathPart)
  deriving DecidableEq, Repr

/-- The characters of operators. -/
def Text.isOperator (c : Char) : Bool := ['=', '!', '<', '>'].contains c

/-- The lexeme that ends in a mode, if one can end there. -/
def LexMode.finish : LexMode → Option (List Lexeme)
  | idle => some []
  | word text => some [.word (.ofList text)]
  | operator text => some [.symbol (.ofList text)]
  | closed front part => some [.path (front ++ [.quoted part])]
  | starred parts => some [.path parts]
  | inside _ _ | separated _ => none

namespace Context

variable (ctx : Context)

/-- The mode behind a character that continues the current lexeme. -/
def continues : LexMode → Char → Option LexMode
  | .idle, _ => none
  | .word text, c => if c.isAlphanum then some (.word (text ++ [c])) else none
  | .operator text, c => if Text.isOperator c then some (.operator (text ++ [c])) else none
  | .inside front part, c =>
    some (if c = ctx.closeQuote then .closed front part else .inside front (part ++ [c]))
  | .closed front part, c =>
    if c = ctx.closeQuote then some (.inside front (part ++ [c]))
    else if c = ctx.separator then some (.separated (front ++ [.quoted part]))
    else none
  | .starred parts, c => if c = ctx.separator then some (.separated parts) else none
  | .separated front, c =>
    if c = '*' then some (.starred (front ++ [.all]))
    else if c = ctx.openQuote then some (.inside front [])
    else none

/-- The lexeme that a character is, and the mode behind it, when no other lexeme is being read. -/
def starts (c : Char) : Option (List Lexeme × LexMode) :=
  if Text.isBlank c then some ([], .idle)
  else if c.isAlphanum then some ([], .word [c])
  else if Text.isOperator c then some ([], .operator [c])
  else if c = '(' ∨ c = ')' ∨ c = ',' then some ([.symbol c.toString], .idle)
  else if c = '?' then some ([.placeholder], .idle)
  else if c = '*' then some ([], .starred [.all])
  else if c = ctx.openQuote then some ([], .inside [] [])
  else none

/-- The lexemes that end with a character, and the mode behind it. -/
def lexStep (m : LexMode) (c : Char) : Option (List Lexeme × LexMode) :=
  match ctx.continues m c with
  | some m => some ([], m)
  | none => do
    let ks ← m.finish
    let (ls, m) ← ctx.starts c
    return (ks ++ ls, m)

/-- The lexemes that end in a text, and the mode behind it. -/
def lexFrom : LexMode → List Char → Option (List Lexeme × LexMode)
  | m, [] => some ([], m)
  | m, c :: cs => do
    let (ks, m) ← ctx.lexStep m c
    let (ls, m) ← lexFrom m cs
    return (ks ++ ls, m)

def lex (sql : String) : Option (List Lexeme) := do
  let (ks, m) ← ctx.lexFrom .idle sql.toList
  return ks ++ (← m.finish)

end Context

/-! ## Tokens of lexemes -/

namespace PathPart

def text : PathPart → List Char
  | all => ['*']
  | quoted text => text

/-- The part with the given characters, as a name has it. -/
def ofText (text : List Char) : PathPart := if text = ['*'] then all else quoted text

private theorem text_ofText (cs : List Char) : (ofText cs).text = cs := by
  rw [ofText]
  split
  · next star => exact star.symm
  · rfl

end PathPart

namespace Context

variable (ctx : Context)

/-- The parts of a name. -/
def pathParts (name : String) : List PathPart :=
  (name.toList.splitOn ctx.separator).map PathPart.ofText

/-- The name with the given parts, if there is one. -/
def nameOf? (parts : List PathPart) : Option String :=
  let name := String.ofList ([ctx.separator].intercalate (parts.map PathPart.text))
  if ctx.pathParts name = parts then some name else none

/-- Gives the paths their names and the placeholders their bindings, in order and with none left
over. -/
def bindTokens : List Lexeme → List Binding → Option (List Token)
  | [], [] => some []
  | [], _ :: _ => none
  | .word text :: ks, bs => do return .word text :: (← bindTokens ks bs)
  | .symbol text :: ks, bs => do return .symbol text :: (← bindTokens ks bs)
  | .path parts :: ks, bs => do return .name (← ctx.nameOf? parts) :: (← bindTokens ks bs)
  | .placeholder :: _, [] => none
  | .placeholder :: ks, b :: bs => do return .placeholder b :: (← bindTokens ks bs)

/-- The tokens of a text whose placeholders have bindings. -/
def tokens (sql : String) (bindings : List Binding) : Option (List Token) := do
  ctx.bindTokens (← ctx.lex sql) bindings

/-- The token as it stands in the text. -/
def lexeme : Token → Lexeme
  | .word text => .word text
  | .symbol text => .symbol text
  | .name n => .path (ctx.pathParts n)
  | .placeholder _ => .placeholder

theorem nameOf?_pathParts (name : String) : ctx.nameOf? (ctx.pathParts name) = some name := by
  have text : (ctx.pathParts name).map PathPart.text = name.toList.splitOn ctx.separator := by
    rw [pathParts, List.map_map]
    exact (List.map_congr_left fun part _ ↦ PathPart.text_ofText part).trans (List.map_id _)
  rw [nameOf?, text, List.intercalate_splitOn, String.ofList_toList, if_pos rfl]

theorem bindTokens_lexeme (ks : List Token) :
    ctx.bindTokens (ks.map ctx.lexeme) (ks.filterMap Token.binding?) = some ks := by
  induction ks with
  | nil => rfl
  | cons k ks ih =>
    have rest (k : Token) : (do return k :: (← ctx.bindTokens (ks.map ctx.lexeme)
        (ks.filterMap Token.binding?))) = some (k :: ks) := by
      rw [ih]
      rfl
    rw [List.map_cons]
    cases k with
    | word => rw [lexeme, bindTokens]; exact rest _
    | symbol => rw [lexeme, bindTokens]; exact rest _
    | name n => rw [lexeme, bindTokens, nameOf?_pathParts]; exact rest _
    | placeholder b => exact rest _

end Context

/-! ## Reading two texts after each other -/

section LexFrom

variable {ctx : Context} {m m' m'' : LexMode} {cs ds : List Char} {ks ls : List Lexeme}

theorem lexFrom_append (h : ctx.lexFrom m cs = some (ks, m'))
    (h' : ctx.lexFrom m' ds = some (ls, m'')) :
    ctx.lexFrom m (cs ++ ds) = some (ks ++ ls, m'') := by
  induction cs generalizing m ks with
  | nil =>
    rw [Context.lexFrom, Option.some.injEq, Prod.mk.injEq] at h
    rw [← h.1, h.2]
    exact h'
  | cons c cs ih =>
    rw [Context.lexFrom] at h
    obtain ⟨⟨first, m₁⟩, hStep, h⟩ := Option.bind_eq_some_iff.mp h
    obtain ⟨⟨rest, m₂⟩, hRest, h⟩ := Option.bind_eq_some_iff.mp h
    rw [Option.pure_def, Option.some.injEq, Prod.mk.injEq] at h
    obtain ⟨rfl, rfl⟩ := h
    rw [List.cons_append, Context.lexFrom, hStep]
    exact (congrArg (· >>= _) (ih hRest)).trans (by rw [List.append_assoc]; rfl)

private theorem lexFrom_cons {c : Char} (h : ctx.lexStep m c = some (ks, m')) :
    ctx.lexFrom m (c :: cs) = (ctx.lexFrom m' cs).map fun r ↦ (ks ++ r.1, r.2) := by
  rw [Context.lexFrom, h]
  change (ctx.lexFrom m' cs >>= fun r ↦ pure (ks ++ r.1, r.2)) = _
  cases ctx.lexFrom m' cs <;> rfl

private theorem lexFrom_of_continues {c : Char} (h : ctx.continues m c = some m') :
    ctx.lexFrom m (c :: cs) = ctx.lexFrom m' cs := by
  rw [Context.lexFrom, Context.lexStep, h]
  exact bind_pure (m := Option) _

end LexFrom

/-! ## Quoted names -/

/-- The characters that a condition is written with besides names. -/
def Text.isReserved (c : Char) : Bool :=
  isBlank c || c.isAlphanum || isOperator c || ['(', ')', ',', '*', '?', '\''].contains c

/-- Neither a quote nor the separator is one of the characters that conditions are written with, and
the separator is no quote. -/
structure Context.Legible (ctx : Context) : Prop where
  /-- The opening quote is a character of its own. -/
  openQuote : Text.isReserved ctx.openQuote = false
  /-- The closing quote is a character of its own. -/
  closeQuote : Text.isReserved ctx.closeQuote = false
  /-- The separator is a character of its own. -/
  separator : Text.isReserved ctx.separator = false
  /-- The separator is no quote. -/
  separator_ne : ctx.separator ≠ ctx.openQuote ∧ ctx.separator ≠ ctx.closeQuote

/-- The mode behind a path. -/
def LexMode.EndsPath (m : LexMode) (parts : List PathPart) : Prop :=
  m = .starred parts ∨ ∃ front part, m = .closed front part ∧ parts = front ++ [.quoted part]

private theorem LexMode.EndsPath.finish {m : LexMode} {parts : List PathPart} (h : m.EndsPath parts)
    : m.finish = some [.path parts] := by
  rcases h with rfl | ⟨front, part, rfl, rfl⟩ <;> rfl

section Names

variable {ctx : Context}

private theorem lexFrom_quotedBody (front : List PathPart) (start part : List Char) :
    ctx.lexFrom (.inside front start) (ctx.quotedBody part) =
      some ([], .inside front (start ++ part)) := by
  induction part generalizing start with
  | nil => rw [List.append_nil]; rfl
  | cons c part ih =>
    rw [Context.quotedBody, List.flatMap_cons, ← Context.quotedBody]
    by_cases hc : c = ctx.closeQuote
    · -- two closing quotes are read as one, and the part goes on
      have closed : ctx.continues (.inside front start) ctx.closeQuote =
          some (.closed front start) := by
        rw [Context.continues, if_pos rfl]
      have doubled : ctx.continues (.closed front start) ctx.closeQuote =
          some (.inside front (start ++ [ctx.closeQuote])) := by
        rw [Context.continues, if_pos rfl]
      rw [if_pos hc, hc, List.cons_append, List.singleton_append, lexFrom_of_continues closed,
        lexFrom_of_continues doubled, ih, List.append_assoc, List.singleton_append]
    · have kept : ctx.continues (.inside front start) c = some (.inside front (start ++ [c])) := by
        rw [Context.continues, if_neg hc]
      rw [if_neg hc, List.singleton_append, lexFrom_of_continues kept, ih, List.append_assoc,
        List.singleton_append]

theorem Context.Legible.openQuote_ne (hctx : ctx.Legible) {c : Char} (h : Text.isReserved c) :
    c ≠ ctx.openQuote := by
  rintro rfl
  exact absurd h (Bool.eq_false_iff.mp hctx.openQuote)

theorem Context.Legible.closeQuote_ne (hctx : ctx.Legible) {c : Char} (h : Text.isReserved c) :
    c ≠ ctx.closeQuote := by
  rintro rfl
  exact absurd h (Bool.eq_false_iff.mp hctx.closeQuote)

theorem Context.Legible.separator_ne_of_isReserved (hctx : ctx.Legible) {c : Char}
    (h : Text.isReserved c) : c ≠ ctx.separator := by
  rintro rfl
  exact absurd h (Bool.eq_false_iff.mp hctx.separator)

theorem Context.Legible.lexFrom_quotedPart (hctx : ctx.Legible) (front : List PathPart)
    (part : List Char) :
    ∃ m, ctx.lexFrom (.separated front) (ctx.quotedPart part) = some ([], m) ∧
      m.EndsPath (front ++ [.ofText part]) := by
  rw [quotedPart]
  by_cases hStar : part = ['*']
  · rw [if_pos hStar, hStar]
    exact ⟨_, rfl, .inl rfl⟩
  · have opened : ctx.continues (.separated front) ctx.openQuote = some (.inside front []) := by
      rw [continues, if_neg (hctx.openQuote_ne (by decide)).symm, if_pos rfl]
    have closed : ctx.continues (.inside front part) ctx.closeQuote =
        some (.closed front part) := by
      rw [continues, if_pos rfl]
    have ended : ctx.lexFrom (.inside front part) [ctx.closeQuote] =
        some ([], .closed front part) := lexFrom_of_continues closed
    refine ⟨.closed front part, ?_, .inr ⟨front, part, rfl, ?_⟩⟩
    · rw [if_neg hStar, List.append_assoc, List.singleton_append, lexFrom_of_continues opened]
      exact lexFrom_append (lexFrom_quotedBody front [] part) ended
    · rw [PathPart.ofText, if_neg hStar]

private theorem LexMode.EndsPath.continues (hctx : ctx.Legible) {m : LexMode}
    {parts : List PathPart}
    (h : m.EndsPath parts) : ctx.continues m ctx.separator = some (.separated parts) := by
  rcases h with rfl | ⟨front, part, rfl, rfl⟩
  · rw [Context.continues, if_pos rfl]
  · rw [Context.continues, if_neg hctx.separator_ne.2, if_pos rfl]

theorem Context.Legible.lexFrom_quotedParts (hctx : ctx.Legible) (parts : List (List Char))
    (hne : parts ≠ []) (front : List PathPart) :
    ∃ m, ctx.lexFrom (.separated front)
        ([ctx.separator].intercalate (parts.map ctx.quotedPart)) = some ([], m) ∧
      m.EndsPath (front ++ parts.map PathPart.ofText) := by
  induction parts generalizing front with
  | nil => exact absurd rfl hne
  | cons part parts ih =>
    obtain ⟨m, hm, ends⟩ := hctx.lexFrom_quotedPart front part
    cases parts with
    | nil => exact ⟨m, by rwa [List.map_singleton, List.intercalate_singleton], ends⟩
    | cons second parts =>
      obtain ⟨m', hm', ends'⟩ := ih (List.cons_ne_nil second parts)
        (front ++ [.ofText part])
      -- only a separator can follow a part, and only a part can follow a separator
      have rest : ctx.lexFrom m ([ctx.separator] ++
          [ctx.separator].intercalate ((second :: parts).map ctx.quotedPart)) = some ([], m') := by
        rw [List.singleton_append, lexFrom_of_continues (ends.continues hctx)]
        exact hm'
      refine ⟨m', ?_, ?_⟩
      · rw [List.map_cons, List.map_cons, List.intercalate_cons_cons, List.append_assoc]
        exact lexFrom_append hm rest
      · rw [List.append_assoc] at ends'
        exact ends'

private theorem Context.Legible.starts_openQuote (hctx : ctx.Legible) :
    ctx.starts ctx.openQuote = some ([], .inside [] []) := by
  have free := hctx.openQuote
  simp only [Text.isReserved, Bool.or_eq_false_iff] at free
  have ne {c : Char} (h : Text.isReserved c) : ctx.openQuote ≠ c := (hctx.openQuote_ne h).symm
  rw [starts, if_neg (Bool.eq_false_iff.mp free.1.1.1), if_neg (Bool.eq_false_iff.mp free.1.1.2),
    if_neg (Bool.eq_false_iff.mp free.1.2), if_neg ?_, if_neg (ne (by decide)),
    if_neg (ne (by decide)), if_pos rfl]
  rintro (h | h | h)
  · exact ne (by decide) h
  · exact ne (by decide) h
  · exact ne (by decide) h

/-- A path starts like one of its parts. -/
private theorem Context.Legible.lexStep_idle (hctx : ctx.Legible) {c : Char}
    (h : c = '*' ∨ c = ctx.openQuote) : ctx.lexStep .idle c = ctx.lexStep (.separated []) c := by
  rcases h with rfl | rfl
  · rfl
  · have idle : ctx.lexStep .idle ctx.openQuote = some ([], .inside [] []) := by
      rw [lexStep, continues, LexMode.finish, hctx.starts_openQuote]
      rfl
    rw [idle, lexStep, continues, if_neg (hctx.openQuote_ne (by decide)).symm, if_pos rfl]

private theorem quotedPart_eq_cons (ctx : Context) (part : List Char) :
    ∃ c cs, ctx.quotedPart part = c :: cs ∧ (c = '*' ∨ c = ctx.openQuote) := by
  rw [Context.quotedPart]
  split
  · next h => exact ⟨'*', [], h, .inl rfl⟩
  · exact ⟨_, _, rfl, .inr rfl⟩

theorem quotedPath_eq_cons (ctx : Context) (name : String) :
    ∃ c cs, (ctx.quotedPath name).toList = c :: cs ∧ (c = '*' ∨ c = ctx.openQuote) := by
  rw [Context.toList_quotedPath]
  obtain ⟨part, parts, split⟩ := List.exists_cons_of_ne_nil
    (List.splitOn_ne_nil ctx.separator name.toList)
  obtain ⟨c, cs, first, h⟩ := quotedPart_eq_cons ctx part
  rw [split]
  cases parts with
  | nil => exact ⟨c, cs, by rw [List.map_singleton, List.intercalate_singleton, first], h⟩
  | cons second parts =>
    rw [List.map_cons, List.map_cons, List.intercalate_cons_cons, first]
    exact ⟨c, _, rfl, h⟩

theorem Context.Legible.lexFrom_quotedPath (hctx : ctx.Legible) (name : String) :
    ∃ m, ctx.lexFrom .idle (ctx.quotedPath name).toList = some ([], m) ∧
      m.EndsPath (ctx.pathParts name) := by
  obtain ⟨c, cs, first, h⟩ := quotedPath_eq_cons ctx name
  obtain ⟨m, hm, ends⟩ := hctx.lexFrom_quotedParts (name.toList.splitOn ctx.separator)
    (List.splitOn_ne_nil _ _) []
  rw [← toList_quotedPath, first] at hm
  refine ⟨m, ?_, ends⟩
  rw [first, lexFrom, hctx.lexStep_idle h]
  exact hm

end Names

/-! ## Templates that spell tokens -/

/-- Reading a template ends tokens and leads to a mode. -/
structure Reaches (ctx : Context) (t : Template) (ks : List Token) (m : LexMode) : Prop where
  /-- Reading the text ends the tokens. -/
  text : ctx.lexFrom .idle (t.map Symbol.shown) = some (ks.map ctx.lexeme, m)
  /-- The bindings are those of the tokens. -/
  bindings : t.bindings = ks.filterMap Token.binding?

/-- A template that consists of the given tokens; the last one may end with the template, if it is
no placeholder. -/
def Spells (ctx : Context) (t : Template) (ks : List Token) : Prop :=
  ∃ ls m last, Reaches ctx t ls m ∧ m.finish = some (last.map ctx.lexeme) ∧
    last.filterMap Token.binding? = [] ∧ ks = ls ++ last

section Spells

variable {ctx : Context} {t u : Template} {ks ls : List Token} {m : LexMode}

theorem Reaches.append (h : Reaches ctx t ks .idle) (h' : Reaches ctx u ls m) :
    Reaches ctx (t ++ u) (ks ++ ls) m := by
  constructor
  · rw [List.map_append, List.map_append]
    exact lexFrom_append h.text h'.text
  · rw [Template.bindings_append, List.filterMap_append, h.bindings, h'.bindings]

theorem Reaches.spells (h : Reaches ctx t ks m) (last : List Token)
    (hm : m.finish = some (last.map ctx.lexeme)) (unbound : last.filterMap Token.binding? = []) :
    Spells ctx t (ks ++ last) := ⟨ks, m, last, h, hm, unbound, rfl⟩

theorem Reaches.append_spells (h : Reaches ctx t ks .idle) (h' : Spells ctx u ls) :
    Spells ctx (t ++ u) (ks ++ ls) := by
  obtain ⟨ls, m, last, hu, hm, unbound, rfl⟩ := h'
  rw [← List.append_assoc]
  exact (h.append hu).spells last hm unbound

private theorem Context.Legible.lexStep_of_finish (hctx : ctx.Legible) {last : List Lexeme}
    (hm : m.finish = some last) {c : Char} (hc : c = ' ' ∨ c = ',') :
    ctx.lexStep m c = (ctx.starts c).map fun r ↦ (last ++ r.1, r.2) := by
  have reserved : Text.isReserved c := by rcases hc with rfl | rfl <;> decide
  -- no lexeme goes on with a space or a comma, unless it is a path that is not at its end
  have ended : ctx.continues m c = none := by
    cases m with
    | idle => rfl
    | word => rcases hc with rfl | rfl <;> rfl
    | operator => rcases hc with rfl | rfl <;> rfl
    | inside => exact nomatch hm
    | closed =>
      rw [continues, if_neg (hctx.closeQuote_ne reserved),
        if_neg (hctx.separator_ne_of_isReserved reserved)]
    | starred => rw [continues, if_neg (hctx.separator_ne_of_isReserved reserved)]
    | separated => exact nomatch hm
  rw [lexStep, ended, hm]
  cases ctx.starts c <;> rfl

private theorem Context.Legible.lexFrom_of_finish (hctx : ctx.Legible) {last : List Lexeme}
    (hm : m.finish = some last) {c : Char} (hc : c = ' ' ∨ c = ',') {cs : List Char}
    {ks : List Lexeme} {m' : LexMode} (h : ctx.lexFrom .idle (c :: cs) = some (ks, m')) :
    ctx.lexFrom m (c :: cs) = some (last ++ ks, m') := by
  cases hStart : ctx.starts c with
  | none =>
    have stuck : ctx.lexStep .idle c = none := by
      rw [hctx.lexStep_of_finish rfl hc, hStart, Option.map_none]
    rw [lexFrom, stuck] at h
    exact nomatch h
  | some r =>
    have fresh : ctx.lexStep .idle c = some ([] ++ r.1, r.2) := by
      rw [hctx.lexStep_of_finish rfl hc, hStart, Option.map_some]
    have ended : ctx.lexStep m c = some (last ++ r.1, r.2) := by
      rw [hctx.lexStep_of_finish hm hc, hStart, Option.map_some]
    rw [lexFrom_cons fresh] at h
    obtain ⟨rest, hRest, h⟩ := Option.map_eq_some_iff.mp h
    rw [Prod.mk.injEq, List.nil_append] at h
    rw [lexFrom_cons ended, hRest, Option.map_some, ← h.1, ← h.2, List.append_assoc]

theorem Spells.append_reaches (hctx : ctx.Legible) (h : Spells ctx t ks) (hu : Reaches ctx u ls m)
    (hc : u.head? = some (.char ' ') ∨ u.head? = some (.char ',')) :
    Reaches ctx (t ++ u) (ks ++ ls) m := by
  obtain ⟨ks, m₁, last, ht, hm, unbound, rfl⟩ := h
  obtain ⟨c, u, rfl, hBreak⟩ : ∃ c u', u = .char c :: u' ∧ (c = ' ' ∨ c = ',') := by
    rcases hc with hc | hc
    · obtain ⟨u', rfl⟩ := List.head?_eq_some_iff.mp hc
      exact ⟨' ', u', rfl, .inl rfl⟩
    · obtain ⟨u', rfl⟩ := List.head?_eq_some_iff.mp hc
      exact ⟨',', u', rfl, .inr rfl⟩
  constructor
  · rw [List.map_append, List.map_append, List.map_append, List.append_assoc]
    exact lexFrom_append ht.text (hctx.lexFrom_of_finish hm hBreak hu.text)
  · rw [Template.bindings_append, List.filterMap_append, List.filterMap_append, unbound,
      List.append_nil, ht.bindings, hu.bindings]

/-- The tokens of a template are read from its text and its bindings. -/
theorem Spells.tokens_text (h : Spells ctx t ks) : ctx.tokens t.text t.bindings = some ks := by
  obtain ⟨ls, m, last, ht, hm, unbound, rfl⟩ := h
  have lexed : ctx.lex t.text = some ((ls ++ last).map ctx.lexeme) := by
    rw [Context.lex, Template.toList_text, ht.text, List.map_append]
    exact congrArg (· >>= _) hm
  have bindings : t.bindings = (ls ++ last).filterMap Token.binding? := by
    rw [List.filterMap_append, unbound, List.append_nil, ht.bindings]
  rw [Context.tokens, lexed, bindings]
  exact ctx.bindTokens_lexeme _

theorem Reaches.placeholder (b : Binding) :
    Reaches ctx (.placeholder b) [.placeholder b] .idle := ⟨rfl, rfl⟩

/-- A quoted name is one token, whatever the name. -/
theorem Spells.quotedPath (hctx : ctx.Legible) (n : String) :
    Spells ctx (.ofString (ctx.quotedPath n)) [.name n] := by
  obtain ⟨m, hm, ends⟩ := hctx.lexFrom_quotedPath n
  have reached : Reaches ctx (.ofString (ctx.quotedPath n)) [] m := by
    refine ⟨?_, Template.bindings_ofString _⟩
    rw [← Template.toList_text, Template.text_ofString]
    exact hm
  exact reached.spells [.name n] ends.finish rfl

/-- Two parts are a name. One part with a separator in it is none. -/
example : Context.standard.tokens "\"u\".\"id\"" [] = some [.name "u.id"] ∧
    Context.standard.tokens "\"u.id\"" [] = none := by decide +kernel

end Spells

end PreparedSql
