import PreparedSql.Context.Basic

/-!
# Quoted names are read back

A reader that knows nothing of how names are quoted finds the parts of a name again, and what
follows the name stays unread. A part is a `*`, or it stands between quotes and ends at the first
closing quote that is not doubled. So no name reaches beyond its quotes, and different names are
quoted differently.

The character behind a name must not be taken for more of it: a closing quote would continue the
last part, a separator begin another one. For the same reason the separator cannot be the closing
quote, and a `*` has to be told from an opening quote.

## Main definitions

* `Text.readDoubled?`: the text up to a quote that is not doubled.
* `Context.readPart?`, `Context.readPath?`: a part of a name, and a qualified name.

## Main statements

* `Context.read_quoted`: quoted names are read back.
-/

namespace PreparedSql

/-! ## The reader -/

/-- The text up to the first quote that is not doubled, where a doubled quote stands for one, and
what is behind it. There is none if no quote ends the text. -/
def Text.readDoubled? (quote : Char) : List Char → Option (List Char × List Char)
  | [] => none
  | c :: rest =>
    if c = quote then
      match rest with
      | [] => some ([], [])
      | d :: rest =>
        if d = quote then (readDoubled? quote rest).map (Prod.map (quote :: ·) id)
        else some ([], d :: rest)
    else (readDoubled? quote rest).map (Prod.map (c :: ·) id)

theorem Text.length_of_readDoubled? {quote : Char} {cs text rest : List Char}
    (h : readDoubled? quote cs = some (text, rest)) : rest.length < cs.length := by
  have continued {c : Char} {cs text : List Char}
      (h : (readDoubled? quote cs).map (Prod.map (c :: ·) id) = some (text, rest)) :
      ∃ text, readDoubled? quote cs = some (text, rest) := by
    obtain ⟨⟨text, _⟩, read, same⟩ := Option.map_eq_some_iff.mp h
    exact ⟨text, (Prod.mk.inj same).2 ▸ read⟩
  fun_induction readDoubled? quote cs generalizing text with
  | case1 => exact nomatch h
  | case2 =>
    obtain ⟨-, rfl⟩ := Prod.mk.inj (Option.some.inj h)
    exact Nat.zero_lt_one
  | case3 cs ih =>
    obtain ⟨_, read⟩ := continued h
    exact Nat.lt_add_right 2 (ih read)
  | case4 d cs single =>
    obtain ⟨-, rfl⟩ := Prod.mk.inj (Option.some.inj h)
    exact Nat.lt_add_one _
  | case5 c cs other ih =>
    obtain ⟨_, read⟩ := continued h
    exact Nat.lt_add_right 1 (ih read)

/-- A text in which each quote is doubled is read to its end, unless a quote follows the one behind
it. -/
theorem Text.readDoubled?_flatMap (quote : Char) (text : List Char) {rest : List Char}
    (hRest : rest.head? ≠ some quote) :
    readDoubled? quote (text.flatMap (fun c ↦ if c = quote then [quote, c] else [c]) ++
      quote :: rest) = some (text, rest) := by
  induction text with
  | nil =>
    rw [List.flatMap_nil, List.nil_append, readDoubled?.eq_def]
    cases rest with
    | nil => simp
    | cons d rest =>
      have single : d ≠ quote := fun h ↦ hRest (congrArg some h)
      simp [single]
  | cons c text ih =>
    rw [List.flatMap_cons, List.append_assoc]
    by_cases hc : c = quote
    · -- of the two quotes in the text one is read
      rw [if_pos hc, hc, List.cons_append, List.singleton_append, readDoubled?.eq_def]
      simp only [if_pos, ih]
      rfl
    · rw [if_neg hc, List.singleton_append, readDoubled?.eq_def]
      simp only [if_neg hc, ih]
      rfl

namespace Context

def readPart? (ctx : Context) : List Char → Option (List Char × List Char)
  | [] => none
  | c :: rest =>
    if c = '*' then some (['*'], rest)
    else if c = ctx.openQuote then Text.readDoubled? ctx.closeQuote rest
    else none

theorem length_of_readPart? {ctx : Context} {cs part rest : List Char}
    (h : ctx.readPart? cs = some (part, rest)) : rest.length < cs.length := by
  cases cs with
  | nil => cases h
  | cons c cs =>
    rw [readPart?] at h
    split at h
    · obtain ⟨rfl, rfl⟩ := Prod.mk.inj (Option.some.inj h)
      exact Nat.lt_add_one _
    · split at h
      · exact Nat.lt_add_right 1 (Text.length_of_readDoubled? h)
      · cases h

/-- The parts of a qualified name, without their quotes, and what is behind them. -/
def readPath? (ctx : Context) (cs : List Char) : Option (List (List Char) × List Char) :=
  match _read : ctx.readPart? cs with
  | none => none
  | some (part, []) => some ([part], [])
  | some (part, c :: rest) =>
    if c = ctx.separator then (readPath? ctx rest).map (Prod.map (part :: ·) id)
    else some ([part], c :: rest)
termination_by cs.length
decreasing_by exact Nat.lt_of_succ_lt (length_of_readPart? _read)

/-! ## Reading what is quoted -/

variable {ctx : Context}

private theorem readDoubled?_quotedBody (part : List Char) {rest : List Char}
    (hRest : rest.head? ≠ some ctx.closeQuote) :
    Text.readDoubled? ctx.closeQuote (ctx.quotedBody part ++ ctx.closeQuote :: rest) =
      some (part, rest) := Text.readDoubled?_flatMap ctx.closeQuote part hRest

theorem readPart?_quotedPart (hStar : ctx.openQuote ≠ '*') (part : List Char) {rest : List Char}
    (hRest : rest.head? ≠ some ctx.closeQuote) :
    ctx.readPart? (ctx.quotedPart part ++ rest) = some (part, rest) := by
  rw [quotedPart]
  split
  · next isStar => rw [isStar, List.singleton_append, readPart?, if_pos rfl]
  · rw [List.append_assoc, List.append_assoc, List.singleton_append, List.singleton_append,
      readPart?, if_neg hStar, if_pos rfl, readDoubled?_quotedBody part hRest]

/-- The parts of a qualified name are read back, unless what follows them continues the name. -/
private theorem readPath?_intercalate (hStar : ctx.openQuote ≠ '*')
    (hSeparator : ctx.closeQuote ≠ ctx.separator) {parts : List (List Char)} (hne : parts ≠ [])
    {rest : List Char} (hClose : rest.head? ≠ some ctx.closeQuote)
    (hRest : rest.head? ≠ some ctx.separator) :
    ctx.readPath? ([ctx.separator].intercalate (parts.map ctx.quotedPart) ++ rest) =
      some (parts, rest) := by
  induction parts with
  | nil => exact absurd rfl hne
  | cons part parts ih =>
    cases parts with
    | nil =>
      rw [List.map_singleton, List.intercalate_singleton, readPath?,
        readPart?_quotedPart hStar part hClose]
      cases rest with
      | nil => rfl
      | cons c rest => exact if_neg fun h ↦ hRest (congrArg some h)
    | cons second parts =>
      have ih := ih (List.cons_ne_nil _ _)
      have behind : (ctx.separator :: ([ctx.separator].intercalate
          ((second :: parts).map ctx.quotedPart) ++ rest)).head? ≠ some ctx.closeQuote :=
        fun h ↦ hSeparator (Option.some.inj h).symm
      rw [List.map_cons, List.map_cons, List.intercalate_cons_cons, List.append_assoc,
        List.append_assoc, List.singleton_append, ← List.map_cons, readPath?,
        readPart?_quotedPart hStar part behind]
      simp only [if_pos, ih]
      rfl

/-- **Quoted names are read back.** A name that is quoted as a single part is read as that part, and
a qualified name as the parts between its separators; what follows is left as it is. Different names
are therefore quoted differently. -/
theorem read_quoted (ctx : Context) (hSeparator : ctx.closeQuote ≠ ctx.separator)
    (hStar : ctx.openQuote ≠ '*') :
    (∀ (name : String) (rest : List Char), rest.head? ≠ some ctx.closeQuote →
      ctx.readPart? ((ctx.quotedName name).toList ++ rest) = some (name.toList, rest) ∧
      (rest.head? ≠ some ctx.separator →
        ctx.readPath? ((ctx.quotedPath name).toList ++ rest) =
          some (name.toList.splitOn ctx.separator, rest))) ∧
    Function.Injective ctx.quotedName ∧ Function.Injective ctx.quotedPath := by
  have readBack (name : String) (rest : List Char) (hClose : rest.head? ≠ some ctx.closeQuote) :
      ctx.readPart? ((ctx.quotedName name).toList ++ rest) = some (name.toList, rest) ∧
      (rest.head? ≠ some ctx.separator →
        ctx.readPath? ((ctx.quotedPath name).toList ++ rest) =
          some (name.toList.splitOn ctx.separator, rest)) := by
    rw [toList_quotedName, toList_quotedPath]
    exact ⟨readPart?_quotedPart hStar _ hClose,
      readPath?_intercalate hStar hSeparator (List.splitOn_ne_nil _ _) hClose⟩
  refine ⟨readBack, fun name name' same ↦ ?_, fun name name' same ↦ ?_⟩
  · have read := (readBack name [] nofun).1
    rw [same, (readBack name' [] nofun).1] at read
    exact String.toList_inj.mp (Prod.mk.inj (Option.some.inj read)).1.symm
  · have read := (readBack name [] nofun).2 nofun
    rw [same, (readBack name' [] nofun).2 nofun] at read
    have parts := (Prod.mk.inj (Option.some.inj read)).1
    rw [← String.toList_inj, ← @List.intercalate_splitOn _ name.toList, ← parts,
      List.intercalate_splitOn]

/-- The name has a separator, both quotes and an empty part, and what follows it looks like the
start of another one. -/
theorem read_quoted_brackets :
    let ctx : Context := { Context.standard with openQuote := '[', closeQuote := ']' }
    ctx.readPath? ((ctx.quotedPath "a]..]]*.*").toList ++ "[b]".toList) =
      some (["a]".toList, [], "]]*".toList, ['*']], "[b]".toList) := by
  intro ctx
  have read := ((read_quoted ctx (by decide) (by decide)).1 "a]..]]*.*" "[b]".toList
    (by decide +kernel)).2 (by decide +kernel)
  rw [read]
  decide +kernel

end Context

end PreparedSql
