import PreparedSql.Proofs.Chain
import PreparedSql.Proofs.Enclosing

/-!
# What a join by a shared column refers to

A table is declared in a chain under its quoted alias, or under its quoted name if it has none. A
join by a shared column refers to two tables, the joined one and that of the entry before it. The
declaration quotes an alias as one name, but the reference quotes it in parts, as the beginning of a
qualified column. The two agree if and only if the separator does not occur in the alias.

The comparison of the columns is a group of one member, whose parentheses are removed in favour of
those of the join. They stay where a character that compiling writes between names is the quote: the
`=` of the comparison or a bare `*` then opens an identifier that ends elsewhere.

## Main definitions

* `TableName.declared`: the text that a table is declared under.
* `TableName.IsWhole`: the tables whose alias is one part.

## Main statements

* `not_mem_of_quotedPath_append`: an alias with the separator is not quoted alike in both ways.
* `fromTemplate_shared`: the SQL of a join by a shared column within its chain.
-/

namespace PreparedSql

/-! ## Declarations -/

namespace TableName

/-- The text that the table is declared under: its alias, quoted as one name, or its name. -/
def declared (ctx : Context) (t : TableName) : String :=
  match t.aliasName with
  | none => ctx.quotedPath t.name
  | some aliasName => ctx.quotedName aliasName

/-- The text that declares the table. An alias stands behind the name. -/
def declaration (ctx : Context) (t : TableName) : String :=
  match t.aliasName with
  | none => t.declared ctx
  | some _ => ctx.quotedPath t.name ++ " " ++ t.declared ctx

/-- The separator does not occur in the alias, if there is one. -/
def IsWhole (ctx : Context) (t : TableName) : Prop :=
  ∀ aliasName ∈ t.aliasName, ctx.separator ∉ aliasName.toList

instance (ctx : Context) (t : TableName) : Decidable (t.IsWhole ctx) := by
  unfold IsWhole
  infer_instance

theorem eq_declaration_of_sql {ctx : Context} {t : TableName} {s : String}
    (h : t.sql ctx = .ok s) : s = t.declaration ctx := by
  obtain ⟨name, aliasName⟩ := t
  obtain ⟨n, hName, h⟩ := exists_of_bind_eq_ok h
  obtain ⟨-, sameName⟩ := of_requireName_eq_ok hName
  cases aliasName with
  | none =>
    rw [← Except.ok.inj h, sameName]
    rfl
  | some a =>
    obtain ⟨k, hAlias, h⟩ := exists_of_bind_eq_ok h
    obtain ⟨-, sameAlias⟩ := of_requireName_eq_ok hAlias
    rw [← Except.ok.inj h, sameName, sameAlias]
    rfl

end TableName

/-- The table that an entry declares; raw SQL declares none. -/
def FromEntry.tableName? : FromEntry → Option TableName
  | table t => some t
  | raw _ => none
  | join j => some j.table

/-- The SQL of a chain ends in the declaration of a table, or in the condition behind it. -/
def EndsDeclaring (ctx : Context) (t : TableName) (sql : String) : Prop :=
  ∃ front, sql = front ++ t.declaration ctx ∨
    ∃ condition, sql = front ++ t.declaration ctx ++ " ON ( " ++ condition ++ " )"

theorem FromEntry.endsDeclaring_of_listed {ctx : Context} {e : FromEntry} {n : TableName}
    {t : Template} (he : e.tableName? = some n) (h : e.listed ctx = .ok t) :
    ∃ s, t = .ofString s ∧ s = n.declaration ctx := by
  cases e with
  | raw => exact nomatch he
  | join => exact nomatch h
  | table =>
    obtain rfl := Option.some.inj he
    obtain ⟨s, hs, h⟩ := exists_of_bind_eq_ok h
    exact ⟨s, (Except.ok.inj h).symm, TableName.eq_declaration_of_sql hs⟩

private theorem FromEntry.endsDeclaring_of_behind {ctx : Context} {p e : FromEntry} {n : TableName}
    {t : Template} (he : e.tableName? = some n) (h : p.behind ctx e = .ok t) (front : String) :
    EndsDeclaring ctx n (front ++ t.text) := by
  cases e with
  | raw => exact nomatch he
  | table =>
    obtain ⟨u, hu, h⟩ := exists_of_bind_eq_ok h
    obtain ⟨s, rfl, hs⟩ := FromEntry.endsDeclaring_of_listed he hu
    refine ⟨front ++ ", ", .inl ?_⟩
    rw [← Except.ok.inj h, Template.text_append, Template.text_ofString, Template.text_ofString,
      ← hs, String.append_assoc]
  | join j =>
    obtain rfl := Option.some.inj he
    obtain ⟨table, c, body, hTable, -, -, -, rfl⟩ := Join.exists_condition_of_behind_eq_ok h
    refine ⟨front ++ (" " ++ j.kind.keywords), .inr ⟨(body.stripEnclosing ctx).text, ?_⟩⟩
    rw [Template.text_append, Template.text_append, Template.text_ofString, Template.text_ofString,
      TableName.eq_declaration_of_sql hTable]
    simp only [String.append_assoc]

/-- The SQL of a chain whose last entry declares a table ends in the declaration, or in the
condition behind it. -/
private theorem endsDeclaring_of_fromTemplate {ctx : Context} {before : List FromEntry}
    {e : FromEntry} {n : TableName} {t : Template} (he : e.tableName? = some n)
    (h : fromTemplate ctx (before ++ [e]) = .ok t) : EndsDeclaring ctx n t.text := by
  cases eq : before.reverse with
  | nil =>
    rw [List.reverse_eq_nil_iff.mp eq] at h
    obtain ⟨u, hu, h⟩ := exists_of_bind_eq_ok h
    obtain ⟨rest, hRest, h⟩ := exists_of_bind_eq_ok h
    obtain ⟨s, rfl, hs⟩ := FromEntry.endsDeclaring_of_listed he hu
    obtain rfl : [] = rest := Except.ok.inj hRest
    refine ⟨"", .inl ?_⟩
    rw [← Except.ok.inj h, List.append_nil, Template.text_ofString, hs, String.empty_append]
  | cons p xs =>
    obtain rfl : before = xs.reverse ++ [p] := by
      rw [← List.reverse_reverse before, eq, List.reverse_cons]
    rw [List.append_assoc, List.singleton_append, fromTemplate_append] at h
    obtain ⟨front, hFront, h⟩ := exists_of_bind_eq_ok h
    obtain ⟨rest, hRest, h⟩ := exists_of_bind_eq_ok h
    obtain ⟨last, hLast, hRest⟩ := exists_of_bind_eq_ok hRest
    rw [← Except.ok.inj h, ← Except.ok.inj hRest, List.append_nil, Template.text_append]
    exact FromEntry.endsDeclaring_of_behind he hLast front.text

/-! ## References -/

section References

variable {ctx : Context}

private theorem intercalate_append {α : Type} {sep : List α} {xs ys : List (List α)} (hx : xs ≠ [])
    (hy : ys ≠ []) :
    sep.intercalate (xs ++ ys) = sep.intercalate xs ++ sep ++ sep.intercalate ys := by
  induction xs with
  | nil => exact absurd rfl hx
  | cons x xs ih =>
    cases xs with
    | nil => rw [List.singleton_append, List.intercalate_cons_of_ne_nil hy,
        List.intercalate_singleton, List.append_assoc]
    | cons x' xs =>
      rw [List.cons_append, List.cons_append, List.intercalate_cons_cons,
        List.intercalate_cons_cons, ← List.cons_append, ih (List.cons_ne_nil _ _)]
      simp only [List.append_assoc]

private theorem quotedPath_qualified (ctx : Context) (entry column : String) :
    ctx.quotedPath (qualified ctx entry column) =
      ctx.quotedPath entry ++ ctx.separator.toString ++ ctx.quotedPath column := by
  have parts (n : String) : (n.toList.splitOn ctx.separator).map ctx.quotedPart ≠ [] :=
    fun h ↦ List.splitOn_ne_nil _ _ (List.map_eq_nil_iff.mp h)
  rw [← String.toList_inj, String.toList_append, String.toList_append, Context.toList_quotedPath,
    Context.toList_quotedPath, Context.toList_quotedPath, splitOn_qualified, List.map_append,
    intercalate_append (parts _) (parts _), Char.toString, String.toList_singleton]

private theorem quotedPath_of_not_mem {name : String} (h : ctx.separator ∉ name.toList) :
    ctx.quotedPath name = ctx.quotedName name := by
  rw [← String.toList_inj, Context.toList_quotedPath, Context.toList_quotedName,
    List.splitOn_eq_singleton h, List.map_singleton, List.intercalate_singleton]

/-- A name in which the separator occurs does not begin alike when it is quoted in parts and when it
is quoted as one: where the first part ends, a quote or the bare `*` stands against the
separator. -/
theorem not_mem_of_quotedPath_append (hctx : ctx.Scannable) (same : ctx.openQuote = ctx.closeQuote)
    {name : String} {x y : List Char}
    (h : (ctx.quotedPath name).toList ++ x = (ctx.quotedName name).toList ++ y) :
    ctx.separator ∉ name.toList := by
  have notOpen := hctx.separator.1
  have notClose : ctx.separator ≠ ctx.closeQuote := same ▸ notOpen
  intro mem
  obtain ⟨part, rest, split, first⟩ := List.eq_append_cons_of_mem mem
  obtain ⟨z, hz⟩ : ∃ z, ctx.quotedPart part ++ ctx.separator :: z =
      ctx.quotedPart name.toList ++ y := by
    have parts := List.splitOn_ne_nil ctx.separator rest
    obtain ⟨second, others, hRest⟩ := List.exists_cons_of_ne_nil parts
    rw [Context.toList_quotedPath, Context.toList_quotedName, split,
      List.splitOn_append_cons_self_of_not_mem first, hRest, List.map_cons, List.map_cons,
      List.intercalate_cons_cons, ← split] at h
    exact ⟨_, by rw [← h]; simp only [List.append_assoc, List.cons_append]; rfl⟩
  by_cases whole : name.toList = ['*']
  · -- the separator is the `*`, so that the name has two empty parts
    have isStar : ctx.separator = '*' := List.mem_singleton.mp (whole ▸ mem)
    have empty : part = [] := by
      cases part with
      | nil => rfl
      | cons c part => rw [whole] at split; simp at split
    rw [whole, empty, Context.quotedPart, Context.quotedPart, if_neg (by decide), if_pos rfl] at hz
    exact notOpen (isStar.trans (List.cons.inj hz).1.symm)
  · rw [Context.quotedPart, Context.quotedPart, if_neg whole] at hz
    by_cases star : part = ['*']
    · rw [if_pos star, split, star] at hz
      obtain ⟨isOpen, hz⟩ := List.cons.inj hz
      have isClose : '*' = ctx.closeQuote := isOpen.trans same
      rw [Context.quotedBody, List.cons_append, List.flatMap_cons, if_pos isClose] at hz
      exact notClose (List.cons.inj hz).1
    · have body : ctx.quotedBody name.toList =
          ctx.quotedBody part ++ ctx.separator :: ctx.quotedBody rest := by
        rw [split, Context.quotedBody, List.flatMap_append, List.flatMap_cons, if_neg notClose]
        rfl
      rw [if_neg star, body] at hz
      simp only [List.append_assoc, List.cons_append, List.nil_append, List.cons.injEq, true_and,
        List.append_cancel_left_eq] at hz
      exact notClose hz.1.symm

/-- The comparison of a column in two tables, each referred to by a text. -/
def comparisonSql (ctx : Context) (current previous column : String) : String :=
  current ++ ctx.separator.toString ++ ctx.quotedPath column ++ " = " ++ previous ++
    ctx.separator.toString ++ ctx.quotedPath column

end References

/-! ## Joins by a shared column -/

section Shared

variable {ctx : Context} (hctx : ctx.Scannable) (current previous : String) {column : String}

/-- The comparison that a join by a shared column writes: both tables are referred to by their
exposed names, quoted in parts. -/
def referenceSql (ctx : Context) (current previous column : String) : String :=
  comparisonSql ctx (ctx.quotedPath current) (ctx.quotedPath previous) column

include hctx in
private theorem edged_referenceSql (column : String) :
    Edged (.ofString (referenceSql ctx current previous column)) := by
  have whole := (Edged.name hctx current).append (Edged.name hctx column)
    (.ofString (ctx.separator.toString ++ ctx.quotedPath column ++ " = " ++
      ctx.quotedPath previous ++ ctx.separator.toString))
  rw [← Template.ofString_append, ← Template.ofString_append] at whole
  rw [referenceSql, comparisonSql]
  simpa only [String.append_assoc] using whole

include hctx in
private theorem sharedColumnCondition_template_eq (said : Text.allBlank column = false) :
    (sharedColumnCondition ctx current previous column).template ctx =
      .ok (.ofString "( " ++ .ofString (referenceSql ctx current previous column) ++
        .ofString " )") := by
  have test : Template.ofString (ctx.quotedPath (qualified ctx current column) ++ " " ++
      Comparison.equal.operator ++ " ") ++
        Template.ofString (ctx.quotedPath (qualified ctx previous column)) =
      .ofString (referenceSql ctx current previous column) := by
    have operator : " " ++ Comparison.equal.operator ++ " " = " = " := by decide
    rw [← Template.ofString_append, quotedPath_qualified, quotedPath_qualified, referenceSql,
      comparisonSql, ← operator]
    simp only [String.append_assoc]
  have said' : Template.ofString (referenceSql ctx current previous column) ≠ [] :=
    (edged_referenceSql hctx current previous column).ne_nil
  rw [sharedColumnCondition, Condition.all, Column.compare, Condition.template,
    Condition.memberTemplates, Condition.template, if_neg (by rw [allBlank_qualified said]; decide),
    Test.template, Operand.template, test]
  change Except.ok (Connective.and.template (if List.isEmpty _ then [] else [_])) = _
  rw [if_neg (mt List.isEmpty_iff.mp said'), Connective.template, List.isEmpty_cons,
    if_neg (by decide), Template.join, List.intercalate_singleton]

/-- The quote is no character that is written between the names of a comparison: neither `=` nor,
if a name has it as a part, `*`. -/
def Context.QuotesApart (ctx : Context) (names : List String) : Prop :=
  ctx.openQuote ≠ '=' ∧
    ∀ n ∈ names, ['*'] ∈ n.toList.splitOn ctx.separator → '*' ≠ ctx.openQuote

instance (ctx : Context) (names : List String) : Decidable (ctx.QuotesApart names) := by
  unfold Context.QuotesApart
  infer_instance

include hctx in
private theorem passed_referenceSql (same : ctx.openQuote = ctx.closeQuote) (column : String)
    (apart : ctx.QuotesApart [current, previous, column]) :
    Passed ctx (.ofString (referenceSql ctx current previous column)) := by
  obtain ⟨notEqual, hStar⟩ := apart
  have name {n : String} (h : n ∈ [current, previous, column]) :
      Passed ctx (.ofString (ctx.quotedPath n)) := .quotedPath same hctx (hStar n h)
  have separator : Passed ctx (.ofString ctx.separator.toString) := by
    apply Passed.ofString
    intro c hc
    rw [Char.toString, String.toList_singleton, List.mem_singleton] at hc
    rw [hc]
    exact ⟨hctx.separator.1, hctx.separator.2⟩
  have equals : Passed ctx (.ofString " = ") := by
    apply Passed.ofString
    intro c hc
    have hc : c = ' ' ∨ c = '=' ∨ c = ' ' := by simpa using hc
    rcases hc with rfl | rfl | rfl
    · exact ⟨hctx.space_ne, by decide⟩
    · exact ⟨notEqual.symm, by decide⟩
    · exact ⟨hctx.space_ne, by decide⟩
  rw [referenceSql, comparisonSql]
  simp only [Template.ofString_append]
  have first := ((name (n := current) (by simp)).append separator).append
    (name (n := column) (by simp))
  have second := ((name (n := previous) (by simp)).append separator).append
    (name (n := column) (by simp))
  simpa only [List.append_assoc] using (first.append equals).append second

include hctx in
/-- The comparison starts with a quote or a bare `*`, and so not with a parenthesis. -/
private theorem not_isEnclosed_referenceSql (column : String) :
    ¬Text.isEnclosed Symbol.shown ctx.openQuote ctx.closeQuote
      (Template.ofString (referenceSql ctx current previous column)) := by
  intro enclosed
  obtain ⟨first, last, split, opens, -⟩ := Text.eq_cons_append_of_isEnclosed _ _ _ enclosed
  obtain ⟨c, cs, name, hc⟩ := quotedPath_eq_cons ctx current
  rw [referenceSql, comparisonSql] at split
  simp only [Template.ofString_append, List.append_assoc] at split
  rw [Template.ofString, name, List.map_cons, List.cons_append] at split
  rw [← (List.cons.inj split).1] at opens
  obtain rfl : c = '(' := opens
  rcases hc with star | quote
  · exact absurd star (by decide)
  · exact hctx.quote.2.1 quote.symm

include hctx in
/-- The comparison loses its parentheses or keeps them, and it loses them if the quote is not
written between names. -/
private theorem stripEnclosing_referenceSql (same : ctx.openQuote = ctx.closeQuote)
    (column : String) : ∃ body : String, (body = referenceSql ctx current previous column ∨
      body = "( " ++ referenceSql ctx current previous column ++ " )") ∧
      (ctx.QuotesApart [current, previous, column] →
        body = referenceSql ctx current previous column) ∧
      Template.stripEnclosing ctx (Template.ofString "( " ++
        Template.ofString (referenceSql ctx current previous column) ++ Template.ofString " )") =
          Template.ofString body := by
  have edged : Edged (Template.ofString (referenceSql ctx current previous column)) :=
    edged_referenceSql hctx current previous column
  have bare : ¬Text.isEnclosed Symbol.shown ctx.openQuote ctx.closeQuote
      (Template.ofString (referenceSql ctx current previous column)) :=
    not_isEnclosed_referenceSql hctx current previous column
  -- the quote may be written between names, and then the outer parentheses need not match
  by_cases outer : Text.isEnclosed Symbol.shown ctx.openQuote ctx.closeQuote
      (Template.ofString "( " ++ Template.ofString (referenceSql ctx current previous column) ++
        Template.ofString " )")
  · refine ⟨_, .inl rfl, fun _ ↦ rfl, ?_⟩
    rw [edged.stripEnclosing_of_isEnclosed outer, edged.stripEnclosing bare]
  · refine ⟨_, .inr rfl, ?_, ?_⟩
    · intro apart
      exact absurd ((passed_referenceSql hctx current previous same column apart).isEnclosed hctx)
        outer
    · rw [(Edged.enclosed _).stripEnclosing outer, Template.ofString_append,
        Template.ofString_append]

end Shared

/-! ## References and declarations -/

section Declarations

variable {ctx : Context} (hctx : ctx.Scannable) (same : ctx.openQuote = ctx.closeQuote)
  {t u : TableName} {column : String}

private theorem TableName.IsWhole.quotedPath_exposedName (h : t.IsWhole ctx) :
    ctx.quotedPath t.exposedName = t.declared ctx := by
  obtain ⟨name, _ | a⟩ := t
  · rfl
  · exact quotedPath_of_not_mem (h a rfl)

include hctx same in
/-- The reference to a table begins like the text that it is declared under only if its alias is one
part. -/
private theorem TableName.isWhole_of_append {x y : List Char}
    (h : (ctx.quotedPath t.exposedName).toList ++ x = (t.declared ctx).toList ++ y) :
    t.IsWhole ctx := by
  obtain ⟨name, _ | a⟩ := t
  · exact fun _ ha ↦ nomatch ha
  · intro b hb
    obtain rfl := Option.some.inj hb
    exact not_mem_of_quotedPath_append hctx same h

include hctx same in
private theorem referenceSql_eq_iff :
    referenceSql ctx t.exposedName u.exposedName column =
      comparisonSql ctx (t.declared ctx) (u.declared ctx) column ↔
        t.IsWhole ctx ∧ u.IsWhole ctx := by
  constructor
  · intro h
    rw [referenceSql, comparisonSql, comparisonSql, ← String.toList_inj] at h
    simp only [String.toList_append, List.append_assoc] at h
    have first : t.IsWhole ctx := TableName.isWhole_of_append hctx same h
    refine ⟨first, ?_⟩
    rw [first.quotedPath_exposedName] at h
    simp only [List.append_cancel_left_eq] at h
    exact TableName.isWhole_of_append hctx same h
  · rintro ⟨ht, hu⟩
    rw [referenceSql, ht.quotedPath_exposedName, hu.quotedPath_exposedName]

end Declarations

/-- **A join by a shared column refers to its neighbours.** In a chain that compiles, such a join
follows an entry that declares a table. Its condition compares the column in both tables, each by
its exposed name, quoted in parts; parentheses around the comparison are left only if the quote is
a character that is written between the names. The condition refers to both tables by the very texts
that they are declared under if and only if the separator occurs in neither of their aliases. -/
theorem fromTemplate_shared (ctx : Context) (hctx : ctx.Scannable)
    (same : ctx.openQuote = ctx.closeQuote) (before behind : List FromEntry) (previous : FromEntry)
    (join : Join) (column : String) (hJoin : join.rows = .shared column) (t : Template)
    (h : fromTemplate ctx (before ++ previous :: .join join :: behind) = .ok t) :
    ∃ neighbour front back body, previous.tableName? = some neighbour ∧
      fromTemplate ctx (before ++ [previous]) = .ok front ∧ EndsDeclaring ctx neighbour front.text ∧
      FromEntry.allBehind ctx (.join join) behind = .ok back ∧
      t.text = front.text ++ " " ++ join.kind.keywords ++ join.table.declaration ctx ++ " ON ( " ++
        body ++ " )" ++ back.text ∧
      (body = referenceSql ctx join.table.exposedName neighbour.exposedName column ∨
        body = "( " ++ referenceSql ctx join.table.exposedName neighbour.exposedName column ++
          " )") ∧
      (ctx.QuotesApart [join.table.exposedName, neighbour.exposedName, column] →
        (body = comparisonSql ctx (join.table.declared ctx) (neighbour.declared ctx) column ↔
          join.table.IsWhole ctx ∧ neighbour.IsWhole ctx)) := by
  rw [← List.singleton_append, ← List.append_assoc] at h
  obtain ⟨_, front, middle, back, last, hFront, hMiddle, hBack, rfl⟩ :=
    exists_of_fromTemplate_eq_ok h
  obtain rfl := Option.some.inj (List.getLast?_concat.symm.trans last)
  -- a join by a shared column does not follow raw SQL
  obtain ⟨neighbour, hNeighbour, exposed⟩ : ∃ n, previous.tableName? = some n ∧
      previous.exposedName = n.exposedName := by
    obtain ⟨table, kind, rows⟩ := join
    obtain rfl : rows = .shared column := hJoin
    cases previous with
    | table n => exact ⟨n, rfl, rfl⟩
    | raw => exact nomatch hMiddle
    | join j => exact ⟨j.table, rfl, rfl⟩
  obtain ⟨table, c, template, hTable, hc, -, hTemplate, rfl⟩ :=
    Join.exists_condition_of_behind_eq_ok hMiddle
  obtain ⟨said, rfl⟩ : Text.allBlank column = false ∧
      c = sharedColumnCondition ctx join.table.exposedName previous.exposedName column := by
    rw [Join.condition, hJoin] at hc
    obtain ⟨name, hName, hc⟩ := exists_of_bind_eq_ok hc
    obtain ⟨said, sameName⟩ := of_requireName_eq_ok hName
    rw [sameName] at hc
    exact ⟨said, (Except.ok.inj hc).symm⟩
  rw [sharedColumnCondition_template_eq hctx _ _ said, exposed] at hTemplate
  obtain ⟨body, kept, removed, hBody⟩ := stripEnclosing_referenceSql hctx join.table.exposedName
    neighbour.exposedName same column
  refine ⟨neighbour, front, back, body, hNeighbour, hFront,
    endsDeclaring_of_fromTemplate hNeighbour hFront, hBack, ?_, kept, ?_⟩
  · rw [← Except.ok.inj hTemplate, hBody, TableName.eq_declaration_of_sql hTable]
    simp only [Template.text_append, Template.text_ofString, String.append_assoc]
  · intro apart
    rw [removed apart]
    exact referenceSql_eq_iff hctx same

/-- A chain in the standard context whose aliases are one part each: the join refers to `x` and `y`
by what they are declared under. -/
theorem fromTemplate_shared_whole :
    let x : TableName := { name := "s.a", aliasName := some "x" }
    let y : TableName := { name := "b", aliasName := some "y" }
    ∃ t, fromTemplate .standard [.table x, .join { table := y, rows := .shared "id" }, .raw "u"] =
        .ok t ∧
      t.text = "\"s\".\"a\" \"x\" JOIN \"b\" \"y\" ON ( \"y\".\"id\" = \"x\".\"id\" ), u" := by
  intro x y
  have scannable : Context.standard.Scannable := ⟨by decide, by decide, by decide⟩
  obtain ⟨t, ht⟩ : ∃ t, fromTemplate .standard ([] ++ .table x ::
      .join { table := y, rows := .shared "id" } :: [.raw "u"]) = .ok t := by
    subst x y
    exact ⟨_, rfl⟩
  obtain ⟨neighbour, front, back, body, hNeighbour, hFront, -, hBack, text, -, refers⟩ :=
    fromTemplate_shared .standard scannable rfl _ _ _ _ "id" rfl t ht
  obtain rfl : x = neighbour := Option.some.inj hNeighbour
  refine ⟨t, ht, ?_⟩
  rw [text, (refers ⟨by decide, by decide⟩).mpr ⟨by decide, by decide⟩]
  subst x y
  cases hFront
  cases hBack
  decide

/-- The separator in an alias: `x.y` is declared as one name, but the join refers to its parts. -/
theorem exists_reference_ne_declaration :
    let a : TableName := { name := "a" }
    let b : TableName := { name := "b", aliasName := some "x.y" }
    ∃ t, fromTemplate .standard [.table a, .join { table := b, rows := .shared "id" }] = .ok t ∧
      t.text = "\"a\" JOIN \"b\" \"x.y\" ON ( \"x\".\"y\".\"id\" = \"a\".\"id\" )" ∧
      t.text ≠ a.declaration .standard ++ " JOIN " ++ b.declaration .standard ++ " ON ( " ++
        comparisonSql .standard (b.declared .standard) (a.declared .standard) "id" ++ " )" := by
  intro a b
  have scannable : Context.standard.Scannable := ⟨by decide, by decide, by decide⟩
  obtain ⟨body, -, removed, hBody⟩ := stripEnclosing_referenceSql scannable "x.y" "a" rfl "id"
  rw [removed ⟨by decide, by decide⟩] at hBody
  have compiled : fromTemplate .standard [.table a, .join { table := b, rows := .shared "id" }] =
      .ok (.ofString "\"a\"" ++ (.ofString " JOIN \"b\" \"x.y\" ON ( " ++
        Template.stripEnclosing .standard (.ofString "( " ++
          .ofString (referenceSql .standard "x.y" "a" "id") ++ .ofString " )") ++
            .ofString " )" ++ [])) := by
    subst a b
    rfl
  rw [hBody] at compiled
  exact ⟨_, compiled, by decide, by decide⟩

end PreparedSql
