import PreparedSql.Proofs.Correspondence
import PreparedSql.Proofs.Outcome

/-!
# Statements with marks for their bindings

A text can stand in for each binding of a statement. Operands are spelled before the statement is
compiled: raw SQL takes the place of a placeholder, so none is left. The cells of an insertion and
the window of a selection cannot be raw SQL, but what is written around them is fixed, and their
text is written out.

The template of the statement with spelled operands says the same: what is still bound in it are the
cells and the window, and the marks for these stand where they are written out.

## Main definitions

* `Statement.spelled`: the text of a statement in which marks stand for the bindings.

## Main statements

* `Statement.spelled_eq_ok`: what is spelled is the template with the marks for what is bound.
-/

namespace PreparedSql

/-! ## Templates with marks -/

namespace Template

@[simp] theorem render_append (mark : Binding → List Char) (t u : Template) :
    (t ++ u).render mark = t.render mark ++ u.render mark := List.flatMap_append

theorem render_cons (mark : Binding → List Char) (s : Symbol) (t : Template) :
    render mark (s :: t) = render mark [s] ++ t.render mark := render_append mark [s] t

@[simp] theorem render_char (mark : Binding → List Char) (c : Char) :
    render mark [.char c] = [c] := rfl

@[simp] theorem render_placeholder (mark : Binding → List Char) (b : Binding) :
    render mark (placeholder b) = mark b := List.append_nil _

@[simp] theorem render_ofString (mark : Binding → List Char) (s : String) :
    (ofString s).render mark = s.toList := by
  rw [render, ofString, List.flatMap_map]
  exact List.flatMap_singleton' _

private theorem render_of_bindings_eq_nil (mark : Binding → List Char) {t : Template}
    (h : t.bindings = []) : t.render mark = t.text.toList := by
  rw [toList_text]
  induction t with
  | nil => rfl
  | cons s t ih =>
    cases s with
    | char c => rw [render_cons, ih h, List.map_cons, render_char, List.singleton_append]; rfl
    | placeholder b => exact nomatch h

theorem render_join (mark : Binding → List Char) (between : String) (ts : List Template) :
    (join between ts).render mark = between.toList.intercalate (ts.map (render mark)) := by
  induction ts with
  | nil => rfl
  | cons t ts ih =>
    cases ts with
    | nil => rw [join, List.map_singleton, List.intercalate_singleton, List.intercalate_singleton]
    | cons u ts =>
      rw [List.map_cons, List.map_cons, List.intercalate_cons_cons, ← List.map_cons, ← ih, join,
        List.intercalate_cons_cons, render_append, render_append, render_ofString]
      rfl

end Template

/-! ## Spelling -/

/-- The operand as raw SQL that spells its binding. -/
def Operand.inlined (ρ : Binding → String) : Operand → Operand
  | placeholder b => raw (ρ b)
  | column name => column name
  | raw sql => raw sql

/-- The selection without its window. -/
def Select.bare (s : Select) : Select := { s with limit := none, offset := none }

/-- A query with its window, `ρ b` standing for a binding `b`. -/
def spelledWindow (ρ : Binding → String) (ctx : Context) (limit offset : Option Binding)
    (query : String) : String :=
  match limit, ctx.limitStyle, offset with
  | none, _, _ => query
  | some limit, .offset, none | some limit, .xy, none => query ++ " LIMIT " ++ ρ limit
  | some limit, .offset, some skipped => query ++ " LIMIT " ++ ρ limit ++ " OFFSET " ++ ρ skipped
  | some limit, .xy, some skipped => query ++ " LIMIT " ++ ρ skipped ++ ", " ++ ρ limit
  | some limit, .rownum, offset =>
    let skipped := ρ (offset.getD (.value (.int 0)))
    "SELECT * FROM ( SELECT " ++ ctx.quotedName "A" ++ ".*, ROWNUM " ++ ctx.quotedName "r" ++
      " FROM ( " ++ query ++ " ) " ++ ctx.quotedName "A" ++ " WHERE ROWNUM <= " ++ ρ limit ++
      " + " ++ skipped ++ " ) " ++ ctx.quotedName "B" ++ " WHERE " ++ ctx.quotedName "r" ++
      " > " ++ skipped

/-- A row with `ρ b` in the cell of a binding `b`. -/
def spelledRow (ρ : Binding → String) (row : List Binding) : String :=
  "( " ++ ", ".intercalate (row.map ρ) ++ " )"

/-- An insertion with `ρ b` in the cell of a binding `b`. -/
def Insert.spelled (ρ : Binding → String) (ctx : Context) (s : Insert) : String :=
  "INSERT INTO " ++ ctx.quotedPath s.table ++ " ( " ++
    ", ".intercalate (s.columns.map ctx.quotedPath) ++ " ) VALUES " ++
    ", ".intercalate (s.rows.map (spelledRow ρ))

namespace Statement

/-- The text of a statement whose operands are spelled before it is compiled. -/
def recompiled (ρ : Binding → String) (ctx : Context) (s : Statement) :
    Except CompileError String := do
  return (← (s.rewrite (Operand.inlined ρ) id).compile ctx).sql

/-- The text of a statement in which `ρ b` stands for a binding `b`. Cells and windows are written
out, and everything else is compiled. -/
def spelled (ρ : Binding → String) (ctx : Context) : Statement → Except CompileError String
  | select s => do
    let query ← (select s.bare).recompiled ρ ctx
    return spelledWindow ρ ctx s.limit s.offset query
  | insert s => .ok (s.spelled ρ ctx)
  | update s => (update s).recompiled ρ ctx
  | delete s => (delete s).recompiled ρ ctx

end Statement

/-! ## What is still bound -/

section Bindings

variable {g : Operand → Operand}

theorem Operand.bindings_inlined (ρ : Binding → String) (o : Operand) :
    (o.inlined ρ).bindings = [] := by
  cases o <;> rfl

private theorem Test.bindings_mapOperands (hg : ∀ o, (g o).bindings = []) (t : Test) :
    (t.mapOperands g).bindings = [] := by
  cases t with
  | compare c o => exact hg o
  | isIn negated os =>
    rw [mapOperands, bindings, List.flatMap_map, List.flatMap_eq_nil_iff]
    exact fun o _ ↦ hg o
  | between negated low high => rw [mapOperands, bindings, hg, hg, List.append_nil]
  | isNull negated => rfl

mutual

private theorem Condition.bindings_mapOperands (hg : ∀ o, (g o).bindings = []) :
    ∀ c : Condition, (c.mapOperands g).bindings = []
  | .test _ t => t.bindings_mapOperands hg
  | .group _ cs => Condition.allBindings_mapAllOperands hg cs
  | .raw _ => rfl
termination_by structural c => c

private theorem Condition.allBindings_mapAllOperands (hg : ∀ o, (g o).bindings = []) :
    ∀ cs : List Condition, Condition.allBindings (Condition.mapAllOperands g cs) = []
  | [] => rfl
  | c :: cs => by
    rw [Condition.mapAllOperands, Condition.allBindings, Condition.bindings_mapOperands hg c,
      Condition.allBindings_mapAllOperands hg cs, List.append_nil]
termination_by structural cs => cs

end

private theorem filterBindings_mapOperands (hg : ∀ o, (g o).bindings = [])
    (filter : Option Condition) : filterBindings (filter.map (Condition.mapOperands g)) = [] := by
  cases filter with
  | none => rfl
  | some c => exact (List.append_nil _).trans (c.bindings_mapOperands hg)

private theorem FromEntry.bindings_mapOperands (hg : ∀ o, (g o).bindings = []) (e : FromEntry) :
    (e.mapOperands g).bindings = [] := by
  cases e with
  | table | raw => rfl
  | join j =>
    obtain ⟨t, kind, rows⟩ := j
    cases rows with
    | onCondition c => exact filterBindings_mapOperands hg (some c)
    | shared => rfl

/-- Only cells and windows keep their bindings when no operand does. -/
private theorem Statement.bindings_rewrite (hg : ∀ o, (g o).bindings = []) {s : Statement}
    (hs : ∀ i, s ≠ .insert i) : (s.rewrite g id).bindings = [] := by
  cases s with
  | insert i => exact absurd rfl (hs i)
  | select s =>
    rw [rewrite, bindings, filterBindings_mapOperands hg, List.append_nil, List.flatMap_map,
      List.flatMap_eq_nil_iff]
    exact fun e _ ↦ e.bindings_mapOperands hg
  | update s =>
    rw [rewrite, bindings, filterBindings_mapOperands hg, List.append_nil, List.flatMap_map,
      List.flatMap_eq_nil_iff]
    exact fun a _ ↦ hg a.2
  | delete s => exact filterBindings_mapOperands hg s.filter

end Bindings

/-! ## The template of what is spelled -/

section Render

variable {ctx : Context} {ρ : Binding → String}

theorem Select.template_eq_ok {s : Select} {t : Template} (h : s.template ctx = .ok t) :
    ∃ u, s.bare.template ctx = .ok u ∧ t = (window ctx s.limit s.offset).around u := by
  have bare : s.bare.unlimited ctx = s.unlimited ctx := rfl
  rw [template] at h ⊢
  rw [bare]
  cases hu : s.unlimited ctx with
  | error e =>
    rw [hu] at h
    exact nomatch h
  | ok u =>
    rw [hu] at h
    exact ⟨u, congrArg Except.ok (List.append_nil u), (Except.ok.inj h).symm⟩

private theorem render_window (limit offset : Option Binding) (t : Template) {query : String}
    (h : (t.render fun b ↦ (ρ b).toList) = query.toList) :
    (((window ctx limit offset).around t).render fun b ↦ (ρ b).toList) =
      (spelledWindow ρ ctx limit offset query).toList := by
  cases limit with
  | none => simp [window, Enclosure.around, Enclosure.none, spelledWindow, h]
  | some limit =>
    rw [window]
    cases style : ctx.limitStyle with
    | offset => cases offset <;> simp [offsetWindow, Enclosure.around, spelledWindow, style, h]
    | xy => cases offset <;> simp [xyWindow, Enclosure.around, spelledWindow, style, h]
    | rownum => simp [rownumWindow, Enclosure.around, spelledWindow, style, h]

private theorem Insert.render_rowTemplate (row : List Binding) :
    ((rowTemplate row).render fun b ↦ (ρ b).toList) = (spelledRow ρ row).toList := by
  simp [rowTemplate, spelledRow, Template.render_join, String.toList_intercalate,
    Function.comp_def]

private theorem Insert.render_template {s : Insert} {t : Template} (h : s.template ctx = .ok t) :
    (t.render fun b ↦ (ρ b).toList) = (s.spelled ρ ctx).toList := by
  have rows : s.rows.map ((Template.render fun b ↦ (ρ b).toList) ∘ rowTemplate) =
      s.rows.map (String.toList ∘ spelledRow ρ) :=
    List.map_congr_left fun row _ ↦ render_rowTemplate row
  rw [(s.outcome_template ctx).of_eq_ok h, Template.render_append, Template.render_join,
    Template.render_ofString, List.map_map, rows, ← List.map_map, ← String.toList_intercalate,
    ← String.toList_append]
  rfl

namespace Statement

/-- Recompiling leaves no placeholder where there are neither cells nor a window. -/
private theorem recompiled_eq_ok {s : Statement} {t : Template} (hs : ∀ i, s ≠ .insert i)
    (hWindow : (s.rewrite (Operand.inlined ρ) id).windowBindings ctx.limitStyle = [])
    (h : (s.rewrite (Operand.inlined ρ) id).template ctx = .ok t) :
    s.recompiled ρ ctx = .ok (.ofList (t.render fun b ↦ (ρ b).toList)) := by
  have unbound : t.bindings = [] := by
    rw [((s.rewrite _ id).outcome_template ctx).of_eq_ok h, hWindow, List.append_nil]
    exact bindings_rewrite (Operand.bindings_inlined ρ) hs
  rw [recompiled, compile_eq_ok_iff.mpr ⟨t, h, rfl⟩, Template.render_of_bindings_eq_nil _ unbound,
    String.ofList_toList]
  rfl

/-- What is spelled is the text of the template with the marks for what is still bound. -/
theorem spelled_eq_ok {s : Statement} {t : Template}
    (h : (s.rewrite (Operand.inlined ρ) id).template ctx = .ok t) :
    s.spelled ρ ctx = .ok (.ofList (t.render fun b ↦ (ρ b).toList)) := by
  cases s with
  | select s =>
    obtain ⟨u, hu, rfl⟩ := Select.template_eq_ok h
    have query : (select s.bare).recompiled ρ ctx = .ok (.ofList (u.render fun b ↦ (ρ b).toList)) :=
      recompiled_eq_ok (by simp) rfl hu
    rw [spelled, query, Option.map_id_fun, id, id, render_window _ _ u String.toList_ofList.symm,
      String.ofList_toList]
    rfl
  | insert s =>
    have same : (insert s).rewrite (Operand.inlined ρ) id = insert s := by
      rw [rewrite, List.map_id_fun, List.map_id]
    rw [same] at h
    rw [spelled, Insert.render_template h, String.ofList_toList]
  | update s => exact recompiled_eq_ok (by simp) rfl h
  | delete s => exact recompiled_eq_ok (by simp) rfl h

end Statement

end Render

end PreparedSql
