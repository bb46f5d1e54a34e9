import PreparedSql.Proofs.Chain
import PreparedSql.Proofs.Spelling

/-!
# What compiled conditions say

A condition without raw SQL says a formula, unless all of its groups are empty: empty groups are
left out wherever they stand, and a test against an empty list is a constant. The SQL of the
condition is read as this formula, and the bindings of the placeholders are where they belong.

The condition of a join loses the parentheses around it. What is left is read as the formula without
the groups of one member around it.

## Main definitions

* `Condition.denoted`: the formula that a condition says.

## Main statements

* `Condition.written_template`: the SQL of a condition is that of its formula.
* `Condition.read_compiled`: the SQL of a condition is read as its formula.
-/

namespace PreparedSql

/-! ## The formula of a condition -/

namespace Condition

mutual

/-- What a condition says, if it says anything. -/
def denoted : Condition → Option Formula
  | test _ (.isIn negated []) => some (.constant negated)
  | test column t => some (.test column t)
  | group k members =>
    match allDenoted members with
    | [] => none
    | f :: fs => some (.grouped k (f :: fs))
  | raw _ => none
termination_by structural condition => condition

/-- What those conditions say that say anything. -/
def allDenoted : List Condition → List Formula
  | [] => []
  | member :: rest =>
    match denoted member with
    | none => allDenoted rest
    | some f => f :: allDenoted rest
termination_by structural members => members

end

-- both inductions are over the nesting of groups, on a condition and on the members of a group
mutual

theorem denoted_eq_none : ∀ c : Condition, c.raws = [] → (c.denoted = none ↔ c.isEmpty)
  | .test _ (.isIn _ []), _ => iff_of_false (fun h ↦ nomatch h) Bool.false_ne_true
  | .test _ (.isIn _ (_ :: _)), _ => iff_of_false (fun h ↦ nomatch h) Bool.false_ne_true
  | .test _ (.compare _ _), _ => iff_of_false (fun h ↦ nomatch h) Bool.false_ne_true
  | .test _ (.between _ _ _), _ => iff_of_false (fun h ↦ nomatch h) Bool.false_ne_true
  | .test _ (.isNull _), _ => iff_of_false (fun h ↦ nomatch h) Bool.false_ne_true
  | .group _ members, hRaw => by
    rw [isEmpty, ← allDenoted_eq_nil members hRaw, denoted]
    cases allDenoted members with
    | nil => exact iff_of_true rfl rfl
    | cons => exact iff_of_false (fun h ↦ nomatch h) (List.cons_ne_nil _ _)
  | .raw _, hRaw => nomatch hRaw

theorem allDenoted_eq_nil : ∀ cs : List Condition, allRaws cs = [] →
    (allDenoted cs = [] ↔ allEmpty cs)
  | [], _ => iff_of_true rfl rfl
  | c :: cs, hRaw => by
    obtain ⟨hFirst, hRest⟩ := List.append_eq_nil_iff.mp hRaw
    rw [allEmpty, Bool.and_eq_true, ← denoted_eq_none c hFirst, ← allDenoted_eq_nil cs hRest,
      allDenoted]
    cases c.denoted with
    | none => rw [eq_self, true_and]
    | some f => exact iff_of_false (List.cons_ne_nil _ _) fun h ↦ nomatch h.1

end

/-! ## The SQL of a condition -/

/-- A template that is the SQL of what a condition says. -/
inductive Written (ctx : Context) : Template → Option Formula → Prop
  | nothing : Written ctx [] none
  | something {t : Template} {f : Formula} (h : Writing ctx t f) : Written ctx t (some f)

private theorem written_test {ctx : Context} (hctx : ctx.Legible) (column : String) {x : Test}
    (hRaw : x.raws = []) :
    Written ctx (x.template ctx (ctx.quotedPath column)) (denoted (.test column x)) := by
  by_cases hItems : ∃ negated, x = .isIn negated []
  · obtain ⟨negated, rfl⟩ := hItems
    exact .something (.constant hctx negated)
  · have same : denoted (.test column x) = some (.test column x) := by
      rw [denoted]
      intro negated h
      exact hItems ⟨negated, h⟩
    rw [same]
    exact .something (.test hctx column hRaw fun negated h ↦ hItems ⟨negated, h⟩)

mutual

/-- The SQL of a condition is that of its formula, and there is none if it says nothing. -/
theorem written_template {ctx : Context} (hctx : ctx.Legible) : ∀ (c : Condition) (t : Template),
    c.raws = [] → c.template ctx = .ok t → Written ctx t c.denoted
  | .test column x, t, hRaw, ht => by
    rw [template] at ht
    split at ht
    · exact nomatch ht
    · rw [← Except.ok.inj ht]
      exact written_test hctx column hRaw
  | .group k members, t, hRaw, ht => by
    obtain ⟨ts, hts, ht⟩ := exists_of_bind_eq_ok ht
    have parts := writing_memberTemplates hctx members ts hRaw hts
    rw [← Except.ok.inj ht, denoted]
    cases hMembers : allDenoted members with
    | nil =>
      rw [hMembers, List.forall₂_nil_right_iff] at parts
      rw [parts]
      exact .nothing
    | cons f fs =>
      rw [hMembers] at parts
      cases parts with
      | cons first rest =>
        exact .something (.group hctx k (List.cons_ne_nil _ _) (.cons first rest))
  | .raw _, _, hRaw, _ => nomatch hRaw

theorem writing_memberTemplates {ctx : Context} (hctx : ctx.Legible) :
    ∀ (cs : List Condition) (ts : List Template), allRaws cs = [] →
      memberTemplates ctx cs = .ok ts → List.Forall₂ (Writing ctx) ts (allDenoted cs)
  | [], ts, _, hts => by
    rw [← Except.ok.inj hts]
    exact .nil
  | c :: cs, ts, hRaw, hts => by
    obtain ⟨hFirst, hRest⟩ := List.append_eq_nil_iff.mp hRaw
    obtain ⟨part, hPart, hts⟩ := exists_of_bind_eq_ok hts
    obtain ⟨parts, hParts, hts⟩ := exists_of_bind_eq_ok hts
    have rest := writing_memberTemplates hctx cs parts hRest hParts
    have first := written_template hctx c part hFirst hPart
    rw [← Except.ok.inj hts, allDenoted]
    generalize c.denoted = f at first
    cases first with
    | nothing => exact rest
    | something h =>
      rw [if_neg (by rw [List.isEmpty_iff]; exact h.edged.ne_nil)]
      exact .cons h rest

end

end Condition

/-! ## Reading what is written -/

theorem Writing.readCondition {ctx : Context} {t : Template} {f : Formula} (h : Writing ctx t f) :
    ctx.readCondition t.text t.bindings = some f := by
  obtain ⟨hAll, proper⟩ := h.proper.single_spec
  have spells := h.piece.spells
  rw [← Formula.alternativeTokens_single] at spells
  exact spells.readCondition (List.cons_ne_nil _ _) hAll proper

/-- Without the parentheses around it, a condition is read as before but for the groups of one
member around it. -/
theorem Writing.readCondition_stripEnclosing {ctx : Context}
    (same : ctx.openQuote = ctx.closeQuote) {t : Template} {f : Formula} (h : Writing ctx t f) :
    ctx.readCondition (t.stripEnclosing ctx).text (t.stripEnclosing ctx).bindings =
      some f.unwrapped := by
  obtain ⟨hne, hAll, proper, whole⟩ := h.proper.alternatives_spec
  rw [← whole]
  exact (h.stripped same).readCondition hne hAll proper

/-! ## Compiled conditions -/

namespace Condition

private theorem exists_writing {ctx : Context} (hctx : ctx.Legible) {c : Condition} {t : Template}
    (hRaw : c.raws = []) (ht : c.template ctx = .ok t) (h : ¬c.isEmpty) :
    ∃ f, c.denoted = some f ∧ Writing ctx t f := by
  have written := written_template hctx c t hRaw ht
  rw [← denoted_eq_none c hRaw] at h
  generalize c.denoted = f at written h
  cases written with
  | nothing => exact absurd rfl h
  | something writing => exact ⟨_, rfl, writing⟩

/-- **Compiled conditions mean what the tree says.** Behind `WHERE`, the whole text is read as the
formula that the condition says, with the bindings where they belong. So is the condition of a join
if one character is both quotes, but for the groups of one member around it: its parentheses are
removed before others are written around it. -/
theorem read_compiled (ctx : Context) (hctx : ctx.Legible) (c : Condition) (hRaw : c.raws = []) :
    (∀ t body, c.whereClause ctx = .ok t → t.text = "WHERE " ++ body →
      ∃ f, c.denoted = some f ∧ ctx.readCondition body t.bindings = some f) ∧
    (ctx.openQuote = ctx.closeQuote → ∀ before j after t, j.rows = .onCondition c →
      fromTemplate ctx (before ++ .join j :: after) = .ok t →
        ∃ front table body back f, fromTemplate ctx before = .ok front ∧
          j.table.sql ctx = .ok table ∧ FromEntry.allBehind ctx (.join j) after = .ok back ∧
          t = front ++ (Template.ofString (" " ++ j.kind.keywords ++ table ++ " ON ( ") ++ body ++
            Template.ofString " )") ++ back ∧
          c.denoted = some f ∧ ctx.readCondition body.text body.bindings = some f.unwrapped) := by
  constructor
  · intro t body ht hText
    obtain ⟨u, hu, ht⟩ := exists_of_bind_eq_ok ht
    have written := written_template hctx c u hRaw hu
    rw [← Except.ok.inj ht] at hText ⊢
    generalize c.denoted = f at written
    cases written with
    | nothing => exact absurd (congrArg String.toList hText) (by simp [Template.text])
    | something h =>
      rw [if_neg (by rw [List.isEmpty_iff]; exact h.edged.ne_nil), Template.text_append,
        Template.text_ofString, String.append_right_inj] at hText
      rw [if_neg (by rw [List.isEmpty_iff]; exact h.edged.ne_nil), Template.bindings_append,
        Template.bindings_ofString, List.nil_append, ← hText]
      exact ⟨_, rfl, h.readCondition⟩
  · intro same before j after t hj ht
    obtain ⟨p, front, middle, back, -, hFront, hMiddle, hBack, rfl⟩ :=
      exists_of_fromTemplate_eq_ok ht
    obtain ⟨table, body, hTable, silent, hBody, rfl⟩ := Join.exists_of_behind_eq_ok hj hMiddle
    obtain ⟨f, hf, written⟩ := exists_writing hctx hRaw hBody silent
    exact ⟨front, table, _, back, f, hFront, hTable, hBack, rfl, hf,
      written.readCondition_stripEnclosing same⟩

/-- An empty group disappears, a list without items is a constant, and parentheses and `AND` in a
name are part of the name. -/
theorem read_compiled_any :
    let c := any [all [Column.compare "a) AND (b" .equal (.placeholder (.token "t")), any []],
      Column.notIn "c" []]
    let f := Formula.joined .or
      [.enclosed (.test "a) AND (b" (.compare .equal (.placeholder (.token "t")))), .constant true]
    Context.standard.readCondition "( ( \"a) AND (b\" = ? ) OR 1=1 )" [.token "t"] = some f ∧
      ∃ t body : Template, fromTemplate .standard [.table { name := "s" },
          .join { table := { name := "u" }, rows := .onCondition c }] = .ok t ∧
        t.text = "\"s\" JOIN \"u\" ON ( " ++ body.text ++ " )" ∧
        Context.standard.readCondition body.text body.bindings = some f := by
  intro c f
  have legible : Context.standard.Legible := ⟨by decide, by decide, by decide, by decide⟩
  obtain ⟨filtered, joined⟩ := read_compiled .standard legible c rfl
  constructor
  · have compiled : ∃ t, c.whereClause .standard = .ok t ∧ t.bindings = [.token "t"] ∧
        t.text = "WHERE ( ( \"a) AND (b\" = ? ) OR 1=1 )" := ⟨_, rfl, rfl, rfl⟩
    obtain ⟨t, ht, bindings, text⟩ := compiled
    obtain ⟨g, hg, read⟩ := filtered t "( ( \"a) AND (b\" = ? ) OR 1=1 )" ht text
    rw [← Option.some.inj hg, bindings] at read
    exact read
  · obtain ⟨t, ht⟩ : ∃ t, fromTemplate .standard ([.table { name := "s" }] ++
      .join { table := { name := "u" }, rows := .onCondition c } :: []) = .ok t := by
      subst c
      exact ⟨_, rfl⟩
    obtain ⟨front, table, body, back, g, hFront, hTable, hBack, rfl, hg, read⟩ :=
      joined rfl _ _ [] t rfl ht
    obtain rfl : Template.ofString "\"s\"" = front := Except.ok.inj hFront
    change TableName.sql .standard { name := "u" } = _ at hTable
    obtain rfl : "\"u\"" = table := Except.ok.inj hTable
    obtain rfl : [] = back := Except.ok.inj hBack
    rw [← Option.some.inj hg] at read
    refine ⟨_, body, ht, ?_, read⟩
    rw [← String.toList_inj]
    simp [JoinKind.keywords]

end Condition

end PreparedSql
