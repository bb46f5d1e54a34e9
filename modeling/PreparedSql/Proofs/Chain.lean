import PreparedSql.Proofs.Steps
import PreparedSql.Statement.Select

/-!
# Joins within their chain

The SQL of a chain that compiles is that of its entries, one behind the other. A join in it is
therefore found between what the entries before it and those behind it compile to.

## Main statements

* `exists_of_fromTemplate_eq_ok`: the SQL of a chain around a join.
* `Join.exists_condition_of_behind_eq_ok`: the SQL of a join.
* `Select.exists_of_unlimited_eq_ok`: the SQL of a selection around its chain.
-/

namespace PreparedSql

/-- The SQL of entries stands in front of that of the ones behind them, the first of which is
attached to the last of the former. -/
theorem FromEntry.allBehind_append (ctx : Context) (previous : FromEntry)
    (xs ys : List FromEntry) : allBehind ctx previous (xs ++ ys) = (do
      let front ← allBehind ctx previous xs
      let back ← allBehind ctx (xs.getLastD previous) ys
      return front ++ back) := by
  induction xs generalizing previous with
  | nil =>
    rw [List.nil_append, List.getLastD_nil]
    change allBehind ctx previous ys = (do return [] ++ (← allBehind ctx previous ys))
    simp
  | cons x xs ih =>
    rw [List.cons_append, allBehind, allBehind, ih, List.getLastD_cons]
    simp only [bind_assoc, pure_bind, List.append_assoc]

/-- The SQL of a chain stands in front of that of the entries behind its last one. -/
theorem fromTemplate_append (ctx : Context) (xs : List FromEntry) (x : FromEntry)
    (ys : List FromEntry) : fromTemplate ctx (xs ++ x :: ys) = (do
      let front ← fromTemplate ctx (xs ++ [x])
      let back ← x.allBehind ctx ys
      return front ++ back) := by
  cases xs with
  | nil =>
    have nothing : x.allBehind ctx [] = pure [] := rfl
    rw [List.nil_append, List.nil_append, fromTemplate, fromTemplate, nothing]
    simp only [bind_assoc, pure_bind, List.append_nil]
  | cons first xs =>
    have split : xs ++ x :: ys = (xs ++ [x]) ++ ys := by rw [List.append_assoc]; rfl
    rw [List.cons_append, List.cons_append, fromTemplate, fromTemplate, split,
      FromEntry.allBehind_append, List.getLastD_concat]
    simp only [bind_assoc, pure_bind, List.append_assoc]

/-- The SQL of a join stands between that of the entries before it and behind it, and it is attached
to the last of the former. -/
theorem exists_of_fromTemplate_eq_ok {ctx : Context} {j : Join} {before after : List FromEntry}
    {t : Template} (h : fromTemplate ctx (before ++ .join j :: after) = .ok t) :
    ∃ p front middle back, before.getLast? = some p ∧ fromTemplate ctx before = .ok front ∧
      FromEntry.behind ctx p (.join j) = .ok middle ∧
        FromEntry.allBehind ctx (.join j) after = .ok back ∧ t = front ++ middle ++ back := by
  cases eq : before.reverse with
  | nil =>
    rw [List.reverse_eq_nil_iff.mp eq] at h
    obtain ⟨_, hFirst, -⟩ := exists_of_bind_eq_ok h
    exact nomatch hFirst
  | cons p xs =>
    obtain rfl : before = xs.reverse ++ [p] := by
      rw [← List.reverse_reverse before, eq, List.reverse_cons]
    rw [List.append_assoc, List.singleton_append, fromTemplate_append] at h
    obtain ⟨front, hFront, h⟩ := exists_of_bind_eq_ok h
    obtain ⟨rest, hRest, h⟩ := exists_of_bind_eq_ok h
    obtain ⟨middle, hMiddle, hRest⟩ := exists_of_bind_eq_ok hRest
    obtain ⟨back, hBack, hRest⟩ := exists_of_bind_eq_ok hRest
    refine ⟨p, front, middle, back, List.getLast?_concat, hFront, hMiddle, hBack, ?_⟩
    rw [← Except.ok.inj h, ← Except.ok.inj hRest, List.append_assoc]

theorem of_requireName_eq_ok {name n : String} (h : requireName name = .ok n) :
    Text.allBlank name = false ∧ n = name := by
  rw [requireName] at h
  split at h
  · exact nomatch h
  · next said => exact ⟨Bool.eq_false_iff.mpr said, (Except.ok.inj h).symm⟩

theorem Join.exists_condition_of_behind_eq_ok {ctx : Context} {p : FromEntry} {j : Join}
    {t : Template} (h : FromEntry.behind ctx p (.join j) = .ok t) :
    ∃ table c body, j.table.sql ctx = .ok table ∧ j.condition ctx p.exposedName = .ok c ∧
      ¬c.isEmpty ∧ c.template ctx = .ok body ∧
        t = Template.ofString (" " ++ j.kind.keywords ++ table ++ " ON ( ") ++
          body.stripEnclosing ctx ++ Template.ofString " )" := by
  have h : j.template ctx p.exposedName = .ok t := by
    obtain ⟨table, kind, rows⟩ := j
    cases rows with
    | onCondition => exact h
    | shared =>
      cases p with
      | raw => exact nomatch h
      | table => exact h
      | join => exact h
  obtain ⟨table, hTable, h⟩ := exists_of_bind_eq_ok h
  obtain ⟨c, hc, h⟩ := exists_of_bind_eq_ok h
  by_cases silent : c.isEmpty
  · rw [if_pos silent] at h
    exact nomatch h
  · rw [if_neg silent] at h
    obtain ⟨body, hBody, h⟩ := exists_of_bind_eq_ok h
    exact ⟨table, c, body, hTable, hc, silent, hBody, (Except.ok.inj h).symm⟩

theorem Join.exists_of_behind_eq_ok {ctx : Context} {p : FromEntry} {j : Join} {c : Condition}
    {t : Template} (hj : j.rows = .onCondition c) (h : FromEntry.behind ctx p (.join j) = .ok t) :
    ∃ table body, j.table.sql ctx = .ok table ∧ ¬c.isEmpty ∧ c.template ctx = .ok body ∧
      t = Template.ofString (" " ++ j.kind.keywords ++ table ++ " ON ( ") ++
        body.stripEnclosing ctx ++ Template.ofString " )" := by
  obtain ⟨table, c', body, hTable, hc, silent, hBody, rfl⟩ :=
    Join.exists_condition_of_behind_eq_ok h
  rw [Join.condition, hj] at hc
  obtain rfl : c = c' := Except.ok.inj hc
  exact ⟨table, body, hTable, silent, hBody, rfl⟩

theorem Select.exists_of_unlimited_eq_ok {ctx : Context} {s : Select} {t : Template}
    (h : s.unlimited ctx = .ok t) :
    ∃ tables fields filter, fromTemplate ctx s.tables = .ok tables ∧
      fieldList ctx s.fields = .ok fields ∧ whereSuffix ctx s.filter = .ok filter ∧
        t = Template.ofString ("SELECT " ++ fields ++ " FROM ") ++ tables ++ filter ++
          Template.ofString (groupByClause ctx s.groupBy ++ orderByClause ctx s.orderBy) := by
  obtain ⟨tables, hTables, h⟩ := exists_of_bind_eq_ok h
  obtain ⟨fields, hFields, h⟩ := exists_of_bind_eq_ok h
  obtain ⟨filter, hFilter, h⟩ := exists_of_bind_eq_ok h
  exact ⟨tables, fields, filter, hTables, hFields, hFilter, (Except.ok.inj h).symm⟩

end PreparedSql
