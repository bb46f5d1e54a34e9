import PreparedSql.Proofs.Faults

/-!
# What compiling results in

Compiling a statement succeeds if nothing is wrong with it, and otherwise reports the first thing
that is wrong. If it succeeds, the bindings of the query are those in the statement, in the order of
the text, each once, and behind them those of the window. Both are said of each step of compiling,
and follow for the whole.

## Main definitions

* `Outcome`: how a step ends, given everything that can be wrong.
* `Statement.bindings`: the bindings in a statement that are not those of its window.
* `Statement.windowBindings`: the bindings that a window has in a limit style.

## Main statements

* `Statement.outcome_compile`: what compiling a statement results in.
* `Statement.compile_fails_iff`: when compiling fails, and how.
-/

namespace PreparedSql

/-! ## Outcomes -/

/-- How a step ends, of which a list says what is wrong: with a result that `P` holds of if nothing
is, and otherwise with the first error in the list. -/
inductive Outcome {ε α : Type} (P : α → Prop) : List ε → Except ε α → Prop
  | ok {a : α} (h : P a) : Outcome P [] (.ok a)
  | error {e : ε} {rest : List ε} : Outcome P (e :: rest) (.error e)

namespace Outcome

variable {ε α β : Type} {P : α → Prop} {Q : β → Prop} {es es' : List ε} {x : Except ε α}

/-- What is wrong with two steps is what is wrong with the first one and then with the second. -/
theorem bind {f : α → Except ε β} (h : Outcome P es x)
    (step : ∀ a, P a → Outcome Q es' (f a)) : Outcome Q (es ++ es') (x >>= f) := by
  cases h with
  | ok h => exact step _ h
  | error => exact .error

theorem map {f : α → β} (h : Outcome P es x) (step : ∀ a, P a → Q (f a)) :
    Outcome Q es (do return f (← x)) := by
  cases h with
  | ok h => exact .ok (step _ h)
  | error => exact .error

theorem imp {Q : α → Prop} (h : Outcome P es x) (step : ∀ a, P a → Q a) : Outcome Q es x := by
  cases h with
  | ok h => exact .ok (step _ h)
  | error => exact .error

theorem mapM {f : α → Except ε β} {faults : α → List ε} {xs : List α}
    (h : ∀ a ∈ xs, Outcome Q (faults a) (f a)) :
    Outcome (fun bs ↦ ∀ b ∈ bs, Q b) (xs.flatMap faults) (xs.mapM f) := by
  induction xs with
  | nil => exact .ok (by simp)
  | cons a xs ih =>
    rw [List.forall_mem_cons] at h
    rw [List.mapM_cons, List.flatMap_cons]
    exact h.1.bind fun _ hb ↦ (ih h.2).map fun _ hbs ↦ List.forall_mem_cons.mpr ⟨hb, hbs⟩

theorem exists_eq_ok_iff (h : Outcome P es x) : (∃ a, x = .ok a) ↔ es = [] := by
  cases h with
  | ok => exact iff_of_true ⟨_, rfl⟩ rfl
  | error => exact iff_of_false (fun h ↦ nomatch h) (List.cons_ne_nil _ _)

theorem eq_error_iff (h : Outcome P es x) (e : ε) : x = .error e ↔ es.head? = some e := by
  cases h with
  | ok => exact iff_of_false nofun nofun
  | error => simp

theorem of_eq_ok (h : Outcome P es x) {a : α} (hx : x = .ok a) : P a := by
  cases h with
  | ok h => exact Except.ok.inj hx ▸ h
  | error => exact nomatch hx

end Outcome

theorem Outcome.check {α : Type} {P : α → Prop} {es : List CompileError}
    {x : Except CompileError α} {failed : Prop} [Decidable failed] {e : CompileError}
    (h : ¬failed → Outcome P es x) :
    Outcome P (checkFaults failed e ++ es) (if failed then .error e else x) := by
  rw [checkFaults]
  split
  · exact .error
  · next passed => exact h passed

/-! ## The bindings in a statement -/

def Operand.bindings : Operand → List Binding
  | placeholder b => [b]
  | column _ | raw _ => []

def Test.bindings : Test → List Binding
  | compare _ operand => operand.bindings
  | isIn _ items => items.flatMap Operand.bindings
  | between _ low high => low.bindings ++ high.bindings
  | isNull _ => []

mutual

/-- The bindings in a condition, from left to right. -/
def Condition.bindings : Condition → List Binding
  | .test _ t => t.bindings
  | .group _ members => Condition.allBindings members
  | .raw _ => []
termination_by structural condition => condition

def Condition.allBindings : List Condition → List Binding
  | [] => []
  | member :: rest => Condition.bindings member ++ Condition.allBindings rest
termination_by structural members => members

end

def filterBindings (filter : Option Condition) : List Binding :=
  filter.toList.flatMap Condition.bindings

/-- The bindings in the condition of an entry that is a join by one. -/
def FromEntry.bindings (e : FromEntry) : List Binding := filterBindings e.condition?

/-- The bindings in a statement but for those of its window: those of the conditions of joins, of
cells and of assignments, and then those of the filter. -/
def Statement.bindings : Statement → List Binding
  | select s => s.tables.flatMap FromEntry.bindings ++ filterBindings s.filter
  | insert s => s.rows.flatten
  | update s => s.assignments.flatMap (fun a ↦ a.2.bindings) ++ filterBindings s.filter
  | delete s => filterBindings s.filter

def Select.windowBindings (style : LimitStyle) (s : Select) : List Binding :=
  match s.limit, style with
  | none, _ => []
  | some limit, .offset => limit :: s.offset.toList
  | some limit, .xy => s.offset.toList ++ [limit]
  | some limit, .rownum =>
    let skipped := s.offset.getD (.value (.int 0))
    [limit, skipped, skipped]

/-- The bindings that the window of a statement has in a limit style. -/
def Statement.windowBindings (style : LimitStyle) : Statement → List Binding
  | select s => s.windowBindings style
  | insert _ | update _ | delete _ => []

/-! ## Conditions -/

theorem Template.bindings_join (between : String) (parts : List Template) :
    (join between parts).bindings = parts.flatMap bindings := by
  induction parts with
  | nil => rfl
  | cons t parts ih =>
    cases parts with
    | nil => rw [join, List.intercalate_singleton, List.flatMap_cons, List.flatMap_nil,
        List.append_nil]
    | cons u parts =>
      rw [join, List.intercalate_cons_cons, bindings_append, bindings_append, bindings_ofString,
        List.append_nil, List.flatMap_cons]
      exact congrArg (t.bindings ++ ·) ih

theorem Operand.bindings_template (ctx : Context) (o : Operand) :
    (o.template ctx).bindings = o.bindings := by
  cases o with
  | placeholder b => rfl
  | column | raw => exact Template.bindings_ofString _

theorem Test.bindings_template (ctx : Context) (column : String) (t : Test) :
    (t.template ctx column).bindings = t.bindings := by
  cases t with
  | compare c o => simp [template, bindings, Operand.bindings_template]
  | isIn negated items =>
    cases items with
    | nil => simp [template, bindings]
    | cons item items =>
      simp [template, bindings, Template.bindings_join, List.flatMap_map,
        Operand.bindings_template]
  | between negated low high => simp [template, bindings, Operand.bindings_template]
  | isNull negated => simp [template, bindings]

theorem Connective.bindings_template (k : Connective) (parts : List Template) :
    (k.template parts).bindings = parts.flatMap Template.bindings := by
  cases parts with
  | nil => rfl
  | cons t parts => simp [template, Template.bindings_join]

namespace Condition

-- the recursion is that of compiling: over a condition, and over the members of a group
mutual

theorem outcome_template (ctx : Context) : ∀ c : Condition,
    Outcome (fun t ↦ t.bindings = c.bindings) c.faults (c.template ctx)
  | .test column t => by
    rw [template, faults, columns, blankFaults_singleton, ← List.append_nil (checkFaults _ _)]
    exact .check fun _ ↦ .ok (t.bindings_template ctx _)
  | .group k members => by
    refine (outcome_memberTemplates ctx members).map fun parts h ↦ ?_
    rw [k.bindings_template, h]
    rfl
  | .raw sql => .ok (Template.bindings_ofString _)
termination_by structural c => c

theorem outcome_memberTemplates (ctx : Context) : ∀ cs : List Condition,
    Outcome (fun parts ↦ parts.flatMap Template.bindings = allBindings cs)
      (blankFaults (.inCondition .blankColumn) (allColumns cs)) (memberTemplates ctx cs)
  | [] => .ok rfl
  | c :: cs => by
    rw [allColumns, blankFaults_append]
    refine (outcome_template ctx c).bind fun part hPart ↦
      (outcome_memberTemplates ctx cs).map fun parts hParts ↦ ?_
    rw [allBindings, ← hPart, ← hParts]
    split
    · next silent =>
      rw [List.isEmpty_iff.mp silent]
      rfl
    · rfl
termination_by structural cs => cs

end

theorem outcome_whereClause (ctx : Context) (c : Condition) :
    Outcome (fun t ↦ t.bindings = c.bindings) c.faults (c.whereClause ctx) := by
  refine (c.outcome_template ctx).map fun body h ↦ ?_
  rw [← h]
  split
  · next silent =>
    rw [List.isEmpty_iff.mp silent]
  · rw [Template.bindings_append, Template.bindings_ofString, List.nil_append]

mutual

theorem of_isEmpty : ∀ c : Condition, c.isEmpty → c.columns = [] ∧ c.bindings = []
  | .test _ _, h => nomatch h
  | .group _ members, h => of_allEmpty members h
  | .raw _, _ => ⟨rfl, rfl⟩
termination_by structural c => c

theorem of_allEmpty : ∀ cs : List Condition, allEmpty cs → allColumns cs = [] ∧ allBindings cs = []
  | [], _ => ⟨rfl, rfl⟩
  | c :: cs, h => by
    rw [allEmpty, Bool.and_eq_true] at h
    obtain ⟨columns, bindings⟩ := of_isEmpty c h.1
    obtain ⟨allColumns, allBindings⟩ := of_allEmpty cs h.2
    rw [Condition.allColumns, Condition.allBindings, columns, bindings, allColumns, allBindings]
    exact ⟨rfl, rfl⟩
termination_by structural cs => cs

end

end Condition

theorem outcome_whereSuffix (ctx : Context) (filter : Option Condition) :
    Outcome (fun t ↦ t.bindings = filterBindings filter) (filterFaults filter)
      (whereSuffix ctx filter) := by
  cases filter with
  | none => exact .ok rfl
  | some c =>
    rw [whereSuffix, filterFaults, filterBindings, Option.toList_some, List.flatMap_singleton,
      List.flatMap_singleton]
    split
    · next silent =>
      -- a filter that is left out has no tests that could be wrong
      obtain ⟨columns, bindings⟩ := c.of_isEmpty silent
      rw [Condition.faults, columns, bindings]
      exact .ok rfl
    · refine (c.outcome_whereClause ctx).map fun t h ↦ ?_
      rw [Template.bindings_append, Template.bindings_ofString, List.nil_append, h]

/-! ## Chains of tables -/

theorem outcome_requireName (n : String) :
    Outcome (fun a ↦ a = n ∧ Text.allBlank n = false) (blankFaults (.inFrom .blankName) [n])
      (requireName n) := by
  rw [blankFaults_singleton, ← List.append_nil (checkFaults _ _)]
  exact .check fun said ↦ .ok ⟨rfl, Bool.eq_false_iff.mpr said⟩

theorem TableName.outcome_sql (ctx : Context) (t : TableName) :
    Outcome (fun _ ↦ True) (blankFaults (.inFrom .blankName) t.names) (t.sql ctx) := by
  obtain ⟨name, aliasName⟩ := t
  have split : TableName.names ⟨name, aliasName⟩ = [name] ++ aliasName.toList := rfl
  rw [split, blankFaults_append]
  refine (outcome_requireName name).bind fun _ _ ↦ ?_
  cases aliasName with
  | none => exact .ok trivial
  | some n => exact (outcome_requireName n).map fun _ _ ↦ trivial

namespace Join

private theorem outcome_sharedColumnCondition (ctx : Context) (entry previous : String)
    {column : String} (said : Text.allBlank column = false) :
    Outcome (fun t ↦ t.bindings = []) [] ((sharedColumnCondition ctx entry previous column).template
      ctx) := by
  have outcome := (sharedColumnCondition ctx entry previous column).outcome_template ctx
  have faults : (sharedColumnCondition ctx entry previous column).faults = [] := by
    rw [Condition.faults, blankFaults_eq_nil_iff]
    simp [sharedColumnCondition, Condition.all, Column.compare, Condition.columns,
      Condition.allColumns, allBlank_qualified said]
  rw [faults] at outcome
  exact outcome

theorem outcome_template (ctx : Context) (previous : String) (j : Join) :
    Outcome (fun t ↦ t.bindings = (FromEntry.join j).bindings)
      (blankFaults (.inFrom .blankName) j.table.names ++ j.rows.faults j.table.name)
      (j.template ctx previous) := by
  refine (j.table.outcome_sql ctx).bind fun table _ ↦ ?_
  have enclosed (body : Template) : (Template.ofString (" " ++ j.kind.keywords ++ table ++ " ON ( ")
      ++ body.stripEnclosing ctx ++ Template.ofString " )").bindings = body.bindings := by
    simp
  obtain ⟨t, kind, rows⟩ := j
  cases rows with
  | onCondition c =>
    refine Outcome.check fun said ↦ (c.outcome_template ctx).map fun body h ↦ ?_
    rw [enclosed, h]
    exact (List.append_nil _).symm
  | shared column =>
    have named : Outcome (fun c ↦ c = sharedColumnCondition ctx t.exposedName previous column ∧
        Text.allBlank column = false) (blankFaults (.inFrom .blankName) [column])
        (Join.condition ctx previous ⟨t, kind, .shared column⟩) := by
      refine (outcome_requireName column).map ?_
      rintro _ ⟨rfl, said⟩
      exact ⟨rfl, said⟩
    rw [JoinMatch.faults, ← List.append_nil (blankFaults _ _)]
    refine named.bind ?_
    rintro _ ⟨rfl, said⟩
    refine (outcome_sharedColumnCondition ctx t.exposedName previous said).map fun body h ↦ ?_
    rw [enclosed, h]
    rfl

end Join

namespace FromEntry

theorem outcome_listed (ctx : Context) (e : FromEntry) :
    Outcome (fun t ↦ t.bindings = e.bindings) (e.faults none) (e.listed ctx) := by
  cases e with
  | table t => exact (t.outcome_sql ctx).map fun _ _ ↦ Template.bindings_ofString _
  | raw sql => exact (outcome_requireName sql).map fun _ _ ↦ Template.bindings_ofString _
  | join j => exact .error

private theorem outcome_separated {ctx : Context} {e : FromEntry}
    (h : Outcome (fun t ↦ t.bindings = e.bindings) (e.faults none) (e.listed ctx)) :
    Outcome (fun t ↦ t.bindings = e.bindings) (e.faults none)
      (do return Template.ofString ", " ++ (← e.listed ctx)) :=
  h.map fun t h ↦ by rw [Template.bindings_append, Template.bindings_ofString, List.nil_append, h]

theorem outcome_behind (ctx : Context) (previous e : FromEntry) :
    Outcome (fun t ↦ t.bindings = e.bindings) (e.faults (some previous))
      (previous.behind ctx e) := by
  cases e with
  | table t => exact outcome_separated (outcome_listed ctx (.table t))
  | raw sql => exact outcome_separated (outcome_listed ctx (.raw sql))
  | join j =>
    have joined := j.outcome_template ctx previous.exposedName
    obtain ⟨t, kind, rows⟩ := j
    rw [faults, List.append_assoc]
    cases previous with
    | table | join => cases rows <;> exact joined
    | raw sql =>
      cases rows with
      | onCondition c => exact joined
      | shared column => exact .error

theorem outcome_allBehind (ctx : Context) (es : List FromEntry) (previous : FromEntry) :
    Outcome (fun t ↦ t.bindings = es.flatMap bindings) (allFaults (some previous) es)
      (previous.allBehind ctx es) := by
  induction es generalizing previous with
  | nil => exact .ok rfl
  | cons e es ih =>
    refine (outcome_behind ctx previous e).bind fun t ht ↦ (ih e).map fun u hu ↦ ?_
    rw [Template.bindings_append, ht, hu, List.flatMap_cons]

end FromEntry

theorem outcome_fromTemplate (ctx : Context) (tables : List FromEntry) :
    Outcome (fun t ↦ t.bindings = tables.flatMap FromEntry.bindings) (tableFaults tables)
      (fromTemplate ctx tables) := by
  cases tables with
  | nil => exact .error
  | cons e es =>
    refine (e.outcome_listed ctx).bind fun t ht ↦ (e.outcome_allBehind ctx es).map fun u hu ↦ ?_
    rw [Template.bindings_append, ht, hu, List.flatMap_cons]

/-! ## Selections -/

theorem Field.outcome_sql (ctx : Context) (f : Field) :
    Outcome (fun _ ↦ True) f.faults (f.sql ctx) := by
  cases f with
  | column n =>
    rw [faults, blankFaults_singleton, ← List.append_nil (checkFaults _ _)]
    exact .check fun _ ↦ .ok trivial
  | raw => exact .ok trivial

theorem outcome_fieldList (ctx : Context) (fields : List Field) :
    Outcome (fun _ ↦ True) (fields.flatMap Field.faults) (fieldList ctx fields) := by
  cases fields with
  | nil => exact .ok trivial
  | cons f fs => exact (Outcome.mapM fun f _ ↦ f.outcome_sql ctx).map fun _ _ ↦ trivial

namespace Select

theorem outcome_unlimited (ctx : Context) (s : Select) :
    Outcome (fun t ↦ t.bindings = (Statement.select s).bindings) s.faults (s.unlimited ctx) := by
  rw [faults, List.append_assoc]
  refine (outcome_fromTemplate ctx s.tables).bind fun tables hTables ↦
    (outcome_fieldList ctx s.fields).bind fun fields _ ↦
      (outcome_whereSuffix ctx s.filter).map fun filter hFilter ↦ ?_
  rw [Statement.bindings, ← hTables, ← hFilter]
  simp

theorem bindings_window (ctx : Context) (s : Select) (t : Template) :
    ((window ctx s.limit s.offset).around t).bindings =
      t.bindings ++ s.windowBindings ctx.limitStyle := by
  cases hLimit : s.limit with
  | none => simp [windowBindings, hLimit, window, Enclosure.around, Enclosure.none]
  | some limit =>
    simp only [windowBindings, hLimit, window]
    cases ctx.limitStyle with
    | offset => cases s.offset <;> simp [offsetWindow, Enclosure.around]
    | xy => cases s.offset <;> simp [xyWindow, Enclosure.around]
    | rownum => simp [rownumWindow, Enclosure.around]

theorem outcome_template (ctx : Context) (s : Select) :
    Outcome (fun t ↦ t.bindings = (Statement.select s).bindings ++ s.windowBindings ctx.limitStyle)
      s.faults (s.template ctx) :=
  (s.outcome_unlimited ctx).map fun t h ↦ by rw [bindings_window, h]

end Select

/-! ## Insertions, updates and deletions -/

namespace Insert

theorem bindings_rowTemplate (row : List Binding) : (rowTemplate row).bindings = row := by
  simp [rowTemplate, Template.bindings_join, List.flatMap_map]

theorem outcome_rowTemplates (width position : Nat) (rows : List (List Binding)) :
    Outcome (fun parts ↦ parts = rows.map rowTemplate) (rowFaults width position rows)
      (rowTemplates width position rows) := by
  induction rows generalizing position with
  | nil => exact .ok rfl
  | cons row rows ih =>
    refine .check fun _ ↦ (ih (position + 1)).map fun parts h ↦ ?_
    rw [h, List.map_cons]

theorem outcome_template (ctx : Context) (s : Insert) :
    Outcome (fun t ↦ t = Template.ofString ("INSERT INTO " ++ ctx.quotedPath s.table ++ " ( " ++
      ", ".intercalate (s.columns.map ctx.quotedPath) ++ " ) VALUES ") ++
        Template.join ", " (s.rows.map rowTemplate)) s.faults (s.template ctx) := by
  rw [faults, List.append_assoc]
  refine .check fun _ ↦ .check fun _ ↦ (outcome_rowTemplates _ 0 s.rows).map fun parts h ↦ ?_
  rw [h]

end Insert

theorem Update.outcome_template (ctx : Context) (s : Update) :
    Outcome (fun t ↦ t.bindings = (Statement.update s).bindings) s.faults (s.template ctx) := by
  refine .check fun _ ↦ (outcome_whereSuffix ctx s.filter).map fun filter h ↦ ?_
  have assigned (a : String × Operand) : (assignmentTemplate ctx a).bindings = a.2.bindings := by
    rw [assignmentTemplate, Template.bindings_append, Template.bindings_ofString, List.nil_append,
      a.2.bindings_template]
  simp [Statement.bindings, Template.bindings_join, List.flatMap_map, assigned, h]

theorem Delete.outcome_template (ctx : Context) (s : Delete) :
    Outcome (fun t ↦ t.bindings = (Statement.delete s).bindings) s.faults (s.template ctx) := by
  refine .check fun _ ↦ (outcome_whereSuffix ctx s.filter).map fun filter h ↦ ?_
  rw [Template.bindings_append, Template.bindings_ofString, List.nil_append, h]
  rfl

/-! ## Statements -/

namespace Statement

theorem outcome_template (ctx : Context) (s : Statement) :
    Outcome (fun t ↦ t.bindings = s.bindings ++ s.windowBindings ctx.limitStyle) s.faults
      (s.template ctx) := by
  cases s with
  | select s => exact s.outcome_template ctx
  | insert s =>
    rw [windowBindings, List.append_nil]
    refine (s.outcome_template ctx).imp fun t h ↦ ?_
    rw [h, Template.bindings_append, Template.bindings_ofString, List.nil_append,
      Template.bindings_join, List.flatMap_map]
    simp only [Insert.bindings_rowTemplate, List.flatMap_id']
    rfl
  | update s =>
    rw [windowBindings, List.append_nil]
    exact s.outcome_template ctx
  | delete s =>
    rw [windowBindings, List.append_nil]
    exact s.outcome_template ctx

theorem outcome_compile (ctx : Context) (s : Statement) :
    Outcome (fun q ↦ q.bindings = s.bindings ++ s.windowBindings ctx.limitStyle) s.faults
      (s.compile ctx) :=
  (s.outcome_template ctx).map fun _ h ↦ h

/-- **When compiling fails, and how.** A statement compiles if it is well-formed. Otherwise the
error is the first thing that is wrong with it. -/
theorem compile_fails_iff (ctx : Context) (s : Statement) :
    ((∃ q, s.compile ctx = .ok q) ↔ s.WellFormed) ∧
      ∀ e, s.compile ctx = .error e ↔ s.faults.head? = some e := by
  have outcome := s.outcome_compile ctx
  rw [← s.faults_eq_nil_iff]
  exact ⟨outcome.exists_eq_ok_iff, outcome.eq_error_iff⟩

end Statement

end PreparedSql
