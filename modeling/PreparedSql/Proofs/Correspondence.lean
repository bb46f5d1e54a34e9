import Mathlib.Data.List.Forall2
import PreparedSql.Statement.Basic

/-!
# Statements of one shape

Two statements have one shape if they differ in nothing but their names, their raw SQL and their
bindings, and a `Correspondence` says how those may differ. It holds position by position: a name
may correspond to one name here and to another one there. A placeholder that is an operand may also
correspond to raw SQL, which can stand in its place.

## Main definitions

* `Statement.Related`: the statements of one shape, for a given correspondence.
* `Statement.rewrite`: a statement with other operands and bindings.
* `Statement.mapBindings`: a statement with every binding changed.
* `Statement.raws`: the raw SQL in a statement.
* `Statement.related_rewrite`: a statement has the shape of the rewritten one.
* `Statement.related_self`: a statement has its own shape.
-/

namespace PreparedSql

/-- How the parts of two statements that are not their shape may differ. -/
structure Correspondence where
  /-- The names that correspond. -/
  name : String → String → Prop
  /-- The raw SQL that corresponds. -/
  raw : String → String → Prop
  /-- The bindings that correspond. -/
  binding : Binding → Binding → Prop
  /-- The raw SQL that placeholders of operands correspond to. -/
  inlined : Binding → String → Prop

/-! ## Statements that correspond -/

section Related

variable (R : Correspondence)

/-- Operands of one kind with corresponding content, and placeholders with raw SQL in their
place. -/
inductive Operand.Related : Operand → Operand → Prop
  | placeholder {b b' : Binding} (h : R.binding b b') : Related (.placeholder b) (.placeholder b')
  | column {n n' : String} (h : R.name n n') : Related (.column n) (.column n')
  | raw {s s' : String} (h : R.raw s s') : Related (.raw s) (.raw s')
  | inlined {b : Binding} {s : String} (h : R.inlined b s) : Related (.placeholder b) (.raw s)

/-- Tests of one kind with corresponding operands. -/
inductive Test.Related : Test → Test → Prop
  | compare {c : Comparison} {o o' : Operand} (h : o.Related R o') :
      Related (.compare c o) (.compare c o')
  | isIn {negated : Bool} {os os' : List Operand} (h : List.Forall₂ (Operand.Related R) os os') :
      Related (.isIn negated os) (.isIn negated os')
  | between {negated : Bool} {low low' high high' : Operand} (hLow : low.Related R low')
      (hHigh : high.Related R high') :
      Related (.between negated low high) (.between negated low' high')
  | isNull {negated : Bool} : Related (.isNull negated) (.isNull negated)

mutual

/-- Conditions of one tree with corresponding leaves. -/
inductive Condition.Related : Condition → Condition → Prop
  | test {column column' : String} {t t' : Test} (hName : R.name column column')
      (hTest : t.Related R t') : Related (.test column t) (.test column' t')
  | group {connective : Connective} {cs cs' : List Condition} (h : Condition.AllRelated cs cs') :
      Related (.group connective cs) (.group connective cs')
  | raw {s s' : String} (h : R.raw s s') : Related (.raw s) (.raw s')

inductive Condition.AllRelated : List Condition → List Condition → Prop
  | nil : AllRelated [] []
  | cons {c c' : Condition} {cs cs' : List Condition} (h : Condition.Related c c')
      (hs : AllRelated cs cs') : AllRelated (c :: cs) (c' :: cs')

end

structure TableName.Related (t t' : TableName) : Prop where
  /-- The names correspond. -/
  name : R.name t.name t'.name
  /-- The aliases correspond. -/
  aliasName : Option.Rel R.name t.aliasName t'.aliasName

/-- Joins that pair corresponding rows. -/
inductive JoinMatch.Related : JoinMatch → JoinMatch → Prop
  | onCondition {c c' : Condition} (h : c.Related R c') : Related (.onCondition c) (.onCondition c')
  | shared {n n' : String} (h : R.name n n') : Related (.shared n) (.shared n')

/-- Joins of one kind that correspond in everything else. -/
structure Join.Related (j j' : Join) : Prop where
  /-- The joined tables correspond. -/
  table : j.table.Related R j'.table
  /-- The kinds are equal. -/
  kind : j.kind = j'.kind
  /-- The paired rows correspond. -/
  rows : j.rows.Related R j'.rows

inductive FromEntry.Related : FromEntry → FromEntry → Prop
  | table {t t' : TableName} (h : t.Related R t') : Related (.table t) (.table t')
  | raw {s s' : String} (h : R.raw s s') : Related (.raw s) (.raw s')
  | join {j j' : Join} (h : j.Related R j') : Related (.join j) (.join j')

inductive Field.Related : Field → Field → Prop
  | column {n n' : String} (h : R.name n n') : Related (.column n) (.column n')
  | raw {s s' : String} (h : R.raw s s') : Related (.raw s) (.raw s')

structure Select.Related (s s' : Select) : Prop where
  /-- The fields correspond. -/
  fields : List.Forall₂ (Field.Related R) s.fields s'.fields
  /-- The tables correspond. -/
  tables : List.Forall₂ (FromEntry.Related R) s.tables s'.tables
  /-- The filters correspond. -/
  filter : Option.Rel (Condition.Related R) s.filter s'.filter
  /-- The columns grouped by correspond. -/
  groupBy : List.Forall₂ R.name s.groupBy s'.groupBy
  /-- The sort terms correspond and have equal directions. -/
  orderBy : List.Forall₂ (fun t t' ↦ R.name t.column t'.column ∧ t.direction = t'.direction)
    s.orderBy s'.orderBy
  /-- The limits correspond. -/
  limit : Option.Rel R.binding s.limit s'.limit
  /-- The offsets correspond. -/
  offset : Option.Rel R.binding s.offset s'.offset

structure Insert.Related (s s' : Insert) : Prop where
  /-- The tables correspond. -/
  table : R.name s.table s'.table
  /-- The columns correspond. -/
  columns : List.Forall₂ R.name s.columns s'.columns
  /-- The cells correspond. -/
  rows : List.Forall₂ (List.Forall₂ R.binding) s.rows s'.rows

structure Update.Related (s s' : Update) : Prop where
  /-- The tables correspond. -/
  table : R.name s.table s'.table
  /-- The assigned columns and values correspond. -/
  assignments : List.Forall₂ (fun a a' ↦ R.name a.1 a'.1 ∧ a.2.Related R a'.2)
    s.assignments s'.assignments
  /-- The filters correspond. -/
  filter : Option.Rel (Condition.Related R) s.filter s'.filter

structure Delete.Related (s s' : Delete) : Prop where
  /-- The tables correspond. -/
  table : R.name s.table s'.table
  /-- The filters correspond. -/
  filter : Option.Rel (Condition.Related R) s.filter s'.filter

/-- Statements of one kind whose clauses correspond. -/
inductive Statement.Related : Statement → Statement → Prop
  | select {s s' : Select} (h : s.Related R s') : Related (.select s) (.select s')
  | insert {s s' : Insert} (h : s.Related R s') : Related (.insert s) (.insert s')
  | update {s s' : Update} (h : s.Related R s') : Related (.update s) (.update s')
  | delete {s s' : Delete} (h : s.Related R s') : Related (.delete s) (.delete s')

end Related

/-! ## Statements with other operands and bindings -/

section Rewrite

variable (g : Operand → Operand)

def Test.mapOperands : Test → Test
  | compare comparison operand => compare comparison (g operand)
  | isIn negated items => isIn negated (items.map g)
  | between negated low high => between negated (g low) (g high)
  | isNull negated => isNull negated

mutual

def Condition.mapOperands : Condition → Condition
  | .test column t => .test column (t.mapOperands g)
  | .group connective members => .group connective (Condition.mapAllOperands members)
  | .raw sql => .raw sql
termination_by structural condition => condition

def Condition.mapAllOperands : List Condition → List Condition
  | [] => []
  | member :: rest => Condition.mapOperands member :: Condition.mapAllOperands rest
termination_by structural members => members

end

def FromEntry.mapOperands : FromEntry → FromEntry
  | table t => table t
  | raw sql => raw sql
  | join j =>
    match j.rows with
    | .onCondition condition => join { j with rows := .onCondition (condition.mapOperands g) }
    | .shared _ => join j

/-- The statement with its operands rewritten by `g`, and by `f` the bindings that are no operands:
those of cells and windows. -/
def Statement.rewrite (f : Binding → Binding) : Statement → Statement
  | select s => select { s with
      tables := s.tables.map (FromEntry.mapOperands g)
      filter := s.filter.map (Condition.mapOperands g)
      limit := s.limit.map f
      offset := s.offset.map f }
  | insert s => insert { s with rows := s.rows.map (List.map f) }
  | update s => update { s with
      assignments := s.assignments.map fun a ↦ (a.1, g a.2)
      filter := s.filter.map (Condition.mapOperands g) }
  | delete s => delete { s with filter := s.filter.map (Condition.mapOperands g) }

end Rewrite

def Operand.mapBindings (f : Binding → Binding) : Operand → Operand
  | placeholder b => placeholder (f b)
  | column name => column name
  | raw sql => raw sql

def Statement.mapBindings (f : Binding → Binding) (s : Statement) : Statement :=
  s.rewrite (Operand.mapBindings f) f

/-! ## The raw SQL in a statement -/

def Operand.raws : Operand → List String
  | placeholder _ => []
  | column _ => []
  | raw sql => [sql]

def Test.raws : Test → List String
  | compare _ operand => operand.raws
  | isIn _ items => items.flatMap Operand.raws
  | between _ low high => low.raws ++ high.raws
  | isNull _ => []

mutual

def Condition.raws : Condition → List String
  | .test _ t => t.raws
  | .group _ members => Condition.allRaws members
  | .raw sql => [sql]
termination_by structural condition => condition

def Condition.allRaws : List Condition → List String
  | [] => []
  | member :: rest => Condition.raws member ++ Condition.allRaws rest
termination_by structural members => members

end

def FromEntry.raws : FromEntry → List String
  | table _ => []
  | raw sql => [sql]
  | join j =>
    match j.rows with
    | .onCondition condition => condition.raws
    | .shared _ => []

def Field.raws : Field → List String
  | column _ => []
  | raw sql => [sql]

def filterRaws (filter : Option Condition) : List String := filter.toList.flatMap Condition.raws

def Statement.raws : Statement → List String
  | select s =>
    s.fields.flatMap Field.raws ++ s.tables.flatMap FromEntry.raws ++ filterRaws s.filter
  | insert _ => []
  | update s => s.assignments.flatMap (fun a ↦ a.2.raws) ++ filterRaws s.filter
  | delete s => filterRaws s.filter

/-! ## A statement has the shape of the rewritten one -/

/-- Every name corresponds to itself, every operand to what `g` makes of it and every binding to
what `f` makes of it. -/
structure Correspondence.Follows (R : Correspondence) (g : Operand → Operand)
    (f : Binding → Binding) : Prop where
  /-- Names correspond to themselves. -/
  name (n : String) : R.name n n
  /-- Operands correspond to the rewritten ones, if their raw SQL does. -/
  operand (o : Operand) (h : ∀ r ∈ o.raws, R.raw r r) : o.Related R (g o)
  /-- Bindings correspond to the changed ones. -/
  binding (b : Binding) : R.binding b (f b)

section RelatedRewrite

variable {R : Correspondence} {g : Operand → Operand} {f : Binding → Binding}

private theorem Test.related_mapOperands (hR : R.Follows g f) (t : Test)
    (h : ∀ r ∈ t.raws, R.raw r r) : t.Related R (t.mapOperands g) := by
  have operand (o : Operand) (ho : ∀ r ∈ o.raws, r ∈ t.raws) : o.Related R (g o) :=
    hR.operand o fun r hr ↦ h r (ho r hr)
  cases t with
  | compare c o => exact .compare (operand o fun _ hr ↦ hr)
  | isIn negated os =>
    apply Test.Related.isIn
    rw [List.forall₂_map_right_iff, List.forall₂_same]
    intro o ho
    exact operand o fun r hr ↦ List.mem_flatMap.mpr ⟨o, ho, hr⟩
  | between negated low high =>
    exact .between (operand low fun _ hr ↦ List.mem_append_left _ hr)
      (operand high fun _ hr ↦ List.mem_append_right _ hr)
  | isNull negated => exact .isNull

mutual

private theorem Condition.related_mapOperands (hR : R.Follows g f) :
    ∀ c : Condition, (∀ r ∈ c.raws, R.raw r r) → c.Related R (c.mapOperands g)
  | .test column t, h => .test (hR.name column) (t.related_mapOperands hR h)
  | .group _ cs, h => .group (Condition.allRelated_mapAllOperands hR cs h)
  | .raw s, h => .raw (h s List.mem_cons_self)

private theorem Condition.allRelated_mapAllOperands (hR : R.Follows g f) :
    ∀ cs : List Condition, (∀ r ∈ Condition.allRaws cs, R.raw r r) →
      Condition.AllRelated R cs (Condition.mapAllOperands g cs)
  | [], _ => .nil
  | c :: cs, h =>
    .cons (Condition.related_mapOperands hR c fun r hr ↦ h r (List.mem_append_left _ hr))
      (Condition.allRelated_mapAllOperands hR cs fun r hr ↦ h r (List.mem_append_right _ hr))

end

private theorem filter_related_mapOperands (hR : R.Follows g f) (filter : Option Condition)
    (h : ∀ r ∈ filterRaws filter, R.raw r r) :
    Option.Rel (Condition.Related R) filter (filter.map (Condition.mapOperands g)) := by
  cases filter with
  | none => exact .none
  | some c =>
    refine .some (Condition.related_mapOperands hR c fun r hr ↦ h r ?_)
    exact List.mem_flatMap.mpr ⟨c, List.mem_singleton_self c, hr⟩

theorem TableName.related_self (hR : R.Follows g f) (t : TableName) : t.Related R t := by
  refine ⟨hR.name _, ?_⟩
  cases t.aliasName with
  | none => exact .none
  | some n => exact .some (hR.name n)

private theorem FromEntry.related_mapOperands (hR : R.Follows g f) (e : FromEntry)
    (h : ∀ r ∈ e.raws, R.raw r r) : e.Related R (e.mapOperands g) := by
  cases e with
  | table t => exact .table (t.related_self hR)
  | raw s => exact .raw (h s List.mem_cons_self)
  | join j =>
    obtain ⟨t, kind, rows⟩ := j
    cases rows with
    | onCondition c =>
      exact .join ⟨t.related_self hR, rfl, .onCondition (Condition.related_mapOperands hR c h)⟩
    | shared n => exact .join ⟨t.related_self hR, rfl, .shared (hR.name n)⟩

private theorem option_related_map (hR : R.Follows g f) (b : Option Binding) :
    Option.Rel R.binding b (b.map f) := by
  cases b with
  | none => exact .none
  | some b => exact .some (hR.binding b)

/-- A statement all of whose raw SQL corresponds to itself corresponds to the rewritten
statement. -/
theorem Statement.related_rewrite (hR : R.Follows g f) (s : Statement)
    (h : ∀ r ∈ s.raws, R.raw r r) : s.Related R (s.rewrite g f) := by
  have names (ns : List String) : List.Forall₂ R.name ns ns :=
    List.forall₂_same.mpr fun n _ ↦ hR.name n
  cases s with
  | select s =>
    refine .select ⟨List.forall₂_same.mpr fun x hx ↦ ?_,
      List.forall₂_map_right_iff.mpr (List.forall₂_same.mpr fun e he ↦ ?_),
      filter_related_mapOperands hR s.filter fun r hr ↦ h r (List.mem_append_right _ hr),
      names _, List.forall₂_same.mpr fun t _ ↦ ⟨hR.name _, rfl⟩,
      option_related_map hR _, option_related_map hR _⟩
    · have raws : ∀ r ∈ x.raws, R.raw r r := by
        intro r hr
        have inFields := List.mem_flatMap.mpr ⟨x, hx, hr⟩
        exact h r (List.mem_append_left _ (List.mem_append_left _ inFields))
      cases x with
      | column n => exact .column (hR.name n)
      | raw r => exact .raw (raws r List.mem_cons_self)
    · exact e.related_mapOperands hR fun r hr ↦
        h r (List.mem_append_left _ (List.mem_append_right _ (List.mem_flatMap.mpr ⟨e, he, hr⟩)))
  | insert s =>
    refine .insert ⟨hR.name _, names _, List.forall₂_map_right_iff.mpr
      (List.forall₂_same.mpr fun row _ ↦ ?_)⟩
    exact List.forall₂_map_right_iff.mpr (List.forall₂_same.mpr fun b _ ↦ hR.binding b)
  | update s =>
    refine .update ⟨hR.name _, List.forall₂_map_right_iff.mpr
      (List.forall₂_same.mpr fun a ha ↦ ⟨hR.name _, ?_⟩),
      filter_related_mapOperands hR s.filter fun r hr ↦ h r (List.mem_append_right _ hr)⟩
    exact hR.operand a.2 fun r hr ↦
      h r (List.mem_append_left _ (List.mem_flatMap.mpr ⟨a, ha, hr⟩))
  | delete s => exact .delete ⟨hR.name _, filter_related_mapOperands hR s.filter h⟩

end RelatedRewrite

/-! ## A statement has its own shape -/

private theorem Test.mapOperands_id (t : Test) : t.mapOperands id = t := by
  cases t with
  | isIn negated os => rw [mapOperands, List.map_id]
  | compare | between | isNull => rfl

mutual

private theorem Condition.mapOperands_id : ∀ c : Condition, c.mapOperands id = c
  | .test _ t => by rw [Condition.mapOperands, t.mapOperands_id]
  | .group _ cs => by rw [Condition.mapOperands, Condition.mapAllOperands_id cs]
  | .raw _ => rfl

private theorem Condition.mapAllOperands_id :
    ∀ cs : List Condition, Condition.mapAllOperands id cs = cs
  | [] => rfl
  | c :: cs => by
    rw [Condition.mapAllOperands, Condition.mapOperands_id c, Condition.mapAllOperands_id cs]

end

private theorem FromEntry.mapOperands_id (e : FromEntry) : e.mapOperands id = e := by
  cases e with
  | table | raw => rfl
  | join j =>
    obtain ⟨t, kind, rows⟩ := j
    cases rows with
    | onCondition c => exact congrArg (fun c ↦ join ⟨t, kind, .onCondition c⟩) c.mapOperands_id
    | shared => rfl

theorem Statement.rewrite_id (s : Statement) : s.rewrite id id = s := by
  have entries : FromEntry.mapOperands id = id := funext FromEntry.mapOperands_id
  have conditions : Condition.mapOperands id = id := funext Condition.mapOperands_id
  cases s with
  | select s => simp only [rewrite, entries, conditions, List.map_id, Option.map_id_fun, id]
  | insert s => simp only [rewrite, List.map_id_fun, List.map_id]
  | update s => simp only [rewrite, conditions, id, Option.map_id_fun, Prod.eta, List.map_id']
  | delete s => simp only [rewrite, conditions, Option.map_id_fun, id]

theorem Correspondence.follows_id {R : Correspondence} (hName : ∀ n, R.name n n)
    (hBinding : ∀ b, R.binding b b) : R.Follows id id := by
  refine ⟨hName, ?_, hBinding⟩
  intro o h
  cases o with
  | placeholder b => exact .placeholder (hBinding b)
  | column n => exact .column (hName n)
  | raw r => exact .raw (h r List.mem_cons_self)

theorem Test.related_self {R : Correspondence} (hR : R.Follows id id) (t : Test)
    (hRaw : ∀ r ∈ t.raws, R.raw r r) : t.Related R t := by
  have related := t.related_mapOperands hR hRaw
  rw [t.mapOperands_id] at related
  exact related

theorem Condition.related_self {R : Correspondence} (hR : R.Follows id id) (c : Condition)
    (hRaw : ∀ r ∈ c.raws, R.raw r r) : c.Related R c := by
  have related := c.related_mapOperands hR hRaw
  rw [c.mapOperands_id] at related
  exact related

theorem FromEntry.related_self {R : Correspondence} (hR : R.Follows id id) (e : FromEntry)
    (hRaw : ∀ r ∈ e.raws, R.raw r r) : e.Related R e := by
  have related := e.related_mapOperands hR hRaw
  rw [e.mapOperands_id] at related
  exact related

/-- A statement corresponds to itself if its names, bindings and raw SQL do. -/
theorem Statement.related_self {R : Correspondence} (hName : ∀ n, R.name n n)
    (hBinding : ∀ b, R.binding b b) (s : Statement) (hRaw : ∀ r ∈ s.raws, R.raw r r) :
    s.Related R s := by
  have related := s.related_rewrite (Correspondence.follows_id hName hBinding) hRaw
  rw [s.rewrite_id] at related
  exact related

end PreparedSql
