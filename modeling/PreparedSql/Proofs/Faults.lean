import Mathlib.Data.List.Chain
import PreparedSql.Statement.Basic

/-!
# What is wrong with a statement

Compiling stops at the first thing that is wrong with a statement. Here all of them are listed, in
the order in which compiling comes across them: the entries of the chain from left to right, then
the fields, then the filter, and within a condition from left to right. Nothing in the list depends
on a context.

A statement is well-formed if nothing is wrong with it. What this means is also said in so many
words, for each kind of statement.

## Main definitions

* `Statement.faults`: everything that is wrong with a statement, in order.
* `Statement.WellFormed`: nothing is.

## Main statements

* `Statement.faults_eq_nil_iff`: the two agree.
-/

namespace PreparedSql

/-! ## Checks and blank names -/

/-- The error that a check reports, unless it is passed. -/
def checkFaults (failed : Prop) [Decidable failed] (e : CompileError) : List CompileError :=
  if failed then [e] else []

theorem checkFaults_eq_nil_iff {failed : Prop} [Decidable failed] {e : CompileError} :
    checkFaults failed e = [] ↔ ¬failed := by
  rw [checkFaults]
  split <;> simp_all

theorem mem_checkFaults {failed : Prop} [Decidable failed] {e e' : CompileError} :
    e' ∈ checkFaults failed e ↔ failed ∧ e' = e := by
  rw [checkFaults]
  split <;> simp_all

/-- One error for each of the names that is blank. -/
def blankFaults (e : CompileError) (names : List String) : List CompileError :=
  (names.filter Text.allBlank).map fun _ ↦ e

@[simp] theorem blankFaults_nil (e : CompileError) : blankFaults e [] = [] := rfl

@[simp] theorem blankFaults_append (e : CompileError) (names names' : List String) :
    blankFaults e (names ++ names') = blankFaults e names ++ blankFaults e names' := by
  rw [blankFaults, List.filter_append, List.map_append]
  rfl

theorem blankFaults_singleton (e : CompileError) (n : String) :
    blankFaults e [n] = checkFaults (Text.allBlank n) e := by
  rw [blankFaults, List.filter_cons, checkFaults]
  split <;> rfl

theorem eq_of_mem_blankFaults {e e' : CompileError} {names : List String}
    (h : e ∈ blankFaults e' names) : e = e' := by
  rw [blankFaults, List.mem_map] at h
  obtain ⟨-, -, rfl⟩ := h
  rfl

@[simp] theorem blankFaults_eq_nil_iff {e : CompileError} {names : List String} :
    blankFaults e names = [] ↔ ∀ n ∈ names, ¬Text.allBlank n := by
  rw [blankFaults, List.map_eq_nil_iff, List.filter_eq_nil_iff]

/-! ## Conditions -/

namespace Condition

mutual

/-- The columns that are tested anywhere in a condition, from left to right. -/
def columns : Condition → List String
  | test column _ => [column]
  | group _ members => allColumns members
  | raw _ => []
termination_by structural condition => condition

def allColumns : List Condition → List String
  | [] => []
  | member :: rest => columns member ++ allColumns rest
termination_by structural members => members

end

/-- What is wrong with a condition. -/
def faults (c : Condition) : List CompileError := blankFaults (.inCondition .blankColumn) c.columns

theorem eq_of_mem_faults {c : Condition} {e : CompileError} (h : e ∈ c.faults) :
    e = .inCondition .blankColumn :=
  eq_of_mem_blankFaults h

end Condition

def filterFaults (filter : Option Condition) : List CompileError :=
  filter.toList.flatMap Condition.faults

/-- No test in the filter, however deep, is applied to a blank column. -/
def WellFormedFilter (filter : Option Condition) : Prop :=
  ∀ c ∈ filter, ∀ n ∈ c.columns, ¬Text.allBlank n

theorem filterFaults_eq_nil_iff {filter : Option Condition} :
    filterFaults filter = [] ↔ WellFormedFilter filter := by
  rw [filterFaults, List.flatMap_eq_nil_iff, WellFormedFilter]
  constructor
  · intro h c hc
    exact blankFaults_eq_nil_iff.mp (h c (Option.mem_toList.mpr hc))
  · intro h c hc
    exact blankFaults_eq_nil_iff.mpr (h c (Option.mem_toList.mp hc))

theorem eq_of_mem_filterFaults {filter : Option Condition} {e : CompileError}
    (h : e ∈ filterFaults filter) : e = .inCondition .blankColumn := by
  obtain ⟨c, -, hc⟩ := List.mem_flatMap.mp h
  exact Condition.eq_of_mem_faults hc

/-! ## Chains of tables -/

def TableName.names (t : TableName) : List String := t.name :: t.aliasName.toList

/-- What is wrong with the rows that a join of a table pairs. -/
def JoinMatch.faults (table : String) : JoinMatch → List CompileError
  | onCondition c => checkFaults c.isEmpty (.inFrom (.emptyCondition table)) ++ c.faults
  | shared column => blankFaults (.inFrom .blankName) [column]

/-- What is wrong with the place of a join, behind the entry before it if there is one. -/
def Join.misplaced (j : Join) : Option FromEntry → List CompileError
  | none => [.inFrom (.leadingJoin j.table.name)]
  | some (.raw _) =>
    match j.rows with
    | .shared _ => [.inFrom (.sharedColumnAfterRaw j.table.name)]
    | .onCondition _ => []
  | some _ => []

namespace FromEntry

/-- What is wrong with an entry, behind the entry before it if there is one. -/
def faults (previous : Option FromEntry) : FromEntry → List CompileError
  | table t => blankFaults (.inFrom .blankName) t.names
  | raw sql => blankFaults (.inFrom .blankName) [sql]
  | join j => j.misplaced previous ++ blankFaults (.inFrom .blankName) j.table.names ++
      j.rows.faults j.table.name

/-- What is wrong with the entries of a chain, behind an entry if there is one. -/
def allFaults : (previous : Option FromEntry) → List FromEntry → List CompileError
  | _, [] => []
  | previous, e :: rest => e.faults previous ++ allFaults (some e) rest

/-- The names of tables, aliases and shared columns and the raw SQL in an entry. -/
def names : FromEntry → List String
  | table t => t.names
  | raw sql => [sql]
  | join j => j.table.names ++
      match j.rows with
      | .onCondition _ => []
      | .shared column => [column]

/-- The condition of an entry that is a join by one. -/
def condition? : FromEntry → Option Condition
  | table _ | raw _ => none
  | join j =>
    match j.rows with
    | .onCondition c => some c
    | .shared _ => none

/-- A join by a shared column does not directly follow raw SQL. -/
def Follows (e previous : FromEntry) : Prop :=
  ∀ sql j column, previous = raw sql → e = join j → j.rows ≠ .shared column

/-- Nothing is wrong with the entry apart from its place. -/
structure WellFormed (e : FromEntry) : Prop where
  /-- No name is blank. -/
  named : ∀ n ∈ e.names, ¬Text.allBlank n
  /-- The condition of a join says something. -/
  said : ∀ c ∈ e.condition?, ¬c.isEmpty
  /-- No test in the condition of a join, however deep, is applied to a blank column. -/
  columns : WellFormedFilter e.condition?

end FromEntry

def tableFaults (tables : List FromEntry) : List CompileError :=
  if tables.isEmpty then [.inFrom .noTables] else FromEntry.allFaults none tables

/-- Nothing is wrong with the chain of tables. -/
structure WellFormedTables (tables : List FromEntry) : Prop where
  /-- There is an entry. -/
  nonempty : tables ≠ []
  /-- The first entry is no join. -/
  start : ∀ j, tables.head? ≠ some (.join j)
  /-- Nothing is wrong with an entry. -/
  entries : ∀ e ∈ tables, e.WellFormed
  /-- No join by a shared column directly follows raw SQL. -/
  places : tables.IsChain fun previous e ↦ e.Follows previous

/-- Nothing is wrong with a join but perhaps its place. -/
theorem FromEntry.wellFormed_join_iff (j : Join) : (join j).WellFormed ↔
    blankFaults (.inFrom .blankName) j.table.names = [] ∧ j.rows.faults j.table.name = [] := by
  obtain ⟨t, kind, rows⟩ := j
  rw [blankFaults_eq_nil_iff]
  cases rows with
  | onCondition c =>
    rw [JoinMatch.faults, List.append_eq_nil_iff, checkFaults_eq_nil_iff, Condition.faults,
      blankFaults_eq_nil_iff]
    constructor
    · rintro ⟨named, said, columns⟩
      exact ⟨by simpa [names] using named, said c rfl, columns c rfl⟩
    · rintro ⟨named, said, columns⟩
      refine ⟨by simpa [names] using named, ?_, ?_⟩
      · rintro c ⟨⟩
        exact said
      · rintro c ⟨⟩
        exact columns
  | shared column =>
    rw [JoinMatch.faults, blankFaults_eq_nil_iff, ← List.forall_mem_append]
    exact ⟨fun h ↦ h.named, fun h ↦ ⟨h, nofun, nofun⟩⟩

theorem FromEntry.faults_eq_nil_iff (e : FromEntry) (previous : Option FromEntry) :
    e.faults previous = [] ↔ e.WellFormed ∧ ∀ j, e = join j → j.misplaced previous = [] := by
  cases e with
  | table t =>
    rw [faults, blankFaults_eq_nil_iff]
    exact ⟨fun h ↦ ⟨⟨h, nofun, nofun⟩, nofun⟩, fun h ↦ h.1.named⟩
  | raw sql =>
    rw [faults, blankFaults_eq_nil_iff]
    exact ⟨fun h ↦ ⟨⟨h, nofun, nofun⟩, nofun⟩, fun h ↦ h.1.named⟩
  | join j =>
    rw [faults, List.append_assoc, List.append_eq_nil_iff, List.append_eq_nil_iff,
      wellFormed_join_iff, and_comm]
    exact and_congr_right fun _ ↦ ⟨by rintro h _ ⟨⟩; exact h, fun h ↦ h j rfl⟩

/-- Behind an entry a join is misplaced only if it needs the name of raw SQL. -/
theorem FromEntry.follows_iff (e previous : FromEntry) :
    e.Follows previous ↔ ∀ j, e = join j → j.misplaced (some previous) = [] := by
  constructor
  · intro h j hj
    cases previous with
    | table | join => rfl
    | raw sql =>
      rw [Join.misplaced]
      cases hRows : j.rows with
      | onCondition => rfl
      | shared column => exact absurd hRows (h sql j column rfl hj)
  · rintro h sql j column rfl hj hRows
    have placed := h j hj
    rw [Join.misplaced, hRows] at placed
    exact List.cons_ne_nil _ _ placed

theorem FromEntry.allFaults_eq_nil_iff (es : List FromEntry) (previous : FromEntry) :
    allFaults (some previous) es = [] ↔
      (∀ e ∈ es, e.WellFormed) ∧ (previous :: es).IsChain fun p e ↦ e.Follows p := by
  induction es generalizing previous with
  | nil => simp [allFaults]
  | cons e es ih =>
    rw [allFaults, List.append_eq_nil_iff, e.faults_eq_nil_iff, ih, List.isChain_cons_cons,
      List.forall_mem_cons, e.follows_iff]
    exact and_and_and_comm

theorem tableFaults_eq_nil_iff (tables : List FromEntry) :
    tableFaults tables = [] ↔ WellFormedTables tables := by
  cases tables with
  | nil => exact iff_of_false (List.cons_ne_nil _ _) fun h ↦ h.nonempty rfl
  | cons e es =>
    have first : (∀ j, e = .join j → j.misplaced none = []) ↔
        ∀ j, (e :: es).head? ≠ some (.join j) := by
      simp [Join.misplaced]
    rw [tableFaults, List.isEmpty_cons, if_neg (by decide), FromEntry.allFaults,
      List.append_eq_nil_iff, e.faults_eq_nil_iff, FromEntry.allFaults_eq_nil_iff, first]
    constructor
    · rintro ⟨⟨entry, start⟩, entries, places⟩
      exact ⟨List.cons_ne_nil _ _, start, List.forall_mem_cons.mpr ⟨entry, entries⟩, places⟩
    · rintro ⟨-, start, entries, places⟩
      rw [List.forall_mem_cons] at entries
      exact ⟨⟨entries.1, start⟩, entries.2, places⟩

/-! ## Selections -/

def Field.faults : Field → List CompileError
  | column n => blankFaults (.inStatement .blankField) [n]
  | raw _ => []

def Select.faults (s : Select) : List CompileError :=
  tableFaults s.tables ++ s.fields.flatMap Field.faults ++ filterFaults s.filter

structure Select.WellFormed (s : Select) : Prop where
  /-- Nothing is wrong with the tables. -/
  tables : WellFormedTables s.tables
  /-- No selected column is blank. -/
  fields : ∀ n, .column n ∈ s.fields → ¬Text.allBlank n
  /-- No test in the filter is applied to a blank column. -/
  filter : WellFormedFilter s.filter

theorem Select.faults_eq_nil_iff (s : Select) : s.faults = [] ↔ s.WellFormed := by
  have fields : s.fields.flatMap Field.faults = [] ↔
      ∀ n, .column n ∈ s.fields → ¬Text.allBlank n := by
    rw [List.flatMap_eq_nil_iff]
    constructor
    · intro h n hn
      simpa [Field.faults] using h _ hn
    · intro h f hf
      cases f with
      | column n => simpa [Field.faults] using h n hf
      | raw => rfl
  rw [faults, List.append_eq_nil_iff, List.append_eq_nil_iff, tableFaults_eq_nil_iff, fields,
    filterFaults_eq_nil_iff]
  exact ⟨fun h ↦ ⟨h.1.1, h.1.2, h.2⟩, fun h ↦ ⟨⟨h.tables, h.fields⟩, h.filter⟩⟩

/-! ## Insertions, updates and deletions -/

namespace Insert

/-- What is wrong with the rows from a position on, if each needs `width` values. -/
def rowFaults (width position : Nat) : List (List Binding) → List CompileError
  | [] => []
  | row :: rest =>
    checkFaults (row.length ≠ width) (.inStatement (.rowWidth position row.length width)) ++
      rowFaults width (position + 1) rest

/-- What is wrong with an insertion. -/
def faults (s : Insert) : List CompileError :=
  checkFaults (Text.allBlank s.table) (.inStatement .insertWithoutTable) ++
    checkFaults (s.columns.isEmpty || s.rows.isEmpty) (.inStatement .insertWithoutCells) ++
    rowFaults s.columns.length 0 s.rows

structure WellFormed (s : Insert) : Prop where
  /-- The table is not blank. -/
  table : ¬Text.allBlank s.table
  /-- There is a column. -/
  columns : s.columns ≠ []
  /-- There is a row. -/
  rows : s.rows ≠ []
  /-- Every row has a value for every column, and no other. -/
  widths : ∀ row ∈ s.rows, row.length = s.columns.length

theorem rowFaults_eq_nil_iff (width position : Nat) (rows : List (List Binding)) :
    rowFaults width position rows = [] ↔ ∀ row ∈ rows, row.length = width := by
  induction rows generalizing position with
  | nil => simp [rowFaults]
  | cons row rows ih =>
    rw [rowFaults, List.append_eq_nil_iff, ih, checkFaults_eq_nil_iff, List.forall_mem_cons,
      ne_eq, not_not]

theorem faults_eq_nil_iff (s : Insert) : s.faults = [] ↔ s.WellFormed := by
  rw [faults, List.append_eq_nil_iff, List.append_eq_nil_iff, checkFaults_eq_nil_iff,
    checkFaults_eq_nil_iff, rowFaults_eq_nil_iff, Bool.or_eq_true, not_or, List.isEmpty_iff,
    List.isEmpty_iff]
  exact ⟨fun h ↦ ⟨h.1.1, h.1.2.1, h.1.2.2, h.2⟩,
    fun h ↦ ⟨⟨h.table, h.columns, h.rows⟩, h.widths⟩⟩

end Insert

def Update.faults (s : Update) : List CompileError :=
  checkFaults (Text.allBlank s.table || s.assignments.isEmpty) (.inStatement .emptyUpdate) ++
    filterFaults s.filter

structure Update.WellFormed (s : Update) : Prop where
  /-- The table is not blank. -/
  table : ¬Text.allBlank s.table
  /-- There is an assignment. -/
  assignments : s.assignments ≠ []
  /-- No test in the filter is applied to a blank column. -/
  filter : WellFormedFilter s.filter

theorem Update.faults_eq_nil_iff (s : Update) : s.faults = [] ↔ s.WellFormed := by
  rw [faults, List.append_eq_nil_iff, checkFaults_eq_nil_iff, filterFaults_eq_nil_iff,
    Bool.or_eq_true, not_or, List.isEmpty_iff]
  exact ⟨fun h ↦ ⟨h.1.1, h.1.2, h.2⟩, fun h ↦ ⟨⟨h.table, h.assignments⟩, h.filter⟩⟩

def Delete.faults (s : Delete) : List CompileError :=
  checkFaults (Text.allBlank s.table) (.inStatement .deleteWithoutTable) ++ filterFaults s.filter

structure Delete.WellFormed (s : Delete) : Prop where
  /-- The table is not blank. -/
  table : ¬Text.allBlank s.table
  /-- No test in the filter is applied to a blank column. -/
  filter : WellFormedFilter s.filter

theorem Delete.faults_eq_nil_iff (s : Delete) : s.faults = [] ↔ s.WellFormed := by
  rw [faults, List.append_eq_nil_iff, checkFaults_eq_nil_iff, filterFaults_eq_nil_iff]
  exact ⟨fun h ↦ ⟨h.1, h.2⟩, fun h ↦ ⟨h.table, h.filter⟩⟩

/-! ## Statements -/

namespace Statement

/-- Everything that is wrong with a statement, in the order in which compiling comes across it. -/
def faults : Statement → List CompileError
  | select s => s.faults
  | insert s => s.faults
  | update s => s.faults
  | delete s => s.faults

/-- Nothing is wrong with the statement. -/
def WellFormed : Statement → Prop
  | select s => s.WellFormed
  | insert s => s.WellFormed
  | update s => s.WellFormed
  | delete s => s.WellFormed

theorem faults_eq_nil_iff (s : Statement) : s.faults = [] ↔ s.WellFormed := by
  cases s with
  | select s => exact s.faults_eq_nil_iff
  | insert s => exact s.faults_eq_nil_iff
  | update s => exact s.faults_eq_nil_iff
  | delete s => exact s.faults_eq_nil_iff

instance (s : Statement) : Decidable s.WellFormed :=
  decidable_of_iff (s.faults = []) s.faults_eq_nil_iff

/-- Several things are wrong, and the place of the join is what compiling comes across first. -/
example : faults (.select {
    fields := [.column ""]
    tables := [.raw "a", .join { table := { name := " " }, rows := .shared "c" }] }) =
      [.inFrom (.sharedColumnAfterRaw " "), .inFrom .blankName, .inStatement .blankField] := by
  decide

end Statement

end PreparedSql
