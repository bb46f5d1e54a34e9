import Mathlib.Data.List.Induction
import PreparedSql.Draft.Building
import PreparedSql.Proofs.Outcome

/-!
# Building statements call by call

A statement that is built call by call can also be written down clause by clause, from the calls for
each clause alone: what accumulates is all that these calls add, in their order, and what is
replaced is what the last of them sets. So calls for different clauses may change places, as long as
every call is available where it is made.

The first table of a selection, the first row of an insertion and the first assignment of an update
complete them. What is built is therefore never refused for want of these.

## Main definitions

* `callsFor`: the calls for a clause, in their order.
* `CompletedBy`: the calls of a builder that has a stage before the statement is complete.
* `Building.clausewise`: the statement that the calls describe clause by clause.

## Main statements

* `SelectStage.sums_of_run`, `InsertStage.sums_of_run`, `UpdateStage.sums_of_run`: what the calls
  so far have led to.
* `TwoStage.exists_run_iff`: which calls complete a statement.
* `Building.built_by_clause`: what is built, and when two ways to build give the same.
-/

namespace PreparedSql

/-! ## Sequences of calls -/

/-- What a call is for: a clause of the statement, or the values that it writes. -/
inductive Clause where
  | fields | tables | filter | groupBy | orderBy | limit | offset | columns | rows | assignments
  deriving DecidableEq, Repr

section Calls

variable {κ α : Type}

/-- The calls for a clause, in their order. -/
def callsFor (clause : κ → Clause) (calls : List κ) (c : Clause) : List κ :=
  calls.filter (clause · = c)

private theorem callsFor_concat (clause : κ → Clause) (calls : List κ) (call : κ) (c : Clause) :
    callsFor clause (calls ++ [call]) c =
      callsFor clause calls c ++ if clause call = c then [call] else [] := by
  rw [callsFor, List.filter_append, List.filter_singleton]
  split <;> simp_all [callsFor]

/-- What the last of the calls that set something sets. -/
def lastSet (set? : κ → Option α) (calls : List κ) : Option α := (calls.filterMap set?).getLast?

private theorem lastSet_concat (set? : κ → Option α) (calls : List κ) (call : κ) :
    lastSet set? (calls ++ [call]) = (set? call).or (lastSet set? calls) := by
  rw [lastSet, List.filterMap_append, List.getLast?_append, lastSet]
  cases h : set? call <;> simp [h]

/-- What every available call preserves holds after a run of calls. -/
private theorem of_foldlM_eq_some {σ : Type} {call? : σ → κ → Option σ} {start stage : σ}
    {calls : List κ} (run : calls.foldlM call? start = some stage) (P : List κ → σ → Prop)
    (initial : P [] start) (step : ∀ calls call stage stage', P calls stage →
      call? stage call = some stage' → P (calls ++ [call]) stage') : P calls stage := by
  -- the last call comes off first, since a step is taken behind all calls before it
  induction calls using List.reverseRecOn generalizing stage with
  | nil => exact Option.some.inj run ▸ initial
  | append_singleton calls call ih =>
    rw [List.foldlM_append] at run
    obtain ⟨before, hBefore, last⟩ := Option.bind_eq_some_iff.mp run
    obtain ⟨after, hAfter, done⟩ := Option.bind_eq_some_iff.mp last
    exact Option.some.inj done ▸ step calls call before after (ih hBefore) hAfter

/-- Calls that set up a draft, a call that completes it, and calls that follow. -/
def CompletedBy (sets completes follows : κ → Prop) (calls : List κ) : Prop :=
  ∃ before call after, calls = before ++ call :: after ∧ (∀ c ∈ before, sets c) ∧ completes call ∧
    ∀ c ∈ after, follows c

section TwoStage

variable {σ : Type} {sets completes follows : κ → Prop}

private theorem not_completedBy_nil : ¬CompletedBy sets completes follows [] := by
  rintro ⟨before, call, after, h, -⟩
  simp at h

private theorem completedBy_cons_iff {call : κ} {calls : List κ} :
    CompletedBy sets completes follows (call :: calls) ↔
      (completes call ∧ ∀ c ∈ calls, follows c) ∨
        sets call ∧ CompletedBy sets completes follows calls := by
  constructor
  · rintro ⟨before, completing, after, h, hBefore, hCompletes, hAfter⟩
    cases before with
    | nil =>
      obtain ⟨rfl, rfl⟩ := List.cons.inj h
      exact .inl ⟨hCompletes, hAfter⟩
    | cons first before =>
      obtain ⟨rfl, rfl⟩ := List.cons.inj h
      rw [List.forall_mem_cons] at hBefore
      exact .inr ⟨hBefore.1, before, completing, after, rfl, hBefore.2, hCompletes, hAfter⟩
  · rintro (⟨hCompletes, hAfter⟩ | ⟨hSets, before, completing, after, rfl, hBefore, rest⟩)
    · exact ⟨[], call, calls, rfl, nofun, hCompletes, hAfter⟩
    · exact ⟨call :: before, completing, after, rfl,
        List.forall_mem_cons.mpr ⟨hSets, hBefore⟩, rest⟩

/-- Which calls are available before a statement is complete and after, and that it stays so. -/
structure TwoStage (call? : σ → κ → Option σ) (IsComplete : σ → Prop)
    (sets completes follows : κ → Prop) : Prop where
  /-- The calls that leave a draft a draft. -/
  sets_iff : ∀ stage call, ¬IsComplete stage →
    ((∃ stage', call? stage call = some stage' ∧ ¬IsComplete stage') ↔ sets call)
  /-- The calls that complete a draft. -/
  completes_iff : ∀ stage call, ¬IsComplete stage →
    ((∃ stage', call? stage call = some stage' ∧ IsComplete stage') ↔ completes call)
  /-- The calls that a complete statement takes. -/
  follows_iff : ∀ stage call, IsComplete stage →
    ((∃ stage', call? stage call = some stage') ↔ follows call)
  /-- What is complete stays complete. -/
  stays : ∀ stage call stage', IsComplete stage → call? stage call = some stage' →
    IsComplete stage'

variable {call? : σ → κ → Option σ} {IsComplete : σ → Prop} {stage : σ} {calls : List κ}

private theorem TwoStage.exists_run_iff_of_isComplete
    (h : TwoStage call? IsComplete sets completes follows) (complete : IsComplete stage) :
    (∃ stage', calls.foldlM call? stage = some stage' ∧ IsComplete stage') ↔
      ∀ c ∈ calls, follows c := by
  induction calls generalizing stage with
  | nil => exact iff_of_true ⟨stage, rfl, complete⟩ nofun
  | cons call calls ih =>
    rw [List.forall_mem_cons, ← h.follows_iff stage call complete, List.foldlM_cons]
    cases next : call? stage call with
    | none => simp
    | some stage' => simpa using ih (h.stays stage call stage' complete next)

/-- A run of calls completes a draft if and only if all of them are available. -/
theorem TwoStage.exists_run_iff (h : TwoStage call? IsComplete sets completes follows)
    (draft : ¬IsComplete stage) :
    (∃ stage', calls.foldlM call? stage = some stage' ∧ IsComplete stage') ↔
      CompletedBy sets completes follows calls := by
  induction calls generalizing stage with
  | nil =>
    refine iff_of_false ?_ not_completedBy_nil
    rintro ⟨_, ⟨⟩, complete⟩
    exact draft complete
  | cons call calls ih =>
    rw [completedBy_cons_iff, ← h.completes_iff stage call draft, ← h.sets_iff stage call draft,
      List.foldlM_cons]
    cases next : call? stage call with
    | none => simp
    | some stage' =>
      by_cases complete : IsComplete stage'
      · simpa [complete] using h.exists_run_iff_of_isComplete complete
      · simpa [complete] using ih complete

end TwoStage

end Calls

/-! ## Selections -/

namespace SelectCall

def clause : SelectCall → Clause
  | fields _ | rawField _ => .fields
  | firstTable _ | furtherTable _ | join _ => .tables
  | filter _ => .filter
  | groupBy _ => .groupBy
  | orderBy _ | orderByDescending _ | sortTerm _ => .orderBy
  | limit _ => .limit
  | offset _ => .offset

def addedFields : SelectCall → List Field
  | fields names => names.map .column
  | rawField sql => [.raw sql]
  | _ => []

def addedTables : SelectCall → List FromEntry
  | firstTable entry | furtherTable entry => [entry]
  | join j => [.join j]
  | _ => []

def addedTerms : SelectCall → List SortTerm
  | orderBy columns => columns.map (⟨·, none⟩)
  | orderByDescending columns => columns.map (⟨·, some .descending⟩)
  | sortTerm term => [term]
  | _ => []

def filter? : SelectCall → Option Condition
  | filter condition => some condition
  | _ => none

def groupBy? : SelectCall → Option (List String)
  | groupBy columns => some columns
  | _ => none

def limit? : SelectCall → Option Binding
  | limit binding => some binding
  | _ => none

def offset? : SelectCall → Option Binding
  | offset binding => some binding
  | _ => none

end SelectCall

/-- The selection with the clauses that calls describe, given the calls for each of them. -/
def Select.ofCalls (calls : Clause → List SelectCall) : Select where
  fields := (calls .fields).flatMap SelectCall.addedFields
  tables := (calls .tables).flatMap SelectCall.addedTables
  filter := lastSet SelectCall.filter? (calls .filter)
  groupBy := (lastSet SelectCall.groupBy? (calls .groupBy)).getD []
  orderBy := (calls .orderBy).flatMap SelectCall.addedTerms
  limit := lastSet SelectCall.limit? (calls .limit)
  offset := lastSet SelectCall.offset? (calls .offset)

namespace SelectStage

/-- What calls have led to: a draft has what they describe, which is no more than fields, and a
complete selection is what they describe. -/
def Sums (calls : List SelectCall) : SelectStage → Prop
  | draft d =>
    Select.ofCalls (callsFor SelectCall.clause calls) = { fields := d.fields, tables := [] }
  | complete s => Select.ofCalls (callsFor SelectCall.clause calls) = s ∧ s.tables ≠ []

private theorem Sums.call {calls : List SelectCall} {stage stage' : SelectStage} {call : SelectCall}
    (h : stage.Sums calls) (hCall : stage.call? call = some stage') :
    stage'.Sums (calls ++ [call]) := by
  cases stage with
  | draft d =>
    cases call with
    | fields | rawField | firstTable =>
      obtain rfl := Option.some.inj hCall
      simp_all [Sums, Select.ofCalls, callsFor_concat, SelectCall.clause, SelectCall.addedFields,
        SelectCall.addedTables]
    | _ => exact nomatch hCall
  | complete s =>
    obtain ⟨rfl, started⟩ := h
    obtain ⟨s', hs, rfl⟩ := Option.map_eq_some_iff.mp hCall
    cases call with
    | firstTable => exact nomatch hs
    | _ =>
      obtain rfl := Option.some.inj hs
      refine ⟨?_, ?_⟩
      · simp [Select.ofCalls, callsFor_concat, SelectCall.clause, SelectCall.addedFields,
          SelectCall.addedTables, SelectCall.addedTerms, SelectCall.filter?, SelectCall.groupBy?,
          SelectCall.limit?, SelectCall.offset?, lastSet_concat]
      · simp_all

theorem sums_of_run {calls : List SelectCall} {stage : SelectStage}
    (run : calls.foldlM call? start = some stage) : stage.Sums calls :=
  of_foldlM_eq_some run (fun calls stage ↦ stage.Sums calls) rfl fun _ _ _ _ h hCall ↦ h.call hCall

/-- Fields can be added at any time. The first table completes a selection, and is then no longer
available; all else is available from then on. -/
private theorem twoStage : TwoStage call? (fun stage ↦ stage.statement?.isSome)
    (fun call ↦ call.clause = .fields) (fun call ↦ ∃ entry, call = .firstTable entry)
    fun call ↦ ∀ entry, call ≠ .firstTable entry where
  sets_iff stage call draft := by
    cases stage with
    | draft d => cases call <;> simp [call?, callDraft?, statement?, SelectCall.clause]
    | complete s => exact absurd rfl draft
  completes_iff stage call draft := by
    cases stage with
    | draft d => cases call <;> simp [call?, callDraft?, statement?]
    | complete s => exact absurd rfl draft
  follows_iff stage call complete := by
    cases stage with
    | draft d => exact nomatch complete
    | complete s => cases call <;> simp [call?, callComplete?]
  stays stage call stage' complete hCall := by
    cases stage with
    | draft d => exact nomatch complete
    | complete s =>
      obtain ⟨s', -, rfl⟩ := Option.map_eq_some_iff.mp hCall
      rfl

end SelectStage

/-! ## Insertions -/

namespace InsertCall

def clause : InsertCall → Clause
  | columns _ => .columns
  | firstRow _ | furtherRow _ => .rows

def columns? : InsertCall → Option (List String)
  | columns names => some names
  | firstRow _ | furtherRow _ => none

def addedRows : InsertCall → List (List Binding)
  | columns _ => []
  | firstRow row | furtherRow row => [row]

end InsertCall

/-- The insertion into a table that calls describe, given the calls for each of its parts. -/
def Insert.ofCalls (table : String) (calls : Clause → List InsertCall) : Insert where
  table := table
  columns := (lastSet InsertCall.columns? (calls .columns)).getD []
  rows := (calls .rows).flatMap InsertCall.addedRows

namespace InsertStage

/-- What calls have led to: a draft has what they describe, which is no more than columns, and a
complete insertion is what they describe. -/
def Sums (table : String) (calls : List InsertCall) : InsertStage → Prop
  | draft d => Insert.ofCalls table (callsFor InsertCall.clause calls) = ⟨d.table, d.columns, []⟩
  | complete s => Insert.ofCalls table (callsFor InsertCall.clause calls) = s ∧ s.rows ≠ []

private theorem Sums.call {table : String} {calls : List InsertCall} {stage stage' : InsertStage}
    {call : InsertCall} (h : stage.Sums table calls) (hCall : stage.call? call = some stage') :
    stage'.Sums table (calls ++ [call]) := by
  cases stage with
  | draft d =>
    cases call with
    | columns | firstRow =>
      obtain rfl := Option.some.inj hCall
      simp_all [Sums, Insert.ofCalls, callsFor_concat, InsertCall.clause, InsertCall.columns?,
        InsertCall.addedRows, lastSet_concat]
    | furtherRow => exact nomatch hCall
  | complete s =>
    cases call with
    | furtherRow row =>
      obtain ⟨rfl, started⟩ := h
      obtain rfl := Option.some.inj hCall
      simp [Sums, Insert.ofCalls, callsFor_concat, InsertCall.clause, InsertCall.addedRows]
    | columns | firstRow => exact nomatch hCall

theorem sums_of_run {table : String} {calls : List InsertCall} {stage : InsertStage}
    (run : calls.foldlM call? (start table) = some stage) : stage.Sums table calls :=
  of_foldlM_eq_some run (fun calls stage ↦ stage.Sums table calls) rfl
    fun _ _ _ _ h hCall ↦ h.call hCall

/-- The columns can be set before the first row, which completes an insertion; only further rows are
available from then on. -/
private theorem twoStage : TwoStage call? (fun stage ↦ stage.statement?.isSome)
    (fun call ↦ call.clause = .columns) (fun call ↦ ∃ row, call = .firstRow row)
    fun call ↦ ∃ row, call = .furtherRow row where
  sets_iff stage call draft := by
    cases stage with
    | draft d => cases call <;> simp [call?, statement?, InsertCall.clause]
    | complete s => exact absurd rfl draft
  completes_iff stage call draft := by
    cases stage with
    | draft d => cases call <;> simp [call?, statement?]
    | complete s => exact absurd rfl draft
  follows_iff stage call complete := by
    cases stage with
    | draft d => exact nomatch complete
    | complete s => cases call <;> simp [call?]
  stays stage call stage' complete hCall := by
    cases stage with
    | draft d => exact nomatch complete
    | complete s =>
      cases call with
      | furtherRow row =>
        obtain rfl := Option.some.inj hCall
        rfl
      | columns | firstRow => exact nomatch hCall

end InsertStage

/-! ## Updates -/

namespace UpdateCall

def clause : UpdateCall → Clause
  | set _ _ => .assignments
  | filter _ => .filter

def addedAssignments : UpdateCall → List (String × Operand)
  | set column operand => [(column, operand)]
  | filter _ => []

def filter? : UpdateCall → Option Condition
  | set _ _ => none
  | filter condition => some condition

end UpdateCall

/-- The update of a table with the clauses that calls describe, given the calls for each of them. -/
def Update.ofCalls (table : String) (calls : Clause → List UpdateCall) : Update where
  table := table
  assignments := (calls .assignments).flatMap UpdateCall.addedAssignments
  filter := lastSet UpdateCall.filter? (calls .filter)

namespace UpdateStage

/-- What calls have led to: a draft is left by no calls, and a complete update is what they
describe. -/
def Sums (table : String) (calls : List UpdateCall) : UpdateStage → Prop
  | draft t => t = table ∧ calls = []
  | complete s => Update.ofCalls table (callsFor UpdateCall.clause calls) = s ∧ s.assignments ≠ []

private theorem Sums.call {table : String} {calls : List UpdateCall} {stage stage' : UpdateStage}
    {call : UpdateCall} (h : stage.Sums table calls) (hCall : stage.call? call = some stage') :
    stage'.Sums table (calls ++ [call]) := by
  cases stage with
  | draft d =>
    obtain ⟨rfl, rfl⟩ := h
    cases call with
    | set column operand =>
      obtain rfl := Option.some.inj hCall
      exact ⟨rfl, List.cons_ne_nil _ _⟩
    | filter => exact nomatch hCall
  | complete s =>
    obtain ⟨rfl, started⟩ := h
    cases call with
    | set | filter =>
      obtain rfl := Option.some.inj hCall
      simp_all [Sums, Update.ofCalls, callsFor_concat, UpdateCall.clause, UpdateCall.filter?,
        UpdateCall.addedAssignments, lastSet_concat]

theorem sums_of_run {table : String} {calls : List UpdateCall} {stage : UpdateStage}
    (run : calls.foldlM call? (start table) = some stage) : stage.Sums table calls :=
  of_foldlM_eq_some run (fun calls stage ↦ stage.Sums table calls) ⟨rfl, rfl⟩
    fun _ _ _ _ h hCall ↦ h.call hCall

/-- An update is completed by its first assignment, before which there is no other call. -/
private theorem twoStage : TwoStage call? (fun stage ↦ stage.statement?.isSome) (fun _ ↦ False)
    (fun call ↦ call.clause = .assignments) fun _ ↦ True where
  sets_iff stage call draft := by
    cases stage with
    | draft t => cases call <;> simp [call?, statement?]
    | complete s => exact absurd rfl draft
  completes_iff stage call draft := by
    cases stage with
    | draft t => cases call <;> simp [call?, statement?, UpdateCall.clause]
    | complete s => exact absurd rfl draft
  follows_iff stage call complete := by
    cases stage with
    | draft t => exact nomatch complete
    | complete s => cases call <;> simp [call?]
  stays stage call stage' complete hCall := by
    cases stage with
    | draft t => exact nomatch complete
    | complete s =>
      cases call with
      | set | filter =>
        obtain rfl := Option.some.inj hCall
        rfl

end UpdateStage

/-! ## Deletions -/

namespace DeleteCall

def clause : DeleteCall → Clause
  | filter _ => .filter

def filter? : DeleteCall → Option Condition
  | filter condition => some condition

end DeleteCall

/-- The deletion from a table with the clause that calls describe, given the calls for it. -/
def Delete.ofCalls (table : String) (calls : Clause → List DeleteCall) : Delete where
  table := table
  filter := lastSet DeleteCall.filter? (calls .filter)

private theorem Delete.foldl_call (table : String) (calls : List DeleteCall) :
    calls.foldl call (start table) = ofCalls table (callsFor DeleteCall.clause calls) := by
  induction calls using List.reverseRecOn with
  | nil => rfl
  | append_singleton calls call ih =>
    cases call with
    | filter condition =>
      rw [List.foldl_append, ih]
      simp [Delete.call, ofCalls, callsFor_concat, DeleteCall.clause, DeleteCall.filter?,
        lastSet_concat]

/-! ## What cannot be wrong with what is built -/

private theorem FromEntry.noTables_not_mem_faults (x : FromEntry) (previous : Option FromEntry) :
    .inFrom .noTables ∉ x.faults previous := by
  have named (names : List String) :
      CompileError.inFrom .noTables ∉ blankFaults (.inFrom .blankName) names := by
    intro h
    cases eq_of_mem_blankFaults h
  have misplaced (j : Join) : CompileError.inFrom .noTables ∉ j.misplaced previous := by
    rw [Join.misplaced.eq_def]
    split
    · simp
    · cases j.rows <;> simp
    · simp
  have rows (j : Join) : CompileError.inFrom .noTables ∉ j.rows.faults j.table.name := by
    intro h
    cases hRows : j.rows with
    | onCondition c =>
      rw [hRows, JoinMatch.faults, List.mem_append, mem_checkFaults] at h
      obtain ⟨-, h⟩ | h := h
      · cases h
      · cases Condition.eq_of_mem_faults h
    | shared column =>
      rw [hRows] at h
      exact named _ h
  cases x with
  | table | raw => exact named _
  | join j =>
    rw [faults, List.mem_append, List.mem_append, not_or, not_or]
    exact ⟨⟨misplaced j, named _⟩, rows j⟩

private theorem FromEntry.noTables_not_mem_allFaults (es : List FromEntry)
    (previous : Option FromEntry) : .inFrom .noTables ∉ allFaults previous es := by
  induction es generalizing previous with
  | nil => exact List.not_mem_nil
  | cons x es ih =>
    rw [allFaults, List.mem_append, not_or]
    exact ⟨x.noTables_not_mem_faults previous, ih _⟩

private theorem Select.noTables_not_mem_faults {s : Select} (started : s.tables ≠ []) :
    .inFrom .noTables ∉ s.faults := by
  have tables : tableFaults s.tables = FromEntry.allFaults none s.tables :=
    if_neg (by simpa using started)
  have fields : .inFrom .noTables ∉ s.fields.flatMap Field.faults := by
    intro h
    obtain ⟨f, -, hf⟩ := List.mem_flatMap.mp h
    cases f with
    | column n => cases eq_of_mem_blankFaults hf
    | raw => exact List.not_mem_nil hf
  have filter : .inFrom .noTables ∉ filterFaults s.filter := by
    intro h
    cases eq_of_mem_filterFaults h
  rw [faults, tables, List.mem_append, List.mem_append, not_or, not_or]
  exact ⟨⟨FromEntry.noTables_not_mem_allFaults _ _, fields⟩, filter⟩

private theorem Insert.exists_of_mem_rowFaults {width position : Nat} {rows : List (List Binding)}
    {e : CompileError} (h : e ∈ rowFaults width position rows) :
    ∃ row values, e = .inStatement (.rowWidth row values width) := by
  induction rows generalizing position with
  | nil => exact absurd h List.not_mem_nil
  | cons row rows ih =>
    rw [rowFaults, List.mem_append, mem_checkFaults] at h
    obtain ⟨-, rfl⟩ | h := h
    · exact ⟨_, _, rfl⟩
    · exact ih h

private theorem Insert.exists_of_mem_faults {s : Insert} (named : ¬Text.allBlank s.table)
    (listed : s.columns ≠ []) (started : s.rows ≠ []) {e : CompileError} (h : e ∈ s.faults) :
    ∃ row values, e = .inStatement (.rowWidth row values s.columns.length) := by
  rw [faults, List.mem_append, List.mem_append, mem_checkFaults, mem_checkFaults] at h
  obtain (⟨blank, -⟩ | ⟨empty, -⟩) | h := h
  · exact absurd blank named
  · simp_all
  · exact exists_of_mem_rowFaults h

private theorem Update.eq_of_mem_faults {s : Update} (named : ¬Text.allBlank s.table)
    (started : s.assignments ≠ []) {e : CompileError} (h : e ∈ s.faults) :
    e = .inCondition .blankColumn := by
  rw [faults, List.mem_append, mem_checkFaults] at h
  obtain ⟨wrong, -⟩ | h := h
  · simp_all
  · exact eq_of_mem_filterFaults h

/-! ## What is built -/

theorem Statement.outcome_build (ctx : Context) (s : Statement) :
    Outcome (fun built ↦ built.2 = s.bindings ++ s.windowBindings ctx.limitStyle) s.faults
      (s.build ctx) :=
  (s.outcome_compile ctx).map fun _ h ↦ h

/-- The statement has what completes it. -/
def Statement.Complete : Statement → Prop
  | select s => s.tables ≠ []
  | insert s => s.rows ≠ []
  | update s => s.assignments ≠ []
  | delete _ => True

namespace Building

/-- The statement that the calls describe clause by clause. -/
def clausewise : Building → Statement
  | select calls => .select (.ofCalls (callsFor SelectCall.clause calls))
  | insert table calls => .insert (.ofCalls table (callsFor InsertCall.clause calls))
  | update table calls => .update (.ofCalls table (callsFor UpdateCall.clause calls))
  | delete table calls => .delete (.ofCalls table (callsFor DeleteCall.clause calls))

/-- All calls are available where they are made, and one of them completes the statement. -/
def IsLegal : Building → Prop
  | select calls => CompletedBy (fun call ↦ call.clause = .fields)
      (fun call ↦ ∃ entry, call = .firstTable entry) (fun call ↦ ∀ entry, call ≠ .firstTable entry)
      calls
  | insert _ calls => CompletedBy (fun call ↦ call.clause = .columns)
      (fun call ↦ ∃ row, call = .firstRow row) (fun call ↦ ∃ row, call = .furtherRow row) calls
  | update _ calls => CompletedBy (fun _ ↦ False) (fun call ↦ call.clause = .assignments)
      (fun _ ↦ True) calls
  | delete _ _ => True

/-- Two statements of one kind and for one table, built with the same calls for each clause. -/
inductive Agrees : Building → Building → Prop
  | select {calls calls' : List SelectCall}
      (h : ∀ c, callsFor SelectCall.clause calls c = callsFor SelectCall.clause calls' c) :
      Agrees (select calls) (select calls')
  | insert {table : String} {calls calls' : List InsertCall}
      (h : ∀ c, callsFor InsertCall.clause calls c = callsFor InsertCall.clause calls' c) :
      Agrees (insert table calls) (insert table calls')
  | update {table : String} {calls calls' : List UpdateCall}
      (h : ∀ c, callsFor UpdateCall.clause calls c = callsFor UpdateCall.clause calls' c) :
      Agrees (update table calls) (update table calls')
  | delete {table : String} {calls calls' : List DeleteCall}
      (h : ∀ c, callsFor DeleteCall.clause calls c = callsFor DeleteCall.clause calls' c) :
      Agrees (delete table calls) (delete table calls')

private theorem Agrees.clausewise_eq {b b' : Building} (h : b.Agrees b') :
    b.clausewise = b'.clausewise := by
  cases h with
  | select h | insert h | update h | delete h => rw [clausewise, clausewise, funext h]

private theorem of_statement?_eq_some {b : Building} {s : Statement} (h : b.statement? = some s) :
    s = b.clausewise ∧ s.Complete := by
  cases b with
  | select calls =>
    obtain ⟨stage, run, last⟩ := Option.bind_eq_some_iff.mp h
    cases stage with
    | draft => exact nomatch last
    | complete s =>
      obtain rfl := Option.some.inj last
      obtain ⟨rfl, started⟩ := SelectStage.sums_of_run run
      exact ⟨rfl, started⟩
  | insert table calls =>
    obtain ⟨stage, run, last⟩ := Option.bind_eq_some_iff.mp h
    cases stage with
    | draft => exact nomatch last
    | complete s =>
      obtain rfl := Option.some.inj last
      obtain ⟨rfl, started⟩ := InsertStage.sums_of_run run
      exact ⟨rfl, started⟩
  | update table calls =>
    obtain ⟨stage, run, last⟩ := Option.bind_eq_some_iff.mp h
    cases stage with
    | draft => exact nomatch last
    | complete s =>
      obtain rfl := Option.some.inj last
      obtain ⟨rfl, started⟩ := UpdateStage.sums_of_run run
      exact ⟨rfl, started⟩
  | delete table calls =>
    obtain rfl := Option.some.inj h
    exact ⟨congrArg Statement.delete (Delete.foldl_call table calls), trivial⟩

private theorem exists_finished_iff {σ τ : Type} {run : Option σ} {finished? : σ → Option τ}
    {kind : τ → Statement} :
    (∃ s, (do return kind (← finished? (← run)) : Option Statement) = some s) ↔
      ∃ stage, run = some stage ∧ (finished? stage).isSome := by
  cases run with
  | none => simp
  | some stage => cases h : finished? stage <;> simp [h]

private theorem exists_statement?_iff (b : Building) :
    (∃ s, b.statement? = some s) ↔ b.IsLegal := by
  cases b with
  | select calls =>
    exact exists_finished_iff.trans (SelectStage.twoStage.exists_run_iff Bool.false_ne_true)
  | insert table calls =>
    exact exists_finished_iff.trans (InsertStage.twoStage.exists_run_iff Bool.false_ne_true)
  | update table calls =>
    exact exists_finished_iff.trans (UpdateStage.twoStage.exists_run_iff Bool.false_ne_true)
  | delete table calls => exact iff_of_true ⟨_, rfl⟩ trivial

private theorem bind_map_build {σ τ : Type} (ctx : Context) (run : Option σ)
    (finished? : σ → Option τ) (kind : τ → Statement) :
    (do (finished? (← run)).map fun s ↦ (kind s).build ctx) =
      (do return kind (← finished? (← run)) : Option Statement).map (Statement.build ctx) := by
  cases run with
  | none => rfl
  | some stage => cases h : finished? stage <;> simp [h]

theorem build?_eq (b : Building) (ctx : Context) :
    b.build? ctx = b.statement?.map (Statement.build ctx) := by
  cases b with
  | select calls => exact bind_map_build ctx _ SelectStage.statement? .select
  | insert table calls => exact bind_map_build ctx _ InsertStage.statement? .insert
  | update table calls => exact bind_map_build ctx _ UpdateStage.statement? .update
  | delete => rfl

private theorem build?_of_compile_eq_ok {b : Building} {s : Statement} {ctx : Context} {q : Query}
    (finished : b.statement? = some s) (h : s.compile ctx = .ok q) :
    b.build? ctx = some (.ok (q.sql, q.bindings)) := by
  rw [build?_eq, finished, Option.map_some, Statement.build, h]
  rfl

private theorem build?_of_compile_eq_error {b : Building} {s : Statement} {ctx : Context}
    {e : CompileError} (finished : b.statement? = some s) (h : s.compile ctx = .error e) :
    b.build? ctx = some (.error e) := by
  rw [build?_eq, finished, Option.map_some, Statement.build, h]
  rfl

private theorem exists_of_build?_eq_error {b : Building} {ctx : Context} {e : CompileError}
    (h : b.build? ctx = some (.error e)) : ∃ s, s = b.clausewise ∧ s.Complete ∧ e ∈ s.faults := by
  rw [build?_eq] at h
  obtain ⟨s, hs, failed⟩ := Option.map_eq_some_iff.mp h
  obtain ⟨rfl, complete⟩ := of_statement?_eq_some hs
  have first := ((b.clausewise.outcome_build ctx).eq_error_iff e).mp failed
  exact ⟨_, rfl, complete, List.mem_of_head? first⟩

/-- **Building clause by clause.** A statement is finished if and only if every call is available
where it is made and one of them completes it; it is then what the calls describe clause by clause,
and has what completes it. What is built is the text and the bindings that the finished statement
compiles to, or the error of compiling it. If the calls for each clause are the same, in the same
order, then the finished statement is the same, and so is what is built. A selection is not refused
for want of tables, an insertion into a named table with columns only for the width of a row, and an
update of a named table only for its filter. -/
theorem built_by_clause :
    (∀ (b : Building) (s : Statement), b.statement? = some s ↔ b.IsLegal ∧ s = b.clausewise) ∧
    (∀ b : Building, b.IsLegal → b.clausewise.Complete) ∧
    (∀ (b : Building) (ctx : Context), (b.statement? = none → b.build? ctx = none) ∧
      ∀ s, b.statement? = some s →
        (∀ q, s.compile ctx = .ok q → b.build? ctx = some (.ok (q.sql, q.bindings))) ∧
        ∀ e, s.compile ctx = .error e → b.build? ctx = some (.error e)) ∧
    (∀ b b' : Building, b.Agrees b' → b.IsLegal → b'.IsLegal →
      b.statement? = b'.statement? ∧ ∀ ctx, b.build? ctx = b'.build? ctx) ∧
    (∀ (calls : List SelectCall) (ctx : Context),
      (select calls).build? ctx ≠ some (.error (.inFrom .noTables))) ∧
    (∀ (table : String) (calls : List InsertCall) (ctx : Context) (e : CompileError),
      let columns := (Insert.ofCalls table (callsFor InsertCall.clause calls)).columns
      ¬Text.allBlank table → columns ≠ [] → (insert table calls).build? ctx = some (.error e) →
        ∃ row values, e = .inStatement (.rowWidth row values columns.length)) ∧
    ∀ (table : String) (calls : List UpdateCall) (ctx : Context) (e : CompileError),
      ¬Text.allBlank table → (update table calls).build? ctx = some (.error e) →
        e = .inCondition .blankColumn := by
  have finished {b : Building} (legal : b.IsLegal) : b.statement? = some b.clausewise := by
    obtain ⟨s, hs⟩ := b.exists_statement?_iff.mpr legal
    rw [hs, (of_statement?_eq_some hs).1]
  refine ⟨fun b s ↦ ⟨?_, ?_⟩, fun b legal ↦ (of_statement?_eq_some (finished legal)).2,
    fun b ctx ↦ ⟨?_, ?_⟩, ?_, ?_, ?_, ?_⟩
  · intro hs
    exact ⟨b.exists_statement?_iff.mp ⟨s, hs⟩, (of_statement?_eq_some hs).1⟩
  · rintro ⟨legal, rfl⟩
    exact finished legal
  · intro unfinished
    rw [build?_eq, unfinished, Option.map_none]
  · intro s hs
    exact ⟨fun q ↦ build?_of_compile_eq_ok hs, fun e ↦ build?_of_compile_eq_error hs⟩
  · intro b b' agree legal legal'
    have same : b.statement? = b'.statement? := by
      rw [finished legal, finished legal', agree.clausewise_eq]
    refine ⟨same, fun ctx ↦ ?_⟩
    rw [build?_eq, build?_eq, same]
  · intro calls ctx h
    obtain ⟨_, rfl, started, fault⟩ := exists_of_build?_eq_error h
    exact Select.noTables_not_mem_faults started fault
  · intro table calls ctx e columns named listed h
    obtain ⟨_, rfl, started, fault⟩ := exists_of_build?_eq_error h
    exact Insert.exists_of_mem_faults named listed started fault
  · intro table calls ctx e named h
    obtain ⟨_, rfl, started, fault⟩ := exists_of_build?_eq_error h
    exact Update.eq_of_mem_faults named started fault

/-- Calls for different clauses change places, and of two filters the last one counts. A row that is
too short is all that is wrong with an insertion, and a blank column in its filter all that is wrong
with an update. -/
theorem built_by_clause_orders :
    let users : FromEntry := .table { name := "users" }
    let unnamed : Condition := .test " " (.isNull false)
    let named : Condition := .test "name" (.isNull false)
    let b : Building := .select [.fields ["id"], .firstTable users, .filter unnamed,
      .limit (.token "count"), .filter named, .rawField "1"]
    let b' : Building := .select [.fields ["id"], .rawField "1", .firstTable users,
      .limit (.token "count"), .filter unnamed, .filter named]
    let insertion : List InsertCall := [.columns ["id", "name"], .firstRow [.token "id"]]
    let change : List UpdateCall := [.set "id" (.raw "1"), .filter unnamed]
    b.Agrees b' ∧ b.IsLegal ∧ b'.IsLegal ∧ b.clausewise.Complete ∧
      b.statement? = some b.clausewise ∧ b.statement? = b'.statement? ∧
      (∀ ctx, b.build? ctx = b'.build? ctx) ∧
      b.build? .standard = some (.ok
        ("SELECT \"id\", 1 FROM \"users\" WHERE \"name\" IS NULL LIMIT ?", [.token "count"])) ∧
      (select [.fields ["id"]]).build? .standard = none ∧
      (∃ e, (insert "users" insertion).build? .standard = some (.error e) ∧
        ∃ row values, e = .inStatement (.rowWidth row values 2)) ∧
      ∃ e, (update "users" change).build? .standard = some (.error e) ∧
        e = .inCondition .blankColumn := by
  intro users unnamed named b b' insertion change
  obtain ⟨clauses, furnished, compiled, agree, -, narrow, filtered⟩ := built_by_clause
  have same : b.Agrees b' := .select fun c ↦ by cases c <;> rfl
  have finished : b.statement? = some b.clausewise := rfl
  obtain ⟨legal, -⟩ := (clauses b _).mp finished
  obtain ⟨legal', -⟩ := (clauses b' b.clausewise).mp rfl
  obtain ⟨equal, built⟩ := agree b b' same legal legal'
  have text : b.clausewise.compile .standard = .ok
      ⟨"SELECT \"id\", 1 FROM \"users\" WHERE \"name\" IS NULL LIMIT ?", [.token "count"]⟩ := by
    decide +kernel
  have refused : (update "users" change).build? .standard =
      some (.error (.inCondition .blankColumn)) := by decide
  exact ⟨same, legal, legal', furnished b legal, finished, equal, built,
    ((compiled b .standard).2 _ finished).1 _ text, (compiled _ .standard).1 rfl,
    ⟨_, rfl, narrow "users" insertion .standard _ (by decide) (by decide) rfl⟩,
    ⟨.inCondition .blankColumn, refused, filtered "users" change .standard _ (by decide) refused⟩⟩

end Building

end PreparedSql
