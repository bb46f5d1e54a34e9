import Mathlib.Data.List.TakeWhile
import PreparedSql.Proofs.Chain
import PreparedSql.Proofs.Outcome

/-!
# Filters and what they add

Whether a condition says something is decided on the tree, and again on the SQL when the parts of a
group are put together. The two agree. So a statement leaves out its filter only if the filter says
nothing, and a filter that is not left out is never without a body.

A join must have a condition that says something. A chain of tables is refused for the lack of one
at its first entry that anything is wrong with, and for no other condition.

## Main definitions

* `Statement.withoutFilter`: a statement that applies to all rows.
* `Statement.head`: the SQL of a statement in front of its filter.
* `Inserts`: the SQL that a filter adds.

## Main statements

* `Condition.template_eq_nil_iff`: the conditions without SQL.
* `filter_preserved`: what a filter adds to a statement, and when a join is refused for its
  condition.
-/

namespace PreparedSql

/-! ## Empty texts -/

theorem Text.trim_eq_empty_iff {s : String} : trim s = "" ↔ allBlank s := by
  rw [trim, String.ofList_eq_empty_iff, allBlank]
  constructor
  · intro trimmed
    obtain ⟨front, back, whole, hFront, hBack⟩ := exists_trimBy_append isBlank s.toList
    rw [whole, trimmed, List.append_nil, List.all_append, hFront, hBack, Bool.and_self]
  · intro blank
    rw [trimBy, List.dropWhile_eq_nil_iff.mpr (List.all_eq_true.mp blank)]
    rfl

theorem Template.ofString_eq_nil_iff {s : String} : ofString s = [] ↔ s = "" := by
  rw [ofString, List.map_eq_nil_iff, String.toList_eq_nil_iff]

theorem Template.text_eq_empty_iff {t : Template} : t.text = "" ↔ t = [] := by
  rw [text, String.ofList_eq_empty_iff, List.map_eq_nil_iff]

/-! ## Conditions -/

theorem Test.template_ne_nil (ctx : Context) (column : String) (t : Test) :
    t.template ctx column ≠ [] := by
  cases t with
  | compare comparison operand => simp [template, Template.ofString_eq_nil_iff]
  | isIn negated items =>
    cases items with
    | nil => cases negated <;> simp [template, Template.ofString_eq_nil_iff]
    | cons item items => simp [template, Template.ofString_eq_nil_iff]
  | between negated low high => simp [template, Template.ofString_eq_nil_iff]
  | isNull negated => cases negated <;> simp [template, Template.ofString_eq_nil_iff]

theorem Connective.template_eq_nil_iff {k : Connective} {parts : List Template} :
    k.template parts = [] ↔ parts = [] := by
  cases parts with
  | nil => exact iff_of_true rfl rfl
  | cons t parts => simp [template, Template.ofString_eq_nil_iff]

namespace Condition

variable {ctx : Context}

mutual

theorem template_eq_nil_iff : ∀ (c : Condition) (t : Template), c.template ctx = .ok t →
    (t = [] ↔ c.isEmpty)
  | .test column x, t, h => by
    rw [template] at h
    split at h
    · exact nomatch h
    · rw [← Except.ok.inj h]
      exact iff_of_false (x.template_ne_nil ctx _) Bool.false_ne_true
  | .group k members, t, h => by
    obtain ⟨parts, hParts, h⟩ := exists_of_bind_eq_ok h
    rw [← Except.ok.inj h, k.template_eq_nil_iff, isEmpty]
    exact memberTemplates_eq_nil_iff members parts hParts
  | .raw sql, t, h => by
    rw [← Except.ok.inj h, Template.ofString_eq_nil_iff, Text.trim_eq_empty_iff, isEmpty]

theorem memberTemplates_eq_nil_iff : ∀ (cs : List Condition) (ts : List Template),
    memberTemplates ctx cs = .ok ts → (ts = [] ↔ allEmpty cs)
  | [], ts, h => iff_of_true (Except.ok.inj h).symm rfl
  | c :: cs, ts, h => by
    obtain ⟨part, hPart, h⟩ := exists_of_bind_eq_ok h
    obtain ⟨parts, hParts, h⟩ := exists_of_bind_eq_ok h
    rw [← Except.ok.inj h, allEmpty, Bool.and_eq_true, ← template_eq_nil_iff c part hPart,
      ← memberTemplates_eq_nil_iff cs parts hParts]
    cases part with
    | nil => exact (and_iff_right rfl).symm
    | cons => exact iff_of_false (List.cons_ne_nil _ _) fun h ↦ List.cons_ne_nil _ _ h.1

end

variable {c : Condition}

theorem whereClause_of_isEmpty (h : c.isEmpty) : c.whereClause ctx = .ok [] := by
  have sound : c.faults = [] := by rw [faults, (c.of_isEmpty h).1, blankFaults_nil]
  obtain ⟨t, ht⟩ := (outcome_template ctx c).exists_eq_ok_iff.mpr sound
  obtain rfl : t = [] := (c.template_eq_nil_iff t ht).mpr h
  rw [whereClause, ht]
  rfl

theorem exists_of_whereClause_eq_ok (said : ¬c.isEmpty) {t : Template}
    (h : c.whereClause ctx = .ok t) :
    ∃ body : Template, body.text ≠ "" ∧ t = Template.ofString "WHERE " ++ body := by
  obtain ⟨body, hBody, h⟩ := exists_of_bind_eq_ok h
  have nonempty : body ≠ [] := fun empty ↦ said ((c.template_eq_nil_iff body hBody).mp empty)
  rw [if_neg (by rwa [List.isEmpty_iff])] at h
  exact ⟨body, by rwa [Ne, Template.text_eq_empty_iff], (Except.ok.inj h).symm⟩

theorem whereClause_eq_nil_iff : c.whereClause ctx = .ok [] ↔ c.isEmpty := by
  refine ⟨fun h ↦ ?_, whereClause_of_isEmpty⟩
  by_contra said
  obtain ⟨body, nonempty, h⟩ := exists_of_whereClause_eq_ok said h
  obtain ⟨-, rfl⟩ := List.append_eq_nil_iff.mp h.symm
  exact nonempty rfl

end Condition

/-! ## Filters -/

/-- What a filter adds to the SQL of a statement. -/
inductive Inserts (ctx : Context) : Option Condition → Template → Prop
  /-- There is no filter, or it says nothing. -/
  | nothing {filter : Option Condition} (silent : ∀ c ∈ filter, c.isEmpty) : Inserts ctx filter []
  /-- The filter says something. -/
  | clause {c : Condition} {body : Template} (said : ¬c.isEmpty) (nonempty : body.text ≠ "")
    (h : c.whereClause ctx = .ok (Template.ofString "WHERE " ++ body)) :
    Inserts ctx (some c) (Template.ofString " WHERE " ++ body)

private theorem inserts_of_whereSuffix_eq_ok {ctx : Context} {filter : Option Condition}
    {t : Template} (h : whereSuffix ctx filter = .ok t) : Inserts ctx filter t := by
  cases filter with
  | none =>
    rw [← Except.ok.inj h]
    exact .nothing nofun
  | some c =>
    rw [whereSuffix] at h
    split at h
    · next silent =>
      rw [← Except.ok.inj h]
      refine .nothing ?_
      rintro _ ⟨⟩
      exact silent
    · next said =>
      obtain ⟨clause, hClause, h⟩ := exists_of_bind_eq_ok h
      obtain ⟨body, nonempty, rfl⟩ := Condition.exists_of_whereClause_eq_ok said hClause
      have spaced : Template.ofString " " ++ (Template.ofString "WHERE " ++ body) =
          Template.ofString " WHERE " ++ body := by
        rw [← List.append_assoc, ← Template.ofString_append]
        rfl
      rw [← Except.ok.inj h, spaced]
      exact .clause said nonempty hClause

/-! ## Statements -/

namespace Statement

/-- The condition that the rows of a statement have to meet; an insertion has none. -/
def filter? : Statement → Option Condition
  | select s => s.filter
  | insert _ => none
  | update s => s.filter
  | delete s => s.filter

def withoutFilter : Statement → Statement
  | select s => select { s with filter := none }
  | insert s => insert s
  | update s => update { s with filter := none }
  | delete s => delete { s with filter := none }

/-- The SQL of a statement up to the place of its filter: behind the chain of tables, the
assignments or the table. -/
def head (ctx : Context) : Statement → Except CompileError Template
  | select s => do
    let tables ← fromTemplate ctx s.tables
    let fields ← fieldList ctx s.fields
    return (window ctx s.limit s.offset).front ++
      Template.ofString ("SELECT " ++ fields ++ " FROM ") ++ tables
  | insert s => s.template ctx
  | update s =>
    .ok (Template.ofString ("UPDATE " ++ ctx.quotedPath s.table ++ " SET ") ++
      Template.join ", " (s.assignments.map (Update.assignmentTemplate ctx)))
  | delete s => .ok (Template.ofString ("DELETE FROM " ++ ctx.quotedPath s.table))

/-- A statement that compiles does so without its filter, which is all that is missing then. -/
private theorem exists_of_template_eq_ok {ctx : Context} {s : Statement} {t : Template}
    (h : s.template ctx = .ok t) : ∃ head inserted tail, s.head ctx = .ok head ∧
      s.withoutFilter.template ctx = .ok (head ++ tail) ∧ t = head ++ inserted ++ tail ∧
        Inserts ctx s.filter? inserted := by
  cases s with
  | select s =>
    obtain ⟨u, hu, h⟩ := exists_of_bind_eq_ok h
    obtain ⟨tables, fields, filter, hTables, hFields, hFilter, rfl⟩ :=
      Select.exists_of_unlimited_eq_ok hu
    refine ⟨(window ctx s.limit s.offset).front ++
      Template.ofString ("SELECT " ++ fields ++ " FROM ") ++ tables, filter,
      Template.ofString (groupByClause ctx s.groupBy ++ orderByClause ctx s.orderBy) ++
        (window ctx s.limit s.offset).back, ?_, ?_, ?_, inserts_of_whereSuffix_eq_ok hFilter⟩
    · rw [head, hTables, hFields]
      rfl
    · have unfiltered : Select.unlimited ctx { s with filter := none } =
          .ok (Template.ofString ("SELECT " ++ fields ++ " FROM ") ++ tables ++ [] ++
            Template.ofString (groupByClause ctx s.groupBy ++ orderByClause ctx s.orderBy)) := by
        rw [Select.unlimited, hTables, hFields]
        rfl
      rw [withoutFilter, template, Select.template, unfiltered]
      refine congrArg Except.ok ?_
      simp only [Enclosure.around, List.append_assoc, List.nil_append]
    · rw [← Except.ok.inj h]
      simp only [Enclosure.around, List.append_assoc]
  | insert s => exact ⟨t, [], [], h, by rwa [List.append_nil], by simp, .nothing nofun⟩
  | update s =>
    rw [template, Update.template] at h
    split at h
    · exact nomatch h
    · next named =>
      obtain ⟨filter, hFilter, h⟩ := exists_of_bind_eq_ok h
      refine ⟨_, filter, [], rfl, ?_, ?_, inserts_of_whereSuffix_eq_ok hFilter⟩
      · rw [withoutFilter, template, Update.template, if_neg named]
        rfl
      · rw [← Except.ok.inj h, List.append_nil]
  | delete s =>
    rw [template, Delete.template] at h
    split at h
    · exact nomatch h
    · next named =>
      obtain ⟨filter, hFilter, h⟩ := exists_of_bind_eq_ok h
      refine ⟨_, filter, [], rfl, ?_, ?_, inserts_of_whereSuffix_eq_ok hFilter⟩
      · rw [withoutFilter, template, Delete.template, if_neg named]
        rfl
      · rw [← Except.ok.inj h, List.append_nil]

end Statement

/-! ## Joins without a condition -/

namespace FromEntry

private theorem getLast?_cons_or (first : FromEntry) (es : List FromEntry)
    (previous : Option FromEntry) :
    (first :: es).getLast?.or previous = es.getLast?.or (some first) := by
  rw [List.getLast?_cons, Option.some_or, Option.or_some]

theorem allFaults_append (previous : Option FromEntry) (xs ys : List FromEntry) :
    allFaults previous (xs ++ ys) =
      allFaults previous xs ++ allFaults (xs.getLast?.or previous) ys := by
  induction xs generalizing previous with
  | nil => rfl
  | cons x xs ih => rw [List.cons_append, allFaults, allFaults, ih, getLast?_cons_or,
      List.append_assoc]

private theorem head?_allFaults_eq_some_iff {e : CompileError} {es : List FromEntry}
    {previous : Option FromEntry} : (allFaults previous es).head? = some e ↔
      ∃ before x after, es = before ++ x :: after ∧ allFaults previous before = [] ∧
        (x.faults (before.getLast?.or previous)).head? = some e := by
  constructor
  · intro h
    induction es generalizing previous with
    | nil => exact nomatch h
    | cons first es ih =>
      rw [allFaults] at h
      cases hFirst : first.faults previous with
      | nil =>
        rw [hFirst, List.nil_append] at h
        obtain ⟨before, x, after, rfl, sound, hx⟩ := ih h
        refine ⟨first :: before, x, after, rfl, ?_, by rwa [getLast?_cons_or]⟩
        rw [allFaults, hFirst, sound, List.append_nil]
      | cons e' rest =>
        rw [hFirst] at h
        exact ⟨[], first, es, rfl, rfl, by rwa [List.getLast?_nil, Option.none_or, hFirst]⟩
  · rintro ⟨before, x, after, rfl, sound, hx⟩
    rw [allFaults_append, sound, List.nil_append, allFaults, List.head?_append, hx, Option.some_or]

/-- The first thing that is wrong with an entry is the condition of a join if it is a join behind
another entry, its names are not blank and its condition says nothing. -/
private theorem head?_faults_eq_emptyCondition_iff {x : FromEntry} {previous : Option FromEntry}
    {n : String} : (x.faults previous).head? = some (.inFrom (.emptyCondition n)) ↔
      previous.isSome ∧ ∃ j c, x = join j ∧ (∀ name ∈ j.table.names, ¬Text.allBlank name) ∧
        j.rows = .onCondition c ∧ c.isEmpty ∧ n = j.table.name := by
  have other (names : List String) : CompileError.inFrom (.emptyCondition n) ∉
      blankFaults (.inFrom .blankName) names := by
    intro h
    cases eq_of_mem_blankFaults h
  have listed (names : List String) :
      (blankFaults (.inFrom .blankName) names).head? ≠ some (.inFrom (.emptyCondition n)) :=
    fun h ↦ other names (List.mem_of_head? h)
  cases x with
  | table t => exact iff_of_false (listed t.names) (by rintro ⟨-, j, c, ⟨⟩, -⟩)
  | raw sql => exact iff_of_false (listed [sql]) (by rintro ⟨-, j, c, ⟨⟩, -⟩)
  | join j =>
    obtain ⟨t, kind, rows⟩ := j
    cases rows with
    | shared column =>
      refine iff_of_false (fun h ↦ ?_) (by rintro ⟨-, j, c, ⟨⟩, -, ⟨⟩, -⟩)
      have mem := List.mem_of_head? h
      rw [faults, List.mem_append, List.mem_append] at mem
      obtain (misplaced | blank) | blank := mem
      · obtain _ | _ | _ | _ := previous <;> simp [Join.misplaced] at misplaced
      · exact other t.names blank
      · exact other [column] blank
    | onCondition c =>
      cases previous with
      | none => exact iff_of_false (by rintro ⟨⟩) (fun h ↦ Bool.false_ne_true h.1)
      | some p =>
        have placed : Join.misplaced ⟨t, kind, .onCondition c⟩ (some p) = [] := by cases p <;> rfl
        rw [faults, placed, List.nil_append, JoinMatch.faults]
        constructor
        · intro h
          cases hNames : blankFaults (.inFrom .blankName) t.names with
          | nil =>
            rw [hNames, List.nil_append, checkFaults] at h
            split at h
            · next silent =>
              cases h
              exact ⟨rfl, _, c, rfl, blankFaults_eq_nil_iff.mp hNames, rfl, silent, rfl⟩
            · cases eq_of_mem_blankFaults (List.mem_of_head? h)
          | cons e rest =>
            rw [hNames] at h
            exact absurd (hNames ▸ h) (listed t.names)
        · rintro ⟨-, _, c, ⟨⟩, named, ⟨⟩, silent, rfl⟩
          rw [blankFaults_eq_nil_iff.mpr named, List.nil_append, checkFaults, if_pos silent]
          rfl

end FromEntry

private theorem fromTemplate_eq_emptyCondition_iff {ctx : Context} {tables : List FromEntry}
    {n : String} : fromTemplate ctx tables = .error (.inFrom (.emptyCondition n)) ↔
      ∃ before j after c, tables = before ++ .join j :: after ∧
        (∃ t, fromTemplate ctx before = .ok t) ∧ (∀ name ∈ j.table.names, ¬Text.allBlank name) ∧
        j.rows = .onCondition c ∧ c.whereClause ctx = .ok [] ∧ n = j.table.name := by
  have start (before : List FromEntry) : (∃ t, fromTemplate ctx before = .ok t) ↔
      before.getLast?.isSome ∧ FromEntry.allFaults none before = [] := by
    rw [(outcome_fromTemplate ctx before).exists_eq_ok_iff, tableFaults]
    cases before with
    | nil => exact iff_of_false (List.cons_ne_nil _ _) fun h ↦ Bool.false_ne_true h.1
    | cons first before => simp
  rw [(outcome_fromTemplate ctx tables).eq_error_iff, tableFaults]
  cases tables with
  | nil => simp
  | cons first tables =>
    rw [List.isEmpty_cons, if_neg Bool.false_ne_true, FromEntry.head?_allFaults_eq_some_iff]
    simp only [Option.or_none, FromEntry.head?_faults_eq_emptyCondition_iff,
      Condition.whereClause_eq_nil_iff, start]
    constructor
    · rintro ⟨before, x, after, split, sound, behind, j, c, rfl, named, rows, silent, rfl⟩
      exact ⟨before, j, after, c, split, ⟨behind, sound⟩, named, rows, silent, rfl⟩
    · rintro ⟨before, j, after, c, split, ⟨behind, sound⟩, named, rows, silent, rfl⟩
      exact ⟨before, .join j, after, split, sound, behind, j, c, rfl, named, rows, silent, rfl⟩

/-! ## What a filter adds -/

/-- Conditions with and without SQL are told apart by `Condition.isEmpty`. A statement that compiles
is the same statement without its filter, but for what the filter adds behind the chain of tables,
the assignments or the table. A chain of tables is refused for a condition of a join if and only if
that condition has no SQL. -/
theorem filter_preserved (ctx : Context) :
    (∀ c : Condition, (c.isEmpty → c.whereClause ctx = .ok []) ∧
      (¬c.isEmpty → (∃ e, c.whereClause ctx = .error e) ∨
        ∃ body : Template, body.text ≠ "" ∧
          c.whereClause ctx = .ok (Template.ofString "WHERE " ++ body))) ∧
    (∀ (s : Statement) (q : Query), s.compile ctx = .ok q →
      ∃ head inserted tail, s.head ctx = .ok head ∧
        s.withoutFilter.compile ctx = .ok (.ofTemplate (head ++ tail)) ∧
        q = .ofTemplate (head ++ inserted ++ tail) ∧
        (inserted = [] ↔ ∀ c ∈ s.filter?, c.isEmpty) ∧
        ∀ c ∈ s.filter?, ¬c.isEmpty → ∃ body : Template, body.text ≠ "" ∧
          c.whereClause ctx = .ok (Template.ofString "WHERE " ++ body) ∧
          inserted = Template.ofString " WHERE " ++ body) ∧
    ∀ (tables : List FromEntry) (n : String),
      fromTemplate ctx tables = .error (.inFrom (.emptyCondition n)) ↔
        ∃ before j after c, tables = before ++ .join j :: after ∧
          (∃ t, fromTemplate ctx before = .ok t) ∧ (∀ name ∈ j.table.names, ¬Text.allBlank name) ∧
          j.rows = .onCondition c ∧ c.whereClause ctx = .ok [] ∧ n = j.table.name := by
  refine ⟨fun c ↦ ⟨Condition.whereClause_of_isEmpty, fun said ↦ ?_⟩, fun s q h ↦ ?_,
    fun tables n ↦ fromTemplate_eq_emptyCondition_iff⟩
  · cases hClause : c.whereClause ctx with
    | error e => exact .inl ⟨e, rfl⟩
    | ok t =>
      obtain ⟨body, nonempty, rfl⟩ := Condition.exists_of_whereClause_eq_ok said hClause
      exact .inr ⟨body, nonempty, rfl⟩
  · obtain ⟨t, ht, h⟩ := exists_of_bind_eq_ok h
    obtain ⟨head, inserted, tail, hHead, unfiltered, rfl, hInserts⟩ :=
      Statement.exists_of_template_eq_ok ht
    refine ⟨head, inserted, tail, hHead, ?_, (Except.ok.inj h).symm, ?_⟩
    · rw [Statement.compile, unfiltered]
      rfl
    · generalize s.filter? = filter at hInserts
      cases hInserts with
      | nothing silent =>
        exact ⟨iff_of_true rfl silent, fun c hc said ↦ absurd (silent c hc) said⟩
      | @clause c body said nonempty hClause =>
        refine ⟨iff_of_false (List.append_ne_nil_of_left_ne_nil ?_ _) fun silent ↦
          said (silent c rfl), ?_⟩
        · rw [Ne, Template.ofString_eq_nil_iff]
          decide +kernel
        · rintro _ ⟨⟩ -
          exact ⟨body, nonempty, hClause, rfl⟩

/-- A group of members that say nothing, as one of two alternatives and as the condition of a
join. -/
theorem filter_preserved_silent :
    let silent := Condition.all [.raw " ", Condition.any []]
    let filter := Condition.any [silent, Column.compare "a" .equal (.placeholder (.token "a"))]
    silent.whereClause .standard = .ok [] ∧
    (∃ head inserted tail : Template, inserted ≠ [] ∧
      (Statement.delete ⟨"t", some filter⟩).compile .standard =
        .ok ⟨"DELETE FROM \"t\" WHERE ( \"a\" = ? )", [.token "a"]⟩ ∧
      .ofTemplate (head ++ inserted ++ tail) =
        (⟨"DELETE FROM \"t\" WHERE ( \"a\" = ? )", [.token "a"]⟩ : Query) ∧
      (Statement.delete ⟨"t", none⟩).compile .standard = .ok (.ofTemplate (head ++ tail))) ∧
    fromTemplate .standard [.table ⟨"t", none⟩, .join ⟨⟨"u", none⟩, .inner, .onCondition silent⟩] =
      .error (.inFrom (.emptyCondition "u")) := by
  intro silent filter
  obtain ⟨conditions, statements, chains⟩ := filter_preserved .standard
  have compiled : (Statement.delete ⟨"t", some filter⟩).compile .standard =
      .ok ⟨"DELETE FROM \"t\" WHERE ( \"a\" = ? )", [.token "a"]⟩ := by decide +kernel
  obtain ⟨head, inserted, tail, -, unfiltered, whole, kept, -⟩ := statements _ _ compiled
  have said : inserted ≠ [] := fun none ↦ Bool.false_ne_true (kept.mp none filter rfl)
  have start : ∃ t, fromTemplate .standard [.table ⟨"t", none⟩] = .ok t :=
    (outcome_fromTemplate .standard _).exists_eq_ok_iff.mpr (by decide +kernel)
  exact ⟨(conditions silent).1 (by decide +kernel),
    ⟨head, inserted, tail, said, compiled, whole.symm, unfiltered⟩,
    (chains _ _).mpr ⟨[.table ⟨"t", none⟩], _, [], silent, rfl, start, by decide +kernel, rfl,
      (conditions silent).1 (by decide +kernel), rfl⟩⟩

end PreparedSql
