import PreparedSql.Proofs.Swapping

/-!
# Loading statements with tokens in place of scalars

A description with tokens in place of some of its scalars is loaded if the description is. A record
is read field by field, and how its documents may differ depends on the field; so reading a record
is simulated once, for any relation that each of its fields respects, and the four kinds of
statements say what that relation is for theirs.

## Main definitions

* `Json.StatementSwapped`: descriptions that differ in tokens in place of scalars.
* `RecordField.Respects`: a field that keeps records related.

## Main statements

* `Record.read_alike`: reading related records.
* `Statement.ofJson_swapped`: loading related descriptions.
-/

namespace PreparedSql

variable {values : List (String × Json)} {d d' : Json}

/-! ## Chains -/

namespace Json

variable {R : String → Json → Json → Prop} {members members' : List (String × Json)}

theorem lookup_alike (h : List.Forall₂ (Alike R) members members') (key : String) :
    Option.Rel (R key) (members.lookup key) (members'.lookup key) := by
  induction h with
  | nil => exact .none
  | @cons m n ms ns first _ ih =>
    obtain ⟨k, d⟩ := m
    obtain ⟨_, d'⟩ := n
    obtain ⟨rfl, hd⟩ := first
    rw [List.lookup_cons, List.lookup_cons]
    cases same : key == k with
    | true => exact .some (eq_of_beq same ▸ hd)
    | false => exact ih

/-- Members that differ at most behind `on`. -/
abbrev EntryMembersSwapped (values : List (String × Json)) :
    List (String × Json) → List (String × Json) → Prop :=
  List.Forall₂ (Alike fun key d d' ↦ d = d' ∨ key = "on" ∧ d.ConditionSwapped values d')

theorem EntryMembersSwapped.lookup_eq (h : EntryMembersSwapped values members members')
    {key : String} (hKey : key ≠ "on") : members.lookup key = members'.lookup key := by
  have related := lookup_alike h key
  generalize members.lookup key = o at related ⊢
  generalize members'.lookup key = o' at related ⊢
  cases related with
  | none => rfl
  | some h =>
    rcases h with rfl | ⟨isOn, -⟩
    · rfl
    · exact absurd isOn hKey

private theorem EntryMembersSwapped.lookup_on (h : EntryMembersSwapped values members members') :
    Option.Rel (ConditionSwapped values) (members.lookup "on") (members'.lookup "on") := by
  have related := lookup_alike h "on"
  generalize members.lookup "on" = o at related ⊢
  generalize members'.lookup "on" = o' at related ⊢
  cases related with
  | none => exact .none
  | some h =>
    rcases h with rfl | ⟨-, h⟩
    · exact .some (.refl _)
    · exact .some h

private theorem EntryMembersSwapped.filter_eq (h : EntryMembersSwapped values members members') :
    (members.filter fun (key, _) ↦ !entryKeys.contains key) =
      members'.filter fun (key, _) ↦ !entryKeys.contains key := by
  induction h with
  | nil => rfl
  | @cons m n ms ns first _ ih =>
    obtain ⟨k, d⟩ := m
    obtain ⟨_, d'⟩ := n
    obtain ⟨rfl, hd⟩ := first
    rw [List.filter_cons, List.filter_cons, ih]
    rcases hd with rfl | ⟨rfl, -⟩ <;> rfl

end Json

theorem TableName.ofMembers_swapped {members members' : List (String × Json)}
    (h : Json.EntryMembersSwapped values members members') :
    Simulates Eq (ofMembers members) (ofMembers members') := by
  have name : members.lookup "name" = members'.lookup "name" := h.lookup_eq (by decide)
  have aliased : members.lookup "as" = members'.lookup "as" := h.lookup_eq (by decide)
  rw [ofMembers, ofMembers]
  dsimp only
  rw [h.filter_eq, name, aliased]
  generalize members'.filter _ = short
  generalize members'.lookup "name" = named
  split
  · exact .refl (fun _ ↦ rfl) _
  · split
    · exact .error _ _
    · exact .refl (fun _ ↦ rfl) _
  · exact .error _ _

theorem JoinMatch.ofMembers?_swapped {table : String} {members members' : List (String × Json)}
    (h : Json.EntryMembersSwapped values members members') :
    Simulates (Option.Rel (JoinMatch.Related (swapping values))) (ofMembers? table members)
      (ofMembers? table members') := by
  have shared : members.lookup "using" = members'.lookup "using" := h.lookup_eq (by decide)
  have condition := h.lookup_on
  rw [ofMembers?, ofMembers?, shared]
  generalize members.lookup "on" = on at condition ⊢
  generalize members'.lookup "on" = on' at condition ⊢
  generalize members'.lookup "using" = shared
  cases condition with
  | none =>
    cases shared with
    | none => exact Simulates.ok .none
    | some column =>
      exact (Simulates.refl (fun _ ↦ rfl) (requireText "using" column)).bind fun _ _ same ↦
        Simulates.ok (.some (.shared same))
  | some h =>
    cases shared with
    | none =>
      exact (Condition.ofJson_swapped h).bind fun _ _ related ↦
        Simulates.ok (.some (.onCondition related))
    | some => exact .error _ _

namespace FromEntry

theorem ofMembers_swapped {members members' : List (String × Json)}
    (h : Json.EntryMembersSwapped values members members') :
    Simulates (FromEntry.Related (swapping values)) (ofMembers members) (ofMembers members') := by
  have raw : members.lookup "raw" = members'.lookup "raw" := h.lookup_eq (by decide)
  have join : members.lookup "join" = members'.lookup "join" := h.lookup_eq (by decide)
  rw [ofMembers, ofMembers, raw, h.length_eq, join]
  generalize members'.lookup "raw" = raw
  split
  · split
    · exact Simulates.ok (.raw rfl)
    · exact .error _ _
  · exact .error _ _
  · refine (TableName.ofMembers_swapped h).bind fun table _ same ↦ ?_
    subst same
    have tables : table.Related (swapping values) table :=
      table.related_self (swapping_follows values)
    refine (JoinMatch.ofMembers?_swapped h).bind fun rows rows' hRows ↦ ?_
    refine (Simulates.refl (fun _ ↦ rfl) _).bind fun kind _ same ↦ ?_
    subst same
    cases hRows with
    | some hRows => exact Simulates.ok (.join ⟨tables, rfl, hRows⟩)
    | none =>
      dsimp only
      split
      · exact .error _ _
      · exact Simulates.ok (.table tables)

theorem ofJson_swapped (h : d.EntrySwapped values d') :
    Simulates (FromEntry.Related (swapping values)) (ofJson d) (ofJson d') := by
  cases h with
  | refl => exact .refl (fun e ↦ e.related_self (swapping_follows values) fun _ _ ↦ rfl) _
  | members h => exact ofMembers_swapped h

theorem listOfJson_swapped (h : d.TablesSwapped values d') :
    Simulates (List.Forall₂ (FromEntry.Related (swapping values))) (listOfJson d)
      (listOfJson d') := by
  cases h with
  | items h => exact .mapM (h.imp fun _ _ ↦ ofJson_swapped)
  | entry h =>
    cases h with
    | refl =>
      refine .refl (fun es ↦ List.forall₂_same.mpr fun e _ ↦ ?_) _
      exact e.related_self (swapping_follows values) fun _ _ ↦ rfl
    | members h =>
      exact (ofJson_swapped (.members h)).bind fun _ _ related ↦
        Simulates.ok (.cons related .nil)

end FromEntry

/-! ## Records -/

section Records

/-- Items that are related by the names of the fields at their positions. -/
inductive Json.ItemsAlike (R : String → Json → Json → Prop) :
    List String → List Json → List Json → Prop
  | nil (names : List String) : ItemsAlike R names [] []
  | cons {name : String} {names : List String} {d d' : Json} {items items' : List Json}
      (h : R name d d') (rest : ItemsAlike R names items items') :
      ItemsAlike R (name :: names) (d :: items) (d' :: items')

/-- Documents that give the fields of a record, by name or by position. -/
inductive Json.RecordAlike (R : String → Json → Json → Prop) (names : List String) :
    Json → Json → Prop
  | members {members members' : List (String × Json)}
      (h : List.Forall₂ (Alike R) members members') :
      RecordAlike R names (.object members) (.object members')
  | items {items items' : List Json} (h : ItemsAlike R names items items') :
      RecordAlike R names (.array items) (.array items')

variable {α : Type} {record : Record α} {P : α → α → Prop} {R : String → Json → Json → Prop}

/-- Related documents are put into related records with related results. -/
def RecordField.Respects (P : α → α → Prop) (R : String → Json → Json → Prop)
    (field : RecordField α) : Prop :=
  ∀ a a' d d', P a a' → R field.name d d' → Simulates P (field.put a d) (field.put a' d')

private theorem Record.putMembers_alike (put : ∀ field ∈ record.fields, field.Respects P R)
    {members members' : List (String × Json)} (h : List.Forall₂ (Json.Alike R) members members')
    {a a' : α} (seen : List String) (ha : P a a') :
    Simulates P (record.putMembers a seen members) (record.putMembers a' seen members') := by
  -- each member changes the records, and which names were seen
  induction h generalizing a a' seen with
  | nil =>
    rw [putMembers, putMembers]
    split
    · exact .error _ _
    · exact Simulates.ok ha
  | @cons m n ms ns first _ ih =>
    obtain ⟨name, d⟩ := m
    obtain ⟨_, d'⟩ := n
    obtain ⟨rfl, hd⟩ := first
    rw [putMembers, putMembers]
    cases found : record.fields.find? fun field ↦ field.name == name with
    | none => exact .error _ _
    | some field =>
      dsimp only
      split
      · exact .error _ _
      · have named : field.name = name := by simpa using List.find?_some found
        have respects := put field (List.mem_of_find?_eq_some found)
        exact (respects a a' d d' ha (named ▸ hd)).bind fun _ _ hb ↦ ih (name :: seen) hb

private theorem Record.putItems_alike {fields : List (RecordField α)}
    (put : ∀ field ∈ fields, field.Respects P R) {items items' : List Json}
    (h : Json.ItemsAlike R (fields.map RecordField.name) items items') {a a' : α} (position : Nat)
    (ha : P a a') :
    Simulates P (record.putItems a position fields items)
      (record.putItems a' position fields items') := by
  -- the induction is on the fields, because the items may end before them
  induction fields generalizing items items' a a' position with
  | nil =>
    cases h with
    | nil => exact Simulates.ok ha
  | cons field fields ih =>
    rw [List.forall_mem_cons] at put
    cases h with
    | nil =>
      rw [putItems, putItems]
      split
      · exact .error _ _
      · exact ih put.2 (.nil _) (position + 1) ha
    | cons hd rest =>
      rw [putItems, putItems]
      exact (put.1 _ _ _ _ ha hd).bind fun _ _ hb ↦ ih put.2 rest (position + 1) hb

theorem Record.read_alike (initial : P record.initial record.initial)
    (put : ∀ field ∈ record.fields, field.Respects P R)
    (h : d.RecordAlike R (record.fields.map RecordField.name) d') :
    Simulates P (record.read d) (record.read d') := by
  cases h with
  | members h => exact putMembers_alike put h [] initial
  | items h => exact putItems_alike put h 0 initial

end Records

/-! ## Statements -/

section Fields

variable (values)

def Json.SelectField (name : String) : Json → Json → Prop :=
  if name = "from" then TablesSwapped values
  else if name = "where" then ConditionSwapped values
  else if name ∈ ["limit", "offset"] then CountSwapped values
  else Eq

def Json.InsertField (name : String) : Json → Json → Prop :=
  if name = "values" then CellsSwapped values else Eq

def Json.UpdateField (name : String) : Json → Json → Prop :=
  if name = "set" then AssignmentsSwapped values
  else if name = "where" then ConditionSwapped values
  else Eq

def Json.DeleteField (name : String) : Json → Json → Prop :=
  if name = "where" then ConditionSwapped values else Eq

/-- Documents of statements that differ where values are bound. -/
inductive Json.StatementSwapped : Json → Json → Prop
  | select {d d' : Json}
      (h : d.RecordAlike (SelectField values) (SelectParts.record.fields.map RecordField.name) d') :
      StatementSwapped (.object [("select", d)]) (.object [("select", d')])
  | insert {d d' : Json}
      (h : d.RecordAlike (InsertField values) (InsertParts.record.fields.map RecordField.name) d') :
      StatementSwapped (.object [("insert", d)]) (.object [("insert", d')])
  | update {d d' : Json}
      (h : d.RecordAlike (UpdateField values) (UpdateParts.record.fields.map RecordField.name) d') :
      StatementSwapped (.object [("update", d)]) (.object [("update", d')])
  | delete {d d' : Json}
      (h : d.RecordAlike (DeleteField values) (DeleteParts.record.fields.map RecordField.name) d') :
      StatementSwapped (.object [("delete", d)]) (.object [("delete", d')])

structure SelectParts.Swapped (p p' : SelectParts) : Prop where
  fields : p.fields = p'.fields
  tables : p.tables.TablesSwapped values p'.tables
  filter : Option.Rel (Json.ConditionSwapped values) p.filter p'.filter
  groupBy : p.groupBy = p'.groupBy
  orderBy : p.orderBy = p'.orderBy
  limit : Option.Rel (Json.CountSwapped values) p.limit p'.limit
  offset : Option.Rel (Json.CountSwapped values) p.offset p'.offset

structure InsertParts.Swapped (p p' : InsertParts) : Prop where
  table : p.table = p'.table
  columns : p.columns = p'.columns
  cells : p.values.CellsSwapped values p'.values

structure UpdateParts.Swapped (p p' : UpdateParts) : Prop where
  table : p.table = p'.table
  assignments : List.Forall₂ (Json.Alike fun _ ↦ Json.Swapped values) p.assignments p'.assignments
  filter : Option.Rel (Json.ConditionSwapped values) p.filter p'.filter

structure DeleteParts.Swapped (p p' : DeleteParts) : Prop where
  table : p.table = p'.table
  filter : Option.Rel (Json.ConditionSwapped values) p.filter p'.filter

end Fields

private theorem optionalPart_swapped {R : Json → Json → Prop}
    (hNull : d = .null ↔ d' = .null) (h : R d d') :
    Simulates (Option.Rel R) (optionalPart d) (optionalPart d') := by
  by_cases null : d = .null
  · rw [null, hNull.mp null]
    exact Simulates.ok .none
  · have given {d : Json} (hd : d ≠ .null) : optionalPart d = .ok (some d) := by
      cases d with
      | null => exact absurd rfl hd
      | bool | integer | double | text | array | object => rfl
    rw [given null, given (mt hNull.mpr null)]
    exact Simulates.ok (.some h)

theorem Json.ConditionSwapped.optionalPart (h : d.ConditionSwapped values d') :
    Simulates (Option.Rel (ConditionSwapped values)) (optionalPart d) (optionalPart d') := by
  refine optionalPart_swapped ?_ h
  cases h with
  | refl => exact Iff.rfl
  | items | members => exact iff_of_false nofun nofun

private theorem Json.CountSwapped.optionalPart (h : d.CountSwapped values d') :
    Simulates (Option.Rel (CountSwapped values)) (optionalPart d) (optionalPart d') := by
  refine optionalPart_swapped ?_ h
  cases h with
  | refl => exact Iff.rfl
  | token => exact iff_of_false nofun nofun

private theorem SelectParts.respects : ∀ field ∈ SelectParts.record.fields,
    field.Respects (SelectParts.Swapped values) (Json.SelectField values) := by
  have same (d : Json) : Simulates Eq (optionalPart d) (optionalPart d) := .refl (fun _ ↦ rfl) _
  simp only [SelectParts.record, List.forall_mem_cons]
  refine ⟨?_, ?_, ?_, ?_, ?_, ?_, ?_, nofun⟩
  · rintro p p' d _ hp rfl
    exact (same d).bind fun _ _ h ↦ Simulates.ok { hp with fields := h }
  · intro p p' d d' hp hd
    exact Simulates.ok { hp with tables := hd }
  · intro p p' d d' hp hd
    exact (Json.ConditionSwapped.optionalPart hd).bind fun _ _ h ↦
      Simulates.ok { hp with filter := h }
  · rintro p p' d _ hp rfl
    exact (same d).bind fun _ _ h ↦ Simulates.ok { hp with groupBy := h }
  · rintro p p' d _ hp rfl
    exact (same d).bind fun _ _ h ↦ Simulates.ok { hp with orderBy := h }
  · intro p p' d d' hp hd
    exact (Json.CountSwapped.optionalPart hd).bind fun _ _ h ↦ Simulates.ok { hp with limit := h }
  · intro p p' d d' hp hd
    exact (Json.CountSwapped.optionalPart hd).bind fun _ _ h ↦ Simulates.ok { hp with offset := h }

private theorem InsertParts.respects : ∀ field ∈ InsertParts.record.fields,
    field.Respects (InsertParts.Swapped values) (Json.InsertField values) := by
  simp only [InsertParts.record, List.forall_mem_cons]
  refine ⟨?_, ?_, ?_, nofun⟩
  · rintro p p' d _ hp rfl
    exact (Simulates.refl (fun _ ↦ rfl) d.asText).bind fun _ _ h ↦
      Simulates.ok { hp with table := h }
  · rintro p p' d _ hp rfl
    refine (Simulates.refl (fun _ ↦ rfl) d.asItems).bind fun items _ same ↦ ?_
    subst same
    exact (Simulates.refl (fun _ ↦ rfl) (items.mapM Json.asText)).bind fun _ _ h ↦
      Simulates.ok { hp with columns := h }
  · intro p p' d d' hp hd
    exact Simulates.ok { hp with cells := hd }

private theorem UpdateParts.respects : ∀ field ∈ UpdateParts.record.fields,
    field.Respects (UpdateParts.Swapped values) (Json.UpdateField values) := by
  simp only [UpdateParts.record, List.forall_mem_cons]
  refine ⟨?_, ?_, ?_, nofun⟩
  · rintro p p' d _ hp rfl
    exact (Simulates.refl (fun _ ↦ rfl) d.asText).bind fun _ _ h ↦
      Simulates.ok { hp with table := h }
  · rintro p p' _ _ hp ⟨h⟩
    exact Simulates.ok { hp with assignments := h }
  · intro p p' d d' hp hd
    exact (Json.ConditionSwapped.optionalPart hd).bind fun _ _ h ↦
      Simulates.ok { hp with filter := h }

private theorem DeleteParts.respects : ∀ field ∈ DeleteParts.record.fields,
    field.Respects (DeleteParts.Swapped values) (Json.DeleteField values) := by
  simp only [DeleteParts.record, List.forall_mem_cons]
  refine ⟨?_, ?_, nofun⟩
  · rintro p p' d _ hp rfl
    exact (Simulates.refl (fun _ ↦ rfl) d.asText).bind fun _ _ h ↦
      Simulates.ok { hp with table := h }
  · intro p p' d d' hp hd
    exact (Json.ConditionSwapped.optionalPart hd).bind fun _ _ h ↦
      Simulates.ok { hp with filter := h }

private theorem optionalOfJson_swapped {α β : Type} {P : α → β → Prop} {R : Json → Json → Prop}
    {f : Json → Except DescriptionError α} {g : Json → Except DescriptionError β}
    {o o' : Option Json} (h : Option.Rel R o o')
    (read : ∀ d d', R d d' → Simulates P (f d) (g d')) :
    Simulates (Option.Rel P) (optionalOfJson f o) (optionalOfJson g o') := by
  cases h with
  | none => exact Simulates.ok .none
  | some h => exact (read _ _ h).map fun _ _ ↦ .some

theorem Binding.countOfJson_swapped {what : String} (h : d.CountSwapped values d') :
    Simulates (Binding.Swapped values) (countOfJson what d) (countOfJson what d') := by
  cases h with
  | refl => exact .refl .refl _
  | @token n name mem =>
    intro b hb
    refine ⟨.token name, rfl, ?_⟩
    rw [countOfJson, Json.Scalar.binding (.integer n)] at hb
    have same : .value (.ofInteger n) = b := by
      cases value : Value.ofInteger n with
      | int => exact Except.ok.inj (value ▸ hb)
      | null | bool | float | text | blob =>
        rw [value] at hb
        exact nomatch hb
    exact same ▸ .token (.integer n) mem

theorem Select.ofParts_swapped {p p' : SelectParts} (h : p.Swapped values p') :
    Simulates (Select.Related (swapping values)) (ofParts p) (ofParts p') := by
  have fields (fs : List Field) : List.Forall₂ (Field.Related (swapping values)) fs fs := by
    refine List.forall₂_same.mpr fun f _ ↦ ?_
    cases f with
    | column => exact .column rfl
    | raw => exact .raw rfl
  rw [ofParts, ofParts, h.fields, h.groupBy, h.orderBy]
  refine (Simulates.refl (fun _ ↦ rfl) _).bind fun fs _ same ↦ ?_
  subst same
  refine (FromEntry.listOfJson_swapped h.tables).bind fun tables tables' hTables ↦ ?_
  refine (optionalOfJson_swapped h.filter fun _ _ ↦ Condition.ofJson_swapped).bind
    fun filter filter' hFilter ↦ ?_
  refine (Simulates.refl (fun _ ↦ rfl) _).bind fun groupBy _ same ↦ ?_
  subst same
  refine (Simulates.refl (fun _ ↦ rfl) _).bind fun orderBy _ same ↦ ?_
  subst same
  refine (optionalOfJson_swapped h.limit fun _ _ ↦ Binding.countOfJson_swapped).bind
    fun limit limit' hLimit ↦ ?_
  refine (optionalOfJson_swapped h.offset fun _ _ ↦ Binding.countOfJson_swapped).bind
    fun offset offset' hOffset ↦ ?_
  exact Simulates.ok ⟨fields _, hTables, hFilter, List.forall₂_same.mpr fun _ _ ↦ rfl,
    List.forall₂_same.mpr fun _ _ ↦ ⟨rfl, rfl⟩, hLimit, hOffset⟩

private theorem Json.Swapped.items?_eq (h : d.Swapped values d') : d.items? = d'.items? := by
  cases h with
  | refl => rfl
  | token scalar => cases scalar <;> rfl

private theorem Binding.mapM_swapped {items items' : List Json}
    (h : List.Forall₂ (Json.Swapped values) items items') :
    Simulates (List.Forall₂ (Binding.Swapped values)) (items.mapM ofJson) (items'.mapM ofJson) :=
  .mapM (h.imp fun _ _ ↦ ofJson_swapped)

private theorem exists_rows_of_swapped {items items' : List Json}
    (h : List.Forall₂ (Json.RowSwapped values) items items') :
    ∃ rows rows', items.mapM Json.items? = some rows ∧ items'.mapM Json.items? = some rows' ∧
      List.Forall₂ (List.Forall₂ (Json.Swapped values)) rows rows' := by
  induction h with
  | nil => exact ⟨[], [], rfl, rfl, .nil⟩
  | cons first _ ih =>
    obtain ⟨rows, rows', hRows, hRows', related⟩ := ih
    cases first with
    | @cells cells cells' h =>
      refine ⟨cells :: rows, cells' :: rows', ?_, ?_, .cons h related⟩
      · rw [List.mapM_cons, hRows]
        rfl
      · rw [List.mapM_cons, hRows']
        rfl

/-- Columns and rows with tokens in place of values. -/
def CellsRelated (values : List (String × Json)) (t t' : List String × List (List Binding)) :
    Prop :=
  t.1 = t'.1 ∧ List.Forall₂ (List.Forall₂ (Binding.Swapped values)) t.2 t'.2

theorem CellsRelated.refl (t : List String × List (List Binding)) : CellsRelated values t t :=
  ⟨rfl, List.forall₂_same.mpr fun _ _ ↦ List.forall₂_same.mpr fun b _ ↦ .refl b⟩

theorem Insert.cellsOfJson_swapped (columns : List String) (h : d.CellsSwapped values d') :
    Simulates (CellsRelated values) (cellsOfJson columns d) (cellsOfJson columns d') := by
  cases h with
  | refl => exact .refl .refl _
  | @members members members' h =>
    cases columns with
    | cons => exact .error _ _
    | nil =>
      have cells : Simulates (List.Forall₂ (Binding.Swapped values))
          (members.mapM fun (_, document) ↦ Binding.ofJson document)
          (members'.mapM fun (_, document) ↦ Binding.ofJson document) :=
        .mapM (h.imp fun _ _ hm ↦ Binding.ofJson_swapped hm.2)
      exact cells.bind fun _ _ related ↦
        Simulates.ok ⟨Json.map_fst_eq_of_alike h, .cons related .nil⟩
  | @rows rows rows' h =>
    cases columns with
    | nil => exact .error _ _
    | cons =>
      obtain ⟨cells, cells', hCells, hCells', related⟩ := exists_rows_of_swapped h
      rw [cellsOfJson, cellsOfJson, hCells, hCells']
      exact (Simulates.mapM (related.imp fun _ _ ↦ Binding.mapM_swapped)).bind
        fun _ _ related ↦ Simulates.ok ⟨rfl, related⟩
  | @row cells cells' h =>
    cases columns with
    | nil => exact .error _ _
    | cons =>
      -- neither a scalar nor a token is a row, so that both lists have rows or both are one
      have same : cells.mapM Json.items? = cells'.mapM Json.items? :=
        mapM_eq_of_forall₂ (h.imp fun _ _ ↦ Json.Swapped.items?_eq)
      rw [cellsOfJson, cellsOfJson, same]
      cases cells'.mapM Json.items? with
      | some => exact .refl .refl _
      | none =>
        exact (Binding.mapM_swapped h).bind fun _ _ related ↦
          Simulates.ok ⟨rfl, .cons related .nil⟩

theorem Insert.ofParts_swapped {p p' : InsertParts} (h : p.Swapped values p') :
    Simulates (Insert.Related (swapping values)) (ofParts p) (ofParts p') := by
  rw [ofParts, ofParts, h.columns, h.table]
  refine (Insert.cellsOfJson_swapped p'.columns h.cells).bind ?_
  rintro ⟨columns, rows⟩ ⟨_, rows'⟩ ⟨rfl, related⟩
  exact Simulates.ok ⟨rfl, List.forall₂_same.mpr fun _ _ ↦ rfl, related⟩

theorem Update.ofParts_swapped {p p' : UpdateParts} (h : p.Swapped values p') :
    Simulates (Update.Related (swapping values)) (ofParts p) (ofParts p') := by
  rw [ofParts, ofParts, h.table]
  have assignments : Simulates
      (List.Forall₂ fun a a' ↦ a.1 = a'.1 ∧ a.2.Related (swapping values) a'.2)
      (p.assignments.mapM fun (column, document) ↦ do
        return (column, ← Operand.ofJson document))
      (p'.assignments.mapM fun (column, document) ↦ do
        return (column, ← Operand.ofJson document)) := by
    refine .mapM (h.assignments.imp ?_)
    rintro ⟨column, d⟩ ⟨_, d'⟩ ⟨rfl, hd⟩
    exact (Operand.ofJson_swapped hd).bind fun _ _ related ↦ Simulates.ok ⟨rfl, related⟩
  refine assignments.bind fun assignments assignments' hAssignments ↦ ?_
  exact (optionalOfJson_swapped h.filter fun _ _ ↦ Condition.ofJson_swapped).bind
    fun _ _ hFilter ↦ Simulates.ok ⟨rfl, hAssignments, hFilter⟩

theorem Delete.ofParts_swapped {p p' : DeleteParts} (h : p.Swapped values p') :
    Simulates (Delete.Related (swapping values)) (ofParts p) (ofParts p') := by
  rw [ofParts, ofParts, h.table]
  exact (optionalOfJson_swapped h.filter fun _ _ ↦ Condition.ofJson_swapped).bind
    fun _ _ hFilter ↦ Simulates.ok ⟨rfl, hFilter⟩

/-- A description with tokens in place of scalars is loaded as the statement with tokens in place of
their values. -/
theorem Statement.ofJson_swapped (h : d.StatementSwapped values d') :
    Simulates (Statement.Related (swapping values)) (ofJson d) (ofJson d') := by
  cases h with
  | select h =>
    have initial : (SelectParts.record.initial).Swapped values SelectParts.record.initial :=
      ⟨rfl, .entry (.refl _), .none, rfl, rfl, .none, .none⟩
    refine ((Record.read_alike initial SelectParts.respects h).mapError _).bind fun _ _ hp ↦ ?_
    exact (Select.ofParts_swapped hp).bind fun _ _ related ↦ Simulates.ok (.select related)
  | insert h =>
    have initial : (InsertParts.record.initial).Swapped values InsertParts.record.initial :=
      ⟨rfl, rfl, .refl _⟩
    refine ((Record.read_alike initial InsertParts.respects h).mapError _).bind fun _ _ hp ↦ ?_
    exact (Insert.ofParts_swapped hp).bind fun _ _ related ↦ Simulates.ok (.insert related)
  | update h =>
    have initial : (UpdateParts.record.initial).Swapped values UpdateParts.record.initial :=
      ⟨rfl, .nil, .none⟩
    refine ((Record.read_alike initial UpdateParts.respects h).mapError _).bind fun _ _ hp ↦ ?_
    exact (Update.ofParts_swapped hp).bind fun _ _ related ↦ Simulates.ok (.update related)
  | delete h =>
    have initial : (DeleteParts.record.initial).Swapped values DeleteParts.record.initial :=
      ⟨rfl, .none⟩
    refine ((Record.read_alike initial DeleteParts.respects h).mapError _).bind fun _ _ hp ↦ ?_
    exact (Delete.ofParts_swapped hp).bind fun _ _ related ↦ Simulates.ok (.delete related)

end PreparedSql
