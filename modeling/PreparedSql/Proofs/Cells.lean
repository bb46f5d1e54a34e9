import PreparedSql.Description.Statement
import PreparedSql.Proofs.Denotation
import PreparedSql.Proofs.Outcome

/-!
# The cells of insertions in descriptions

The values of an insertion can be given in three ways: by column, as an object; as a list of rows
behind a list of columns; and as a single row behind a list of columns. The first way is the second
one with the keys of the object as columns and one row of its values, in the order of the keys, and
so is the third one, unless a value of the row is an array.

Rows keep their order and their cells. An insertion that compiles binds them row by row, so the cell
of a row and a column stands at the place that both of them determine.

## Main definitions

* `Json.DenotesCell`: the binding that a cell stands for.
* `Json.DescribesInsertion`: the documents that describe an insertion.

## Main statements

* `Statement.ofJson_canonical_insertion`: loading a description of an insertion.
* `getElem?_flatten_of_length`: the place of a cell among all cells.
* `Statement.ofJson_canonical_cells`: the ways to give values agree, and where cells are bound.
-/

namespace PreparedSql

/-! ## Cells -/

/-- The binding that a cell stands for: a scalar binds its value, and an object whose only member is
a token binds the token. -/
def Json.DenotesCell (d : Json) (b : Binding) : Prop := d.DenotesOperand (.placeholder b)

/-- The documents that can be cells. -/
def Json.IsCell (d : Json) : Prop := ∃ b, d.DenotesCell b

private theorem Json.IsScalar.isCell {d : Json} (h : d.IsScalar) : d.IsCell := by
  obtain ⟨v, hd⟩ := exists_scalar_iff.mpr h
  exact ⟨_, .scalar h (scalar_iff.mp hd).2⟩

theorem Binding.ofJson_eq_ok_iff {d : Json} {b : Binding} :
    ofJson d = .ok b ↔ Operand.ofJson d = .ok (.placeholder b) := by
  rcases d.scalar_or with ⟨v, scalar⟩ | ⟨items, rfl⟩ | ⟨members, rfl⟩
  · rw [scalar.binding, scalar.operand]
    simp
  · exact iff_of_false nofun nofun
  · rw [ofJson_object_eq_ok_iff, Operand.ofJson_object_eq_ok_iff]
    simp

theorem Binding.ofJson_canonical_eq_ok_iff {d : Json} {b : Binding} :
    ofJson d.canonical = .ok b ↔ d.DenotesCell b := by
  rw [ofJson_eq_ok_iff, Operand.ofJson_canonical_eq_ok_iff, Json.DenotesCell]

theorem Binding.mapM_canonical_eq_ok_iff {row : List Json} {bs : List Binding} :
    (row.map Json.canonical).mapM ofJson = .ok bs ↔ List.Forall₂ Json.DenotesCell row bs := by
  rw [mapM_eq_ok_iff, List.forall₂_map_left_iff]
  simp only [ofJson_canonical_eq_ok_iff]

private theorem Json.mapM_items?_eq_some (rows : List (List Json)) :
    (rows.map array).mapM items? = some rows := by
  induction rows with
  | nil => rfl
  | cons row rows ih =>
    rw [List.map_cons, List.mapM_cons, ih]
    rfl

private theorem Json.DenotesCell.items?_canonical {d : Json} {b : Binding} (h : d.DenotesCell b) :
    d.canonical.items? = none := by
  cases h with
  | scalar h =>
    cases d with
    | array | object => exact h.elim
    | null | bool | integer | double | text => rfl
  | token h => rw [h.canonical_object]; rfl

namespace Insert

variable {columns : List String}

theorem cellsOfJson_rows (given : columns ≠ []) (rows : List (List Json)) :
    cellsOfJson columns (.array (rows.map .array)) =
      (do return (columns, ← rows.mapM fun cells ↦ cells.mapM Binding.ofJson)) := by
  obtain ⟨column, columns, rfl⟩ := List.exists_cons_of_ne_nil given
  rw [cellsOfJson, Json.mapM_items?_eq_some]

/-- Behind columns, a list that does not start with an array is a single row. -/
private theorem cellsOfJson_row (given : columns ≠ []) {first : Json} (notRow : first.items? = none)
    (rest : List Json) : cellsOfJson columns (.array (first :: rest)) =
      (do return (columns, [← (first :: rest).mapM Binding.ofJson])) := by
  obtain ⟨column, columns, rfl⟩ := List.exists_cons_of_ne_nil given
  rw [cellsOfJson, List.mapM_cons, notRow]
  rfl

private theorem cellsOfJson_members {members : List (String × Json)} (given : members ≠ []) :
    cellsOfJson [] (.object members) =
      cellsOfJson (members.map Prod.fst) (.array [.array (members.map Prod.snd)]) := by
  have named : members.map Prod.fst ≠ [] := mt List.map_eq_nil_iff.mp given
  have rows := cellsOfJson_rows named [members.map Prod.snd]
  rw [List.map_singleton] at rows
  have row : (members.map Prod.snd).mapM Binding.ofJson =
      members.mapM fun m ↦ Binding.ofJson m.2 := List.mapM_map
  have loaded : cellsOfJson [] (.object members) =
      (do return (members.map Prod.fst, [← members.mapM fun m ↦ Binding.ofJson m.2])) := rfl
  rw [loaded, rows, List.mapM_cons, List.mapM_nil, row]
  cases members.mapM fun m ↦ Binding.ofJson m.2 <;> rfl

end Insert

/-! ## Descriptions of insertions -/

/-- The record of an insertion into a table with these columns and values, by name or by
position. -/
inductive Json.IsInsertion (table : String) : Json → List String → Json → Prop
  | unlisted {members : List (String × Json)} {values : Json}
      (h : Sorts members [("table", .text table), ("values", values)]) :
      IsInsertion table (.object members) [] values
  | listed {members : List (String × Json)} {columns : List String} {values : Json}
      (h : Sorts members
        [("columns", .array (columns.map .text)), ("table", .text table), ("values", values)]) :
      IsInsertion table (.object members) columns values
  | positional (columns : List String) (values : Json) :
      IsInsertion table (.array [.text table, .array (columns.map .text), values]) columns values

/-- The documents that describe an insertion into a table with these columns and values. -/
inductive Json.DescribesInsertion (table : String) (columns : List String) : Json → Json → Prop
  | intro {members : List (String × Json)} {record values : Json}
      (h : Sorts members [("insert", record)]) (hRecord : record.IsInsertion table columns values) :
      DescribesInsertion table columns (.object members) values

private theorem mapM_asText_canonical (columns : List String) :
    ((columns.map Json.text).map Json.canonical).mapM Json.asText = .ok columns := by
  rw [mapM_eq_ok_iff, List.forall₂_map_left_iff, List.forall₂_map_left_iff]
  exact List.forall₂_same.mpr fun _ _ ↦ rfl

private theorem Json.IsInsertion.read_canonical {table : String} {columns : List String}
    {record values : Json} (h : record.IsInsertion table columns values) :
    InsertParts.record.read record.canonical = .ok ⟨table, columns, values.canonical⟩ := by
  have listed := mapM_asText_canonical columns
  cases h with
  | unlisted h =>
    rw [h.canonical_object]
    rfl
  | listed h =>
    rw [h.canonical_object]
    simp only [List.map_cons, List.map_nil, canonical_array]
    generalize (columns.map text).map canonical = items at listed ⊢
    simp [Record.read, Record.putMembers, InsertParts.record, asText, asItems, canonical,
      bind_eq_ok_iff, listed]
  | positional =>
    simp only [List.map_cons, List.map_nil, canonical_array]
    generalize (columns.map text).map canonical = items at listed ⊢
    simp [Record.read, Record.putItems, InsertParts.record, asText, asItems, canonical,
      bind_eq_ok_iff, listed]

theorem Statement.ofJson_canonical_insertion {table : String} {columns : List String}
    {d values : Json} (h : d.DescribesInsertion table columns values) :
    ofJson d.canonical = (Insert.cellsOfJson columns values.canonical).map fun cells ↦
      .insert ⟨table, cells.1, cells.2⟩ := by
  obtain @⟨members, record, _, h, hRecord⟩ := h
  have loaded : ofJson (.object [("insert", record.canonical)]) = (do
      let parts ← (InsertParts.record.read record.canonical).mapError .shape
      return insert (← Insert.ofParts parts)) := rfl
  rw [h.canonical_object, List.map_singleton, loaded, hRecord.read_canonical]
  change (do return insert (← Insert.ofParts ⟨table, columns, values.canonical⟩)) = _
  rw [Insert.ofParts]
  cases Insert.cellsOfJson columns values.canonical <;> rfl

/-! ## The place of a cell -/

section Places

variable {α : Type} {rows : List (List α)} {width : Nat}

private theorem length_flatten_of_length (h : ∀ row ∈ rows, row.length = width) :
    rows.flatten.length = rows.length * width := by
  induction rows with
  | nil => simp
  | cons row rows ih =>
    rw [List.forall_mem_cons] at h
    rw [List.flatten_cons, List.length_append, h.1, ih h.2, List.length_cons, Nat.succ_mul,
      Nat.add_comm]

/-- In rows of one width that follow each other, the place of a cell is counted by rows, and within
its row by columns. -/
theorem getElem?_flatten_of_length (h : ∀ row ∈ rows, row.length = width) {i j : Nat}
    {row : List α} (hRow : rows[i]? = some row) {cell : α} (hCell : row[j]? = some cell) :
    rows.flatten[i * width + j]? = some cell := by
  induction rows generalizing i with
  | nil => exact nomatch hRow
  | cons first rows ih =>
    rw [List.forall_mem_cons] at h
    rw [List.flatten_cons]
    cases i with
    | zero =>
      obtain rfl : first = row := Option.some.inj hRow
      rw [Nat.zero_mul, Nat.zero_add, List.getElem?_append_left, hCell]
      exact (List.getElem?_eq_some_iff.mp hCell).1
    | succ i =>
      have place : (i + 1) * width + j = first.length + (i * width + j) := by
        rw [h.1, Nat.succ_mul]
        omega
      rw [place, List.getElem?_append_right (Nat.le_add_right _ _), Nat.add_sub_cancel_left]
      exact ih h.2 hRow

end Places

/-! ## Values of insertions -/

namespace Statement

variable {table : String} {columns : List String} {d : Json}

theorem ofJson_canonical_rows_iff (given : columns ≠ []) {rows : List (List Json)} {s : Statement}
    (hd : d.DescribesInsertion table columns (.array (rows.map .array))) :
    ofJson d.canonical = .ok s ↔ ∃ cells,
      List.Forall₂ (List.Forall₂ Json.DenotesCell) rows cells ∧
        .insert ⟨table, columns, cells⟩ = s := by
  have canonical : (Json.array (rows.map .array)).canonical =
      .array ((rows.map (List.map Json.canonical)).map .array) := by
    rw [Json.canonical_array, List.map_map, List.map_map]
    exact congrArg _ (List.map_congr_left fun row _ ↦ Json.canonical_array row)
  have loaded {cells : List (List Binding)} : (rows.map (List.map Json.canonical)).mapM
      (fun cells ↦ cells.mapM Binding.ofJson) = .ok cells ↔
        List.Forall₂ (List.Forall₂ Json.DenotesCell) rows cells := by
    rw [mapM_eq_ok_iff, List.forall₂_map_left_iff]
    simp only [Binding.mapM_canonical_eq_ok_iff]
  rw [ofJson_canonical_insertion hd, canonical, Insert.cellsOfJson_rows given, map_eq_ok_iff]
  simp only [bind_pure_eq_ok_iff, loaded]
  constructor
  · rintro ⟨_, ⟨cells, h, rfl⟩, rfl⟩
    exact ⟨cells, h, rfl⟩
  · rintro ⟨cells, h, rfl⟩
    exact ⟨_, ⟨cells, h, rfl⟩, rfl⟩

private theorem ofJson_canonical_row (given : columns ≠ []) {row : List Json} (hRow : row ≠ [])
    {cells : List Binding} (h : List.Forall₂ Json.DenotesCell row cells)
    (hd : d.DescribesInsertion table columns (.array row)) :
    ofJson d.canonical = .ok (.insert ⟨table, columns, [cells]⟩) := by
  obtain ⟨first, rest, rfl⟩ := List.exists_cons_of_ne_nil hRow
  have loaded := Binding.mapM_canonical_eq_ok_iff.mpr h
  rw [ofJson_canonical_insertion hd, Json.canonical_array]
  cases h with
  | cons hFirst _ =>
    rw [List.map_cons] at loaded ⊢
    rw [Insert.cellsOfJson_row given hFirst.items?_canonical, loaded]
    rfl

theorem ofJson_canonical_members {d' : Json} {members sorted : List (String × Json)}
    (h : Json.Sorts members sorted) (given : sorted ≠ [])
    (hd : d.DescribesInsertion table [] (.object members))
    (hd' : d'.DescribesInsertion table (sorted.map Prod.fst)
      (.array [.array (sorted.map Prod.snd)])) : ofJson d.canonical = ofJson d'.canonical := by
  have columns : (sorted.map fun m ↦ (m.1, m.2.canonical)).map Prod.fst = sorted.map Prod.fst := by
    rw [List.map_map]
    rfl
  have cells : (sorted.map fun m ↦ (m.1, m.2.canonical)).map Prod.snd =
      (sorted.map Prod.snd).map Json.canonical := by
    rw [List.map_map, List.map_map]
    rfl
  rw [ofJson_canonical_insertion hd, ofJson_canonical_insertion hd', h.canonical_object,
    Insert.cellsOfJson_members (mt List.map_eq_nil_iff.mp given), columns, cells,
    Json.canonical_array, List.map_singleton, Json.canonical_array]

private theorem ofJson_canonical_members_iff {members sorted : List (String × Json)} {s : Statement}
    (h : Json.Sorts members sorted) (given : sorted ≠ [])
    (hd : d.DescribesInsertion table [] (.object members)) :
    ofJson d.canonical = .ok s ↔ ∃ row,
      List.Forall₂ Json.DenotesCell (sorted.map Prod.snd) row ∧
        .insert ⟨table, sorted.map Prod.fst, [row]⟩ = s := by
  have named : sorted.map Prod.fst ≠ [] := mt List.map_eq_nil_iff.mp given
  have single (record : Json) : Json.Sorts [("insert", record)] [("insert", record)] :=
    Json.sorts_iff.mpr rfl
  have hd' : (Json.object [("insert", .array [.text table,
      .array ((sorted.map Prod.fst).map .text), .array [.array (sorted.map Prod.snd)]])]
      ).DescribesInsertion table (sorted.map Prod.fst)
        (.array ([sorted.map Prod.snd].map .array)) := .intro (single _) (.positional _ _)
  rw [ofJson_canonical_members h given hd hd', ofJson_canonical_rows_iff named hd']
  constructor
  · rintro ⟨_, hCells, rfl⟩
    cases hCells with
    | cons hRow rest =>
      cases rest
      exact ⟨_, hRow, rfl⟩
  · rintro ⟨row, hRow, rfl⟩
    exact ⟨_, .cons hRow .nil, rfl⟩

/-! ## Compiling what is loaded -/

theorem compile_insert_iff {rows : List (List Json)} {cells : List (List Binding)}
    (given : columns ≠ []) (h : List.Forall₂ (List.Forall₂ Json.DenotesCell) rows cells)
    (ctx : Context) : (∃ q, (insert ⟨table, columns, cells⟩).compile ctx = .ok q) ↔
      ¬Text.allBlank table ∧ rows ≠ [] ∧ ∀ row ∈ rows, row.length = columns.length := by
  have rows_iff : cells = [] ↔ rows = [] := by
    rw [← List.length_eq_zero_iff, ← h.length_eq, List.length_eq_zero_iff]
  have widths_iff : (∀ row ∈ cells, row.length = columns.length) ↔
      ∀ row ∈ rows, row.length = columns.length := by
    clear rows_iff
    induction h with
    | nil => simp
    | cons first _ ih => rw [List.forall_mem_cons, List.forall_mem_cons, ih, first.length_eq]
  rw [((insert _).outcome_compile ctx).exists_eq_ok_iff, faults_eq_nil_iff, ← widths_iff, Ne,
    ← rows_iff]
  exact ⟨fun h ↦ ⟨h.table, h.rows, h.widths⟩, fun h ↦ ⟨h.1, given, h.2.1, h.2.2⟩⟩

theorem bindings_of_compile_insert {ctx : Context} {s : Insert} {q : Query}
    (h : (insert s).compile ctx = .ok q) : q.bindings = s.rows.flatten := by
  rw [((insert s).outcome_compile ctx).of_eq_ok h]
  exact List.append_nil _

theorem length_of_compile_insert {ctx : Context} {s : Insert} {q : Query}
    (h : (insert s).compile ctx = .ok q) : ∀ row ∈ s.rows, row.length = s.columns.length := by
  have sound := ((insert s).outcome_compile ctx).exists_eq_ok_iff.mp ⟨q, h⟩
  exact (s.faults_eq_nil_iff.mp sound).widths

/-- **Ways to give the values of an insertion.** Values by column are loaded, or refused, as the
keys for columns and one row of the values would be, and so is a single row of cells behind the
keys. Rows of cells behind columns are loaded row by row and cell by cell. The insertion compiles if
and only if its table is not blank, it has a row, and each row is as long as the list of columns,
and then it binds each cell at the place that its row and its column determine. -/
theorem ofJson_canonical_cells (table : String) :
    (∀ (members sorted : List (String × Json)) (d d' : Json), Json.Sorts members sorted →
      sorted ≠ [] → d.DescribesInsertion table [] (.object members) →
      d'.DescribesInsertion table (sorted.map Prod.fst) (.array [.array (sorted.map Prod.snd)]) →
        ofJson d.canonical = ofJson d'.canonical ∧
        (∀ s, ofJson d.canonical = .ok s ↔ ∃ row,
          List.Forall₂ Json.DenotesCell (sorted.map Prod.snd) row ∧
            .insert ⟨table, sorted.map Prod.fst, [row]⟩ = s) ∧
        ∀ d'' : Json,
          d''.DescribesInsertion table (sorted.map Prod.fst) (.array (sorted.map Prod.snd)) →
          (∀ m ∈ sorted, m.2.IsCell) →
            ∃ s, ofJson d''.canonical = .ok s ∧ ofJson d.canonical = .ok s) ∧
    ∀ (columns : List String) (rows : List (List Json)) (d : Json), columns ≠ [] →
      (∀ row ∈ rows, ∀ cell ∈ row, cell.IsCell) →
      d.DescribesInsertion table columns (.array (rows.map .array)) →
        ∃ cells, List.Forall₂ (List.Forall₂ Json.DenotesCell) rows cells ∧
          ofJson d.canonical = .ok (.insert ⟨table, columns, cells⟩) ∧
          ∀ ctx, ((∃ q, compile ctx (.insert ⟨table, columns, cells⟩) = .ok q) ↔
            ¬Text.allBlank table ∧ rows ≠ [] ∧ ∀ row ∈ rows, row.length = columns.length) ∧
            ∀ q, compile ctx (.insert ⟨table, columns, cells⟩) = .ok q →
              q.bindings.length = rows.length * columns.length ∧
              ∀ (i j : Nat) (row : List Binding) (b : Binding), cells[i]? = some row →
                row[j]? = some b → q.bindings[i * columns.length + j]? = some b := by
  constructor
  · intro members sorted d d' sorts given hd hd'
    refine ⟨ofJson_canonical_members sorts given hd hd',
      fun s ↦ ofJson_canonical_members_iff sorts given hd, fun d'' hd'' cells ↦ ?_⟩
    obtain ⟨row, hRow⟩ := exists_forall₂_iff.mpr (List.forall_mem_map.mpr cells)
    exact ⟨_, ofJson_canonical_row (mt List.map_eq_nil_iff.mp given)
      (mt List.map_eq_nil_iff.mp given) hRow hd'',
      (ofJson_canonical_members_iff sorts given hd).mpr ⟨row, hRow, rfl⟩⟩
  · intro columns rows d given isCell hd
    obtain ⟨cells, hCells⟩ :=
      exists_forall₂_iff.mpr fun row hRow ↦ exists_forall₂_iff.mpr (isCell row hRow)
    refine ⟨cells, hCells, (ofJson_canonical_rows_iff given hd).mpr ⟨cells, hCells, rfl⟩,
      fun ctx ↦ ⟨compile_insert_iff given hCells ctx, fun q hq ↦ ?_⟩⟩
    have widths := length_of_compile_insert hq
    rw [bindings_of_compile_insert hq]
    refine ⟨?_, fun i j row b hRow hCell ↦ getElem?_flatten_of_length widths hRow hCell⟩
    rw [length_flatten_of_length widths, hCells.length_eq]

/-- A row that is given by column, as a row of a list and on its own; and a list of two such rows,
the last cell of which is bound last. -/
theorem ofJson_canonical_cells_pair :
    let token : Json := .object [("$token", .text "name")]
    let insertion (values : Json) : Json := .object [("insert",
      .array [.text "users", .array [.text "id", .text "name"], values])]
    let byColumn : Json := .object [("insert", .object
      [("table", .text "users"), ("values", .object [("name", token), ("id", .integer 1)])])]
    let rows : List (List Json) := [[.integer 1, token], [.null, .text "b"]]
    let cells : List (List Binding) :=
      [[.value (.int 1), .token "name"], [.value .null, .value (.text "b")]]
    Json.Sorts [("name", token), ("id", .integer 1)] [("id", .integer 1), ("name", token)] ∧
      (∀ row ∈ rows, ∀ cell ∈ row, cell.IsCell) ∧
      ofJson byColumn.canonical =
        ofJson (insertion (.array [.array [.integer 1, token]])).canonical ∧
      ofJson (insertion (.array [.integer 1, token])).canonical = ofJson byColumn.canonical ∧
      ofJson (insertion (.array (rows.map .array))).canonical =
        .ok (.insert ⟨"users", ["id", "name"], cells⟩) ∧
      ∀ ctx, ∃ q, compile ctx (.insert ⟨"users", ["id", "name"], cells⟩) = .ok q ∧
        q.bindings.length = 4 ∧ q.bindings[3]? = some (.value (.text "b")) := by
  intro token insertion byColumn rows cells
  obtain ⟨named, listed⟩ := ofJson_canonical_cells "users"
  have sorts : Json.Sorts [("name", token), ("id", .integer 1)]
      [("id", .integer 1), ("name", token)] := Json.sorts_iff.mpr rfl
  have single (record : Json) : Json.Sorts [("insert", record)] [("insert", record)] :=
    Json.sorts_iff.mpr rfl
  have hInsertion (values : Json) :
      (insertion values).DescribesInsertion "users" ["id", "name"] values :=
    .intro (single _) (.positional ["id", "name"] values)
  have number : (Json.integer 1).IsCell := Json.IsScalar.isCell trivial
  have marked : token.IsCell := ⟨_, .token (Json.sorts_iff.mpr rfl)⟩
  have absent : Json.null.IsCell := Json.IsScalar.isCell trivial
  have text : (Json.text "b").IsCell := Json.IsScalar.isCell trivial
  have isCell : ∀ row ∈ rows, ∀ cell ∈ row, cell.IsCell := by
    simp [rows, number, marked, absent, text]
  have loaded : ofJson (insertion (.array (rows.map .array))).canonical =
      .ok (.insert ⟨"users", ["id", "name"], cells⟩) := rfl
  obtain ⟨same, -, flat⟩ := named _ _ byColumn _ sorts (by decide)
    (.intro (single _) (.unlisted (Json.sorts_iff.mpr rfl))) (hInsertion _)
  obtain ⟨s, hFlat, hNamed⟩ := flat _ (hInsertion (.array [.integer 1, token]))
    (by simp [number, marked])
  refine ⟨sorts, isCell, same, hFlat.trans hNamed.symm, loaded, fun ctx ↦ ?_⟩
  obtain ⟨cells', -, loaded', compiled⟩ := listed ["id", "name"] rows _ (by decide) isCell
    (hInsertion (.array (rows.map .array)))
  obtain rfl : cells = cells' := by simpa [loaded] using loaded'
  obtain ⟨compiles, bound⟩ := compiled ctx
  obtain ⟨q, hq⟩ := compiles.mpr ⟨by decide, by simp [rows], by simp [rows]⟩
  exact ⟨q, hq, (bound q hq).1, (bound q hq).2 1 1 _ _ rfl rfl⟩

end Statement

end PreparedSql
