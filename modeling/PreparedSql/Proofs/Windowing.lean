import PreparedSql.Pagination
import PreparedSql.Proofs.Steps

/-!
# The window of a query

A window is written in one of a few forms, which a database reads in a fixed way: the rows of the
query pass in order, and numbers taken from the placeholders say which of them are kept. The limit
styles use different forms, with the numbers in different places. Which rows are kept is the same
for all of them.

The form by row numbers counts from one, keeps what is not beyond the sum of its first two numbers,
and then what is beyond the third. So it keeps the window if its last two numbers are the rows to be
skipped and its first one is the limit.

## Main definitions

* `WindowForm`: the forms, with their text and the rows that they keep.

## Main statements

* `window_selects`: every limit style keeps the rows of the window.
-/

namespace PreparedSql

/-! ## Forms -/

/-- How a window is written around a query. -/
inductive WindowForm where
  /-- There is no window. -/
  | whole
  /-- The first rows. -/
  | limit
  /-- The first rows behind those that are skipped, the limit in front. -/
  | limitOffset
  /-- The first rows behind those that are skipped, the offset in front. -/
  | offsetLimit
  /-- The rows with certain numbers: the numbered query has a name, each row has its number under
  another one, and the rows up to the upper bound have a third. -/
  | rowNumbers (numbered number bounded : String)

namespace WindowForm

def front : WindowForm → String
  | whole | limit | limitOffset | offsetLimit => ""
  | rowNumbers numbered number _ =>
    "SELECT * FROM ( SELECT " ++ numbered ++ ".*, ROWNUM " ++ number ++ " FROM ( "

def back : WindowForm → String
  | whole => ""
  | limit => " LIMIT ?"
  | limitOffset => " LIMIT ? OFFSET ?"
  | offsetLimit => " LIMIT ?, ?"
  | rowNumbers numbered number bounded =>
    " ) " ++ numbered ++ " WHERE ROWNUM <= ? + ? ) " ++ bounded ++ " WHERE " ++ number ++ " > ?"

def text (form : WindowForm) (query : String) : String := form.front ++ query ++ form.back

section Text

variable (query : String)

theorem text_whole : whole.text query = query := by
  change "" ++ query ++ "" = query
  rw [String.empty_append, String.append_empty]

theorem text_limit : limit.text query = "" ++ query ++ " LIMIT ?" := rfl

theorem text_limitOffset : limitOffset.text query = "" ++ query ++ " LIMIT ? OFFSET ?" := rfl

theorem text_offsetLimit : offsetLimit.text query = "" ++ query ++ " LIMIT ?, ?" := rfl

theorem text_rowNumbers (numbered number bounded : String) :
    (rowNumbers numbered number bounded).text query =
      "SELECT * FROM ( SELECT " ++ numbered ++ ".*, ROWNUM " ++ number ++ " FROM ( " ++ query ++
        (" ) " ++ numbered ++ " WHERE ROWNUM <= ? + ? ) " ++ bounded ++ " WHERE " ++ number ++
          " > ?") := rfl

end Text

/-- The rows that are kept of those of a query, given the numbers of the placeholders in the order
of the text. -/
def select? {ρ : Type} (rows : List ρ) (form : WindowForm) (numbers : List Int) :
    Option (List ρ) :=
  match form with
  | whole =>
    match numbers with
    | [] => some rows
    | _ => none
  | limit =>
    match numbers with
    | [count] => some (rows.take count.toNat)
    | _ => none
  | limitOffset =>
    match numbers with
    | [count, skipped] => some ((rows.drop skipped.toNat).take count.toNat)
    | _ => none
  | offsetLimit =>
    match numbers with
    | [skipped, count] => some ((rows.drop skipped.toNat).take count.toNat)
    | _ => none
  | rowNumbers .. =>
    match numbers with
    | [count, more, skipped] =>
      let bounded := (rows.zipIdx 1).filter fun row ↦ row.2 ≤ count + more
      some ((bounded.filter fun row ↦ skipped < row.2).map Prod.fst)
    | _ => none

/-- How many characters a form adds. -/
def excess (form : WindowForm) : Nat := form.front.length + form.back.length

private theorem excess_eq_of_text_eq {form form' : WindowForm} {query : String}
    (h : form.text query = form'.text query) : form.excess = form'.excess := by
  have length := congrArg String.length h
  simp only [text, String.length_append] at length
  simp only [excess]
  omega

private theorem excess_whole : excess whole = 0 := rfl

private theorem excess_limit : excess limit = 8 := by decide +kernel

private theorem excess_limitOffset : excess limitOffset = 17 := by decide +kernel

private theorem excess_offsetLimit : excess offsetLimit = 11 := by decide +kernel

private theorem lt_length_append {n : Nat} {lead : String} (h : n < lead.length) (rest : String) :
    n < (lead ++ rest).length := by
  rw [String.length_append]
  omega

private theorem lt_excess_rowNumbers (numbered number bounded : String) :
    17 < excess (rowNumbers numbered number bounded) := by
  have lead : 17 < "SELECT * FROM ( SELECT ".length := by decide +kernel
  have front := lt_length_append (lt_length_append (lt_length_append
    (lt_length_append lead numbered) ".*, ROWNUM ") number) " FROM ( "
  exact Nat.lt_add_right _ front

private theorem select?_rowNumbers (numbered number bounded : String) {ρ : Type} (rows : List ρ)
    (numbers : List Int) : (rowNumbers numbered number bounded).select? rows numbers =
      (rowNumbers "" "" "").select? rows numbers := rfl

/-- A text is read in one way only, but for the names in it. -/
private theorem select?_eq_of_text_eq {form form' : WindowForm} {query : String}
    (h : form.text query = form'.text query) {ρ : Type} (rows : List ρ) (numbers : List Int) :
    form.select? rows numbers = form'.select? rows numbers := by
  have length := excess_eq_of_text_eq h
  -- forms of different kinds add a different number of characters
  cases form <;> cases form' <;>
    grind only [excess_whole, excess_limit, excess_limitOffset, excess_offsetLimit,
      lt_excess_rowNumbers, select?_rowNumbers]

/-! ## The rows with certain numbers -/

section RowNumbers

variable {ρ : Type} {rows : List ρ}

private theorem filter_lt_zipIdx (start count : Nat) :
    ((rows.zipIdx start).filter fun row ↦ row.2 < start + count) =
      (rows.take count).zipIdx start := by
  induction rows generalizing start count with
  | nil => rw [List.take_nil, List.zipIdx_nil, List.filter_nil]
  | cons row rows ih =>
    cases count with
    | zero =>
      rw [List.take_zero, List.zipIdx_nil, List.filter_eq_nil_iff]
      intro numbered mem
      simpa using List.le_snd_of_mem_zipIdx mem
    | succ count =>
      rw [List.take_succ_cons, List.zipIdx_cons, List.zipIdx_cons, ← ih,
        List.filter_cons_of_pos (by simp), Nat.add_right_comm, Nat.add_assoc]

private theorem filter_le_zipIdx (start skipped : Nat) :
    ((rows.zipIdx start).filter fun row ↦ start + skipped ≤ row.2) =
      (rows.drop skipped).zipIdx (start + skipped) := by
  induction rows generalizing start skipped with
  | nil => rw [List.drop_nil, List.zipIdx_nil, List.filter_nil, List.zipIdx_nil]
  | cons row rows ih =>
    cases skipped with
    | zero =>
      rw [List.drop_zero, Nat.add_zero, List.filter_eq_self]
      intro numbered mem
      simpa using List.le_snd_of_mem_zipIdx mem
    | succ skipped =>
      rw [List.drop_succ_cons, List.zipIdx_cons, List.filter_cons_of_neg (by simp),
        Nat.add_comm skipped, ← Nat.add_assoc, ih]

private theorem select?_rowNumbers_eq (numbered number bounded : String) {count skipped : Int}
    (hCount : 0 ≤ count) (hSkipped : 0 ≤ skipped) :
    (rowNumbers numbered number bounded).select? rows [count, skipped, skipped] =
      some ((rows.drop skipped.toNat).take count.toNat) := by
  have upTo : ((rows.zipIdx 1).filter fun row ↦ (row.2 : Int) ≤ count + skipped) =
      (rows.take (count.toNat + skipped.toNat)).zipIdx 1 := by
    rw [← filter_lt_zipIdx]
    refine List.filter_congr fun row _ ↦ decide_eq_decide.mpr ?_
    omega
  have beyond (rows : List ρ) : ((rows.zipIdx 1).filter fun row ↦ skipped < (row.2 : Int)) =
      (rows.drop skipped.toNat).zipIdx (1 + skipped.toNat) := by
    rw [← filter_le_zipIdx]
    refine List.filter_congr fun row _ ↦ decide_eq_decide.mpr ?_
    omega
  simp only [select?]
  rw [upTo, beyond, List.zipIdx_map_fst, List.drop_take, Nat.add_sub_cancel]

end RowNumbers

end WindowForm

/-! ## The forms of the limit styles -/

/-- The form of a window in the limit style of the context. -/
def windowForm (ctx : Context) (limit offset : Option Binding) : WindowForm :=
  match limit with
  | none => .whole
  | some _ =>
    match ctx.limitStyle with
    | .offset =>
      match offset with
      | none => .limit
      | some _ => .limitOffset
    | .xy =>
      match offset with
      | none => .limit
      | some _ => .offsetLimit
    | .rownum => .rowNumbers (ctx.quotedName "A") (ctx.quotedName "r") (ctx.quotedName "B")

private theorem front_windowForm {ctx : Context} (hStyle : ctx.limitStyle ≠ .rownum)
    (limit offset : Option Binding) : (windowForm ctx limit offset).front = "" := by
  cases limit with
  | none => rfl
  | some limit =>
    simp only [windowForm]
    cases h : ctx.limitStyle with
    | offset | xy => cases offset <;> rfl
    | rownum => exact absurd h hStyle

private theorem Enclosure.none_aroundQuery (q : Query) : none.aroundQuery q = q := by
  have text : "" ++ q.sql ++ "" = q.sql := by rw [String.empty_append, String.append_empty]
  have bindings : [] ++ q.bindings ++ [] = q.bindings := by rw [List.nil_append, List.append_nil]
  exact congrArg₂ Query.mk text bindings

private theorem sql_window (ctx : Context) (limit offset : Option Binding) (q : Query) :
    ((window ctx limit offset).aroundQuery q).sql = (windowForm ctx limit offset).text q.sql := by
  have bound (rest : String) : " WHERE ROWNUM <= ? + ?" ++ (" ) " ++ rest) =
      " WHERE ROWNUM <= ? + ? ) " ++ rest := by
    rw [← String.append_assoc]
    congr 1
  cases limit with
  | none => rw [window, Enclosure.none_aroundQuery, windowForm, WindowForm.text_whole]
  | some limit =>
    cases h : ctx.limitStyle <;> cases offset <;>
      simp only [window, windowForm, h, offsetWindow, xyWindow, rownumWindow,
        Enclosure.aroundQuery, WindowForm.text_limit, WindowForm.text_limitOffset,
        WindowForm.text_offsetLimit, WindowForm.text_rowNumbers, Template.text_append,
        Template.text_ofString, Template.text_placeholder, Template.text_nil, bound,
        String.append_assoc, String.reduceAppend]

private theorem bindings_window_front (ctx : Context) (limit offset : Option Binding) :
    (window ctx limit offset).front.bindings = [] := by
  cases limit with
  | none => rfl
  | some limit =>
    rw [window]
    cases ctx.limitStyle with
    | offset | xy => rfl
    | rownum => exact Template.bindings_ofString _

/-! ## The numbers of the limit styles -/

section Numbers

open WindowForm

variable {σ : Type} [NamedValues σ] {source : σ} {limit : Binding} {offset : Option Binding}
  {count skipped : Int64}

/-- With these bindings a form keeps the window of any rows. -/
def Selects (source : σ) (count skipped : Int64) (form : WindowForm) (added : List Binding) :
    Prop :=
  ∃ numbers : List Int64,
    added.mapM (Query.resolveBinding source) = .ok (numbers.map .int) ∧
    ∀ {ρ : Type} (rows : List ρ), form.select? rows (numbers.map Int64.toInt) =
      some ((rows.drop skipped.toInt.toNat).take count.toInt.toNat)

theorem Selects.of_forall₂ {form : WindowForm} {added : List Binding} (numbers : List Int64)
    (h : List.Forall₂ (fun b n ↦ Query.resolveBinding source b = .ok (.int n)) added numbers)
    (rows : ∀ {ρ : Type} (rows : List ρ), form.select? rows (numbers.map Int64.toInt) =
      some ((rows.drop skipped.toInt.toNat).take count.toInt.toNat)) :
    Selects source count skipped form added :=
  ⟨numbers, mapM_eq_ok_iff.mpr (List.forall₂_map_right_iff.mpr h), rows⟩

private theorem selects_limit {added : List Binding} (hAdded : added = [limit])
    (hLimit : Query.resolveBinding source limit = .ok (.int count)) :
    Selects source count 0 WindowForm.limit added :=
  .of_forall₂ [count] (hAdded ▸ .cons hLimit .nil) fun _ ↦ rfl

private theorem selects_window (ctx : Context)
    (hLimit : Query.resolveBinding source limit = .ok (.int count))
    (hOffset : (offset.map (Query.resolveBinding source)).getD (.ok (.int 0)) = .ok (.int skipped))
    (hCount : 0 ≤ count.toInt) (hSkipped : 0 ≤ skipped.toInt) :
    Selects source count skipped (windowForm ctx (some limit) offset)
      (window ctx (some limit) offset).back.bindings := by
  simp only [windowForm, window]
  cases ctx.limitStyle with
  | offset =>
    cases offset with
    | none =>
      cases hOffset
      exact selects_limit (by simp [offsetWindow]) hLimit
    | some offset =>
      have added : (offsetWindow limit (some offset)).back.bindings = [limit, offset] := by
        simp [offsetWindow]
      exact .of_forall₂ [count, skipped] (added ▸ .cons hLimit (.cons hOffset .nil)) fun _ ↦ rfl
  | xy =>
    cases offset with
    | none =>
      cases hOffset
      exact selects_limit (by simp [xyWindow]) hLimit
    | some offset =>
      have added : (xyWindow limit (some offset)).back.bindings = [offset, limit] := by
        simp [xyWindow]
      exact .of_forall₂ [skipped, count] (added ▸ .cons hOffset (.cons hLimit .nil)) fun _ ↦ rfl
  | rownum =>
    let given := offset.getD (.value (.int 0))
    have added : (rownumWindow ctx limit offset).back.bindings = [limit, given, given] := by
      simp [rownumWindow, given]
    have hGiven : Query.resolveBinding source given = .ok (.int skipped) := by
      cases offset <;> exact hOffset
    exact .of_forall₂ [count, skipped, skipped]
      (added ▸ .cons hLimit (.cons hGiven (.cons hGiven .nil)))
      fun _ ↦ select?_rowNumbers_eq _ _ _ hCount hSkipped

end Numbers

/-! ## The window -/

/-- A window leaves the text and the bindings of a query as they are, and adds to them. In every
limit style, what it adds keeps the rows behind those that are skipped, up to the limit. -/
theorem window_selects {σ : Type} [NamedValues σ] (ctx : Context) (q : Query)
    (limit offset : Option Binding) :
    let windowed := (window ctx limit offset).aroundQuery q
    (limit = none → windowed = q) ∧
    (ctx.limitStyle ≠ .rownum → ∃ added, windowed.sql = q.sql ++ added) ∧
    (ctx.limitStyle = .rownum → limit.isSome →
      windowed.sql =
        (WindowForm.rowNumbers (ctx.quotedName "A") (ctx.quotedName "r") (ctx.quotedName "B")).text
          q.sql) ∧
    (∃ form : WindowForm, windowed.sql = form.text q.sql) ∧
    ∃ added, windowed.bindings = q.bindings ++ added ∧
      ∀ (source : σ) (count skipped : Int64),
        limit.map (Query.resolveBinding source) = some (.ok (.int count)) →
        (offset.map (Query.resolveBinding source)).getD (.ok (.int 0)) = .ok (.int skipped) →
        0 ≤ count.toInt → 0 ≤ skipped.toInt →
        ∃ numbers : List Int64,
          added.mapM (Query.resolveBinding source) = .ok (numbers.map .int) ∧
          ∀ form : WindowForm, windowed.sql = form.text q.sql →
            ∀ {ρ : Type} (rows : List ρ), form.select? rows (numbers.map Int64.toInt) =
              some ((rows.drop skipped.toInt.toNat).take count.toInt.toNat) := by
  intro windowed
  have hText : windowed.sql = (windowForm ctx limit offset).text q.sql :=
    sql_window ctx limit offset q
  refine ⟨?_, ?_, ?_, ⟨_, hText⟩, (window ctx limit offset).back.bindings, ?_, ?_⟩
  · rintro rfl
    exact Enclosure.none_aroundQuery q
  · intro hStyle
    exact ⟨_, by rw [hText, WindowForm.text, front_windowForm hStyle, String.empty_append]⟩
  · intro hStyle hLimit
    obtain ⟨limit, rfl⟩ := Option.isSome_iff_exists.mp hLimit
    rw [hText]
    simp only [windowForm, hStyle]
  · simp only [windowed, Enclosure.aroundQuery, bindings_window_front, List.nil_append]
  · intro source count skipped resolved hOffset hCount hSkipped
    obtain ⟨limit, rfl, hLimit⟩ := Option.map_eq_some_iff.mp resolved
    obtain ⟨numbers, hNumbers, rows⟩ := selects_window ctx hLimit hOffset hCount hSkipped
    refine ⟨numbers, hNumbers, fun form hForm ρ given ↦ ?_⟩
    rw [WindowForm.select?_eq_of_text_eq (hForm.symm.trans hText), rows]

/-- A window of five rows by their numbers: the sum is an upper bound, and the offset stands
twice. -/
theorem window_selects_rowNumbers :
    let ctx := { Context.standard with limitStyle := .rownum }
    let windowed := (window ctx (some (.token "limit")) (some (.value (.int 1)))).aroundQuery
      ⟨"SELECT * FROM \"t\" WHERE a = ?", [.token "a"]⟩
    windowed.sql = "SELECT * FROM ( SELECT \"A\".*, ROWNUM \"r\" FROM ( " ++
      "SELECT * FROM \"t\" WHERE a = ?" ++
      " ) \"A\" WHERE ROWNUM <= ? + ? ) \"B\" WHERE \"r\" > ?" ∧
    windowed.bindings = [.token "a", .token "limit", .value (.int 1), .value (.int 1)] ∧
    ∀ form : WindowForm, windowed.sql = form.text "SELECT * FROM \"t\" WHERE a = ?" →
      form.select? [10, 20, 30, 40, 50] [3, 1, 1] = some [20, 30, 40] := by
  intro ctx windowed
  have bindings : windowed.bindings =
      [.token "a", .token "limit", .value (.int 1), .value (.int 1)] := by decide +kernel
  obtain ⟨-, -, -, -, added, hAdded, selects⟩ := @window_selects (List (String × Value)) _ ctx
    ⟨"SELECT * FROM \"t\" WHERE a = ?", [.token "a"]⟩ (some (.token "limit"))
    (some (.value (.int 1)))
  obtain ⟨numbers, hNumbers, rows⟩ :=
    selects [("limit", .int 3)] 3 1 rfl rfl (by decide) (by decide)
  obtain rfl : added = [.token "limit", .value (.int 1), .value (.int 1)] :=
    List.append_cancel_left (hAdded.symm.trans bindings)
  obtain rfl : [3, 1, 1] = numbers :=
    List.map_injective_iff.mpr (fun _ _ ↦ Value.int.inj) (Except.ok.inj hNumbers)
  exact ⟨by decide +kernel, bindings, fun form hForm ↦ rows form hForm _⟩

end PreparedSql
