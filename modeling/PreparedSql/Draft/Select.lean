import PreparedSql.Statement.Basic

/-!
# Building selections call by call

A selection is built in two stages. Before the first table there is only a draft, which can take
fields; a table turns the draft into a selection, which can take everything else and is complete at
every moment. A call that its stage does not offer is not available.

Fields, tables and sort terms accumulate in the order of the calls; a filter, a grouping, a limit or
an offset replaces the one before.
-/

namespace PreparedSql

/-- A selection before its first table. -/
structure SelectDraft where
  /-- The fields so far. -/
  fields : List Field := []

/-- How far a selection is built. -/
inductive SelectStage where
  /-- No table yet. -/
  | draft (draft : SelectDraft)
  /-- A complete selection. -/
  | complete (statement : Select)

/-- A call that builds a selection. -/
inductive SelectCall where
  /-- Adds columns to the fields. -/
  | fields (names : List String)
  /-- Adds raw SQL to the fields. -/
  | rawField (sql : String)
  /-- Sets the first table. -/
  | firstTable (entry : FromEntry)
  /-- Adds a table. -/
  | furtherTable (entry : FromEntry)
  /-- Adds a join. -/
  | join (join : Join)
  /-- Sets the filter. -/
  | filter (condition : Condition)
  /-- Sets the grouping. -/
  | groupBy (columns : List String)
  /-- Adds columns to sort by. -/
  | orderBy (columns : List String)
  /-- Adds columns to sort by in descending order. -/
  | orderByDescending (columns : List String)
  /-- Adds a sort term. -/
  | sortTerm (term : SortTerm)
  /-- Sets the limit. -/
  | limit (binding : Binding)
  /-- Sets the offset. -/
  | offset (binding : Binding)

namespace SelectStage

def start : SelectStage := draft {}

def callDraft? (d : SelectDraft) : SelectCall → Option SelectStage
  | .fields names => some (draft ⟨d.fields ++ names.map .column⟩)
  | .rawField sql => some (draft ⟨d.fields ++ [.raw sql]⟩)
  | .firstTable entry => some (complete { fields := d.fields, tables := [entry] })
  | _ => none

def callComplete? (s : Select) : SelectCall → Option Select
  | .fields names => some { s with fields := s.fields ++ names.map .column }
  | .rawField sql => some { s with fields := s.fields ++ [.raw sql] }
  | .firstTable _ => none
  | .furtherTable entry => some { s with tables := s.tables ++ [entry] }
  | .join join => some { s with tables := s.tables ++ [.join join] }
  | .filter condition => some { s with filter := some condition }
  | .groupBy columns => some { s with groupBy := columns }
  | .orderBy columns => some { s with orderBy := s.orderBy ++ columns.map (⟨·, none⟩) }
  | .orderByDescending columns =>
    some { s with orderBy := s.orderBy ++ columns.map (⟨·, some .descending⟩) }
  | .sortTerm term => some { s with orderBy := s.orderBy ++ [term] }
  | .limit binding => some { s with limit := some binding }
  | .offset binding => some { s with offset := some binding }

/-- The stage after a call, if the call is available. -/
def call? : SelectStage → SelectCall → Option SelectStage
  | draft d, call => callDraft? d call
  | complete s, call => (callComplete? s call).map complete

def statement? : SelectStage → Option Select
  | draft _ => none
  | complete s => some s

def build? (ctx : Context) (stage : SelectStage) :
    Option (Except CompileError (String × List Binding)) :=
  stage.statement?.map fun s ↦ (Statement.select s).build ctx

end SelectStage

end PreparedSql
