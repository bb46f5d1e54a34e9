import PreparedSql.Statement.Prepared

/-!
# Answers do not depend on the history

What a prepared statement answers to a request is what compiling its statement afresh would give,
whatever it was asked before. The invariant of a history is that nothing but the outcome of
compiling the statement for its context is ever kept (`Prepared.Holds`); each request preserves it,
and so does a run.

An outcome that is kept is never replaced. This is shown without the invariant, for any outcome that
the prepared statement may hold: it is the kept one that is answered from then on, not another one
that happens to be equal.

## Main definitions

* `Request.answerFrom`: the answer to a request when the outcome of compiling is given.
* `Prepared.Holds`: the prepared statements that a history can lead to.

## Main statements

* `Prepared.run_of_outcome`: a kept outcome stays, and all answers come from it.
* `Prepared.Holds.run`: a run preserves the invariant and gives the answers computed afresh.
* `Prepared.history_independent`: the answers after any history.
-/

namespace PreparedSql

namespace Request

/-- The answer to a request, from a statement, a context and an outcome of compiling. -/
def answerFrom (ctx : Context) (s : Statement) (outcome : Except CompileError Query) :
    Request → Answer
  | kind => .kind s.kind
  | context => .context ctx
  | statement => .statement s
  | sql => .sql do return (← outcome).sql
  | slots => .slots do return (← outcome).slots
  | tokens => .tokens do return (← outcome).tokens
  | compiled => .compiled outcome
  | resolve source => .resolved do
    let query ← outcome.mapError .compile
    (query.resolve source).mapError .resolve

/-- Whether the answer needs the query. -/
def needsQuery : Request → Bool
  | kind | context | statement => false
  | sql | slots | tokens | compiled | resolve _ => true

private theorem answerFrom_error (ctx : Context) (s : Statement) (e : CompileError) :
    answerFrom ctx s (.error e) sql = .sql (.error e) ∧
      answerFrom ctx s (.error e) slots = .slots (.error e) ∧
      answerFrom ctx s (.error e) tokens = .tokens (.error e) ∧
      answerFrom ctx s (.error e) compiled = .compiled (.error e) ∧
      ∀ source, answerFrom ctx s (.error e) (resolve source) = .resolved (.error (.compile e)) :=
  ⟨rfl, rfl, rfl, rfl, fun _ ↦ rfl⟩

end Request

namespace Prepared

/-! ## One request -/

theorem answer_of_outcome {p : Prepared} {o : Except CompileError Query} (h : p.outcome = some o)
    (r : Request) : p.answer r = (r.answerFrom p.context p.statement o, p) := by
  have kept : p.compiled = (o, p) := by rw [compiled, h]
  cases r with
  | kind | context | statement => rfl
  | compiled => rw [answer, kept, Request.answerFrom]
  | sql | slots | tokens | resolve =>
    rw [answer, kept, Request.answerFrom]
    cases o <;> rfl

theorem answer_of_no_outcome {p : Prepared} (h : p.outcome = none) (r : Request) :
    p.answer r = (r.answerFrom p.context p.statement (p.statement.compile p.context),
      if r.needsQuery then { p with outcome := some (p.statement.compile p.context) } else p) := by
  have first : p.compiled = (p.statement.compile p.context,
      { p with outcome := some (p.statement.compile p.context) }) := by rw [compiled, h]
  cases r with
  | kind | context | statement => rfl
  | compiled => rw [answer, first, Request.answerFrom]; rfl
  | sql | slots | tokens | resolve =>
    rw [answer, first, Request.answerFrom]
    cases p.statement.compile p.context <;> rfl

/-! ## Histories -/

private theorem run_cons (p : Prepared) (r : Request) (rs : List Request) :
    p.run (r :: rs) =
      ((p.answer r).1 :: ((p.answer r).2.run rs).1, ((p.answer r).2.run rs).2) := rfl

/-- A kept outcome is never replaced, and all answers come from it. -/
theorem run_of_outcome {p : Prepared} {o : Except CompileError Query} (h : p.outcome = some o)
    (rs : List Request) : p.run rs = (rs.map (Request.answerFrom p.context p.statement o), p) := by
  induction rs with
  | nil => rfl
  | cons r rs ih => rw [run_cons, answer_of_outcome h, ih, List.map_cons]

/-- The prepared statement is for this statement and context, and what it keeps, if anything, is the
outcome of compiling the one for the other. -/
structure Holds (ctx : Context) (s : Statement) (p : Prepared) : Prop where
  /-- The statement does not change. -/
  statement : p.statement = s
  /-- The context does not change. -/
  context : p.context = ctx
  /-- No other outcome is kept. -/
  outcome : p.outcome = none ∨ p.outcome = some (s.compile ctx)

namespace Holds

variable {ctx : Context} {s : Statement} {p : Prepared}

theorem new (ctx : Context) (s : Statement) : Holds ctx s (new ctx s) := ⟨rfl, rfl, .inl rfl⟩

theorem answer (h : Holds ctx s p) (r : Request) :
    (p.answer r).1 = r.answerFrom ctx s (s.compile ctx) ∧ Holds ctx s (p.answer r).2 := by
  obtain ⟨rfl, rfl, none | some⟩ := h
  · rw [answer_of_no_outcome none]
    refine ⟨rfl, ?_⟩
    -- the outcome is kept, or there is still none
    cases r.needsQuery with
    | false => exact ⟨rfl, rfl, .inl none⟩
    | true => exact ⟨rfl, rfl, .inr rfl⟩
  · rw [answer_of_outcome some]
    exact ⟨rfl, rfl, rfl, .inr some⟩

theorem run (h : Holds ctx s p) (rs : List Request) :
    (p.run rs).1 = rs.map (Request.answerFrom ctx s (s.compile ctx)) ∧
      Holds ctx s (p.run rs).2 := by
  induction rs generalizing p with
  | nil => exact ⟨rfl, h⟩
  | cons r rs ih =>
    obtain ⟨first, h'⟩ := h.answer r
    obtain ⟨rest, h''⟩ := ih h'
    rw [run_cons, List.map_cons, first, rest]
    exact ⟨rfl, h''⟩

private theorem outcome_run (h : Holds ctx s p) (rs : List Request) :
    (p.run rs).2.outcome = if rs.any Request.needsQuery then some (s.compile ctx)
      else p.outcome := by
  induction rs generalizing p with
  | nil => rfl
  | cons r rs ih =>
    obtain ⟨rfl, rfl, none | some⟩ := id h
    · rw [run_cons, ih (h.answer r).2, List.any_cons, answer_of_no_outcome none]
      cases r.needsQuery with
      | false => rfl
      | true => rw [if_pos rfl, ite_self, Bool.true_or, if_pos rfl]
    · rw [run_of_outcome some, some, ite_self]

end Holds

/-- **Answers do not depend on the history.** After any requests the prepared statement keeps
nothing, if no answer needed the query, or exactly the outcome of compiling its statement for its
context. What is kept is never replaced, so that every later request for the outcome is answered by
the kept one, and all answers are those computed afresh. This does not depend on how an outcome came
to be kept: whatever it is, all answers come from it and it stays. A statement that does not compile
has one error for every answer that needs the query; it comes before that of a missing value, and a
missing value changes no later answer. -/
theorem history_independent (ctx : Context) (s : Statement) (before : List Request) :
    let p := ((new ctx s).run before).2
    (p.statement = s ∧ p.context = ctx ∧
      p.outcome = if before.any Request.needsQuery then some (s.compile ctx) else none) ∧
    (∀ o, p.outcome = some o → ∀ after, (p.run after).2 = p ∧ ∀ k : Nat,
      after[k]? = some Request.compiled → (p.run after).1[k]? = some (Answer.compiled o)) ∧
    (∀ (p' : Prepared) (o : Except CompileError Query), p'.outcome = some o → ∀ after,
      p'.run after = (after.map (Request.answerFrom p'.context p'.statement o), p')) ∧
    (∀ after, ((new ctx s).run (before ++ after)).1 =
      (before ++ after).map (Request.answerFrom ctx s (s.compile ctx)) ∧
      (p.run after).1 = after.map (Request.answerFrom ctx s (s.compile ctx))) ∧
    (∀ e, s.compile ctx = .error e →
      (p.answer .sql).1 = .sql (.error e) ∧ (p.answer .slots).1 = .slots (.error e) ∧
      (p.answer .tokens).1 = .tokens (.error e) ∧ (p.answer .compiled).1 = .compiled (.error e) ∧
      ∀ source, (p.answer (.resolve source)).1 = .resolved (.error (.compile e))) ∧
    ∀ q source e, s.compile ctx = .ok q → q.resolve source = .error e →
      (p.answer (.resolve source)).1 = .resolved (.error (.resolve e)) ∧
        ∀ after, ((p.answer (.resolve source)).2.run after).1 = (p.run after).1 := by
  intro p
  have initial := Holds.new ctx s
  have holds : Holds ctx s p := (initial.run before).2
  have fresh (r : Request) := (holds.answer r).1
  refine ⟨⟨holds.statement, holds.context, initial.outcome_run before⟩, ?_,
    fun _ _ h after ↦ run_of_outcome h after, ?_, ?_, ?_⟩
  · intro o h after
    rw [run_of_outcome h]
    refine ⟨rfl, ?_⟩
    intro k hk
    rw [List.getElem?_map, hk]
    rfl
  · exact fun after ↦ ⟨(initial.run _).1, (holds.run after).1⟩
  · intro e h
    simp only [fresh, h]
    exact Request.answerFrom_error ctx s e
  · intro q source e hq he
    refine ⟨?_, fun after ↦ ?_⟩
    · rw [fresh, hq]
      change Answer.resolved ((q.resolve source).mapError .resolve) = _
      rw [he]
      rfl
    · rw [((holds.answer (.resolve source)).2.run after).1, (holds.run after).1]

end Prepared

end PreparedSql
