import PreparedSql.Proofs.Outcome
import PreparedSql.Query

/-!
# One statement for several contexts

The quotes, the separator and the limit style of a context decide what the text of a query looks
like, and the limit style what the bindings of its window are. They decide nothing else: a statement
compiles for all contexts or fails for all of them with one error, the bindings in front of those of
the window are the same, and so are the names of the tokens that a source needs.

## Main statements

* `Statement.mem_tokens_iff`: the names of the tokens that a source needs.
* `Statement.compile_portable`: one statement, compiled for two contexts.
-/

namespace PreparedSql

theorem Query.mem_tokens_iff {q : Query} {n : String} : n ∈ q.tokens ↔ .token n ∈ q.bindings := by
  rw [tokens, List.mem_filterMap]
  constructor
  · rintro ⟨b, hb, token⟩
    cases b with
    | value => exact nomatch token
    | token m => exact Option.some.inj token ▸ hb
  · exact fun h ↦ ⟨_, h, rfl⟩

theorem Select.token_mem_windowBindings_iff (style : LimitStyle) (s : Select) (n : String) :
    .token n ∈ s.windowBindings style ↔
      ∃ limit, s.limit = some limit ∧ (limit = .token n ∨ s.offset = some (.token n)) := by
  cases hLimit : s.limit with
  | none => simp [windowBindings, hLimit]
  | some limit =>
    cases hOffset : s.offset with
    | none => cases style <;> simp [windowBindings, hLimit, hOffset, eq_comm]
    | some offset => cases style <;> simp [windowBindings, hLimit, hOffset, eq_comm, or_comm]

namespace Statement

/-- The tokens that a source needs are those in the statement, but not the token of an offset
without a limit. -/
theorem mem_tokens_iff {ctx : Context} {s : Statement} {q : Query} (hq : s.compile ctx = .ok q)
    (n : String) : n ∈ q.tokens ↔ .token n ∈ s.bindings ∨
      ∃ selection limit, s = .select selection ∧ selection.limit = some limit ∧
        (limit = .token n ∨ selection.offset = some (.token n)) := by
  rw [Query.mem_tokens_iff, (s.outcome_compile ctx).of_eq_ok hq, List.mem_append]
  apply or_congr_right
  cases s with
  | select s =>
    rw [windowBindings, s.token_mem_windowBindings_iff]
    constructor
    · rintro ⟨limit, h⟩
      exact ⟨s, limit, rfl, h⟩
    · rintro ⟨_, limit, ⟨⟩, h⟩
      exact ⟨limit, h⟩
  | insert | update | delete => simp [windowBindings]

theorem windowBindings_congr {style style' : LimitStyle} {s : Statement}
    (h : ∀ selection, s = .select selection → selection.limit.isSome → style = style') :
    s.windowBindings style = s.windowBindings style' := by
  cases s with
  | select s =>
    cases hLimit : s.limit with
    | none => simp [windowBindings, Select.windowBindings, hLimit]
    | some limit => rw [h s rfl (by rw [hLimit]; rfl)]
  | insert | update | delete => rfl

/-- **Statements are portable.** For any two contexts a statement fails to compile with the same
error, or compiles for both. Its bindings are then the same in front of those of the window, and
these are the same too unless there is a limit and the limit styles differ. The tokens that a source
needs are those in the statement, but not the token of an offset without a limit. -/
theorem compile_portable (s : Statement) (ctx ctx' : Context) :
    (∀ e, s.compile ctx = .error e ↔ s.compile ctx' = .error e) ∧
    ∀ q q', s.compile ctx = .ok q → s.compile ctx' = .ok q' →
      ((∀ selection, s = .select selection → selection.limit.isSome →
        ctx.limitStyle = ctx'.limitStyle) → q.bindings = q'.bindings) ∧
      (q.bindings = s.bindings ++ s.windowBindings ctx.limitStyle ∧
        q'.bindings = s.bindings ++ s.windowBindings ctx'.limitStyle) ∧
      ∀ n, (n ∈ q.tokens ↔ n ∈ q'.tokens) ∧
        (n ∈ q.tokens ↔ .token n ∈ s.bindings ∨
          ∃ selection limit, s = .select selection ∧ selection.limit = some limit ∧
            (limit = .token n ∨ selection.offset = some (.token n))) := by
  have outcome := s.outcome_compile ctx
  have outcome' := s.outcome_compile ctx'
  refine ⟨fun e ↦ ?_, fun q q' hq hq' ↦ ?_⟩
  · rw [outcome.eq_error_iff, outcome'.eq_error_iff]
  · have bindings := outcome.of_eq_ok hq
    have bindings' := outcome'.of_eq_ok hq'
    refine ⟨fun sameStyle ↦ ?_, ⟨bindings, bindings'⟩, fun n ↦ ⟨?_, mem_tokens_iff hq n⟩⟩
    · rw [bindings, bindings', windowBindings_congr sameStyle]
    · rw [mem_tokens_iff hq, mem_tokens_iff hq']

end Statement

end PreparedSql
