import PreparedSql.Proofs.Congruence

/-!
# Bindings stay out of the text

Compiling puts a placeholder where a value or a token is bound and never looks at the binding
itself. Changing the bindings of a statement therefore changes nothing but the bindings of the
query: not the text, and not whether and why the statement fails to compile.

A window by row numbers binds the number zero on its own account where a statement has a limit and
no offset. These two bindings are the `padding` of the query; they do not come from the statement.

## Main statements

* `Statement.compile_mapBindings`: compiling a statement with other bindings.
-/

namespace PreparedSql

/-! ## Templates with other bindings -/

namespace Template

@[simp] theorem mapBindings_append (f : Binding → Binding) (t u : Template) :
    mapBindings f (t ++ u) = mapBindings f t ++ mapBindings f u := List.map_append

@[simp] theorem mapBindings_ofString (f : Binding → Binding) (s : String) :
    mapBindings f (ofString s) = ofString s := by
  rw [mapBindings, ofString, List.map_map]
  rfl

@[simp] theorem mapBindings_placeholder (f : Binding → Binding) (b : Binding) :
    mapBindings f (placeholder b) = placeholder (f b) := rfl

end Template

/-- Equal names, equal raw SQL, and bindings that differ by a function. -/
def rebinding (f : Binding → Binding) : Correspondence where
  name := Eq
  raw := Eq
  binding b b' := b' = f b
  inlined _ _ := False

theorem rebinding_follows (f : Binding → Binding) :
    (rebinding f).Follows (Operand.mapBindings f) f := by
  refine ⟨fun _ ↦ rfl, ?_, fun _ ↦ rfl⟩
  intro o _
  cases o with
  | placeholder b => exact .placeholder rfl
  | column n => exact .column rfl
  | raw r => exact .raw rfl

/-- Templates that differ in their bindings, by a function. -/
def rebindingCongruence (ctx : Context) (f : Binding → Binding) :
    Congruence (rebinding f) ctx ctx where
  lead t u := u = t.mapBindings f
  part t u := u = t.mapBindings f
  nil := rfl
  part_of_lead h := h
  append h h' := by rw [h, h', Template.mapBindings_append]
  glue h _ _ := by rw [h, Template.mapBindings_append, Template.mapBindings_ofString]
  enclosed h h' := by
    rw [h, h']
    simp only [Template.mapBindings_append, Template.mapBindings_ofString]
  strip h := by rw [h, Template.stripEnclosing_mapBindings]
  isEmpty h := by rw [h, Template.mapBindings, List.isEmpty_map]
  path h := by rw [h, Template.mapBindings_ofString]
  qualifiedPath he hn := by rw [he, hn, Template.mapBindings_ofString]
  quotedName h := by rw [h, Template.mapBindings_ofString]
  fixedName _ := (Template.mapBindings_ofString f _).symm
  blankName h := by rw [h]
  placeholder h := by rw [h, Template.mapBindings_placeholder]
  inlined h := h.elim
  raw h := by rw [h, Template.mapBindings_ofString]
  trimmedRaw h := by rw [h, Template.mapBindings_ofString]
  blankRaw h := by rw [h]

/-! ## Padding -/

/-- The bindings that a window adds on its own account. -/
def Select.padding (ctx : Context) (s : Select) : List Binding :=
  match ctx.limitStyle, s.limit, s.offset with
  | .rownum, some _, none => [.value (.int 0), .value (.int 0)]
  | _, _, _ => []

/-- The bindings of the compiled query that do not come from the statement; they are its last
ones. -/
def Statement.padding (ctx : Context) : Statement → List Binding
  | select s => s.padding ctx
  | _ => []

/-- Templates of one text whose bindings differ by a function, up to their last ones. -/
def Template.Rebound (f : Binding → Binding) (padding : List Binding) (t u : Template) : Prop :=
  u.text = t.text ∧
    ∃ bound, t.bindings = bound ++ padding ∧ u.bindings = bound.map f ++ padding

variable {ctx : Context} {f : Binding → Binding}

theorem Template.rebound_mapBindings (t : Template) : t.Rebound f [] (t.mapBindings f) := by
  refine ⟨Template.text_mapBindings f t, t.bindings, (List.append_nil _).symm, ?_⟩
  rw [Template.bindings_mapBindings, List.append_nil]

/-- If no binding is added, the windows differ in their bindings like what they are put around. -/
private theorem window_mapBindings {limit offset : Option Binding}
    (h : ctx.limitStyle = .rownum → limit.isSome → offset.isSome) (t : Template) :
    (window ctx (limit.map f) (offset.map f)).around (t.mapBindings f) =
      ((window ctx limit offset).around t).mapBindings f := by
  cases limit with
  | none => simp [window, Enclosure.around, Enclosure.none]
  | some limit =>
    rw [Option.map_some, window, window]
    cases style : ctx.limitStyle with
    | offset => cases offset <;> simp [offsetWindow, Enclosure.around]
    | xy => cases offset <;> simp [xyWindow, Enclosure.around]
    | rownum =>
      cases offset with
      | none => exact absurd (h style rfl) (by decide)
      | some offset => simp [rownumWindow, Enclosure.around]

private theorem window_rebound (s : Select) (t : Template) :
    ((window ctx s.limit s.offset).around t).Rebound f (s.padding ctx)
      ((window ctx (s.limit.map f) (s.offset.map f)).around (t.mapBindings f)) := by
  by_cases padded : ctx.limitStyle = .rownum ∧ s.limit.isSome ∧ s.offset = none
  · obtain ⟨style, hLimit, noOffset⟩ := padded
    obtain ⟨limit, isLimit⟩ := Option.isSome_iff_exists.mp hLimit
    have added : s.padding ctx = [.value (.int 0), .value (.int 0)] := by
      rw [Select.padding, style, isLimit, noOffset]
    rw [added, isLimit, noOffset, Option.map_some, Option.map_none, window, window, style]
    refine ⟨?_, t.bindings ++ [limit], ?_, ?_⟩ <;> simp [rownumWindow, Enclosure.around]
  · -- in all other cases the window binds nothing of its own
    have unpadded : s.padding ctx = [] := by
      rw [Select.padding]
      split
      · next style hLimit noOffset => exact absurd ⟨style, by rw [hLimit]; rfl, noOffset⟩ padded
      · rfl
    have offsetGiven : ctx.limitStyle = .rownum → s.limit.isSome → s.offset.isSome := by
      intro style hLimit
      rw [Option.isSome_iff_ne_none]
      intro noOffset
      exact padded ⟨style, hLimit, noOffset⟩
    rw [unpadded, window_mapBindings offsetGiven]
    exact Template.rebound_mapBindings _

/-! ## Compiling -/

theorem CompileError.Related.eq {R : Correspondence} (hR : ∀ n n', R.name n n' → n = n')
    {e e' : CompileError} (h : e.Related R e') : e = e' := by
  cases h with
  | leadingJoin h => rw [hR _ _ h]
  | sharedColumnAfterRaw h => rw [hR _ _ h]
  | emptyCondition h => rw [hR _ _ h]
  | same => rfl

theorem Statement.template_mapBindings (ctx : Context) (f : Binding → Binding) (s : Statement) :
    Agree Eq (Template.Rebound f (s.padding ctx)) (s.template ctx)
      ((s.mapBindings f).template ctx) := by
  have related : s.Related (rebinding f) (s.mapBindings f) :=
    s.related_rewrite (rebinding_follows f) fun _ _ ↦ rfl
  have errors (e e' : CompileError) (h : e.Related (rebinding f) e') : e = e' :=
    h.eq fun _ _ ↦ id
  have unpadded {x y : Except CompileError Template} (h : Agree (CompileError.Related (rebinding f))
      (rebindingCongruence ctx f).part x y) : Agree Eq (Template.Rebound f []) x y :=
    h.imp errors fun t _ hu ↦ hu ▸ t.rebound_mapBindings
  cases s with
  | select s =>
    cases related with
    | select h =>
      have body := ((rebindingCongruence ctx f).unlimited h).imp errors fun _ _ ↦ id
      exact body.bind fun t _ hu ↦ .ok (hu ▸ window_rebound s t)
  | insert s =>
    cases related with
    | insert h => exact unpadded ((rebindingCongruence ctx f).insert h)
  | update s =>
    cases related with
    | update h => exact unpadded ((rebindingCongruence ctx f).update h)
  | delete s =>
    cases related with
    | delete h => exact unpadded ((rebindingCongruence ctx f).delete h)

/-- **Bindings stay out of the text.** A statement with other bindings fails to compile in the same
cases and for the same reason. Otherwise it has the same text, and its bindings are the changed
ones, up to the padding. -/
theorem Statement.compile_mapBindings (ctx : Context) (f : Binding → Binding) (s : Statement) :
    (∀ e, s.compile ctx = .error e ↔ (s.mapBindings f).compile ctx = .error e) ∧
      ∀ q, s.compile ctx = .ok q → ∃ bound, q.bindings = bound ++ s.padding ctx ∧
        (s.mapBindings f).compile ctx = .ok ⟨q.sql, bound.map f ++ s.padding ctx⟩ := by
  have agree := s.template_mapBindings ctx f
  rw [Statement.compile, Statement.compile]
  generalize s.template ctx = x at agree
  generalize (s.mapBindings f).template ctx = y at agree
  cases agree with
  | @ok t u h =>
    obtain ⟨text, bound, bindings, bindings'⟩ := h
    constructor
    · intro e
      constructor <;> intro h <;> cases h
    · intro q hq
      rw [← Except.ok.inj hq]
      refine ⟨bound, bindings, ?_⟩
      exact congrArg Except.ok (by rw [Query.ofTemplate, Query.ofTemplate, text, bindings'])
  | error h =>
    subst h
    refine ⟨fun e ↦ Iff.rfl, ?_⟩
    intro q hq
    cases hq

end PreparedSql
