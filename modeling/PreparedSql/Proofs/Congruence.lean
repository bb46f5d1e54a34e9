import PreparedSql.Proofs.Correspondence

/-!
# Relations that compiling respects

Compiling puts templates together in few ways: it writes keywords and punctuation behind what it
has, lets a name, a placeholder or raw SQL follow, puts parentheses around a template, and removes
those around the condition of a join. A relation on templates that all of these respect therefore
holds between the templates of any two statements that correspond. Such a relation is a
`Congruence`, and the statements are compiled for a context each.

What follows a quoted name must not begin like the end of one, so a congruence has two relations.
Templates are related as a `lead` if any related ones may follow them, and as a `part` if a keyword
or punctuation has to come first.

## Main statements

* `Congruence.unlimited`, `Congruence.statement`: corresponding statements compile to related
  templates, or fail alike.
-/

namespace PreparedSql

/-! ## Outcomes that agree -/

/-- Both outcomes are results, and related, or both are errors, and related. -/
inductive Agree {ε ε' α β : Type} (E : ε → ε' → Prop) (P : α → β → Prop) :
    Except ε α → Except ε' β → Prop
  | ok {a : α} {b : β} (h : P a b) : Agree E P (.ok a) (.ok b)
  | error {e : ε} {e' : ε'} (h : E e e') : Agree E P (.error e) (.error e')

namespace Agree

variable {ε ε' α β γ δ : Type} {E : ε → ε' → Prop} {P : α → β → Prop} {Q : γ → δ → Prop}

theorem imp {E' : ε → ε' → Prop} {P' : α → β → Prop} {x : Except ε α} {y : Except ε' β}
    (h : Agree E P x y) (hE : ∀ e e', E e e' → E' e e') (hP : ∀ a b, P a b → P' a b) :
    Agree E' P' x y := by
  cases h with
  | ok h => exact .ok (hP _ _ h)
  | error h => exact .error (hE _ _ h)

theorem bind {x : Except ε α} {y : Except ε' β} {f : α → Except ε γ} {g : β → Except ε' δ}
    (h : Agree E P x y) (step : ∀ a b, P a b → Agree E Q (f a) (g b)) :
    Agree E Q (x >>= f) (y >>= g) := by
  cases h with
  | ok h => exact step _ _ h
  | error h => exact .error h

theorem of_eq_ok {x : Except ε α} {y : Except ε' β} {a : α} {b : β} (h : Agree E P x y)
    (hx : x = .ok a) (hy : y = .ok b) : P a b := by
  subst hx hy
  cases h with
  | ok h => exact h

theorem exists_eq_ok {x : Except ε α} {y : Except ε' β} {a : α} (h : Agree E P x y)
    (hx : x = .ok a) : ∃ b, y = .ok b ∧ P a b := by
  subst hx
  cases h with
  | ok h => exact ⟨_, rfl, h⟩

theorem mapM {f : α → Except ε γ} {g : β → Except ε' δ} {xs : List α} {ys : List β}
    (h : List.Forall₂ (fun x y ↦ Agree E Q (f x) (g y)) xs ys) :
    Agree E (List.Forall₂ Q) (xs.mapM f) (ys.mapM g) := by
  induction h with
  | nil => exact .ok .nil
  | cons h _ ih =>
    rw [List.mapM_cons, List.mapM_cons]
    exact h.bind fun _ _ hab ↦ ih.bind fun _ _ hrest ↦ .ok (.cons hab hrest)

end Agree

/-- Errors of one cause, about corresponding names. -/
inductive CompileError.Related (R : Correspondence) : CompileError → CompileError → Prop
  | leadingJoin {n n' : String} (h : R.name n n') :
      Related R (.inFrom (.leadingJoin n)) (.inFrom (.leadingJoin n'))
  | sharedColumnAfterRaw {n n' : String} (h : R.name n n') :
      Related R (.inFrom (.sharedColumnAfterRaw n)) (.inFrom (.sharedColumnAfterRaw n'))
  | emptyCondition {n n' : String} (h : R.name n n') :
      Related R (.inFrom (.emptyCondition n)) (.inFrom (.emptyCondition n'))
  | same (e : CompileError) : Related R e e

mutual

theorem Condition.isEmpty_related {R : Correspondence}
    (hR : ∀ {s s' : String}, R.raw s s' → Text.allBlank s = Text.allBlank s') :
    ∀ (c : Condition) {c' : Condition}, c.Related R c' → c.isEmpty = c'.isEmpty
  | .test _ _, _, h => by
    cases h with
    | test => rfl
  | .group _ cs, _, h => by
    cases h with
    | group h => exact Condition.allEmpty_related hR cs h
  | .raw s, _, h => by
    cases h with
    | raw h => exact hR h
termination_by structural c => c

private theorem Condition.allEmpty_related {R : Correspondence}
    (hR : ∀ {s s' : String}, R.raw s s' → Text.allBlank s = Text.allBlank s') :
    ∀ (cs : List Condition) {cs' : List Condition}, Condition.AllRelated R cs cs' →
      Condition.allEmpty cs = Condition.allEmpty cs'
  | [], _, h => by
    cases h with
    | nil => rfl
  | c :: cs, _, h => by
    cases h with
    | cons h hs =>
      rw [Condition.allEmpty, Condition.allEmpty, Condition.isEmpty_related hR c h,
        Condition.allEmpty_related hR cs hs]
termination_by structural cs => cs

end

/-! ## What compiling writes itself -/

/-- What holds of the characters of a text is decided along the text, not for each character there
is. -/
instance (priority := high) Text.decidableForallMem (cs : List Char) (p : Char → Prop)
    [DecidablePred p] : Decidable (∀ c ∈ cs, p c) := List.decidableBAll p cs

/-- The characters of keywords, numbers, operators and punctuation, parentheses excepted. -/
def Text.isGlue (c : Char) : Bool :=
  c.isAlphanum || [' ', ',', '*', '=', '!', '<', '>', '+', '.'].contains c

/-- The characters that compiling writes itself outside of identifiers. -/
def Text.isWritten (c : Char) : Bool := Text.isGlue c || c == '(' || c == ')'

/-- Those of these characters that occur in a keyword, number, operator or punctuation mark: no
keyword has a `Q`, an `X` or a `Z`. -/
def Text.isPrinted (c : Char) : Bool :=
  c.isUpper && !(['Q', 'X', 'Z'].contains c) ||
    ['0', '1', ' ', ',', '*', '=', '!', '<', '>', '+', '.'].contains c

private theorem Text.isGlue_of_isPrinted {c : Char} (h : Text.isPrinted c) : Text.isGlue c := by
  have marks : ∀ d ∈ ['0', '1', ' ', ',', '*', '=', '!', '<', '>', '+', '.'], Text.isGlue d := by
    decide
  rw [isPrinted, Bool.or_eq_true, Bool.and_eq_true] at h
  rcases h with letter | mark
  · have alphanumeric : (c.isUpper || c.isLower || c.isDigit) = true := by
      rw [letter.1, Bool.true_or, Bool.true_or]
    rw [isGlue, Bool.or_eq_true]
    exact .inl alphanumeric
  · exact marks c (List.contains_iff_mem.mp mark)

/-- Texts of keywords and punctuation. -/
def Glue (s : String) : Prop := s ≠ "" ∧ ∀ c ∈ s.toList, Text.isPrinted c

instance (s : String) : Decidable (Glue s) := inferInstanceAs (Decidable (_ ∧ _))

theorem Glue.append {s t : String} (hs : Glue s) (ht : Glue t) : Glue (s ++ t) := by
  constructor
  · intro h
    apply hs.1
    rw [← String.toList_inj, String.toList_append] at h
    exact String.toList_inj.mp (List.append_eq_nil_iff.mp h).1
  · intro c hc
    rw [String.toList_append, List.mem_append] at hc
    exact hc.elim (hs.2 c) (ht.2 c)

theorem Glue.isWritten {s : String} (hs : Glue s) : ∀ c ∈ s.toList, Text.isWritten c := by
  intro c hc
  rw [Text.isWritten, Text.isGlue_of_isPrinted (hs.2 c hc)]
  rfl

namespace Template

theorem ofString_keyword (column keyword : String) :
    ofString (column ++ " " ++ keyword ++ " ") =
      ofString column ++ ofString (" " ++ keyword ++ " ") := by
  rw [← ofString_append, String.append_assoc, String.append_assoc, String.append_assoc]

theorem ofString_keyword_open (column keyword : String) :
    ofString (column ++ " " ++ keyword ++ " ( ") =
      ofString column ++ ofString (" " ++ keyword ++ " ") ++
        ofString "( " := by
  rw [← ofString_keyword, ← ofString_append]
  exact congrArg ofString (@String.append_assoc _ " " "( ").symm

theorem ofString_intercalate (between : String) (l : List String) :
    ofString (between.intercalate l) = join between (l.map ofString) := by
  induction l with
  | nil => rfl
  | cons a l ih =>
    cases l with
    | nil => rw [String.intercalate_singleton, List.map_singleton, join, List.intercalate_singleton]
    | cons b l =>
      rw [String.intercalate_cons_cons, ofString_append, ofString_append, ih, join, join,
        List.map_cons, List.map_cons, List.map_cons, List.intercalate_cons_cons]

end Template

/-! ## The window by row numbers -/

/-- What a query that numbers the rows of another one begins with. -/
def numberingFront (ctx : Context) : Template :=
  Template.ofString "SELECT " ++ Template.ofString (ctx.quotedName "A") ++
    Template.ofString ".*, ROWNUM " ++ Template.ofString (ctx.quotedName "r") ++
    Template.ofString " FROM "

/-- The query that numbers the rows of another one and keeps those up to the end of a window. -/
def numberedQuery (ctx : Context) (limit skipped : Binding) (t : Template) : Template :=
  numberingFront ctx ++ Template.ofString "( " ++ t ++ Template.ofString " )" ++
    Template.ofString " " ++ Template.ofString (ctx.quotedName "A") ++
    Template.ofString " WHERE ROWNUM <= " ++ Template.placeholder limit ++
    Template.ofString " + " ++ Template.placeholder skipped

theorem rownumWindow_front (ctx : Context) (limit : Binding) (offset : Option Binding) :
    (rownumWindow ctx limit offset).front =
      Template.ofString "SELECT * FROM ( " ++ numberingFront ctx ++ Template.ofString "( " := by
  rw [rownumWindow, numberingFront,
    show "SELECT * FROM ( SELECT " = "SELECT * FROM ( " ++ "SELECT " from rfl,
    show " FROM ( " = " FROM " ++ "( " from rfl]
  simp only [Template.ofString_append, List.append_assoc]

/-- The window by row numbers as two queries around the given one. -/
theorem rownumWindow_around (ctx : Context) (limit : Binding) (offset : Option Binding)
    (t : Template) : (rownumWindow ctx limit offset).around t =
      Template.ofString "SELECT * FROM " ++ Template.ofString "( " ++
        numberedQuery ctx limit (offset.getD (.value (.int 0))) t ++
        Template.ofString " )" ++ Template.ofString " " ++ Template.ofString (ctx.quotedName "B") ++
        Template.ofString " WHERE " ++ Template.ofString (ctx.quotedName "r") ++
        Template.ofString " > " ++ Template.placeholder (offset.getD (.value (.int 0))) := by
  rw [Enclosure.around, rownumWindow_front, rownumWindow, numberedQuery,
    show "SELECT * FROM ( " = "SELECT * FROM " ++ "( " from rfl,
    show " ) " = " )" ++ " " from rfl]
  simp only [Template.ofString_append, List.append_assoc]

/-! ## Congruences -/

/-- Relations on templates, compiled for a context each, that every way of putting templates
together respects. -/
structure Congruence (R : Correspondence) (ctx ctx' : Context) where
  /-- Related templates that any related ones may follow. -/
  lead : Template → Template → Prop
  /-- Related templates that keywords or punctuation may follow. -/
  part : Template → Template → Prop
  nil : lead [] []
  part_of_lead {t u : Template} (h : lead t u) : part t u
  append {t u t' u' : Template} (h : lead t u) (h' : part t' u') : part (t ++ t') (u ++ u')
  glue {t u : Template} (h : part t u) {s : String} (hs : Glue s) :
    lead (t ++ .ofString s) (u ++ .ofString s)
  enclosed {t u t' u' : Template} (h : lead t u) (h' : part t' u') :
    lead (t ++ .ofString "( " ++ t' ++ .ofString " )") (u ++ .ofString "( " ++ u' ++ .ofString " )")
  strip {t u : Template} (h : part t u) : part (t.stripEnclosing ctx) (u.stripEnclosing ctx')
  isEmpty {t u : Template} (h : part t u) : t.isEmpty = u.isEmpty
  path {n n' : String} (h : R.name n n') :
    part (.ofString (ctx.quotedPath n)) (.ofString (ctx'.quotedPath n'))
  qualifiedPath {e e' n n' : String} (he : R.name e e') (hn : R.name n n') :
    part (.ofString (ctx.quotedPath (qualified ctx e n)))
      (.ofString (ctx'.quotedPath (qualified ctx' e' n')))
  quotedName {n n' : String} (h : R.name n n') :
    part (.ofString (ctx.quotedName n)) (.ofString (ctx'.quotedName n'))
  fixedName (n : String) : part (.ofString (ctx.quotedName n)) (.ofString (ctx'.quotedName n))
  blankName {n n' : String} (h : R.name n n') : Text.allBlank n = Text.allBlank n'
  placeholder {b b' : Binding} (h : R.binding b b') : part (.placeholder b) (.placeholder b')
  inlined {b : Binding} {s : String} (h : R.inlined b s) : part (.placeholder b) (.ofString s)
  raw {s s' : String} (h : R.raw s s') : part (.ofString s) (.ofString s')
  trimmedRaw {s s' : String} (h : R.raw s s') :
    part (.ofString (Text.trim s)) (.ofString (Text.trim s'))
  blankRaw {s s' : String} (h : R.raw s s') : Text.allBlank s = Text.allBlank s'

namespace Congruence

variable {R : Correspondence} {ctx ctx' : Context} (C : Congruence R ctx ctx')

/-- Templates that may follow related ones. They are empty or start with a keyword or
punctuation. -/
def Tail (t u : Template) : Prop := ∀ a b : Template, C.part a b → C.part (a ++ t) (b ++ u)

variable {C} {s : String} {t t' u u' : Template}

theorem glue_lead (hs : Glue s) : C.lead (.ofString s) (.ofString s) :=
  C.glue (C.part_of_lead C.nil) hs

/-- Keywords or punctuation between related templates. -/
theorem between (h : C.part t u) (hs : Glue s) (h' : C.part t' u') :
    C.part (t ++ .ofString s ++ t') (u ++ .ofString s ++ u') :=
  C.append (C.glue h hs) h'

theorem tail_nil : C.Tail [] [] := by
  intro a b h
  rw [List.append_nil, List.append_nil]
  exact h

theorem Tail.append (h : C.Tail t u) (h' : C.Tail t' u') : C.Tail (t ++ t') (u ++ u') := by
  intro a b hab
  rw [← List.append_assoc, ← List.append_assoc]
  exact h' _ _ (h _ _ hab)

/-- A keyword or punctuation lets any related templates follow. -/
theorem tail_glue_append (hs : Glue s) (h : C.part t u) :
    C.Tail (.ofString s ++ t) (.ofString s ++ u) := by
  intro a b hab
  rw [← List.append_assoc, ← List.append_assoc]
  exact between hab hs h

theorem part_enclosed (h : C.lead t u) (h' : C.part t' u') :
    C.part (t ++ .ofString "( " ++ t' ++ .ofString " )")
      (u ++ .ofString "( " ++ u' ++ .ofString " )") :=
  C.part_of_lead (C.enclosed h h')

theorem join {ts us : List Template} (hs : Glue s) (h : List.Forall₂ C.part ts us) :
    C.part (Template.join s ts) (Template.join s us) := by
  induction h with
  | nil => exact C.part_of_lead C.nil
  | cons h rest ih =>
    cases rest with
    | nil => rwa [Template.join, Template.join, List.intercalate_singleton,
        List.intercalate_singleton]
    | cons =>
      rw [Template.join, Template.join, List.intercalate_cons_cons, List.intercalate_cons_cons]
      exact between h hs ih

theorem paths {ns ns' : List String} (h : List.Forall₂ R.name ns ns') :
    C.part (.ofString (", ".intercalate (ns.map ctx.quotedPath)))
      (.ofString (", ".intercalate (ns'.map ctx'.quotedPath))) := by
  rw [Template.ofString_intercalate, Template.ofString_intercalate]
  apply join (by decide)
  rw [List.forall₂_map_left_iff, List.forall₂_map_left_iff, List.forall₂_map_right_iff,
    List.forall₂_map_right_iff]
  exact h.imp fun _ _ hn ↦ C.path hn

/-! ## Conditions -/

theorem operand {o o' : Operand} (h : o.Related R o') :
    C.part (o.template ctx) (o'.template ctx') := by
  cases h with
  | placeholder h => exact C.placeholder h
  | column h => exact C.path h
  | raw h => exact C.raw h
  | inlined h => exact C.inlined h

theorem operands {os os' : List Operand} (h : List.Forall₂ (Operand.Related R) os os') :
    C.part (Template.join ", " (os.map (Operand.template ctx)))
      (Template.join ", " (os'.map (Operand.template ctx'))) := by
  apply join (by decide)
  rw [List.forall₂_map_left_iff, List.forall₂_map_right_iff]
  exact h.imp fun _ _ ho ↦ operand ho

private theorem glue_negatable {negated : Bool} {keyword : String} (h : Glue keyword) :
    Glue (" " ++ negatable negated keyword ++ " ") := by
  refine (Glue.append (by decide) ?_).append (by decide)
  cases negated with
  | false => exact h
  | true => exact Glue.append (by decide) h

theorem test {column column' : String} (hColumn : C.part (.ofString column) (.ofString column'))
    {x x' : Test} (h : x.Related R x') :
    C.part (x.template ctx column) (x'.template ctx' column') := by
  cases h with
  | @compare c o o' h =>
    have keyword : Glue (" " ++ c.operator ++ " ") := by cases c <;> decide
    rw [Test.template, Test.template, Template.ofString_keyword, Template.ofString_keyword]
    exact between hColumn keyword (operand h)
  | @isIn negated os os' h =>
    cases h with
    | nil =>
      -- the constant that replaces a test against an empty list has no column
      cases negated <;> exact C.part_of_lead (glue_lead (by decide))
    | cons h hs =>
      have keyword : Glue (" " ++ negatable negated "IN" ++ " ") := glue_negatable (by decide)
      rw [Test.template, Test.template, Template.ofString_keyword_open,
        Template.ofString_keyword_open]
      · exact part_enclosed (C.glue hColumn keyword) (operands (.cons h hs))
      all_goals simp
  | @between negated low low' high high' hLow hHigh =>
    have keyword : Glue (" " ++ negatable negated "BETWEEN" ++ " ") := glue_negatable (by decide)
    rw [Test.template, Test.template, Template.ofString_keyword, Template.ofString_keyword]
    exact between (between hColumn keyword (operand hLow)) (by decide) (operand hHigh)
  | @isNull negated =>
    rw [Test.template, Test.template]
    cases negated
    · rw [if_neg (by decide), if_neg (by decide), Template.ofString_append,
        Template.ofString_append]
      exact C.part_of_lead (C.glue hColumn (by decide))
    · rw [if_pos rfl, if_pos rfl, Template.ofString_append, Template.ofString_append]
      exact C.part_of_lead (C.glue hColumn (by decide))

theorem connective {k : Connective} {ts us : List Template} (h : List.Forall₂ C.part ts us) :
    C.part (k.template ts) (k.template us) := by
  have keyword : Glue (" " ++ k.keyword ++ " ") := by cases k <;> decide
  cases h with
  | nil => exact C.part_of_lead C.nil
  | cons h hs => exact part_enclosed C.nil (join keyword (.cons h hs))

private theorem consSaid {t u : Template} {ts us : List Template} (h : C.part t u)
    (hs : List.Forall₂ C.part ts us) :
    List.Forall₂ C.part (if t.isEmpty then ts else t :: ts)
      (if u.isEmpty then us else u :: us) := by
  rw [C.isEmpty h]
  split
  · exact hs
  · exact .cons h hs

variable (C)

-- the recursion is that of compiling: over a condition, and over the members of a group
mutual

theorem condition : ∀ (c : Condition) {c' : Condition}, c.Related R c' →
    Agree (CompileError.Related R) C.part (c.template ctx) (c'.template ctx')
  | .test column x, _, h => by
    cases h with
    | test hName hTest =>
      rw [Condition.template, Condition.template, C.blankName hName]
      split
      · exact .error (.same _)
      · exact .ok (test (C.path hName) hTest)
  | .group k cs, _, h => by
    cases h with
    | group h => exact (members cs h).bind fun _ _ hParts ↦ .ok (connective hParts)
  | .raw s, _, h => by
    cases h with
    | raw h => exact .ok (C.trimmedRaw h)
termination_by structural c => c

theorem members : ∀ (cs : List Condition) {cs' : List Condition}, Condition.AllRelated R cs cs' →
    Agree (CompileError.Related R) (List.Forall₂ C.part) (Condition.memberTemplates ctx cs)
      (Condition.memberTemplates ctx' cs')
  | [], _, h => by
    cases h with
    | nil => exact .ok .nil
  | c :: cs, _, h => by
    cases h with
    | cons h hs =>
      exact (condition c h).bind fun _ _ hPart ↦ (members cs hs).bind fun _ _ hParts ↦
        .ok (consSaid hPart hParts)
termination_by structural cs => cs

end

theorem whereClause {c c' : Condition} (h : c.Related R c') :
    Agree (CompileError.Related R) C.part (c.whereClause ctx) (c'.whereClause ctx') := by
  refine (C.condition c h).bind fun t u hBody ↦ .ok ?_
  rw [C.isEmpty hBody]
  split
  · exact C.part_of_lead C.nil
  · exact C.append (glue_lead (by decide)) hBody

theorem whereSuffix {filter filter' : Option Condition}
    (h : Option.Rel (Condition.Related R) filter filter') :
    Agree (CompileError.Related R) C.Tail (whereSuffix ctx filter) (whereSuffix ctx' filter') := by
  cases h with
  | none => exact .ok tail_nil
  | @some c _ h =>
    rw [PreparedSql.whereSuffix, PreparedSql.whereSuffix, c.isEmpty_related C.blankRaw h]
    split
    · exact .ok tail_nil
    · exact (C.whereClause h).bind fun _ _ hWhere ↦ .ok (tail_glue_append (by decide) hWhere)

/-! ## Chains of tables -/

include C in
/-- What is required of names holds of corresponding ones alike; the names that pass say
something. -/
theorem requireName {n n' : String} (h : R.name n n') :
    Agree (CompileError.Related R) (fun a a' ↦ R.name a a' ∧ Text.allBlank a = false)
      (requireName n) (requireName n') := by
  rw [PreparedSql.requireName, PreparedSql.requireName, ← C.blankName h]
  cases said : Text.allBlank n with
  | true => exact .error (.same _)
  | false => exact .ok ⟨h, said⟩

theorem tableName {t t' : TableName} (h : t.Related R t') :
    Agree (CompileError.Related R) (fun a b ↦ C.part (.ofString a) (.ofString b)) (t.sql ctx)
      (t'.sql ctx') := by
  obtain ⟨name, aliasName⟩ := t
  obtain ⟨name', aliasName'⟩ := t'
  obtain ⟨hName, hAlias⟩ := h
  refine (C.requireName hName).bind fun n n' hn ↦ ?_
  cases hAlias with
  | none => exact .ok (C.path hn.1)
  | some hAlias =>
    refine (C.requireName hAlias).bind fun a a' ha ↦ .ok ?_
    rw [Template.ofString_append, Template.ofString_append, Template.ofString_append,
      Template.ofString_append]
    exact between (C.path hn.1) (by decide) (C.quotedName ha.1)

theorem exposedName_related {t t' : TableName} (h : t.Related R t') :
    R.name t.exposedName t'.exposedName := by
  obtain ⟨name, aliasName⟩ := t
  obtain ⟨name', aliasName'⟩ := t'
  obtain ⟨hName, hAlias⟩ := h
  cases hAlias with
  | none => exact hName
  | some h => exact h

/-- The comparison that a shared column stands for. -/
private def sharedTest (ctx : Context) (entry previous column : String) : Template :=
  (Test.compare .equal (.column (qualified ctx previous column))).template ctx
    (ctx.quotedPath (qualified ctx entry column))

private theorem sharedColumnCondition_template (ctx : Context) (entry previous : String)
    {column : String} (said : Text.allBlank column = false) :
    (sharedColumnCondition ctx entry previous column).template ctx =
      .ok (Connective.and.template (if (sharedTest ctx entry previous column).isEmpty then []
        else [sharedTest ctx entry previous column])) := by
  simp only [sharedColumnCondition, Condition.all, Column.compare, Condition.template,
    Condition.memberTemplates, allBlank_qualified said, Bool.false_eq_true, if_false]
  rfl

/-- The conditions say something in the same cases, and compile alike. -/
private def SameCondition (c c' : Condition) : Prop :=
  c.isEmpty = c'.isEmpty ∧
    Agree (CompileError.Related R) C.part (c.template ctx) (c'.template ctx')

private theorem sharedColumnCondition {e e' p p' n n' : String} (he : R.name e e')
    (hp : R.name p p') (hn : R.name n n') (said : Text.allBlank n = false) :
    C.SameCondition (sharedColumnCondition ctx e p n) (sharedColumnCondition ctx' e' p' n') := by
  have said' : Text.allBlank n' = false := (C.blankName hn).symm.trans said
  have compared : C.part (sharedTest ctx e p n) (sharedTest ctx' e' p' n') := by
    rw [sharedTest, sharedTest, Test.template, Test.template, Template.ofString_keyword,
      Template.ofString_keyword]
    exact between (C.qualifiedPath he hn) (by decide) (C.qualifiedPath hp hn)
  refine ⟨rfl, ?_⟩
  rw [sharedColumnCondition_template ctx e p said, sharedColumnCondition_template ctx' e' p' said']
  exact .ok (connective (consSaid compared .nil))

theorem joinCondition {j j' : Join} {p p' : String} (h : j.Related R j')
    (hp : ∀ n, j.rows = .shared n → R.name p p') :
    Agree (CompileError.Related R) C.SameCondition (j.condition ctx p) (j'.condition ctx' p') := by
  obtain ⟨table, kind, rows⟩ := j
  obtain ⟨table', kind', rows'⟩ := j'
  obtain ⟨hTable, -, hRows⟩ := h
  cases hRows with
  | @onCondition c _ h => exact .ok ⟨c.isEmpty_related C.blankRaw h, C.condition c h⟩
  | @shared n _ h =>
    exact (C.requireName h).bind fun _ _ hn ↦
      .ok (C.sharedColumnCondition (exposedName_related hTable) (hp n rfl) hn.1 hn.2)

/-- A join by a shared column needs corresponding names in front of it. -/
theorem join_template {j j' : Join} {p p' : String} (h : j.Related R j')
    (hp : ∀ n, j.rows = .shared n → R.name p p') :
    Agree (CompileError.Related R) C.Tail (j.template ctx p) (j'.template ctx' p') := by
  refine (C.tableName h.table).bind fun a a' ha ↦ (C.joinCondition h hp).bind fun c c' hc ↦ ?_
  have keywords : Glue (" " ++ j.kind.keywords) := by cases j.kind <;> decide
  have split (k : JoinKind) (a : String) :
      Template.ofString (" " ++ k.keywords ++ a ++ " ON ( ") =
        Template.ofString (" " ++ k.keywords) ++ Template.ofString a ++
          Template.ofString " ON " ++ Template.ofString "( " := by
    rw [← Template.ofString_append, ← Template.ofString_append, ← Template.ofString_append]
    exact congrArg Template.ofString (@String.append_assoc _ " ON " "( ").symm
  rw [hc.1]
  split
  · exact .error (.emptyCondition h.table.name)
  · refine hc.2.bind fun t u hBody ↦ .ok ?_
    intro x y hxy
    -- what precedes the join is part of what leads up to the parenthesis
    rw [← h.kind, split, split]
    have table := C.glue (between hxy keywords ha) (s := " ON ") (by decide)
    have whole := part_enclosed table (C.strip hBody)
    simp only [List.append_assoc] at whole ⊢
    exact whole

theorem listed {e e' : FromEntry} (h : e.Related R e') :
    Agree (CompileError.Related R) C.part (e.listed ctx) (e'.listed ctx') := by
  cases h with
  | table h => exact (C.tableName h).bind fun _ _ ha ↦ .ok ha
  | @raw s s' h =>
    rw [FromEntry.listed, FromEntry.listed, PreparedSql.requireName, PreparedSql.requireName,
      C.blankRaw h]
    cases Text.allBlank s' with
    | true => exact .error (.same _)
    | false => exact .ok (C.raw h)
  | join h => exact .error (.leadingJoin h.table.name)

theorem behind {p p' e e' : FromEntry} (hp : p.Related R p') (h : e.Related R e') :
    Agree (CompileError.Related R) C.Tail (p.behind ctx e) (p'.behind ctx' e') := by
  have comma : Glue ", " := by decide
  cases h with
  | table h => exact (C.listed (.table h)).bind fun _ _ ht ↦ .ok (tail_glue_append comma ht)
  | raw h => exact (C.listed (.raw h)).bind fun _ _ ht ↦ .ok (tail_glue_append comma ht)
  | @join j j' h =>
    obtain ⟨table, kind, rows⟩ := j
    obtain ⟨table', kind', rows'⟩ := j'
    have rows : rows.Related R rows' := h.rows
    -- only a join by a shared column asks for the name of the entry before it
    cases hp with
    | table hp =>
      have joined := C.join_template h fun _ _ ↦ exposedName_related hp
      cases rows <;> exact joined
    | join hp =>
      have joined := C.join_template h fun _ _ ↦ exposedName_related hp.table
      cases rows <;> exact joined
    | @raw s s' =>
      cases rows with
      | onCondition => exact C.join_template (p := s) h fun _ shared ↦ nomatch shared
      | shared => exact .error (CompileError.Related.sharedColumnAfterRaw h.table.name)

theorem allBehind {es es' : List FromEntry} (h : List.Forall₂ (FromEntry.Related R) es es') :
    ∀ {p p' : FromEntry}, p.Related R p' →
      Agree (CompileError.Related R) C.Tail (p.allBehind ctx es) (p'.allBehind ctx' es') := by
  induction h with
  | nil => exact fun _ ↦ .ok tail_nil
  | cons h _ ih =>
    intro p p' hp
    exact (C.behind hp h).bind fun _ _ hFirst ↦ (ih h).bind fun _ _ hRest ↦
      .ok (hFirst.append hRest)

theorem fromTemplate {es es' : List FromEntry} (h : List.Forall₂ (FromEntry.Related R) es es') :
    Agree (CompileError.Related R) C.part (fromTemplate ctx es) (fromTemplate ctx' es') := by
  cases h with
  | nil => exact .error (.same _)
  | cons h hs =>
    exact (C.listed h).bind fun _ _ hHead ↦
      (C.allBehind hs h).bind fun _ _ hRest ↦ .ok (hRest _ _ hHead)

/-! ## Statements -/

theorem fieldList {fs fs' : List Field} (h : List.Forall₂ (Field.Related R) fs fs') :
    Agree (CompileError.Related R) (fun a b ↦ C.part (.ofString a) (.ofString b))
      (fieldList ctx fs) (fieldList ctx' fs') := by
  cases h with
  | nil => exact .ok (C.part_of_lead (glue_lead (by decide)))
  | cons h hs =>
    refine (Agree.mapM (Q := fun a b ↦ C.part (.ofString a) (.ofString b))
      ((List.Forall₂.cons h hs).imp fun f f' hf ↦ ?_)).bind fun l l' hl ↦ .ok ?_
    · cases hf with
      | column hf =>
        rw [Field.sql, Field.sql, C.blankName hf]
        split
        · exact .error (.same _)
        · exact .ok (C.path hf)
      | raw hf => exact .ok (C.raw hf)
    · rw [Template.ofString_intercalate, Template.ofString_intercalate]
      apply join (by decide)
      rw [List.forall₂_map_left_iff, List.forall₂_map_right_iff]
      exact hl

theorem groupByClause {ns ns' : List String} (h : List.Forall₂ R.name ns ns') :
    C.Tail (.ofString (groupByClause ctx ns)) (.ofString (groupByClause ctx' ns')) := by
  cases h with
  | nil => exact tail_nil
  | cons h hs =>
    rw [PreparedSql.groupByClause, PreparedSql.groupByClause, List.isEmpty_cons, List.isEmpty_cons,
      if_neg (by decide), if_neg (by decide), Template.ofString_append, Template.ofString_append]
    exact tail_glue_append (by decide) (paths (.cons h hs))

theorem sortTerm {t t' : SortTerm} (h : R.name t.column t'.column ∧ t.direction = t'.direction) :
    C.part (.ofString (t.sql ctx)) (.ofString (t'.sql ctx')) := by
  obtain ⟨column, direction⟩ := t
  obtain ⟨column', direction'⟩ := t'
  obtain ⟨hName, rfl⟩ := h
  cases direction with
  | none => exact C.path hName
  | some d =>
    have keyword : Glue (" " ++ d.keyword) := by cases d <;> decide
    have hName : R.name column column' := hName
    simp only [SortTerm.sql, String.append_assoc]
    rw [Template.ofString_append (ctx.quotedPath _), Template.ofString_append (ctx'.quotedPath _)]
    exact C.part_of_lead (C.glue (C.path hName) keyword)

theorem orderByClause {ts ts' : List SortTerm}
    (h : List.Forall₂ (fun t t' ↦ R.name t.column t'.column ∧ t.direction = t'.direction) ts ts') :
    C.Tail (.ofString (orderByClause ctx ts)) (.ofString (orderByClause ctx' ts')) := by
  cases h with
  | nil => exact tail_nil
  | cons h hs =>
    rw [PreparedSql.orderByClause, PreparedSql.orderByClause, List.isEmpty_cons, List.isEmpty_cons,
      if_neg (by decide), if_neg (by decide), Template.ofString_append, Template.ofString_append,
      Template.ofString_intercalate, Template.ofString_intercalate]
    apply tail_glue_append (by decide)
    apply join (by decide)
    rw [List.forall₂_map_left_iff, List.forall₂_map_left_iff, List.forall₂_map_right_iff,
      List.forall₂_map_right_iff]
    exact .cons (C.sortTerm h) (hs.imp fun _ _ ht ↦ C.sortTerm ht)

theorem unlimited {s s' : Select} (h : s.Related R s') :
    Agree (CompileError.Related R) C.part (s.unlimited ctx) (s'.unlimited ctx') := by
  refine (C.fromTemplate h.tables).bind fun t t' ht ↦ (C.fieldList h.fields).bind fun f f' hf ↦
    (C.whereSuffix h.filter).bind fun w w' hw ↦ .ok ?_
  have selected : C.part (.ofString ("SELECT " ++ f ++ " FROM ") ++ t)
      (.ofString ("SELECT " ++ f' ++ " FROM ") ++ t') := by
    simp only [Template.ofString_append]
    exact between (C.append (glue_lead (by decide)) hf) (by decide) ht
  rw [Template.ofString_append (PreparedSql.groupByClause _ _),
    Template.ofString_append (PreparedSql.groupByClause _ _)]
  exact (C.groupByClause h.groupBy).append (C.orderByClause h.orderBy) _ _ (hw _ _ selected)

private theorem isEmpty_eq {α β : Type} {P : α → β → Prop} {xs : List α} {ys : List β}
    (h : List.Forall₂ P xs ys) : xs.isEmpty = ys.isEmpty := by
  cases h <;> rfl

theorem update {s s' : Update} (h : s.Related R s') :
    Agree (CompileError.Related R) C.part (s.template ctx) (s'.template ctx') := by
  rw [Update.template, Update.template, C.blankName h.table, isEmpty_eq h.assignments]
  split
  · exact .error (.same _)
  · refine (C.whereSuffix h.filter).bind fun w w' hw ↦ .ok (hw _ _ ?_)
    have updated : C.lead (.ofString ("UPDATE " ++ ctx.quotedPath s.table ++ " SET "))
        (.ofString ("UPDATE " ++ ctx'.quotedPath s'.table ++ " SET ")) := by
      simp only [Template.ofString_append]
      exact C.glue (C.append (glue_lead (by decide)) (C.path h.table)) (by decide)
    apply C.append updated
    apply join (by decide)
    rw [List.forall₂_map_left_iff, List.forall₂_map_right_iff]
    apply h.assignments.imp
    intro a a' ha
    rw [Update.assignmentTemplate, Update.assignmentTemplate, Template.ofString_append,
      Template.ofString_append]
    exact between (C.path ha.1) (by decide) (operand ha.2)

theorem delete {s s' : Delete} (h : s.Related R s') :
    Agree (CompileError.Related R) C.part (s.template ctx) (s'.template ctx') := by
  rw [Delete.template, Delete.template, C.blankName h.table]
  split
  · exact .error (.same _)
  · refine (C.whereSuffix h.filter).bind fun w w' hw ↦ .ok (hw _ _ ?_)
    rw [Template.ofString_append, Template.ofString_append]
    exact C.append (glue_lead (by decide)) (C.path h.table)

theorem row {row row' : List Binding} (h : List.Forall₂ R.binding row row') :
    C.part (Insert.rowTemplate row) (Insert.rowTemplate row') := by
  apply part_enclosed C.nil
  apply join (by decide)
  rw [List.forall₂_map_left_iff, List.forall₂_map_right_iff]
  exact h.imp fun _ _ hb ↦ C.placeholder hb

theorem rows {rows rows' : List (List Binding)}
    (h : List.Forall₂ (List.Forall₂ R.binding) rows rows') (width : Nat) : ∀ position : Nat,
      Agree (CompileError.Related R) (List.Forall₂ C.part)
        (Insert.rowTemplates width position rows) (Insert.rowTemplates width position rows') := by
  induction h with
  | nil => exact fun _ ↦ .ok .nil
  | cons h _ ih =>
    intro position
    rw [Insert.rowTemplates, Insert.rowTemplates, h.length_eq]
    split
    · exact .error (.same _)
    · exact (ih (position + 1)).bind fun _ _ hs ↦ .ok (.cons (C.row h) hs)

theorem insert {s s' : Insert} (h : s.Related R s') :
    Agree (CompileError.Related R) C.part (s.template ctx) (s'.template ctx') := by
  rw [Insert.template, Insert.template, C.blankName h.table, isEmpty_eq h.columns,
    isEmpty_eq h.rows, h.columns.length_eq]
  split
  · exact .error (.same _)
  · split
    · exact .error (.same _)
    · refine (C.rows h.rows _ 0).bind fun ts us hts ↦ .ok ?_
      have split (a b : String) :
          Template.ofString ("INSERT INTO " ++ a ++ " ( " ++ b ++ " ) VALUES ") =
            Template.ofString "INSERT INTO " ++ Template.ofString a ++ Template.ofString " " ++
              Template.ofString "( " ++ Template.ofString b ++ Template.ofString " )" ++
                Template.ofString " VALUES " := by
        simp only [← Template.ofString_append]
        rw [show " ( " = " " ++ "( " from rfl, show " ) VALUES " = " )" ++ " VALUES " from rfl]
        simp only [String.append_assoc]
      rw [split, split]
      refine between (part_enclosed ?_ (paths h.columns)) (by decide) (join (by decide) hts)
      exact C.glue (C.append (glue_lead (by decide)) (C.path h.table)) (by decide)

/-! ## Windows -/

theorem numberingFront : C.lead (numberingFront ctx) (numberingFront ctx') :=
  C.glue (between (C.append (glue_lead (by decide)) (C.fixedName "A")) (by decide)
    (C.fixedName "r")) (by decide)

theorem numberedQuery {limit limit' skipped skipped' : Binding} {t u : Template}
    (hLimit : R.binding limit limit') (hSkipped : R.binding skipped skipped') (h : C.part t u) :
    C.part (numberedQuery ctx limit skipped t) (numberedQuery ctx' limit' skipped' u) := by
  have named := between (part_enclosed C.numberingFront h) (s := " ") (by decide) (C.fixedName "A")
  have bounded := between named (s := " WHERE ROWNUM <= ") (by decide) (C.placeholder hLimit)
  exact between bounded (by decide) (C.placeholder hSkipped)

private theorem rownumWindow {limit limit' : Binding} {offset offset' : Option Binding}
    {t u : Template} (hZero : R.binding (.value (.int 0)) (.value (.int 0)))
    (hLimit : R.binding limit limit') (hOffset : Option.Rel R.binding offset offset')
    (h : C.part t u) :
    C.part ((rownumWindow ctx limit offset).around t)
      ((rownumWindow ctx' limit' offset').around u) := by
  have skipped : R.binding (offset.getD (.value (.int 0))) (offset'.getD (.value (.int 0))) := by
    cases hOffset with
    | none => exact hZero
    | some h => exact h
  rw [rownumWindow_around, rownumWindow_around]
  have outer := part_enclosed (glue_lead (s := "SELECT * FROM ") (by decide))
    (C.numberedQuery hLimit skipped h)
  exact between (between (between outer (by decide) (C.fixedName "B")) (by decide)
    (C.fixedName "r")) (by decide) (C.placeholder skipped)

theorem window {limit limit' offset offset' : Option Binding} {t u : Template}
    (hStyle : ctx.limitStyle = ctx'.limitStyle)
    (hZero : R.binding (.value (.int 0)) (.value (.int 0)))
    (hLimit : Option.Rel R.binding limit limit') (hOffset : Option.Rel R.binding offset offset')
    (h : C.part t u) :
    C.part ((window ctx limit offset).around t) ((window ctx' limit' offset').around u) := by
  cases hLimit with
  | none => simpa [PreparedSql.window, Enclosure.around, Enclosure.none] using h
  | some hLimit =>
    rw [PreparedSql.window, PreparedSql.window, ← hStyle]
    cases ctx.limitStyle with
    | offset =>
      cases hOffset with
      | none =>
        simp only [offsetWindow, Enclosure.around, List.nil_append, List.append_nil,
          ← List.append_assoc]
        exact between h (by decide) (C.placeholder hLimit)
      | some hOffset =>
        simp only [offsetWindow, Enclosure.around, List.nil_append, ← List.append_assoc]
        exact between (between h (by decide) (C.placeholder hLimit)) (by decide)
          (C.placeholder hOffset)
    | xy =>
      cases hOffset with
      | none =>
        simp only [xyWindow, Enclosure.around, List.nil_append, List.append_nil,
          ← List.append_assoc]
        exact between h (by decide) (C.placeholder hLimit)
      | some hOffset =>
        simp only [xyWindow, Enclosure.around, List.nil_append, ← List.append_assoc]
        exact between (between h (by decide) (C.placeholder hOffset)) (by decide)
          (C.placeholder hLimit)
    | rownum => exact C.rownumWindow hZero hLimit hOffset h

/-- Corresponding statements compile alike, in contexts of one limit style. A window may need the
number zero as a binding, which therefore has to correspond to itself. -/
theorem statement (hStyle : ctx.limitStyle = ctx'.limitStyle)
    (hZero : R.binding (.value (.int 0)) (.value (.int 0))) {s s' : Statement}
    (h : s.Related R s') :
    Agree (CompileError.Related R) C.part (s.template ctx) (s'.template ctx') := by
  cases h with
  | select h =>
    exact (C.unlimited h).bind fun _ _ ht ↦ .ok (C.window hStyle hZero h.limit h.offset ht)
  | insert h => exact C.insert h
  | update h => exact C.update h
  | delete h => exact C.delete h

end Congruence

end PreparedSql
