import PreparedSql.Proofs.Correspondence
import PreparedSql.Proofs.Lexing

/-!
# The grammar of conditions

The tokens of a condition are read by recursive descent. `AND` binds more tightly than `OR`, and
parentheses group. The `AND` of a `BETWEEN` belongs to the test and joins no conditions. A
comparison of two numbers is a constant.

What is read is a `Formula`. Parentheses around a single member leave a trace in it, because they
come from a group with one member; which connective the group had cannot be seen.

## Main definitions

* `Formula`: the trees that are read.
* `Context.readCondition`: the tree of a text whose placeholders have bindings.

## Main statements

* `readAlternatives_tokens`: the tokens of a formula are read as the formula.
-/

namespace PreparedSql

/-- What a condition says. -/
inductive Formula where
  /-- Every row, or none. -/
  | constant (holds : Bool)
  /-- A test of a column. -/
  | test (column : String) (test : Test)
  /-- A group with a single member. -/
  | enclosed (member : Formula)
  /-- A group with several members. -/
  | joined (connective : Connective) (members : List Formula)

/-! ## Reading -/

/-- Reads something off the front of a list of tokens. -/
abbrev TokenReader (α : Type) := List Token → Option (α × List Token)

/-- An operand that is no raw SQL. -/
def readOperand : TokenReader Operand
  | .placeholder b :: ks => some (.placeholder b, ks)
  | .name n :: ks => some (.column n, ks)
  | _ => none

/-- One or more items with a token between every two, as many as there are. The fuel bounds their
number. -/
def readList {α : Type} (item : TokenReader α) (between : Token) :
    Nat → TokenReader (List α)
  | 0, _ => none
  | fuel + 1, ks => do
    let (x, ks) ← item ks
    match ks with
    | [] => return ([x], [])
    | k :: rest =>
      if k = between then do
        let (xs, ks) ← readList item between fuel rest
        return (x :: xs, ks)
      else return ([x], k :: rest)

def comparisonOf? : String → Option Comparison
  | "=" => some .equal
  | "!=" => some .notEqual
  | "<" => some .less
  | "<=" => some .lessOrEqual
  | ">" => some .greater
  | ">=" => some .greaterOrEqual
  | _ => none

def readItems (negated : Bool) : TokenReader Test := fun ks ↦ do
  let (items, ks) ← readList readOperand (.symbol ",") (ks.length + 1) ks
  match ks with
  | .symbol ")" :: ks => return (.isIn negated items, ks)
  | _ => none

def readBounds (negated : Bool) : TokenReader Test := fun ks ↦ do
  let (low, ks) ← readOperand ks
  match ks with
  | .word "AND" :: ks =>
    let (high, ks) ← readOperand ks
    return (.between negated low high, ks)
  | _ => none

def readCompared (comparison : Comparison) : TokenReader Test := fun ks ↦ do
  let (operand, ks) ← readOperand ks
  return (.compare comparison operand, ks)

/-- A test, behind its column. -/
def readTest : TokenReader Test
  | .word "IS" :: .word "NULL" :: ks => some (.isNull false, ks)
  | .word "IS" :: .word "NOT" :: .word "NULL" :: ks => some (.isNull true, ks)
  | .word "IN" :: .symbol "(" :: ks => readItems false ks
  | .word "NOT" :: .word "IN" :: .symbol "(" :: ks => readItems true ks
  | .word "BETWEEN" :: ks => readBounds false ks
  | .word "NOT" :: .word "BETWEEN" :: ks => readBounds true ks
  | .word "LIKE" :: ks => readCompared .like ks
  | .word "NOT" :: .word "LIKE" :: ks => readCompared .notLike ks
  | .symbol operator :: ks => do readCompared (← comparisonOf? operator) ks
  | _ => none

/-- Conditions joined by `OR`, each of them conditions joined by `AND`. -/
def readAlternatives (primary : TokenReader Formula) : TokenReader (List (List Formula)) := fun ks ↦
  readList (readList primary (.word "AND") (ks.length + 1)) (.word "OR") (ks.length + 1) ks

namespace Formula

def ofConjuncts : List Formula → Formula
  | [f] => f
  | fs => joined .and fs

def ofAlternatives : List (List Formula) → Formula
  | [fs] => ofConjuncts fs
  | fss => joined .or (fss.map ofConjuncts)

/-- What stands between parentheses; a single member stays a group. -/
def inParentheses : List (List Formula) → Formula
  | [[f]] => enclosed f
  | fss => ofAlternatives fss

end Formula

/-- A constant, a test, or a condition between parentheses. The fuel bounds how deeply they are
nested. -/
def readPrimary : Nat → TokenReader Formula
  | _, .word "0" :: .symbol "=" :: .word "1" :: ks => some (.constant false, ks)
  | _, .word "1" :: .symbol "=" :: .word "1" :: ks => some (.constant true, ks)
  | _, .name n :: ks => do
    let (t, ks) ← readTest ks
    return (.test n t, ks)
  | depth + 1, .symbol "(" :: ks => do
    let (fss, ks) ← readAlternatives (readPrimary depth) ks
    match ks with
    | .symbol ")" :: ks => return (.inParentheses fss, ks)
    | _ => none
  | _, _ => none

/-- The formula of a text whose placeholders have bindings. All of the text has to be read. -/
def Context.readCondition (ctx : Context) (sql : String) (bindings : List Binding) :
    Option Formula := do
  let ks ← ctx.tokens sql bindings
  match ← readAlternatives (readPrimary ks.length) ks with
  | (fss, []) => return .ofAlternatives fss
  | _ => none

/-! ## The tokens of a formula -/

def Operand.token : Operand → Token
  | placeholder b => .placeholder b
  | column n => .name n
  | raw sql => .symbol sql

def negationTokens (negated : Bool) : List Token := if negated then [.word "NOT"] else []

def Comparison.tokens : Comparison → List Token
  | like => [.word "LIKE"]
  | notLike => [.word "NOT", .word "LIKE"]
  | c => [.symbol c.operator]

/-- The tokens of a test, behind its column. -/
def Test.tokens : Test → List Token
  | compare c o => c.tokens ++ [o.token]
  | isIn negated items =>
    negationTokens negated ++ [.word "IN", .symbol "("] ++
      [.symbol ","].intercalate (items.map fun o ↦ [o.token]) ++ [.symbol ")"]
  | between negated low high =>
    negationTokens negated ++ [.word "BETWEEN", low.token, .word "AND", high.token]
  | isNull negated => .word "IS" :: negationTokens negated ++ [.word "NULL"]

namespace Formula

mutual

/-- The tokens of a formula; a group is written between parentheses. -/
def tokens : Formula → List Token
  | .constant holds => [.word (if holds then "1" else "0"), .symbol "=", .word "1"]
  | .test column t => .name column :: t.tokens
  | .enclosed f => .symbol "(" :: tokens f ++ [.symbol ")"]
  | .joined connective fs =>
    .symbol "(" :: [.word connective.keyword].intercalate (allTokens fs) ++ [.symbol ")"]
termination_by structural f => f

def allTokens : List Formula → List (List Token)
  | [] => []
  | f :: fs => tokens f :: allTokens fs
termination_by structural fs => fs

end

theorem allTokens_eq_map (fs : List Formula) : allTokens fs = fs.map tokens := by
  induction fs with
  | nil => rfl
  | cons f fs ih => rw [allTokens, ih, List.map_cons]

/-- Formulas that can be written: raw SQL has no structure, a list of items is not empty, and there
is a connective between any two members. -/
inductive Proper : Formula → Prop
  | constant {holds : Bool} : Proper (.constant holds)
  | test {column : String} {t : Test} (hRaw : t.raws = []) (hItems : ∀ n, t ≠ .isIn n []) :
      Proper (.test column t)
  | enclosed {f : Formula} (h : Proper f) : Proper (.enclosed f)
  | joined {connective : Connective} {fs : List Formula} (h : ∀ f ∈ fs, Proper f)
      (two : 2 ≤ fs.length) : Proper (.joined connective fs)

end Formula

/-! ## Reading the tokens of a formula -/

section ReadList

variable {α : Type} {item : TokenReader α} {print : α → List Token} {k : Token}

private theorem length_le_intercalate (k : Token) (ls : List (List Token)) :
    ls.length ≤ ([k].intercalate ls).length + 1 := by
  induction ls with
  | nil => exact Nat.zero_le _
  | cons l ls ih =>
    cases ls with
    | nil => simp
    | cons l' ls =>
      rw [List.intercalate_cons_cons, List.length_cons, List.length_append, List.length_append,
        List.length_singleton]
      omega

private theorem length_le_intercalate_of_mem (k : Token) {l : List Token}
    {ls : List (List Token)} (h : l ∈ ls) : l.length ≤ ([k].intercalate ls).length := by
  induction ls with
  | nil => exact nomatch h
  | cons l' ls ih =>
    cases ls with
    | nil =>
      exact Nat.le_of_eq (by rw [List.mem_singleton.mp h, List.intercalate_singleton])
    | cons l'' ls =>
      rw [List.intercalate_cons_cons, List.length_append, List.length_append]
      rcases List.mem_cons.mp h with rfl | h
      · omega
      · have rest := ih h
        omega

private theorem readList_of_end {x : α} {ks rest : List Token} (h : item ks = some (x, rest))
    (hEnd : rest.head? ≠ some k) (fuel : Nat) :
    readList item k (fuel + 1) ks = some ([x], rest) := by
  rw [readList, h]
  cases rest with
  | nil => rfl
  | cons k' rest => exact if_neg fun same ↦ hEnd (congrArg some same)

private theorem readList_of_between {x : α} {xs : List α} {fuel : Nat} {ks ls rest : List Token}
    (h : item ks = some (x, k :: ls)) (h' : readList item k fuel ls = some (xs, rest)) :
    readList item k (fuel + 1) ks = some (x :: xs, rest) := by
  rw [readList, h]
  refine (if_pos rfl).trans ?_
  rw [h']
  rfl

/-- A list is read to its end if each item is, whatever may follow an item. -/
theorem readList_intercalate {P : List Token → Prop} {xs : List α} (hne : xs ≠ [])
    (hItem : ∀ x ∈ xs, ∀ r, P r → item (print x ++ r) = some (x, r))
    (hBetween : ∀ r, P (k :: r)) {rest : List Token} (hRest : P rest)
    (hEnd : rest.head? ≠ some k) {fuel : Nat} (hFuel : xs.length ≤ fuel) :
    readList item k fuel ([k].intercalate (xs.map print) ++ rest) = some (xs, rest) := by
  induction xs generalizing fuel with
  | nil => exact absurd rfl hne
  | cons x xs ih =>
    rw [List.length_cons] at hFuel
    obtain ⟨fuel, rfl⟩ : ∃ n, fuel = n + 1 := ⟨fuel - 1, by omega⟩
    have first := hItem x List.mem_cons_self
    cases xs with
    | nil =>
      rw [List.map_singleton, List.intercalate_singleton]
      exact readList_of_end (first rest hRest) hEnd fuel
    | cons y ys =>
      have remaining := ih (List.cons_ne_nil y ys)
        (fun z hz ↦ hItem z (List.mem_cons_of_mem _ hz)) (Nat.le_of_succ_le_succ hFuel)
      rw [List.map_cons, List.map_cons, List.intercalate_cons_cons, List.append_assoc,
        List.append_assoc]
      exact readList_of_between (first _ (hBetween _)) remaining

end ReadList

/-! ### Tests -/

theorem readOperand_token {o : Operand} (h : o.raws = []) (ks : List Token) :
    readOperand (o.token :: ks) = some (o, ks) := by
  cases o with
  | placeholder b => rfl
  | column n => rfl
  | raw sql => exact nomatch h

theorem readCompared_token {o : Operand} (h : o.raws = []) (c : Comparison)
    (ks : List Token) : readCompared c (o.token :: ks) = some (.compare c o, ks) := by
  rw [readCompared, readOperand_token h]
  rfl

theorem readBounds_tokens {low high : Operand} (hLow : low.raws = []) (hHigh : high.raws = [])
    (negated : Bool) (ks : List Token) :
    readBounds negated (low.token :: .word "AND" :: high.token :: ks) =
      some (.between negated low high, ks) := by
  rw [readBounds, readOperand_token hLow]
  change (readOperand (high.token :: ks) >>= _) = _
  rw [readOperand_token hHigh]
  rfl

theorem readItems_tokens {items : List Operand} (hne : items ≠ [])
    (h : ∀ o ∈ items, o.raws = []) (negated : Bool) (ks : List Token) :
    readItems negated ([.symbol ","].intercalate (items.map fun o ↦ [o.token]) ++
      .symbol ")" :: ks) = some (.isIn negated items, ks) := by
  have bound := length_le_intercalate (.symbol ",") (items.map fun o ↦ [o.token])
  have fuel : items.length ≤ ([.symbol ","].intercalate (items.map fun o ↦ [o.token]) ++
      .symbol ")" :: ks).length + 1 := by
    rw [List.length_map] at bound
    rw [List.length_append]
    omega
  have item : ∀ o ∈ items, ∀ r, True → readOperand ([o.token] ++ r) = some (o, r) :=
    fun o ho r _ ↦ readOperand_token (h o ho) r
  have ended : (.symbol ")" :: ks : List Token).head? ≠ some (.symbol ",") := by simp
  have read := readList_intercalate hne item (fun _ ↦ trivial) trivial ended fuel
  rw [readItems, read]
  rfl

theorem readTest_tokens {t : Test} (hRaw : t.raws = []) (hItems : ∀ n, t ≠ .isIn n [])
    (ks : List Token) : readTest (t.tokens ++ ks) = some (t, ks) := by
  cases t with
  | compare c o =>
    have read := readCompared_token hRaw
    cases c <;> exact read _ ks
  | isIn negated items =>
    have hne : items ≠ [] := by
      intro empty
      exact hItems negated (by rw [empty])
    have read := readItems_tokens hne (List.flatMap_eq_nil_iff.mp hRaw)
    rw [Test.tokens, List.append_assoc, List.append_assoc]
    cases negated with
    | false => exact read false ks
    | true => exact read true ks
  | between negated low high =>
    obtain ⟨hLow, hHigh⟩ := List.append_eq_nil_iff.mp hRaw
    cases negated with
    | false => exact readBounds_tokens hLow hHigh false ks
    | true => exact readBounds_tokens hLow hHigh true ks
  | isNull negated => cases negated <;> rfl

/-! ### Formulas -/

namespace Formula

def conjunctTokens (fs : List Formula) : List Token :=
  [.word "AND"].intercalate (fs.map tokens)

def alternativeTokens (fss : List (List Formula)) : List Token :=
  [.word "OR"].intercalate (fss.map conjunctTokens)

theorem alternativeTokens_single (f : Formula) : alternativeTokens [[f]] = f.tokens := by
  rw [alternativeTokens, List.map_singleton, List.intercalate_singleton, conjunctTokens,
    List.map_singleton, List.intercalate_singleton]

theorem Proper.single_spec {f : Formula} (h : f.Proper) :
    (∀ fs ∈ [[f]], fs ≠ []) ∧ ∀ fs ∈ [[f]], ∀ g ∈ fs, g.Proper := by
  constructor
  · intro fs hfs
    rw [List.mem_singleton.mp hfs]
    exact List.cons_ne_nil _ _
  · intro fs hfs g hg
    rw [List.mem_singleton.mp hfs, List.mem_singleton] at hg
    rw [hg]
    exact h

end Formula

theorem readAlternatives_tokens {primary : TokenReader Formula} {fss : List (List Formula)}
    (hne : fss ≠ []) (hAll : ∀ fs ∈ fss, fs ≠ [])
    (hPrimary : ∀ fs ∈ fss, ∀ f ∈ fs, ∀ r, primary (f.tokens ++ r) = some (f, r))
    {rest : List Token} (hAnd : rest.head? ≠ some (.word "AND"))
    (hOr : rest.head? ≠ some (.word "OR")) :
    readAlternatives primary (Formula.alternativeTokens fss ++ rest) = some (fss, rest) := by
  have alternatives := length_le_intercalate (.word "OR") (fss.map Formula.conjunctTokens)
  rw [List.length_map, ← Formula.alternativeTokens] at alternatives
  -- an alternative is read up to what is no `AND`; the `OR` behind it is none
  refine readList_intercalate (P := fun r ↦ r.head? ≠ some (.word "AND")) hne ?_ (fun r ↦ by simp)
    hAnd hOr ?_
  · intro fs hfs r hr
    have conjuncts := length_le_intercalate (.word "AND") (fs.map Formula.tokens)
    have within := length_le_intercalate_of_mem (.word "OR")
      (List.mem_map_of_mem (f := Formula.conjunctTokens) hfs)
    rw [List.length_map] at conjuncts
    rw [Formula.conjunctTokens, ← Formula.alternativeTokens] at within
    refine readList_intercalate (P := fun _ ↦ True) (hAll fs hfs)
      (fun f hf r _ ↦ hPrimary fs hfs f hf r) (fun _ ↦ trivial) trivial hr ?_
    rw [List.length_append]
    omega
  · rw [List.length_append]
    omega

/-- The alternatives that a group of several members is read as. -/
def Connective.alternatives {α : Type} (fs : List α) : Connective → List (List α)
  | and => [fs]
  | or => fs.map fun f ↦ [f]

theorem Connective.alternatives_spec {α : Type} (k : Connective) {fs : List α} (hne : fs ≠ []) :
    k.alternatives fs ≠ [] ∧ (∀ gs ∈ k.alternatives fs, gs ≠ []) ∧
      ∀ gs ∈ k.alternatives fs, ∀ g ∈ gs, g ∈ fs := by
  cases k with
  | and =>
    refine ⟨List.cons_ne_nil _ _, ?_, ?_⟩
    · intro gs hgs
      rw [List.mem_singleton.mp hgs]
      exact hne
    · intro gs hgs g hg
      rwa [List.mem_singleton.mp hgs] at hg
  | or =>
    refine ⟨?_, ?_, ?_⟩
    · intro h
      exact hne (List.map_eq_nil_iff.mp h)
    · intro gs hgs
      obtain ⟨f, -, rfl⟩ := List.mem_map.mp hgs
      exact List.cons_ne_nil _ _
    · intro gs hgs g hg
      obtain ⟨f, hf, rfl⟩ := List.mem_map.mp hgs
      rwa [List.mem_singleton.mp hg]

theorem Connective.alternativeTokens_alternatives (k : Connective) (fs : List Formula) :
    Formula.alternativeTokens (k.alternatives fs) =
      [.word k.keyword].intercalate (fs.map Formula.tokens) := by
  cases k with
  | and => exact List.intercalate_singleton
  | or =>
    have single : Formula.conjunctTokens ∘ (fun f ↦ [f]) = Formula.tokens := by
      funext f
      rw [Function.comp_apply, Formula.conjunctTokens, List.map_singleton,
        List.intercalate_singleton]
    rw [Formula.alternativeTokens, alternatives, List.map_map, single]
    rfl

/-- A group of several members is recognized, with parentheses around it or without. -/
theorem Connective.ofAlternatives_alternatives (k : Connective) {fs : List Formula}
    (two : 2 ≤ fs.length) : Formula.ofAlternatives (k.alternatives fs) = .joined k fs ∧
      Formula.inParentheses (k.alternatives fs) = .joined k fs := by
  obtain ⟨f, f', fs, rfl⟩ : ∃ f f' rest, fs = f :: f' :: rest := by
    match fs, two with
    | f :: f' :: rest, _ => exact ⟨f, f', rest, rfl⟩
  cases k with
  | and => exact ⟨rfl, rfl⟩
  | or =>
    have single : Formula.ofConjuncts ∘ (fun f ↦ [f]) = id := rfl
    have members : (or.alternatives (f :: f' :: fs)).map Formula.ofConjuncts = f :: f' :: fs := by
      rw [alternatives, List.map_map, single, List.map_id]
    exact ⟨congrArg (Formula.joined .or) members, congrArg (Formula.joined .or) members⟩

private theorem readPrimary_parentheses {depth : Nat} {fss : List (List Formula)} (hne : fss ≠ [])
    (hAll : ∀ fs ∈ fss, fs ≠ [])
    (hPrimary : ∀ fs ∈ fss, ∀ f ∈ fs, ∀ r, readPrimary depth (f.tokens ++ r) = some (f, r))
    (rest : List Token) :
    readPrimary (depth + 1)
      (.symbol "(" :: Formula.alternativeTokens fss ++ [.symbol ")"] ++ rest) =
        some (.inParentheses fss, rest) := by
  have read : readAlternatives (readPrimary depth)
      (Formula.alternativeTokens fss ++ .symbol ")" :: rest) = some (fss, .symbol ")" :: rest) :=
    readAlternatives_tokens hne hAll hPrimary (by simp) (by simp)
  rw [List.cons_append, List.cons_append, List.append_assoc, List.singleton_append, readPrimary,
    read]
  rfl

theorem Formula.Proper.readPrimary_tokens {f : Formula} (h : f.Proper) {depth : Nat}
    (hDepth : f.tokens.length ≤ depth) (rest : List Token) :
    readPrimary depth (f.tokens ++ rest) = some (f, rest) := by
  induction h generalizing depth rest with
  | @constant holds => cases holds <;> cases depth <;> rfl
  | @test column t hRaw hItems =>
    have read := readTest_tokens hRaw hItems rest
    cases depth <;>
    · rw [tokens, List.cons_append, readPrimary, read]
      rfl
  | @enclosed f h ih =>
    -- the parentheses make the formula longer than what they enclose, which pays for the depth
    rw [tokens, List.length_append, List.length_cons, List.length_singleton] at hDepth
    obtain ⟨depth, rfl⟩ : ∃ d, depth = d + 1 := ⟨depth - 1, by omega⟩
    rw [tokens, ← alternativeTokens_single]
    refine readPrimary_parentheses (List.cons_ne_nil _ _) h.single_spec.1 ?_ rest
    intro fs hfs g hg r
    rw [List.mem_singleton.mp hfs, List.mem_singleton] at hg
    rw [hg]
    exact ih (by omega) r
  | @joined k fs h two ih =>
    rw [tokens, List.length_append, List.length_cons, List.length_singleton, allTokens_eq_map]
      at hDepth
    obtain ⟨depth, rfl⟩ : ∃ d, depth = d + 1 := ⟨depth - 1, by omega⟩
    have member : ∀ f ∈ fs, ∀ r, readPrimary depth (f.tokens ++ r) = some (f, r) := by
      intro f hf r
      have within := length_le_intercalate_of_mem (.word k.keyword)
        (List.mem_map_of_mem (f := tokens) hf)
      exact ih f hf (by omega) r
    have nonempty : fs ≠ [] := by
      rintro rfl
      exact absurd two (by decide)
    rw [tokens, allTokens_eq_map, ← k.alternativeTokens_alternatives,
      ← (k.ofAlternatives_alternatives two).2]
    obtain ⟨hne, hAll, hMem⟩ := k.alternatives_spec nonempty
    exact readPrimary_parentheses hne hAll (fun gs hgs g hg ↦ member g (hMem gs hgs g hg)) rest

/-! ## Formulas without the parentheses around them -/

namespace Formula

/-- The formula without the groups of one member around it. -/
def unwrapped : Formula → Formula
  | .enclosed f => unwrapped f
  | f => f

/-- The alternatives that are left when the parentheses around a formula are removed. -/
def alternatives : Formula → List (List Formula)
  | .enclosed f => alternatives f
  | .joined connective fs => connective.alternatives fs
  | f => [[f]]

theorem Proper.alternatives_spec {f : Formula} (h : f.Proper) : f.alternatives ≠ [] ∧
    (∀ fs ∈ f.alternatives, fs ≠ []) ∧ (∀ fs ∈ f.alternatives, ∀ g ∈ fs, g.Proper) ∧
      ofAlternatives f.alternatives = f.unwrapped := by
  induction h with
  | constant =>
    obtain ⟨hAll, proper⟩ := Proper.constant.single_spec
    exact ⟨List.cons_ne_nil _ _, hAll, proper, rfl⟩
  | test hRaw hItems =>
    obtain ⟨hAll, proper⟩ := (Proper.test hRaw hItems).single_spec
    exact ⟨List.cons_ne_nil _ _, hAll, proper, rfl⟩
  | enclosed h ih => exact ih
  | @joined k fs h two ih =>
    have nonempty : fs ≠ [] := by
      rintro rfl
      exact absurd two (by decide)
    obtain ⟨hne, hAll, hMem⟩ := k.alternatives_spec nonempty
    exact ⟨hne, hAll, fun gs hgs g hg ↦ h g (hMem gs hgs g hg),
      (k.ofAlternatives_alternatives two).1⟩

end Formula

/-- A template that spells alternatives is read as the formula they make up. -/
theorem Spells.readCondition {ctx : Context} {t : Template} {fss : List (List Formula)}
    (h : Spells ctx t (Formula.alternativeTokens fss)) (hne : fss ≠ []) (hAll : ∀ fs ∈ fss, fs ≠ [])
    (proper : ∀ fs ∈ fss, ∀ f ∈ fs, f.Proper) :
    ctx.readCondition t.text t.bindings = some (.ofAlternatives fss) := by
  have primary : ∀ fs ∈ fss, ∀ f ∈ fs, ∀ r,
      readPrimary (Formula.alternativeTokens fss).length (f.tokens ++ r) = some (f, r) := by
    intro fs hfs f hf r
    have inConjuncts : f.tokens.length ≤ (Formula.conjunctTokens fs).length :=
      length_le_intercalate_of_mem _ (List.mem_map_of_mem hf)
    have inAll : (Formula.conjunctTokens fs).length ≤ (Formula.alternativeTokens fss).length :=
      length_le_intercalate_of_mem _ (List.mem_map_of_mem hfs)
    exact (proper fs hfs f hf).readPrimary_tokens (Nat.le_trans inConjuncts inAll) r
  have read : readAlternatives (readPrimary (Formula.alternativeTokens fss).length)
      (Formula.alternativeTokens fss ++ []) = some (fss, []) :=
    readAlternatives_tokens hne hAll primary (by simp) (by simp)
  rw [List.append_nil] at read
  rw [Context.readCondition, h.tokens_text]
  change (readAlternatives _ _ >>= _) = _
  rw [read]
  rfl

end PreparedSql
