import PreparedSql.Text.Blank

/-!
# Parentheses around a whole text

A pair of parentheses around a whole SQL text says nothing and is removed, with the white space
around it, as often as there is one. The parenthesis that opens the text is matched by counting;
parentheses in string literals and in quoted identifiers do not count, and `(a) AND (b)` keeps its
parentheses because the first one is closed before the end.

The functions take any list whose elements look like characters, so that placeholders keep what they
are bound to (`PreparedSql.Template`).
-/

namespace PreparedSql.Text

/-- Whether the parenthesis that brings the depth back to zero is the last character. The scan knows
the quotes of identifiers; `inside` is the quote that ends the quoted text it is in, if it is in
one. -/
def closesLast (openQuote closeQuote : Char) : (depth : Nat) → (inside : Option Char) →
    List Char → Bool
  | _, _, [] => false
  | depth, some quote, c :: rest =>
    closesLast openQuote closeQuote depth (if c = quote then none else some quote) rest
  | depth, none, c :: rest =>
    if c = '\'' then closesLast openQuote closeQuote depth (some '\'') rest
    else if c = openQuote then closesLast openQuote closeQuote depth (some closeQuote) rest
    else if c = '(' then closesLast openQuote closeQuote (depth + 1) none rest
    else if c = ')' then
      if depth ≤ 1 then rest.isEmpty else closesLast openQuote closeQuote (depth - 1) none rest
    else closesLast openQuote closeQuote depth none rest

section Enclosed

variable {α β : Type} (shown : α → Char) (openQuote closeQuote : Char)

/-- Whether a text starts with a parenthesis that its last character closes. -/
def isEnclosed (xs : List α) : Bool :=
  (xs.head?.map shown == some '(') && (xs.getLast?.map shown == some ')') &&
    closesLast openQuote closeQuote 0 none (xs.map shown)

/-- The text without white space at its ends and without the parentheses around it. -/
def stripEnclosing (xs : List α) : List α :=
  let trimmed := trimBy (fun x ↦ isBlank (shown x)) xs
  if isEnclosed shown openQuote closeQuote trimmed then stripEnclosing trimmed.tail.dropLast
  else trimmed
termination_by xs.length
decreasing_by
  rename_i enclosed
  have bound := length_trimBy_le (fun x ↦ isBlank (shown x)) xs
  have nonempty : 0 < (trimBy (fun x ↦ isBlank (shown x)) xs).length := by
    refine List.length_pos_iff.2 fun empty ↦ ?_
    simp [trimmed, empty, isEnclosed] at enclosed
  simp only [List.length_dropLast, List.length_tail]
  omega

theorem isEnclosed_map (g : β → α) (xs : List β) :
    isEnclosed shown openQuote closeQuote (xs.map g) =
      isEnclosed (shown ∘ g) openQuote closeQuote xs := by
  simp only [isEnclosed, List.head?_map, List.getLast?_map, Option.map_map, List.map_map]

theorem stripEnclosing_map (g : β → α) (xs : List β) :
    stripEnclosing shown openQuote closeQuote (xs.map g) =
      (stripEnclosing (shown ∘ g) openQuote closeQuote xs).map g := by
  fun_induction stripEnclosing (shown ∘ g) openQuote closeQuote xs with
  | case1 xs trimmed enclosed ih =>
    have same : trimBy (fun x ↦ isBlank (shown x)) (xs.map g) = trimmed.map g := trimBy_map g _ xs
    rw [stripEnclosing, same, isEnclosed_map, if_pos enclosed, ← List.map_tail,
      ← List.map_dropLast, ih]
  | case2 xs trimmed plain =>
    have same : trimBy (fun x ↦ isBlank (shown x)) (xs.map g) = trimmed.map g := trimBy_map g _ xs
    rw [stripEnclosing, same, isEnclosed_map, if_neg plain]

/-- A character that says nothing at the ends of a text: white space or a parenthesis. -/
def isWrapping (c : Char) : Bool := isBlank c || c == '(' || c == ')'

theorem isWrapping_of_isBlank {c : Char} (h : isBlank c) : isWrapping c := by
  rw [isWrapping, h, Bool.true_or, Bool.true_or]

/-- An enclosed text is more than one character long: no character opens and closes it. -/
theorem eq_cons_append_of_isEnclosed {xs : List α} (h : isEnclosed shown openQuote closeQuote xs) :
    ∃ first last, xs = first :: (xs.tail.dropLast ++ [last]) ∧ shown first = '(' ∧
      shown last = ')' := by
  rw [isEnclosed, Bool.and_eq_true, Bool.and_eq_true, beq_iff_eq, beq_iff_eq,
    Option.map_eq_some_iff, Option.map_eq_some_iff] at h
  obtain ⟨⟨⟨first, isFirst, opens⟩, ⟨last, isLast, closes⟩⟩, -⟩ := h
  obtain ⟨rest, rfl⟩ := List.head?_eq_some_iff.1 isFirst
  obtain ⟨front, eq⟩ := List.getLast?_eq_some_iff.1 isLast
  refine ⟨first, last, ?_, opens, closes⟩
  cases front with
  | nil =>
    rw [List.nil_append, List.cons.injEq] at eq
    rw [eq.1, closes] at opens
    exact absurd opens (by decide)
  | cons _ front =>
    rw [List.cons_append, List.cons.injEq] at eq
    rw [List.tail_cons, eq.2, List.dropLast_concat]

/-- What is left is a part of the text, and what is removed is white space and parentheses. -/
theorem exists_stripEnclosing_append (xs : List α) :
    ∃ front back, xs = front ++ stripEnclosing shown openQuote closeQuote xs ++ back ∧
      (∀ x ∈ front, isWrapping (shown x)) ∧ ∀ x ∈ back, isWrapping (shown x) := by
  fun_induction stripEnclosing shown openQuote closeQuote xs with
  | case1 xs trimmed enclosed ih =>
    obtain ⟨left, right, outer, hLeft, hRight⟩ :=
      exists_trimBy_append (fun x ↦ isBlank (shown x)) xs
    obtain ⟨first, last, middle, opens, closes⟩ := eq_cons_append_of_isEnclosed _ _ _ enclosed
    obtain ⟨front, back, inner, hFront, hBack⟩ := ih
    rw [List.all_eq_true] at hLeft hRight
    refine ⟨left ++ first :: front, back ++ last :: right, ?_, fun x hx ↦ ?_, fun x hx ↦ ?_⟩
    · rw [show trimBy _ xs = _ from middle, inner] at outer
      rw [outer]
      simp only [List.append_assoc, List.cons_append, List.nil_append]
    · rcases List.mem_append.1 hx with hx | hx
      · exact isWrapping_of_isBlank (hLeft x hx)
      · rcases List.mem_cons.1 hx with rfl | hx
        · rw [opens]
          rfl
        · exact hFront x hx
    · rcases List.mem_append.1 hx with hx | hx
      · exact hBack x hx
      · rcases List.mem_cons.1 hx with rfl | hx
        · rw [closes]
          rfl
        · exact isWrapping_of_isBlank (hRight x hx)
  | case2 xs trimmed plain =>
    obtain ⟨left, right, outer, hLeft, hRight⟩ :=
      exists_trimBy_append (fun x ↦ isBlank (shown x)) xs
    rw [List.all_eq_true] at hLeft hRight
    exact ⟨left, right, outer, fun x hx ↦ isWrapping_of_isBlank (hLeft x hx),
      fun x hx ↦ isWrapping_of_isBlank (hRight x hx)⟩

end Enclosed

end PreparedSql.Text
