import Mathlib.Data.List.TakeWhile
import PreparedSql.Text.Enclosed

/-!
# Which parentheses are removed does not depend on the spelling

Parts of a text can be spelled differently, a placeholder or a quoted identifier for instance,
without changing which parentheses enclose the text. Removing them then commutes with the
respelling.

## Main statements

* `Respelling.stripEnclosing`: removing parentheses commutes with respelling.
-/

namespace PreparedSql.Text

variable {α β : Type}

/-! ## Trimming -/

theorem not_isWrapping_of_isAlphanum {c : Char} (h : c.isAlphanum) : ¬isWrapping c := by
  have within {low high : UInt32} (h : (decide (low ≤ c.val) && decide (c.val ≤ high)) = true) :
      low.toNat ≤ c.toNat ∧ c.toNat ≤ high.toNat := by
    rw [Bool.and_eq_true] at h
    exact ⟨of_decide_eq_true h.1, of_decide_eq_true h.2⟩
  have bounds : ((65 ≤ c.toNat ∧ c.toNat ≤ 90) ∨ (97 ≤ c.toNat ∧ c.toNat ≤ 122)) ∨
      (48 ≤ c.toNat ∧ c.toNat ≤ 57) := by
    have letters : (c.isUpper = true ∨ c.isLower = true) ∨ c.isDigit = true := by
      rw [← Bool.or_eq_true, ← Bool.or_eq_true]
      exact h
    rcases letters with (upper | lower) | digit
    · exact .inl (.inl (of_decide_eq_true upper))
    · exact .inl (.inr (within lower))
    · exact .inr (within digit)
  intro wrapping
  rw [isWrapping, Bool.or_eq_true, Bool.or_eq_true, beq_iff_eq, beq_iff_eq] at wrapping
  rcases wrapping with (blank | rfl) | rfl
  · simp only [isBlank, Bool.or_eq_true, Bool.and_eq_true, decide_eq_true_eq, beq_iff_eq] at blank
    omega
  · exact absurd h (by decide)
  · exact absurd h (by decide)

theorem trimBy_append {p : α → Bool} {front mid back : List α} (hFront : ∀ x ∈ front, p x)
    (hBack : ∀ x ∈ back, p x) (first : ∀ x ∈ mid.head?, ¬p x) (last : ∀ x ∈ mid.getLast?, ¬p x) :
    trimBy p (front ++ mid ++ back) = mid := by
  have kept {xs : List α} (h : ∀ x ∈ xs.head?, ¬p x) : xs.dropWhile p = xs := by
    cases xs with
    | nil => rfl
    | cons x xs => rw [List.dropWhile_cons_of_neg (h x rfl)]
  rw [trimBy, dropEndWhile, List.append_assoc, List.dropWhile_append_of_pos hFront]
  cases mid with
  | nil =>
    rw [List.nil_append, List.dropWhile_eq_nil_iff.mpr hBack]
    rfl
  | cons x mid =>
    rw [List.cons_append, List.dropWhile_cons_of_neg (first x rfl), ← List.cons_append,
      List.reverse_append, List.dropWhile_append_of_pos fun y hy ↦ hBack y (List.mem_reverse.mp hy),
      kept fun y hy ↦ last y (by rwa [List.head?_reverse] at hy), List.reverse_reverse]

theorem trimBy_eq_self {p : α → Bool} {xs : List α} (first : ∀ x ∈ xs.head?, ¬p x)
    (last : ∀ x ∈ xs.getLast?, ¬p x) : trimBy p xs = xs := by
  have trimmed := @trimBy_append _ p [] xs [] nofun nofun first last
  rwa [List.nil_append, List.append_nil] at trimmed

private theorem not_of_mem_head?_trimBy {p : α → Bool} {xs : List α} {x : α}
    (h : x ∈ (trimBy p xs).head?) : ¬p x := by
  obtain ⟨rest, trimmed⟩ := List.head?_eq_some_iff.mp h
  have front : trimBy p xs <+: xs.dropWhile p := by
    rw [← List.reverse_suffix, trimBy, dropEndWhile, List.reverse_reverse]
    exact List.dropWhile_suffix p
  obtain ⟨back, whole⟩ := front
  have first := List.head?_dropWhile_not p xs
  rw [← whole, trimmed, List.cons_append, List.head?_cons] at first
  exact Bool.eq_false_iff.mp first

private theorem not_of_mem_getLast?_trimBy {p : α → Bool} {xs : List α} {x : α}
    (h : x ∈ (trimBy p xs).getLast?) : ¬p x := by
  have first := List.head?_dropWhile_not p (xs.dropWhile p).reverse
  rw [trimBy, dropEndWhile, List.getLast?_reverse] at h
  rw [Option.mem_def.mp h] at first
  exact Bool.eq_false_iff.mp first

/-! ## One step of removing -/

section Step

variable (shown : α → Char) (openQuote closeQuote : Char) (xs : List α)

theorem stripEnclosing_of_isEnclosed
    (h : isEnclosed shown openQuote closeQuote (trimBy (fun x ↦ isBlank (shown x)) xs)) :
    stripEnclosing shown openQuote closeQuote xs = stripEnclosing shown openQuote closeQuote
      (trimBy (fun x ↦ isBlank (shown x)) xs).tail.dropLast := by
  rw [stripEnclosing, if_pos h]

theorem stripEnclosing_of_not_isEnclosed
    (h : ¬isEnclosed shown openQuote closeQuote (trimBy (fun x ↦ isBlank (shown x)) xs)) :
    stripEnclosing shown openQuote closeQuote xs = trimBy (fun x ↦ isBlank (shown x)) xs := by
  rw [stripEnclosing, if_neg h]

end Step

/-- White space at the ends does not matter. -/
theorem stripEnclosing_congr {shown : α → Char} {openQuote closeQuote : Char} {xs ys : List α}
    (h : trimBy (fun x ↦ isBlank (shown x)) xs = trimBy (fun x ↦ isBlank (shown x)) ys) :
    stripEnclosing shown openQuote closeQuote xs =
      stripEnclosing shown openQuote closeQuote ys := by
  by_cases outer : isEnclosed shown openQuote closeQuote (trimBy (fun x ↦ isBlank (shown x)) ys)
  · rw [stripEnclosing_of_isEnclosed _ _ _ ys outer, stripEnclosing_of_isEnclosed, h]
    rw [h]
    exact outer
  · rw [stripEnclosing_of_not_isEnclosed _ _ _ ys outer, stripEnclosing_of_not_isEnclosed, h]
    rw [h]
    exact outer

/-! ## Respelling -/

variable {shown : α → Char} {shown' : β → Char} {openQuote closeQuote : Char}

/-- A way of spelling texts that shows parentheses and white space at their ends as they are. -/
structure Respelling (shown : α → Char) (shown' : β → Char) (openQuote closeQuote : Char)
    (Allowed : List α → Prop) (spell : List α → List β) (embed : α → β) : Prop where
  /-- Elements that are not respelled look as before. -/
  shown_embed (x : α) : shown' (embed x) = shown x
  /-- White space and parentheses at the ends are not respelled. -/
  peel {front mid back : List α} (h : Allowed (front ++ mid ++ back))
    (hFront : ∀ x ∈ front, isWrapping (shown x)) (hBack : ∀ x ∈ back, isWrapping (shown x)) :
    Allowed mid ∧ spell (front ++ mid ++ back) = front.map embed ++ spell mid ++ back.map embed
  /-- White space and parentheses do not appear at the front. -/
  head {xs : List α} (h : Allowed xs) {c : Char} (hc : isWrapping c) :
    (spell xs).head?.map shown' = some c ↔ xs.head?.map shown = some c
  /-- White space and parentheses do not appear at the end. -/
  last {xs : List α} (h : Allowed xs) {c : Char} (hc : isWrapping c) :
    (spell xs).getLast?.map shown' = some c ↔ xs.getLast?.map shown = some c
  /-- The first parenthesis has the same partner. -/
  closesLast {xs : List α} (h : Allowed xs) :
    Text.closesLast openQuote closeQuote 0 none ((spell xs).map shown') =
      Text.closesLast openQuote closeQuote 0 none (xs.map shown)

namespace Respelling

variable {Allowed : List α → Prop} {spell : List α → List β} {embed : α → β}

theorem trimBy (R : Respelling shown shown' openQuote closeQuote Allowed spell embed) {xs : List α}
    (h : Allowed xs) : Allowed (Text.trimBy (fun x ↦ isBlank (shown x)) xs) ∧
      spell (Text.trimBy (fun x ↦ isBlank (shown x)) xs) =
        Text.trimBy (fun y ↦ isBlank (shown' y)) (spell xs) := by
  obtain ⟨front, back, whole, hFront, hBack⟩ :=
    exists_trimBy_append (fun x ↦ isBlank (shown x)) xs
  rw [List.all_eq_true] at hFront hBack
  generalize hMid : Text.trimBy (fun x ↦ isBlank (shown x)) xs = mid at whole ⊢
  rw [whole] at h
  obtain ⟨allowed, split⟩ := R.peel h (fun x hx ↦ isWrapping_of_isBlank (hFront x hx))
    fun x hx ↦ isWrapping_of_isBlank (hBack x hx)
  refine ⟨allowed, ?_⟩
  -- what is trimmed is white space, which is spelled as it is
  have embedded {part : List α} (hp : ∀ x ∈ part, isBlank (shown x)) :
      ∀ y ∈ part.map embed, isBlank (shown' y) := by
    intro y hy
    obtain ⟨x, hx, rfl⟩ := List.mem_map.mp hy
    rw [R.shown_embed]
    exact hp x hx
  rw [whole, split, trimBy_append (embedded hFront) (embedded hBack)]
  · intro y hy blank
    have front : (spell mid).head?.map shown' = some (shown' y) := by
      rw [Option.mem_def.mp hy, Option.map_some]
    obtain ⟨x, hx, same⟩ := Option.map_eq_some_iff.mp
      ((R.head allowed (isWrapping_of_isBlank blank)).mp front)
    rw [← hMid] at hx
    refine not_of_mem_head?_trimBy hx ?_
    rw [same]
    exact blank
  · intro y hy blank
    have back : (spell mid).getLast?.map shown' = some (shown' y) := by
      rw [Option.mem_def.mp hy, Option.map_some]
    obtain ⟨x, hx, same⟩ := Option.map_eq_some_iff.mp
      ((R.last allowed (isWrapping_of_isBlank blank)).mp back)
    rw [← hMid] at hx
    refine not_of_mem_getLast?_trimBy hx ?_
    rw [same]
    exact blank

theorem isEnclosed (R : Respelling shown shown' openQuote closeQuote Allowed spell embed)
    {xs : List α} (h : Allowed xs) : Text.isEnclosed shown' openQuote closeQuote (spell xs) =
      Text.isEnclosed shown openQuote closeQuote xs := by
  have same {a b : Option Char} {c : Char} (hab : a = some c ↔ b = some c) :
      (a == some c) = (b == some c) := by
    rw [Bool.eq_iff_iff, beq_iff_eq, beq_iff_eq]
    exact hab
  rw [Text.isEnclosed, Text.isEnclosed, same (R.head h (by decide)), same (R.last h (by decide)),
    R.closesLast h]

/-- Removing the parentheses around a text commutes with respelling it. -/
theorem stripEnclosing (R : Respelling shown shown' openQuote closeQuote Allowed spell embed)
    (xs : List α) (h : Allowed xs) :
    Allowed (Text.stripEnclosing shown openQuote closeQuote xs) ∧
      spell (Text.stripEnclosing shown openQuote closeQuote xs) =
        Text.stripEnclosing shown' openQuote closeQuote (spell xs) := by
  fun_induction Text.stripEnclosing shown openQuote closeQuote xs with
  | case1 xs trimmed enclosed ih =>
    obtain ⟨allowed, trim⟩ := R.trimBy h
    obtain ⟨first, last, split, opens, closes⟩ := eq_cons_append_of_isEnclosed _ _ _ enclosed
    have split : trimmed = [first] ++ trimmed.tail.dropLast ++ [last] := split
    have whole : Allowed ([first] ++ trimmed.tail.dropLast ++ [last]) := split ▸ allowed
    obtain ⟨inside, peeled⟩ := R.peel whole
      (fun x hx ↦ by rw [List.mem_singleton.mp hx, opens]; rfl)
      (fun x hx ↦ by rw [List.mem_singleton.mp hx, closes]; rfl)
    obtain ⟨stripped, eq⟩ := ih inside
    refine ⟨stripped, ?_⟩
    -- both texts lose their parentheses together, and what is left is spelled alike
    rw [← split] at peeled
    rw [eq, stripEnclosing_of_isEnclosed shown' openQuote closeQuote (spell xs), ← trim,
      peeled, List.map_singleton, List.map_singleton, List.append_assoc, List.singleton_append,
      List.tail_cons, List.dropLast_concat]
    rw [← trim, R.isEnclosed allowed]
    exact enclosed
  | case2 xs trimmed plain =>
    obtain ⟨allowed, trim⟩ := R.trimBy h
    refine ⟨allowed, ?_⟩
    rw [stripEnclosing_of_not_isEnclosed shown' openQuote closeQuote (spell xs), trim]
    rw [← trim, R.isEnclosed allowed]
    exact plain

end Respelling

end PreparedSql.Text
