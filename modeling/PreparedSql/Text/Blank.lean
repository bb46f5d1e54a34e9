/-!
# Blank characters, trimming and letter case

A name that consists of white space only names nothing, and white space around a condition or
around the body of a join says nothing. White space is the Unicode property `White_Space`, which is
larger than the ASCII blanks and smaller than "invisible": the zero-width space U+200B and the byte
order mark U+FEFF are not in it.

Trimming is stated for lists of anything that can be tested for blankness, because SQL text is
trimmed both as characters and as symbols that carry a bound value (`PreparedSql.Template`).

Keywords that come from outside are compared without regard to the case of the ASCII letters. Other
letters have no case here: the Kelvin sign is not a `k`.
-/

namespace PreparedSql.Text

/-- The characters with the Unicode property `White_Space`. -/
def isBlank (c : Char) : Bool :=
  let n := c.toNat
  (0x9 ≤ n && n ≤ 0xD) || n == 0x20 || n == 0x85 || n == 0xA0 || n == 0x1680 ||
    (0x2000 ≤ n && n ≤ 0x200A) || n == 0x2028 || n == 0x2029 || n == 0x202F || n == 0x205F ||
    n == 0x3000

/-- A text without a character outside white space; the empty text is one. -/
def allBlank (s : String) : Bool := s.toList.all isBlank

section Trim

variable {α β : Type}

/-- Removes the longest run of elements satisfying `p` at the end. -/
def dropEndWhile (p : α → Bool) (xs : List α) : List α := (xs.reverse.dropWhile p).reverse

/-- Removes the longest runs of elements satisfying `p` at the front and at the end. -/
def trimBy (p : α → Bool) (xs : List α) : List α := dropEndWhile p (xs.dropWhile p)

theorem length_trimBy_le (p : α → Bool) (xs : List α) : (trimBy p xs).length ≤ xs.length := by
  have front := (List.dropWhile_suffix (l := xs) p).length_le
  have back := (List.dropWhile_suffix (l := (xs.dropWhile p).reverse) p).length_le
  simp only [List.length_reverse] at back
  simp only [trimBy, dropEndWhile, List.length_reverse]
  omega

theorem trimBy_map (g : α → β) (p : β → Bool) (xs : List α) :
    trimBy p (xs.map g) = (trimBy (p ∘ g) xs).map g := by
  simp only [trimBy, dropEndWhile]
  rw [List.dropWhile_map, ← List.map_reverse, List.dropWhile_map, ← List.map_reverse]

/-- What trimming leaves is a part of the list, and what it removes satisfies `p`. -/
theorem exists_trimBy_append (p : α → Bool) (xs : List α) :
    ∃ front back, xs = front ++ trimBy p xs ++ back ∧ front.all p ∧ back.all p := by
  have whole := List.takeWhile_append_dropWhile (p := p) (l := xs)
  have rest := List.takeWhile_append_dropWhile (p := p) (l := (xs.dropWhile p).reverse)
  refine ⟨xs.takeWhile p, ((xs.dropWhile p).reverse.takeWhile p).reverse, ?_, ?_, ?_⟩
  · rw [trimBy, dropEndWhile, List.append_assoc, ← List.reverse_append, rest,
      List.reverse_reverse, whole]
  · exact List.all_takeWhile
  · rw [List.all_reverse]
    exact List.all_takeWhile

end Trim

def trim (s : String) : String := String.ofList (trimBy isBlank s.toList)

/-- The text with every ASCII capital in lower case. -/
def lower (s : String) : String := String.ofList (s.toList.map Char.toLower)

theorem lower_lower (s : String) : lower (lower s) = lower s := by
  have twice (c : Char) : c.toLower.toLower = c.toLower := by
    delta Char.toLower
    grind
  rw [lower, lower, String.toList_ofList, List.map_map]
  exact congrArg String.ofList (List.map_congr_left fun c _ ↦ twice c)

end PreparedSql.Text
