import PreparedSql.Proofs.Nearest
import PreparedSql.Value.Json

/-!
# JSON texts of values

The notation of JSON, character by character, and what is written in it for each kind of value.
Numerals are read digit by digit, a number with a point or an exponent is a rational number, and the
characters of a string stand for themselves or are escaped. A value is written as a text that stands
for it: an integer by its numeral, a double by a number with a point or an exponent that is rounded
to this double.

Such a text is on one line, whatever characters or bytes the value has, and it does not start with a
colon.

## Main definitions

* `Json.IsNumeral`, `Json.IsReal`: the notation of numbers, and the numbers.
* `Json.IsPiece`: the notation of one character of a string.
* `Value.IsWritten`: the texts that stand for a value.

## Main statements

* `Layout.exists_isReal_magnitudeText`: the number that the text of a double stands for.
* `Value.isWritten_jsonText`: the text of a value stands for it.
* `Value.IsWritten.printable`: a text that stands for a value has no control characters.
-/

namespace PreparedSql

/-! ## Notation -/

namespace Json

structure IsDigits (cs : List Char) : Prop where
  given : cs ≠ []
  digits : ∀ c ∈ cs, c.isDigit

/-- A natural number in decimal, without superfluous zeros in front. -/
structure IsNumeral (cs : List Char) (n : ℕ) : Prop extends IsDigits cs where
  proper : cs.head? = some '0' → cs = ['0']
  value : Nat.ofDigitChars 10 cs 0 = n

inductive IsInteger : List Char → ℤ → Prop
  | nonneg {cs : List Char} {n : ℕ} (h : IsNumeral cs n) : IsInteger cs n
  | neg {cs : List Char} {n : ℕ} (h : IsNumeral cs n) (hn : 0 < n) : IsInteger ('-' :: cs) (-n)

/-- The part of a number behind the point, with its digits. -/
inductive IsFraction : List Char → List Char → Prop
  | absent : IsFraction [] []
  | point {ds : List Char} (h : IsDigits ds) : IsFraction ('.' :: ds) ds

/-- The exponent of a number. -/
inductive IsExponent : List Char → ℤ → Prop
  | absent : IsExponent [] 0
  | plus {ds : List Char} (h : IsDigits ds) :
      IsExponent ('e' :: '+' :: ds) (Nat.ofDigitChars 10 ds 0)
  | minus {ds : List Char} (h : IsDigits ds) :
      IsExponent ('e' :: '-' :: ds) (-(Nat.ofDigitChars 10 ds 0))

/-- A number with a point or an exponent, so that it is not read as an integer. -/
inductive IsReal : List Char → ℚ → Prop
  | intro {whole fraction digits exponent : List Char} {n : ℕ} {e : ℤ} (hWhole : IsNumeral whole n)
      (hFraction : IsFraction fraction digits) (hExponent : IsExponent exponent e)
      (real : fraction ++ exponent ≠ []) :
      IsReal (whole ++ fraction ++ exponent)
        (Nat.ofDigitChars 10 (whole ++ digits) 0 * 10 ^ (e - digits.length))

/-- The digits of numbers in base sixteen. -/
def sixteen : List Char :=
  ['0', '1', '2', '3', '4', '5', '6', '7', '8', '9', 'a', 'b', 'c', 'd', 'e', 'f']

/-- One character of a string: itself, or an escape by a letter or by its code. -/
inductive IsPiece : List Char → Char → Prop
  | plain {c : Char} (printable : 0x20 ≤ c.toNat) (hc : c ∉ ['"', '\\']) : IsPiece [c] c
  | letter {l c : Char} (h : (l, c) ∈ [('"', '"'), ('\\', '\\'), ('/', '/'), ('b', '\x08'),
      ('f', '\x0c'), ('n', '\n'), ('r', '\r'), ('t', '\t')]) : IsPiece ['\\', l] c
  | code {c : Char} {i j k l : ℕ} {w x y z : Char} (hw : sixteen[i]? = some w)
      (hx : sixteen[j]? = some x) (hy : sixteen[k]? = some y) (hz : sixteen[l]? = some z)
      (h : c.toNat = ((16 * i + j) * 16 + k) * 16 + l) : IsPiece ['\\', 'u', w, x, y, z] c

end Json

/-- The texts that stand for a value. -/
inductive Value.IsWritten : Value → List Char → Prop
  | null : IsWritten .null ['n', 'u', 'l', 'l']
  | true : IsWritten (.bool true) ['t', 'r', 'u', 'e']
  | false : IsWritten (.bool false) ['f', 'a', 'l', 's', 'e']
  | int {n : Int64} {cs : List Char} (h : Json.IsInteger cs n.toInt) : IsWritten (.int n) cs
  /-- The number is rounded to the double, and has its sign. -/
  | float {d : Double} {cs : List Char} {x : ℚ} (finite : d.isFinite) (h : Json.IsReal cs x)
      (near : d.IsNearest ((if d.negative then -1 else 1) * x)) :
      IsWritten (.float d) ((if d.negative then ['-'] else []) ++ cs)
  /-- Infinities and NaN cannot be written. -/
  | infinite {d : Double} (h : ¬d.isFinite) : IsWritten (.float d) ['n', 'u', 'l', 'l']
  | text {s : String} {pieces : List (List Char)} (h : List.Forall₂ Json.IsPiece pieces s.toList) :
      IsWritten (.text s) (['"'] ++ pieces.flatten ++ ['"'])
  /-- Blobs are arrays of bytes. -/
  | blob {bytes : List UInt8} {items : List (List Char)}
      (h : List.Forall₂ (fun cs b ↦ Json.IsNumeral cs b.toNat) items bytes) :
      IsWritten (.blob bytes) (['['] ++ [','].intercalate items ++ [']'])

/-! ## Numbers -/

namespace Json

theorem isDigits_toDigits (n : ℕ) : IsDigits (Nat.toDigits 10 n) :=
  ⟨Nat.toDigits_ne_nil, fun _ hc ↦ Nat.isDigit_of_mem_toDigits (by decide) le_rfl hc⟩

private theorem head?_toDigits_ne_zero {n : ℕ} (h : 0 < n) :
    (Nat.toDigits 10 n).head? ≠ some '0' := by
  have one : ∀ m : Fin 10, m.val ≠ 0 → [m.val.digitChar].head? ≠ some '0' := by decide
  induction n using Nat.strong_induction_on with
  | _ n ih =>
    rcases lt_or_ge n 10 with small | large
    · rw [Nat.toDigits_of_lt_base small]
      exact one ⟨n, small⟩ h.ne'
    · rw [Nat.toDigits_of_base_le (by decide) large,
        List.head?_append_of_ne_nil _ Nat.toDigits_ne_nil]
      exact ih _ (by omega) (by omega)

theorem isNumeral_toDigits (n : ℕ) : IsNumeral (Nat.toDigits 10 n) n where
  toIsDigits := isDigits_toDigits n
  proper h := by
    rcases Nat.eq_zero_or_pos n with rfl | positive
    · rfl
    · exact absurd h (head?_toDigits_ne_zero positive)
  value := Nat.ofDigitChars_ten_toDigits

theorem integerChars_natCast (n : ℕ) : integerChars n = Nat.toDigits 10 n := by
  rw [integerChars, if_neg (by omega), Int.natAbs_natCast]
  rfl

theorem isInteger_integerChars (n : ℤ) : IsInteger (integerChars n) n := by
  obtain ⟨k, rfl | rfl⟩ := n.eq_nat_or_neg
  · rw [integerChars_natCast]
    exact .nonneg (isNumeral_toDigits k)
  · rcases Nat.eq_zero_or_pos k with rfl | positive
    · exact .nonneg (isNumeral_toDigits 0)
    · rw [integerChars, if_pos (by omega), Int.natAbs_neg, Int.natAbs_natCast]
      exact .neg (isNumeral_toDigits k) positive

private theorem isNumeral_of_head?_ne_zero {cs : List Char} (h : IsDigits cs)
    (head : cs.head? ≠ some '0') : IsNumeral cs (Nat.ofDigitChars 10 cs 0) :=
  ⟨h, fun zero ↦ absurd zero head, rfl⟩

private theorem isDigits_replicate_zero (n : ℕ) : IsDigits (List.replicate (n + 1) '0') where
  given := nofun
  digits c hc := by
    rw [List.eq_of_mem_replicate hc]
    rfl

theorem IsDigits.append {cs ds : List Char} (h : IsDigits cs) (h' : ∀ c ∈ ds, c.isDigit) :
    IsDigits (cs ++ ds) :=
  ⟨List.append_ne_nil_of_left_ne_nil h.given ds, List.forall_mem_append.mpr ⟨h.digits, h'⟩⟩

private theorem isReal_zero_point {ds : List Char} (h : IsDigits ds) :
    IsReal (['0', '.'] ++ ds) (Nat.ofDigitChars 10 ds 0 * 10 ^ (-ds.length : ℤ)) := by
  simpa [Nat.ofDigitChars_cons] using
    IsReal.intro (isNumeral_toDigits 0) (.point h) .absent (by simp)

theorem isExponent_exponent (e : ℤ) :
    IsExponent (['e', if e < 0 then '-' else '+'] ++ Nat.toDigits 10 e.natAbs) e := by
  have digits := isDigits_toDigits e.natAbs
  have value := @Nat.ofDigitChars_ten_toDigits e.natAbs
  split
  · have same : -((Nat.ofDigitChars 10 (Nat.toDigits 10 e.natAbs) 0 : ℕ) : ℤ) = e := by omega
    have h := IsExponent.minus digits
    rwa [same] at h
  · have same : ((Nat.ofDigitChars 10 (Nat.toDigits 10 e.natAbs) 0 : ℕ) : ℤ) = e := by omega
    have h := IsExponent.plus digits
    rwa [same] at h

end Json

namespace Layout

open Json

variable {layout : Layout} {n : ℕ}

theorem isReal_positionalText (end_zero : layout.wholeEnd = ['.', '0']) (positive : 0 < n) (k : ℤ) :
    IsReal (layout.positionalText (Nat.toDigits 10 n) (k + (Nat.toDigits 10 n).length))
      (n * 10 ^ k) := by
  have digits := isDigits_toDigits n
  have value := @Nat.ofDigitChars_ten_toDigits n
  have head := head?_toDigits_ne_zero positive
  generalize Nat.toDigits 10 n = ds at digits value head ⊢
  rw [positionalText.eq_def]
  split
  · next p point =>
    have h := isReal_zero_point ((isDigits_replicate_zero p).append digits.digits)
    rw [Nat.ofDigitChars_append, Nat.ofDigitChars_replicate_zero, mul_zero, value,
      List.length_append, List.length_replicate] at h
    rw [List.append_assoc, show k = -((p + 1 + ds.length : ℕ) : ℤ) by omega]
    exact h
  · next point =>
    have point : k + ds.length = 0 := point
    have h := isReal_zero_point digits
    rw [value] at h
    rw [show k = -(ds.length : ℤ) by omega]
    exact h
  · next p notZero point =>
    have point : k + ds.length = p := point
    split
    · next short =>
      obtain ⟨zeros, rfl⟩ := Nat.exists_eq_add_of_le short
      have whole : IsDigits (ds ++ List.replicate zeros '0') := by
        refine digits.append fun c hc ↦ ?_
        rw [List.eq_of_mem_replicate hc]
        rfl
      have proper : (ds ++ List.replicate zeros '0').head? ≠ some '0' := by
        rwa [List.head?_append_of_ne_nil _ digits.given]
      have h := IsReal.intro (isNumeral_of_head?_ne_zero whole proper)
        (.point (isDigits_toDigits 0)) .absent (by simp)
      have sum : Nat.ofDigitChars 10 (ds ++ List.replicate zeros '0' ++ ['0']) 0 =
          10 * (10 ^ zeros * n) := by
        rw [Nat.ofDigitChars_append, Nat.ofDigitChars_append, value,
          Nat.ofDigitChars_replicate_zero]
        rfl
      rw [Nat.toDigits_zero, sum, List.append_nil] at h
      have same : ((10 * (10 ^ zeros * n) : ℕ) : ℚ) * 10 ^ (0 - ((['0'] : List Char).length : ℤ)) =
          n * 10 ^ k := by
        rw [show k = zeros by omega]
        push_cast
        simp
        ring
      rw [same] at h
      rwa [Nat.add_sub_cancel_left, end_zero]
    · next long =>
      have front : IsDigits (ds.take p) :=
        ⟨by simpa [digits.given] using fun zero ↦ notZero zero,
          fun c hc ↦ digits.digits c (List.mem_of_mem_take hc)⟩
      have behind : IsDigits (ds.drop p) :=
        ⟨by simpa using long, fun c hc ↦ digits.digits c (List.mem_of_mem_drop hc)⟩
      have proper : (ds.take p).head? ≠ some '0' := by
        rwa [List.head?_take, if_neg notZero]
      have h := IsReal.intro (isNumeral_of_head?_ne_zero front proper) (.point behind) .absent
        (by simp)
      rw [List.take_append_drop, value, List.append_nil, List.length_drop] at h
      rw [show k = 0 - ((ds.length - p : ℕ) : ℤ) by omega]
      simpa using h

theorem isReal_exponentText (positive : 0 < n) (k : ℤ) :
    IsReal (exponentText (Nat.toDigits 10 n) (k + (Nat.toDigits 10 n).length)) (n * 10 ^ k) := by
  have digits := isDigits_toDigits n
  have value := @Nat.ofDigitChars_ten_toDigits n
  have head := head?_toDigits_ne_zero positive
  generalize Nat.toDigits 10 n = ds at digits value head ⊢
  have exponent := isExponent_exponent (k + ds.length - 1)
  rw [exponentText.eq_def]
  dsimp only
  cases ds with
  | nil => exact absurd rfl digits.given
  | cons c cs =>
    cases cs with
    | nil =>
      have h := IsReal.intro (isNumeral_of_head?_ne_zero digits head) .absent exponent (by simp)
      simpa [value] using h
    | cons c' cs =>
      obtain ⟨hc, rest⟩ := List.forall_mem_cons.mp digits.digits
      have first : IsDigits [c] := ⟨nofun, List.forall_mem_singleton.mpr hc⟩
      have behind : IsDigits (c' :: cs) := ⟨nofun, rest⟩
      have h := IsReal.intro (isNumeral_of_head?_ne_zero first head) (.point behind) exponent
        (by simp)
      have same : k + ((c :: c' :: cs).length : ℤ) - 1 - (c' :: cs).length = k := by
        rw [List.length_cons]
        omega
      simp only [List.singleton_append, value, same] at h
      rwa [List.append_assoc]

/-- The text of a double stands for a number that is rounded to it. -/
theorem exists_isReal_magnitudeText (end_zero : layout.wholeEnd = ['.', '0']) (d : Double) :
    ∃ x, IsReal (layout.magnitudeText d.significand d.unit) x ∧
      d.IsNearest ((if d.negative then -1 else 1) * x) := by
  rw [magnitudeText]
  split
  · next zero =>
    refine ⟨0, ?_, ?_⟩
    · rw [end_zero]
      simpa [Nat.ofDigitChars_cons] using isReal_zero_point (isDigits_toDigits 0)
    · have same : d.toRat = (if d.negative then -1 else 1) * 0 := by
        rw [Double.toRat, zero, Nat.cast_zero, zero_mul]
      exact same ▸ d.isNearest_toRat
  · next positive =>
    have positive := Nat.pos_of_ne_zero positive
    refine ⟨_, ?_, Double.isNearest_of_contains positive
      (Shortest.contains_decimal layout.tie positive d.significand_lt d.unit)⟩
    have digits := Shortest.digits_decimal_pos layout.tie positive d.significand_lt d.unit
    dsimp only
    split
    · exact isReal_positionalText end_zero digits _
    · exact isReal_exponentText digits _

end Layout

/-! ## Strings and arrays -/

namespace Json

private theorem sixteen_getElem? (n : ℕ) : sixteen[n % 16]? = some (Text.hexDigit .lower n) := by
  have cases : ∀ m : Fin 16, sixteen[m.val]? = some (Text.hexDigit .lower m) := by decide
  rw [← Text.hexDigit_mod]
  exact cases ⟨n % 16, n.mod_lt (by decide)⟩

theorem isPiece_hexPadded {c : Char} (h : c.toNat < 0x10000) :
    IsPiece (['\\', 'u'] ++ Text.hexPadded .lower 4 c.toNat) c :=
  .code (sixteen_getElem? (c.toNat / 16 / 16 / 16)) (sixteen_getElem? (c.toNat / 16 / 16))
    (sixteen_getElem? (c.toNat / 16)) (sixteen_getElem? c.toNat) (by omega)

theorem isPiece_escapedChar (c : Char) : IsPiece (escapedChar c) c := by
  rw [escapedChar.eq_def]
  split
  -- the escapes of one letter come before those by number
  iterate 7 exact .letter (by decide)
  · split
    · next control => exact isPiece_hexPadded (by omega)
    · next printable => exact .plain (not_lt.mp printable) (by simp_all)

private theorem forall₂_isPiece_escapedChar (cs : List Char) :
    List.Forall₂ IsPiece (cs.map escapedChar) cs := by
  rw [List.forall₂_map_left_iff]
  exact List.forall₂_same.mpr fun c _ ↦ isPiece_escapedChar c

private theorem itemChars_eq_intercalate (items : List Json) :
    itemChars items = [','].intercalate (items.map chars) := by
  induction items with
  | nil => rfl
  | cons item items ih =>
    cases items with
    | nil => exact List.intercalate_singleton.symm
    | cons next items =>
      rw [itemChars, ih]
      exact List.intercalate_cons_cons.symm

end Json

/-! ## Values -/

/-- **Values are written as JSON.** The text of a value is one that stands for it. -/
theorem Value.isWritten_jsonText (v : Value) : v.IsWritten v.jsonText.toList := by
  rw [jsonText, Json.compact, String.toList_ofList]
  cases v with
  | null => exact .null
  | bool b => cases b; exacts [.false, .true]
  | int n => exact .int (Json.isInteger_integerChars n.toInt)
  | float d =>
    rw [toJson]
    split
    · next finite =>
      have finish : Json.doubleLayout.wholeEnd = ['.', '0'] := rfl
      obtain ⟨x, real, near⟩ := Layout.exists_isReal_magnitudeText finish d
      rw [Json.chars, Layout.text?, d.decode_eq finite]
      exact .float finite real near
    · next infinite => exact .infinite infinite
  | text s =>
    have h := IsWritten.text (Json.forall₂_isPiece_escapedChar s.toList)
    rwa [← List.flatMap_def] at h
  | blob bytes =>
    rw [toJson, Json.chars, Json.itemChars_eq_intercalate]
    refine .blob ?_
    rw [List.map_map, List.forall₂_map_left_iff]
    refine List.forall₂_same.mpr fun byte _ ↦ ?_
    rw [Function.comp, Json.chars, Json.integerChars_natCast]
    exact Json.isNumeral_toDigits byte.toNat

/-! ## Characters -/

private theorem forall_mem_intercalate {α : Type} {P : α → Prop} {sep : List α}
    {xss : List (List α)} (hSep : ∀ x ∈ sep, P x) (each : ∀ xs ∈ xss, ∀ x ∈ xs, P x) :
    ∀ x ∈ sep.intercalate xss, P x := by
  induction xss with
  | nil => exact nofun
  | cons xs xss ih =>
    obtain ⟨first, rest⟩ := List.forall_mem_cons.mp each
    cases xss with
    | nil =>
      rw [List.intercalate_singleton]
      exact first
    | cons ys xss =>
      rw [List.intercalate_cons_cons]
      simp only [List.forall_mem_append]
      exact ⟨⟨first, hSep⟩, ih rest⟩

namespace Json

theorem IsDigits.printable {cs : List Char} (h : IsDigits cs) : ∀ c ∈ cs, 0x20 ≤ c.toNat :=
  fun c hc ↦ le_trans (by decide) (Char.isDigit_iff_toNat.mp (h.digits c hc)).1

theorem IsDigits.head?_ne_colon {cs : List Char} (h : IsDigits cs) : cs.head? ≠ some ':' :=
  fun colon ↦ absurd (h.digits ':' (List.mem_of_head? colon)) (by decide)

theorem IsInteger.printable {cs : List Char} {n : ℤ} (h : IsInteger cs n) :
    ∀ c ∈ cs, 0x20 ≤ c.toNat := by
  cases h with
  | nonneg h => exact h.printable
  | neg h => exact List.forall_mem_cons.mpr ⟨by decide, h.printable⟩

private theorem IsInteger.head?_ne_colon {cs : List Char} {n : ℤ} (h : IsInteger cs n) :
    cs.head? ≠ some ':' := by
  cases h with
  | nonneg h => exact h.head?_ne_colon
  | neg h => exact nofun

theorem IsReal.printable {cs : List Char} {x : ℚ} (h : IsReal cs x) : ∀ c ∈ cs, 0x20 ≤ c.toNat := by
  cases h with
  | intro hWhole hFraction hExponent =>
    simp only [List.forall_mem_append]
    refine ⟨⟨hWhole.printable, ?_⟩, ?_⟩
    · cases hFraction with
      | absent => exact nofun
      | point h => exact List.forall_mem_cons.mpr ⟨by decide, h.printable⟩
    · cases hExponent with
      | absent => exact nofun
      | plus h | minus h =>
        simp only [List.forall_mem_cons]
        exact ⟨by decide, by decide, h.printable⟩

private theorem IsReal.head?_ne_colon {cs : List Char} {x : ℚ} (h : IsReal cs x) :
    cs.head? ≠ some ':' := by
  cases h with
  | intro hWhole =>
    rw [List.append_assoc, List.head?_append_of_ne_nil _ hWhole.given]
    exact hWhole.head?_ne_colon

theorem IsPiece.printable {cs : List Char} {c : Char} (h : IsPiece cs c) :
    ∀ d ∈ cs, 0x20 ≤ d.toNat := by
  have digit {i : ℕ} {d : Char} (hd : sixteen[i]? = some d) : 0x20 ≤ d.toNat := by
    have all : ∀ d ∈ sixteen, 0x20 ≤ d.toNat := by decide
    exact all d (List.mem_of_getElem? hd)
  cases h with
  | plain printable => exact List.forall_mem_singleton.mpr printable
  | @letter l c h =>
    simp only [List.mem_cons, Prod.mk.injEq, List.not_mem_nil, or_false] at h
    rcases h with h | h | h | h | h | h | h | h <;> rw [h.1] <;> decide
  | code hw hx hy hz =>
    simp only [List.forall_mem_cons]
    exact ⟨by decide, by decide, digit hw, digit hx, digit hy, digit hz, nofun⟩

end Json

namespace Value.IsWritten

variable {v : Value} {text : List Char}

/-- **JSON texts are printable.** Control characters are escaped. -/
theorem printable (h : v.IsWritten text) : ∀ c ∈ text, 0x20 ≤ c.toNat := by
  cases h with
  | null | true | false | infinite => decide
  | int h => exact h.printable
  | float finite h =>
    refine List.forall_mem_append.mpr ⟨?_, h.printable⟩
    split <;> decide
  | @text s pieces h =>
    have each := ((List.forall₂_and_left _ _).mp (h.imp fun _ _ hp ↦ ⟨hp.printable, hp⟩)).1
    simp only [List.forall_mem_append, List.mem_flatten]
    exact ⟨⟨by decide, fun c ⟨piece, mem, hc⟩ ↦ each piece mem c hc⟩, by decide⟩
  | blob h =>
    have each := ((List.forall₂_and_left _ _).mp (h.imp fun _ _ hn ↦ ⟨hn.printable, hn⟩)).1
    simp only [List.forall_mem_append]
    exact ⟨⟨by decide, forall_mem_intercalate (by decide) each⟩, by decide⟩

theorem head?_ne_colon (h : v.IsWritten text) : text.head? ≠ some ':' := by
  cases h with
  | null | true | false | infinite => decide
  | int h => exact h.head?_ne_colon
  | float finite h =>
    split
    · exact nofun
    · exact h.head?_ne_colon
  | text | blob => exact nofun

end Value.IsWritten

end PreparedSql
