import PreparedSql.Proofs.Steps
import PreparedSql.Value.Json

/-!
# Values without tags

A value is written into a document without saying of which kind it is, and a document is tried for
the kinds in a fixed order. Numbers are the only documents that two kinds claim: an integer that a
word holds is tried for an integer first, and a double is never tried for one, so a double that is
whole stays a double. Arrays belong to blobs alone, the empty array included, and one item that is
no byte leaves a document without any value.

Every value is therefore found again in its document, except for infinities and NaN, which are
written as `null`.

## Main definitions

* `Json.Holds`: what a document holds, kind by kind and without trying any.
* `Value.Kind.read?`: the value of a given kind that a document is taken for.

## Main statements

* `Value.ofJson?_eq_some_iff`: a document is read as what it holds.
* `Value.ofJson?_eq_findSome?`: reading is trying the kinds in turn.
* `Value.read_untagged`: values are found again, and which documents hold one.
-/

namespace PreparedSql

/-! ## What documents hold -/

namespace Json

/-- What a document holds. -/
inductive Holds : Json → Value → Prop
  | null : Holds .null .null
  | bool (b : Bool) : Holds (.bool b) (.bool b)
  /-- An integer that a signed 64-bit word holds is this word. -/
  | word (n : Int64) : Holds (.integer n.toInt) (.int n)
  /-- Every other integer is the nearest double. -/
  | wide {n : Int} (h : ∀ word : Int64, word.toInt ≠ n) : Holds (.integer n) (.float (.ofInt n))
  | double (d : Double) : Holds (.double d) (.float d)
  | text (s : String) : Holds (.text s) (.text s)
  /-- An array of integers is a blob if they are bytes. -/
  | bytes (bytes : List UInt8) : Holds (.array (bytes.map fun b ↦ .integer b.toNat)) (.blob bytes)

/-- An integer from 0 to 255. -/
def IsByte : Json → Prop
  | .integer n => 0 ≤ n ∧ n ≤ 255
  | _ => False

/-- A scalar, or an array of integers from 0 to 255. -/
def IsValue : Json → Prop
  | .array items => ∀ item ∈ items, item.IsByte
  | .object _ => False
  | _ => True

theorem isByte_iff {d : Json} : d.IsByte ↔ ∃ byte : UInt8, d = .integer byte.toNat := by
  constructor
  · intro h
    cases d with
    | integer n =>
      obtain ⟨low, high⟩ := h
      refine ⟨UInt8.ofNat n.toNat, ?_⟩
      rw [UInt8.toNat_ofNat_of_lt' (by simp only [UInt8.size]; omega), Int.toNat_of_nonneg low]
    | null | bool | double | text | array | object => exact h.elim
  · rintro ⟨byte, rfl⟩
    have := byte.toNat_lt
    exact ⟨by omega, by omega⟩

private theorem exists_holds_iff {d : Json} : (∃ v, d.Holds v) ↔ d.IsValue := by
  constructor
  · rintro ⟨v, h⟩
    cases h with
    | bytes bytes =>
      intro item mem
      obtain ⟨byte, -, rfl⟩ := List.mem_map.mp mem
      exact isByte_iff.mpr ⟨byte, rfl⟩
    | null | bool | word | wide | double | text => trivial
  · intro h
    cases d with
    | null => exact ⟨_, .null⟩
    | bool b => exact ⟨_, .bool b⟩
    | integer n =>
      by_cases word : ∃ word : Int64, word.toInt = n
      · obtain ⟨word, rfl⟩ := word
        exact ⟨_, .word word⟩
      · exact ⟨_, .wide fun w hw ↦ word ⟨w, hw⟩⟩
    | double d => exact ⟨_, .double d⟩
    | text s => exact ⟨_, .text s⟩
    | array items =>
      obtain ⟨bytes, each⟩ := exists_forall₂_iff.mpr fun item hItem ↦ isByte_iff.mp (h item hItem)
      have all : items = bytes.map fun b ↦ .integer b.toNat := by
        rwa [← List.forall₂_eq_eq_eq, List.forall₂_map_right_iff]
      exact ⟨.blob bytes, all ▸ .bytes bytes⟩
    | object members => exact h.elim

end Json

/-! ## Reading -/

namespace Value

theorem word?_eq_some_iff {n : Int} {word : Int64} : word? n = some word ↔ word.toInt = n := by
  have low := word.le_toInt
  have high := word.toInt_lt
  rw [word?, Int64.toInt_minValue, Int64.toInt_maxValue]
  constructor
  · intro h
    split at h
    · next range =>
      rw [← Option.some.inj h, Int64.toInt_ofInt_of_le range.1 (by omega)]
    · exact nomatch h
  · rintro rfl
    rw [if_pos ⟨low, by omega⟩, Int64.ofInt_toInt]

private theorem word?_eq_none_iff {n : Int} : word? n = none ↔ ∀ word : Int64, word.toInt ≠ n := by
  rw [Option.eq_none_iff_forall_ne_some]
  exact forall_congr' fun word ↦ not_congr word?_eq_some_iff

theorem byte?_eq_some_iff {d : Json} {byte : UInt8} :
    byte? d = some byte ↔ d = .integer byte.toNat := by
  have small := byte.toNat_lt
  cases d with
  | integer n =>
    rw [byte?, Json.integer.injEq]
    constructor
    · intro h
      split at h
      · next range =>
        rw [← Option.some.inj h, UInt8.toNat_ofNat_of_lt' (by simp only [UInt8.size]; omega),
          Int.toNat_of_nonneg range.1]
      · exact nomatch h
    · rintro rfl
      rw [if_pos ⟨by omega, by omega⟩, Int.toNat_natCast, UInt8.ofNat_toNat]
  | null | bool | double | text | array | object => exact iff_of_false nofun nofun

theorem mapM_byte?_eq_some_iff {items : List Json} {bytes : List UInt8} :
    items.mapM byte? = some bytes ↔ items = bytes.map fun b ↦ .integer b.toNat := by
  induction items generalizing bytes with
  | nil =>
    rw [List.mapM_nil, @eq_comm _ [], List.map_eq_nil_iff]
    exact ⟨fun h ↦ (Option.some.inj h).symm, fun h ↦ congrArg some h.symm⟩
  | cons item items ih =>
    simp only [List.mapM_cons, Option.bind_eq_bind, Option.bind_eq_some_iff, Option.pure_def,
      Option.some.injEq, byte?_eq_some_iff, ih]
    constructor
    · rintro ⟨byte, rfl, bytes, rfl, rfl⟩
      rfl
    · intro same
      cases bytes with
      | nil => exact nomatch same
      | cons byte bytes =>
        obtain ⟨first, rest⟩ := List.cons.inj same
        exact ⟨byte, first, bytes, rest, rfl⟩

theorem ofJson?_eq_some_iff {d : Json} {v : Value} : ofJson? d = some v ↔ d.Holds v := by
  constructor
  · intro h
    cases d with
    | null | bool | double | text =>
      obtain rfl := Option.some.inj h
      constructor
    | integer n =>
      obtain rfl := Option.some.inj h
      rw [ofInteger]
      cases read : word? n with
      | some word => exact word?_eq_some_iff.mp read ▸ .word word
      | none => exact .wide (word?_eq_none_iff.mp read)
    | array items =>
      obtain ⟨bytes, read, rfl⟩ := Option.map_eq_some_iff.mp h
      exact mapM_byte?_eq_some_iff.mp read ▸ .bytes bytes
    | object => exact nomatch h
  · intro h
    cases h with
    | null | bool | double | text => rfl
    | word word => rw [ofJson?, ofInteger, word?_eq_some_iff.mpr rfl]
    | wide h => rw [ofJson?, ofInteger, word?_eq_none_iff.mpr h]
    | bytes bytes =>
      rw [ofJson?, mapM_byte?_eq_some_iff.mpr rfl]
      rfl

/-! ## Trying kinds in turn -/

/-- The kinds of values. -/
inductive Kind where
  | null
  | bool
  | int
  | float
  | text
  | blob

namespace Kind

/-- The order in which a document is tried for kinds. -/
def all : List Kind := [null, bool, int, float, text, blob]

/-- The value of a kind that a document is taken for. Every integer can be taken for a double. -/
def read? : Kind → Json → Option Value
  | null, .null => some .null
  | bool, .bool b => some (.bool b)
  | int, .integer n => (word? n).map .int
  | float, .integer n => some (.float (.ofInt n))
  | float, .double d => some (.float d)
  | text, .text s => some (.text s)
  | blob, .array items => (items.mapM byte?).map .blob
  | _, _ => none

end Kind

/-- Reading a document is trying it for the kinds in turn. -/
theorem ofJson?_eq_findSome? (d : Json) : ofJson? d = Kind.all.findSome? (·.read? d) := by
  cases d with
  | integer n =>
    rw [ofJson?, ofInteger]
    cases read : word? n <;> simp [Kind.all, Kind.read?, read]
  | array items =>
    rw [ofJson?]
    cases read : items.mapM byte? <;> simp [Kind.all, Kind.read?, read]
  | null | bool | double | text | object => rfl

/-! ## Writing and reading -/

private theorem holds_toJson_iff {v : Value} :
    v.toJson.Holds v ↔ ∀ d, v = .float d → d.isFinite := by
  cases v with
  | null => exact iff_of_true .null nofun
  | bool b => exact iff_of_true (.bool b) nofun
  | int n => exact iff_of_true (.word n) nofun
  | text s => exact iff_of_true (.text s) nofun
  | blob bytes => exact iff_of_true (.bytes bytes) nofun
  | float d =>
    rw [toJson]
    split
    · next finite =>
      refine iff_of_true (.double d) ?_
      rintro _ ⟨⟩
      exact finite
    · next infinite => exact iff_of_false nofun fun h ↦ infinite (h d rfl)

/-- **Values are found again without tags.** Every value but the infinities and NaN, and none of
these, is read back from the document that it is written as. A value is read from scalars and from
arrays of integers from 0 to 255; it is what the document holds, a double only if no word holds the
number or if it is written as a double. This is what trying the kinds in turn gives. -/
theorem read_untagged :
    (∀ v : Value, ofJson? v.toJson = some v ↔ ∀ d, v = .float d → d.isFinite) ∧
    (∀ d : Json, (ofJson? d).isSome ↔ d.IsValue) ∧
    (∀ (d : Json) (v : Value), ofJson? d = some v ↔ d.Holds v) ∧
    ∀ d : Json, ofJson? d = Kind.all.findSome? (·.read? d) := by
  refine ⟨fun v ↦ ?_, fun d ↦ ?_, fun d v ↦ ofJson?_eq_some_iff, ofJson?_eq_findSome?⟩
  · rw [ofJson?_eq_some_iff, holds_toJson_iff]
  · rw [Option.isSome_iff_exists, ← Json.exists_holds_iff]
    exact exists_congr fun v ↦ ofJson?_eq_some_iff

/-- The negative zero and a whole double stay doubles, the first integer below the words becomes
one, and the empty array is a blob. -/
theorem read_untagged_ends :
    let negativeZero : Double := ⟨0x8000000000000000⟩
    let one : Double := ⟨0x3FF0000000000000⟩
    ofJson? (float negativeZero).toJson = some (float negativeZero) ∧
    ofJson? (float one).toJson = some (float one) ∧
    ofJson? (int Int64.minValue).toJson = some (int Int64.minValue) ∧
    ofJson? (.integer (Int64.minValue.toInt - 1)) =
      some (float (.ofInt (Int64.minValue.toInt - 1))) ∧
    ofJson? (.array []) = some (blob []) ∧
    ofJson? (.array [.integer 255, .integer 256]) = none := by
  intro negativeZero one
  obtain ⟨written, accepted, holds, -⟩ := read_untagged
  refine ⟨?_, ?_, ?_, ?_, ?_, ?_⟩
  · rw [written]
    rintro _ ⟨⟩
    decide
  · rw [written]
    rintro _ ⟨⟩
    decide
  · exact (written _).mpr nofun
  · refine (holds _ _).mpr (.wide fun word same ↦ ?_)
    have := word.le_toInt
    rw [Int64.toInt_minValue] at same
    omega
  · exact (holds _ _).mpr (.bytes [])
  · rw [← Option.not_isSome_iff_eq_none, accepted]
    intro each
    exact absurd (each (.integer 256) (.tail _ (.head _))).2 (by decide)

end Value

end PreparedSql
