import PreparedSql.Proofs.Unquoting
import PreparedSql.Value

/-!
# Inline literals are read back

The literal of a text is the text between quotes, the quotes inside it doubled. The literal of a
blob is two digits for each byte, between a marked quote and another one. Readers that know this
much, and nothing of how literals are written, find the text and the bytes again and leave unread
what stands behind the literal. So no content ends its literal, and different contents have
different literals.

A quote behind the literal of a text would continue it. Behind the literal of a blob it would not: a
quote is no digit, and the first one ends the literal.

## Main definitions

* `Text.readText?`, `Text.readBlob?`: the literal at the front of a text.

## Main statements

* `Value.read_inline`: literals of texts and blobs are read back.
-/

namespace PreparedSql

/-! ## The readers -/

namespace Text

/-- The text in the literal at the front, and what is behind the literal. -/
def readText? : List Char → Option (String × List Char)
  | [] => none
  | c :: rest =>
    if c = '\'' then (readDoubled? '\'' rest).map (Prod.map String.ofList id) else none

/-- The bytes that pairs of digits stand for, up to a quote, and what is behind the quote. -/
def readBytes? : List Char → Option (List UInt8 × List Char)
  | [] => none
  | '\'' :: rest => some ([], rest)
  | [_] => none
  | high :: low :: rest =>
    match hexNumber? [high, low] with
    | some byte => (readBytes? rest).map (Prod.map (UInt8.ofNat byte :: ·) id)
    | none => none

/-- The bytes in the literal at the front, and what is behind the literal. -/
def readBlob? : List Char → Option (List UInt8 × List Char)
  | 'X' :: '\'' :: rest => readBytes? rest
  | _ => none

/-! ## Reading what is written -/

private theorem readBytes?_hexPadded (letters : HexCase) (byte : UInt8) (rest : List Char) :
    readBytes? (hexPadded letters 2 byte.toNat ++ rest) =
      (readBytes? rest).map (Prod.map (byte :: ·) id) := by
  have number := @hexNumber?_hexPadded letters 2 _ byte.toNat_lt
  obtain ⟨high, low, digits⟩ : ∃ high low, hexPadded letters 2 byte.toNat = [high, low] :=
    ⟨_, _, rfl⟩
  rw [digits] at number ⊢
  have digit : high ≠ '\'' := by
    rintro rfl
    exact nomatch number
  rw [List.cons_append, List.singleton_append, readBytes?, number]
  · dsimp only
    rw [UInt8.ofNat_toNat]
  · exact fun same ↦ digit same

private theorem readBytes?_flatMap (letters : HexCase) (bytes : List UInt8) (rest : List Char) :
    readBytes? (bytes.flatMap (fun b ↦ hexPadded letters 2 b.toNat) ++ '\'' :: rest) =
      some (bytes, rest) := by
  induction bytes with
  | nil => rw [List.flatMap_nil, List.nil_append, readBytes?]
  | cons byte bytes ih =>
    rw [List.flatMap_cons, List.append_assoc, readBytes?_hexPadded, ih]
    rfl

end Text

namespace Value

theorem readText?_inline (s : String) (rest : List Char) (hRest : rest.head? ≠ some '\'') :
    Text.readText? ((text s).inline.toList ++ rest) = some (s, rest) := by
  have doubled : (fun c : Char ↦ if c = '\'' then ['\'', '\''] else [c]) =
      fun c ↦ if c = '\'' then ['\'', c] else [c] := by
    funext c
    split
    · next quote => rw [quote]
    · rfl
  rw [inline, String.toList_ofList, inlineChars, inlineText, doubled, List.append_assoc,
    List.append_assoc, List.singleton_append, List.singleton_append, Text.readText?, if_pos rfl,
    Text.readDoubled?_flatMap '\'' s.toList hRest]
  exact congrArg (fun s ↦ some (s, rest)) String.ofList_toList

theorem readBlob?_inline (bytes : List UInt8) (rest : List Char) :
    Text.readBlob? ((blob bytes).inline.toList ++ rest) = some (bytes, rest) := by
  rw [inline, String.toList_ofList, inlineChars, inlineBlob, List.append_assoc, List.append_assoc,
    List.singleton_append]
  exact Text.readBytes?_flatMap .upper bytes rest

/-- **Inline literals are read back.** The literal of a text is read as this text and that of a blob
as its bytes, and what follows is left as it is. Different texts therefore have different literals,
so do different blobs, and no text has the literal of a blob. -/
theorem read_inline :
    (∀ (s : String) (rest : List Char), rest.head? ≠ some '\'' →
      Text.readText? ((text s).inline.toList ++ rest) = some (s, rest)) ∧
    (∀ (bytes : List UInt8) (rest : List Char),
      Text.readBlob? ((blob bytes).inline.toList ++ rest) = some (bytes, rest)) ∧
    Function.Injective (fun s ↦ (text s).inline) ∧
    Function.Injective (fun bytes ↦ (blob bytes).inline) ∧
    ∀ s bytes, (text s).inline ≠ (blob bytes).inline := by
  refine ⟨readText?_inline, readBlob?_inline, ?_, ?_, ?_⟩
  · intro s s' same
    have read := readText?_inline s [] nofun
    rw [show (text s).inline = (text s').inline from same, readText?_inline s' [] nofun] at read
    exact (Prod.mk.inj (Option.some.inj read)).1.symm
  · intro bytes bytes' same
    have read := readBlob?_inline bytes []
    rw [show (blob bytes).inline = (blob bytes').inline from same, readBlob?_inline] at read
    exact (Prod.mk.inj (Option.some.inj read)).1.symm
  · intro s bytes same
    have read := readText?_inline s [] nofun
    rw [same, inline, String.toList_ofList] at read
    -- the literal of a blob starts with its mark and not with a quote
    exact nomatch read

/-- A text that starts and ends with quotes, and a blob with small bytes; what follows them looks
like more of a literal. -/
theorem read_inline_quotes :
    Text.readText? ((text "'a''").inline.toList ++ "X''".toList) = some ("'a''", "X''".toList) ∧
    Text.readBlob? ((blob [0, 10, 255]).inline.toList ++ "'00'".toList) =
      some ([0, 10, 255], "'00'".toList) :=
  ⟨read_inline.1 _ _ (by decide +kernel), read_inline.2.1 _ _⟩

end Value

end PreparedSql
