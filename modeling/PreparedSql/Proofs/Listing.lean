import PreparedSql.CommandLine
import PreparedSql.Proofs.Writing

/-!
# Listings are read back

A listing has one line for the text of a query and one for each of its placeholders. The line of a
token starts with a colon, which no JSON text does, and a JSON text has no line feed in it, whatever
text or bytes it shows. So a listing falls apart into its lines again as long as the text of the
query and the names of its tokens are on one line each; the lines tell the tokens from fixed values
and give their names.

## Main definitions

* `CommandLine.readLines?`: the lines of an output.
* `CommandLine.readListing?`: the text of a query and its slots, from an output alone.

## Main statements

* `CommandLine.read_listing`: listings are read back.
-/

namespace PreparedSql.CommandLine

/-- The lines of an output, each of which has to end with a line feed. -/
def readLines? (output : String) : Option (List String) :=
  let pieces := output.toList.splitOn '\n'
  if pieces.getLast? = some [] then some (pieces.dropLast.map String.ofList) else none

/-- The slot that a line shows: a token behind a colon, else a fixed value. -/
def readSlot (line : String) : Option String :=
  match line.toList with
  | ':' :: name => some (String.ofList name)
  | _ => none

/-- The text of the query that an output lists, and its slots. -/
def readListing? (output : String) : Option (String × List (Option String)) :=
  match readLines? output with
  | some (sql :: lines) => some (sql, lines.map readSlot)
  | _ => none

private theorem splitOn_unlines {lines : List String} (h : ∀ line ∈ lines, '\n' ∉ line.toList) :
    (unlines lines).toList.splitOn '\n' = lines.map String.toList ++ [[]] := by
  rw [unlines, String.toList_join]
  induction lines with
  | nil => rfl
  | cons line lines ih =>
    obtain ⟨first, rest⟩ := List.forall_mem_cons.mp h
    rw [List.map_cons, List.flatMap_cons, String.toList_append, List.append_assoc]
    exact (List.splitOn_append_cons_self_of_not_mem first _).trans (congrArg _ (ih rest))

private theorem getLast?_unlines {lines : List String} (h : lines ≠ []) :
    (unlines lines).toList.getLast? = some '\n' := by
  obtain ⟨front, last, rfl⟩ := (List.eq_nil_or_concat' lines).resolve_left h
  rw [unlines, List.map_append, List.map_singleton, String.toList_join, List.flatMap_append,
    List.flatMap_singleton, String.toList_append, ← List.append_assoc]
  exact List.getLast?_concat

private theorem readLines?_unlines {lines : List String} (h : ∀ line ∈ lines, '\n' ∉ line.toList) :
    readLines? (unlines lines) = some lines := by
  rw [readLines?, splitOn_unlines h, List.getLast?_concat, if_pos rfl, List.dropLast_concat,
    List.map_map]
  exact congrArg some (List.map_id'' (fun _ ↦ String.ofList_toList) _)

/-- A JSON text is one line, and not the line of a token. -/
theorem jsonText_line (v : Value) :
    '\n' ∉ v.jsonText.toList ∧ v.jsonText.toList.head? ≠ some ':' := by
  refine ⟨fun mem ↦ ?_, v.isWritten_jsonText.head?_ne_colon⟩
  exact absurd (v.isWritten_jsonText.printable '\n' mem) (by decide)

private theorem readSlot_bindingLine (b : Binding) : readSlot (bindingLine b) = b.token? := by
  cases b with
  | token name =>
    rw [readSlot, bindingLine, tokenText, String.toList_append]
    exact congrArg some String.ofList_toList
  | value v =>
    rw [readSlot, bindingLine]
    split
    · next name line =>
      refine absurd ?_ (jsonText_line v).2
      rw [line]
      rfl
    · rfl

private theorem not_mem_bindingLine {b : Binding} (h : ∀ n ∈ b.token?, '\n' ∉ n.toList) :
    '\n' ∉ (bindingLine b).toList := by
  cases b with
  | token name =>
    rw [bindingLine, tokenText, String.toList_append]
    exact List.not_mem_cons_of_ne_of_not_mem (by decide) (h name rfl)
  | value v => exact (jsonText_line v).1

/-- **Listings are read back.** If the text of a query and the names of its tokens have no line
feed, the listing ends with a line feed and has one line for the text and one for each placeholder:
the name of its token behind a colon, or the JSON text that its fixed value is written as. JSON
texts have no line feed and do not start with a colon, so the text and the slots of the query are
known from the listing. -/
theorem read_listing {q : Query} (hSql : '\n' ∉ q.sql.toList)
    (hTokens : ∀ n ∈ q.tokens, '\n' ∉ n.toList) :
    (listing q).toList.getLast? = some '\n' ∧
    (∃ lines, readLines? (listing q) = some (q.sql :: lines) ∧ lines.length = q.arity ∧
      (∀ (k : Nat) (n : String), q.bindings[k]? = some (.token n) → lines[k]? = some (":" ++ n)) ∧
      ∀ (k : Nat) (v : Value), q.bindings[k]? = some (.value v) →
        lines[k]? = some v.jsonText ∧ v.IsWritten v.jsonText.toList) ∧
    (∀ v : Value, '\n' ∉ v.jsonText.toList ∧ v.jsonText.toList.head? ≠ some ':') ∧
    readListing? (listing q) = some (q.sql, q.slots) := by
  have lines : ∀ line ∈ q.sql :: q.bindings.map bindingLine, '\n' ∉ line.toList := by
    refine List.forall_mem_cons.mpr ⟨hSql, List.forall_mem_map.mpr fun b hb ↦ ?_⟩
    exact not_mem_bindingLine fun n hn ↦ hTokens n (List.mem_filterMap.mpr ⟨b, hb, hn⟩)
  have read : readLines? (listing q) = some (q.sql :: q.bindings.map bindingLine) :=
    readLines?_unlines lines
  refine ⟨getLast?_unlines (List.cons_ne_nil _ _), ⟨_, read, List.length_map _, ?_, ?_⟩,
    jsonText_line, ?_⟩
  · intro k n hk
    rw [List.getElem?_map, hk]
    rfl
  · intro k v hk
    rw [List.getElem?_map, hk]
    exact ⟨rfl, v.isWritten_jsonText⟩
  · rw [readListing?, read]
    dsimp only
    have slots : (q.bindings.map bindingLine).map readSlot = q.slots := by
      rw [List.map_map]
      exact List.map_congr_left fun b _ ↦ readSlot_bindingLine b
    rw [slots]

/-- A listing with a token, a text that looks like the line of a token behind a line feed, a blob
and numbers. -/
theorem read_listing_lines :
    let text : Value := .text "\n:name\n\"\\\x01"
    let half : Value := .float ⟨0xBFE0000000000000⟩
    let large : Value := .float ⟨0x4480F0CF064DD592⟩
    let q : Query := ⟨"? ? ? ? ? ?", [.token ":id", .value text, .value (.blob [10, 58]),
      .value (.int (-7)), .value half, .value large]⟩
    '\n' ∉ q.sql.toList ∧ (∀ n ∈ q.tokens, '\n' ∉ n.toList) ∧
      readLines? (listing q) = some ["? ? ? ? ? ?", "::id", "\"\\n:name\\n\\\"\\\\\\u0001\"",
        "[10,58]", "-7", "-0.5", "1e+22"] ∧
      text.IsWritten "\"\\n:name\\n\\\"\\\\\\u0001\"".toList ∧
      half.IsWritten ['-', '0', '.', '5'] ∧
      readListing? (listing q) =
        some ("? ? ? ? ? ?", [some ":id", none, none, none, none, none]) := by
  intro text half large q
  have hSql : '\n' ∉ q.sql.toList := by decide +kernel
  have hTokens : ∀ n ∈ q.tokens, '\n' ∉ n.toList := by decide +kernel
  obtain ⟨-, ⟨lines, read, -, -, fixed⟩, -, slots⟩ := read_listing hSql hTokens
  have shown : readLines? (listing q) = some ["? ? ? ? ? ?", "::id",
      "\"\\n:name\\n\\\"\\\\\\u0001\"", "[10,58]", "-7", "-0.5", "1e+22"] := by decide +kernel
  obtain ⟨-, rfl⟩ := List.cons.inj (Option.some.inj (read.symm.trans shown))
  obtain ⟨hText, textWritten⟩ := fixed 1 text rfl
  obtain ⟨hHalf, halfWritten⟩ := fixed 4 half rfl
  rw [← Option.some.inj hText] at textWritten
  rw [← Option.some.inj hHalf] at halfWritten
  exact ⟨hSql, hTokens, shown, textWritten, halfWritten, slots⟩

end PreparedSql.CommandLine
