import PreparedSql.Double.Basic

/-!
# JSON documents

A number is an integer when it was written as one that fits a 64-bit word, signed or unsigned, and a
double otherwise. An object lists its members.

What is read from a text lists the members as written. In the *canonical* form of a document the
members of every object are sorted by key, in code point order, and a repeated key keeps its last
value; descriptions of statements are loaded from canonical documents, so neither the order of the
members in the text nor an overwritten member matters.
-/

namespace PreparedSql

/-- A JSON document. -/
inductive Json where
  | null
  | bool (value : Bool)
  | integer (value : Int)
  | double (value : Double)
  | text (value : String)
  | array (items : List Json)
  | object (members : List (String × Json))

namespace Json

instance : Inhabited Json := ⟨.null⟩

/-- The items of an array; other documents have none. -/
def items? : Json → Option (List Json)
  | .array items => some items
  | _ => none

/-! ## Canonical form -/

/-- Puts a member into a list of members sorted by key, in place of one with the same key. -/
def insertMember {α : Type} (key : String) (value : α) : List (String × α) → List (String × α)
  | [] => [(key, value)]
  | (k, v) :: rest =>
    if key < k then (key, value) :: (k, v) :: rest
    else if key = k then (key, value) :: rest
    else (k, v) :: insertMember key value rest

/-- The members sorted by key, the last of each key. -/
def sortMembers {α : Type} (members : List (String × α)) : List (String × α) :=
  members.foldl (fun sorted (key, value) ↦ insertMember key value sorted) []

mutual

/-- The document with the members of every object sorted by key, the last of each key. -/
def canonical : Json → Json
  | .array items => .array (canonicalItems items)
  | .object members => .object (sortMembers (canonicalMembers members))
  | other => other
termination_by structural document => document

def canonicalItems : List Json → List Json
  | [] => []
  | item :: rest => canonical item :: canonicalItems rest
termination_by structural items => items

/-- Every member's value in canonical form; the members stay where they are. -/
def canonicalMembers : List (String × Json) → List (String × Json)
  | [] => []
  | (key, value) :: rest => (key, canonical value) :: canonicalMembers rest
termination_by structural members => members

end

theorem canonicalItems_eq_map (items : List Json) : canonicalItems items = items.map canonical := by
  induction items with
  | nil => rfl
  | cons item rest ih => simp [canonicalItems, ih]

theorem canonicalMembers_eq_map (members : List (String × Json)) :
    canonicalMembers members = members.map fun (key, value) ↦ (key, canonical value) := by
  induction members with
  | nil => rfl
  | cons member rest ih =>
    obtain ⟨key, value⟩ := member
    simp [canonicalMembers, ih]

end Json

end PreparedSql
