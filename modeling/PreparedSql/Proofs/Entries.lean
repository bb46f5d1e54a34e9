import PreparedSql.Description.From
import PreparedSql.Proofs.Denotation

/-!
# What entries of chains in descriptions stand for

An entry of a chain of tables is a name, raw SQL or an object. A grammar says which documents are
entries, and a relation which entry each of them stands for. Both go by what the members of an
object give for each key, so they depend neither on the order in which the members are written nor
on members that are overwritten.

An object names its table in full, by `name` and perhaps `as`, or in short, by the one key that has
no meaning of its own. Which of the two is chosen makes no difference to what the entry stands for.

## Main definitions

* `Json.IsEntry`: the documents that are entries.
* `Json.DenotesEntry`: the entry that a document stands for.
* `TableName.inFull`, `TableName.inShort`: the members that name a table.
* `DescriptionError.isOfEntry`: the errors about entries.

## Main statements

* `Json.exists_denotesEntry_iff`: the documents that are entries stand for one.
* `Json.denotesEntry_inShort_iff`: both ways to name a table stand for the same entries.
* `FromEntry.ofJson_canonical_entry`: what is read as an entry, and what else is refused.
-/

namespace PreparedSql

/-! ## Entries -/

/-- The keys of an entry that are about joining it to the one before. -/
def joinKeys : List String := ["join", "on", "using"]

namespace Json

section Members

variable (members : List (String × Json))

/-- The table that the members of an entry name. In full, there is a `name` and perhaps `as`, and
every key has a meaning of its own. In short, the one key without such a meaning is the name of the
table, and its value is the alias or `null`. -/
inductive NamesTable : TableName → Prop
  | inFull {name : String} {aliasName : Option String}
      (only : ∀ key, key ∉ entryKeys → given? members key = none)
      (hName : given? members "name" = some (.text name))
      (hAlias : given? members "as" = aliasName.map .text) : NamesTable ⟨name, aliasName⟩
  | inShort {name : String} {aliasName : Option String} (hKey : name ∉ entryKeys)
      (only : ∀ key, key ∉ entryKeys → key ≠ name → given? members key = none)
      (hAlias : given? members name = some (aliasName.elim .null .text))
      (noName : given? members "name" = none) (noAlias : given? members "as" = none) :
      NamesTable ⟨name, aliasName⟩

/-- What the members of an entry may say about joining it: at most one of a condition and a shared
column, and the kind of the join only if there is one of them. -/
structure IsJoinable : Prop where
  /-- A join is not matched in both ways. -/
  single : given? members "on" = none ∨ given? members "using" = none
  /-- What a join is matched on is a condition. -/
  condition : ∀ d, given? members "on" = some d → d.IsCondition
  /-- What is shared is the name of a column. -/
  column : ∀ d, given? members "using" = some d → ∃ column, d = .text column
  /-- The kind of a join is one of two, in any letter case, and needs a match. -/
  kind : ∀ d, given? members "join" = some d →
    (∃ keyword, d = .text keyword ∧ Text.lower keyword ∈ ["inner", "left"]) ∧
      ¬(given? members "on" = none ∧ given? members "using" = none)

/-- How the members of an entry match it with the one before, if they do. -/
inductive GivesMatch : Option JoinMatch → Prop
  | alone (noCondition : given? members "on" = none) (noColumn : given? members "using" = none) :
      GivesMatch none
  | onCondition {d : Json} {c : Condition} (hCondition : given? members "on" = some d)
      (noColumn : given? members "using" = none) (h : d.Denotes c) :
      GivesMatch (some (.onCondition c))
  | shared {column : String} (noCondition : given? members "on" = none)
      (hColumn : given? members "using" = some (.text column)) : GivesMatch (some (.shared column))

/-- The kind of join that the members of an entry name; without one it is an inner join. -/
inductive NamesKind : JoinKind → Prop
  | unnamed (h : given? members "join" = none) : NamesKind .inner
  | inner {keyword : String} (h : given? members "join" = some (.text keyword))
      (name : Text.lower keyword = "inner") : NamesKind .inner
  | left {keyword : String} (h : given? members "join" = some (.text keyword))
      (name : Text.lower keyword = "left") : NamesKind .left

end Members

/-- The documents that are entries of a chain. -/
inductive IsEntry : Json → Prop
  | name (name : String) : IsEntry (.text name)
  | raw {members : List (String × Json)} {sql : String} (h : Sorts members [("raw", .text sql)]) :
      IsEntry (.object members)
  | table {members : List (String × Json)} {t : TableName} (notRaw : given? members "raw" = none)
      (h : NamesTable members t) (hJoin : IsJoinable members) : IsEntry (.object members)

/-- The entry that a document stands for. -/
inductive DenotesEntry : Json → FromEntry → Prop
  | name (name : String) : DenotesEntry (.text name) (.table { name })
  | raw {members : List (String × Json)} {sql : String} (h : Sorts members [("raw", .text sql)]) :
      DenotesEntry (.object members) (.raw sql)
  | table {members : List (String × Json)} {t : TableName} (notRaw : given? members "raw" = none)
      (h : NamesTable members t) (alone : GivesMatch members none)
      (noKind : given? members "join" = none) : DenotesEntry (.object members) (.table t)
  | join {members : List (String × Json)} {t : TableName} {rows : JoinMatch} {kind : JoinKind}
      (notRaw : given? members "raw" = none) (h : NamesTable members t)
      (hRows : GivesMatch members (some rows)) (hKind : NamesKind members kind) :
      DenotesEntry (.object members) (.join ⟨t, kind, rows⟩)

section Members

variable {members members' : List (String × Json)}

private theorem IsJoinable.exists_namesKind (h : IsJoinable members) :
    ∃ kind, NamesKind members kind := by
  cases hKind : given? members "join" with
  | none => exact ⟨_, .unnamed hKind⟩
  | some d =>
    obtain ⟨⟨keyword, rfl, name⟩, -⟩ := h.kind d hKind
    rcases List.mem_pair.mp name with inner | left
    · exact ⟨_, .inner hKind inner⟩
    · exact ⟨_, .left hKind left⟩

private theorem NamesKind.isKeyword {kind : JoinKind} (h : NamesKind members kind) {d : Json}
    (hd : given? members "join" = some d) :
    ∃ keyword, d = .text keyword ∧ Text.lower keyword ∈ ["inner", "left"] := by
  cases h with
  | unnamed h => exact absurd (h.symm.trans hd) nofun
  | inner h name | left h name =>
    obtain rfl := Option.some.inj (h.symm.trans hd)
    exact ⟨_, rfl, by simp [name]⟩

private theorem IsJoinable.exists_givesMatch (h : IsJoinable members) :
    ∃ rows, GivesMatch members rows := by
  cases hOn : given? members "on" with
  | none =>
    cases hUsing : given? members "using" with
    | none => exact ⟨_, .alone hOn hUsing⟩
    | some d =>
      obtain ⟨column, rfl⟩ := h.column d hUsing
      exact ⟨_, .shared hOn hUsing⟩
  | some d =>
    obtain ⟨c, hc⟩ := d.exists_denotes_iff.mpr (h.condition d hOn)
    have noColumn : given? members "using" = none :=
      h.single.resolve_left (by rw [hOn]; exact nofun)
    exact ⟨_, .onCondition hOn noColumn hc⟩

theorem GivesMatch.isJoinable {rows : Option JoinMatch} (h : GivesMatch members rows)
    (kind : ∀ d, given? members "join" = some d →
      (∃ keyword, d = .text keyword ∧ Text.lower keyword ∈ ["inner", "left"]) ∧ rows ≠ none) :
    IsJoinable members := by
  cases h with
  | alone noCondition noColumn =>
    refine ⟨.inl noCondition, ?_, ?_, fun d hd ↦ absurd rfl (kind d hd).2⟩
    · exact fun d hd ↦ nomatch noCondition.symm.trans hd
    · exact fun d hd ↦ nomatch noColumn.symm.trans hd
  | onCondition hCondition noColumn h =>
    refine ⟨.inr noColumn, ?_, ?_, fun d hd ↦ ⟨(kind d hd).1, ?_⟩⟩
    · intro d hd
      obtain rfl := Option.some.inj (hCondition.symm.trans hd)
      exact (Json.exists_denotes_iff _).mp ⟨_, h⟩
    · exact fun d hd ↦ nomatch noColumn.symm.trans hd
    · exact fun none ↦ nomatch hCondition.symm.trans none.1
  | shared noCondition hColumn =>
    refine ⟨.inl noCondition, ?_, ?_, fun d hd ↦ ⟨(kind d hd).1, ?_⟩⟩
    · exact fun d hd ↦ nomatch noCondition.symm.trans hd
    · exact fun d hd ↦ ⟨_, (Option.some.inj (hColumn.symm.trans hd)).symm⟩
    · exact fun none ↦ nomatch hColumn.symm.trans none.2

end Members

theorem exists_denotesEntry_iff {d : Json} : (∃ e, d.DenotesEntry e) ↔ d.IsEntry := by
  constructor
  · rintro ⟨e, h⟩
    cases h with
    | name => exact .name _
    | raw h => exact .raw h
    | table notRaw h alone noKind =>
      exact .table notRaw h (alone.isJoinable fun d hd ↦ nomatch noKind.symm.trans hd)
    | join notRaw h hRows hKind =>
      exact .table notRaw h (hRows.isJoinable fun d hd ↦ ⟨hKind.isKeyword hd, nofun⟩)
  · intro h
    cases h with
    | name => exact ⟨_, .name _⟩
    | raw h => exact ⟨_, .raw h⟩
    | @table members t notRaw h hJoin =>
      obtain ⟨rows, hRows⟩ := hJoin.exists_givesMatch
      cases rows with
      | some rows =>
        obtain ⟨kind, hKind⟩ := hJoin.exists_namesKind
        exact ⟨_, .join notRaw h hRows hKind⟩
      | none =>
        have noKind : given? members "join" = none := by
          by_contra named
          obtain ⟨d, hd⟩ := Option.ne_none_iff_exists'.mp named
          cases hRows with
          | alone noCondition noColumn => exact (hJoin.kind d hd).2 ⟨noCondition, noColumn⟩
        exact ⟨_, .table notRaw h hRows noKind⟩

theorem DenotesEntry.isJoin_iff {members : List (String × Json)} {e : FromEntry}
    (h : DenotesEntry (.object members) e) : (∃ j, e = .join j) ↔
      (given? members "on").isSome ∨ (given? members "using").isSome := by
  cases h with
  | raw h =>
    have others := (sorts_singleton_iff.mp h).2
    simp [others "on" (by decide), others "using" (by decide)]
  | table notRaw h alone noKind =>
    cases alone with
    | alone noCondition noColumn => simp [noCondition, noColumn]
  | join notRaw h hRows hKind =>
    refine iff_of_true ⟨_, rfl⟩ ?_
    cases hRows with
    | onCondition hCondition => exact .inl (Option.isSome_of_eq_some hCondition)
    | shared _ hColumn => exact .inr (Option.isSome_of_eq_some hColumn)

end Json

/-! ## Two ways to name a table -/

/-- The members that name a table in full. -/
def TableName.inFull (t : TableName) : List (String × Json) :=
  ("name", .text t.name) :: t.aliasName.toList.map fun aliasName ↦ ("as", .text aliasName)

/-- The member that names a table in short. -/
def TableName.inShort (t : TableName) : List (String × Json) :=
  [(t.name, t.aliasName.elim .null .text)]

namespace Json

section Names

variable {t t' : TableName} {rest : List (String × Json)}

private theorem given?_inShort (key : String) :
    given? t.inShort key = if key = t.name then some (t.aliasName.elim .null .text) else none :=
  given?_singleton _ _ _

private theorem given?_inFull (key : String) : given? t.inFull key =
    if key = "name" then some (.text t.name)
    else if key = "as" then t.aliasName.map .text
    else none := by
  obtain ⟨name, aliasName⟩ := t
  have inFull : TableName.inFull ⟨name, aliasName⟩ =
      [("name", .text name)] ++ aliasName.toList.map fun a ↦ ("as", .text a) := rfl
  rw [inFull, given?_append, given?_singleton]
  cases aliasName with
  | none =>
    simp [given?]
  | some aliasName =>
    rw [Option.toList_some, List.map_singleton, given?_singleton]
    split_ifs <;> simp_all

private theorem given?_rest (hRest : ∀ m ∈ rest, m.1 ∈ joinKeys) {key : String}
    (hKey : key ∉ joinKeys) : given? rest key = none :=
  given?_eq_none fun m hm same ↦ hKey (same ▸ hRest m hm)

theorem NamesTable.eq {members : List (String × Json)} (h : NamesTable members t)
    (h' : NamesTable members t') : t = t' := by
  cases h with
  | @inFull name aliasName only hName hAlias =>
    cases h' with
    | inFull _ hName' hAlias' =>
      obtain ⟨⟩ := hName.symm.trans hName'
      have same := Option.map_injective (fun _ _ ↦ Json.text.inj) (hAlias.symm.trans hAlias')
      exact congrArg _ same
    | inShort _ _ _ noName' => exact nomatch hName.symm.trans noName'
  | @inShort name aliasName hKey only hAlias noName noAlias =>
    cases h' with
    | inFull _ hName' => exact nomatch noName.symm.trans hName'
    | @inShort name' aliasName' hKey' only' hAlias' =>
      obtain rfl : name = name' := by
        by_contra other
        exact nomatch hAlias.symm.trans (only' name hKey other)
      have same := Option.some.inj (hAlias.symm.trans hAlias')
      cases aliasName <;> cases aliasName' <;> simp_all

theorem given?_append_rest (hRest : ∀ m ∈ rest, m.1 ∈ joinKeys) (members : List (String × Json))
    {key : String} (hKey : key ∉ joinKeys) : given? (members ++ rest) key = given? members key := by
  rw [given?_append, given?_rest hRest hKey, Option.none_or]

theorem namesTable_inShort (free : t.name ∉ entryKeys) (hRest : ∀ m ∈ rest, m.1 ∈ joinKeys) :
    NamesTable (t.inShort ++ rest) t := by
  have others : ∀ key, key ∉ joinKeys → given? (t.inShort ++ rest) key =
      if key = t.name then some (t.aliasName.elim .null .text) else none :=
    fun key hKey ↦ by rw [given?_append_rest hRest _ hKey, given?_inShort]
  have reserved : ∀ key ∈ entryKeys, key ≠ t.name := fun key hKey same ↦ free (same ▸ hKey)
  have joinKeys_subset : ∀ key, key ∉ entryKeys → key ∉ joinKeys := by simp [entryKeys, joinKeys]
  refine .inShort free ?_ ?_ ?_ ?_
  · intro key hKey other
    rw [others key (joinKeys_subset key hKey), if_neg other]
  · rw [others t.name (joinKeys_subset _ free), if_pos rfl]
  · rw [others "name" (by decide), if_neg (reserved _ (by decide))]
  · rw [others "as" (by decide), if_neg (reserved _ (by decide))]

private theorem namesTable_inFull (hRest : ∀ m ∈ rest, m.1 ∈ joinKeys) :
    NamesTable (t.inFull ++ rest) t := by
  have others (key : String) (hKey : key ∉ joinKeys) := given?_append_rest hRest t.inFull hKey
  have joinKeys_subset : ∀ key, key ∉ entryKeys → key ∉ joinKeys := by simp [entryKeys, joinKeys]
  refine .inFull ?_ ?_ ?_
  · intro key hKey
    have unnamed : key ≠ "name" ∧ key ≠ "as" := by
      constructor <;> rintro rfl <;> exact hKey (by decide)
    rw [others key (joinKeys_subset key hKey), given?_inFull, if_neg unnamed.1, if_neg unnamed.2]
  · rw [others "name" (by decide), given?_inFull, if_pos rfl]
  · rw [others "as" (by decide), given?_inFull, if_neg (by decide), if_pos rfl]

/-- The entry that members stand for depends on the table that they name and on what they say about
joining it. -/
theorem DenotesEntry.congr {members members' : List (String × Json)} {e : FromEntry}
    (notRaw : given? members "raw" = none) (notRaw' : given? members' "raw" = none)
    (names : ∀ t, NamesTable members t → NamesTable members' t)
    (joins : ∀ key ∈ joinKeys, given? members key = given? members' key)
    (h : DenotesEntry (.object members) e) : DenotesEntry (.object members') e := by
  have kind := joins "join" (by decide)
  have condition := joins "on" (by decide)
  have column := joins "using" (by decide)
  have matched {rows : Option JoinMatch} (h : GivesMatch members rows) :
      GivesMatch members' rows := by
    cases h with
    | alone noCondition noColumn => exact .alone (condition ▸ noCondition) (column ▸ noColumn)
    | onCondition hCondition noColumn h =>
      exact .onCondition (condition ▸ hCondition) (column ▸ noColumn) h
    | shared noCondition hColumn => exact .shared (condition ▸ noCondition) (column ▸ hColumn)
  cases h with
  | raw h => exact nomatch notRaw.symm.trans (sorts_singleton_iff.mp h).1
  | table _ h alone noKind => exact .table notRaw' (names _ h) (matched alone) (kind ▸ noKind)
  | join _ h hRows hKind =>
    refine .join notRaw' (names _ h) (matched hRows) ?_
    cases hKind with
    | unnamed h => exact .unnamed (kind ▸ h)
    | inner h name => exact .inner (kind ▸ h) name
    | left h name => exact .left (kind ▸ h) name

/-- Both ways to name a table stand for the same entries, whatever is said about joining it. -/
theorem denotesEntry_inShort_iff (free : t.name ∉ "raw" :: entryKeys)
    (hRest : ∀ m ∈ rest, m.1 ∈ joinKeys) {e : FromEntry} :
    DenotesEntry (.object (t.inShort ++ rest)) e ↔ DenotesEntry (.object (t.inFull ++ rest)) e := by
  rw [List.mem_cons, not_or] at free
  have short := namesTable_inShort free.2 hRest
  have full := namesTable_inFull (t := t) hRest
  have notRaw : given? (t.inShort ++ rest) "raw" = none := by
    rw [given?_append_rest hRest _ (by decide), given?_inShort, if_neg (Ne.symm free.1)]
  have notRaw' : given? (t.inFull ++ rest) "raw" = none := by
    rw [given?_append_rest hRest _ (by decide), given?_inFull, if_neg (by decide),
      if_neg (by decide)]
  have joins : ∀ key ∈ joinKeys,
      given? (t.inShort ++ rest) key = given? (t.inFull ++ rest) key := by
    intro key hKey
    have reserved : key ∈ entryKeys := List.mem_of_mem_drop (i := 2) hKey
    have unnamed : key ≠ "name" ∧ key ≠ "as" := by
      constructor <;> rintro rfl <;> exact absurd hKey (by decide)
    have other : key ≠ t.name := fun same ↦ free.2 (same ▸ reserved)
    rw [given?_append, given?_append, given?_inShort, given?_inFull, if_neg other,
      if_neg unnamed.1, if_neg unnamed.2]
  constructor
  · exact .congr notRaw notRaw' (fun t' h ↦ short.eq h ▸ full) joins
  · exact .congr notRaw' notRaw (fun t' h ↦ full.eq h ▸ short) fun key hKey ↦ (joins key hKey).symm

end Names

end Json

/-! ## Reading entries -/

section Reading

open Json

variable {members sorted : List (String × Json)}

private theorem Json.canonical_eq_text_iff {d : Json} {s : String} :
    d.canonical = .text s ↔ d = .text s := by
  refine ⟨eq_text_of_canonical, ?_⟩
  rintro rfl
  rfl

theorem Json.map_canonical_eq_map_text_iff {o : Option Json} {s : Option String} :
    o.map canonical = s.map .text ↔ o = s.map .text := by
  cases o with
  | none => simp
  | some d =>
    cases s with
    | none => simp
    | some s => simp [canonical_eq_text_iff]

private theorem Json.map_canonical_eq_some_elim_iff {o : Option Json} {s : Option String} :
    o.map canonical = some (s.elim .null .text) ↔ o = some (s.elim .null .text) := by
  cases s with
  | none =>
    cases o with
    | none => simp
    | some d => simpa using ⟨eq_null_of_canonical, by rintro rfl; rfl⟩
  | some s => exact map_canonical_eq_map_text_iff (s := some s)

theorem Json.Sorts.lookup_canonical (h : Sorts members sorted) (key : String) :
    (sorted.map fun m ↦ (m.1, m.2.canonical)).lookup key = (given? members key).map canonical := by
  rw [(h.map canonical).lookup_eq, ← given?, given?_map]

theorem TableName.ofMembers_eq_ok_iff {t : TableName} : ofMembers members = .ok t ↔
    (members.filter (fun m ↦ !entryKeys.contains m.1) = [] ∧
      members.lookup "name" = some (.text t.name) ∧
      members.lookup "as" = t.aliasName.map .text) ∨
    (members.filter (fun m ↦ !entryKeys.contains m.1) = [(t.name, t.aliasName.elim .null .text)] ∧
      members.lookup "name" = none ∧ members.lookup "as" = none) := by
  obtain ⟨name, aliasName⟩ := t
  have aliasRead {o : Option Json} : optionalOfJson (requireText "as") o = .ok aliasName ↔
      o = aliasName.map .text := by
    cases o with
    | none => cases aliasName <;> simp [optionalOfJson]
    | some d =>
      rw [optionalOfJson, map_eq_ok_iff]
      simp only [requireText_eq_ok_iff]
      cases aliasName <;> simp
  rw [ofMembers]
  dsimp only
  generalize members.filter _ = others
  generalize members.lookup "name" = named
  generalize members.lookup "as" = aliased
  split
  · rw [bind_eq_ok_iff]
    simp only [requireText_eq_ok_iff, bind_pure_eq_ok_iff]
    simp [aliasRead]
  · next key d =>
    cases aliased with
    | some => exact iff_of_false nofun (by simp)
    | none =>
      rw [if_neg (by decide)]
      split
      · cases aliasName <;> simp
      · next notNull =>
        rw [bind_pure_eq_ok_iff]
        simp only [requireText_eq_ok_iff]
        cases aliasName with
        | none => simpa using fun _ ↦ notNull
        | some => simp [and_comm]
  · next noFull noShort =>
    refine iff_of_false nofun ?_
    rintro (⟨rfl, rfl, -⟩ | ⟨rfl, rfl, -⟩)
    · exact noFull _ rfl rfl
    · exact noShort _ _ rfl rfl

theorem TableName.ofMembers_canonical_eq_ok_iff (h : Sorts members sorted) {t : TableName} :
    ofMembers (sorted.map fun m ↦ (m.1, m.2.canonical)) = .ok t ↔ NamesTable members t := by
  have unnamed (key : String) : (!entryKeys.contains key) = true ↔ key ∉ entryKeys := by simp
  have names (o : Option Json) : o.map canonical = some (.text t.name) ↔ o = some (.text t.name) :=
    map_canonical_eq_map_text_iff (s := some t.name)
  rw [ofMembers_eq_ok_iff, (h.map canonical).filter_eq_nil_iff fun key ↦ !entryKeys.contains key,
    (h.map canonical).filter_eq_singleton_iff fun key ↦ !entryKeys.contains key]
  simp only [h.lookup_canonical, given?_map, unnamed, names, Option.map_eq_none_iff,
    map_canonical_eq_map_text_iff, map_canonical_eq_some_elim_iff]
  constructor
  · rintro (⟨only, hName, hAlias⟩ | ⟨⟨hKey, hAlias, only⟩, noName, noAlias⟩)
    · exact .inFull only hName hAlias
    · exact .inShort hKey only hAlias noName noAlias
  · intro h
    cases h with
    | inFull only hName hAlias => exact .inl ⟨only, hName, hAlias⟩
    | inShort hKey only hAlias noName noAlias =>
      exact .inr ⟨⟨hKey, hAlias, only⟩, noName, noAlias⟩

theorem JoinMatch.ofMembers?_canonical_eq_ok_iff (h : Sorts members sorted) {table : String}
    {rows : Option JoinMatch} :
    ofMembers? table (sorted.map fun m ↦ (m.1, m.2.canonical)) = .ok rows ↔
      GivesMatch members rows := by
  rw [ofMembers?, h.lookup_canonical, h.lookup_canonical]
  constructor
  · intro read
    split at read
    · next hOn hUsing =>
      obtain ⟨d, hCondition, rfl⟩ := Option.map_eq_some_iff.mp hOn
      obtain ⟨c, hc, rfl⟩ := bind_pure_eq_ok_iff.mp read
      exact .onCondition hCondition (Option.map_eq_none_iff.mp hUsing)
        ((Condition.ofJson_canonical_eq_ok_iff d c).mp hc)
    · next hOn hUsing =>
      obtain ⟨d, hColumn, rfl⟩ := Option.map_eq_some_iff.mp hUsing
      obtain ⟨column, hText, rfl⟩ := bind_pure_eq_ok_iff.mp read
      obtain rfl := eq_text_of_canonical (requireText_eq_ok_iff.mp hText)
      exact .shared (Option.map_eq_none_iff.mp hOn) hColumn
    · next hOn hUsing =>
      exact Except.ok.inj read ▸
        .alone (Option.map_eq_none_iff.mp hOn) (Option.map_eq_none_iff.mp hUsing)
    · exact nomatch read
  · intro h
    cases h with
    | alone noCondition noColumn =>
      rw [noCondition, noColumn]
      rfl
    | onCondition hCondition noColumn h =>
      rw [hCondition, noColumn]
      exact bind_pure_eq_ok_iff.mpr ⟨_, (Condition.ofJson_canonical_eq_ok_iff _ _).mpr h, rfl⟩
    | shared noCondition hColumn =>
      rw [noCondition, hColumn]
      rfl

theorem JoinKind.ofJson_canonical_eq_ok_iff {kind : JoinKind} :
    ofJson ((given? members "join").map canonical) = .ok kind ↔ NamesKind members kind := by
  constructor
  · intro read
    cases hKind : given? members "join" with
    | none =>
      rw [hKind] at read
      exact Except.ok.inj read ▸ .unnamed hKind
    | some d =>
      rw [hKind] at read
      obtain ⟨keyword, hKeyword, named⟩ := exists_of_bind_eq_ok read
      obtain rfl := eq_text_of_canonical (requireText_eq_ok_iff.mp hKeyword)
      split at named
      · next name => exact Except.ok.inj named ▸ .inner hKind name
      · next name => exact Except.ok.inj named ▸ .left hKind name
      · exact nomatch named
  · intro h
    cases h with
    | unnamed h =>
      rw [h]
      rfl
    | inner h name | left h name =>
      rw [h]
      exact bind_eq_ok_iff.mpr ⟨_, rfl, by rw [name]; rfl⟩

namespace FromEntry

theorem ofMembers_canonical_eq_ok_iff (h : Sorts members sorted) {e : FromEntry} :
    ofMembers (sorted.map fun m ↦ (m.1, m.2.canonical)) = .ok e ↔
      DenotesEntry (.object members) e := by
  have named {t : TableName} := TableName.ofMembers_canonical_eq_ok_iff h (t := t)
  have matched {table : String} {rows : Option JoinMatch} :
      JoinMatch.ofMembers? table (sorted.map fun m ↦ (m.1, m.2.canonical)) = .ok rows ↔
        GivesMatch members rows := JoinMatch.ofMembers?_canonical_eq_ok_iff h
  rw [ofMembers, h.lookup_canonical, h.lookup_canonical, List.length_map]
  constructor
  · intro read
    split at read
    · next sql hRaw =>
      split at read
      · next single =>
        obtain ⟨⟨key, d⟩, rfl⟩ := List.length_eq_one_iff.mp single
        obtain ⟨given, others⟩ := sorts_singleton_iff.mp h
        obtain ⟨_, raw, isText⟩ := Option.map_eq_some_iff.mp hRaw
        obtain rfl : key = "raw" := by
          by_contra other
          exact nomatch raw.symm.trans (others "raw" (Ne.symm other))
        obtain rfl := Option.some.inj (given.symm.trans raw)
        obtain rfl := eq_text_of_canonical isText
        exact Except.ok.inj read ▸ .raw h
      · exact nomatch read
    · exact nomatch read
    · next hRaw =>
      have notRaw := Option.map_eq_none_iff.mp hRaw
      obtain ⟨t, ht, read⟩ := exists_of_bind_eq_ok read
      obtain ⟨rows, hRows, read⟩ := exists_of_bind_eq_ok read
      obtain ⟨kind, hKind, read⟩ := exists_of_bind_eq_ok read
      have hKind := JoinKind.ofJson_canonical_eq_ok_iff.mp hKind
      split at read
      · exact Except.ok.inj read ▸ .join notRaw (named.mp ht) (matched.mp hRows) hKind
      · split at read
        · exact nomatch read
        · next noKind =>
          rw [Option.isSome_map, Option.not_isSome_iff_eq_none] at noKind
          exact Except.ok.inj read ▸ .table notRaw (named.mp ht) (matched.mp hRows) noKind
  · intro hd
    cases hd with
    | raw hRaw =>
      rw [h.eq hRaw, (sorts_singleton_iff.mp hRaw).1]
      rfl
    | table notRaw ht alone noKind =>
      rw [notRaw, noKind]
      exact bind_eq_ok_iff.mpr ⟨_, named.mpr ht, bind_eq_ok_iff.mpr ⟨_, matched.mpr alone, rfl⟩⟩
    | join notRaw ht hRows hKind =>
      rw [notRaw]
      exact bind_eq_ok_iff.mpr ⟨_, named.mpr ht, bind_eq_ok_iff.mpr ⟨_, matched.mpr hRows,
        bind_eq_ok_iff.mpr ⟨_, JoinKind.ofJson_canonical_eq_ok_iff.mpr hKind, rfl⟩⟩⟩

/-- A document in canonical form is read as the entry that it stands for. -/
theorem ofJson_canonical_eq_ok_iff {d : Json} {e : FromEntry} :
    ofJson d.canonical = .ok e ↔ d.DenotesEntry e := by
  cases d with
  | null | bool | integer | double | array => exact iff_of_false nofun nofun
  | text s =>
    constructor
    · intro read
      exact Except.ok.inj read ▸ .name s
    · intro h
      cases h
      rfl
  | object members =>
    have sorts := sorts_sortMembers members
    rw [sorts.canonical_object]
    exact ofMembers_canonical_eq_ok_iff sorts

end FromEntry

end Reading

/-! ## Refusals -/

/-- The errors about entries of a chain, those about the conditions of joins among them. -/
def DescriptionError.isOfEntry : DescriptionError → Bool
  | entryKind _ | rawEntry | entryName _ | twoMatches _ | noMatch _ | joinKind _ => true
  | e => e.isOfCondition

theorem DescriptionError.isOfEntry_of_isOfCondition {e : DescriptionError} (h : e.isOfCondition) :
    e.isOfEntry := by
  cases e <;> first | exact h | rfl

private theorem requireText_failsWith_isOfEntry (what : String) (d : Json) :
    FailsWith (·.isOfEntry) (requireText what d) :=
  fun e h ↦ e.isOfEntry_of_isOfCondition (requireText_failsWith what d e h)

theorem TableName.ofMembers_failsWith (members : List (String × Json)) :
    FailsWith (·.isOfEntry) (ofMembers members) := by
  rw [ofMembers.eq_def]
  dsimp only
  split
  · refine (requireText_failsWith_isOfEntry _ _).bind fun _ ↦ FailsWith.bind ?_ fun _ ↦ .ok _
    cases members.lookup "as" with
    | none => exact .ok _
    | some d => exact (requireText_failsWith_isOfEntry _ _).map
  · split
    · exact .error rfl
    · split
      · exact .ok _
      · exact (requireText_failsWith_isOfEntry _ _).bind fun _ ↦ .ok _
  · exact .error rfl

theorem JoinMatch.ofMembers?_failsWith (table : String) (members : List (String × Json)) :
    FailsWith (·.isOfEntry) (ofMembers? table members) := by
  rw [ofMembers?.eq_def]
  split
  · refine FailsWith.bind ?_ fun _ ↦ .ok _
    exact fun e h ↦ e.isOfEntry_of_isOfCondition (Condition.ofJson_failsWith _ e h)
  · exact (requireText_failsWith_isOfEntry _ _).bind fun _ ↦ .ok _
  · exact .ok _
  · exact .error rfl

theorem JoinKind.ofJson_failsWith (o : Option Json) : FailsWith (·.isOfEntry) (ofJson o) := by
  rw [ofJson.eq_def]
  split
  · exact .ok _
  · refine (requireText_failsWith_isOfEntry _ _).bind fun _ ↦ ?_
    split
    · exact .ok _
    · exact .ok _
    · exact .error rfl

namespace FromEntry

theorem ofJson_failsWith (d : Json) : FailsWith (·.isOfEntry) (ofJson d) := by
  rw [ofJson.eq_def]
  split
  · exact .ok _
  · rw [ofMembers.eq_def]
    split
    · split
      · exact .ok _
      · exact .error rfl
    · exact .error rfl
    · refine (TableName.ofMembers_failsWith _).bind fun _ ↦
        (JoinMatch.ofMembers?_failsWith _ _).bind fun _ ↦
          (JoinKind.ofJson_failsWith _).bind fun _ ↦ ?_
      split
      · exact .ok _
      · split
        · exact .error rfl
        · exact .ok _
  · exact .error rfl

/-- **Entries of chains in descriptions.** A document is read as an entry if and only if it is one,
and then as the entry that it stands for. Otherwise the error is about entries. An object is read as
a join if and only if it gives a condition or a shared column, and it makes no difference whether it
names its table in full or in short. -/
theorem ofJson_canonical_entry (d : Json) :
    ((∃ e, ofJson d.canonical = .ok e) ↔ d.IsEntry) ∧
      (∀ e, ofJson d.canonical = .ok e ↔ d.DenotesEntry e) ∧
      (∀ e, ofJson d.canonical = .error e → e.isOfEntry ∧
        e.message = "invalid statement description: " ++ e.cause) ∧
      (∀ members e, d = .object members → ofJson d.canonical = .ok e →
        ((∃ j, e = .join j) ↔
          (Json.given? members "on").isSome ∨ (Json.given? members "using").isSome)) ∧
      ∀ (t : TableName) (rest : List (String × Json)), t.name ∉ "raw" :: entryKeys →
        (∀ m ∈ rest, m.1 ∈ joinKeys) → d = .object (t.inShort ++ rest) →
          ∀ e, ofJson d.canonical = .ok e ↔
            ofJson (Json.object (t.inFull ++ rest)).canonical = .ok e := by
  refine ⟨?_, fun e ↦ ofJson_canonical_eq_ok_iff, ?_, ?_, ?_⟩
  · simp only [ofJson_canonical_eq_ok_iff]
    exact Json.exists_denotesEntry_iff
  · intro e h
    exact ⟨ofJson_failsWith d.canonical e h, rfl⟩
  · rintro members e rfl h
    exact (ofJson_canonical_eq_ok_iff.mp h).isJoin_iff
  · rintro t rest free hRest rfl e
    rw [ofJson_canonical_eq_ok_iff, ofJson_canonical_eq_ok_iff]
    exact Json.denotesEntry_inShort_iff free hRest

/-- A left join by a shared column, its table named in short and in full. -/
theorem ofJson_canonical_entry_join :
    let t : TableName := ⟨"orders", some "o"⟩
    let rest : List (String × Json) := [("join", .text "LEFT"), ("using", .text "id")]
    let e : FromEntry := .join ⟨t, .left, .shared "id"⟩
    t.name ∉ "raw" :: entryKeys ∧ (∀ m ∈ rest, m.1 ∈ joinKeys) ∧
      (Json.object (t.inShort ++ rest)).IsEntry ∧
      ofJson (Json.object (t.inShort ++ rest)).canonical = .ok e ∧
      ofJson (Json.object (t.inFull ++ rest)).canonical = .ok e := by
  intro t rest e
  obtain ⟨accepted, denoted, -, -, named⟩ :=
    ofJson_canonical_entry (.object (t.inShort ++ rest))
  have free : t.name ∉ "raw" :: entryKeys := by decide
  have hRest : ∀ m ∈ rest, m.1 ∈ joinKeys := by simp [rest, joinKeys]
  have read : ofJson (Json.object (t.inShort ++ rest)).canonical = .ok e :=
    (denoted e).mpr (.join rfl (Json.namesTable_inShort (t := t) (by decide) hRest)
      (.shared rfl rfl) (.left rfl rfl))
  exact ⟨free, hRest, accepted.mp ⟨e, read⟩, read, (named t rest free hRest rfl e).mp read⟩

end FromEntry

end PreparedSql
