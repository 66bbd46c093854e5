/-!
# Tables

A table holds at most one value under each key.  Its rows stand in the order in which their keys
first came in, but no law of the library depends on that order: a table is known by what it finds
under each key.
-/

namespace RelationAuth

/-- A finite map with its rows in a list. -/
structure Table (κ α : Type) where
  /-- The keys with their values. -/
  rows : List (κ × α)
  /-- No key has two rows. -/
  nodup_keys : (rows.map Prod.fst).Nodup

namespace Table

variable {κ α : Type}

/-- The table without rows. -/
def empty : Table κ α :=
  ⟨[], List.nodup_nil⟩

instance : Inhabited (Table κ α) :=
  ⟨empty⟩

/-- The keys of a table, in the order of its rows. -/
def keys (table : Table κ α) : List κ :=
  table.rows.map Prod.fst

/-- The values of a table, in the order of its rows. -/
def values (table : Table κ α) : List α :=
  table.rows.map Prod.snd

/-- The number of rows. -/
def size (table : Table κ α) : Nat :=
  table.rows.length

/-- The rows of a list whose keys and values satisfy a test have no key twice if the list has none
twice. -/
theorem nodup_keys_filter {rows : List (κ × α)} (test : κ × α → Bool)
    (nodup : (rows.map Prod.fst).Nodup) : ((rows.filter test).map Prod.fst).Nodup :=
  nodup.sublist (List.filter_sublist.map Prod.fst)

/-- The rows that satisfy a test. -/
def filter (test : κ → α → Bool) (table : Table κ α) : Table κ α :=
  ⟨table.rows.filter fun row => test row.1 row.2, nodup_keys_filter _ table.nodup_keys⟩

variable [DecidableEq κ]

/-- The value under a key, if there is one. -/
def find? (table : Table κ α) (key : κ) : Option α :=
  table.rows.lookup key

/-- Whether a table has a key. -/
def contains (table : Table κ α) (key : κ) : Bool :=
  (table.find? key).isSome

/-- Rows without those of a key. -/
def withoutKey (key : κ) (rows : List (κ × α)) : List (κ × α) :=
  rows.filter fun row => row.1 ≠ key

/-- The rows of a list with a value put under a key: in the place of the value held before, or at
the end. -/
def withRow (key : κ) (value : α) : List (κ × α) → List (κ × α)
  | [] => [(key, value)]
  | (other, held) :: rest =>
    if other = key then (key, value) :: rest else (other, held) :: withRow key value rest

/-- The keys after a value is put under a key. -/
theorem mem_keys_withRow {key other : κ} {value : α} {rows : List (κ × α)} :
    other ∈ (withRow key value rows).map Prod.fst ↔ other = key ∨ other ∈ rows.map Prod.fst := by
  induction rows with
  | nil => simp [withRow]
  | cons row rest ih =>
    obtain ⟨first, held⟩ := row
    by_cases same : first = key
    · simp [withRow, same]
    · simp only [withRow, same, if_false, List.map_cons, List.mem_cons, ih]
      exact or_left_comm

/-- Putting a value under a key leaves no key with two rows. -/
theorem nodup_keys_withRow {key : κ} {value : α} {rows : List (κ × α)}
    (nodup : (rows.map Prod.fst).Nodup) : ((withRow key value rows).map Prod.fst).Nodup := by
  induction rows with
  | nil => simp [withRow]
  | cons row rest ih =>
    obtain ⟨first, held⟩ := row
    simp only [List.map_cons, List.nodup_cons] at nodup
    by_cases same : first = key
    · subst same
      simpa [withRow] using nodup
    · simp only [withRow, same, if_false, List.map_cons, List.nodup_cons, mem_keys_withRow]
      exact ⟨by simpa using nodup.1, ih nodup.2⟩

/-- A table with a value under a key, in its old place if the key has one. -/
def insert (key : κ) (value : α) (table : Table κ α) : Table κ α :=
  ⟨withRow key value table.rows, nodup_keys_withRow table.nodup_keys⟩

/-- A table without a key. -/
def erase (key : κ) (table : Table κ α) : Table κ α :=
  ⟨withoutKey key table.rows, nodup_keys_filter _ table.nodup_keys⟩

end Table

end RelationAuth
