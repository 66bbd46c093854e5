import Mathlib.Data.List.Nodup
import RelationAuth.Table

/-!
# Laws of tables

A table is known by what it finds under each key: its rows are the pairs of a key and the value
found there, and each operation is described by what is found afterwards.
-/

namespace RelationAuth.Table

variable {κ α : Type} [DecidableEq κ]

theorem lookup_cons_of_ne {rows : List (κ × α)} {key first : κ} {held : α}
    (differs : key ≠ first) : ((first, held) :: rows).lookup key = rows.lookup key := by
  have unequal : (key == first) = false := by simpa using differs
  simp only [List.lookup_cons, unequal]

/-- Among rows without a repeated key, the row of a key is the one that a look-up finds. -/
theorem mem_iff_lookup_eq {rows : List (κ × α)} (nodup : (rows.map Prod.fst).Nodup) {key : κ}
    {value : α} : (key, value) ∈ rows ↔ rows.lookup key = some value := by
  induction rows with
  | nil => simp
  | cons row rest ih =>
    rcases row with ⟨first, held⟩
    simp only [List.map_cons, List.nodup_cons] at nodup
    by_cases same : key = first
    · subst same
      have absent : (key, value) ∉ rest := by
        intro mem
        exact nodup.1 (List.mem_map_of_mem (f := Prod.fst) mem)
      simp [absent, eq_comm]
    · simp [lookup_cons_of_ne same, same, ih nodup.2]

/-- A row stands in a table exactly if looking its key up finds its value. -/
theorem mem_rows_iff {table : Table κ α} {key : κ} {value : α} :
    (key, value) ∈ table.rows ↔ table.find? key = some value :=
  mem_iff_lookup_eq table.nodup_keys

theorem mem_values_iff {table : Table κ α} {value : α} :
    value ∈ table.values ↔ ∃ key, table.find? key = some value := by
  simp only [values, List.mem_map, Prod.exists, exists_eq_right, mem_rows_iff]

@[simp]
theorem find?_empty {key : κ} : (Table.empty : Table κ α).find? key = none :=
  rfl

theorem find?_insert {table : Table κ α} {key other : κ} {value : α} :
    (table.insert key value).find? other =
      if other = key then some value else table.find? other := by
  have rows : ∀ rows : List (κ × α), (withRow key value rows).lookup other =
      if other = key then some value else rows.lookup other := by
    intro rows
    induction rows with
    | nil => by_cases same : other = key <;> simp [withRow, same]
    | cons row rest ih =>
      rcases row with ⟨first, held⟩
      by_cases replaced : first = key
      · subst replaced
        by_cases same : other = first
        · simp [withRow, same]
        · simp [withRow, lookup_cons_of_ne same, same]
      · by_cases same : other = first
        · subst same
          simp [withRow, replaced]
        · simp [withRow, replaced, lookup_cons_of_ne same, ih]
  exact rows table.rows

@[simp]
theorem find?_insert_self {table : Table κ α} {key : κ} {value : α} :
    (table.insert key value).find? key = some value := by
  simp [find?_insert]

theorem find?_filter {table : Table κ α} {test : κ → α → Bool} {key : κ} {value : α} :
    (table.filter test).find? key = some value ↔
      table.find? key = some value ∧ test key value := by
  rw [← mem_rows_iff, ← mem_rows_iff]
  simp [filter]

theorem find?_erase {table : Table κ α} {key other : κ} :
    (table.erase key).find? other = if other = key then none else table.find? other := by
  apply Option.ext
  intro value
  have rows : (other, value) ∈ (table.erase key).rows ↔
      (other, value) ∈ table.rows ∧ other ≠ key := by
    simp [erase, withoutKey]
  rw [mem_rows_iff, mem_rows_iff] at rows
  rw [rows]
  by_cases same : other = key <;> simp [same]

/-- A value put under a free key comes in as the last row. -/
theorem withRow_of_free {rows : List (κ × α)} {key : κ} {value : α}
    (free : rows.lookup key = none) : withRow key value rows = rows ++ [(key, value)] := by
  induction rows with
  | nil => rfl
  | cons row rest ih =>
    rcases row with ⟨first, held⟩
    by_cases same : key = first
    · simp [same] at free
    · rw [lookup_cons_of_ne same] at free
      rw [withRow, if_neg (Ne.symm same), ih free, List.cons_append]

/-- Erasing a key right after a value was put under it brings back the table in which it was
free. -/
theorem erase_insert {table : Table κ α} {key : κ} {value : α} (free : table.find? key = none) :
    (table.insert key value).erase key = table := by
  have absent : ∀ row ∈ table.rows, row.1 ≠ key := by
    rintro ⟨other, held⟩ mem rfl
    rw [mem_rows_iff, free] at mem
    cases mem
  have kept : table.rows.filter (fun row => row.1 ≠ key) = table.rows := by
    apply List.filter_eq_self.mpr
    intro row mem
    simpa using absent row mem
  rcases table with ⟨rows, nodup⟩
  simp only [insert, erase, withoutKey, mk.injEq]
  rw [withRow_of_free free, List.filter_append, kept]
  simp

theorem filter_eq_self {table : Table κ α} {test : κ → α → Bool}
    (passes : ∀ key value, table.find? key = some value → test key value) :
    table.filter test = table := by
  have kept : table.rows.filter (fun row => test row.1 row.2) = table.rows := by
    apply List.filter_eq_self.mpr
    rintro ⟨key, value⟩ mem
    exact passes key value (mem_rows_iff.mp mem)
  rcases table with ⟨rows, nodup⟩
  simp only [filter, mk.injEq]
  exact kept

end RelationAuth.Table
