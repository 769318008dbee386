import Mathlib.Data.List.Nodup

namespace MeshTalk.Library

/-! # Relational tables with a primary key

A table is its list of rows, in insertion order, with the key constraint as a
field.  The operations are the statements a store issues: conditional inserts,
deletes and updates selected by a predicate on the row.
-/

structure Table (ρ : Type u) {κ : Type v} (key : ρ → κ) where
  rows : List ρ
  unique : (rows.map key).Nodup

namespace Table

variable {ρ : Type u} {κ : Type v} {key : ρ → κ} {table : Table ρ key} {row other : ρ}

def empty : Table ρ key := ⟨[], List.nodup_nil⟩

instance : EmptyCollection (Table ρ key) := ⟨empty⟩
instance : Inhabited (Table ρ key) := ⟨empty⟩

/-- `DELETE FROM table WHERE doomed`. -/
def deleteWhere (table : Table ρ key) (doomed : ρ → Bool) : Table ρ key :=
  ⟨table.rows.filter fun row => !doomed row, table.unique.sublist (List.filter_sublist.map key)⟩

/-- `UPDATE table SET change WHERE chosen`, for a change that keeps the key. -/
def updateWhere (table : Table ρ key) (chosen : ρ → Bool) (change : ρ → ρ)
    (keeps : ∀ row, key (change row) = key row) : Table ρ key :=
  ⟨table.rows.map fun row => if chosen row then change row else row, by
    have same : (key ∘ fun row => if chosen row then change row else row) = key := by
      funext row
      simp only [Function.comp_apply]
      split
      · exact keeps row
      · rfl
    rw [List.map_map, same]
    exact table.unique⟩

theorem eq_of_rows {first second : Table ρ key} (same : first.rows = second.rows) : first = second := by
  cases first
  cases same
  rfl

def count (table : Table ρ key) (chosen : ρ → Bool) : Nat := (table.rows.filter chosen).length

@[simp, grind =] theorem mem_deleteWhere {doomed : ρ → Bool} :
    row ∈ (table.deleteWhere doomed).rows ↔ row ∈ table.rows ∧ doomed row = false := by
  simp [deleteWhere]

theorem mem_updateWhere {chosen : ρ → Bool} {change : ρ → ρ}
    {keeps : ∀ row, key (change row) = key row} :
    row ∈ (table.updateWhere chosen change keeps).rows ↔
      ∃ old ∈ table.rows, row = if chosen old then change old else old := by
  simp only [updateWhere, List.mem_map]
  exact exists_congr fun old => and_congr_right fun _ => eq_comm

theorem filter_updateWhere {chosen keep : ρ → Bool} {change : ρ → ρ} {keeps : ∀ row, key (change row) = key row}
    (apart : ∀ row, chosen row = true → keep row = false ∧ keep (change row) = false) :
    (table.updateWhere chosen change keeps).rows.filter keep = table.rows.filter keep := by
  change (table.rows.map fun row => if chosen row then change row else row).filter keep = _
  induction table.rows with
  | nil => rfl
  | cons row rest ih =>
      rw [List.map_cons, List.filter_cons, List.filter_cons, ih]
      cases touched : chosen row with
      | false => simp
      | true => simp [apart row touched]

theorem count_deleteWhere {counted doomed : ρ → Bool} (spared : ∀ row ∈ table.rows, counted row = true → doomed row = false) :
    (table.deleteWhere doomed).count counted = table.count counted := by
  rw [count, deleteWhere, List.filter_filter]
  refine congrArg List.length (List.filter_congr fun row present => ?_)
  cases held : counted row with
  | false => rfl
  | true => rw [spared row present held]; rfl

theorem length_filter_update {rows : List ρ} {counted chosen : ρ → Bool} {change : ρ → ρ} {old : ρ}
    (unique : (rows.map key).Nodup) (present : old ∈ rows)
    (only : ∀ row ∈ rows, chosen row = true ↔ key row = key old) :
    ((rows.map fun row => if chosen row then change row else row).filter counted).length + (if counted old then 1 else 0) =
      (rows.filter counted).length + if counted (change old) then 1 else 0 := by
  induction rows with
  | nil => cases present
  | cons first rest ih =>
      obtain ⟨fresh, apart⟩ := List.nodup_cons.mp unique
      rw [List.map_cons, List.filter_cons, List.filter_cons]
      rcases List.mem_cons.mp present with rfl | later
      · have others : (rest.map fun row => if chosen row then change row else row) = rest := by
          refine (List.map_congr_left fun row member => if_neg fun same => fresh ?_).trans (List.map_id rest)
          rw [← (only row (List.mem_cons_of_mem _ member)).mp same]
          exact List.mem_map_of_mem member
        rw [others, if_pos ((only old List.mem_cons_self).mpr rfl)]
        cases counted old <;> cases counted (change old) <;> simp
      · have differs : ¬ chosen first = true := fun same => fresh (by
          rw [(only first List.mem_cons_self).mp same]
          exact List.mem_map_of_mem later)
        have tail := ih apart later fun row member => only row (List.mem_cons_of_mem _ member)
        rw [if_neg differs]
        cases counted first with
        | true =>
            rw [if_pos rfl, if_pos rfl, List.length_cons, List.length_cons]
            omega
        | false =>
            rw [if_neg Bool.false_ne_true, if_neg Bool.false_ne_true]
            exact tail

/-- An update of one row changes a count by that row alone. -/
theorem count_updateWhere {counted chosen : ρ → Bool} {change : ρ → ρ} {keeps : ∀ row, key (change row) = key row}
    (found : row ∈ table.rows) (only : ∀ other ∈ table.rows, chosen other = true ↔ key other = key row) :
    (table.updateWhere chosen change keeps).count counted + (if counted row then 1 else 0) =
      table.count counted + if counted (change row) then 1 else 0 :=
  length_filter_update table.unique found only

variable [DecidableEq κ]

def holds (table : Table ρ key) (wanted : κ) : Bool := decide (wanted ∈ table.rows.map key)

/-- `SELECT * FROM table WHERE key = wanted`. -/
def find? (table : Table ρ key) (wanted : κ) : Option ρ :=
  table.rows.find? fun row => decide (key row = wanted)

/-- `INSERT OR IGNORE`: a row whose key is taken leaves the table unchanged. -/
def insertOrIgnore (table : Table ρ key) (row : ρ) : Table ρ key :=
  if taken : key row ∈ table.rows.map key then table
  else ⟨table.rows ++ [row], by
    rw [List.map_append]
    refine List.nodup_append.mpr ⟨table.unique, by simp, ?_⟩
    intro first firstMember second secondMember same
    subst same
    simp only [List.map_cons, List.map_nil, List.mem_singleton] at secondMember
    exact taken (secondMember ▸ firstMember)⟩

/-- `INSERT OR REPLACE`: the new row takes the place of one with the same key
and is the most recently inserted row. -/
def insertOrReplace (table : Table ρ key) (row : ρ) : Table ρ key :=
  (table.deleteWhere fun other => decide (key other = key row)).insertOrIgnore row

@[grind =] theorem mem_insertOrIgnore :
    row ∈ (table.insertOrIgnore other).rows ↔
      row ∈ table.rows ∨ (row = other ∧ key other ∉ table.rows.map key) := by
  unfold insertOrIgnore
  split
  · rename_i taken
    constructor
    · exact .inl
    · rintro (member | ⟨-, fresh⟩)
      · exact member
      · exact absurd taken fresh
  · rename_i fresh
    simp [fresh]

theorem holds_iff {wanted : κ} : table.holds wanted = true ↔ ∃ row ∈ table.rows, key row = wanted := by
  simp [holds]

theorem holds_insertOrIgnore {wanted : κ} :
    (table.insertOrIgnore other).holds wanted = true ↔ table.holds wanted = true ∨ wanted = key other := by
  simp only [holds_iff, mem_insertOrIgnore]
  constructor
  · rintro ⟨stored, member | ⟨rfl, -⟩, rfl⟩
    · exact .inl ⟨stored, member, rfl⟩
    · exact .inr rfl
  · rintro (⟨stored, member, rfl⟩ | rfl)
    · exact ⟨stored, .inl member, rfl⟩
    · by_cases taken : key other ∈ table.rows.map key
      · obtain ⟨stored, member, same⟩ := List.mem_map.mp taken
        exact ⟨stored, .inl member, same⟩
      · exact ⟨other, .inr ⟨rfl, taken⟩, rfl⟩

theorem mem_insertOrReplace :
    row ∈ (table.insertOrReplace other).rows ↔
      (row ∈ table.rows ∧ key row ≠ key other) ∨ row = other := by
  have fresh : key other ∉ (table.deleteWhere fun row => decide (key row = key other)).rows.map key := by
    simp
  rw [insertOrReplace, mem_insertOrIgnore]
  simp [fresh]

theorem find?_some_iff {wanted : κ} :
    table.find? wanted = some row ↔ row ∈ table.rows ∧ key row = wanted := by
  constructor
  · intro found
    exact ⟨List.mem_of_find?_eq_some found, by simpa using List.find?_some found⟩
  · rintro ⟨member, rfl⟩
    cases found : table.find? (key row) with
    | none => simpa using List.find?_eq_none.mp found row member
    | some first =>
        have firstMember := List.mem_of_find?_eq_some found
        have sameKey : key first = key row := by simpa using List.find?_some found
        exact congrArg some (List.inj_on_of_nodup_map table.unique firstMember member sameKey)

theorem find?_none_iff {wanted : κ} :
    table.find? wanted = none ↔ ∀ row ∈ table.rows, key row ≠ wanted := by
  simp [find?, List.find?_eq_none]

theorem find?_updateWhere {chosen : ρ → Bool} {change : ρ → ρ} {keeps : ∀ row, key (change row) = key row} {wanted : κ} :
    (table.updateWhere chosen change keeps).find? wanted =
      (table.find? wanted).map fun row => if chosen row then change row else row := by
  cases found : table.find? wanted with
  | none =>
      refine find?_none_iff.mpr fun row member same => ?_
      obtain ⟨old, present, rfl⟩ := mem_updateWhere.mp member
      refine find?_none_iff.mp found old present ?_
      split at same
      · exact (keeps old).symm.trans same
      · exact same
  | some old =>
      obtain ⟨present, same⟩ := find?_some_iff.mp found
      refine find?_some_iff.mpr ⟨mem_updateWhere.mpr ⟨old, present, rfl⟩, ?_⟩
      change key (if chosen old then change old else old) = wanted
      split
      · exact (keeps old).trans same
      · exact same

theorem find?_deleteWhere {doomed : ρ → Bool} {wanted : κ} :
    (table.deleteWhere doomed).find? wanted = (table.find? wanted).filter fun row => !doomed row := by
  cases found : table.find? wanted with
  | none =>
      exact find?_none_iff.mpr fun row member => find?_none_iff.mp found row (mem_deleteWhere.mp member).1
  | some row =>
      obtain ⟨present, known⟩ := find?_some_iff.mp found
      cases chosen : doomed row with
      | false => simpa [Option.filter, chosen] using find?_some_iff.mpr ⟨mem_deleteWhere.mpr ⟨present, chosen⟩, known⟩
      | true =>
          have gone : (table.deleteWhere doomed).find? wanted = none := by
            refine find?_none_iff.mpr fun other member same => ?_
            obtain ⟨stored, spared⟩ := mem_deleteWhere.mp member
            have located := find?_some_iff.mpr ⟨stored, same⟩
            rw [found] at located
            cases located
            rw [chosen] at spared
            cases spared
          rw [gone]
          simp [Option.filter, chosen]

theorem find?_insertOrIgnore {wanted : κ} :
    (table.insertOrIgnore other).find? wanted =
      (table.find? wanted).or (if wanted = key other then some other else none) := by
  cases found : table.find? wanted with
  | some row =>
      obtain ⟨present, known⟩ := find?_some_iff.mp found
      exact find?_some_iff.mpr ⟨mem_insertOrIgnore.mpr (.inl present), known⟩
  | none =>
      have absent := find?_none_iff.mp found
      by_cases same : wanted = key other
      · rw [Option.none_or, if_pos same]
        refine find?_some_iff.mpr ⟨mem_insertOrIgnore.mpr (.inr ⟨rfl, fun taken => ?_⟩), same.symm⟩
        obtain ⟨row, present, known⟩ := List.mem_map.mp taken
        exact absent row present (known.trans same.symm)
      · rw [Option.none_or, if_neg same]
        refine find?_none_iff.mpr fun row member known => ?_
        rcases mem_insertOrIgnore.mp member with old | ⟨rfl, -⟩
        · exact absent row old known
        · exact same known.symm

theorem filter_insertOrIgnore {keep : ρ → Bool} (apart : keep other = false) :
    (table.insertOrIgnore other).rows.filter keep = table.rows.filter keep := by
  unfold insertOrIgnore
  split
  · rfl
  · simp [apart]

theorem count_insertOrIgnore_fresh {counted : ρ → Bool} (fresh : table.find? (key row) = none) :
    (table.insertOrIgnore row).count counted = table.count counted + if counted row then 1 else 0 := by
  have absent : key row ∉ table.rows.map key := fun taken => by
    obtain ⟨other, present, same⟩ := List.mem_map.mp taken
    exact find?_none_iff.mp fresh other present same
  rw [count, insertOrIgnore, dif_neg absent, List.filter_append, List.length_append, List.filter_singleton]
  cases counted row <;> rfl

theorem find?_insertOrReplace {wanted : κ} :
    (table.insertOrReplace other).find? wanted = if wanted = key other then some other else table.find? wanted := by
  by_cases same : wanted = key other
  · rw [if_pos same]
    exact find?_some_iff.mpr ⟨mem_insertOrReplace.mpr (.inr rfl), same.symm⟩
  · rw [if_neg same]
    cases found : table.find? wanted with
    | none =>
        refine find?_none_iff.mpr fun row member known => ?_
        rcases mem_insertOrReplace.mp member with ⟨present, -⟩ | rfl
        · exact find?_none_iff.mp found row present known
        · exact same known.symm
    | some row =>
        obtain ⟨present, known⟩ := find?_some_iff.mp found
        exact find?_some_iff.mpr ⟨mem_insertOrReplace.mpr (.inl ⟨present, known ▸ same⟩), known⟩

end Table

/-- `AUTOINCREMENT`: one more than every id in use and every id ever issued. -/
def nextId (used : List Nat) (issued : Nat) : Nat := used.foldl max issued + 1

theorem le_foldl_max {used : List Nat} {issued : Nat} :
    issued ≤ used.foldl max issued ∧ ∀ id ∈ used, id ≤ used.foldl max issued := by
  induction used generalizing issued with
  | nil => simp
  | cons first rest ih =>
      obtain ⟨base, bounds⟩ := @ih (max issued first)
      refine ⟨Nat.le_trans (Nat.le_max_left _ _) base, ?_⟩
      intro id member
      rcases List.mem_cons.mp member with rfl | later
      · exact Nat.le_trans (Nat.le_max_right _ _) base
      · exact bounds id later

theorem nextId_fresh {used : List Nat} {issued : Nat} : nextId used issued ∉ used := by
  intro member
  have bound : nextId used issued ≤ used.foldl max issued := le_foldl_max.2 _ member
  simp only [nextId] at bound
  omega

theorem lt_nextId {used : List Nat} {issued id : Nat} (member : id ∈ used) : id < nextId used issued :=
  Nat.lt_succ_of_le (le_foldl_max.2 id member)

end MeshTalk.Library
