import Mathlib.Data.List.Perm.Subperm
import Mathlib.Algebra.GroupWithZero.Nat

namespace MeshTalk.Library

/-! # Insertion-ordered dictionaries

The entries are kept in insertion order and assigning to a present key keeps
its position, so iteration order is that of the modelled language.  Clients
reason through `get?`; the entry list only matters where the order is observed.
-/

structure Dict (κ : Type u) (ν : Type v) where
  entries : List (κ × ν)
  distinct : (entries.map Prod.fst).Nodup

namespace Dict

variable [DecidableEq κ] {key other : κ} {value : ν} {dict : Dict κ ν}

def lookup (key : κ) : List (κ × ν) → Option ν
  | [] => none
  | (found, value) :: rest => if found = key then some value else lookup key rest

def assign (key : κ) (value : ν) : List (κ × ν) → List (κ × ν)
  | [] => [(key, value)]
  | (found, old) :: rest =>
      if found = key then (key, value) :: rest else (found, old) :: assign key value rest

theorem mem_keys_assign {entries : List (κ × ν)} :
    other ∈ (assign key value entries).map Prod.fst ↔ other = key ∨ other ∈ entries.map Prod.fst := by
  induction entries with
  | nil => simp [assign]
  | cons entry rest ih =>
      obtain ⟨found, old⟩ := entry
      by_cases same : found = key
      · subst same; simp [assign]
      · simp only [assign, if_neg same, List.map_cons, List.mem_cons, ih]
        grind

theorem assign_distinct {entries : List (κ × ν)} (distinct : (entries.map Prod.fst).Nodup) :
    ((assign key value entries).map Prod.fst).Nodup := by
  induction entries with
  | nil => simp [assign]
  | cons entry rest ih =>
      obtain ⟨found, old⟩ := entry
      obtain ⟨absent, remaining⟩ := List.nodup_cons.mp distinct
      by_cases same : found = key
      · subst same; simpa only [assign, if_true, List.map_cons] using distinct
      · simp only [assign, if_neg same, List.map_cons]
        refine List.nodup_cons.mpr ⟨?_, ih remaining⟩
        intro member
        rcases mem_keys_assign.mp member with equal | member
        · exact same equal
        · exact absent member

def empty : Dict κ ν := ⟨[], List.nodup_nil⟩

instance : EmptyCollection (Dict κ ν) := ⟨empty⟩
instance : Inhabited (Dict κ ν) := ⟨empty⟩

def get? (dict : Dict κ ν) (key : κ) : Option ν := lookup key dict.entries

def set (dict : Dict κ ν) (key : κ) (value : ν) : Dict κ ν :=
  ⟨assign key value dict.entries, assign_distinct dict.distinct⟩

def filter (dict : Dict κ ν) (keep : κ → ν → Bool) : Dict κ ν :=
  ⟨dict.entries.filter fun entry => keep entry.1 entry.2,
    dict.distinct.sublist (List.filter_sublist.map Prod.fst)⟩

def erase (dict : Dict κ ν) (key : κ) : Dict κ ν := dict.filter fun found _ => found ≠ key

/-- An update of every value in place. -/
def mapValues (dict : Dict κ ν) (update : ν → ν) : Dict κ ν :=
  ⟨dict.entries.map fun entry => (entry.1, update entry.2), by
    simpa [List.map_map, Function.comp_def] using dict.distinct⟩

def values (dict : Dict κ ν) : List ν := dict.entries.map Prod.snd

def keys (dict : Dict κ ν) : List κ := dict.entries.map Prod.fst

def size (dict : Dict κ ν) : Nat := dict.entries.length

def contains (dict : Dict κ ν) (key : κ) : Bool := (dict.get? key).isSome

theorem lookup_assign {entries : List (κ × ν)} :
    lookup other (assign key value entries) = if other = key then some value else lookup other entries := by
  induction entries with
  | nil => grind [assign, lookup]
  | cons entry rest ih => grind [assign, lookup]

theorem lookup_eq_some_iff {entries : List (κ × ν)} (distinct : (entries.map Prod.fst).Nodup) :
    lookup key entries = some value ↔ (key, value) ∈ entries := by
  induction entries with
  | nil => simp [lookup]
  | cons entry rest ih =>
      obtain ⟨found, old⟩ := entry
      obtain ⟨absent, remaining⟩ := List.nodup_cons.mp distinct
      by_cases same : found = key
      · subst same
        have missing : ∀ value, (found, value) ∉ rest := fun value member =>
          absent (List.mem_map.mpr ⟨_, member, rfl⟩)
        simp [lookup, missing, eq_comm]
      · simp [lookup, same, ih remaining, Ne.symm same]

theorem lookup_filter {entries : List (κ × ν)} {keep : κ → ν → Bool}
    (distinct : (entries.map Prod.fst).Nodup) :
    lookup key (entries.filter fun entry => keep entry.1 entry.2) =
      (lookup key entries).filter (keep key) := by
  induction entries with
  | nil => rfl
  | cons entry rest ih =>
      obtain ⟨found, old⟩ := entry
      obtain ⟨absent, remaining⟩ := List.nodup_cons.mp distinct
      by_cases same : found = key
      · subst same
        have missing : lookup found (rest.filter fun entry => keep entry.1 entry.2) = none := by
          rw [ih remaining]
          cases held : lookup found rest with
          | none => rfl
          | some value =>
              exact absurd (List.mem_map.mpr ⟨_, (lookup_eq_some_iff remaining).mp held, rfl⟩) absent
        cases kept : keep found old <;> simp [lookup, List.filter, kept, missing, Option.filter]
      · cases kept : keep found old <;> simp [lookup, List.filter, kept, same, ih remaining]

@[simp, grind =] theorem get?_empty : (∅ : Dict κ ν).get? key = none := rfl

/-- Assigning the value that a key already has. -/
theorem set_of_get? (found : dict.get? key = some value) : dict.set key value = dict := by
  have assigned : ∀ entries : List (κ × ν), lookup key entries = some value → assign key value entries = entries := by
    intro entries held
    induction entries with
    | nil => cases held
    | cons entry rest ih =>
        obtain ⟨first, old⟩ := entry
        by_cases same : first = key
        · rw [lookup, if_pos same] at held
          rw [assign, if_pos same, same, Option.some.inj held]
        · rw [lookup, if_neg same] at held
          rw [assign, if_neg same, ih held]
  obtain ⟨entries, distinct⟩ := dict
  simp only [set, assigned entries found]

/-- Erasing a key that is absent. -/
theorem erase_of_get? (absent : dict.get? key = none) : dict.erase key = dict := by
  have unheld : ∀ entries : List (κ × ν), lookup key entries = none → entries.filter (fun entry => decide (entry.1 ≠ key)) = entries := by
    intro entries held
    induction entries with
    | nil => rfl
    | cons entry rest ih =>
        obtain ⟨first, old⟩ := entry
        by_cases same : first = key
        · rw [lookup, if_pos same] at held
          cases held
        · rw [lookup, if_neg same] at held
          rw [List.filter_cons_of_pos (by simpa using same), ih held]
  obtain ⟨entries, distinct⟩ := dict
  simp only [erase, filter, unheld entries absent]

@[simp, grind =] theorem get?_set :
    (dict.set key value).get? other = if other = key then some value else dict.get? other :=
  lookup_assign

@[simp, grind =] theorem get?_filter {keep : κ → ν → Bool} :
    (dict.filter keep).get? key = (dict.get? key).filter (keep key) :=
  lookup_filter dict.distinct

@[simp, grind =] theorem get?_erase :
    (dict.erase key).get? other = if other = key then none else dict.get? other := by
  rw [erase, get?_filter]
  by_cases same : other = key <;> cases dict.get? other <;> simp [same, Option.filter]

@[simp, grind =] theorem get?_mapValues {update : ν → ν} : (dict.mapValues update).get? key = (dict.get? key).map update := by
  have each : ∀ entries : List (κ × ν),
      lookup key (entries.map fun entry => (entry.1, update entry.2)) = (lookup key entries).map update := by
    intro entries
    induction entries with
    | nil => rfl
    | cons entry rest ih => grind [lookup]
  exact each dict.entries

@[grind =] theorem mem_entries_iff {entry : κ × ν} :
    entry ∈ dict.entries ↔ dict.get? entry.1 = some entry.2 :=
  (lookup_eq_some_iff dict.distinct).symm

@[simp, grind =] theorem mem_values_iff : value ∈ dict.values ↔ ∃ key, dict.get? key = some value := by
  simp only [values, List.mem_map, Prod.exists, exists_eq_right]
  exact exists_congr fun key => mem_entries_iff

@[simp, grind =] theorem mem_keys_iff : key ∈ dict.keys ↔ ∃ value, dict.get? key = some value := by
  simp only [keys, List.mem_map, Prod.exists, exists_and_right, exists_eq_right]
  exact exists_congr fun value => mem_entries_iff

theorem size_eq_zero_iff : dict.size = 0 ↔ ∀ key, dict.get? key = none := by
  constructor
  · intro none key
    have nil : dict.entries = [] := List.length_eq_zero_iff.mp none
    simp [get?, nil, lookup]
  · intro absent
    refine List.length_eq_zero_iff.mpr (List.eq_nil_iff_forall_not_mem.mpr ?_)
    intro entry member
    simpa [absent] using mem_entries_iff.mp member

theorem length_assign {entries : List (κ × ν)} : (assign key value entries).length =
    if (lookup key entries).isSome then entries.length else entries.length + 1 := by
  induction entries with
  | nil => rfl
  | cons entry rest ih => grind [assign, lookup]

theorem keys_assign {entries : List (κ × ν)} : (assign key value entries).map Prod.fst =
    if (lookup key entries).isSome then entries.map Prod.fst else entries.map Prod.fst ++ [key] := by
  induction entries with
  | nil => rfl
  | cons entry rest ih =>
      obtain ⟨found, old⟩ := entry
      by_cases same : found = key
      · subst same
        rw [assign, if_pos rfl, lookup, if_pos rfl]
        rfl
      · rw [assign, if_neg same, lookup, if_neg same, List.map_cons, ih]
        split <;> rfl

/-- A new key goes behind the others. -/
theorem keys_set : (dict.set key value).keys = if dict.contains key then dict.keys else dict.keys ++ [key] :=
  keys_assign

theorem size_set : (dict.set key value).size = if dict.contains key then dict.size else dict.size + 1 :=
  length_assign

theorem mem_keys_of_get? (found : dict.get? key = some value) : key ∈ dict.keys :=
  mem_keys_iff.mpr ⟨value, found⟩

/-- Numbered entries below a bound are no more than the bound. -/
theorem size_le_of_below {dict : Dict Nat ν} {bound : Nat}
    (below : ∀ index value, dict.get? index = some value → index < bound) : dict.size ≤ bound := by
  have within : dict.keys ⊆ List.range bound := fun index member => by
    obtain ⟨value, found⟩ := mem_keys_iff.mp member
    exact List.mem_range.mpr (below index value found)
  have length := (List.subperm_of_subset dict.distinct within).length_le
  simpa [size] using length

/-- As many numbered entries below a bound as the bound leave none out. -/
theorem get?_of_full {dict : Dict Nat ν} {bound index : Nat}
    (below : ∀ index value, dict.get? index = some value → index < bound) (full : dict.size = bound)
    (inside : index < bound) : ∃ value, dict.get? index = some value := by
  have within : dict.keys ⊆ List.range bound := fun index member => by
    obtain ⟨value, found⟩ := mem_keys_iff.mp member
    exact List.mem_range.mpr (below index value found)
  have same := (List.subperm_of_subset dict.distinct within).perm_of_length_le (by simp [← full, size])
  exact mem_keys_iff.mp (same.mem_iff.mpr (List.mem_range.mpr inside))

theorem le_size_of_all {dict : Dict Nat ν} {bound : Nat}
    (all : ∀ index, index < bound → ∃ value, dict.get? index = some value) : bound ≤ dict.size := by
  have within : List.range bound ⊆ dict.keys := fun index member =>
    mem_keys_iff.mpr (all index (List.mem_range.mp member))
  have length := (List.subperm_of_subset List.nodup_range within).length_le
  simpa [size, keys] using length

theorem size_erase_le : (dict.erase key).size ≤ dict.size :=
  List.length_filter_le _ _

/-! ## Totals -/

/-- The sum of a weight over all values. -/
def total (weight : ν → Nat) (dict : Dict κ ν) : Nat := (dict.entries.map fun entry => weight entry.2).sum

/-- The weight of what a key is assigned, if anything. -/
def weightAt (weight : ν → Nat) (dict : Dict κ ν) (key : κ) : Nat :=
  match dict.get? key with
  | some value => weight value
  | none => 0

variable {weight : ν → Nat}

theorem total_set : (dict.set key value).total weight + dict.weightAt weight key = dict.total weight + weight value := by
  have each : ∀ entries : List (κ × ν), ((assign key value entries).map fun entry => weight entry.2).sum +
      (match lookup key entries with
        | some value => weight value
        | none => 0) = (entries.map fun entry => weight entry.2).sum + weight value := by
    intro entries
    induction entries with
    | nil => simp [assign, lookup]
    | cons entry rest ih =>
        by_cases same : entry.1 = key
        · simp [assign, lookup, same]
          omega
        · simp only [assign, lookup, same, if_false, List.map_cons, List.sum_cons]
          omega
  exact each dict.entries

theorem total_erase : (dict.erase key).total weight + dict.weightAt weight key = dict.total weight := by
  have each : ∀ entries : List (κ × ν), (entries.map Prod.fst).Nodup →
      ((entries.filter fun entry => entry.1 ≠ key).map fun entry => weight entry.2).sum +
        (match lookup key entries with
          | some value => weight value
          | none => 0) = (entries.map fun entry => weight entry.2).sum := by
    intro entries distinct
    induction entries with
    | nil => simp [lookup]
    | cons entry rest ih =>
        obtain ⟨absent, remaining⟩ := List.nodup_cons.mp distinct
        by_cases same : entry.1 = key
        · have rest_kept : rest.filter (fun entry => decide (entry.1 ≠ key)) = rest := by
            refine List.filter_eq_self.mpr fun other member => decide_eq_true ?_
            intro equal
            exact absent (List.mem_map.mpr ⟨other, member, equal.trans same.symm⟩)
          simp only [List.filter, same, lookup, ne_eq, not_true_eq_false, decide_false, if_true, List.map_cons,
            List.sum_cons]
          rw [rest_kept, Nat.add_comm]
        · simp only [List.filter, same, lookup, ne_eq, not_false_eq_true, decide_true, if_false, List.map_cons,
            List.sum_cons]
          have := ih remaining
          simp only [ne_eq] at this
          omega
  exact each dict.entries dict.distinct

theorem total_congr {other : ν → Nat} (same : ∀ key value, dict.get? key = some value → weight value = other value) :
    dict.total weight = dict.total other := by
  have equal : dict.entries.map (fun entry => weight entry.2) = dict.entries.map fun entry => other entry.2 :=
    List.map_congr_left fun entry member => same entry.1 entry.2 (mem_entries_iff.mp member)
  rw [total, equal, total]

end Dict

end MeshTalk.Library
