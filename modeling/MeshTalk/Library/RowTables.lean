import Mathlib.Data.List.Nodup

namespace MeshTalk.Library

/-! # Tables with row ids

A new row gets the id after the largest in use, so rows stand in the order of
their insertion with ascending ids, and the id of a deleted last row is given out
again.
-/

structure RowTable (ρ : Type u) {κ : Type v} (key : ρ → κ) where
  rows : List (Nat × ρ)
  ascending : rows.Pairwise fun first second => first.1 < second.1
  unique : (rows.map fun row => key row.2).Nodup

namespace RowTable

variable {ρ : Type u} {κ : Type v} {key : ρ → κ}

section Definitions

variable (table : RowTable ρ key)

def empty : RowTable ρ key := ⟨[], .nil, List.nodup_nil⟩

instance : EmptyCollection (RowTable ρ key) := ⟨empty⟩

/-- One more than the largest row id. -/
def nextRowid : Nat := (table.rows.map Prod.fst).foldr max 0 + 1

variable {table} in
theorem lt_nextRowid {row : Nat × ρ} (present : row ∈ table.rows) : row.1 < table.nextRowid := by
  have below : ∀ ids : List Nat, ∀ id ∈ ids, id ≤ ids.foldr max 0 := by
    intro ids
    induction ids with
    | nil => exact fun _ member => nomatch member
    | cons first rest ih =>
        intro id member
        rw [List.foldr_cons]
        rcases List.mem_cons.mp member with rfl | later
        · exact Nat.le_max_left ..
        · exact Nat.le_trans (ih id later) (Nat.le_max_right ..)
  exact Nat.lt_succ_of_le (below _ _ (List.mem_map_of_mem present))

/-- `INSERT OR IGNORE`. -/
def insertOrIgnore [DecidableEq κ] (row : ρ) : RowTable ρ key :=
  if fresh : ∀ stored ∈ table.rows, key stored.2 ≠ key row then
    { rows := table.rows ++ [(table.nextRowid, row)]
      ascending := List.pairwise_append.mpr ⟨table.ascending, List.pairwise_singleton .., fun stored present new member => by
        rw [List.mem_singleton.mp member]
        exact lt_nextRowid present⟩
      unique := by
        rw [List.map_append, List.map_singleton]
        refine table.unique.append (List.nodup_singleton _) fun found stored new => ?_
        obtain ⟨other, present, rfl⟩ := List.mem_map.mp stored
        exact fresh other present (List.mem_singleton.mp new) }
  else table

/-- `DELETE FROM table WHERE doomed`. -/
def deleteWhere (doomed : ρ → Bool) : RowTable ρ key where
  rows := table.rows.filter fun row => !doomed row.2
  ascending := table.ascending.sublist List.filter_sublist
  unique := table.unique.sublist (List.filter_sublist.map _)

inductive Change (ρ : Type u) where
  | insert (row : ρ)
  | delete (doomed : ρ → Bool)

def Change.inserts : Change ρ → Bool
  | .insert _ => true
  | .delete _ => false

def apply [DecidableEq κ] : Change ρ → RowTable ρ key
  | .insert row => table.insertOrIgnore row
  | .delete doomed => table.deleteWhere doomed

/-! ## Pages -/

variable (chosen : ρ → Bool) (before : Option Nat) (size : Nat)

/-- `WHERE chosen AND rowid < before ORDER BY rowid DESC`. -/
def newestFirst : List (Nat × ρ) :=
  (table.rows.filter fun row => chosen row.2 && before.all fun bound => row.1 < bound).reverse

/-- The first rows of a `SELECT` that asks for one more. -/
def page : List (Nat × ρ) := ((table.newestFirst chosen before).take (size + 1)).take size

/-- The row id of the page's oldest row if the additional row was there. -/
def older : Option Nat :=
  if size < ((table.newestFirst chosen before).take (size + 1)).length then
    (table.page chosen before size).getLast?.map Prod.fst
  else none

end Definitions

variable {table : RowTable ρ key} {chosen : ρ → Bool} {before : Option Nat} {size bound : Nat} {row other : Nat × ρ}

theorem eq_of_key (present : row ∈ table.rows) (also : other ∈ table.rows) (same : key row.2 = key other.2) : row = other :=
  List.inj_on_of_nodup_map table.unique present also same

theorem mem_newestFirst : row ∈ table.newestFirst chosen before ↔
    row ∈ table.rows ∧ chosen row.2 = true ∧ ∀ bound, before = some bound → row.1 < bound := by
  simp [newestFirst, Option.all_eq_true]

theorem page_eq_take : table.page chosen before size = (table.newestFirst chosen before).take size := by
  rw [page, List.take_take, Nat.min_eq_left (Nat.le_succ size)]

theorem newestFirst_descends : (table.newestFirst chosen before).Pairwise fun first second => second.1 < first.1 :=
  List.pairwise_reverse.mpr (table.ascending.sublist List.filter_sublist)

theorem nodup_newestFirst : (table.newestFirst chosen before).Nodup :=
  newestFirst_descends.imp fun {first second} apart (same : first = second) => Nat.lt_irrefl _ (same ▸ apart)

theorem page_descends : (table.page chosen before size).Pairwise fun first second => second.1 < first.1 := by
  rw [page_eq_take]
  exact newestFirst_descends.sublist (List.take_sublist ..)

theorem mem_page (member : row ∈ table.page chosen before size) :
    row ∈ table.rows ∧ chosen row.2 = true ∧ ∀ bound, before = some bound → row.1 < bound := by
  rw [page_eq_take] at member
  exact mem_newestFirst.mp (List.mem_of_mem_take member)

theorem older_eq_some (more : table.older chosen before size = some bound) :
    ∃ last, (table.page chosen before size).getLast? = some last ∧ last.1 = bound := by
  unfold older at more
  split at more
  · exact Option.map_eq_some_iff.mp more
  · contradiction

/-- The rows of a page are not older than where the next one continues. -/
theorem older_le (more : table.older chosen before size = some bound) (member : row ∈ table.page chosen before size) :
    bound ≤ row.1 := by
  obtain ⟨last, found, rfl⟩ := older_eq_some more
  obtain ⟨earlier, split⟩ := List.getLast?_eq_some_iff.mp found
  have descends := @page_descends _ _ _ table chosen before size
  rw [split] at member descends
  rcases List.mem_append.mp member with first | final
  · exact Nat.le_of_lt ((List.pairwise_append.mp descends).2.2 row first last (List.mem_singleton_self last))
  · exact Nat.le_of_eq (congrArg Prod.fst (List.mem_singleton.mp final).symm)

theorem older_lt (more : table.older chosen before size = some bound) :
    bound < table.nextRowid ∧ ∀ limit, before = some limit → bound < limit := by
  obtain ⟨last, found, rfl⟩ := older_eq_some more
  obtain ⟨present, -, below⟩ := mem_page (List.mem_of_getLast? found)
  exact ⟨lt_nextRowid present, below⟩

/-- An older row remains where a page is continued. -/
theorem older_pos (more : table.older chosen before size = some bound) : 0 < bound := by
  obtain ⟨last, found, rfl⟩ := older_eq_some more
  have longer : size < (table.newestFirst chosen before).length := by
    unfold older at more
    split at more
    · rename_i full
      rw [List.length_take] at full
      omega
    · contradiction
  have rest : (table.newestFirst chosen before)[size] ∈ (table.newestFirst chosen before).drop size := by
    rw [List.drop_eq_getElem_cons longer]
    exact List.mem_cons_self ..
  have first : last ∈ (table.newestFirst chosen before).take size := page_eq_take ▸ List.mem_of_getLast? found
  have descends := @newestFirst_descends _ _ _ table chosen before
  rw [← List.take_append_drop size (table.newestFirst chosen before)] at descends
  exact Nat.zero_lt_of_lt ((List.pairwise_append.mp descends).2.2 last first _ rest)

/-- A row that a page passes over is older than where the next one continues. -/
theorem page_covers (positive : 0 < size) (present : row ∈ table.rows) (wanted : chosen row.2 = true)
    (below : ∀ bound, before = some bound → row.1 < bound) :
    row ∈ table.page chosen before size ∨ ∃ bound, table.older chosen before size = some bound ∧ row.1 < bound := by
  have listed : row ∈ table.newestFirst chosen before := mem_newestFirst.mpr ⟨present, wanted, below⟩
  have descends := @newestFirst_descends _ _ _ table chosen before
  rw [← List.take_append_drop size (table.newestFirst chosen before)] at listed descends
  rcases List.mem_append.mp listed with first | rest
  · exact .inl (page_eq_take ▸ first)
  · have longer : size < (table.newestFirst chosen before).length := by
      have some : 0 < ((table.newestFirst chosen before).drop size).length := List.length_pos_of_mem rest
      rw [List.length_drop] at some
      omega
    have full : size < ((table.newestFirst chosen before).take (size + 1)).length := by
      rw [List.length_take]
      omega
    have nonempty : table.page chosen before size ≠ [] := by
      rw [page_eq_take]
      refine List.ne_nil_of_length_pos ?_
      rw [List.length_take]
      omega
    refine .inr ⟨((table.page chosen before size).getLast nonempty).1, ?_, ?_⟩
    · rw [older, if_pos full, List.getLast?_eq_some_getLast nonempty, Option.map_some]
    · have last : (table.page chosen before size).getLast nonempty ∈ (table.newestFirst chosen before).take size :=
        page_eq_take ▸ List.getLast_mem nonempty
      exact (List.pairwise_append.mp descends).2.2 _ last _ rest

/-- Fewer later rows than a page holds leave a place on it. -/
theorem mem_page_of_few (present : row ∈ table.rows) (wanted : chosen row.2 = true)
    (below : ∀ bound, before = some bound → row.1 < bound)
    (few : ((table.newestFirst chosen before).filter fun other => row.1 < other.1).length < size) :
    row ∈ table.page chosen before size := by
  have listed : row ∈ table.newestFirst chosen before := mem_newestFirst.mpr ⟨present, wanted, below⟩
  obtain ⟨newer, rest, split⟩ := List.append_of_mem listed
  have descends := @newestFirst_descends _ _ _ table chosen before
  rw [split] at descends few
  have apart := (List.pairwise_append.mp descends).2.2
  have counted : newer.filter (fun other => row.1 < other.1) = newer :=
    List.filter_eq_self.mpr fun other member => decide_eq_true (apart other member row (List.mem_cons_self ..))
  rw [List.filter_append, counted, List.length_append] at few
  rw [page_eq_take, split, List.take_append]
  refine List.mem_append_right _ (List.mem_of_getElem? (i := 0) ?_)
  rw [List.getElem?_take_of_lt (by omega)]
  rfl

/-- On a page a row is the only one with its key. -/
theorem filter_page_of_mem [DecidableEq κ] (member : row ∈ table.page chosen before size) :
    (table.page chosen before size).filter (fun other => key other.2 = key row.2) = [row] := by
  have single : ∀ other, other ∈ table.page chosen before size → key other.2 = key row.2 → other = row :=
    fun other listed same => eq_of_key (mem_page listed).1 (mem_page member).1 same
  obtain ⟨newer, rest, split⟩ := List.append_of_mem member
  have descends := @page_descends _ _ _ table chosen before size
  rw [split] at descends single ⊢
  obtain ⟨-, following, apart⟩ := List.pairwise_append.mp descends
  have none : newer.filter (fun other => key other.2 = key row.2) = [] := by
    refine List.filter_eq_nil_iff.mpr fun other listed same => ?_
    have equal := single other (List.mem_append_left _ listed) (of_decide_eq_true same)
    have distinct := apart other listed row (List.mem_cons_self ..)
    rw [equal] at distinct
    exact Nat.lt_irrefl _ distinct
  have last : rest.filter (fun other => key other.2 = key row.2) = [] := by
    refine List.filter_eq_nil_iff.mpr fun other listed same => ?_
    have equal := single other (List.mem_append_right _ (List.mem_cons_of_mem _ listed)) (of_decide_eq_true same)
    have distinct := List.rel_of_pairwise_cons following listed
    rw [equal] at distinct
    exact Nat.lt_irrefl _ distinct
  rw [List.filter_append, none, List.filter_cons_of_pos (by simp), last, List.nil_append]

theorem filter_page_of_not_mem [DecidableEq κ] (present : row ∈ table.rows) (absent : row ∉ table.page chosen before size) :
    (table.page chosen before size).filter (fun other => key other.2 = key row.2) = [] := by
  refine List.filter_eq_nil_iff.mpr fun other listed same => absent ?_
  rwa [eq_of_key present (mem_page listed).1 (of_decide_eq_true same).symm]

/-! ## Changes -/

section Changes

variable [DecidableEq κ] {changes : List (Change ρ)}

theorem mem_insertOrIgnore {new : ρ} (member : row ∈ (table.insertOrIgnore new).rows) :
    row ∈ table.rows ∨ row = (table.nextRowid, new) := by
  unfold insertOrIgnore at member
  split at member
  · exact (List.mem_append.mp member).imp_right List.mem_singleton.mp
  · exact .inl member

theorem nextRowid_insertOrIgnore {new : ρ} : table.nextRowid ≤ (table.insertOrIgnore new).nextRowid := by
  unfold insertOrIgnore
  split
  · rename_i fresh
    let grown : RowTable ρ key := table.insertOrIgnore new
    have added : (table.nextRowid, new) ∈ grown.rows := by
      simp only [grown, insertOrIgnore, dif_pos fresh]
      exact List.mem_append_right _ (List.mem_singleton_self _)
    have below := lt_nextRowid added
    simp only [grown, insertOrIgnore, dif_pos fresh] at below
    exact Nat.le_of_lt below
  · exact Nat.le_refl _

/-- Until rows have been deleted, no row is inserted below the ids given out. -/
theorem apply_below (ordered : changes.Pairwise fun first second => first.inserts = false → second.inserts = false)
    (spent : bound ≤ table.nextRowid ∨ ∀ change ∈ changes, change.inserts = false)
    (member : row ∈ (changes.foldl (fun table change => table.apply change) table).rows) (below : row.1 < bound) : row ∈ table.rows := by
  induction changes generalizing table with
  | nil => exact member
  | cons change rest ih =>
      obtain ⟨first, following⟩ := List.pairwise_cons.mp ordered
      cases change with
      | insert new =>
          have given : bound ≤ table.nextRowid :=
            spent.resolve_right fun none => absurd (none _ (List.mem_cons_self ..)) (by simp [Change.inserts])
          have held := ih following (.inl (Nat.le_trans given nextRowid_insertOrIgnore)) member
          rcases mem_insertOrIgnore held with old | rfl
          · exact old
          · exact absurd below (Nat.not_lt.mpr given)
      | delete doomed =>
          have held := ih following (.inr fun change later => first change later rfl) member
          exact List.mem_of_mem_filter held

end Changes

/-! ## Following the pages -/

section Walks

variable {σ : Type w} {ε : Type z} (view : σ → RowTable ρ key) (change : σ → ε → σ) (chosen size)

/-- The pages of a reader that continues where the last page ended until there is
none, with the changes between its reads. -/
inductive Walk : σ → Option Nat → List ε → List (List (Nat × ρ)) → Prop where
  | last {state : σ} {before : Option Nat} (ends : (view state).older chosen before size = none) :
      Walk state before [] [(view state).page chosen before size]
  | next {state : σ} {before : Option Nat} {bound : Nat} {changes rest : List ε} {pages : List (List (Nat × ρ))}
      (more : (view state).older chosen before size = some bound)
      (later : Walk (changes.foldl change state) (some bound) rest pages) :
      Walk state before (changes ++ rest) ((view state).page chosen before size :: pages)

/-- The row is in the table through all of the changes. -/
def Throughout (row : Nat × ρ) (state : σ) (changes : List ε) : Prop :=
  ∀ earlier later, changes = earlier ++ later → row ∈ (view (earlier.foldl change state)).rows

variable {view change chosen size} {state : σ} {changes rest : List ε} {pages : List (List (Nat × ρ))}

theorem Throughout.now (throughout : Throughout view change row state changes) : row ∈ (view state).rows :=
  throughout [] changes rfl

theorem Throughout.later (throughout : Throughout view change row state (changes ++ rest)) :
    Throughout view change row (changes.foldl change state) rest := by
  intro earlier later split
  rw [← List.foldl_append]
  exact throughout (changes ++ earlier) later (by rw [split, List.append_assoc])

theorem Walk.bounded (walk : Walk chosen size view change state before changes pages) (member : row ∈ pages.flatten) :
    ∀ bound, before = some bound → row.1 < bound := by
  induction walk with
  | last ends =>
      rw [List.flatten_singleton] at member
      exact (mem_page member).2.2
  | next more later ih =>
      rw [List.flatten_cons] at member
      rcases List.mem_append.mp member with first | rest
      · exact (mem_page first).2.2
      · exact fun bound held => Nat.lt_trans (ih rest _ rfl) ((older_lt more).2 bound held)

/-- Newer pages come first, and newer rows within a page. -/
theorem Walk.descends (walk : Walk chosen size view change state before changes pages) :
    pages.flatten.Pairwise fun first second => second.1 < first.1 := by
  induction walk with
  | last ends =>
      rw [List.flatten_singleton]
      exact page_descends
  | next more later ih =>
      rw [List.flatten_cons]
      refine List.pairwise_append.mpr ⟨page_descends, ih, fun newer first older rest => ?_⟩
      exact Nat.lt_of_lt_of_le (later.bounded rest _ rfl) (older_le more first)

/-- A row that is too new for what remains to be read is not met again. -/
theorem Walk.unseen [DecidableEq κ] (walk : Walk chosen size view change state before changes pages)
    (throughout : Throughout view change row state changes) (passed : ∃ bound, before = some bound ∧ bound ≤ row.1) :
    pages.flatten.filter (fun other => key other.2 = key row.2) = [] := by
  obtain ⟨limit, continues, newer⟩ := passed
  induction walk generalizing limit with
  | last ends =>
      rw [List.flatten_singleton]
      exact filter_page_of_not_mem throughout.now fun listed =>
        absurd ((mem_page listed).2.2 limit continues) (Nat.not_lt.mpr newer)
  | next more later ih =>
      rw [List.flatten_cons, List.filter_append, filter_page_of_not_mem throughout.now fun listed =>
        absurd ((mem_page listed).2.2 limit continues) (Nat.not_lt.mpr newer), List.nil_append]
      exact ih throughout.later _ rfl (Nat.le_trans (Nat.le_of_lt ((older_lt more).2 limit continues)) newer)

/-- A row that stays in the table is met exactly once. -/
theorem Walk.once [DecidableEq κ] (walk : Walk chosen size view change state before changes pages) (positive : 0 < size)
    (throughout : Throughout view change row state changes) (wanted : chosen row.2 = true)
    (below : ∀ bound, before = some bound → row.1 < bound) :
    pages.flatten.filter (fun other => key other.2 = key row.2) = [row] := by
  induction walk with
  | last ends =>
      rw [List.flatten_singleton]
      rcases page_covers positive throughout.now wanted below with listed | ⟨bound, more, -⟩
      · exact filter_page_of_mem listed
      · rw [ends] at more
        contradiction
  | @next state before bound changes rest pages more later ih =>
      rw [List.flatten_cons, List.filter_append]
      by_cases listed : row ∈ (view state).page chosen before size
      · rw [filter_page_of_mem listed, later.unseen throughout.later ⟨_, rfl, older_le more listed⟩, List.append_nil]
      · rw [filter_page_of_not_mem throughout.now listed, List.nil_append]
        rcases page_covers positive throughout.now wanted below with found | ⟨bound, same, older⟩
        · exact absurd found listed
        · rw [more] at same
          cases same
          exact ih throughout.later fun bound held => Option.some.inj held ▸ older

/-- Whatever happens between the reads, the reader comes to an end. -/
theorem Walk.ends (schedule : Nat → List ε) :
    ∃ count pages, Walk chosen size view change state before ((List.range count).flatMap schedule) pages := by
  have bounded : ∀ limit (state : σ) (schedule : Nat → List ε), ∃ count pages,
      Walk chosen size view change state (some limit) ((List.range count).flatMap schedule) pages := by
    intro limit
    induction limit using Nat.strongRecOn with
    | ind limit ih =>
        intro state schedule
        cases reached : (view state).older chosen (some limit) size with
        | none => exact ⟨0, [(view state).page chosen (some limit) size], .last reached⟩
        | some bound =>
            obtain ⟨count, pages, later⟩ := ih bound ((older_lt reached).2 limit rfl) ((schedule 0).foldl change state)
              fun index => schedule (index + 1)
            refine ⟨count + 1, (view state).page chosen (some limit) size :: pages, ?_⟩
            rw [List.range_succ_eq_map, List.flatMap_cons, List.flatMap_map]
            exact .next reached later
  cases reached : (view state).older chosen before size with
  | none => exact ⟨0, [(view state).page chosen before size], .last reached⟩
  | some bound =>
      obtain ⟨count, pages, later⟩ := bounded bound ((schedule 0).foldl change state) fun index => schedule (index + 1)
      refine ⟨count + 1, (view state).page chosen before size :: pages, ?_⟩
      rw [List.range_succ_eq_map, List.flatMap_cons, List.flatMap_map]
      exact .next reached later

end Walks

end RowTable

end MeshTalk.Library
