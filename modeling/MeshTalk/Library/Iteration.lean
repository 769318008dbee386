import Mathlib.Data.List.Nodup

namespace MeshTalk.Library

/-! # A loop by index over a list that changes

A loop keeps the index of the next item.  Items that are erased from the part it has
gone through move the others forward, so that some are passed over; what is appended is
still reached.
-/

variable [DecidableEq α] {items seen : List α} {index : Nat} {item : α}

/-- The items before the index that the loop has not seen. -/
def missed (items seen : List α) (index : Nat) : Nat := ((items.take index).filter fun item => item ∉ seen).length

/-- The items that the loop has seen and that are not there any more. -/
def gone (items seen : List α) : Nat := (seen.filter fun item => item ∉ items).length

/-- What a loop has seen, and how much it has missed. -/
structure Iterated (items seen : List α) (index : Nat) : Prop where
  once : seen.Nodup
  ahead : ∀ item ∈ items.drop index, item ∉ seen
  balance : missed items seen index + (index - items.length) = gone items seen

theorem Iterated.start : Iterated items [] 0 where
  once := List.nodup_nil
  ahead := fun _ _ => List.not_mem_nil
  balance := by simp [missed, gone]

/-- The loop takes the next item. -/
theorem Iterated.take {rest : List α} (iterated : Iterated items seen index) (distinct : items.Nodup)
    (next : items.drop index = item :: rest) : Iterated items (seen ++ [item]) (index + 1) := by
  have whole : items = items.take index ++ item :: rest := by rw [← next, List.take_append_drop]
  have longer : items.take (index + 1) = items.take index ++ [item] := by
    rw [List.take_add, next]
    rfl
  have inside : index < items.length := by
    by_contra outside
    rw [List.drop_eq_nil_of_le (by omega)] at next
    cases next
  have parts := distinct
  rw [whole, List.nodup_append] at parts
  obtain ⟨-, later, apart⟩ := parts
  have unseen : item ∉ seen := iterated.ahead item (by simp [next])
  refine ⟨?_, fun other listed => ?_, ?_⟩
  · exact List.nodup_append.mpr ⟨iterated.once, by simp, fun _ earlier _ last same => unseen (by
      rw [← List.mem_singleton.mp last, ← same]
      exact earlier)⟩
  · have dropped : items.drop (index + 1) = rest := by
      rw [← List.drop_drop, next]
      rfl
    rw [dropped] at listed
    have before := iterated.ahead other (by simp [next, listed])
    have another : other ≠ item := by
      rintro rfl
      exact (List.nodup_cons.mp later).1 listed
    simp [before, another]
  · have same : missed items (seen ++ [item]) (index + 1) = missed items seen index := by
      rw [missed, missed, longer, List.filter_append, List.length_append]
      have kept : (items.take index).filter (fun other => other ∉ seen ++ [item]) =
          (items.take index).filter fun other => other ∉ seen := by
        refine List.filter_congr fun other listed => ?_
        have another : other ≠ item := apart other listed item (List.mem_cons_self ..)
        simp [another]
      rw [kept]
      simp
    have present : item ∈ items := by
      rw [whole]
      simp
    have still : gone items (seen ++ [item]) = gone items seen := by
      simp [gone, List.filter_append, present]
    have balance := iterated.balance
    rw [same, still]
    omega

theorem Iterated.append (iterated : Iterated items seen index) (new : item ∉ items) (unseen : item ∉ seen) :
    Iterated (items ++ [item]) seen index := by
  have same : gone (items ++ [item]) seen = gone items seen := by
    refine congrArg List.length (List.filter_congr fun other listed => ?_)
    have another : other ≠ item := by
      rintro rfl
      exact unseen listed
    simp [another]
  have balance := iterated.balance
  refine ⟨iterated.once, fun other listed => ?_, ?_⟩
  · rw [List.drop_append] at listed
    rcases List.mem_append.mp listed with before | last
    · exact iterated.ahead other before
    · have itself := List.mem_of_mem_drop last
      rw [List.mem_singleton.mp itself]
      exact unseen
  · rw [same, missed, List.take_append, List.filter_append, List.length_append, List.length_append, List.length_singleton]
    change missed items seen index + _ + _ = _
    by_cases inside : index ≤ items.length
    · have nothing : index - items.length = 0 := by omega
      rw [nothing, List.take_zero, List.filter_nil, List.length_nil]
      omega
    · have one : ([item].take (index - items.length)) = [item] := List.take_of_length_le (by rw [List.length_singleton]; omega)
      have counted : ([item].filter fun other => decide (other ∉ seen)) = [item] := by simp [unseen]
      rw [one, counted, List.length_singleton]
      omega

/-- One item less that is still there counts as gone, if the loop has seen it. -/
theorem gone_erase (once : seen.Nodup) (distinct : items.Nodup) (present : item ∈ items) :
    gone (items.erase item) seen = gone items seen + if item ∈ seen then 1 else 0 := by
  have others : ∀ other, other ≠ item → (other ∈ items.erase item ↔ other ∈ items) := fun other another =>
    List.mem_erase_of_ne another
  have erased : item ∉ items.erase item := distinct.not_mem_erase
  induction seen with
  | nil => simp [gone]
  | cons first rest ih =>
      obtain ⟨new, later⟩ := List.nodup_cons.mp once
      have counts := ih later
      by_cases same : first = item
      · subst same
        rw [if_neg new] at counts
        simp only [gone, List.filter_cons, erased, present, not_false_eq_true, not_true_eq_false, decide_true, decide_false,
          if_true, Bool.false_eq_true, if_false, List.length_cons, List.mem_cons_self] at counts ⊢
        omega
      · have split : (item ∈ first :: rest) ↔ item ∈ rest := by simp [Ne.symm same]
        simp only [gone, List.filter_cons, others first same, split] at counts ⊢
        by_cases there : first ∈ items
        · simp only [there, not_true_eq_false, decide_false, Bool.false_eq_true, if_false]
          exact counts
        · simp only [there, not_false_eq_true, decide_true, if_true, List.length_cons]
          omega

omit [DecidableEq α] in
theorem mem_drop_of_erase {before after : List α} {other : α} (listed : other ∈ (before ++ after).drop index) :
    other ∈ (before ++ item :: after).drop index := by
  rw [List.drop_append] at listed ⊢
  rcases List.mem_append.mp listed with early | late
  · exact List.mem_append_left _ early
  · refine List.mem_append_right _ ?_
    cases shift : index - before.length with
    | zero =>
        rw [shift] at late
        exact List.mem_cons_of_mem _ (List.mem_of_mem_drop late)
    | succ more =>
        rw [shift] at late
        rw [List.drop_succ_cons]
        exact (List.drop_subset_drop_left after (Nat.le_succ more)) late

/-- How much is missed when an item before the index goes: the next one takes its place. -/
theorem missed_erase {before after : List α} (behind : before.length < index)
    (ahead : ∀ other ∈ (before ++ item :: after).drop index, other ∉ seen) :
    missed (before ++ after) seen index + (index - (before ++ after).length) + (if item ∈ seen then 0 else 1) =
      missed (before ++ item :: after) seen index + (index - (before ++ item :: after).length) + 1 := by
  obtain ⟨more, rfl⟩ : ∃ more, index = before.length + 1 + more := ⟨index - (before.length + 1), by omega⟩
  have first : (before ++ item :: after).take (before.length + 1 + more) = before ++ item :: after.take more := by
    rw [Nat.add_assoc, List.take_length_add_append, Nat.add_comm 1 more, List.take_succ_cons]
  have second : (before ++ after).take (before.length + 1 + more) = before ++ after.take more ++ (after[more]?).toList := by
    rw [Nat.add_assoc, List.take_length_add_append, Nat.add_comm 1 more, List.take_add_one, List.append_assoc]
  rw [missed, missed, first, second, List.filter_append, List.filter_append, List.filter_append, List.filter_cons]
  simp only [List.length_append, List.length_cons]
  have taken : ((if decide (item ∉ seen) = true then item :: (after.take more).filter fun other => decide (other ∉ seen)
      else (after.take more).filter fun other => decide (other ∉ seen))).length =
        ((after.take more).filter fun other => decide (other ∉ seen)).length + if item ∈ seen then 0 else 1 := by
    by_cases held : item ∈ seen <;> simp [held]
  rw [taken]
  by_cases inside : more < after.length
  · have next : after[more]? = some after[more] := List.getElem?_eq_getElem inside
    have unseen : after[more] ∉ seen := by
      refine ahead _ ?_
      rw [Nat.add_assoc, List.drop_length_add_append, Nat.add_comm 1 more, List.drop_succ_cons]
      rw [List.drop_eq_getElem_cons inside]
      exact List.mem_cons_self ..
    rw [next]
    simp only [Option.toList_some, List.filter_cons, unseen, not_false_eq_true, decide_true, if_true, List.filter_nil,
      List.length_singleton]
    omega
  · have next : after[more]? = none := List.getElem?_eq_none (by omega)
    rw [next]
    simp only [Option.toList_none, List.filter_nil, List.length_nil]
    omega

theorem Iterated.erase (iterated : Iterated items seen index) (distinct : items.Nodup) (present : item ∈ items) :
    Iterated (items.erase item) seen index := by
  have counts := gone_erase iterated.once distinct present
  obtain ⟨before, after, whole⟩ := List.append_of_mem present
  have apart : item ∉ before := by
    intro early
    rw [whole, List.nodup_append] at distinct
    exact distinct.2.2 item early item (List.mem_cons_self ..) rfl
  have erased : items.erase item = before ++ after := by
    rw [whole, List.erase_append_right _ apart, List.erase_cons_head]
  have ahead := iterated.ahead
  have balance := iterated.balance
  refine ⟨iterated.once, fun other listed => ?_, ?_⟩
  · rw [erased] at listed
    rw [whole] at ahead
    exact ahead other (mem_drop_of_erase listed)
  · rw [counts, ← balance, erased]
    rw [whole] at ahead ⊢
    by_cases behind : before.length < index
    · have shifted := missed_erase behind ahead
      split at shifted <;> rename_i held <;> simp only [held, if_true, if_false] <;> omega
    · have unseen : item ∉ seen := by
        refine ahead item ?_
        rw [List.drop_append]
        refine List.mem_append_right _ ?_
        have start : index - before.length = 0 := by omega
        rw [start, List.drop_zero]
        exact List.mem_cons_self ..
      have same : missed (before ++ after) seen index = missed (before ++ item :: after) seen index := by
        rw [missed, missed, List.take_append_of_le_length (by omega), List.take_append_of_le_length (by omega)]
      rw [same, if_neg unseen]
      simp only [List.length_append, List.length_cons]
      omega

/-- When the loop ends it has passed over no more items than are gone of those it has seen. -/
theorem Iterated.ends (iterated : Iterated items seen index) (last : items.drop index = []) :
    (items.filter fun item => item ∉ seen).length ≤ gone items seen := by
  have beyond : items.length ≤ index := List.drop_eq_nil_iff.mp last
  have balance := iterated.balance
  rw [missed, List.take_of_length_le beyond] at balance
  omega

end MeshTalk.Library
