import Mathlib.Data.List.Nodup

namespace MeshTalk.Library

/-! # Lists without the repetitions -/

variable {α : Type u} [DecidableEq α] {first second items : List α}

theorem nodup_eraseDups : items.eraseDups.Nodup := by
  induction length : items.length using Nat.strongRecOn generalizing items with
  | ind bound ih =>
      cases items with
      | nil => exact List.nodup_nil
      | cons item rest =>
          rw [List.eraseDups_cons, List.nodup_cons]
          refine ⟨fun again => ?_, ?_⟩
          · rw [List.mem_eraseDups, List.mem_filter] at again
            simp at again
          · have shorter : (rest.filter fun found => !found == item).length < bound := by
              rw [← length, List.length_cons]
              exact Nat.lt_succ_of_le (List.length_filter_le _ _)
            exact ih _ shorter rfl

theorem eraseDups_of_nodup (distinct : items.Nodup) : items.eraseDups = items := by
  induction items with
  | nil => rfl
  | cons item rest ih =>
      obtain ⟨absent, remaining⟩ := List.nodup_cons.mp distinct
      have kept : (rest.filter fun found => !found == item) = rest := by
        rw [List.filter_eq_self]
        intro found member
        have other : found ≠ item := fun same => absent (same ▸ member)
        simp [other]
      rw [List.eraseDups_cons, kept, ih remaining]

theorem eraseDups_eq_self_iff : items.eraseDups = items ↔ items.Nodup :=
  ⟨fun same => same ▸ nodup_eraseDups, eraseDups_of_nodup⟩

/-- What is appended to a list adds nothing when the list has it all. -/
theorem eraseDups_append_eq_self_iff : (first ++ second).eraseDups = first ↔ first.Nodup ∧ ∀ item ∈ second, item ∈ first := by
  constructor
  · intro same
    refine ⟨same ▸ nodup_eraseDups, fun item member => ?_⟩
    rw [← same, List.mem_eraseDups]
    exact List.mem_append_right first member
  · intro ⟨distinct, known⟩
    have nothing : second.removeAll first = [] := by
      rw [List.removeAll, List.filter_eq_nil_iff]
      intro item member
      simpa using known item member
    rw [List.eraseDups_append, eraseDups_of_nodup distinct, nothing, List.eraseDups_nil, List.append_nil]

end MeshTalk.Library
