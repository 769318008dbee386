import Mathlib.Data.List.DropRight

namespace MeshTalk.Library

/-! # Lists with both ends trimmed -/

variable {drops : α → Bool} {items : List α}

/-- The list without the items at either end that are to be dropped. -/
def trim (drops : α → Bool) (items : List α) : List α := (items.dropWhile drops).rdropWhile drops

/-- Neither end of the list is to be dropped. -/
structure Trimmed (drops : α → Bool) (items : List α) : Prop where
  first : ∀ item ∈ items.head?, drops item = false
  last : ∀ item ∈ items.getLast?, drops item = false

theorem head?_rdropWhile_of_some {item : α} (found : item ∈ (items.rdropWhile drops).head?) : item ∈ items.head? := by
  obtain ⟨dropped, whole⟩ := List.rdropWhile_prefix drops items
  rw [← whole]
  cases kept : items.rdropWhile drops with
  | nil =>
      rw [kept] at found
      cases found
  | cons first rest =>
      rw [kept] at found
      exact found

theorem getLast?_rdropWhile {item : α} (found : item ∈ (items.rdropWhile drops).getLast?) : drops item = false := by
  have present : items.rdropWhile drops ≠ [] := by
    intro nothing
    rw [nothing] at found
    cases found
  have last := List.rdropWhile_last_not drops items present
  rw [Option.mem_def, List.getLast?_eq_some_getLast present] at found
  rw [← Option.some.inj found]
  exact Bool.eq_false_iff.mpr last

theorem head?_rdropWhile_cons {first : α} {rest : List α} (kept : drops first = false) :
    ((first :: rest).rdropWhile drops).head? = some first := by
  cases found : (first :: rest).rdropWhile drops with
  | nil =>
      have dropped := List.rdropWhile_eq_nil_iff.mp found first (List.mem_cons_self ..)
      rw [kept] at dropped
      cases dropped
  | cons head tail =>
      have whole : head ∈ (first :: rest).head? := head?_rdropWhile_of_some (by rw [found]; rfl)
      exact whole.symm

theorem trim_trimmed : Trimmed drops (trim drops items) where
  first := by
    intro item found
    have before := head?_rdropWhile_of_some found
    have stopped := List.head?_dropWhile_not drops items
    rw [Option.mem_def] at before
    rw [before] at stopped
    simpa using stopped
  last := fun item found => getLast?_rdropWhile found

theorem Trimmed.trim (trimmed : Trimmed drops items) : trim drops items = items := by
  have front : items.dropWhile drops = items := by
    cases items with
    | nil => rfl
    | cons first rest => exact List.dropWhile_cons_of_neg (by rw [trimmed.first first rfl]; exact Bool.false_ne_true)
  rw [Library.trim, front, List.rdropWhile_eq_self_iff]
  intro present
  rw [trimmed.last _ (List.getLast?_eq_some_getLast present)]
  exact Bool.false_ne_true

theorem head?_trim_cons {first : α} {rest : List α} (kept : drops first = false) :
    (Library.trim drops (first :: rest)).head? = some first := by
  rw [Library.trim, List.dropWhile_cons_of_neg (by rw [kept]; exact Bool.false_ne_true)]
  exact head?_rdropWhile_cons kept

theorem trim_eq_self : trim drops items = items ↔ Trimmed drops items :=
  ⟨fun same => same ▸ trim_trimmed, Trimmed.trim⟩

theorem trim_sublist : (trim drops items).Sublist items :=
  (List.rdropWhile_prefix drops _).sublist.trans (List.dropWhile_sublist drops)

/-- Trimming looks only at whether an item is to be dropped. -/
theorem trim_map {f : α → α} (same : ∀ item, drops (f item) = drops item) : trim drops (items.map f) = (trim drops items).map f := by
  have unchanged : drops ∘ f = drops := funext same
  rw [trim, List.dropWhile_map, unchanged, trim, List.rdropWhile, ← List.map_reverse, List.dropWhile_map, unchanged,
    ← List.map_reverse, List.rdropWhile]

theorem dropWhile_before {front behind : List α} {item : α} (kept : drops item = false) :
    (front ++ item :: behind).dropWhile drops = front.dropWhile drops ++ item :: behind := by
  induction front with
  | nil => exact List.dropWhile_cons_of_neg (by rw [kept]; exact Bool.false_ne_true)
  | cons first rest ih =>
      rw [List.cons_append]
      cases dropped : drops first with
      | true => rw [List.dropWhile_cons_of_pos dropped, List.dropWhile_cons_of_pos dropped, ih]
      | false =>
          have stays : ¬ drops first = true := by rw [dropped]; exact Bool.false_ne_true
          rw [List.dropWhile_cons_of_neg stays, List.dropWhile_cons_of_neg stays, List.cons_append]

theorem rdropWhile_after {front behind : List α} {item : α} (kept : drops item = false) :
    (front ++ item :: behind).rdropWhile drops = front ++ item :: behind.rdropWhile drops := by
  unfold List.rdropWhile
  rw [List.reverse_append, List.reverse_cons, List.append_assoc, List.singleton_append, dropWhile_before kept,
    List.reverse_append, List.reverse_cons, List.reverse_reverse, List.append_assoc, List.singleton_append]

/-- Trimming around a middle of which nothing is dropped. -/
theorem trim_around {front middle behind : List α} (present : middle ≠ []) (kept : ∀ item ∈ middle, drops item = false) :
    trim drops (front ++ middle ++ behind) = front.dropWhile drops ++ middle ++ behind.rdropWhile drops := by
  obtain ⟨first, more, rfl⟩ := List.exists_cons_of_ne_nil present
  have whole : first :: more = (first :: more).dropLast ++ [(first :: more).getLast present] :=
    (List.dropLast_append_getLast present).symm
  rw [trim, List.append_assoc, List.cons_append, dropWhile_before (kept first List.mem_cons_self), ← List.cons_append, whole,
    List.append_assoc, List.singleton_append, ← List.append_assoc, rdropWhile_after (kept _ (List.getLast_mem present))]
  simp only [List.append_assoc, List.singleton_append]

end MeshTalk.Library
