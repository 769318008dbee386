import Mathlib.Data.List.Basic

namespace MeshTalk.Library

/-! # Places in a text that changes

Comparing a text with the one before yields a change: what is before it and what is
after it is the same in both.  Places apart from the change move with the text.
-/

variable {text prev next : List α} {start stop position : Nat}

/-- `text.slice(start, stop)`. -/
def slice (text : List α) (start stop : Nat) : List α := (text.drop start).take (stop - start)

/-- A slice is a matter of the units before its end. -/
theorem slice_take (bound : Nat) (inside : stop ≤ bound) : slice (text.take bound) start stop = slice text start stop := by
  rw [slice, slice, List.drop_take, List.take_take]
  congr 1
  omega

theorem slice_drop (position : Nat) : slice (text.drop position) start stop = slice text (position + start) (position + stop) := by
  rw [slice, slice, List.drop_drop]
  congr 1
  omega

theorem slice_append_left {later : List α} (inside : stop ≤ text.length) : slice (text ++ later) start stop = slice text start stop := by
  have whole : (text ++ later).take text.length = text := List.take_left
  rw [← slice_take text.length inside, whole]

theorem take_slice_drop (ordered : start ≤ stop) : text.take start ++ slice text start stop ++ text.drop stop = text := by
  have later : text.drop stop = (text.drop start).drop (stop - start) := by
    rw [List.drop_drop]
    congr 1
    omega
  rw [slice, later, List.append_assoc, List.take_append_drop, List.take_append_drop]

/-! ## The change between two texts -/

section Change

variable [DecidableEq α]

def commonLength : List α → List α → Nat
  | first :: rest, second :: others => if first = second then commonLength rest others + 1 else 0
  | _, _ => 0

theorem commonLength_le : commonLength prev next ≤ prev.length ∧ commonLength prev next ≤ next.length := by
  fun_induction commonLength prev next with
  | case1 first rest others ih =>
      simp only [List.length_cons]
      omega
  | case2 => simp
  | case3 => simp

theorem commonLength_take : prev.take (commonLength prev next) = next.take (commonLength prev next) := by
  fun_induction commonLength prev next with
  | case1 first rest others ih => rw [List.take_succ_cons, List.take_succ_cons, ih]
  | case2 => rfl
  | case3 => rfl

structure Change where
  start : Nat
  prevEnd : Nat
  nextEnd : Nat
deriving Repr, DecidableEq

/-- The units that the two texts begin with are left out, then those that they end in. -/
def diff (prev next : List α) : Change :=
  let start := commonLength prev next
  let kept := commonLength (prev.drop start).reverse (next.drop start).reverse
  ⟨start, prev.length - kept, next.length - kept⟩

/-- What a change tells of the two texts. -/
structure Change.Between (prev next : List α) (change : Change) : Prop where
  prevOrdered : change.start ≤ change.prevEnd
  nextOrdered : change.start ≤ change.nextEnd
  prevInside : change.prevEnd ≤ prev.length
  nextInside : change.nextEnd ≤ next.length
  before : prev.take change.start = next.take change.start
  after : prev.drop change.prevEnd = next.drop change.nextEnd

theorem diff_between : (diff prev next).Between prev next := by
  obtain ⟨prevStart, nextStart⟩ := @commonLength_le α prev next _
  have bounds := @commonLength_le α (prev.drop (commonLength prev next)).reverse (next.drop (commonLength prev next)).reverse _
  simp only [List.length_reverse, List.length_drop] at bounds
  refine ⟨?_, ?_, Nat.sub_le _ _, Nat.sub_le _ _, commonLength_take, ?_⟩
  · simp only [diff]
    omega
  · simp only [diff]
    omega
  · have ends := congrArg List.reverse
      (@commonLength_take α (prev.drop (commonLength prev next)).reverse (next.drop (commonLength prev next)).reverse _)
    rw [List.reverse_take, List.reverse_take, List.reverse_reverse, List.reverse_reverse, List.drop_drop, List.drop_drop] at ends
    simp only [List.length_reverse, List.length_drop] at ends
    have prevEnd : commonLength prev next + (prev.length - commonLength prev next -
        commonLength (prev.drop (commonLength prev next)).reverse (next.drop (commonLength prev next)).reverse) =
          (diff prev next).prevEnd := by
      simp only [diff]
      omega
    have nextEnd : commonLength prev next + (next.length - commonLength prev next -
        commonLength (prev.drop (commonLength prev next)).reverse (next.drop (commonLength prev next)).reverse) =
          (diff prev next).nextEnd := by
      simp only [diff]
      omega
    rw [prevEnd, nextEnd] at ends
    exact ends

variable {change : Change}

omit [DecidableEq α] in
theorem Change.Between.slice_before (between : change.Between prev next) (early : stop ≤ change.start) :
    slice next start stop = slice prev start stop := by
  rw [← slice_take change.start early, ← between.before, slice_take change.start early]

omit [DecidableEq α] in
theorem Change.Between.slice_after (between : change.Between prev next) (late : change.prevEnd ≤ start) (ordered : start ≤ stop) :
    slice next (start + change.nextEnd - change.prevEnd) (stop + change.nextEnd - change.prevEnd) = slice prev start stop := by
  have first := @slice_drop α prev (start - change.prevEnd) (stop - change.prevEnd) change.prevEnd
  have second := @slice_drop α next (start - change.prevEnd) (stop - change.prevEnd) change.nextEnd
  rw [between.after, second] at first
  have one : change.prevEnd + (start - change.prevEnd) = start := by omega
  have two : change.prevEnd + (stop - change.prevEnd) = stop := by omega
  have three : change.nextEnd + (start - change.prevEnd) = start + change.nextEnd - change.prevEnd := by omega
  have four : change.nextEnd + (stop - change.prevEnd) = stop + change.nextEnd - change.prevEnd := by omega
  rwa [one, two, three, four] at first

omit [DecidableEq α] in
/-- Both texts are as long after the change. -/
theorem Change.Between.lengths (between : change.Between prev next) :
    prev.length + change.nextEnd = next.length + change.prevEnd := by
  have sizes := congrArg List.length between.after
  simp only [List.length_drop] at sizes
  have := between.prevInside
  have := between.nextInside
  omega

/-- A change ends before two different units that the same text follows. -/
theorem diff_ends_before {front removed inserted later : List α} {old new : α} (different : old ≠ new) :
    front.length + inserted.length < (diff (front ++ (removed ++ [old]) ++ later) (front ++ (inserted ++ [new]) ++ later)).nextEnd := by
  have between := @diff_between α (front ++ (removed ++ [old]) ++ later) (front ++ (inserted ++ [new]) ++ later) _
  generalize diff (front ++ (removed ++ [old]) ++ later) (front ++ (inserted ++ [new]) ++ later) = change at between
  by_contra short
  have lengths := between.lengths
  have inside := between.prevInside
  simp only [List.length_append, List.length_singleton] at lengths inside
  have units := congrArg (·[front.length + inserted.length - change.nextEnd]?) between.after
  simp only [List.getElem?_drop] at units
  have early : change.prevEnd + (front.length + inserted.length - change.nextEnd) = (front ++ removed).length := by
    rw [List.length_append]
    omega
  have late : change.nextEnd + (front.length + inserted.length - change.nextEnd) = (front ++ inserted).length := by
    rw [List.length_append]
    omega
  have first : front ++ (removed ++ [old]) ++ later = (front ++ removed) ++ old :: later := by simp
  have second : front ++ (inserted ++ [new]) ++ later = (front ++ inserted) ++ new :: later := by simp
  rw [early, late, first, second, List.getElem?_append_right (Nat.le_refl _), List.getElem?_append_right (Nat.le_refl _)] at units
  simp only [Nat.sub_self, List.getElem?_cons_zero, Option.some.injEq] at units
  exact different units

end Change

/-! ## Putting other units in places of a text -/

section Splice

variable [DecidableEq α]

/-- Where the old units stand from `start` to `stop`, the new ones are put. -/
structure Splice (α : Type u) where
  start : Nat
  stop : Nat
  old : List α
  new : List α

variable {splice : Splice α} {splices : List (Splice α)}

structure Splice.Fits (text : List α) (splice : Splice α) : Prop where
  ordered : splice.start < splice.stop
  inside : splice.stop ≤ text.length
  found : slice text splice.start splice.stop = splice.old

/-- One that does not fit is passed over. -/
def Splice.apply (text : List α) (splice : Splice α) : List α :=
  if text.length < splice.stop ∨ splice.stop ≤ splice.start then text
  else if slice text splice.start splice.stop ≠ splice.old then text
  else text.take splice.start ++ splice.new ++ text.drop splice.stop

/-- The text with the new units in their places, which are told from first to last. -/
def weave (text : List α) : Nat → List (Splice α) → List α
  | position, [] => text.drop position
  | position, splice :: rest => slice text position splice.start ++ splice.new ++ weave text splice.stop rest

theorem Splice.Fits.apply (fits : splice.Fits text) :
    splice.apply text = text.take splice.start ++ splice.new ++ text.drop splice.stop := by
  have inside := fits.inside
  have ordered := fits.ordered
  rw [Splice.apply, if_neg (by omega), if_neg (by simp [fits.found])]

omit [DecidableEq α] in
/-- What follows a place does not matter for it. -/
theorem Splice.Fits.congr {later : List α} {bound : Nat} (fits : splice.Fits text) (before : splice.stop ≤ bound)
    (inside : bound ≤ text.length) : splice.Fits (text.take bound ++ later) where
  ordered := fits.ordered
  inside := by
    simp only [List.length_append, List.length_take]
    omega
  found := by
    rw [slice_append_left (by rw [List.length_take]; omega), slice_take bound before]
    exact fits.found

/-- Working from the last place to the first, no place moves before its turn. -/
theorem foldr_apply (ascending : splices.Pairwise fun first second => first.stop ≤ second.start)
    (fits : ∀ splice ∈ splices, splice.Fits text) (beyond : ∀ splice ∈ splices, position ≤ splice.start)
    (inside : position ≤ text.length) :
    splices.foldr (fun splice text => splice.apply text) text = text.take position ++ weave text position splices := by
  induction splices generalizing position with
  | nil => exact (List.take_append_drop position text).symm
  | cons splice rest ih =>
      obtain ⟨ahead, later⟩ := List.pairwise_cons.mp ascending
      have own := fits splice (List.mem_cons_self ..)
      have ordered := own.ordered
      have bound := beyond splice (List.mem_cons_self ..)
      have woven := @ih splice.stop later (fun other listed => fits other (List.mem_cons_of_mem _ listed)) ahead own.inside
      have size : (text.take splice.stop).length = splice.stop := by
        rw [List.length_take]
        exact Nat.min_eq_left own.inside
      have front : (text.take splice.stop ++ weave text splice.stop rest).take splice.start = text.take splice.start := by
        rw [List.take_append_of_le_length (by omega), List.take_take, Nat.min_eq_left (Nat.le_of_lt ordered)]
      have back : (text.take splice.stop ++ weave text splice.stop rest).drop splice.stop = weave text splice.stop rest :=
        List.drop_left' size
      have split : text.take splice.start = text.take position ++ slice text position splice.start := by
        have whole := @take_slice_drop α (text.take splice.start) position splice.start bound
        rw [List.take_take, Nat.min_eq_left bound, slice_take splice.start (Nat.le_refl _)] at whole
        rw [List.drop_eq_nil_of_le (by rw [List.length_take]; omega), List.append_nil] at whole
        exact whole.symm
      rw [List.foldr_cons, woven, (own.congr (Nat.le_refl _) own.inside).apply, front, back, weave, split]
      simp only [List.append_assoc]

omit [DecidableEq α] in
/-- New units stand in the woven text, behind units of the text that end where their
place began or behind other new units. -/
theorem mem_weave (beyond : position ≤ splice.start)
    (ascending : splices.Pairwise fun first second => first.stop ≤ second.start) (listed : splice ∈ splices)
    (ahead : ∀ other ∈ splices, position ≤ other.start) (ordered : ∀ other ∈ splices, other.start < other.stop) :
    ∃ front later, weave text position splices = front ++ splice.new ++ later ∧
      ((∃ start, start < splice.start ∧ ∃ earlier, front = earlier ++ slice text start splice.start) ∨
        (front = [] ∧ position = splice.start) ∨ ∃ other ∈ splices, ∃ earlier, front = earlier ++ other.new) := by
  induction splices generalizing position with
  | nil => cases listed
  | cons first rest ih =>
      obtain ⟨far, later⟩ := List.pairwise_cons.mp ascending
      rcases List.mem_cons.mp listed with rfl | inside
      · refine ⟨slice text position splice.start, weave text splice.stop rest, rfl, ?_⟩
        rcases Nat.lt_or_eq_of_le beyond with before | same
        · exact .inl ⟨position, before, [], rfl⟩
        · refine .inr (.inl ⟨?_, same⟩)
          rw [same, slice, Nat.sub_self, List.take_zero]
      · obtain ⟨front, following, woven, found⟩ := ih (far splice inside) later inside far
          (fun other listed => ordered other (List.mem_cons_of_mem _ listed))
        refine ⟨slice text position first.start ++ first.new ++ front, following, ?_, ?_⟩
        · rw [weave, woven]
          simp only [List.append_assoc]
        · rcases found with ⟨start, before, earlier, rfl⟩ | ⟨rfl, -⟩ | ⟨other, listed, earlier, rfl⟩
          · exact .inl ⟨start, before, _, (List.append_assoc ..).symm⟩
          · exact .inr (.inr ⟨first, List.mem_cons_self .., slice text position first.start, by rw [List.append_nil]⟩)
          · exact .inr (.inr ⟨other, List.mem_cons_of_mem _ listed, _, (List.append_assoc ..).symm⟩)

end Splice

end MeshTalk.Library
