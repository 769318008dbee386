import Mathlib.Algebra.BigOperators.Group.List.Basic
import Mathlib.Algebra.GroupWithZero.Nat
import Mathlib.Algebra.Order.BigOperators.Group.List
import Mathlib.Algebra.Order.Group.Defs
import Mathlib.Algebra.Order.Group.Nat
import Mathlib.Algebra.Order.Group.Unbundled.Basic
import Mathlib.Data.List.Induction

namespace MeshTalk.Library

/-! # Limits over every window

A log of stamped entries keeps to a limit in every window of a given length as
soon as each entry keeps to it together with the recent entries before it.
-/

section Windows

variable {α β : Type} [AddCommGroup α] [LinearOrder α]

/-- The weight of the entries stamped in the window of a length that begins at `start`. -/
def windowTotal (stamp : β → α) (weight : β → Nat) (length start : α) (log : List β) : Nat :=
  ((log.filter fun entry => decide (start ≤ stamp entry) && decide (stamp entry < start + length)).map weight).sum

/-- The weight of the entries younger than a length. -/
def recentTotal (stamp : β → α) (weight : β → Nat) (length now : α) (log : List β) : Nat :=
  ((log.filter fun entry => decide (now - stamp entry < length)).map weight).sum

/-- The stamps younger than a length. -/
def recentStamps (length now : α) (stamps : List α) : List α := stamps.filter fun found => decide (now - found < length)

/-- Each entry keeps to the limit together with the recent ones before it. -/
def Paced (stamp : β → α) (weight : β → Nat) (length : α) (limit : Nat) (log : List β) : Prop :=
  ∀ before entry after, log = before ++ [entry] ++ after →
    recentTotal stamp weight length (stamp entry) before + weight entry ≤ limit

variable {stamp : β → α} {weight : β → Nat} {length start now : α} {limit : Nat} {log : List β} {entry : β}

theorem windowTotal_nil : windowTotal stamp weight length start [] = 0 := rfl

theorem windowTotal_append {later : List β} : windowTotal stamp weight length start (log ++ later) =
    windowTotal stamp weight length start log + windowTotal stamp weight length start later := by
  rw [windowTotal, List.filter_append, List.map_append, List.sum_append]
  rfl

theorem recentTotal_append {later : List β} : recentTotal stamp weight length now (log ++ later) =
    recentTotal stamp weight length now log + recentTotal stamp weight length now later := by
  rw [recentTotal, List.filter_append, List.map_append, List.sum_append]
  rfl

/-- Without weights a total is a count. -/
theorem recentTotal_one :
    recentTotal stamp (fun _ => 1) length now log = (log.filter fun entry => decide (now - stamp entry < length)).length := by
  rw [recentTotal, List.map_const', List.sum_replicate_nat, Nat.mul_one]

theorem recentTotal_le_total : recentTotal stamp weight length now log ≤ (log.map weight).sum :=
  (List.filter_sublist.map weight).sum_le_sum fun _ _ => Nat.zero_le _

theorem recentTotal_eq : recentTotal stamp (fun _ => 1) length now log = (recentStamps length now (log.map stamp)).length := by
  rw [recentTotal_one, recentStamps, List.filter_map, List.length_map]
  rfl

theorem recentStamps_append {first second : List α} :
    recentStamps length now (first ++ second) = recentStamps length now first ++ recentStamps length now second :=
  List.filter_append _ _

/-- Entries that are all too old weigh nothing. -/
theorem recentTotal_of_old (old : ∀ entry ∈ log, length ≤ now - stamp entry) :
    recentTotal stamp weight length now log = 0 := by
  have none : (log.filter fun entry => decide (now - stamp entry < length)) = [] :=
    List.filter_eq_nil_iff.mpr fun entry member recent => absurd (of_decide_eq_true recent) (not_lt.mpr (old entry member))
  rw [recentTotal, none]
  rfl

theorem paced_nil : Paced stamp weight length limit [] := by
  intro before entry after split
  have empty := congrArg List.length split
  simp only [List.length_append, List.length_cons, List.length_nil] at empty
  omega

theorem Paced.append (paced : Paced stamp weight length limit log)
    (fits : recentTotal stamp weight length (stamp entry) log + weight entry ≤ limit) :
    Paced stamp weight length limit (log ++ [entry]) := by
  intro before other after split
  rcases List.eq_nil_or_concat after with rfl | ⟨rest, last, rfl⟩
  · rw [List.append_nil] at split
    obtain ⟨same, lasts⟩ := List.append_inj' split rfl
    cases lasts
    rw [← same]
    exact fits
  · rw [List.concat_eq_append, ← List.append_assoc] at split
    exact paced before other rest (List.append_inj' split rfl).1

theorem Paced.ofAppend (paced : Paced stamp weight length limit (log ++ [entry])) :
    Paced stamp weight length limit log ∧ recentTotal stamp weight length (stamp entry) log + weight entry ≤ limit := by
  refine ⟨?_, paced log entry [] (List.append_nil _).symm⟩
  intro before other after split
  exact paced before other (after ++ [entry]) (by rw [split, List.append_assoc])

variable [IsOrderedAddMonoid α]

/-- What is young later is young now. -/
theorem recentStamps_later {stamps : List α} {later : α} (passed : now ≤ later) :
    recentStamps length later (recentStamps length now stamps) = recentStamps length later stamps := by
  rw [recentStamps, recentStamps, List.filter_filter]
  refine List.filter_congr fun found _ => ?_
  by_cases recent : later - found < length
  · have before : now - found < length := lt_of_le_of_lt (sub_le_sub_right passed found) recent
    simp only [recent, before, decide_true, Bool.and_self]
  · simp only [recent, decide_false, Bool.false_and]

theorem recentStamps_length_le {stamps : List α} {later : α} (passed : now ≤ later) :
    (recentStamps length later stamps).length ≤ (recentStamps length now stamps).length := by
  rw [← recentStamps_later passed]
  exact List.length_filter_le _ _

/-- What falls into a window that ends with an entry is recent at that entry. -/
theorem windowTotal_le_recentTotal (inside : stamp entry < start + length) :
    windowTotal stamp weight length start log ≤ recentTotal stamp weight length (stamp entry) log := by
  induction log with
  | nil => exact Nat.le_refl _
  | cons first rest ih =>
      have head : windowTotal stamp weight length start [first] ≤ recentTotal stamp weight length (stamp entry) [first] := by
        rw [windowTotal, recentTotal, List.filter_singleton, List.filter_singleton]
        by_cases within : start ≤ stamp first ∧ stamp first < start + length
        · have recent : stamp entry - stamp first < length := by
            rw [sub_lt_iff_lt_add']
            exact lt_of_lt_of_le inside (by rw [add_comm start]; rw [add_comm (stamp first)]; exact add_le_add_right within.1 _)
          simp only [within.1, within.2, recent, decide_true, Bool.and_self, cond_true, le_refl]
        · have outside : (decide (start ≤ stamp first) && decide (stamp first < start + length)) = false := by
            rw [Bool.eq_false_iff]
            intro both
            rw [Bool.and_eq_true, decide_eq_true_eq, decide_eq_true_eq] at both
            exact within both
          rw [outside]
          exact Nat.zero_le _
      rw [← List.singleton_append, windowTotal_append, recentTotal_append]
      exact Nat.add_le_add head ih

/-- A log whose every entry keeps to the limit keeps to it in every window. -/
theorem Paced.windowTotal_le (paced : Paced stamp weight length limit log) :
    windowTotal stamp weight length start log ≤ limit := by
  induction log using List.reverseRecOn with
  | nil => exact Nat.zero_le _
  | append_singleton before last ih =>
      obtain ⟨earlier, fits⟩ := paced.ofAppend
      rw [windowTotal_append]
      by_cases within : start ≤ stamp last ∧ stamp last < start + length
      · have recent : windowTotal stamp weight length start before ≤ recentTotal stamp weight length (stamp last) before :=
          windowTotal_le_recentTotal within.2
        have single : windowTotal stamp weight length start [last] = weight last := by
          rw [windowTotal, List.filter_singleton]
          simp only [within.1, within.2, decide_true, Bool.and_self, cond_true, List.map_cons, List.map_nil, List.sum_cons,
            List.sum_nil, Nat.add_zero]
        omega
      · have outside : windowTotal stamp weight length start [last] = 0 := by
          have excluded : (decide (start ≤ stamp last) && decide (stamp last < start + length)) = false := by
            rw [Bool.eq_false_iff]
            intro both
            rw [Bool.and_eq_true, decide_eq_true_eq, decide_eq_true_eq] at both
            exact within both
          rw [windowTotal, List.filter_singleton, excluded]
          rfl
        have bound := ih earlier
        omega

end Windows

end MeshTalk.Library
