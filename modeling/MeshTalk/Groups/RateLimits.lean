import Mathlib.Algebra.Order.Ring.Rat
import MeshTalk.Groups.Presence
import MeshTalk.Library.Windows

namespace MeshTalk.Groups

open MeshTalk.Library MeshTalk.Protocol MeshTalk.Store

/-! # The flood guard over every window

`_check_rate` keeps the stamps of the accepted calls of each key, and forgets the
keys it has known longest once it knows too many.
-/

def groupAckBurst : Nat := 120

inductive Bucket where
  | direct | relayed | peer | ack
deriving DecidableEq, Repr

namespace Bucket

def name : Bucket → String
  | direct => "direct"
  | relayed => "relayed"
  | peer => "peer"
  | ack => "ack"

/-- The burst that the handlers pass; the window is the same for all. -/
def burst : Bucket → Nat
  | direct => groupInboundBurst
  | relayed => groupRelayInboundBurst
  | peer => groupPeerBurst
  | ack => groupAckBurst

theorem name_injective {first second : Bucket} (same : first.name = second.name) : first = second := by
  cases first <;> cases second <;> first | rfl | exact absurd same (by decide)

theorem burst_pos (bucket : Bucket) : 0 < bucket.burst := by cases bucket <;> decide

end Bucket

/-- A call for one sender or transport peer. -/
structure RateCall where
  bucket : Bucket
  peerId : PeerId
  now : Time
deriving DecidableEq, Repr

namespace RateCall

def key (call : RateCall) : String × String := (call.bucket.name, call.peerId)

def check (call : RateCall) : MemberAction Bool :=
  checkRate call.bucket.name call.peerId call.bucket.burst groupInboundWindowSeconds call.now

end RateCall

/-- `accepted` and `clock` are auxiliary: the calls accepted so far, and the time
of the last call. -/
structure RateRun where
  node : MemberNode
  accepted : List RateCall
  clock : Time

namespace RateRun

/-- A call; the clock does not go back. -/
def step (state : RateRun) (call : RateCall) : Option RateRun :=
  if state.clock ≤ call.now then
    match call.check state.node with
    | (.ok true, node) => some { node, accepted := state.accepted ++ [call], clock := call.now }
    | (.ok false, node) => some { node, accepted := state.accepted, clock := call.now }
    | (.error _, _) => none
  else none

variable (state : RateRun)

def acceptedOf (key : String × String) : List RateCall := state.accepted.filter fun call => call.key = key

def hitsOf (key : String × String) : List Time := (state.node.inboundHits.get? key).getD []

/-- How many calls of a key were accepted less than a window ago. -/
def recent (key : String × String) (now : Time) : Nat :=
  recentTotal RateCall.now (fun _ => 1) groupInboundWindowSeconds now (state.acceptedOf key)

/-- How many calls of a key were accepted in the window that begins at `start`. -/
def acceptedWithin (key : String × String) (start : Time) : Nat :=
  windowTotal RateCall.now (fun _ => 1) groupInboundWindowSeconds start (state.acceptedOf key)

def accepts (call : RateCall) : Bool :=
  match (call.check state.node).1 with
  | .ok admitted => admitted
  | .error _ => false

/-- The keys beyond the bound that a call makes the guard forget. -/
def forgotten (call : RateCall) : List (String × String) :=
  let known := state.node.inboundHits.set call.key []
  known.keys.take (known.size - maxInboundHits)

/-- The call forgets no key with an accepted call inside the window. -/
def ForgetsStale (call : RateCall) : Prop :=
  ∀ key ∈ state.forgotten call, ∀ hit ∈ state.hitsOf key, groupInboundWindowSeconds ≤ call.now - hit

instance : Decidable (state.ForgetsStale call) :=
  inferInstanceAs (Decidable (∀ key ∈ state.forgotten call, ∀ hit ∈ state.hitsOf key, groupInboundWindowSeconds ≤ call.now - hit))

def begin (node : MemberNode) (clock : Time) : RateRun := { node, accepted := [], clock }

end RateRun

/-! ## One call -/

variable {state next : RateRun} {call : RateCall} {key : String × String} {node : MemberNode}

/-- The stamps of the called key that are still inside the window. -/
def liveHits (node : MemberNode) (call : RateCall) : List Time :=
  ((node.inboundHits.get? call.key).getD []).filter fun hit => decide (call.now - hit < groupInboundWindowSeconds)

theorem check_refused (full : call.bucket.burst ≤ (liveHits node call).length) :
    call.check node = (.ok false, { node with inboundHits := node.inboundHits.set call.key (liveHits node call) }) := by
  unfold RateCall.check checkRate
  rw [Handler.bind_apply]
  exact congrFun (if_pos full) node

theorem check_accepted (free : ¬ call.bucket.burst ≤ (liveHits node call).length) :
    call.check node = (.ok true, { node with
      inboundHits := dropOldest (node.inboundHits.set call.key (liveHits node call ++ [call.now])) maxInboundHits }) := by
  unfold RateCall.check checkRate
  rw [Handler.bind_apply]
  exact congrFun (if_neg free) node

/-- What a call does. -/
theorem step_cases (stepped : state.step call = some next) :
    state.clock ≤ call.now ∧ next.clock = call.now ∧
      ((call.bucket.burst ≤ (liveHits state.node call).length ∧ next.accepted = state.accepted ∧
          next.node.inboundHits = state.node.inboundHits.set call.key (liveHits state.node call)) ∨
        ((liveHits state.node call).length < call.bucket.burst ∧ next.accepted = state.accepted ++ [call] ∧
          next.node.inboundHits =
            dropOldest (state.node.inboundHits.set call.key (liveHits state.node call ++ [call.now])) maxInboundHits)) := by
  unfold RateRun.step at stepped
  split at stepped
  · rename_i later
    by_cases full : call.bucket.burst ≤ (liveHits state.node call).length
    · rw [check_refused full] at stepped
      cases stepped
      exact ⟨later, rfl, .inl ⟨full, rfl, rfl⟩⟩
    · rw [check_accepted full] at stepped
      cases stepped
      exact ⟨later, rfl, .inr ⟨Nat.lt_of_not_le full, rfl, rfl⟩⟩
  · cases stepped

theorem accepts_iff : state.accepts call = true ↔ (liveHits state.node call).length < call.bucket.burst := by
  unfold RateRun.accepts
  by_cases full : call.bucket.burst ≤ (liveHits state.node call).length
  · rw [check_refused full]
    exact ⟨nofun, fun free => absurd full (Nat.not_le_of_lt free)⟩
  · rw [check_accepted full]
    exact ⟨fun _ => Nat.lt_of_not_le full, fun _ => rfl⟩

/-! ## Keys that are forgotten -/

section Forgetting

variable [DecidableEq κ] {dict : Dict κ ν} {bound : Nat} {found : κ}

theorem dropOldest_entries : (dropOldest dict bound).entries = dict.entries.drop (dict.size - bound) := by
  have split : dict.entries.take (dict.size - bound) ++ dict.entries.drop (dict.size - bound) = dict.entries :=
    List.take_append_drop _ _
  have keys : dict.keys.take (dict.size - bound) = (dict.entries.take (dict.size - bound)).map Prod.fst := by
    rw [Dict.keys, List.map_take]
  have apart := dict.distinct
  rw [← split, List.map_append, List.nodup_append] at apart
  change dict.entries.filter (fun entry => decide (entry.1 ∉ dict.keys.take (dict.size - bound))) = _
  rw [keys]
  have gone : (dict.entries.take (dict.size - bound)).filter
      (fun entry => decide (entry.1 ∉ (dict.entries.take (dict.size - bound)).map Prod.fst)) = [] := by
    refine List.filter_eq_nil_iff.mpr fun entry member => ?_
    have listed : entry.1 ∈ (dict.entries.take (dict.size - bound)).map Prod.fst := List.mem_map_of_mem member
    simp only [listed, not_true_eq_false, decide_false, Bool.false_eq_true, not_false_eq_true]
  have kept : (dict.entries.drop (dict.size - bound)).filter
      (fun entry => decide (entry.1 ∉ (dict.entries.take (dict.size - bound)).map Prod.fst)) =
        dict.entries.drop (dict.size - bound) := by
    refine List.filter_eq_self.mpr fun entry member => decide_eq_true fun listed => ?_
    exact apart.2.2 entry.1 listed entry.1 (List.mem_map_of_mem member) rfl
  have whole := List.filter_append (p := fun entry : κ × ν =>
      decide (entry.1 ∉ (dict.entries.take (dict.size - bound)).map Prod.fst))
    (dict.entries.take (dict.size - bound)) (dict.entries.drop (dict.size - bound))
  rw [gone, kept, List.nil_append, split] at whole
  exact whole

theorem keys_dropOldest : (dropOldest dict bound).keys = dict.keys.drop (dict.size - bound) := by
  rw [Dict.keys, dropOldest_entries, List.map_drop]
  rfl

theorem size_dropOldest_le : (dropOldest dict bound).size ≤ bound := by
  rw [Dict.size, dropOldest_entries, List.length_drop, ← Dict.size]
  omega

theorem get?_dropOldest_eq : (dropOldest dict bound).get? found =
    if found ∈ dict.keys.take (dict.size - bound) then none else dict.get? found := by
  rw [dropOldest, Dict.get?_filter]
  by_cases doomed : found ∈ dict.keys.take (dict.size - bound)
  · rw [if_pos doomed]
    cases dict.get? found <;> simp [Option.filter, doomed]
  · rw [if_neg doomed]
    cases dict.get? found <;> simp [Option.filter, doomed]

/-- The key that is assigned is not among the oldest. -/
theorem assigned_not_oldest {value : ν} (small : dict.size ≤ bound) (some : 0 < bound) :
    found ∉ (dict.set found value).keys.take ((dict.set found value).size - bound) := by
  rw [Dict.keys_set, Dict.size_set]
  cases known : dict.contains found with
  | true =>
      have none : dict.size - bound = 0 := Nat.sub_eq_zero_of_le small
      rw [if_pos rfl, if_pos rfl, none, List.take_zero]
      exact List.not_mem_nil
  | false =>
      rw [if_neg Bool.false_ne_true, if_neg Bool.false_ne_true]
      have within : dict.size + 1 - bound ≤ dict.keys.length := by
        rw [Dict.keys, List.length_map, ← Dict.size]
        omega
      rw [List.take_append_of_le_length within]
      intro oldest
      obtain ⟨value, held⟩ := Dict.mem_keys_iff.mp (List.mem_of_mem_take oldest)
      rw [Dict.contains, held] at known
      cases known

end Forgetting

/-! ## Runs -/

theorem hitsOf_refused (same : next.node.inboundHits = state.node.inboundHits.set call.key (liveHits state.node call)) :
    next.hitsOf key = if key = call.key then liveHits state.node call else state.hitsOf key := by
  rw [RateRun.hitsOf, same, Dict.get?_set]
  split <;> rfl

theorem keys_set_eq [DecidableEq κ] {dict : Dict κ ν} {found : κ} {first second : ν} :
    (dict.set found first).keys = (dict.set found second).keys ∧ (dict.set found first).size = (dict.set found second).size := by
  rw [Dict.keys_set, Dict.keys_set, Dict.size_set, Dict.size_set]
  exact ⟨rfl, rfl⟩

theorem hitsOf_accepted (small : state.node.inboundHits.size ≤ maxInboundHits)
    (changed : next.node.inboundHits =
      dropOldest (state.node.inboundHits.set call.key (liveHits state.node call ++ [call.now])) maxInboundHits) :
    next.hitsOf key = if key = call.key then liveHits state.node call ++ [call.now]
      else if key ∈ state.forgotten call then [] else state.hitsOf key := by
  have sameKeys := @keys_set_eq _ _ _ state.node.inboundHits call.key (liveHits state.node call ++ [call.now]) []
  rw [RateRun.hitsOf, changed, get?_dropOldest_eq, sameKeys.1, sameKeys.2, Dict.get?_set]
  by_cases own : key = call.key
  · rw [own]
    have kept := @assigned_not_oldest _ _ _ _ _ call.key [] small (by decide)
    rw [if_neg kept, if_pos rfl, if_pos rfl, Option.getD_some]
  · rw [if_neg own, if_neg own]
    split
    · rename_i doomed
      exact (if_pos doomed).symm
    · rename_i kept
      exact (if_neg kept).symm

/-- The guard remembers only calls that it accepted. -/
structure Remembers (state : RateRun) : Prop where
  small : state.node.inboundHits.size ≤ maxInboundHits
  within : ∀ key, (state.hitsOf key).Sublist ((state.acceptedOf key).map RateCall.now)

theorem acceptedOf_append (changed : next.accepted = state.accepted ++ [call]) :
    next.acceptedOf key = if key = call.key then state.acceptedOf key ++ [call] else state.acceptedOf key := by
  rw [RateRun.acceptedOf, changed, List.filter_append]
  by_cases own : key = call.key
  · rw [if_pos own, List.filter_singleton, decide_eq_true own.symm]
    rfl
  · rw [if_neg own, List.filter_singleton, decide_eq_false (Ne.symm own)]
    exact List.append_nil _

theorem acceptedOf_same (same : next.accepted = state.accepted) : next.acceptedOf key = state.acceptedOf key := by
  rw [RateRun.acceptedOf, same]
  rfl

theorem step_remembers (remembers : Remembers state) (stepped : state.step call = some next) : Remembers next := by
  obtain ⟨-, -, ⟨full, accepted, hits⟩ | ⟨-, accepted, hits⟩⟩ := step_cases stepped
  · have known : state.node.inboundHits.contains call.key = true := by
      cases held : state.node.inboundHits.get? call.key with
      | some stamps => rw [Dict.contains, held, Option.isSome_some]
      | none =>
          have positive := call.bucket.burst_pos
          rw [liveHits, held] at full
          exact absurd (Nat.lt_of_lt_of_le positive full) (Nat.lt_irrefl 0)
    refine ⟨?_, fun key => ?_⟩
    · rw [hits, Dict.size_set, if_pos known]
      exact remembers.small
    · rw [hitsOf_refused hits, acceptedOf_same accepted]
      split
      · rename_i own
        subst own
        exact List.filter_sublist.trans (remembers.within call.key)
      · exact remembers.within key
  · refine ⟨by rw [hits]; exact size_dropOldest_le, fun key => ?_⟩
    rw [hitsOf_accepted remembers.small hits, acceptedOf_append accepted]
    by_cases own : key = call.key
    · subst own
      rw [if_pos rfl, if_pos rfl, List.map_append]
      exact (List.filter_sublist.trans (remembers.within call.key)).append (List.Sublist.refl _)
    · rw [if_neg own, if_neg own]
      split
      · exact List.nil_sublist _
      · exact remembers.within key

/-- No accepted call inside the window has been forgotten, and none was one too many. -/
structure Complete (state : RateRun) : Prop where
  remembers : Remembers state
  complete : ∀ key, recentStamps groupInboundWindowSeconds state.clock ((state.acceptedOf key).map RateCall.now) = recentStamps groupInboundWindowSeconds state.clock (state.hitsOf key)
  paced : ∀ bucket peerId, Paced RateCall.now (fun _ => 1) groupInboundWindowSeconds (Bucket.burst bucket)
    (state.acceptedOf (bucket.name, peerId))

theorem Complete.later (complete : Complete state) {now : Time} (passed : state.clock ≤ now) :
    recentStamps groupInboundWindowSeconds now ((state.acceptedOf key).map RateCall.now) = recentStamps groupInboundWindowSeconds now (state.hitsOf key) := by
  rw [← recentStamps_later passed, complete.complete, recentStamps_later passed]

theorem step_complete (complete : Complete state) (stale : state.ForgetsStale call) (stepped : state.step call = some next) :
    Complete next := by
  have remembers := step_remembers complete.remembers stepped
  obtain ⟨passed, clock, ⟨-, accepted, hits⟩ | ⟨free, accepted, hits⟩⟩ := step_cases stepped
  · refine ⟨remembers, fun key => ?_, fun bucket peerId => ?_⟩
    · rw [clock, acceptedOf_same accepted, hitsOf_refused hits, complete.later passed]
      split
      · rename_i own
        subst own
        exact (recentStamps_later le_rfl).symm
      · rfl
    · rw [acceptedOf_same accepted]
      exact complete.paced bucket peerId
  · refine ⟨remembers, fun key => ?_, fun bucket peerId => ?_⟩
    · rw [clock, acceptedOf_append accepted, hitsOf_accepted complete.remembers.small hits]
      by_cases own : key = call.key
      · subst own
        have same : recentStamps groupInboundWindowSeconds call.now (liveHits state.node call) = recentStamps groupInboundWindowSeconds call.now (state.hitsOf call.key) := recentStamps_later le_rfl
        rw [if_pos rfl, if_pos rfl, List.map_append, recentStamps_append, recentStamps_append]
        exact congrArg (· ++ recentStamps groupInboundWindowSeconds call.now [call.now]) ((complete.later passed).trans same.symm)
      · rw [if_neg own, if_neg own, complete.later passed]
        split
        · rename_i doomed
          refine List.filter_eq_nil_iff.mpr fun stamp held => ?_
          rw [decide_eq_true_eq, not_lt]
          exact stale key doomed stamp held
        · rfl
    · rw [acceptedOf_append accepted]
      split
      · rename_i own
        have same : bucket = call.bucket := Bucket.name_injective (Prod.ext_iff.mp own).1
        refine (complete.paced bucket peerId).append ?_
        rw [recentTotal_eq, own, complete.later passed, same]
        exact free
      · exact complete.paced bucket peerId

theorem begin_complete {clock : Time} (empty : node.inboundHits = ∅) : Complete (.begin node clock) where
  remembers := ⟨by rw [RateRun.begin, empty]; exact Nat.zero_le _, fun key => by
    rw [RateRun.hitsOf, RateRun.begin, empty]
    exact List.nil_sublist _⟩
  complete := fun key => by
    rw [RateRun.hitsOf, RateRun.begin, empty]
    rfl
  paced := fun _ _ => paced_nil

/-- In every run of calls a call is refused only if its key has used up its burst
inside the window; and where no key is forgotten that has an accepted call inside
the window, no window of any key holds more accepted calls than the burst. -/
theorem bursts_are_kept {clock : Time} {calls : List RateCall} {final : RateRun} (empty : node.inboundHits = ∅)
    (completed : run RateRun.step (.begin node clock) calls = some final) :
    (∀ call : RateCall, final.accepts call = false → call.bucket.burst ≤ final.recent call.key call.now) ∧
      (Meets RateRun.step RateRun.ForgetsStale (.begin node clock) calls →
        ∀ bucket peerId start, final.acceptedWithin (Bucket.name bucket, peerId) start ≤ bucket.burst) := by
  have initial := @begin_complete node clock empty
  have remembers : Remembers final := reachable_invariant
    (fun _ _ _ remembers stepped => step_remembers remembers stepped) initial.remembers ⟨calls, completed⟩
  refine ⟨fun call refused => ?_, fun meets bucket peerId start => ?_⟩
  · have full : call.bucket.burst ≤ (liveHits final.node call).length := by
      by_contra free
      rw [accepts_iff.mpr (Nat.lt_of_not_le free)] at refused
      cases refused
    rw [RateRun.recent, recentTotal_eq]
    exact full.trans ((remembers.within call.key).filter _).length_le
  · have complete : Complete final := run_invariant Complete
      (fun _ _ _ complete stale stepped => step_complete complete stale stepped) initial meets completed
    exact (complete.paced bucket peerId).windowTotal_le

def calls (peerId : PeerId) (times : List Time) : List RateCall := times.map fun now => { bucket := .direct, peerId, now }

/-- Two calls of Bob a minute apart. -/
theorem bob_within_burst :
    ∃ final, run RateRun.step (.begin emptyMemberNode 0) (calls "bob" [0, 60]) = some final ∧
      (∀ call : RateCall, final.accepts call = false → call.bucket.burst ≤ final.recent call.key call.now) ∧
      ∀ bucket peerId start, final.acceptedWithin (Bucket.name bucket, peerId) start ≤ bucket.burst := by
  have completed : (run RateRun.step (.begin emptyMemberNode 0) (calls "bob" [0, 60])).isSome = true := by decide +kernel
  have meets : Meets RateRun.step RateRun.ForgetsStale (.begin emptyMemberNode 0) (calls "bob" [0, 60]) := by decide +kernel
  obtain ⟨final, completed⟩ := Option.isSome_iff_exists.mp completed
  have kept := bursts_are_kept rfl completed
  exact ⟨final, completed, kept.1, kept.2 meets⟩

/-! ## A flood of fresh keys -/

/-- One call under a key that only this caller uses. -/
def stranger (index : Nat) : RateCall where
  bucket := .direct
  peerId := String.ofList (List.replicate (index + 1) 'a')
  now := 0

theorem stranger_injective {first second : Nat} (same : (stranger first).key = (stranger second).key) : first = second := by
  have texts := String.ofList_injective (Prod.ext_iff.mp same).2
  have lengths := congrArg List.length texts
  rw [List.length_replicate, List.length_replicate] at lengths
  exact Nat.succ.inj lengths

theorem fresh_accepted (early : state.clock ≤ call.now) (fresh : call.key ∉ state.node.inboundHits.keys) :
    ∃ next, state.step call = some next ∧ next.clock = call.now ∧ next.accepted = state.accepted ++ [call] ∧
      next.node.inboundHits.keys = (state.node.inboundHits.keys ++ [call.key]).drop
        (state.node.inboundHits.size + 1 - maxInboundHits) := by
  have unknown : state.node.inboundHits.get? call.key = none := by
    rw [Option.eq_none_iff_forall_ne_some]
    exact fun stamps held => fresh (Dict.mem_keys_of_get? held)
  have none : liveHits state.node call = [] := by rw [liveHits, unknown]; rfl
  have free : ¬ call.bucket.burst ≤ (liveHits state.node call).length := by
    rw [none]
    exact Nat.not_le_of_lt call.bucket.burst_pos
  have absent : state.node.inboundHits.contains call.key = false := by rw [Dict.contains, unknown, Option.isSome_none]
  refine ⟨_, by rw [RateRun.step, if_pos early, check_accepted free], rfl, rfl, ?_⟩
  change Dict.keys (dropOldest _ _) = _
  rw [keys_dropOldest, Dict.keys_set, Dict.size_set, absent]
  rfl

/-- Callers under fresh keys are all accepted, and displace the keys known before. -/
theorem strangers_accepted (count : Nat) (early : state.clock = 0) (small : state.node.inboundHits.size ≤ maxInboundHits)
    (apart : ∀ index, (stranger index).key ∉ state.node.inboundHits.keys) :
    ∃ next, run RateRun.step state ((List.range count).map stranger) = some next ∧ next.clock = 0 ∧
      next.accepted = state.accepted ++ (List.range count).map stranger ∧
      next.node.inboundHits.keys = (state.node.inboundHits.keys ++ (List.range count).map fun index => (stranger index).key).drop
        (state.node.inboundHits.size + count - maxInboundHits) := by
  induction count with
  | zero =>
      refine ⟨state, rfl, early, (List.append_nil _).symm, ?_⟩
      rw [Nat.add_zero, Nat.sub_eq_zero_of_le small, List.drop_zero]
      exact (List.append_nil _).symm
  | succ count ih =>
      obtain ⟨middle, completed, clock, accepted, keys⟩ := ih
      let known := state.node.inboundHits.keys ++ (List.range count).map fun index => (stranger index).key
      have length : known.length = state.node.inboundHits.size + count := by
        rw [List.length_append, List.length_map, List.length_range, Dict.keys, List.length_map, Dict.size]
      have fresh : (stranger count).key ∉ middle.node.inboundHits.keys := by
        rw [keys]
        intro member
        rcases List.mem_append.mp (List.mem_of_mem_drop member) with before | among
        · exact apart count before
        · obtain ⟨index, below, same⟩ := List.mem_map.mp among
          exact absurd (List.mem_range.mp below) (stranger_injective same ▸ Nat.lt_irrefl count)
      have size : middle.node.inboundHits.size = known.length - (state.node.inboundHits.size + count - maxInboundHits) := by
        rw [← List.length_drop, ← keys, Dict.keys, List.length_map, Dict.size]
      obtain ⟨next, stepped, later, grown, left⟩ := @fresh_accepted _ (stranger count) clock.le fresh
      refine ⟨next, ?_, later, ?_, ?_⟩
      · rw [List.range_succ, List.map_append, run_append_some completed]
        exact Option.bind_eq_some_iff.mpr ⟨next, stepped, rfl⟩
      · rw [grown, accepted, List.range_succ, List.map_append, List.append_assoc]
        rfl
      · have within : state.node.inboundHits.size + count - maxInboundHits ≤ known.length := by omega
        have together : state.node.inboundHits.size + count - maxInboundHits +
            (middle.node.inboundHits.size + 1 - maxInboundHits) = state.node.inboundHits.size + (count + 1) - maxInboundHits := by
          omega
        rw [left, keys, ← List.drop_append_of_le_length within, List.drop_drop, together, List.range_succ, List.map_append,
          ← List.append_assoc]
        rfl

def victim : RateCall := { bucket := .direct, peerId := "bob", now := 0 }

theorem stranger_ne_victim {index : Nat} : (stranger index).key ≠ victim.key := by
  intro same
  have texts := congrArg String.toList (Prod.ext_iff.mp same).2
  rw [RateCall.key, stranger, String.toList_ofList, List.replicate_succ] at texts
  exact absurd (List.cons.inj texts).1 (by decide)

/-- Bob's thirty calls, a flood of fresh keys, and another call of Bob at the same time. -/
def floodedCalls : List RateCall :=
  List.replicate groupInboundBurst victim ++ ((List.range maxInboundHits).map stranger ++ [victim])

theorem flood_resets_bob : ∃ final, run RateRun.step (.begin emptyMemberNode 0) floodedCalls = some final ∧
    groupInboundBurst < final.acceptedWithin victim.key 0 := by
  have used : (run RateRun.step (.begin emptyMemberNode 0) (List.replicate groupInboundBurst victim)).any (fun state =>
      decide (state.clock = 0 ∧ state.accepted = List.replicate groupInboundBurst victim ∧
        state.node.inboundHits.keys = [victim.key])) = true := by
    decide +kernel
  obtain ⟨state, completed, found⟩ := Option.any_eq_true .. |>.mp used
  obtain ⟨early, accepted, keys⟩ := of_decide_eq_true found
  have apart : ∀ index, (stranger index).key ∉ state.node.inboundHits.keys := by
    rw [keys]
    exact fun index member => stranger_ne_victim (List.mem_singleton.mp member)
  have size : state.node.inboundHits.size = 1 := by
    have length := congrArg List.length keys
    rwa [Dict.keys, List.length_map] at length
  obtain ⟨flooded, flood, clock, grown, left⟩ := strangers_accepted maxInboundHits early (by rw [size]; decide) apart
  have forgotten : victim.key ∉ flooded.node.inboundHits.keys := by
    rw [left, keys, size, Nat.add_sub_cancel, List.singleton_append, List.drop_one, List.tail_cons]
    intro member
    obtain ⟨index, -, same⟩ := List.mem_map.mp member
    exact stranger_ne_victim same
  obtain ⟨final, again, -, last⟩ := fresh_accepted clock.le forgotten
  refine ⟨final, ?_, ?_⟩
  · rw [floodedCalls, run_append_some completed, run_append_some flood]
    exact Option.bind_eq_some_iff.mpr ⟨final, again, rfl⟩
  · have none : (((List.range maxInboundHits).map stranger).filter fun call => call.key = victim.key) = [] := by
      refine List.filter_eq_nil_iff.mpr fun call member => ?_
      obtain ⟨index, -, rfl⟩ := List.mem_map.mp member
      exact fun same => stranger_ne_victim (of_decide_eq_true same)
    have all : final.acceptedOf victim.key = List.replicate groupInboundBurst victim ++ [victim] := by
      rw [RateRun.acceptedOf, last.1, grown, accepted, List.filter_append, List.filter_append, none]
      decide
    rw [RateRun.acceptedWithin, all]
    decide +kernel

end MeshTalk.Groups
