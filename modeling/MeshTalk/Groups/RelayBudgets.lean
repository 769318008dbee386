import Mathlib.Data.List.Perm.Basic
import MeshTalk.Groups.RateLimits
import MeshTalk.Groups.Sweeps
import MeshTalk.Library.Phases

namespace MeshTalk.Groups

open MeshTalk.Library MeshTalk.Protocol MeshTalk.Store

/-! # The relay budget over every minute

A sweep reads the budget of its peer before each message and records a copy after
the send it has awaited; other sweeps for the same peer run in between.
-/

def relayBudgetWindow : Time := 60

/-- The peer whose budget a sweep has found unspent and not used yet, and how many
copies it has sent. -/
structure SweepPhase where
  passed : Option PeerId
  sent : Nat
deriving DecidableEq, Repr

def liveRelays (node : GroupNode) (peerId : PeerId) (now : Time) : List Time :=
  recentStamps relayBudgetWindow now ((node.relayBudgets.get? peerId).getD [])

def SweepPhase.advance (phase : SweepPhase) : GroupPoint → GroupFate → GroupNode → SweepPhase
  | .checkBudget peerId, fate, node =>
      { phase with
        passed := if (liveRelays node peerId fate.now).length < groupRelaySendsPerMinute then some peerId else none }
  | .send _ _ _, fate, _ => { passed := none, sent := if fate.sendFails then phase.sent else phase.sent + 1 }
  | .query, _, _ => phase
  | .prepare _ _ _ _, _, _ => phase
  | _, _, _ => { phase with passed := none }

def SweepPhase.permits (phase : SweepPhase) : GroupPoint → Prop
  | .send peer _ _ => phase.passed = some peer.peerId ∧ phase.sent < maxRelayPerSweep
  | _ => True

def budgetsAfter (fate : GroupFate) (node : GroupNode) : GroupPoint → Dict PeerId (List Time)
  | .beginSweep peerId | .checkBudget peerId =>
      dropOldest (node.relayBudgets.set peerId (liveRelays node peerId fate.now)) maxRelayBudgets
  | .send peer _ _ =>
      if fate.sendFails then node.relayBudgets
      else node.relayBudgets.set peer.peerId ((node.relayBudgets.get? peer.peerId).getD [] ++ [fate.now])
  | _ => node.relayBudgets

/-- A sweep sends a copy only after it has found the budget unspent. -/
def sweepRule : PhaseRule GroupNode GroupFate GroupPoint SweepPhase where
  begins := { passed := none, sent := 0 }
  permits := SweepPhase.permits
  acts := fun point fate before after => after.relayBudgets = budgetsAfter fate before point
  advance := SweepPhase.advance

theorem relayBudgetLeft_eq {peerId : PeerId} {now : Time} {node : GroupNode} : relayBudgetLeft peerId now node =
    (.ok (groupRelaySendsPerMinute - (liveRelays node peerId now).length), { node with
      relayBudgets := dropOldest (node.relayBudgets.set peerId (liveRelays node peerId now)) maxRelayBudgets }) := rfl

/-! ## Sweeps obey the rule -/

section Programs

variable {crypto : FileCrypto} {identity : Identity crypto} {dumps : Json → Bytes}
  {encryptForRecipient : Bytes → Bytes → Json → Bytes} {peer : GroupPeer} {key : Bytes} {now : Time} {phase : SweepPhase}
  {groupId : String} {stored : GroupMessage} {self count : Nat} {covered : Option Nat}
  {failure : GroupError → SweepPhase → Prop}

theorem query_obeyed {read : GroupNode → α} : sweepRule.Obeyed (fun _ reached => reached = phase) failure (query read) phase :=
  PhaseRule.Obeyed.perform trivial fun _ _ => ⟨rfl, rfl⟩

theorem guardedQuery_obeyed {read : GroupNode → α} :
    sweepRule.Obeyed (fun _ reached => reached = phase) (fun _ reached => reached = phase) (guardedQuery read) phase := by
  refine PhaseRule.Obeyed.perform trivial fun fate node => ?_
  rw [Handler.bind_apply]
  cases raises : fate.raises with
  | true => exact ⟨rfl, rfl⟩
  | false => exact ⟨rfl, rfl⟩

theorem hasBudget_obeyed {peerId : PeerId} : sweepRule.Obeyed (fun within reached => reached.sent = phase.sent ∧
    (within = true → reached.passed = some peerId)) failure (hasBudget peerId) phase := by
  refine PhaseRule.Obeyed.perform trivial fun fate node => ⟨rfl, ?_⟩
  change (_ : SweepPhase).sent = phase.sent ∧ (decide (0 < groupRelaySendsPerMinute - _) = true → _)
  refine ⟨rfl, fun unspent => if_pos ?_⟩
  have left := of_decide_eq_true unspent
  exact Nat.lt_of_sub_pos left

theorem prepare_obeyed : sweepRule.Obeyed (fun _ reached => reached = phase) (fun _ reached => reached = phase)
    (Task.perform (.prepare peer groupId now stored) fun fate =>
      prepareCopy identity dumps encryptForRecipient key peer groupId now stored fate) phase := by
  refine PhaseRule.Obeyed.perform trivial fun fate node => ?_
  have kept : (prepareCopy identity dumps encryptForRecipient key peer groupId now stored fate).Keeps
      fun after => after.relayBudgets = node.relayBudgets :=
    Handler.Keeps.read fun _ _ => Handler.Keeps.bind .refuse fun _ => Handler.Keeps.ite (fun _ => .pure) fun _ =>
      Handler.Keeps.ite (fun _ => .pure) fun _ => Handler.Keeps.ite (fun _ => .pure) fun _ =>
        Handler.Keeps.ite (fun _ => .pure) fun _ => .pure
  have ends := kept node rfl
  rcases run : prepareCopy identity dumps encryptForRecipient key peer groupId now stored fate node with ⟨outcome, after⟩
  rw [run] at ends
  cases outcome with
  | ok verdict => exact ⟨ends, rfl⟩
  | error error => exact ⟨ends, rfl⟩

theorem examineMessage_obeyed : sweepRule.Obeyed (fun _ reached => reached = phase) (fun _ reached => reached = phase)
    (examineMessage identity dumps encryptForRecipient key peer groupId now stored) phase := by
  unfold examineMessage
  refine PhaseRule.Obeyed.ite (fun _ => PhaseRule.Obeyed.pure rfl) fun _ => PhaseRule.Obeyed.bind ?_
  refine guardedQuery_obeyed.weaken (fun blocked reached same => ?_) fun _ _ => id
  subst same
  refine PhaseRule.Obeyed.ite (fun _ => PhaseRule.Obeyed.pure rfl) fun _ => PhaseRule.Obeyed.bind ?_
  refine guardedQuery_obeyed.weaken (fun active reached same => ?_) fun _ _ => id
  subst same
  exact PhaseRule.Obeyed.ite (fun _ => prepare_obeyed) fun _ => PhaseRule.Obeyed.pure rfl

theorem note_obeyed {peerId : PeerId} {outcome : Outcome} :
    sweepRule.Obeyed (fun _ reached => reached.sent = phase.sent) failure
      (Task.perform (.examined peerId stored outcome) fun _ => Handler.change fun node =>
        { node with examined := node.examined ++ [{ peerId, message := stored, outcome }] }) phase :=
  PhaseRule.Obeyed.perform trivial fun _ _ => ⟨rfl, rfl⟩

theorem send_obeyed {payload : GroupMessagePayload} (passed : phase.passed = some peer.peerId)
    (few : phase.sent < maxRelayPerSweep) :
    sweepRule.Obeyed (fun went reached => reached.sent = if went then phase.sent + 1 else phase.sent) failure
      (Task.perform (.send peer stored payload) fun fate => sendCopy peer stored payload fate) phase := by
  refine PhaseRule.Obeyed.perform ⟨passed, few⟩ fun fate node => ?_
  unfold sendCopy
  cases fails : fate.sendFails with
  | true =>
      simp only [sweepRule, budgetsAfter, SweepPhase.advance, fails, if_true]
      exact ⟨rfl, rfl⟩
  | false =>
      simp only [sweepRule, budgetsAfter, SweepPhase.advance, fails, Bool.false_eq_true, if_false]
      exact ⟨rfl, rfl⟩

/-- The loop over the fetched messages counts the copies of the sweep. -/
theorem relayMessages_obeyed {messages : List GroupMessage} (counted : phase.sent = count) :
    sweepRule.Obeyed (fun result reached => reached.sent = result.1) failure
      (relayMessages identity dumps encryptForRecipient key peer groupId now messages count covered) phase := by
  induction messages generalizing phase count covered with
  | nil => exact counted
  | cons stored rest ih =>
      unfold relayMessages
      refine PhaseRule.Obeyed.ite (fun _ => PhaseRule.Obeyed.pure counted) fun few => PhaseRule.Obeyed.bind ?_
      refine hasBudget_obeyed.weaken (fun within reached checked => ?_) fun _ _ => id
      refine PhaseRule.Obeyed.ite (fun unspent => ?_) fun _ => PhaseRule.Obeyed.pure (checked.1.trans counted)
      have sent := checked.1.trans counted
      have noted : ∀ {outcome further}, sweepRule.Obeyed (fun result reached => reached.sent = result.1) failure
          ((Task.perform (.examined peer.peerId stored outcome) fun _ => Handler.change fun node =>
              { node with examined := node.examined ++ [{ peerId := peer.peerId, message := stored, outcome }] }) >>= fun _ =>
            relayMessages identity dumps encryptForRecipient key peer groupId now rest count further) reached := by
        exact fun {_ _} => PhaseRule.Obeyed.bind (note_obeyed.weaken (fun _ _ same => ih (same.trans sent)) fun _ _ => id)
      refine PhaseRule.Obeyed.bind (PhaseRule.Obeyed.recover ?_)
      refine examineMessage_obeyed.weaken (fun verdict examined same => ?_) fun _ examined same => ?_
      · subst same
        cases verdict with
        | inl outcome => exact noted
        | inr payload =>
            refine PhaseRule.Obeyed.bind ((send_obeyed (checked.2 unspent) ?_).weaken (fun went left same => ?_) fun _ _ => id)
            · rw [sent]
              exact Nat.lt_of_not_le few
            · cases went with
              | true => exact ih (same.trans (congrArg (· + 1) sent))
              | false => exact same.trans sent
      · subst same
        exact noted

theorem advanceCursor_obeyed {peerId : PeerId} {lastRowid : Nat} :
    sweepRule.Obeyed (fun _ reached => reached.sent = phase.sent) failure (advanceCursor peerId groupId lastRowid) phase := by
  refine PhaseRule.Obeyed.perform trivial fun fate node => ⟨?_, rfl⟩
  change (if fate.raises then node else _ : GroupNode).relayBudgets = node.relayBudgets
  split <;> rfl

theorem relayGroup_obeyed (counted : phase.sent = count) : sweepRule.Obeyed (fun sent reached => reached.sent = sent) failure
    (relayGroup identity dumps encryptForRecipient self key peer now groupId count) phase := by
  refine PhaseRule.Obeyed.bind (query_obeyed.weaken (fun selfActive reached same => ?_) fun _ _ => id)
  subst same
  refine PhaseRule.Obeyed.bind (PhaseRule.Obeyed.perform trivial fun fate node => ⟨rfl, ?_⟩)
  rw [readTarget_eq]
  dsimp only
  split
  · exact counted
  · refine PhaseRule.Obeyed.bind (query_obeyed.weaken (fun cursor reached same => ?_) fun _ _ => id)
    subst same
    refine PhaseRule.Obeyed.bind (PhaseRule.Obeyed.perform trivial fun fate node => ?_)
    rw [fetchMessages_eq]
    cases raises : fate.raises with
    | true => exact ⟨rfl, counted⟩
    | false =>
        refine ⟨rfl, PhaseRule.Obeyed.bind (PhaseRule.Obeyed.weaken (relayMessages_obeyed ?_) (fun result reached same => ?_)
          fun _ _ => id)⟩
        · exact counted
        obtain ⟨sent, covered⟩ := result
        cases covered with
        | none => exact same
        | some lastRowid => exact PhaseRule.Obeyed.bind (advanceCursor_obeyed.weaken (fun _ _ kept => kept.trans same) fun _ _ => id)

theorem leaveGroup_obeyed : sweepRule.Obeyed (fun _ reached => reached.sent = phase.sent) failure (leaveGroup self) phase :=
  PhaseRule.Obeyed.perform trivial fun _ _ => ⟨rfl, rfl⟩

theorem relayGroups_obeyed {groups : List String} (counted : phase.sent = count) :
    sweepRule.Obeyed (fun _ _ => True) (fun _ _ => True)
      (relayGroups identity dumps encryptForRecipient self key peer now groups count) phase := by
  induction groups generalizing phase count with
  | nil => trivial
  | cons groupId rest ih =>
      unfold relayGroups
      refine PhaseRule.Obeyed.ite (fun _ => trivial) fun _ => PhaseRule.Obeyed.bind ?_
      refine hasBudget_obeyed.weaken (fun within reached checked => ?_) fun _ _ => id
      refine PhaseRule.Obeyed.ite (fun _ => PhaseRule.Obeyed.bind (PhaseRule.Obeyed.ensuring ?_)) fun _ => trivial
      have group : sweepRule.Obeyed (fun sent left => left.sent = sent) (fun _ _ => True)
          (relayGroup identity dumps encryptForRecipient self key peer now groupId count) reached :=
        relayGroup_obeyed (checked.1.trans counted)
      refine group.weaken (fun sent left same => ?_) fun _ left _ => ?_
      · exact leaveGroup_obeyed.weaken (fun _ _ kept => ih (kept.trans same)) fun _ _ => id
      · exact leaveGroup_obeyed.weaken (fun _ _ _ => trivial) fun _ _ => id

theorem beginSweep_obeyed {peerId : PeerId} : sweepRule.Obeyed (fun _ reached => reached.sent = phase.sent) failure
    (Task.perform (.beginSweep peerId) fun fate => beginSweep peerId fate) phase := by
  refine PhaseRule.Obeyed.perform trivial fun fate node => ?_
  rw [beginSweep, Handler.bind_apply, relayBudgetLeft_eq]
  simp only
  split
  · exact ⟨rfl, rfl⟩
  · exact ⟨rfl, rfl⟩

theorem relayForPeer_obeyed (fresh : phase.sent = 0) : sweepRule.Obeyed (fun _ _ => True) (fun _ _ => True)
    (relayForPeer identity dumps encryptForRecipient self peer) phase := by
  unfold relayForPeer
  refine PhaseRule.Obeyed.ite (fun _ => trivial) fun _ => PhaseRule.Obeyed.bind ?_
  refine query_obeyed.weaken (fun blocked reached same => ?_) fun _ _ => id
  subst same
  refine PhaseRule.Obeyed.ite (fun _ => trivial) fun _ => PhaseRule.Obeyed.bind ?_
  refine query_obeyed.weaken (fun known reached same => ?_) fun _ _ => id
  subst same
  split
  · trivial
  · refine PhaseRule.Obeyed.bind (beginSweep_obeyed.weaken (fun begun reached same => ?_) fun _ _ => id)
    split
    · trivial
    · refine PhaseRule.Obeyed.bind (query_obeyed.weaken (fun groups left kept => ?_) fun _ _ => id)
      subst kept
      exact relayGroups_obeyed (same.trans fresh)

theorem groupProgram_obeyed {request : GroupRequest} : sweepRule.Obeyed (fun _ _ => True) (fun _ _ => True)
    (groupProgram identity dumps encryptForRecipient self request) sweepRule.begins := by
  have executed : ∀ {statement : GroupStatement} {phase : SweepPhase},
      sweepRule.Obeyed (fun _ _ => True) (fun _ _ => True) (execute statement) phase :=
    PhaseRule.Obeyed.perform trivial fun _ _ => ⟨rfl, trivial⟩
  cases request with
  | sweep peer => exact relayForPeer_obeyed rfl
  | upsertMember groupId peerId active =>
      exact PhaseRule.Obeyed.bind (executed.weaken (fun _ _ _ => executed) fun _ _ => id)
  | change statement =>
      cases statement <;> first | trivial | exact executed

end Programs

/-! ## Runs -/

/-- A copy that went out, with the task that sent it. -/
structure SentCopy where
  sweep : Nat
  peerId : PeerId
  now : Time
deriving DecidableEq, Repr

/-- A run of one process; `copies` and `clock` are auxiliary. -/
structure RelayRun where
  sweeps : PhasedPool GroupNode GroupFate GroupPoint GroupError SweepPhase
  copies : List SentCopy
  clock : Time

namespace RelayRun

variable (state : RelayRun)

def node : GroupNode := state.sweeps.pool.shared

/-- The copy that the resumption of a task sends, if any. -/
def sentBy (index : Nat) (fate : GroupFate) : List SentCopy :=
  match state.sweeps.pool.pointAt index with
  | some (.send peer _ _) => if fate.sendFails then [] else [{ sweep := index, peerId := peer.peerId, now := fate.now }]
  | _ => []

/-- The clock does not go back. -/
def step (service : Service GroupNode GroupFate GroupPoint GroupError GroupRequest) (state : RelayRun) :
    PoolEvent GroupFate GroupRequest → Option RelayRun
  | .start request => (state.sweeps.step sweepRule service (.start request)).map fun sweeps => { state with sweeps }
  | .resume index fate =>
      if state.clock ≤ fate.now then
        (state.sweeps.step sweepRule service (.resume index fate)).map fun sweeps =>
          { sweeps, copies := state.copies ++ state.sentBy index fate, clock := fate.now }
      else none
  | .restart => none

def copiesTo (peerId : PeerId) : List SentCopy := state.copies.filter fun copy => copy.peerId = peerId

def timesOf (peerId : PeerId) : List Time := (state.copiesTo peerId).map SentCopy.now

def copiesBy (sweep : Nat) : Nat := (state.copies.filter fun copy => copy.sweep = sweep).length

/-- How many copies were sent to a peer in the minute that begins at `start`. -/
def copiesWithin (peerId : PeerId) (start : Time) : Nat :=
  windowTotal SentCopy.now (fun _ => 1) relayBudgetWindow start (state.copiesTo peerId)

def hitsOf (peerId : PeerId) : List Time := (state.node.relayBudgets.get? peerId).getD []

def passedFor (peerId : PeerId) (phase : SweepPhase) : Bool := phase.passed = some peerId

/-- How many sweeps have found the budget of a peer unspent and have not used it yet. -/
def underWay (peerId : PeerId) : Nat := state.sweeps.phases.countP (passedFor peerId)

/-- The same without one of them. -/
def othersUnderWay (index : Nat) (peerId : PeerId) : Nat := (state.sweeps.phases.eraseIdx index).countP (passedFor peerId)

/-- The peers beyond the bound whose budgets a check makes the node forget. -/
def forgotten (peerId : PeerId) : List PeerId :=
  let known := state.node.relayBudgets.set peerId []
  known.keys.take (known.size - maxRelayBudgets)

def ForgetsStale (peerId : PeerId) (now : Time) : Prop :=
  ∀ other ∈ state.forgotten peerId, ∀ hit ∈ state.hitsOf other, relayBudgetWindow ≤ now - hit

/-- What a check reads: no budget with a recent copy is forgotten, and an unspent one
also has room for what other sweeps are about to send. -/
def CheckedAt (index : Nat) (fate : GroupFate) : GroupPoint → Prop
  | .beginSweep peerId => state.ForgetsStale peerId fate.now
  | .checkBudget peerId =>
      state.ForgetsStale peerId fate.now ∧
        ((liveRelays state.node peerId fate.now).length < groupRelaySendsPerMinute →
          (liveRelays state.node peerId fate.now).length + state.othersUnderWay index peerId < groupRelaySendsPerMinute)
  | _ => True

def HasRoom : PoolEvent GroupFate GroupRequest → Prop
  | .resume index fate => ∀ point ∈ state.sweeps.pool.pointAt index, state.CheckedAt index fate point
  | _ => True

instance {peerId : PeerId} {now : Time} : Decidable (state.ForgetsStale peerId now) :=
  inferInstanceAs (Decidable (∀ other ∈ state.forgotten peerId, ∀ hit ∈ state.hitsOf other, relayBudgetWindow ≤ now - hit))

instance {index : Nat} {fate : GroupFate} : ∀ point, Decidable (state.CheckedAt index fate point)
  | .beginSweep peerId => inferInstanceAs (Decidable (state.ForgetsStale peerId fate.now))
  | .checkBudget _ => inferInstanceAs (Decidable (_ ∧ (_ → _)))
  | .query | .execute _ | .readTarget _ _ _ | .fetch _ _ _ _ _ _ | .prepare _ _ _ _ | .examined _ _ _ | .send _ _ _
  | .leaveGroup _ => isTrue trivial

instance : ∀ event, Decidable (state.HasRoom event)
  | .resume index fate => inferInstanceAs (Decidable (∀ point ∈ state.sweeps.pool.pointAt index, state.CheckedAt index fate point))
  | .start _ | .restart => isTrue trivial

def begin (node : GroupNode) (clock : Time) : RelayRun :=
  { sweeps := { pool := { shared := node, tasks := [] }, phases := [] }, copies := [], clock }

end RelayRun

section Runs

variable {crypto : FileCrypto} {identity : Identity crypto} {dumps : Json → Bytes}
  {encryptForRecipient : Bytes → Bytes → Json → Bytes} {state next : RelayRun} {event : PoolEvent GroupFate GroupRequest}
  {index : Nat} {fate : GroupFate} {peerId : PeerId}

/-- What the resumption of a sweep does to its phase, the budgets and the copies. -/
structure Resumed (state next : RelayRun) (index : Nat) (fate : GroupFate) (point : GroupPoint) (phase : SweepPhase) : Prop where
  suspended : state.sweeps.pool.pointAt index = some point
  found : state.sweeps.phases[index]? = some phase
  permitted : phase.permits point
  budgets : next.node.relayBudgets = budgetsAfter fate state.node point
  phases : next.sweeps.phases = state.sweeps.phases.set index (phase.advance point fate state.node)
  copies : next.copies = state.copies ++ state.sentBy index fate
  passed : state.clock ≤ fate.now
  clock : next.clock = fate.now

theorem step_resumed (obeys : state.sweeps.Obeys sweepRule)
    (stepped : state.step (groupService identity dumps encryptForRecipient) (.resume index fate) = some next) :
    next.sweeps.Obeys sweepRule ∧ ∃ point phase, Resumed state next index fate point phase := by
  simp only [RelayRun.step] at stepped
  split at stepped
  · rename_i later
    obtain ⟨sweeps, moved, rfl⟩ := Option.map_eq_some_iff.mp stepped
    obtain ⟨point, phase, suspended, found, permitted, acts, phases, kept⟩ := PhasedPool.step_resume obeys moved
    exact ⟨kept, point, phase, suspended, found, permitted, acts, phases, rfl, later, rfl⟩
  · cases stepped

theorem step_started {request : GroupRequest} (obeys : state.sweeps.Obeys sweepRule)
    (stepped : state.step (groupService identity dumps encryptForRecipient) (.start request) = some next) :
    next.sweeps.Obeys sweepRule ∧ next.node = state.node ∧ next.sweeps.phases = state.sweeps.phases ++ [sweepRule.begins] ∧
      next.copies = state.copies ∧ next.clock = state.clock := by
  simp only [RelayRun.step] at stepped
  obtain ⟨sweeps, moved, rfl⟩ := Option.map_eq_some_iff.mp stepped
  obtain ⟨shared, phases, kept⟩ := PhasedPool.step_start obeys groupProgram_obeyed moved
  exact ⟨kept, shared, phases, rfl, rfl⟩

/-! ### Copies of one sweep -/

structure Counted (state : RelayRun) : Prop where
  obeys : state.sweeps.Obeys sweepRule
  counted : ∀ (sweep : Nat) phase, state.sweeps.phases[sweep]? = some phase → state.copiesBy sweep = phase.sent
  fresh : ∀ sweep, state.sweeps.phases.length ≤ sweep → state.copiesBy sweep = 0
  few : ∀ phase ∈ state.sweeps.phases, phase.sent ≤ maxRelayPerSweep

theorem sentBy_of_send {peer : GroupPeer} {stored : GroupMessage} {payload : GroupMessagePayload}
    (suspended : state.sweeps.pool.pointAt index = some (.send peer stored payload)) :
    state.sentBy index fate = if fate.sendFails then [] else [{ sweep := index, peerId := peer.peerId, now := fate.now }] := by
  rw [RelayRun.sentBy, suspended]

/-- The phase of a sweep counts what it sends. -/
theorem Resumed.sent {point : GroupPoint} {phase : SweepPhase} (resumed : Resumed state next index fate point phase) :
    (phase.advance point fate state.node).sent = phase.sent + (state.sentBy index fate).length := by
  cases point with
  | send peer stored payload =>
      rw [sentBy_of_send resumed.suspended, SweepPhase.advance]
      cases fate.sendFails <;> rfl
  | _ =>
      have none : state.sentBy index fate = [] := by rw [RelayRun.sentBy, resumed.suspended]
      rw [none]
      rfl

theorem Resumed.sentBy_mem {point : GroupPoint} {phase : SweepPhase} (resumed : Resumed state next index fate point phase)
    {copy : SentCopy} (member : copy ∈ state.sentBy index fate) :
    copy.sweep = index ∧ copy.now = fate.now ∧ ∃ stored payload peer, point = .send peer stored payload ∧
      copy.peerId = peer.peerId := by
  cases point with
  | send peer stored payload =>
      rw [sentBy_of_send resumed.suspended] at member
      split at member
      · cases member
      · cases List.mem_singleton.mp member
        exact ⟨rfl, rfl, stored, payload, peer, rfl, rfl⟩
  | _ =>
      have none : state.sentBy index fate = [] := by rw [RelayRun.sentBy, resumed.suspended]
      rw [none] at member
      cases member

theorem Resumed.few {point : GroupPoint} {phase : SweepPhase} (resumed : Resumed state next index fate point phase)
    (few : phase.sent ≤ maxRelayPerSweep) : (phase.advance point fate state.node).sent ≤ maxRelayPerSweep := by
  cases point with
  | send peer stored payload =>
      rw [SweepPhase.advance]
      split
      · exact few
      · exact resumed.permitted.2
  | _ => exact few

theorem Resumed.copiesBy {point : GroupPoint} {phase : SweepPhase} (resumed : Resumed state next index fate point phase)
    {sweep : Nat} : next.copiesBy sweep = if sweep = index then state.copiesBy sweep + (state.sentBy index fate).length
      else state.copiesBy sweep := by
  rw [RelayRun.copiesBy, resumed.copies, List.filter_append, List.length_append]
  split
  · rename_i own
    rw [List.filter_eq_self.mpr fun copy member => decide_eq_true ((resumed.sentBy_mem member).1.trans own.symm)]
    rfl
  · rename_i other
    have none : ((state.sentBy index fate).filter fun copy => copy.sweep = sweep) = [] :=
      List.filter_eq_nil_iff.mpr fun copy member own => other ((of_decide_eq_true own).symm.trans (resumed.sentBy_mem member).1)
    rw [none]
    rfl

theorem step_counted (counted : Counted state)
    (stepped : state.step (groupService identity dumps encryptForRecipient) event = some next) : Counted next := by
  cases event with
  | restart => cases stepped
  | start request =>
      obtain ⟨obeys, -, phases, copies, -⟩ := step_started counted.obeys stepped
      have same : ∀ sweep, next.copiesBy sweep = state.copiesBy sweep := fun sweep => by
        rw [RelayRun.copiesBy, copies]
        rfl
      refine ⟨obeys, fun sweep phase found => ?_, fun sweep outside => ?_, fun phase member => ?_⟩
      · rw [phases] at found
        rw [same]
        rcases Nat.lt_or_ge sweep state.sweeps.phases.length with inside | outside
        · rw [List.getElem?_append_left inside] at found
          exact counted.counted sweep phase found
        · rw [List.getElem?_append_right outside, List.getElem?_singleton] at found
          split at found
          · cases found
            exact counted.fresh sweep outside
          · cases found
      · rw [phases, List.length_append] at outside
        rw [same]
        exact counted.fresh sweep (Nat.le_of_add_right_le outside)
      · rw [phases] at member
        rcases List.mem_append.mp member with known | added
        · exact counted.few phase known
        · cases List.mem_singleton.mp added
          exact Nat.zero_le _
  | resume index fate =>
      obtain ⟨obeys, point, own, resumed⟩ := step_resumed counted.obeys stepped
      have inside := (List.getElem?_eq_some_iff.mp resumed.found).1
      refine ⟨obeys, fun sweep phase found => ?_, fun sweep outside => ?_, fun phase member => ?_⟩
      · rw [resumed.phases, List.getElem?_set] at found
        rw [resumed.copiesBy]
        by_cases same : index = sweep
        · subst same
          rw [if_pos rfl, if_pos inside] at found
          cases found
          rw [if_pos rfl, counted.counted index own resumed.found, resumed.sent]
        · rw [if_neg same] at found
          rw [if_neg (Ne.symm same)]
          exact counted.counted sweep phase found
      · rw [resumed.phases, List.length_set] at outside
        rw [resumed.copiesBy, if_neg (Nat.ne_of_gt (Nat.lt_of_lt_of_le inside outside))]
        exact counted.fresh sweep outside
      · rw [resumed.phases] at member
        rcases List.mem_or_eq_of_mem_set member with known | rfl
        · exact counted.few phase known
        · exact resumed.few (counted.few own (List.mem_of_getElem? resumed.found))

/-! ### The budget -/

theorem countP_set_eraseIdx {α : Type} {items : List α} {item : α} {holds : α → Bool} (inside : index < items.length) :
    (items.set index item).countP holds = (items.eraseIdx index).countP holds + if holds item then 1 else 0 := by
  rw [(List.set_perm_cons_eraseIdx inside item).countP_eq, List.countP_cons]

/-- The budgets agree with what was sent in the last minute, with room for the copies
that are under way, and no copy was one too many. -/
structure Budgeted (state : RelayRun) : Prop where
  obeys : state.sweeps.Obeys sweepRule
  complete : ∀ peerId, recentStamps relayBudgetWindow state.clock (state.timesOf peerId) =
    recentStamps relayBudgetWindow state.clock (state.hitsOf peerId)
  room : ∀ peerId, (recentStamps relayBudgetWindow state.clock (state.timesOf peerId)).length + state.underWay peerId ≤
    groupRelaySendsPerMinute
  paced : ∀ peerId, Paced SentCopy.now (fun _ => 1) relayBudgetWindow groupRelaySendsPerMinute (state.copiesTo peerId)

theorem Resumed.copiesTo {point : GroupPoint} {phase : SweepPhase} (resumed : Resumed state next index fate point phase) :
    next.copiesTo peerId = state.copiesTo peerId ++ (state.sentBy index fate).filter fun copy => copy.peerId = peerId := by
  rw [RelayRun.copiesTo, resumed.copies, List.filter_append]
  rfl

theorem Resumed.underWay {point : GroupPoint} {phase : SweepPhase} (resumed : Resumed state next index fate point phase) :
    state.underWay peerId = state.othersUnderWay index peerId + (if RelayRun.passedFor peerId phase then 1 else 0) ∧
      next.underWay peerId = state.othersUnderWay index peerId +
        if RelayRun.passedFor peerId (phase.advance point fate state.node) then 1 else 0 := by
  obtain ⟨inside, held⟩ := List.getElem?_eq_some_iff.mp resumed.found
  refine ⟨?_, ?_⟩
  · rw [RelayRun.underWay, RelayRun.othersUnderWay, ← countP_set_eraseIdx inside, ← held, List.set_getElem_self]
  · rw [RelayRun.underWay, resumed.phases, RelayRun.othersUnderWay, countP_set_eraseIdx inside]

/-- A check keeps what the budgets say of the last minute. -/
theorem hitsOf_checked {peerId other : PeerId} (stale : state.ForgetsStale peerId fate.now)
    (changed : next.node.relayBudgets =
      dropOldest (state.node.relayBudgets.set peerId (liveRelays state.node peerId fate.now)) maxRelayBudgets) :
    recentStamps relayBudgetWindow fate.now (next.hitsOf other) = recentStamps relayBudgetWindow fate.now (state.hitsOf other) := by
  have sameKeys := @keys_set_eq _ _ _ state.node.relayBudgets peerId (liveRelays state.node peerId fate.now) []
  rw [RelayRun.hitsOf, changed, get?_dropOldest_eq, sameKeys.1, sameKeys.2, Dict.get?_set]
  split
  · rename_i doomed
    have none : recentStamps relayBudgetWindow fate.now (state.hitsOf other) = [] :=
      List.filter_eq_nil_iff.mpr fun hit held recent => absurd (of_decide_eq_true recent) (not_lt.mpr (stale other doomed hit held))
    rw [none]
    rfl
  · split
    · rename_i own
      rw [own, Option.getD_some]
      exact recentStamps_later le_rfl
    · rfl

theorem Budgeted.later (budgeted : Budgeted state) (passed : state.clock ≤ fate.now) :
    recentStamps relayBudgetWindow fate.now (state.timesOf peerId) = recentStamps relayBudgetWindow fate.now (state.hitsOf peerId) := by
  rw [← recentStamps_later passed, budgeted.complete, recentStamps_later passed]

/-- A sweep that is under way for a peer has room for its copy. -/
theorem Budgeted.roomAt {point : GroupPoint} {phase : SweepPhase} (budgeted : Budgeted state)
    (resumed : Resumed state next index fate point phase) :
    (recentStamps relayBudgetWindow fate.now (state.timesOf peerId)).length + (state.othersUnderWay index peerId +
      if RelayRun.passedFor peerId phase then 1 else 0) ≤ groupRelaySendsPerMinute := by
  rw [← resumed.underWay.1]
  exact (Nat.add_le_add_right (recentStamps_length_le resumed.passed) _).trans (budgeted.room peerId)

/-- A step that sends nothing keeps the budget. -/
theorem Budgeted.quiet {point : GroupPoint} {phase : SweepPhase} (budgeted : Budgeted state) (obeys : next.sweeps.Obeys sweepRule)
    (resumed : Resumed state next index fate point phase) (silent : state.sentBy index fate = [])
    (hits : ∀ peerId, recentStamps relayBudgetWindow fate.now (next.hitsOf peerId) =
      recentStamps relayBudgetWindow fate.now (state.hitsOf peerId))
    (room : ∀ peerId, RelayRun.passedFor peerId (phase.advance point fate state.node) = true →
      RelayRun.passedFor peerId phase = false → (recentStamps relayBudgetWindow fate.now (state.timesOf peerId)).length +
        state.othersUnderWay index peerId < groupRelaySendsPerMinute) : Budgeted next := by
  have copies : ∀ peerId, next.copiesTo peerId = state.copiesTo peerId := fun peerId => by
    rw [resumed.copiesTo, silent]
    exact List.append_nil _
  have times : ∀ peerId, next.timesOf peerId = state.timesOf peerId := fun peerId => by rw [RelayRun.timesOf, copies]; rfl
  refine ⟨obeys, fun peerId => ?_, fun peerId => ?_, fun peerId => ?_⟩
  · rw [resumed.clock, times, hits, budgeted.later resumed.passed]
  · have before := @Budgeted.roomAt _ _ _ _ peerId _ _ budgeted resumed
    rw [resumed.clock, times, resumed.underWay.2]
    cases after : RelayRun.passedFor peerId (phase.advance point fate state.node) with
    | false =>
        rw [if_neg Bool.false_ne_true]
        omega
    | true =>
        cases held : RelayRun.passedFor peerId phase with
        | true =>
            rw [held] at before
            exact before
        | false => exact room peerId after held
  · rw [copies]
    exact budgeted.paced peerId

/-- So does one that leaves the budgets alone and passes no check. -/
theorem Budgeted.unmoved {point : GroupPoint} {phase : SweepPhase} (budgeted : Budgeted state) (obeys : next.sweeps.Obeys sweepRule)
    (resumed : Resumed state next index fate point phase) (silent : state.sentBy index fate = [])
    (still : budgetsAfter fate state.node point = state.node.relayBudgets)
    (passes : ∀ peerId, RelayRun.passedFor peerId (phase.advance point fate state.node) = true →
      RelayRun.passedFor peerId phase = true) : Budgeted next := by
  refine budgeted.quiet obeys resumed silent (fun peerId => ?_) fun peerId after before => ?_
  · rw [RelayRun.hitsOf, resumed.budgets, still]
    rfl
  · rw [passes peerId after] at before
    cases before

/-- A copy that goes out uses the room its sweep had found. -/
theorem Budgeted.sending {peer : GroupPeer} {stored : GroupMessage} {payload : GroupMessagePayload} {phase : SweepPhase}
    (budgeted : Budgeted state) (obeys : next.sweeps.Obeys sweepRule)
    (resumed : Resumed state next index fate (.send peer stored payload) phase) (sends : fate.sendFails = false) :
    Budgeted next := by
  have sent : state.sentBy index fate = [{ sweep := index, peerId := peer.peerId, now := fate.now }] := by
    rw [sentBy_of_send resumed.suspended, sends]
    rfl
  have budgets : next.node.relayBudgets =
      state.node.relayBudgets.set peer.peerId ((state.node.relayBudgets.get? peer.peerId).getD [] ++ [fate.now]) := by
    rw [resumed.budgets, budgetsAfter, sends]
    rfl
  have copies : ∀ peerId, next.copiesTo peerId = state.copiesTo peerId ++
      if peerId = peer.peerId then [{ sweep := index, peerId := peer.peerId, now := fate.now }] else [] := fun peerId => by
    rw [resumed.copiesTo, sent, List.filter_singleton]
    by_cases own : peerId = peer.peerId
    · rw [if_pos own, decide_eq_true own.symm]
      rfl
    · rw [if_neg own, decide_eq_false (Ne.symm own)]
      rfl
  have present : recentStamps relayBudgetWindow fate.now [fate.now] = [fate.now] := by
    have young : fate.now - fate.now < relayBudgetWindow := by rw [sub_self]; decide
    rw [recentStamps, List.filter_singleton, decide_eq_true young]
    rfl
  refine ⟨obeys, fun peerId => ?_, fun peerId => ?_, fun peerId => ?_⟩
  · rw [resumed.clock, RelayRun.timesOf, copies, RelayRun.hitsOf, budgets, Dict.get?_set]
    by_cases own : peerId = peer.peerId
    · subst own
      rw [if_pos rfl, if_pos rfl, Option.getD_some, List.map_append, recentStamps_append, recentStamps_append]
      exact congrArg (· ++ recentStamps relayBudgetWindow fate.now [fate.now]) (budgeted.later resumed.passed)
    · rw [if_neg own, if_neg own, List.append_nil]
      exact budgeted.later resumed.passed
  · have before := @Budgeted.roomAt _ _ _ _ peerId _ _ budgeted resumed
    have unused : RelayRun.passedFor peerId (phase.advance (.send peer stored payload) fate state.node) = false := rfl
    rw [resumed.clock, RelayRun.timesOf, copies, resumed.underWay.2, unused, if_neg Bool.false_ne_true]
    by_cases own : peerId = peer.peerId
    · subst own
      have used : RelayRun.passedFor peer.peerId phase = true := decide_eq_true resumed.permitted.1
      rw [used, if_pos rfl] at before
      rw [if_pos rfl, List.map_append, recentStamps_append, List.map_singleton, present, List.length_append, List.length_singleton]
      rw [RelayRun.timesOf] at before
      omega
    · rw [if_neg own, List.append_nil]
      rw [RelayRun.timesOf] at before
      omega
  · rw [copies]
    by_cases own : peerId = peer.peerId
    · subst own
      have before := @Budgeted.roomAt _ _ _ _ peer.peerId _ _ budgeted resumed
      have used : RelayRun.passedFor peer.peerId phase = true := decide_eq_true resumed.permitted.1
      rw [used, if_pos rfl, RelayRun.timesOf] at before
      rw [if_pos rfl]
      refine (budgeted.paced peer.peerId).append ?_
      rw [recentTotal_eq]
      change (recentStamps relayBudgetWindow fate.now _).length + 1 ≤ _
      omega
    · rw [if_neg own, List.append_nil]
      exact budgeted.paced peerId

theorem step_budgeted (budgeted : Budgeted state) (room : state.HasRoom event)
    (stepped : state.step (groupService identity dumps encryptForRecipient) event = some next) : Budgeted next := by
  cases event with
  | restart => cases stepped
  | start request =>
      obtain ⟨obeys, node, phases, copies, clock⟩ := step_started budgeted.obeys stepped
      have sent : ∀ peerId, next.copiesTo peerId = state.copiesTo peerId := fun peerId => by
        rw [RelayRun.copiesTo, copies]
        rfl
      have hits : ∀ peerId, next.hitsOf peerId = state.hitsOf peerId := fun peerId => by
        rw [RelayRun.hitsOf, node]
        rfl
      have underWay : ∀ peerId, next.underWay peerId = state.underWay peerId := fun peerId => by
        rw [RelayRun.underWay, phases, List.countP_append]
        rfl
      refine ⟨obeys, fun peerId => ?_, fun peerId => ?_, fun peerId => ?_⟩
      · rw [clock, RelayRun.timesOf, sent, hits]
        exact budgeted.complete peerId
      · rw [clock, RelayRun.timesOf, sent, underWay]
        exact budgeted.room peerId
      · rw [sent]
        exact budgeted.paced peerId
  | resume index fate =>
      obtain ⟨obeys, point, phase, resumed⟩ := step_resumed budgeted.obeys stepped
      have checked := room point resumed.suspended
      have passes : ∀ {peerId : PeerId} {reached : SweepPhase}, reached.passed = none → RelayRun.passedFor peerId reached = false :=
        fun {_ _} none => decide_eq_false (by rw [none]; exact (Option.some_ne_none _).symm)
      cases point with
      | send peer stored payload =>
          cases sends : fate.sendFails with
          | false => exact budgeted.sending obeys resumed sends
          | true =>
              have silent : state.sentBy index fate = [] := by rw [sentBy_of_send resumed.suspended, sends]; rfl
              have budgets : next.node.relayBudgets = state.node.relayBudgets := by rw [resumed.budgets, budgetsAfter, sends]; rfl
              refine budgeted.quiet obeys resumed silent (fun peerId => ?_) fun peerId after => ?_
              · rw [RelayRun.hitsOf, budgets]
                rfl
              · rw [passes rfl] at after
                cases after
      | beginSweep checkedPeer =>
          refine budgeted.quiet obeys resumed ?_ (fun peerId => hitsOf_checked checked resumed.budgets) fun peerId after => ?_
          · rw [RelayRun.sentBy, resumed.suspended]
          · rw [passes rfl] at after
            cases after
      | checkBudget checkedPeer =>
          refine budgeted.quiet obeys resumed ?_ (fun peerId => hitsOf_checked checked.1 resumed.budgets) fun peerId after _ => ?_
          · rw [RelayRun.sentBy, resumed.suspended]
          · have passed : (if (liveRelays state.node checkedPeer fate.now).length < groupRelaySendsPerMinute then some checkedPeer
                else none) = some peerId := of_decide_eq_true after
            split at passed
            · rename_i unspent
              cases passed
              rw [budgeted.later resumed.passed]
              exact checked.2 unspent
            · cases passed
      | query => exact budgeted.unmoved obeys resumed (by rw [RelayRun.sentBy, resumed.suspended]) rfl fun _ after => after
      | prepare peer groupId now stored => exact budgeted.unmoved obeys resumed (by rw [RelayRun.sentBy, resumed.suspended]) rfl fun _ after => after
      | _ =>
          refine budgeted.unmoved obeys resumed (by rw [RelayRun.sentBy, resumed.suspended]) rfl fun peerId after => ?_
          rw [passes rfl] at after
          cases after

theorem begin_obeys {node : GroupNode} {clock : Time} : (RelayRun.begin node clock).sweeps.Obeys sweepRule :=
  ⟨rfl, fun _ _ _ found => nomatch found⟩

theorem begin_counted {node : GroupNode} {clock : Time} : Counted (.begin node clock) :=
  ⟨begin_obeys, fun _ _ found => (nomatch found), fun _ _ => rfl, fun _ member => nomatch member⟩

theorem begin_budgeted {node : GroupNode} {clock : Time} (empty : node.relayBudgets = ∅) : Budgeted (.begin node clock) where
  obeys := begin_obeys
  complete := fun peerId => by
    rw [RelayRun.hitsOf, RelayRun.node, RelayRun.begin, empty]
    rfl
  room := fun _ => Nat.zero_le _
  paced := fun _ => paced_nil

/-- A sweep sends at most fifty copies; and where a check that finds a budget unspent
also has room for what the other sweeps for that peer are about to send, and no
budget with a recent copy is forgotten, no minute holds more than a hundred copies
to a peer. -/
theorem relays_are_limited {node : GroupNode} {clock : Time} {events : List (PoolEvent GroupFate GroupRequest)}
    {final : RelayRun} (empty : node.relayBudgets = ∅)
    (completed : run (RelayRun.step (groupService identity dumps encryptForRecipient)) (.begin node clock) events = some final) :
    (∀ sweep, final.copiesBy sweep ≤ maxRelayPerSweep) ∧
      (Meets (RelayRun.step (groupService identity dumps encryptForRecipient)) RelayRun.HasRoom (.begin node clock) events →
        ∀ peerId start, final.copiesWithin peerId start ≤ groupRelaySendsPerMinute) := by
  refine ⟨fun sweep => ?_, fun meets peerId start => ?_⟩
  · have counted : Counted final := reachable_invariant (fun _ _ _ counted stepped => step_counted counted stepped)
      begin_counted ⟨events, completed⟩
    rcases Nat.lt_or_ge sweep final.sweeps.phases.length with inside | outside
    · have found := List.getElem?_eq_getElem inside
      rw [counted.counted sweep _ found]
      exact counted.few _ (List.mem_of_getElem? found)
    · rw [counted.fresh sweep outside]
      exact Nat.zero_le _
  · have budgeted : Budgeted final := run_invariant Budgeted
      (fun _ _ _ budgeted room stepped => step_budgeted budgeted room stepped) (begin_budgeted empty) meets completed
    exact (budgeted.paced peerId).windowTotal_le

end Runs

/-! ## Sweeps for Bob -/

/-- In each of three groups Carol has written one message. -/
def threeGroups : List String := ["a", "b", "c"]

def carolsGroups : GroupNode :=
  { emptyGroupNode with
    db := threeGroups.foldl (fun db groupId =>
      let joined := ["self", "carol", "bob"].foldl (fun db peerId => db.insertGroupMember groupId peerId true 1) db
      { joined with
        groupMessages := joined.groupMessages.insertOrIgnore { carolMessage groupId 100000 with groupId, rowid := 1 } })
      { groups := threeGroups } }

abbrev plainRelay : Service GroupNode GroupFate GroupPoint GroupError GroupRequest :=
  groupService plainIdentity (fun _ => []) fun _ content _ => content

/-- Each of some sweeps for Bob takes a number of actions. -/
def sweepTurns (sweeps count : Nat) : List (PoolEvent GroupFate GroupRequest) :=
  (List.range sweeps).flatMap fun sweep => groupTurns sweep count 100000

/-- Some sweeps for Bob, each of which is about to send its copy of a group's message
when the others are, in one group after the other. -/
def sweepsForBob (sweeps : Nat) : List (PoolEvent GroupFate GroupRequest) :=
  List.replicate sweeps (.start (.sweep bobAsGroupPeer)) ++ sweepTurns sweeps 4 ++
    (List.replicate 3 (sweepTurns sweeps 9 ++ sweepTurns sweeps 1 ++ sweepTurns sweeps 2)).flatten

theorem two_sweeps_are_limited :
    ∃ final, run (RelayRun.step plainRelay) (.begin carolsGroups 100000) (sweepsForBob 2) = some final ∧
      (∀ sweep, final.copiesBy sweep ≤ maxRelayPerSweep) ∧ ∀ peerId start, final.copiesWithin peerId start ≤ groupRelaySendsPerMinute := by
  have completed : (run (RelayRun.step plainRelay) (.begin carolsGroups 100000) (sweepsForBob 2)).isSome = true := by
    decide +kernel
  have meets : Meets (RelayRun.step plainRelay) RelayRun.HasRoom (.begin carolsGroups 100000) (sweepsForBob 2) := by
    decide +kernel
  obtain ⟨final, completed⟩ := Option.isSome_iff_exists.mp completed
  have limited := relays_are_limited rfl completed
  exact ⟨final, completed, limited.1, limited.2 meets⟩

/-- Thirty-four sweeps that overlap at each send put 102 copies into one minute. -/
theorem overlapping_sweeps_exceed_budget :
    ∃ final, run (RelayRun.step plainRelay) (.begin carolsGroups 100000) (sweepsForBob 34) = some final ∧
      groupRelaySendsPerMinute < final.copiesWithin "bob" 100000 := by
  have checked : (run (RelayRun.step plainRelay) (.begin carolsGroups 100000) (sweepsForBob 34)).any (fun final =>
      decide (groupRelaySendsPerMinute < final.copiesWithin "bob" 100000)) = true := by
    decide +kernel
  obtain ⟨final, completed, found⟩ := Option.any_eq_true .. |>.mp checked
  exact ⟨final, completed, of_decide_eq_true found⟩

end MeshTalk.Groups
