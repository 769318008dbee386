import Mathlib.Tactic.Ring
import MeshTalk.Library.Budgets
import MeshTalk.Control.Forwarding

namespace MeshTalk.Control

open MeshTalk.Library ControlState WorkerState

/-! # The bandwidth of the relay

The bytes of a relay frame are taken from the bucket of its sender and from that of
its recipient, and only a registration brings a full bucket.
-/

/-- Frames that a device has sent, or that are for it. -/
inductive Direction where
  | outgoing
  | incoming
deriving Repr, DecidableEq

def DeviceLimit.left (limit : DeviceLimit) : Direction → Rat
  | .outgoing => limit.tokens
  | .incoming => limit.receiveTokens

/-- The bytes of a millisecond. -/
def relayRate : Rat := (relayBytesPerSecond : Rat) / 1000

/-- What the device may still have relayed at a time. -/
def level (direction : Direction) (peerId : PeerId) (control : ControlState) (time : Rat) : Rat :=
  match control.deviceLimits.get? peerId with
  | none => 0
  | some limit => filled (relayBurstBytes : Rat) relayRate (limit.left direction) limit.updatedAt time

/-- Buckets are neither overdrawn nor overfull, and none is ahead of the clock. -/
structure DeviceLimit.InOrder (time : Rat) (limit : DeviceLimit) : Prop where
  held : ∀ direction, 0 ≤ limit.left direction
  fits : ∀ direction, limit.left direction ≤ relayBurstBytes
  past : (limit.updatedAt : Rat) ≤ time

def Bucketed (time : Rat) (control : ControlState) : Prop :=
  ∀ peerId limit, control.deviceLimits.get? peerId = some limit → limit.InOrder time

def frameLength (context : Context) (payload : Text) : Nat := ((decodeFrame context payload).getD []).length

/-- The bytes that pass a device in a direction with an output. -/
def passing (context : Context) (direction : Direction) (peerId : PeerId) (control : ControlState) : Output → Nat
  | .sent recipient (.relay sender payload) =>
      match direction with
      | .outgoing => if sender = peerId then frameLength context payload else 0
      | .incoming => if (control.data recipient).peerId = some peerId then frameLength context payload else 0
  | _ => 0

/-- The bytes that pass a device with the outputs of one event. -/
def relayBytes (context : Context) (direction : Direction) (peerId : PeerId) (control : ControlState) : Nat :=
  (control.wire.map (passing context direction peerId control)).sum

section

variable {context : Context} {grounds : Grounds} {control after : ControlState} {socket : Socket} {peerId device : PeerId}
  {limit : DeviceLimit} {direction : Direction} {time later : Rat} {roomId : RoomId} {roomAuth : Text}

theorem relayRate_nonneg : 0 ≤ relayRate := by
  unfold relayRate
  positivity

theorem burst_nonneg : (0 : Rat) ≤ relayBurstBytes := Nat.cast_nonneg _

theorem refill_left {now : Int} : (limit.refill now).left direction =
    filled (relayBurstBytes : Rat) relayRate (limit.left direction) limit.updatedAt now := by
  have fill : ∀ tokens : Rat, refilled tokens limit.updatedAt now = filled (relayBurstBytes : Rat) relayRate tokens limit.updatedAt now := by
    intro tokens
    unfold refilled filled relayRate
    congr 1
    ring
  cases direction with
  | outgoing => exact fill limit.tokens
  | incoming => exact fill limit.receiveTokens

theorem Bucketed.passes (bucketed : Bucketed time control) (passed : time ≤ later) : Bucketed later control := by
  intro peerId limit found
  have kept := bucketed peerId limit found
  exact ⟨kept.held, kept.fits, kept.past.trans passed⟩

theorem DeviceLimit.InOrder.refill {now : Int} (kept : limit.InOrder now) : (limit.refill now).InOrder now where
  held direction := by
    rw [refill_left]
    exact filled_nonneg burst_nonneg relayRate_nonneg (kept.held direction) kept.past
  fits direction := by
    rw [refill_left]
    exact filled_le
  past := le_rfl

theorem DeviceLimit.Lowers.left {lower : DeviceLimit} (lowers : limit.Lowers lower) :
    lower.left direction ≤ limit.left direction ∧ (0 ≤ limit.left direction → 0 ≤ lower.left direction) := by
  cases direction with
  | outgoing => exact ⟨lowers.tokens, lowers.spent⟩
  | incoming => exact ⟨lowers.receiveTokens, lowers.taken⟩

theorem DeviceLimit.InOrder.lower {lower : DeviceLimit} (kept : limit.InOrder time) (lowers : limit.Lowers lower) :
    lower.InOrder time where
  held direction := lowers.left.2 (kept.held direction)
  fits direction := lowers.left.1.trans (kept.fits direction)
  past := by
    rw [lowers.updatedAt]
    exact kept.past

theorem fresh_inOrder {now : Int} : (DeviceLimit.fresh now).InOrder now where
  held direction := by cases direction <;> exact burst_nonneg
  fits direction := by cases direction <;> exact le_rfl
  past := le_rfl

theorem level_some (found : control.deviceLimits.get? peerId = some limit) : level direction peerId control time =
    filled (relayBurstBytes : Rat) relayRate (limit.left direction) limit.updatedAt time := by
  simp [level, found]

theorem level_none (absent : control.deviceLimits.get? peerId = none) : level direction peerId control time = 0 := by
  simp [level, absent]

theorem level_le : level direction peerId control time ≤ relayBurstBytes := by
  cases found : control.deviceLimits.get? peerId with
  | none =>
      rw [level_none found]
      exact burst_nonneg
  | some limit =>
      rw [level_some found]
      exact filled_le

theorem level_nonneg (bucketed : Bucketed time control) : 0 ≤ level direction peerId control time := by
  cases found : control.deviceLimits.get? peerId with
  | none => rw [level_none found]
  | some limit =>
      have kept := bucketed peerId limit found
      rw [level_some found]
      exact filled_nonneg burst_nonneg relayRate_nonneg (kept.held direction) kept.past

theorem level_grows (passed : time ≤ later) :
    level direction peerId control later ≤ level direction peerId control time + relayRate * (later - time) := by
  cases found : control.deviceLimits.get? peerId with
  | none =>
      rw [level_none found, level_none found, zero_add]
      exact mul_nonneg relayRate_nonneg (sub_nonneg.mpr passed)
  | some limit =>
      rw [level_some found, level_some found]
      exact filled_grows relayRate_nonneg passed

theorem level_congr (same : after.deviceLimits = control.deviceLimits) :
    level direction peerId after time = level direction peerId control time := by
  rw [level, level, same]

theorem level_setDeviceLimit : level direction device (control.setDeviceLimit peerId limit) time =
    if device = peerId then filled (relayBurstBytes : Rat) relayRate (limit.left direction) limit.updatedAt time
    else level direction device control time := by
  unfold level
  rw [get?_setDeviceLimit]
  by_cases same : device = peerId
  · rw [if_pos same, if_pos same]
  · rw [if_neg same, if_neg same]

theorem bucketed_setDeviceLimit (bucketed : Bucketed time control) (kept : limit.InOrder time) :
    Bucketed time (control.setDeviceLimit peerId limit) := by
  intro device other found
  rw [get?_setDeviceLimit] at found
  split at found
  · cases found
    exact kept
  · exact bucketed device other found

/-! ## Each update -/

theorem limits_leave : (control.leave socket roomId).deviceLimits = control.deviceLimits := by
  unfold leave
  split
  · rfl
  · split <;> rfl

theorem limits_join : (control.join socket roomId roomAuth).deviceLimits = control.deviceLimits := by
  unfold join
  split <;> rfl

/-- A bucket that is left after a client is gone was there before. -/
theorem limits_forgets (found : ((control.forgetDevice socket).releaseConnection socket).deviceLimits.get? peerId = some limit) :
    ∃ before, control.deviceLimits.get? peerId = some before ∧ limit.left direction = before.left direction ∧
      limit.updatedAt = before.updatedAt ∧ ∀ time, before.InOrder time → limit.InOrder time := by
  have held : (control.forgetDevice socket).deviceLimits.get? peerId = some limit := found
  unfold forgetDevice at held
  split at held
  · exact ⟨limit, held, rfl, rfl, fun _ => id⟩
  · split at held
    · simp only [Dict.get?_mapValues, Dict.get?_erase, Option.map_eq_some_iff] at held
      obtain ⟨before, kept, rfl⟩ := held
      split at kept
      · cases kept
      · refine ⟨before, kept, by cases direction <;> rfl, rfl, fun time sound => ⟨?_, ?_, sound.past⟩⟩
        · intro direction
          have positive := sound.held direction
          cases direction <;> exact positive
        · intro direction
          have small := sound.fits direction
          cases direction <;> exact small
    · exact ⟨limit, held, rfl, rfl, fun _ => id⟩

/-- An update fills no bucket, but for a registration. -/
theorem Act.level (act : Act context grounds control after) (bucketed : Bucketed context.now control) :
    Bucketed context.now after ∧ (¬ grounds.grants peerId →
      level direction peerId after context.now ≤ level direction peerId control context.now) := by
  have unchanged : ∀ {state : ControlState}, state.deviceLimits = control.deviceLimits → Bucketed context.now state ∧
      (¬ grounds.grants peerId → Control.level direction peerId state context.now ≤ Control.level direction peerId control context.now) := by
    intro state same
    refine ⟨?_, fun _ => (level_congr same).le⟩
    unfold Bucketed
    rwa [same]
  cases act with
  | counts after tallied limits => exact unchanged limits
  | tells output fair => exact unchanged rfl
  | leaves socket roomId touched => exact unchanged limits_leave
  | joins socket message roomId roomAuth asked named valid matching => exact unchanged limits_join
  | retains socket message roomId payload asked named inside => exact unchanged rfl
  | registers socket message signed asked named proves granted => exact unchanged rfl
  | shuts socket touched => exact unchanged rfl
  | opens socket ip challengeId challenge new => exact unchanged rfl
  | limits device limit lower found lowered =>
      have kept := bucketed device limit found
      have next : lower.InOrder context.now := by
        rcases lowered with rfl | lowers
        · exact kept.refill
        · exact kept.lower lowers
      refine ⟨bucketed_setDeviceLimit bucketed next, fun _ => ?_⟩
      rw [level_setDeviceLimit]
      split
      · rename_i same
        rw [same, level_some found]
        rcases lowered with rfl | lowers
        · rw [refill_left]
          exact (filled_now filled_le).le
        · rw [lowers.updatedAt]
          exact filled_mono lowers.left.1
      · exact le_rfl
  | ensures device granted =>
      unfold ensureDeviceLimit
      cases found : control.deviceLimits.get? device with
      | some limit => exact ⟨bucketed, fun _ => le_rfl⟩
      | none =>
          refine ⟨bucketed_setDeviceLimit bucketed fresh_inOrder, fun ungranted => ?_⟩
          have another : peerId ≠ device := by
            rintro rfl
            exact ungranted granted
          rw [level_setDeviceLimit, if_neg another]
  | forgets socket touched =>
      refine ⟨fun device limit found => ?_, fun _ => ?_⟩
      · obtain ⟨before, held, -, -, sound⟩ := @limits_forgets control socket device limit .outgoing found
        exact sound _ (bucketed device before held)
      · cases found : ((control.forgetDevice socket).releaseConnection socket).deviceLimits.get? peerId with
        | none =>
            rw [level_none found]
            exact level_nonneg bucketed
        | some limit =>
            obtain ⟨before, held, left, updatedAt, -⟩ := @limits_forgets control socket peerId limit direction found
            rw [level_some found, level_some held, left, updatedAt]

theorem Acts.level (acts : Acts context grounds control after) (bucketed : Bucketed context.now control) :
    Bucketed context.now after ∧ (¬ grounds.grants peerId →
      level direction peerId after context.now ≤ level direction peerId control context.now) := by
  induction acts with
  | refl => exact ⟨bucketed, fun _ => le_rfl⟩
  | tail _ act ih =>
      obtain ⟨kept, lower⟩ := @act.level _ _ _ _ peerId direction ih.1
      exact ⟨kept, fun ungranted => (lower ungranted).trans (ih.2 ungranted)⟩

/-! ## Relay frames -/

theorem passing_direct {output : Output} (direct : output.isRelay = false) : passing context direction peerId control output = 0 := by
  cases output with
  | closed socket code => rfl
  | sent socket frame => cases frame <;> first | rfl | cases direct

theorem relayBytes_direct (direct : ∀ output ∈ control.wire, output.isRelay = false) :
    relayBytes context direction peerId control = 0 := by
  have none : ∀ count ∈ control.wire.map (passing context direction peerId control), count = 0 := by
    intro count listed
    obtain ⟨output, member, rfl⟩ := List.mem_map.mp listed
    exact passing_direct (direct output member)
  exact List.sum_eq_zero none

theorem Forward.distinct (forward : Forward context grounds control after) : forward.peerId ≠ forward.recipientId := by
  have shared := forward.shared
  simp only [peersShareRoom, forward.own, Bool.and_eq_true, decide_eq_true_eq] at shared
  exact shared.1

/-- The buckets of one device when a frame has been paid for. -/
theorem Forward.level_after (forward : Forward context grounds control after) : level direction device after context.now =
    if device = forward.recipientId then filled (relayBurstBytes : Rat) relayRate
      (DeviceLimit.left { forward.receiving with receiveTokens := forward.receiving.receiveTokens - forward.frame.length } direction)
      context.now context.now
    else if device = forward.peerId then filled (relayBurstBytes : Rat) relayRate
      (DeviceLimit.left { forward.sending with tokens := forward.sending.tokens - forward.frame.length } direction) context.now context.now
    else level direction device control context.now := by
  have same : level direction device after context.now = level direction device
      (spent context control forward.peerId forward.recipientId forward.frame.length forward.sending forward.receiving) context.now :=
    level_congr ((congrArg ControlState.deviceLimits forward.result).trans rfl)
  rw [same, spent, level_setDeviceLimit, level_setDeviceLimit, ← forward.current.1]
  by_cases receives : device = forward.recipientId
  · simp only [if_pos receives, forward.current]
  · simp only [if_neg receives]
    by_cases sends : device = forward.peerId
    · simp only [if_pos sends]
      cases direction <;> rfl
    · simp only [if_neg sends]

/-- The bytes of the frame, for the device that they are taken from. -/
theorem Forward.bytes (forward : Forward context grounds control after) (registered : Registered after)
    (direct : ∀ output ∈ control.wire, output.isRelay = false) : relayBytes context direction device after =
      match direction with
      | .outgoing => if forward.peerId = device then forward.frame.length else 0
      | .incoming => if forward.recipientId = device then forward.frame.length else 0 := by
  have aside := forward.aside
  have receives : (after.data forward.recipient).peerId = some forward.recipientId := by
    have held : after.socketsByPeerId.get? forward.recipientId = some forward.recipient := by
      rw [aside.socketsByPeerId]
      exact forward.registered
    exact ((registered.registered _ _).mp held).2
  have length : frameLength context forward.payload = forward.frame.length := by
    simp [frameLength, forward.decoded]
  have wire : after.wire = control.wire ++ [.sent forward.recipient (.relay forward.peerId forward.payload)] :=
    congrArg ControlState.wire forward.result
  have earlier : (control.wire.map (passing context direction device after)).sum = 0 := by
    apply List.sum_eq_zero
    intro count listed
    obtain ⟨output, member, rfl⟩ := List.mem_map.mp listed
    exact passing_direct (direct output member)
  rw [relayBytes, wire, List.map_append, List.sum_append, earlier]
  cases direction <;> simp [passing, receives, length]

/-- A frame that goes out has been paid for. -/
theorem Forward.pays (forward : Forward context grounds control after) (registered : Registered after)
    (direct : ∀ output ∈ control.wire, output.isRelay = false) (bucketed : Bucketed context.now control) :
    Bucketed context.now after ∧ (relayBytes context direction peerId after : Rat) + Control.level direction peerId after context.now ≤
      Control.level direction peerId control context.now := by
  have paying := bucketed _ _ forward.paying
  have taking := bucketed _ _ forward.taking
  have distinct := forward.distinct
  have length : (0 : Rat) ≤ forward.frame.length := Nat.cast_nonneg _
  refine ⟨?_, ?_⟩
  · rw [forward.result]
    have sending : DeviceLimit.InOrder context.now { forward.sending with
        relayPeers := forward.sending.relayPeers.set forward.recipientId context.now
        tokens := forward.sending.tokens - forward.frame.length } :=
      paying.lower ⟨rfl, sub_le_self _ length, le_rfl, fun _ => sub_nonneg.mpr forward.enough, id⟩
    have receiving : DeviceLimit.InOrder context.now { forward.receiving with
        receiveTokens := forward.receiving.receiveTokens - forward.frame.length } :=
      taking.lower ⟨rfl, le_rfl, sub_le_self _ length, id, fun _ => sub_nonneg.mpr forward.fits⟩
    exact bucketed_setDeviceLimit (bucketed_setDeviceLimit bucketed sending) receiving
  · have full : ∀ limit : DeviceLimit, limit.InOrder context.now → limit.updatedAt = context.now →
        filled (relayBurstBytes : Rat) relayRate (limit.left direction) limit.updatedAt context.now = limit.left direction := by
      intro limit kept current
      rw [current]
      exact filled_now (kept.fits direction)
    have least : ∀ tokens : Rat, filled (relayBurstBytes : Rat) relayRate tokens context.now context.now ≤ tokens := by
      intro tokens
      simp [filled]
    rw [forward.bytes registered direct, forward.level_after]
    by_cases receives : peerId = forward.recipientId
    · have sends : forward.peerId ≠ peerId := by
        rw [receives]
        exact distinct
      rw [if_pos receives, receives, level_some forward.taking, full _ taking forward.current.2]
      have after := least (DeviceLimit.left { forward.receiving with
        receiveTokens := forward.receiving.receiveTokens - forward.frame.length } direction)
      cases direction with
      | outgoing =>
          rw [receives] at sends
          simp only [if_neg sends, Nat.cast_zero, DeviceLimit.left] at after ⊢
          linarith
      | incoming =>
          simp only [if_true, DeviceLimit.left] at after ⊢
          linarith
    · rw [if_neg receives]
      by_cases sends : peerId = forward.peerId
      · rw [if_pos sends, sends, level_some forward.paying, full _ paying forward.current.1]
        have after := least (DeviceLimit.left { forward.sending with
          tokens := forward.sending.tokens - forward.frame.length } direction)
        cases direction with
        | outgoing =>
            simp only [if_true, DeviceLimit.left] at after ⊢
            linarith
        | incoming =>
            simp only [if_neg distinct.symm, Nat.cast_zero, DeviceLimit.left] at after ⊢
            linarith
      · rw [if_neg sends]
        cases direction with
        | outgoing => simp [Ne.symm sends]
        | incoming => simp [Ne.symm receives]

/-- What passes a device in one event is paid from its buckets, which a registration may fill. -/
theorem Ends.pays (ends : Ends context grounds control.quiet after) (registered : Registered after)
    (bucketed : Bucketed context.now control) {granted : Bool} (grants : grounds.grants peerId → granted = true) :
    Bucketed context.now after ∧ (relayBytes context direction peerId after : Rat) + level direction peerId after context.now ≤
      level direction peerId control context.now + if granted then (relayBurstBytes : Rat) else 0 := by
  have quiet : level direction peerId control.quiet context.now = level direction peerId control context.now := level_congr rfl
  have lower : ∀ {final : ControlState}, Acts context grounds control.quiet final → Bucketed context.now final ∧
      level direction peerId final context.now ≤ level direction peerId control context.now + if granted then (relayBurstBytes : Rat) else 0 := by
    intro final acts
    obtain ⟨kept, fewer⟩ := @acts.level _ _ _ _ peerId direction bucketed
    refine ⟨kept, ?_⟩
    cases granted with
    | true =>
        have small := @level_le final peerId direction context.now
        have least := @level_nonneg control peerId direction context.now bucketed
        simp only [if_true]
        linarith
    | false =>
        have rest := fewer fun given => absurd (grants given) Bool.false_ne_true
        rw [quiet] at rest
        simpa using rest
  have direct : ∀ {final : ControlState}, Acts context grounds control.quiet final → ∀ output ∈ final.wire, output.isRelay = false :=
    fun acts => acts.unrelayed fun _ listed => nomatch listed
  rcases ends with acts | ⟨middle, acts, ⟨forward⟩⟩
  · obtain ⟨kept, bound⟩ := lower acts
    refine ⟨kept, ?_⟩
    rw [relayBytes_direct (direct acts)]
    simpa using bound
  · obtain ⟨kept, bound⟩ := lower acts
    obtain ⟨still, paid⟩ := @forward.pays _ _ _ _ peerId direction registered (direct acts) kept
    exact ⟨still, paid.trans bound⟩

end

/-! ## Runs -/

section

variable (deployment : Deployment) (direction : Direction) (peerId : PeerId)

/-- A message that asks to register the device. -/
def Bun.registers (_ : ControlState) (turn : Turn) : Bool :=
  match turn.event with
  | .message _ raw => (Bun.readMessage raw.content).type = .deviceRegister &&
      (Bun.readMessage raw.content).registration?.any fun signed => signed.registration.peerId = peerId
  | _ => false

/-- The loop takes up a registration of the device after its last wait. -/
def Worker.registers (worker : WorkerState) (turn : WorkerTurn) : Bool :=
  match turn.event, worker.stage with
  | .resume, some (.verifying _ signed) => signed.registration.peerId = peerId
  | _, _ => false

/-- The bytes that pass the device in a direction along a run. -/
def Bun.relayed : ControlState → List Turn → Rat :=
  sumSteps (Bun.step deployment) fun _ turn next => relayBytes (Bun.context deployment turn.now) direction peerId next

def Worker.relayed : WorkerState → List WorkerTurn → Rat :=
  sumSteps (Worker.step deployment) fun _ turn next =>
    relayBytes (Worker.context deployment turn.now turn.failing) direction peerId next.control

/-- The buckets of a device in the Bun server. -/
def Bun.budget : Budget (Bun.step deployment) (fun turn => (turn.now : Rat))
    (fun _ turn next => (relayBytes (Bun.context deployment turn.now) direction peerId next : Rat)) where
  invariant time control := Bucketed time control ∧ Wellkept control
  level := level direction peerId
  rate := relayRate
  grant control turn _ := if Bun.registers peerId control turn then (relayBurstBytes : Rat) else 0
  later _ _ _ passed held := ⟨held.1.passes passed, held.2⟩
  covered _ _ held := level_nonneg held.1
  grows _ _ _ passed := level_grows passed
  keeps control turn next held stepped := by
    have left := Bun.step_wellkept held.2 stepped
    have ends := @Bun.step_ends ⟨fun _ _ => True, fun _ => True, fun _ => True⟩ control deployment turn next
      (fun _ _ _ => trivial) (fun _ _ _ _ _ _ => ⟨trivial, fun _ _ => trivial⟩) (fun _ _ => trivial) stepped
    exact ⟨(@ends.pays _ _ _ _ peerId direction left.toRegistered held.1 true fun _ => rfl).1, left⟩
  pays control turn next held stepped := by
    have left := Bun.step_wellkept held.2 stepped
    have ends := @Bun.step_ends ⟨fun _ _ => True, fun device => Bun.registers device control turn = true, fun _ => True⟩ control
      deployment turn next (fun _ _ _ => trivial)
      (fun socket raw signed sent type claimed => ⟨by simp [Bun.registers, sent, type, claimed], fun _ _ => trivial⟩)
      (fun _ _ => trivial) stepped
    exact (@ends.pays _ _ _ _ peerId direction left.toRegistered held.1 (Bun.registers peerId control turn) id).2

/-- The buckets of a device in the Worker. -/
def Worker.budget : Budget (Worker.step deployment) (fun turn => (turn.now : Rat))
    (fun _ turn next => (relayBytes (Worker.context deployment turn.now turn.failing) direction peerId next.control : Rat)) where
  invariant time worker := Bucketed time worker.control ∧ worker.Kept deployment.crypto
  level worker := level direction peerId worker.control
  rate := relayRate
  grant worker turn _ := if Worker.registers peerId worker turn then (relayBurstBytes : Rat) else 0
  later _ _ _ passed held := ⟨held.1.passes passed, held.2⟩
  covered _ _ held := level_nonneg held.1
  grows _ _ _ passed := level_grows passed
  keeps worker turn next held stepped := by
    have left := Worker.step_kept held.2 stepped
    have turns := @Worker.step_turns ⟨fun _ _ => True, fun _ => True, fun _ => True⟩ worker deployment turn next held.2
      (fun _ _ _ => trivial) (fun _ _ _ _ => ⟨trivial, fun _ _ => trivial⟩) (fun _ _ => trivial) stepped
    have ends := (turns ⟨fun _ _ => trivial, fun _ _ => trivial⟩).1
    exact ⟨(@ends.pays _ _ _ _ peerId direction left.steady.sound.toRegistered held.1 true fun _ => rfl).1, left⟩
  pays worker turn next held stepped := by
    have left := Worker.step_kept held.2 stepped
    have turns := @Worker.step_turns ⟨fun _ _ => True, fun device => Worker.registers device worker turn = true, fun _ => True⟩ worker
      deployment turn next held.2 (fun _ _ _ => trivial)
      (fun entry signed resumes waits => ⟨by simp [Worker.registers, resumes, waits], fun _ _ => trivial⟩) (fun _ _ => trivial) stepped
    have ends := (turns ⟨fun _ _ => trivial, fun _ _ => trivial⟩).1
    exact (@ends.pays _ _ _ _ peerId direction left.steady.sound.toRegistered held.1 (Worker.registers peerId worker turn) id).2

theorem Bun.budget_empty (time : Rat) : (Bun.budget deployment direction peerId).invariant time .empty :=
  ⟨fun _ _ found => (nomatch found), empty_wellkept⟩

theorem Worker.budget_empty (time : Rat) : (Worker.budget deployment direction peerId).invariant time .empty :=
  ⟨fun _ _ found => (nomatch found), WorkerState.empty_kept⟩

/-- In any interval of a run the bytes that are relayed from a device, and those that
are relayed to it, are at most a burst, another for each registration of the device,
and what the rate gives in the interval. -/
theorem relayed_bytes_are_limited :
    (∀ earlier turns start final begins ends, run (Bun.step deployment) .empty earlier = some start →
      run (Bun.step deployment) start turns = some final → Budget.Spans (fun turn => (turn.now : Rat)) earlier turns begins ends →
      Bun.relayed deployment direction peerId start turns ≤
        relayBurstBytes * (1 + countSteps (Bun.step deployment) (Bun.registers peerId) start turns) +
          relayBytesPerSecond * ((ends - begins) / 1000)) ∧
    ∀ earlier turns start final begins ends, run (Worker.step deployment) .empty earlier = some start →
      run (Worker.step deployment) start turns = some final → Budget.Spans (fun turn => (turn.now : Rat)) earlier turns begins ends →
      Worker.relayed deployment direction peerId start turns ≤
        relayBurstBytes * (1 + countSteps (Worker.step deployment) (Worker.registers peerId) start turns) +
          relayBytesPerSecond * ((ends - begins) / 1000) := by
  refine ⟨fun earlier turns start final begins ends arrived completed spans => ?_,
    fun earlier turns start final begins ends arrived completed spans => ?_⟩
  · have spent := (Bun.budget deployment direction peerId).spent_within (Bun.budget_empty deployment direction peerId) spans arrived completed
    have full := @level_le start peerId direction begins
    simp only [Bun.budget, sumSteps_count, relayRate] at spent
    rw [Bun.relayed]
    linarith
  · have spent := (Worker.budget deployment direction peerId).spent_within (Worker.budget_empty deployment direction peerId) spans arrived
      completed
    have full := @level_le start.control peerId direction begins
    simp only [Worker.budget, sumSteps_count, relayRate] at spent
    rw [Worker.relayed]
    linarith

end

/-- A relay frame of one byte, within the limit. -/
theorem one_byte_is_relayed :
    Bun.relayed Sample.deployment .outgoing (Sample.name 97) .empty (Sample.turns (Sample.meeting Sample.relaying)) = 1 ∧
      Bun.relayed Sample.deployment .outgoing (Sample.name 97) .empty (Sample.turns (Sample.meeting Sample.relaying)) ≤
        relayBurstBytes * (1 + countSteps (Bun.step Sample.deployment) (Bun.registers (Sample.name 97)) .empty
          (Sample.turns (Sample.meeting Sample.relaying))) + relayBytesPerSecond * ((0 - 0) / 1000) := by
  have first : (run (Bun.step Sample.deployment) .empty (Sample.turns (Sample.meeting Sample.relaying))).isSome = true := by
    decide +kernel
  obtain ⟨control, reached⟩ := Option.isSome_iff_exists.mp first
  have still : ∀ turn ∈ Sample.turns (Sample.meeting Sample.relaying), turn.now = 0 := by
    intro turn listed
    obtain ⟨event, -, rfl⟩ := List.mem_map.mp listed
    rfl
  have spans : Budget.Spans (fun turn : Turn => (turn.now : Rat)) [] (Sample.turns (Sample.meeting Sample.relaying)) 0 0 := by
    refine ⟨le_rfl, ?_, fun _ listed => (nomatch listed), fun turn listed => by simp [still turn listed]⟩
    refine List.pairwise_of_forall_mem_list fun turn listed later member => ?_
    rw [still turn listed, still later member]
  exact ⟨by decide +kernel,
    (relayed_bytes_are_limited Sample.deployment .outgoing (Sample.name 97)).1 [] _ .empty control 0 0 rfl reached spans⟩

end MeshTalk.Control
