import MeshTalk.Control.Failures
import MeshTalk.Control.Pending

namespace MeshTalk.Control

open MeshTalk.Library ControlState WorkerState

/-! # What holds of the Worker between two events

Nothing is assumed of the sends here.  The messages that are accounted for are the
queued ones and those the loop has taken from the queue.
-/

/-- The client was opened and has been closed. -/
def ControlState.Gone (control : ControlState) (socket : Socket) : Prop :=
  control.sockets.contains socket = true ∧ ¬ control.Live socket

/-- The loop takes the messages of a client as they came, and of a client that is
not gone none is lost. -/
structure WorkerState.Ordered (worker : WorkerState) (socket : Socket) : Prop where
  begun : sentBy socket worker.begun ++ sentBy socket worker.queue <+: sentBy socket worker.admitted
  complete : ¬ worker.control.Gone socket →
    sentBy socket worker.begun ++ sentBy socket worker.queue = sentBy socket worker.admitted

/-- The messages and their counters are in order; `current` are those in the loop. -/
structure WorkerState.Orderly (worker : WorkerState) (current : List Pending) : Prop where
  accounted : worker.Accounted (current ++ worker.queue)
  fits : worker.Fits (current ++ worker.queue)
  known : ∀ entry ∈ current ++ worker.queue, worker.control.sockets.contains entry.socket = true
  alive : ∀ entry ∈ worker.queue, worker.control.Live entry.socket
  ordered : ∀ socket, worker.Ordered socket

structure WorkerState.Steady (worker : WorkerState) (current : List Pending) : Prop extends Orderly worker current where
  sound : Sound worker.control

/-- The registration that a message asks for, as far as it has been checked. -/
structure Pending.Asks (entry : Pending) (signed : SignedRegistration) (data : ClientData) : Prop where
  asked : entry.message.type = .deviceRegister ∧ entry.message.registration? = some signed
  challengeId : signed.registration.challengeId = data.challengeId
  nonce : signed.registration.nonce = data.challenge
  own : ∀ held ∈ data.peerId, held = signed.registration.peerId

/-- What has been checked of a registration that waits still holds. -/
def Stage.Claims (crypto : Crypto) (worker : WorkerState) : Stage → Prop
  | .handled _ _ => True
  | .hashing entry signed => entry.Asks signed (worker.data entry.socket)
  | .verifying entry signed => entry.Asks signed (worker.data entry.socket) ∧
      toHex (crypto.sha256 (fromHex signed.registration.signingPublicKey)) = signed.registration.peerId

/-- What holds of the Worker between two events. -/
structure WorkerState.Kept (crypto : Crypto) (worker : WorkerState) : Prop where
  steady : worker.Steady (worker.stage.map Stage.entry).toList
  claims : ∀ stage, worker.stage = some stage → stage.Claims crypto worker

/-- No message is taken from the queue, and who is gone stays gone. -/
structure WorkerState.Untaken (start after : WorkerState) : Prop where
  begun : after.begun = start.begun
  gone : ∀ socket, start.control.Gone socket → after.control.Gone socket

/-- At most one message is taken from the queue, of a client that was not gone. -/
structure WorkerState.Takes (start after : WorkerState) : Prop where
  begun : after.begun = start.begun ∨ ∃ entry, after.begun = start.begun ++ [entry] ∧ ¬ start.control.Gone entry.socket
  gone : ∀ socket, start.control.Gone socket → after.control.Gone socket

/-- The part of the state of `start` that only the loop itself changes. -/
structure WorkerState.Held (current : List Pending) (start worker : WorkerState) : Prop where
  steady : worker.Steady current
  waits : worker.stage = start.stage
  untaken : start.Untaken worker
  devices : ∀ socket, (worker.data socket).peerId = (start.data socket).peerId
  greeted : ∀ entry ∈ current, greeting (worker.data entry.socket) = greeting (start.data entry.socket)

/-- What is left of the loop's own tables when a client is gone. -/
structure WorkerState.Parted (socket : Socket) (before after : WorkerState) : Prop where
  stage : after.stage = before.stage
  queue : after.queue = before.queue.filter fun entry => entry.socket ≠ socket
  admitted : after.admitted = before.admitted
  begun : after.begun = before.begun

namespace WorkerState

variable {crypto : Crypto} {worker start after : WorkerState} {current own others : List Pending} {entry : Pending}
  {socket : Socket}

theorem empty_kept : Kept crypto empty where
  steady := {
    sound := empty_sound
    accounted := empty_accounted
    fits := ⟨⟨Int.natCast_nonneg _, Int.natCast_nonneg _⟩, fun _ => ⟨Int.natCast_nonneg _, Int.natCast_nonneg _⟩,
      fun _ => ⟨Int.natCast_nonneg _, Int.natCast_nonneg _⟩⟩
    known := fun _ member => absurd member List.not_mem_nil
    alive := fun _ member => absurd member List.not_mem_nil
    ordered := fun _ => ⟨List.prefix_rfl, fun _ => rfl⟩ }
  claims := fun _ waits => absurd waits.symm (Option.some_ne_none _)

/-- An update of the tables that closes nobody. -/
theorem Orderly.stays {control : ControlState} (orderly : worker.Orderly current) (kin : Kin worker.control control)
    (closed : ∀ socket, worker.control.sockets.contains socket = true →
      (control.data socket).closed = (worker.control.data socket).closed) :
    Orderly { worker with control := control } current where
  accounted := orderly.accounted.control rfl rfl rfl fun entry member => kin.ip (orderly.known entry member)
  fits := orderly.fits.fewer (List.Subperm.refl _) fun entry member => kin.ip (orderly.known entry member)
  known := fun entry member => kin.known _ (orderly.known entry member)
  alive := fun entry member => (closed _ (orderly.known entry (List.mem_append_right _ member))).trans (orderly.alive entry member)
  ordered := fun socket => ⟨(orderly.ordered socket).begun, fun present => (orderly.ordered socket).complete fun gone =>
    present ⟨kin.known socket gone.1, fun alive => gone.2 ((closed socket gone.1).symm.trans alive)⟩⟩

theorem Steady.follows {control : ControlState} (steady : worker.Steady current) (follows : Follows worker.control control) :
    Steady { worker with control := control } current where
  toOrderly := steady.toOrderly.stays follows.kin follows.closed
  sound := follows.sound steady.sound

theorem Untaken.refl : Untaken worker worker := ⟨rfl, fun _ => id⟩

theorem Untaken.trans {middle : WorkerState} (first : Untaken start middle) (second : Untaken middle after) :
    Untaken start after :=
  ⟨second.begun.trans first.begun, fun socket gone => second.gone socket (first.gone socket gone)⟩

theorem Untaken.takes (untaken : Untaken start after) : Takes start after := ⟨.inl untaken.begun, untaken.gone⟩

theorem Untaken.then {middle : WorkerState} (first : Untaken start middle) (second : Takes middle after) : Takes start after where
  begun := by
    rw [← first.begun]
    refine second.begun.imp id ?_
    rintro ⟨entry, begun, present⟩
    exact ⟨entry, begun, fun gone => present (first.gone _ gone)⟩
  gone := fun socket gone => second.gone socket (first.gone socket gone)

theorem gone_of {before control : ControlState} (kin : Kin before control)
    (closed : ∀ socket, before.sockets.contains socket = true → (control.data socket).closed = (before.data socket).closed)
    (gone : before.Gone socket) : control.Gone socket :=
  ⟨kin.known socket gone.1, fun alive => gone.2 ((closed socket gone.1).symm.trans alive)⟩

theorem Steady.held (steady : worker.Steady current) : Held current worker worker :=
  ⟨steady, rfl, .refl, fun _ => rfl, fun _ _ => rfl⟩

theorem Held.follows {control : ControlState} (held : Held current start worker) (follows : Follows worker.control control) :
    Held current start { worker with control := control } where
  steady := held.steady.follows follows
  waits := held.waits
  untaken := held.untaken.trans ⟨rfl, fun _ => gone_of follows.kin follows.closed⟩
  devices := fun socket => (follows.devices socket).trans (held.devices socket)
  greeted := fun entry member => (follows.kin.greeted _ (held.steady.known entry (List.mem_append_left _ member))).trans
    (held.greeted entry member)

theorem asks_of {data other : ClientData} {signed : SignedRegistration} (asks : entry.Asks signed data)
    (greeted : greeting other = greeting data) (device : other.peerId = data.peerId) : entry.Asks signed other where
  asked := asks.asked
  challengeId := asks.challengeId.trans (congrArg (fun greeted => greeted.2.1) greeted).symm
  nonce := asks.nonce.trans (congrArg (fun greeted => greeted.2.2) greeted).symm
  own := by
    rw [device]
    exact asks.own

theorem claims_of {stage : Stage} (claims : stage.Claims crypto worker)
    (greeted : greeting (after.data stage.entry.socket) = greeting (worker.data stage.entry.socket))
    (device : (after.data stage.entry.socket).peerId = (worker.data stage.entry.socket).peerId) : stage.Claims crypto after := by
  cases stage with
  | handled entry failure => trivial
  | hashing entry signed => exact asks_of claims greeted device
  | verifying entry signed => exact ⟨asks_of claims.1 greeted device, claims.2⟩

theorem Kept.of_held (kept : Kept crypto worker) (held : Held (worker.stage.map Stage.entry).toList worker after) :
    Kept crypto after where
  steady := by
    rw [held.waits]
    exact held.steady
  claims := by
    intro stage waits
    have waited := held.waits.symm.trans waits
    refine claims_of (kept.claims stage waited) (held.greeted stage.entry ?_) (held.devices _)
    rw [waited]
    exact List.mem_singleton_self _

/-- A handler that leaves the loop alone. -/
abbrev LeavesLoop (handler : WorkerHandler α) : Prop :=
  ∀ current start, Handler.Keeps (Held current start) handler

theorem LeavesLoop.advanced {handler : WorkerHandler α} (leaves : LeavesLoop handler) :
    Handler.Keeps (fun worker => Kept crypto worker ∧ start.Untaken worker) handler := by
  rintro worker ⟨kept, untaken⟩
  have left := leaves _ _ worker kept.steady.held
  rcases ran : handler worker with ⟨outcome, after⟩
  rw [ran] at left
  cases outcome <;> exact ⟨kept.of_held left, untaken.trans left.untaken⟩

end WorkerState

namespace Worker

variable {context : Context} {worker : WorkerState} {socket : Socket} {entry : Pending} {current : List Pending}
  {stage : Option Stage}

theorem onControl_apply {handler : ControlHandler α} :
    onControl handler worker = ((handler worker.control).1, { worker with control := (handler worker.control).2 }) := rfl

theorem onControl_leaves {handler : ControlHandler α} (trails : ∀ control, Trails handler control) :
    LeavesLoop (onControl handler) := by
  intro current start worker held
  have left := held.follows (trails worker.control)
  rw [onControl_apply]
  cases (handler worker.control).1 <;> exact left

theorem putClosed_leaves {code : Nat} : LeavesLoop (putClosed socket code) :=
  fun _ _ => Handler.Keeps.change fun _ held => held.follows .putAll

/-! ## The end of a client -/

/-- What a client has queued is released, and the tables are cleaned up. -/
theorem handleClose_apply (accounted : worker.Accounted (current ++ worker.queue))
    (known : ∀ entry ∈ current ++ worker.queue, worker.control.sockets.contains entry.socket = true)
    (live : worker.control.Live socket) :
    ∃ after : WorkerState, handleClose context socket worker =
        ((detach context socket (worker.control.markClosed socket)).1,
          { after with control := (detach context socket (worker.control.markClosed socket)).2 }) ∧
      Parted socket worker after ∧
      ∀ control, Kin worker.control control → Accounted { after with control := control } (current ++ after.queue) := by
  have flag : (worker.control.data socket).closed = false := live
  have address : ∀ other, ((worker.control.markClosed socket).data other).ip = (worker.control.data other).ip := by
    intro other
    rw [markClosed_data]
    split
    · rename_i itself
      rw [itself]
      rfl
    · rfl
  have marked : Accounted { worker with control := worker.control.markClosed socket } (current ++ worker.queue) :=
    accounted.control rfl rfl rfl fun entry _ => address entry.socket
  have split : (current ++ worker.queue).Perm ((worker.queue.filter fun entry => entry.socket = socket) ++
      (current ++ worker.queue.filter fun entry => entry.socket ≠ socket)) := by
    have parts := (List.filter_append_perm (fun entry : Pending => decide (entry.socket = socket)) worker.queue).symm
    have negated : (fun entry : Pending => !decide (entry.socket = socket)) = fun entry => decide (entry.socket ≠ socket) := by
      funext entry
      simp
    rw [negated] at parts
    refine (parts.append_left current).trans ?_
    rw [← List.append_assoc, ← List.append_assoc]
    exact List.perm_append_comm.append_right _
  obtain ⟨after, released, left, loop⟩ := (marked.perm split).releaseAll
  have kept : (after.dropQueued socket).queue = worker.queue.filter fun entry => entry.socket ≠ socket := by
    change after.queue.filter _ = _
    rw [loop.queue]
  refine ⟨after.dropQueued socket, ?_, ⟨loop.stage, kept, loop.admitted, loop.begun⟩, ?_⟩
  · rw [handleClose, Handler.bind_apply]
    change (if (worker.data socket).closed then (pure ⟨⟩ : WorkerHandler PUnit) else _) worker = _
    rw [WorkerState.data, flag, if_neg Bool.false_ne_true, Handler.bind_apply]
    dsimp only [Handler.change]
    rw [Handler.bind_apply, released]
    have same : (after.dropQueued socket).control = worker.control.markClosed socket := loop.control
    change onControl (detach context socket) (after.dropQueued socket) = _
    unfold onControl
    rw [same]
  · intro control kin
    rw [kept]
    refine left.control rfl rfl rfl fun entry member => ?_
    have listed : entry ∈ current ++ worker.queue := by
      rcases List.mem_append.mp member with early | late
      · exact List.mem_append_left _ early
      · exact List.mem_append_right _ (List.mem_filter.mp late).1
    rw [WorkerState.data, WorkerState.data, loop.control, address]
    exact kin.ip (known entry listed)

theorem sentBy_parted {entries : List Pending} {other : Socket} :
    sentBy other (entries.filter fun entry => entry.socket ≠ socket) = if other = socket then [] else sentBy other entries := by
  rw [sentBy, List.filter_filter]
  split
  · rename_i itself
    rw [List.filter_eq_nil_iff]
    intro entry _
    simp [itself]
  · rename_i another
    refine List.filter_congr fun entry _ => ?_
    by_cases own : entry.socket = other <;> simp [own, another]

theorem live_known {control : ControlState} (live : control.Live socket) : control.sockets.contains socket = true := by
  rw [Live, ControlState.data] at live
  rw [Dict.contains]
  cases found : control.sockets.get? socket with
  | none =>
      rw [found] at live
      cases live
  | some data => rfl

/-- The messages of the others are in order when a client is gone. -/
theorem Orderly.parted {after : WorkerState} (orderly : worker.Orderly current) (opened : worker.control.Live socket)
    (parted : Parted socket worker after)
    (accounted : after.Accounted (current ++ after.queue)) (kin : Kin worker.control after.control)
    (live : ∀ other, after.control.Live other ↔ worker.control.Live other ∧ other ≠ socket) : after.Orderly current := by
  have fewer : (current ++ after.queue).Sublist (current ++ worker.queue) := by
    rw [parted.queue]
    exact List.filter_sublist.append_left current
  refine ⟨accounted, ?_, ?_, ?_, ?_⟩
  · exact orderly.fits.fewer fewer.subperm fun entry member => kin.ip (orderly.known entry (fewer.subset member))
  · exact fun entry member => kin.known _ (orderly.known entry (fewer.subset member))
  · intro entry member
    rw [parted.queue] at member
    obtain ⟨waits, another⟩ := List.mem_filter.mp member
    exact (live _).mpr ⟨orderly.alive entry waits, of_decide_eq_true another⟩
  · intro other
    have before := orderly.ordered other
    have queued : sentBy other after.queue = if other = socket then [] else sentBy other worker.queue := by
      rw [parted.queue]
      exact sentBy_parted
    by_cases itself : other = socket
    · rw [if_pos itself] at queued
      refine ⟨?_, fun present => ?_⟩
      · rw [parted.begun, parted.admitted, queued, List.append_nil]
        exact (List.prefix_append _ _).trans before.begun
      · refine absurd ⟨kin.known other ?_, fun alive => ((live other).mp alive).2 itself⟩ present
        rw [itself]
        exact live_known opened
    · rw [if_neg itself] at queued
      refine ⟨?_, fun present => ?_⟩
      · rw [parted.begun, parted.admitted, queued]
        exact before.begun
      · rw [parted.begun, parted.admitted, queued]
        refine before.complete fun gone => present ⟨kin.known other gone.1, fun alive => gone.2 ((live other).mp alive).1⟩

/-- The Worker after a client is gone, where its tables are in order. -/
theorem handleClose_steady (orderly : worker.Orderly current) (live : worker.control.Live socket)
    (kin : Kin worker.control (detach context socket (worker.control.markClosed socket)).2)
    (sound : Sound (detach context socket (worker.control.markClosed socket)).2) :
    ∃ after : WorkerState, handleClose context socket worker =
        ((detach context socket (worker.control.markClosed socket)).1, after) ∧
      after.control = (detach context socket (worker.control.markClosed socket)).2 ∧ Parted socket worker after ∧
      after.Steady current := by
  obtain ⟨after, ran, parted, counted⟩ := @handleClose_apply context worker socket current orderly.accounted orderly.known live
  refine ⟨_, ran, rfl, ⟨parted.stage, parted.queue, parted.admitted, parted.begun⟩, ?_, sound⟩
  exact Orderly.parted orderly live ⟨parted.stage, parted.queue, parted.admitted, parted.begun⟩ (counted _ kin) kin
    fun other => detach_live

theorem handleClose_ignored (gone : ¬ worker.control.Live socket) : handleClose context socket worker = (.ok ⟨⟩, worker) := by
  have flag : (worker.control.data socket).closed = true := by simpa [Live] using gone
  rw [handleClose, Handler.bind_apply]
  change (if (worker.data socket).closed then (pure ⟨⟩ : WorkerHandler PUnit) else _) worker = _
  rw [WorkerState.data, flag, if_pos rfl]
  rfl

theorem detach_stays {control : ControlState} {other : Socket} (gone : control.Gone other) :
    (detach context socket (control.markClosed socket)).2.Gone other :=
  ⟨detach_kin.known other gone.1, fun alive => gone.2 (detach_live.mp alive).1⟩

theorem handleClose_leaves : LeavesLoop (handleClose context socket) := by
  intro current start worker held
  by_cases live : worker.control.Live socket
  · obtain ⟨after, ran, control, parted, steady⟩ := @handleClose_steady context worker socket current held.steady.toOrderly live
      detach_kin (detach_sound ⟨held.steady.sound.toLinked.same sameRooms_retire, held.steady.sound.toRegistered.retire live⟩)
    have kept : Held current start after := by
      have untaken : Untaken worker after := by
        refine ⟨parted.begun, fun other gone => ?_⟩
        rw [control]
        exact detach_stays gone
      refine ⟨steady, parted.stage.trans held.waits, held.untaken.trans untaken, fun other => ?_, fun entry member => ?_⟩
      · rw [WorkerState.data, control, detach_devices]
        exact held.devices other
      · rw [WorkerState.data, control]
        exact (detach_kin.greeted _ (held.steady.known entry (List.mem_append_left _ member))).trans (held.greeted entry member)
    rw [ran]
    cases (detach context socket (worker.control.markClosed socket)).1 <;> exact kept
  · rw [handleClose_ignored live]
    exact held

theorem rejectClient_leaves {text : String} : LeavesLoop (rejectClient context socket text) := by
  intro current start
  refine (handleClose_leaves current start).bind fun _ => ?_
  have sends := @onControl_leaves PUnit _ fun control => @Trails.send context control socket (.error text)
  refine Handler.Keeps.bind ?_ fun _ => putClosed_leaves current start
  exact Handler.Ensures.recover (sends current start) fun _ => Handler.Keeps.pure

/-! ## Registration -/

theorem confirmRegistration_trails {control : ControlState} {peerId : PeerId} :
    Trails (confirmRegistration context socket peerId) control :=
  (Follows.aside aside_ensureDeviceLimit).trans Trails.send

theorem LeavesLoop.held {handler : WorkerHandler α} (leaves : LeavesLoop handler) (steady : worker.Steady current) :
    Held current worker (handler worker).2 := by
  have left := leaves current worker worker steady.held
  rcases ran : handler worker with ⟨outcome, after⟩
  rw [ran] at left
  cases outcome <;> exact left

/-- The registration of a device, after which the loop is where it was. -/
theorem commitRegistration_steady {peerId : PeerId} (steady : worker.Steady current)
    (own : ∀ held ∈ (worker.data socket).peerId, held = peerId) :
    (commitRegistration context socket peerId worker).2.Steady current ∧
      worker.Untaken (commitRegistration context socket peerId worker).2 := by
  have confirms : LeavesLoop (onControl (confirmRegistration context socket peerId)) :=
    onControl_leaves fun _ => confirmRegistration_trails
  by_cases live : worker.control.Live socket
  · have flag : (worker.control.data socket).closed = false := live
    have reached : commitRegistration context socket peerId worker = (do
        replacePrevious context (worker.control.previousOf socket peerId)
        onControl (confirmRegistration context socket peerId) : WorkerHandler PUnit)
          { worker with control := worker.control.setRegistered socket peerId } := by
      rw [commitRegistration, Handler.bind_apply]
      change (if (worker.data socket).closed then (pure ⟨⟩ : WorkerHandler PUnit) else _) worker = _
      rw [WorkerState.data, flag, if_neg Bool.false_ne_true]
      rfl
    have kin : Kin worker.control (worker.control.setRegistered socket peerId) := kin_setRegistered
    have closed : ∀ other, worker.control.sockets.contains other = true →
        ((worker.control.setRegistered socket peerId).data other).closed = (worker.control.data other).closed := by
      intro other _
      rw [setRegistered_data]
      split
      · rename_i itself
        rw [itself]
        rfl
      · rfl
    have orderly : Orderly { worker with control := worker.control.setRegistered socket peerId } current :=
      steady.toOrderly.stays kin closed
    have named : Untaken worker { worker with control := worker.control.setRegistered socket peerId } :=
      ⟨rfl, fun _ => gone_of kin closed⟩
    have linked := steady.sound.toLinked.same (@sameRooms_setRegistered worker.control socket peerId)
    rw [reached, Handler.bind_apply]
    cases taken : worker.control.previousOf socket peerId with
    | none =>
        have registered := steady.sound.toRegistered.setRegistered live own taken
        have start : Steady { worker with control := worker.control.setRegistered socket peerId } current :=
          ⟨orderly, linked, registered⟩
        have finished := LeavesLoop.held confirms start
        exact ⟨finished.steady, named.trans finished.untaken⟩
    | some previous =>
        obtain ⟨holder, -⟩ := Option.filter_eq_some_iff.mp taken
        have alive : (worker.control.setRegistered socket peerId).Live previous :=
          live_setRegistered.mpr ((steady.sound.registered peerId previous).mp holder).1
        have registered := steady.sound.toRegistered.replace live own taken
        obtain ⟨after, ran, control, parted, kept⟩ := @handleClose_steady context _ previous current orderly alive detach_kin
          (detach_sound ⟨linked.same sameRooms_retire, registered⟩)
        have untaken : Untaken worker after := by
          refine named.trans ⟨parted.begun, fun other gone => ?_⟩
          rw [control]
          exact detach_stays gone
        rw [replacePrevious, Handler.bind_apply, ran]
        cases (detach context previous ((worker.control.setRegistered socket peerId).markClosed previous)).1 with
        | error text => exact ⟨kept, untaken⟩
        | ok value =>
            have rest : LeavesLoop (putClosed previous 4000 >>= fun _ => onControl (confirmRegistration context socket peerId)) :=
              fun current start => (putClosed_leaves current start).bind fun _ => confirms current start
            have finished := LeavesLoop.held rest kept
            exact ⟨finished.steady, untaken.trans finished.untaken⟩
  · have flag : (worker.control.data socket).closed = true := by simpa [Live] using live
    have ignored : commitRegistration context socket peerId worker = (.ok ⟨⟩, worker) := by
      rw [commitRegistration, Handler.bind_apply]
      change (if (worker.data socket).closed then (pure ⟨⟩ : WorkerHandler PUnit) else _) worker = _
      rw [WorkerState.data, flag, if_pos rfl]
      rfl
    rw [ignored]
    exact ⟨steady, .refl⟩

/-! ## The loop -/

theorem Steady.setStage (steady : worker.Steady current) : (worker.setStage stage).Steady current :=
  ⟨⟨steady.accounted.control rfl rfl rfl fun _ _ => rfl, steady.fits.fewer (List.Subperm.refl _) fun _ _ => rfl, steady.known,
    steady.alive, fun socket => ⟨(steady.ordered socket).begun, (steady.ordered socket).complete⟩⟩, steady.sound⟩

theorem releasePending_steady (steady : worker.Steady (entry :: current)) :
    releasePending entry worker = (.ok ⟨⟩, worker.release entry) ∧ (worker.release entry).Steady current := by
  obtain ⟨released, remaining⟩ := steady.accounted.release
  refine ⟨released, ⟨remaining, ?_, ?_, steady.alive, ?_⟩, steady.sound⟩
  · exact steady.fits.fewer (List.sublist_cons_self ..).subperm fun _ _ => rfl
  · exact fun other member => steady.known other (List.mem_cons_of_mem _ member)
  · exact fun socket => ⟨(steady.ordered socket).begun, (steady.ordered socket).complete⟩

/-- A part of the handling of a message ends with the loop waiting again. -/
theorem handling_kept {body : WorkerHandler Stage}
    (handled : Handler.Ensures (· = worker) body
      (fun stage next => next.Steady [entry] ∧ worker.Untaken next ∧ stage.entry = entry ∧ stage.Claims context.crypto next)
      (fun next => next.Steady [entry] ∧ worker.Untaken next)) :
    (handling context entry body worker).1 = .ok ⟨⟩ ∧ (handling context entry body worker).2.Kept context.crypto ∧
      worker.Untaken (handling context entry body worker).2 := by
  have waiting : ∀ (stage : Stage) (next : WorkerState), next.Steady [entry] → stage.entry = entry →
      stage.Claims context.crypto next → (next.setStage (some stage)).Kept context.crypto := by
    intro stage next steady own claims
    refine ⟨?_, fun other waits => ?_⟩
    · change (next.setStage (some stage)).Steady [stage.entry]
      rw [own]
      exact Steady.setStage steady
    · cases Option.some.inj waits
      exact claims_of claims rfl rfl
  have result := handled worker rfl
  rw [handling, Handler.recover]
  rcases ran : body worker with ⟨outcome, next⟩
  rw [ran] at result
  cases outcome with
  | ok stage =>
      obtain ⟨steady, untaken, own, claims⟩ := result
      exact ⟨rfl, waiting stage next steady own claims, untaken.begun, untaken.gone⟩
  | error text =>
      have rejected := LeavesLoop.held (@rejectClient_leaves context entry.socket text) result.1
      dsimp only
      rw [Handler.bind_apply]
      rcases closing : rejectClient context entry.socket text next with ⟨outcome, final⟩
      rw [closing] at rejected
      have untaken := result.2.trans rejected.untaken
      cases outcome with
      | ok value => exact ⟨rfl, waiting (.handled entry none) final rejected.steady rfl trivial, untaken.begun, untaken.gone⟩
      | error failure =>
          exact ⟨rfl, waiting (.handled entry (some failure)) final rejected.steady rfl trivial, untaken.begun, untaken.gone⟩

theorem beginMessage_kept (steady : worker.Steady [entry]) :
    (beginMessage context entry worker).1 = .ok ⟨⟩ ∧ (beginMessage context entry worker).2.Kept context.crypto ∧
      worker.Untaken (beginMessage context entry worker).2 := by
  refine handling_kept (Handler.Ensures.read fun seen same => ?_)
  subst same
  refine Handler.Ensures.ite (fun _ => ?_) fun _ => Handler.Ensures.ite (fun registering => ?_) fun _ => ?_
  · refine .pure ?_
    rintro state rfl
    exact ⟨steady, .refl, rfl, trivial⟩
  · rintro state rfl
    have unchanged := @readRegistration_state context state.control entry.socket entry.message
    rw [Handler.bind_apply]
    unfold onControl
    rcases read : readRegistration context entry.socket entry.message state.control with ⟨outcome, control⟩
    rw [read] at unchanged
    dsimp only at unchanged
    subst unchanged
    cases outcome with
    | error text => exact ⟨steady, .refl⟩
    | ok signed =>
        obtain ⟨claimed, fits, own⟩ := readRegistration_ok read
        exact ⟨steady, .refl, rfl, ⟨⟨registering, claimed⟩, fits.1, fits.2.1, own⟩⟩
  · rintro state rfl
    have kept := LeavesLoop.held (onControl_leaves fun _ =>
      @handleRegistered_trails context _ entry.socket entry.message) steady
    rw [Handler.bind_apply]
    rcases ran : onControl (handleRegistered context entry.socket entry.message) state with ⟨outcome, next⟩
    rw [ran] at kept
    cases outcome with
    | error text => exact ⟨kept.steady, kept.untaken⟩
    | ok value => exact ⟨kept.steady, kept.untaken, rfl, trivial⟩

theorem nextMessage_kept (steady : worker.Steady []) :
    (nextMessage context worker).1 = .ok ⟨⟩ ∧ (nextMessage context worker).2.Kept context.crypto ∧
      worker.Takes (nextMessage context worker).2 := by
  rw [nextMessage, Handler.bind_apply]
  dsimp only [Handler.read]
  cases waiting : worker.queue with
  | nil =>
      have untaken : Untaken worker (worker.setStage none) := ⟨rfl, fun _ => id⟩
      exact ⟨rfl, ⟨Steady.setStage steady, fun _ waits => absurd waits.symm (Option.some_ne_none _)⟩, untaken.takes⟩
  | cons entry rest =>
      have accounted := steady.accounted
      have fits := steady.fits
      have known := steady.known
      have alive := steady.alive
      rw [waiting] at accounted fits known alive
      have taken : Steady { worker with queue := rest, begun := worker.begun ++ [entry] } [entry] := by
        refine ⟨⟨accounted.control rfl rfl rfl fun _ _ => rfl, fits.fewer (List.Subperm.refl _) fun _ _ => rfl, known,
          fun other member => alive other (List.mem_cons_of_mem _ member), fun socket => ?_⟩, steady.sound⟩
        have same : sentBy socket (worker.begun ++ [entry]) ++ sentBy socket rest =
            sentBy socket worker.begun ++ sentBy socket worker.queue := by
          rw [waiting, ← sentBy_append, ← sentBy_append, List.append_assoc, List.singleton_append]
        exact ⟨same ▸ (steady.ordered socket).begun, fun present => same.trans ((steady.ordered socket).complete present)⟩
      obtain ⟨returned, kept, untaken⟩ := @beginMessage_kept context _ entry taken
      refine ⟨returned, kept, .inr ⟨entry, untaken.begun, fun gone => gone.2 (alive entry (List.mem_cons_self ..))⟩, untaken.gone⟩

theorem drainQueue_kept (kept : worker.Kept context.crypto) : (drainQueue context worker).1 = .ok ⟨⟩ ∧
    (drainQueue context worker).2.Kept context.crypto ∧ worker.Takes (drainQueue context worker).2 := by
  rw [drainQueue, Handler.bind_apply]
  dsimp only [Handler.read]
  cases waits : worker.stage with
  | some stage => exact ⟨rfl, kept, Untaken.refl.takes⟩
  | none =>
      have steady := kept.steady
      rw [waits] at steady
      exact nextMessage_kept steady

/-- Whatever the `catch` of the loop does, the message is released before the next one. -/
theorem released_kept {rescue : WorkerHandler PUnit} (leaves : LeavesLoop rescue) (steady : worker.Steady [entry]) :
    (((rescue.ensuring (releasePending entry) >>= fun _ => nextMessage context).onRaise fun worker =>
        worker.setStage none).finish worker).Kept context.crypto ∧
      worker.Takes (((rescue.ensuring (releasePending entry) >>= fun _ => nextMessage context).onRaise fun worker =>
        worker.setStage none).finish worker) := by
  have rejected := LeavesLoop.held leaves steady
  rw [Handler.finish, Handler.onRaise, Handler.bind_apply, Handler.ensuring]
  rcases ran : rescue worker with ⟨outcome, next⟩
  rw [ran] at rejected
  obtain ⟨released, remaining⟩ := releasePending_steady rejected.steady
  have untaken : Untaken worker (next.release entry) := ⟨rejected.untaken.begun, rejected.untaken.gone⟩
  dsimp only
  rw [released]
  cases outcome with
  | error text =>
      exact ⟨⟨Steady.setStage remaining, fun _ waits => absurd waits.symm (Option.some_ne_none _)⟩, .inl untaken.begun, untaken.gone⟩
  | ok value =>
      obtain ⟨returned, kept, takes⟩ := @nextMessage_kept context _ remaining
      dsimp only
      rcases after : nextMessage context (next.release entry) with ⟨outcome, final⟩
      rw [after] at returned kept takes
      dsimp only at returned kept takes
      subst returned
      exact ⟨kept, untaken.then takes⟩

theorem finishMessage_kept {failure : Option String} (steady : worker.Steady [entry]) :
    (((finishMessage context entry failure).onRaise fun worker => worker.setStage none).finish worker).Kept context.crypto ∧
      worker.Takes (((finishMessage context entry failure).onRaise fun worker => worker.setStage none).finish worker) := by
  cases failure with
  | some text => exact released_kept rejectClient_leaves steady
  | none => exact released_kept (fun _ _ => Handler.Keeps.pure) steady

theorem resume_kept {stage : Stage} (kept : worker.Kept context.crypto) (waits : worker.stage = some stage) :
    ((resume context stage).finish worker).Kept context.crypto ∧ worker.Takes ((resume context stage).finish worker) := by
  have steady := kept.steady
  have claims := kept.claims stage waits
  rw [waits] at steady
  cases stage with
  | handled entry failure => exact finishMessage_kept steady
  | hashing entry signed =>
      refine (fun result => ⟨result.2.1, result.2.2.takes⟩) (@handling_kept context worker entry _ ?_)
      rintro state rfl
      have unchanged := @checkDigest_state context state.control signed
      rw [Handler.bind_apply]
      unfold onControl
      rcases checked : checkDigest context signed state.control with ⟨outcome, control⟩
      rw [checked] at unchanged
      dsimp only at unchanged
      subst unchanged
      cases outcome with
      | error text => exact ⟨steady, .refl⟩
      | ok value => exact ⟨steady, .refl, rfl, claims, checkDigest_ok checked⟩
  | verifying entry signed =>
      refine (fun result => ⟨result.2.1, result.2.2.takes⟩) (@handling_kept context worker entry _ ?_)
      rintro state rfl
      have unchanged := @checkSignature_state context state.control signed
      rw [Handler.bind_apply]
      unfold onControl
      rcases checked : checkSignature context signed state.control with ⟨outcome, control⟩
      rw [checked] at unchanged
      dsimp only at unchanged
      subst unchanged
      cases outcome with
      | error text => exact ⟨steady, .refl⟩
      | ok value =>
          obtain ⟨committed, untaken⟩ := @commitRegistration_steady context state entry.socket [entry] signed.registration.peerId
            steady claims.1.own
          dsimp only
          rw [Handler.bind_apply]
          rcases ran : commitRegistration context entry.socket signed.registration.peerId state with ⟨outcome, next⟩
          rw [ran] at committed untaken
          cases outcome with
          | error text => exact ⟨committed, untaken⟩
          | ok value => exact ⟨committed, untaken, rfl, trivial⟩

/-! ## Events -/

theorem addClient_sound {control : ControlState} {data : ClientData} (sound : Sound control)
    (new : control.sockets.get? socket = none) (rooms : data.rooms = []) (signals : data.signals = ∅) (live : data.closed = false)
    (device : data.peerId = none) : Sound (control.addClient socket data) :=
  ⟨sound.toLinked.same (sameRooms_addClient new rooms signals), sound.toRegistered.addClient new live device⟩

theorem openClient_trails {control : ControlState} {ip : Address} {challengeId challenge : Text}
    (new : control.sockets.get? socket = none) : Trails (openClient context socket ip challengeId challenge) control := by
  have added : Follows control (control.addClient socket (openedClient ip context.now challengeId challenge)) := by
    refine ⟨fun sound => addClient_sound sound new rfl rfl rfl rfl, kin_addClient new, fun other => ?_, fun other held => ?_⟩
    · rw [addClient_data]
      split
      · rename_i itself
        rw [itself, ControlState.data, new]
        rfl
      · rfl
    · have another : other ≠ socket := by
        rintro rfl
        simp [Dict.contains, new] at held
      rw [addClient_data, if_neg another]
  exact added.trans Trails.send

theorem enqueue_kept (kept : worker.Kept context.crypto) (live : worker.control.Live entry.socket)
    (room : ¬ worker.full entry.socket entry.bytes) : (worker.enqueue entry).Kept context.crypto := by
  have listed : ∀ current : List Pending, (entry :: (current ++ worker.queue)).Perm (current ++ (worker.enqueue entry).queue) := by
    intro current
    change List.Perm _ (current ++ (worker.queue ++ [entry]))
    rw [← List.append_assoc]
    exact (List.perm_append_singleton entry _).symm
  refine ⟨⟨⟨kept.steady.accounted.enqueue.perm (listed _), ?_, ?_, ?_, ?_⟩, kept.steady.sound⟩, fun stage waits => ?_⟩
  · exact (kept.steady.fits.enqueue kept.steady.accounted room).fewer (listed _).symm.subperm fun _ _ => rfl
  · intro other member
    rcases List.mem_cons.mp ((listed _).mem_iff.mpr member) with itself | earlier
    · rw [itself]
      exact live_known live
    · exact kept.steady.known other earlier
  · intro other member
    rcases List.mem_append.mp member with waits | new
    · exact kept.steady.alive other waits
    · rw [List.mem_singleton.mp new]
      exact live
  · intro socket
    have before := kept.steady.ordered socket
    have longer : sentBy socket worker.begun ++ sentBy socket (worker.queue ++ [entry]) =
        (sentBy socket worker.begun ++ sentBy socket worker.queue) ++ sentBy socket [entry] := by
      rw [sentBy_append, List.append_assoc]
    have complete : ¬ worker.control.Gone socket → sentBy socket worker.begun ++ sentBy socket (worker.queue ++ [entry]) =
        sentBy socket (worker.admitted ++ [entry]) := by
      intro present
      rw [longer, before.complete present, sentBy_append]
    refine ⟨?_, complete⟩
    by_cases own : entry.socket = socket
    · have present : ¬ worker.control.Gone socket := fun gone => gone.2 (own ▸ live)
      exact ⟨[], (List.append_nil _).trans (complete present)⟩
    · have nothing : sentBy socket [entry] = [] := by
        rw [sentBy_cons, if_neg own]
        rfl
      change sentBy socket worker.begun ++ sentBy socket (worker.queue ++ [entry]) <+: sentBy socket (worker.admitted ++ [entry])
      rw [longer, nothing, List.append_nil, sentBy_append, nothing, List.append_nil]
      exact before.begun
  · exact claims_of (kept.claims stage waits) rfl rfl

/-- What a part of an event leaves, from `start` on. -/
structure Advanced (crypto : Crypto) (start worker : WorkerState) : Prop where
  kept : worker.Kept crypto
  takes : start.Takes worker

/-- A client of the Worker is there. -/
structure Open (crypto : Crypto) (socket : Socket) (start worker : WorkerState) : Prop where
  kept : worker.Kept crypto
  untaken : start.Untaken worker
  live : worker.control.Live socket

/-- There is room for a message of so many bytes. -/
structure Ready (crypto : Crypto) (socket : Socket) (bytes : Nat) (start worker : WorkerState) : Prop
    extends Open crypto socket start worker where
  room : ¬ worker.full socket bytes

variable {start : WorkerState}

theorem onControl_ready {handler : ControlHandler α} {bytes : Nat} (trails : ∀ control, Trails handler control) :
    Handler.Keeps (Ready context.crypto socket bytes start) (onControl handler) := by
  intro worker ready
  have follows := trails worker.control
  have known := live_known ready.live
  have held := ready.kept.steady.held.follows follows
  have still : (handler worker.control).2.Live socket := (follows.closed socket known).trans ready.live
  have address : ((handler worker.control).2.data socket).ip = (worker.control.data socket).ip := follows.kin.ip known
  have room : ¬ WorkerState.full { worker with control := (handler worker.control).2 } socket bytes := by
    have before := ready.room
    simp only [full, WorkerState.data, clientTotals, addressTotals] at before ⊢
    rwa [address]
  rw [onControl_apply]
  cases (handler worker.control).1 <;> exact ⟨⟨ready.kept.of_held held, ready.untaken.trans held.untaken, still⟩, room⟩

theorem charge_ready {message : ControlMessage} {bytes : Nat} :
    Handler.Keeps (Ready context.crypto socket bytes start) (onControl (match message.relayed? with
      | some _ => checkRelayRateLimit context socket
      | none => checkRateLimit context socket message.type)) := by
  cases message.relayed? with
  | some target => exact onControl_ready fun _ => .counts checkRelayRateLimit_counts
  | none => exact onControl_ready fun _ => .counts checkRateLimit_counts

/-- The message is refused with the queue as it was, or it is queued and may be begun. -/
theorem admitParsed_advances {raw : Raw} : Handler.Ensures (Ready context.crypto socket raw.bytes start)
    (admitParsed context socket raw) (fun _ => Advanced context.crypto start)
    (fun worker => Kept context.crypto worker ∧ start.Untaken worker) := by
  unfold admitParsed
  split
  · exact .raise fun _ ready => ⟨ready.kept, ready.untaken⟩
  · exact .raise fun _ ready => ⟨ready.kept, ready.untaken⟩
  · exact .raise fun _ ready => ⟨ready.kept, ready.untaken⟩
  · rename_i message _
    have charged := @charge_ready context socket start message raw.bytes
    refine Handler.Ensures.bind (charged.weaken (fun _ => id) (fun _ _ => id) fun _ ready => ⟨ready.kept, ready.untaken⟩)
      fun _ => ?_
    have enqueued : Handler.Ensures (Ready context.crypto socket raw.bytes start)
        (Handler.change fun worker => worker.enqueue ⟨socket, message, raw.bytes⟩ : WorkerHandler PUnit)
        (fun _ worker => Kept context.crypto worker ∧ start.Untaken worker)
        (fun worker => Kept context.crypto worker ∧ start.Untaken worker) :=
      .change fun state ready => ⟨enqueue_kept ready.kept ready.live ready.room, ready.untaken.begun, ready.untaken.gone⟩
    refine enqueued.bind fun _ => ?_
    rintro state ⟨kept, untaken⟩
    obtain ⟨returned, drained, takes⟩ := @drainQueue_kept context state kept
    rcases ran : drainQueue context state with ⟨outcome, next⟩
    rw [ran] at returned drained takes
    dsimp only at returned
    subst returned
    exact ⟨drained, untaken.then takes⟩

theorem admitChecked_advances {raw : Raw} : Handler.Ensures (Open context.crypto socket start) (admitChecked context socket raw)
    (fun _ => Advanced context.crypto start) (fun worker => Kept context.crypto worker ∧ start.Untaken worker) := by
  have refuses : ∀ {condition : Prop} [Decidable condition] {text : String}, Handler.Ensures (Open context.crypto socket start)
      (Handler.refuse condition text : WorkerHandler PUnit) (fun _ => Open context.crypto socket start)
      (fun worker => Kept context.crypto worker ∧ start.Untaken worker) :=
    fun {_ _ _} => .refuse (fun _ there _ => ⟨there.kept, there.untaken⟩) fun _ there _ => there
  refine refuses.bind fun _ => refuses.bind fun _ => .read fun seen there => ?_
  refine Handler.Ensures.bind (.refuse ?_ ?_) fun _ => admitParsed_advances
  · rintro state rfl _
    exact ⟨there.kept, there.untaken⟩
  · rintro state rfl room
    exact ⟨there, room⟩

theorem admitMessage_advances {raw : Raw} :
    Handler.Ensures (fun worker => Kept context.crypto worker ∧ start.Untaken worker) (admitMessage context socket raw)
      (fun _ => Advanced context.crypto start) (Advanced context.crypto start) := by
  refine Handler.Ensures.read fun seen unchanged => .ite (fun _ => .pure ?_) fun present => ?_
  · rintro state rfl
    exact ⟨unchanged.1, unchanged.2.takes⟩
  · have live : seen.control.Live socket := by simpa [Live, WorkerState.data] using present
    refine Handler.Ensures.recover (Handler.Ensures.weaken admitChecked_advances ?_ (fun _ _ => id) fun _ => id) fun text => ?_
    · rintro state rfl
      exact ⟨unchanged.1, unchanged.2, live⟩
    · exact Handler.Ensures.weaken rejectClient_leaves.advanced (fun _ => id) (fun _ _ left => ⟨left.1, left.2.takes⟩)
        fun _ left => ⟨left.1, left.2.takes⟩

theorem quiet_kept {crypto : Crypto} (kept : worker.Kept crypto) : Kept crypto { worker with control := worker.control.quiet } where
  steady := kept.steady.follows (.aside quiet_aside)
  claims := fun stage waits => claims_of (kept.claims stage waits) rfl rfl

/-- Whatever the clients and the sends do, at most one message is taken from the
queue between two events. -/
theorem step_advances {deployment : Deployment} {turn : WorkerTurn} {next : WorkerState} (kept : worker.Kept deployment.crypto)
    (stepped : step deployment worker turn = some next) : Advanced deployment.crypto worker next := by
  obtain ⟨now, failing, event⟩ := turn
  have start : Kept (Worker.context deployment now failing).crypto { worker with control := worker.control.quiet } ∧
      worker.Untaken { worker with control := worker.control.quiet } := ⟨quiet_kept kept, rfl, fun _ => id⟩
  unfold step at stepped
  cases event with
  | resume =>
      dsimp only at stepped
      obtain ⟨stage, waits, ran⟩ := Option.map_eq_some_iff.mp stepped
      obtain ⟨left, takes⟩ := @resume_kept (Worker.context deployment now failing) _ stage start.1 waits
      rw [← ran]
      exact ⟨left, start.2.then takes⟩
  | error socket =>
      dsimp only at stepped
      split at stepped
      · obtain rfl := Option.some.inj stepped
        have leaves : LeavesLoop (rejectClient (context deployment now failing) socket "WebSocket error") := rejectClient_leaves
        have left := leaves.advanced.finish start
        exact ⟨left.1, left.2.takes⟩
      · cases stepped
  | client event =>
      cases event with
      | connect socket ip challengeId challenge =>
          dsimp only at stepped
          split at stepped
          · cases stepped
          · rename_i unknown
            have new : worker.control.sockets.get? socket = none := by simpa [Dict.contains] using unknown
            split at stepped
            · obtain rfl := Option.some.inj stepped
              have held := start.1.steady.held.follows (@openClient_trails (Worker.context deployment now failing) socket
                worker.control.quiet ip challengeId challenge new)
              exact ⟨start.1.of_held held, (start.2.trans held.untaken).takes⟩
            · obtain rfl := Option.some.inj stepped
              exact ⟨start.1, start.2.takes⟩
      | message socket raw =>
          dsimp only at stepped
          split at stepped
          · rename_i known
            obtain rfl := Option.some.inj stepped
            exact admitMessage_advances.finish start
          · cases stepped
      | close socket =>
          dsimp only at stepped
          split at stepped
          · obtain rfl := Option.some.inj stepped
            have leaves : LeavesLoop (closed (context deployment now failing) socket) := fun current start =>
              (handleClose_leaves current start).bind fun _ => putClosed_leaves current start
            have left := leaves.advanced.finish start
            exact ⟨left.1, left.2.takes⟩
          · cases stepped

theorem step_kept {deployment : Deployment} {turn : WorkerTurn} {next : WorkerState} (kept : worker.Kept deployment.crypto)
    (stepped : step deployment worker turn = some next) : next.Kept deployment.crypto := (step_advances kept stepped).kept

end Worker

end MeshTalk.Control
