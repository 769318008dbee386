import MeshTalk.Control.Forwarding

namespace MeshTalk.Control

open MeshTalk.Library ControlState WorkerState

/-! # Clients that have nothing to do with an event

Whatever the others do, and whichever sends raise, a client that takes no part in
an event stays connected, registered and in its rooms.
-/

/-- What a client has before an event it still has after it. -/
structure Undisturbed (grounds : Grounds) (other : Socket) (before after : ControlState) : Prop where
  known : before.sockets.contains other = true → after.sockets.contains other = true
  closed : before.sockets.contains other = true → (after.data other).closed = (before.data other).closed
  peerId : before.sockets.contains other = true → (after.data other).peerId = (before.data other).peerId
  joined : before.sockets.contains other = true → (after.data other).rooms = (before.data other).rooms
  signals : before.sockets.contains other = true → (after.data other).signals = (before.data other).signals
  member : ∀ roomId room, before.rooms.get? roomId = some room → other ∈ room.members →
    ∃ later, after.rooms.get? roomId = some later ∧ later.auth = room.auth ∧ other ∈ later.members
  registered : ∀ peerId, ¬ grounds.grants peerId → before.socketsByPeerId.get? peerId = some other →
    after.socketsByPeerId.get? peerId = some other
  unrebuked : ∀ output ∈ after.wire, output.rebuked = some other → output ∈ before.wire

namespace Undisturbed

variable {context : Context} {grounds : Grounds} {control middle after : ControlState} {socket other : Socket} {roomId : RoomId}
  {roomAuth payload : Text} {peerId : PeerId}

theorem refl : Undisturbed grounds other control control where
  known := id
  closed _ := rfl
  peerId _ := rfl
  joined _ := rfl
  signals _ := rfl
  member _ room found listed := ⟨room, found, rfl, listed⟩
  registered _ _ := id
  unrebuked _ listed _ := listed

theorem trans (first : Undisturbed grounds other control middle) (second : Undisturbed grounds other middle after) :
    Undisturbed grounds other control after where
  known there := second.known (first.known there)
  closed there := (second.closed (first.known there)).trans (first.closed there)
  peerId there := (second.peerId (first.known there)).trans (first.peerId there)
  joined there := (second.joined (first.known there)).trans (first.joined there)
  signals there := (second.signals (first.known there)).trans (first.signals there)
  member roomId room found listed := by
    obtain ⟨later, held, same, stays⟩ := first.member roomId room found listed
    obtain ⟨last, left, equal, inside⟩ := second.member roomId later held stays
    exact ⟨last, left, equal.trans same, inside⟩
  registered peerId ungranted held := second.registered peerId ungranted (first.registered peerId ungranted held)
  unrebuked output listed rebuked := first.unrebuked output (second.unrebuked output listed rebuked) rebuked

theorem of_aside (aside : Aside control after) (wire : after.wire = control.wire) : Undisturbed grounds other control after where
  known := aside.known other
  closed _ := aside.closed other
  peerId _ := aside.peerId other
  joined _ := aside.joined other
  signals _ := aside.signals other
  member roomId room found listed := ⟨room, by rw [aside.rooms, found], rfl, listed⟩
  registered peerId _ held := by rw [aside.socketsByPeerId, held]
  unrebuked output listed _ := by rwa [wire] at listed

/-- An update of the data of other clients. -/
theorem of_data (same : after.data other = control.data other)
    (known : control.sockets.contains other = true → after.sockets.contains other = true)
    (member : ∀ roomId room, control.rooms.get? roomId = some room → other ∈ room.members →
      ∃ later, after.rooms.get? roomId = some later ∧ later.auth = room.auth ∧ other ∈ later.members)
    (registered : ∀ peerId, ¬ grounds.grants peerId → control.socketsByPeerId.get? peerId = some other →
      after.socketsByPeerId.get? peerId = some other) (wire : after.wire = control.wire) : Undisturbed grounds other control after where
  known := known
  closed _ := by rw [same]
  peerId _ := by rw [same]
  joined _ := by rw [same]
  signals _ := by rw [same]
  member := member
  registered := registered
  unrebuked output listed _ := by rwa [wire] at listed

theorem of_modify {update : ClientData → ClientData} (another : other ≠ socket) :
    Undisturbed grounds other control (control.modify socket update) :=
  of_data (by rw [data_modify, if_neg another]) modify_known (fun _ room found listed => ⟨room, found, rfl, listed⟩)
    (fun _ _ => id) rfl

theorem leaves (another : other ≠ socket) : Undisturbed grounds other control (control.leave socket roomId) := by
  cases found : control.rooms.get? roomId with
  | none =>
      rw [leave_none found]
      exact refl
  | some room =>
      refine of_data ?_ (sameClients_leave.known other) ?_ (fun peerId _ held => ?_) wire_leave
      · rw [leave_data found, if_neg another]
      · intro named state held listed
        rw [leave_rooms found]
        by_cases same : named = roomId
        · subst same
          rw [found] at held
          cases held
          have stays : other ∈ room.members.filter fun member => member ≠ socket := by simp [listed, another]
          rw [if_pos rfl, if_neg (List.ne_nil_of_mem stays)]
          exact ⟨_, rfl, rfl, stays⟩
        · rw [if_neg same]
          exact ⟨state, held, rfl, listed⟩
      · rw [sameClients_leave.socketsByPeerId, held]

theorem joins (another : other ≠ socket) : Undisturbed grounds other control (control.join socket roomId roomAuth) := by
  refine of_data ?_ (sameClients_join.known other) ?_ (fun peerId _ held => ?_) wire_join
  · rw [join_data, if_neg another]
  · intro named state held listed
    rw [join_rooms]
    by_cases same : named = roomId
    · subst same
      rw [if_pos rfl]
      exact ⟨_, rfl, by rw [held], List.mem_append_left _ (by rwa [membersOf_some held])⟩
    · rw [if_neg same]
      exact ⟨state, held, rfl, listed⟩
  · rw [sameClients_join.socketsByPeerId, held]

/-- The registration of a client is ended only with the client, or by one for the same device. -/
theorem forgets (another : other ≠ socket) :
    Undisturbed grounds other control ((control.forgetDevice socket).releaseConnection socket) := by
  have sockets : (control.forgetDevice socket).sockets = control.sockets := forgetDevice_tables.1
  refine of_data (by simp) (fun there => ?_) (fun _ room found listed => ⟨room, ?_, rfl, listed⟩) (fun peerId _ held => ?_) wire_forgets
  · change (control.forgetDevice socket).sockets.contains other = true
    rwa [sockets]
  · rw [standing_forgets.rooms, found]
  · change (control.forgetDevice socket).socketsByPeerId.get? peerId = some other
    unfold forgetDevice
    split
    · exact held
    · split
      · rename_i device named holder
        rw [Dict.get?_erase]
        split
        · rename_i same
          rw [← same, held] at holder
          exact absurd (Option.some.inj holder) another
        · exact held
      · exact held

theorem registers (another : other ≠ socket) (granted : grounds.grants peerId) :
    Undisturbed grounds other control (control.setRegistered socket peerId) := by
  refine of_data (by rw [setRegistered_data, if_neg another]) (kin_setRegistered.known other) (fun _ room found listed => ⟨room, found, rfl, listed⟩) ?_ rfl
  intro device ungranted held
  have apart : device ≠ peerId := by
    rintro rfl
    exact ungranted granted
  simp only [setRegistered, Dict.get?_set]
  rw [if_neg apart]
  exact held

theorem opens {data : ClientData} (new : control.sockets.get? socket = none) :
    Undisturbed grounds other control (control.addClient socket data) := by
  have kept : control.sockets.contains other = true → (control.addClient socket data).data other = control.data other := by
    intro there
    have another : other ≠ socket := by
      rintro rfl
      simp [Dict.contains, new] at there
    rw [addClient_data, if_neg another]
  exact ⟨(kin_addClient new).known other, fun there => by rw [kept there], fun there => by rw [kept there],
    fun there => by rw [kept there], fun there => by rw [kept there], fun _ room found listed => ⟨room, found, rfl, listed⟩,
    fun _ _ => id, fun _ listed _ => listed⟩

theorem tells {output : Output} (fair : Fair grounds control output) (untouched : ¬ grounds.Touches other) :
    Undisturbed grounds other control (control.putAll [output]) := by
  have aside : Aside control (control.putAll [output]) := aside_putAll
  refine ⟨aside.known other, fun _ => aside.closed other, fun _ => aside.peerId other, fun _ => aside.joined other,
    fun _ => aside.signals other, fun _ room found listed => ⟨room, found, rfl, listed⟩, fun _ _ => id, ?_⟩
  intro told listed rebuked
  rcases List.mem_append.mp listed with earlier | new
  · exact earlier
  · rw [List.mem_singleton.mp new] at rebuked
    exact absurd (fair.touched other rebuked) untouched

end Undisturbed

section

variable {context : Context} {grounds : Grounds} {control after : ControlState} {other : Socket}

/-- No update is about a client that takes no part. -/
theorem Act.undisturbed (act : Act context grounds control after) (untouched : ¬ grounds.Touches other) :
    Undisturbed grounds other control after := by
  have apart : ∀ {socket : Socket}, grounds.Touches socket → other ≠ socket := by
    rintro socket touched rfl
    exact untouched touched
  cases act with
  | counts after tallied limits => exact .of_aside tallied.toAside tallied.wire
  | limits peerId limit after found lowered => exact .of_aside aside_setDeviceLimit rfl
  | tells output fair => exact .tells fair untouched
  | leaves socket roomId touched => exact .leaves (apart touched)
  | joins socket message roomId roomAuth asked named valid matching => exact .joins (apart (.inr ⟨message, asked⟩))
  | retains socket message roomId payload asked named inside =>
      have another := apart (.inr ⟨message, asked⟩)
      exact .of_data (by rw [retain_data, if_neg another]) (sameClients_retain.known other)
        (fun _ room found listed => ⟨room, found, rfl, listed⟩) (fun _ _ => id) rfl
  | registers socket message signed asked named proves granted => exact .registers (apart (.inr ⟨message, asked⟩)) granted
  | ensures peerId granted =>
      refine .of_aside aside_ensureDeviceLimit ?_
      unfold ensureDeviceLimit
      split <;> rfl
  | shuts socket touched => exact .of_modify (apart touched)
  | forgets socket touched => exact .forgets (apart touched)
  | opens socket ip challengeId challenge new => exact .opens new

theorem Acts.undisturbed (acts : Acts context grounds control after) (untouched : ¬ grounds.Touches other) :
    Undisturbed grounds other control after := by
  induction acts with
  | refl => exact .refl
  | tail _ act ih => exact ih.trans (act.undisturbed untouched)

theorem Ends.undisturbed (ends : Ends context grounds control after) (untouched : ¬ grounds.Touches other) :
    Undisturbed grounds other control after := by
  rcases ends with acts | ⟨middle, acts, ⟨forward⟩⟩
  · exact acts.undisturbed untouched
  · have before := acts.undisturbed untouched
    have aside := forward.aside
    have last : Undisturbed grounds other middle after := by
      refine ⟨aside.known other, fun _ => aside.closed other, fun _ => aside.peerId other, fun _ => aside.joined other,
        fun _ => aside.signals other, fun _ room found listed => ⟨room, by rw [aside.rooms, found], rfl, listed⟩,
        fun _ _ held => by rw [aside.socketsByPeerId, held], fun output listed rebuked => ?_⟩
      have wire := congrArg ControlState.wire forward.result
      rw [wire] at listed
      rcases List.mem_append.mp listed with earlier | new
      · exact earlier
      · rw [List.mem_singleton.mp new] at rebuked
        cases rebuked
    exact before.trans last

end

/-! ## Events -/

/-- The event is another client's, and takes no device from this one. -/
structure Bun.Bystander (control : ControlState) (turn : Turn) (other : Socket) : Prop where
  silent : ∀ raw, turn.event ≠ .message other raw
  stays : turn.event ≠ .close other
  keeps : ∀ socket raw signed, turn.event = .message socket raw → (Bun.readMessage raw.content).registration? = some signed →
    (control.data other).peerId ≠ some signed.registration.peerId

/-- The same for the Worker, whose loop has nothing of this client either. -/
structure Worker.Bystander (worker : WorkerState) (turn : WorkerTurn) (other : Socket) : Prop where
  silent : ∀ raw, turn.event ≠ .client (.message other raw)
  stays : turn.event ≠ .client (.close other) ∧ turn.event ≠ .error other
  idle : (∀ entry ∈ worker.queue, entry.socket ≠ other) ∧ ∀ stage, worker.stage = some stage → stage.entry.socket ≠ other
  keeps : ∀ entry signed, worker.stage = some (.verifying entry signed) →
    (worker.data other).peerId ≠ some signed.registration.peerId

/-- The client has what it had, and is told of no error. -/
structure Unharmed (other : Socket) (before after : ControlState) : Prop where
  live : after.Live other
  peerId : (after.data other).peerId = (before.data other).peerId
  joined : (after.data other).rooms = (before.data other).rooms
  signals : (after.data other).signals = (before.data other).signals
  member : ∀ roomId room, before.rooms.get? roomId = some room → other ∈ room.members →
    ∃ later, after.rooms.get? roomId = some later ∧ later.auth = room.auth ∧ other ∈ later.members
  registered : ∀ peerId, before.socketsByPeerId.get? peerId = some other → after.socketsByPeerId.get? peerId = some other
  unrebuked : ∀ output ∈ after.wire, output.rebuked ≠ some other

theorem Undisturbed.unharmed {grounds : Grounds} {control after : ControlState} {other : Socket}
    (undisturbed : Undisturbed grounds other control.quiet after) (registered : Registered control) (live : control.Live other)
    (keeps : ∀ peerId, (control.data other).peerId = some peerId → ¬ grounds.grants peerId) : Unharmed other control after := by
  have there : control.quiet.sockets.contains other = true := Worker.live_known live
  refine ⟨?_, undisturbed.peerId there, undisturbed.joined there, undisturbed.signals there, undisturbed.member, ?_, ?_⟩
  · exact (undisturbed.closed there).trans live
  · intro peerId held
    have named := ((registered.registered peerId other).mp held).2
    exact undisturbed.registered peerId (keeps peerId named) held
  · intro output listed rebuked
    cases undisturbed.unrebuked output listed rebuked

section

variable {deployment : Deployment} {control next : ControlState} {worker following : WorkerState} {turn : Turn}
  {workerTurn : WorkerTurn} {other : Socket}

/-- What an event asks for, and which devices and connections a registration in it takes. -/
def Bun.groundsOf (control : ControlState) (turn : Turn) : Grounds where
  asks socket message := ∃ raw, turn.event = .message socket raw ∧ Bun.readMessage raw.content = message
  grants peerId := ∃ socket raw signed, turn.event = .message socket raw ∧
    (Bun.readMessage raw.content).registration? = some signed ∧ signed.registration.peerId = peerId
  ends socket := turn.event = .close socket ∨ ∃ client raw signed, turn.event = .message client raw ∧
    (Bun.readMessage raw.content).registration? = some signed ∧
      control.socketsByPeerId.get? signed.registration.peerId = some socket

/-- In the Worker also what is queued or in the loop. -/
def Worker.groundsOf (worker : WorkerState) (turn : WorkerTurn) : Grounds where
  asks socket message := (∃ raw, turn.event = .client (.message socket raw) ∧ Bun.readMessage raw.content = message) ∨
    (∃ entry ∈ worker.queue, entry.socket = socket ∧ entry.message = message) ∨
    ∃ stage, worker.stage = some stage ∧ stage.entry.socket = socket ∧ stage.entry.message = message
  grants peerId := ∃ entry signed, worker.stage = some (.verifying entry signed) ∧ signed.registration.peerId = peerId
  ends socket := turn.event = .client (.close socket) ∨ turn.event = .error socket ∨ ∃ entry signed,
    worker.stage = some (.verifying entry signed) ∧ worker.control.socketsByPeerId.get? signed.registration.peerId = some socket

theorem Bun.step_endsOf (stepped : Bun.step deployment control turn = some next) :
    Ends (Bun.context deployment turn.now) (Bun.groundsOf control turn) control.quiet next :=
  Bun.step_ends (fun _ raw sent => ⟨raw, sent, rfl⟩)
    (fun socket raw signed sent _ claimed => ⟨⟨socket, raw, signed, sent, claimed, rfl⟩,
      fun _ held => .inr ⟨socket, raw, signed, sent, claimed, held⟩⟩) (fun _ closes => .inl closes) stepped

theorem Worker.step_endsOf (kept : worker.Kept deployment.crypto) (stepped : Worker.step deployment worker workerTurn = some following) :
    Ends (Worker.context deployment workerTurn.now workerTurn.failing) (Worker.groundsOf worker workerTurn) worker.control.quiet
      following.control := by
  have attended : WorkerState.Attended (Worker.groundsOf worker workerTurn) { worker with control := worker.control.quiet } :=
    ⟨fun entry queued => .inr (.inl ⟨entry, queued, rfl, rfl⟩), fun stage waits => .inr (.inr ⟨stage, waits, rfl, rfl⟩)⟩
  have turns : Worker.Turns (Worker.context deployment workerTurn.now workerTurn.failing) (Worker.groundsOf worker workerTurn)
      { worker with control := worker.control.quiet } following :=
    Worker.step_turns kept (fun _ raw sent => .inl ⟨raw, sent, rfl⟩)
      (fun entry signed _ waits => ⟨⟨entry, signed, waits, rfl⟩, fun _ held => .inr (.inr ⟨entry, signed, waits, held⟩)⟩)
      (fun _ closes => closes.elim .inl fun fails => .inr (.inl fails)) stepped
  exact (turns attended).1

theorem Bun.Bystander.untouched (bystander : Bun.Bystander control turn other) (registered : Registered control) :
    ¬ (Bun.groundsOf control turn).Touches other := by
  rintro ((closes | ⟨client, raw, signed, sent, claimed, held⟩) | ⟨message, raw, sent, -⟩)
  · exact bystander.stays closes
  · exact bystander.keeps client raw signed sent claimed ((registered.registered _ other).mp held).2
  · exact bystander.silent raw sent

theorem Worker.Bystander.untouched (bystander : Worker.Bystander worker workerTurn other) (registered : Registered worker.control) :
    ¬ (Worker.groundsOf worker workerTurn).Touches other := by
  rintro ((closes | fails | ⟨entry, signed, waits, held⟩) | ⟨message, ⟨raw, sent, -⟩ | ⟨entry, queued, own, -⟩ | ⟨stage, waits, own, -⟩⟩)
  · exact bystander.stays.1 closes
  · exact bystander.stays.2 fails
  · exact bystander.keeps entry signed waits ((registered.registered _ other).mp held).2
  · exact bystander.silent raw sent
  · exact bystander.idle.1 entry queued own
  · exact bystander.idle.2 stage waits own

end

end MeshTalk.Control
