import MeshTalk.Library.Simulation
import MeshTalk.Control.Messages
import MeshTalk.Control.Forwarding

namespace MeshTalk.Control

open MeshTalk.Library ControlState

/-! # The Worker serves like the Bun server

The two runtimes differ in where a message is charged to the limits, in how a
registration is spread over the loop and in the order of a rejection.  Where the
Worker's queue is drained after each event, clients cannot tell them apart, as
long as none of them sends anything but a registration before it has registered:
the Worker charges such a message to its address, and the Bun server does not.
-/

variable {deployment : Deployment} {now : Int} {control : ControlState} {socket : Socket} {roomId : RoomId}
  {roomAuth payload : Text} {message : ControlMessage}

/-- The Worker where every send succeeds. -/
abbrev Worker.calm (deployment : Deployment) (now : Int) : Context := Worker.context deployment now fun _ => false

/-- An error without its text. -/
def Output.veiled : Output → Output
  | .sent socket (.error _) => .sent socket (.error "")
  | output => output

/-- What one client receives of what is put out, up to the texts of errors. -/
def received (socket : Socket) (outputs : List Output) : List Output :=
  (outputs.filter fun output => output.receiver = socket).map Output.veiled

/-- The tables of the two runtimes are the same, and so is what each client has received. -/
structure Matched (bun worker : ControlState) : Prop where
  tables : worker.quiet = bun.quiet
  received : ∀ socket, received socket worker.wire = received socket bun.wire

theorem received_append {outputs more : List Output} :
    received socket (outputs ++ more) = received socket outputs ++ received socket more := by
  simp [received]

theorem Matched.refl : Matched control control := ⟨rfl, fun _ => rfl⟩

/-- Nothing but a registration is sent before the client has registered. -/
def Parsed.Regular (data : ClientData) : Parsed → Prop
  | .object message => message.type = .deviceRegister ∨ data.peerId ≠ none
  | .bare => False
  | .malformed => True
  | .null => True

instance {data : ClientData} : ∀ content : Parsed, Decidable (content.Regular data)
  | .object _ => inferInstanceAs (Decidable (_ ∨ _))
  | .bare => isFalse id
  | .malformed => isTrue trivial
  | .null => isTrue trivial

/-- The events that both runtimes handle alike. -/
def Regular (control : ControlState) (turn : Turn) : Prop :=
  match turn.event with
  | .message socket raw => control.Live socket → (raw.length ≤ maxControlMessageBytes ∧ raw.bytes ≤ maxControlMessageBytes) ∧
      raw.content.Regular (control.data socket)
  | _ => True

instance {control : ControlState} : ∀ turn : Turn, Decidable (Regular control turn)
  | ⟨_, .message _ _⟩ => inferInstanceAs (Decidable (_ → _))
  | ⟨_, .connect ..⟩ => isTrue trivial
  | ⟨_, .close _⟩ => isTrue trivial

/-! ## Handlers of both runtimes -/

theorem timingSafeEqual_same : timingSafeEqual (Worker.calm deployment now) = timingSafeEqual (Bun.context deployment now) := by
  funext known given
  rw [Bool.eq_iff_iff, timingSafeEqual_iff, timingSafeEqual_iff]

theorem enterRoom_same {room : RoomState} (members : ∀ member ∈ room.members, control.Live member) :
    enterRoom (Worker.calm deployment now) socket roomId room control =
      enterRoom (Bun.context deployment now) socket roomId room control := by
  rw [enterRoom_apply rfl fun member listed => ⟨members member listed, rfl⟩,
    enterRoom_apply rfl fun member listed => ⟨members member listed, rfl⟩]

/-- The members of the room that is joined are live. -/
theorem obtainRoom_members (kept : Wellkept control) : Handler.Ensures (· = control) (obtainRoom roomId roomAuth)
    (fun room middle => ∀ member ∈ room.members, middle.Live member) fun _ => True := by
  rintro state rfl
  rw [obtainRoom, Handler.read_bind]
  cases found : state.rooms.get? roomId with
  | some room =>
      intro member listed
      have inside : member ∈ state.membersOf roomId := by rwa [membersOf_some found]
      exact (kept.member inside).1
  | none =>
      dsimp only
      by_cases crowded : maxRooms ≤ state.rooms.size
      · rw [Handler.bind_refuse_of crowded]
        trivial
      · rw [Handler.bind_refuse_of_not crowded]
        intro member listed
        cases listed

/-- `joinRoom` past the checks that come before the room is at hand. -/
theorem joinRoom_same (kept : Wellkept control) : joinRoom (Worker.calm deployment now) socket roomId roomAuth control =
    joinRoom (Bun.context deployment now) socket roomId roomAuth control := by
  by_cases invalid : ¬ isRoomId roomId ∨ ¬ isRoomAuth roomAuth
  · rw [joinRoom, joinRoom, Handler.bind_refuse_of invalid, Handler.bind_refuse_of invalid]
  rw [joinRoom, joinRoom, Handler.bind_refuse_of_not invalid, Handler.bind_refuse_of_not invalid, Handler.read_bind,
    Handler.read_bind]
  by_cases inside : roomId ∈ (control.data socket).rooms
  · rw [if_pos inside, if_pos inside]
  rw [if_neg inside, if_neg inside]
  by_cases many : maxRoomsPerClient ≤ (control.data socket).rooms.length
  · rw [Handler.bind_refuse_of many, Handler.bind_refuse_of many]
  rw [Handler.bind_refuse_of_not many, Handler.bind_refuse_of_not many, Handler.bind_apply, Handler.bind_apply,
    timingSafeEqual_same]
  have members := @obtainRoom_members control roomId roomAuth kept control rfl
  cases obtained : obtainRoom roomId roomAuth control with
  | mk outcome middle =>
      cases outcome with
      | error text => rfl
      | ok room =>
          simp only [obtained] at members
          dsimp only
          by_cases differs : ¬ timingSafeEqual (Bun.context deployment now) (fromHex room.auth) (fromHex roomAuth)
          · rw [Handler.bind_refuse_of differs, Handler.bind_refuse_of differs]
          rw [Handler.bind_refuse_of_not differs, Handler.bind_refuse_of_not differs]
          by_cases full : maxRoomMembers ≤ room.members.length
          · rw [Handler.bind_refuse_of full, Handler.bind_refuse_of full]
          rw [Handler.bind_refuse_of_not full, Handler.bind_refuse_of_not full]
          exact enterRoom_same members

theorem fetchPeers_same (kept : Wellkept control) : fetchPeers (Worker.calm deployment now) socket roomId control =
    fetchPeers (Bun.context deployment now) socket roomId control := by
  rw [fetchPeers, fetchPeers, Handler.read_bind, Handler.read_bind]
  by_cases outside : roomId ∉ (control.data socket).rooms
  · rw [Handler.bind_refuse_of outside, Handler.bind_refuse_of outside]
  rw [Handler.bind_refuse_of_not outside, Handler.bind_refuse_of_not outside]
  cases found : control.rooms.get? roomId with
  | none => rfl
  | some room =>
      have seen : ∀ member ∈ room.members, ∀ context : Context, context.clientOf control member = some (control.data member) := by
        intro member listed context
        have inside : member ∈ control.membersOf roomId := by rwa [membersOf_some found]
        exact clientOf_live (kept.member inside).1
      have payloads := @List.filterMap_congr _ _
        (fun member => (((Worker.calm deployment now).clientOf control member).bind fun data =>
          data.signals.get? roomId).filter fun payload => payload ≠ [])
        (fun member => (((Bun.context deployment now).clientOf control member).bind fun data =>
          data.signals.get? roomId).filter fun payload => payload ≠ [])
        room.members fun member listed => by rw [seen member listed, seen member listed]
      dsimp only
      rw [payloads]
      rfl

theorem handleRoomMessage_same (kept : Wellkept control) : handleRoomMessage (Worker.calm deployment now) socket message control =
    handleRoomMessage (Bun.context deployment now) socket message control := by
  unfold handleRoomMessage
  cases message.type <;> cases message.roomId <;> cases message.roomAuth <;> cases message.payload <;>
    first | rfl | exact joinRoom_same kept | exact fetchPeers_same kept

theorem peersShareRoom_same {recipientId : PeerId} (kept : Wellkept control) :
    peersShareRoom (Worker.calm deployment now) control socket recipientId =
      peersShareRoom (Bun.context deployment now) control socket recipientId := by
  unfold peersShareRoom
  cases (control.data socket).peerId with
  | none => rfl
  | some peerId =>
      dsimp only
      congr 1
      refine List.any_congr rfl fun roomId => ?_
      rw [Bool.eq_iff_iff, List.any_eq_true, List.any_eq_true]
      constructor <;> rintro ⟨member, listed, named⟩ <;> refine ⟨member, listed, ?_⟩ <;>
        rwa [clientOf_live (kept.member listed).1] at *

/-- Only the text that encodes its frame is relayed, and on that both decoders agree. -/
theorem decodeFrame_same {following : Bytes → ControlHandler PUnit} :
    (Handler.orRaise (decodeFrame (Worker.calm deployment now) payload) "Invalid relay frame" >>= fun frame =>
      Handler.refuse (frame = [] ∨ maxRelayFrameLength < frame.length ∨ Base64.encode frame ≠ payload) "Invalid relay frame" >>=
        fun _ => following frame) control =
    (Handler.orRaise (decodeFrame (Bun.context deployment now) payload) "Invalid relay frame" >>= fun frame =>
      Handler.refuse (frame = [] ∨ maxRelayFrameLength < frame.length ∨ Base64.encode frame ≠ payload) "Invalid relay frame" >>=
        fun _ => following frame) control := by
  have lenient : decodeFrame (Bun.context deployment now) payload = some (Base64.decodeBuffer payload) := rfl
  have strict : decodeFrame (Worker.calm deployment now) payload = Base64.atob payload := rfl
  by_cases canonical : Base64.encode (Base64.decodeBuffer payload) = payload
  · rw [lenient, strict, Base64.atob_canonical canonical]
  have refused : (Handler.orRaise (decodeFrame (Bun.context deployment now) payload) "Invalid relay frame" >>= fun frame =>
      Handler.refuse (frame = [] ∨ maxRelayFrameLength < frame.length ∨ Base64.encode frame ≠ payload) "Invalid relay frame" >>=
        fun _ => following frame) control = (.error "Invalid relay frame", control) := by
    rw [lenient]
    exact Handler.bind_refuse_of (.inr (.inr canonical))
  rw [refused, strict]
  cases decoded : Base64.atob payload with
  | none => rfl
  | some frame =>
      have differs : Base64.encode frame ≠ payload := by
        intro same
        rw [← same, Base64.decodeBuffer_encode] at canonical
        exact canonical rfl
      exact Handler.bind_refuse_of (.inr (.inr differs))

theorem relayDatagram_same {recipientId : PeerId} (kept : Wellkept control) :
    relayDatagram (Worker.calm deployment now) socket recipientId payload control =
      relayDatagram (Bun.context deployment now) socket recipientId payload control := by
  by_cases disabled : ¬ deployment.relayEnabled
  · have off : ∀ context : Context, context.relayEnabled = deployment.relayEnabled →
        relayDatagram context socket recipientId payload control = (.error "MeshTalk Relay is disabled", control) := by
      intro context same
      exact Handler.bind_refuse_of (by rwa [same])
    rw [off _ rfl, off _ rfl]
  have opens : ∀ context : Context, context.relayEnabled = deployment.relayEnabled → ¬ ¬ context.relayEnabled := by
    intro context same
    rwa [same]
  cases device : (control.data socket).peerId with
  | none =>
      have refused : ∀ context : Context, context.relayEnabled = deployment.relayEnabled →
          relayDatagram context socket recipientId payload control = (.error "Invalid relay frame", control) := by
        intro context same
        rw [relayDatagram, Handler.bind_refuse_of_not (opens context same), Handler.read_bind, device]
        rfl
      rw [refused _ rfl, refused _ rfl]
  | some peerId =>
      have shape : ∀ context : Context, context.relayEnabled = deployment.relayEnabled →
          relayDatagram context socket recipientId payload control = (do
            Handler.refuse (¬ isPeerId recipientId) "Invalid relay frame"
            let frame ← Handler.orRaise (decodeFrame context payload) "Invalid relay frame"
            relayFrame context control socket peerId recipientId payload frame : ControlHandler PUnit) control := by
        intro context same
        rw [relayDatagram, Handler.bind_refuse_of_not (opens context same), Handler.read_bind, device]
        rfl
      rw [shape _ rfl, shape _ rfl]
      by_cases unnamed : ¬ isPeerId recipientId
      · rw [Handler.bind_refuse_of unnamed, Handler.bind_refuse_of unnamed]
      rw [Handler.bind_refuse_of_not unnamed, Handler.bind_refuse_of_not unnamed]
      have same : relayFrame (Worker.calm deployment now) control socket peerId recipientId payload =
          relayFrame (Bun.context deployment now) control socket peerId recipientId payload := by
        funext frame
        unfold relayFrame
        rw [peersShareRoom_same kept]
        rfl
      rw [same]
      exact decodeFrame_same

/-- The limits that a message is charged to. -/
def meter (context : Context) (socket : Socket) (message : ControlMessage) : ControlHandler PUnit :=
  match message.relayed? with
  | some _ => checkRelayRateLimit context socket
  | none => checkRateLimit context socket message.type

theorem meter_counts {context : Context} : Counts (meter context socket message) control := by
  unfold meter
  split
  · exact checkRelayRateLimit_counts
  · exact checkRateLimit_counts

/-! ## The end of a client -/

/-- What a registration comes to, in either runtime. -/
def committed (context : Context) (control : ControlState) (socket : Socket) (peerId : PeerId) : ControlState :=
  (control.takeOver socket peerId context.now).putAll (takeOverOutputs context control socket peerId)

namespace Worker

variable {worker : WorkerState} {entry : Pending}

theorem handleClose_idle (empty : worker.queue = []) (live : worker.control.Live socket) :
    handleClose (calm deployment now) socket worker = (.ok ⟨⟩,
      { worker with control := (worker.control.withdraw socket).putAll (partings worker.control socket) }) := by
  obtain ⟨control, queue, admitted, begun, stage, pending, pendingBySocket, pendingByIp⟩ := worker
  obtain rfl : queue = [] := empty
  have flag : (control.data socket).closed = false := live
  have detached := @detach_apply (calm deployment now) control socket fun _ _ _ _ _ => rfl
  rw [handleClose, Handler.read_bind]
  change (if (control.data socket).closed then (pure ⟨⟩ : WorkerHandler PUnit) else _) _ = _
  rw [flag, if_neg Bool.false_ne_true]
  change onControl (detach (calm deployment now) socket) ⟨control.markClosed socket, [], admitted, begun, stage, pending,
    pendingBySocket, pendingByIp⟩ = _
  rw [onControl_apply, detached]

/-- What a client is told last, and what those it shared rooms with are told, in the Worker's order. -/
def rejection (control : ControlState) (socket : Socket) (text : String) : ControlState :=
  (control.withdraw socket).putAll (partings control socket ++ [.sent socket (.error text), .closed socket 1008])

theorem rejectClient_idle {text : String} (empty : worker.queue = []) (live : worker.control.Live socket) :
    rejectClient (calm deployment now) socket text worker =
      (.ok ⟨⟩, { worker with control := rejection worker.control socket text }) := by
  have told : ∀ control : ControlState, send (calm deployment now) socket (.error text) control =
      (.ok ⟨⟩, control.putAll [.sent socket (.error text)]) := fun _ => send_apply rfl
  rw [rejectClient, Handler.bind_apply, handleClose_idle empty live]
  dsimp only
  rw [Handler.bind_apply, Handler.recover, onControl_apply, told]
  dsimp only [putClosed, Handler.change]
  rw [put_eq, putAll_putAll, putAll_putAll, rejection]
  rfl

theorem commitRegistration_idle {peerId : PeerId} (empty : worker.queue = []) (kept : Wellkept worker.control)
    (live : worker.control.Live socket) : commitRegistration (calm deployment now) socket peerId worker =
      (.ok ⟨⟩, { worker with control := committed (calm deployment now) worker.control socket peerId }) := by
  have flag : (worker.control.data socket).closed = false := live
  have reached : commitRegistration (calm deployment now) socket peerId worker = (do
      replacePrevious (calm deployment now) (worker.control.previousOf socket peerId)
      onControl (confirmRegistration (calm deployment now) socket peerId) : WorkerHandler PUnit)
        { worker with control := worker.control.setRegistered socket peerId } := by
    rw [commitRegistration, Handler.bind_apply]
    change (if (worker.data socket).closed then (pure ⟨⟩ : WorkerHandler PUnit) else _) worker = _
    rw [WorkerState.data, flag, if_neg Bool.false_ne_true]
    rfl
  rw [reached, Handler.bind_apply, committed, takeOverOutputs, takeOver]
  cases taken : worker.control.previousOf socket peerId with
  | none =>
      have confirmed := @confirmRegistration_apply (calm deployment now) (worker.control.setRegistered socket peerId)
        socket [] peerId rfl
      rw [putAll_nil] at confirmed
      dsimp only [replacePrevious, Handler.pure_apply]
      rw [onControl_apply, confirmed]
  | some previous =>
      obtain ⟨alive, another, -⟩ := previousOf_some kept taken
      have closing := @handleClose_idle deployment now previous
        { worker with control := worker.control.setRegistered socket peerId } empty (live_setRegistered.mpr alive)
      have confirmed := @confirmRegistration_apply (calm deployment now)
        ((worker.control.setRegistered socket peerId).withdraw previous) socket
        (partings (worker.control.setRegistered socket peerId) previous ++ [.closed previous 4000]) peerId rfl
      dsimp only [replacePrevious]
      rw [Handler.bind_apply, closing]
      dsimp only [putClosed, Handler.change]
      rw [onControl_apply, put_eq, putAll_putAll, confirmed]

/-! ## A message in the loop -/

/-- The loop with a message just taken from the queue, where it was alone. -/
def taken (worker : WorkerState) (entry : Pending) (charged : ControlState) : WorkerState :=
  { ({ worker with control := charged } : WorkerState).enqueue entry with queue := [], begun := worker.begun ++ [entry] }

theorem beginMessage_returns {context : Context} :
    beginMessage context entry worker = (.ok ⟨⟩, (beginMessage context entry worker).2) := by
  rw [beginMessage, handling]
  split <;> rfl

/-- What is fit for the queue is charged first. -/
theorem admitMessage_apply {raw : Raw} (live : worker.control.Live socket)
    (small : raw.length ≤ maxControlMessageBytes ∧ raw.bytes ≤ maxControlMessageBytes) (room : ¬ worker.full socket raw.bytes) :
    admitMessage (calm deployment now) socket raw worker =
      (admitParsed (calm deployment now) socket raw).recover (rejectClient (calm deployment now) socket) worker := by
  have flag : (worker.data socket).closed = false := live
  have checked : admitChecked (calm deployment now) socket raw worker = admitParsed (calm deployment now) socket raw worker := by
    rw [admitChecked, Handler.bind_refuse_of_not (by omega), Handler.bind_refuse_of_not (by omega), Handler.read_bind,
      Handler.bind_refuse_of_not room]
  rw [admitMessage, Handler.read_bind, flag, if_neg Bool.false_ne_true, Handler.recover, Handler.recover, checked]

/-- A message is charged, queued and at once taken by the loop. -/
theorem admitParsed_begins {raw : Raw} {charged : ControlState} (idle : worker.stage = none) (empty : worker.queue = [])
    (content : raw.content = .object message)
    (paid : meter (calm deployment now) socket message worker.control = (.ok ⟨⟩, charged)) :
    admitParsed (calm deployment now) socket raw worker =
      beginMessage (calm deployment now) ⟨socket, message, raw.bytes⟩ (taken worker ⟨socket, message, raw.bytes⟩ charged) := by
  obtain ⟨control, queue, admitted, begun, stage, pending, pendingBySocket, pendingByIp⟩ := worker
  obtain rfl : queue = [] := empty
  obtain rfl : stage = none := idle
  have charges : onControl (meter (calm deployment now) socket message)
      ⟨control, [], admitted, begun, none, pending, pendingBySocket, pendingByIp⟩ =
        (.ok ⟨⟩, ⟨charged, [], admitted, begun, none, pending, pendingBySocket, pendingByIp⟩) := by
    rw [onControl_apply, paid]
  rw [admitParsed, content]
  change (onControl (meter (calm deployment now) socket message) >>= _) _ = _
  rw [Handler.bind_apply, charges]
  rfl

theorem admitParsed_overcharged {raw : Raw} {charged : ControlState} {text : String} (content : raw.content = .object message)
    (unpaid : meter (calm deployment now) socket message worker.control = (.error text, charged)) :
    admitParsed (calm deployment now) socket raw worker = (.error text, { worker with control := charged }) := by
  rw [admitParsed, content]
  change (onControl (meter (calm deployment now) socket message) >>= _) _ = _
  rw [Handler.bind_apply, onControl_apply, unpaid]

/-- The stage that a part of the handling leaves when it is done with the message. -/
theorem handling_done {body : WorkerHandler Stage} {text : String} {charged : ControlState}
    (raised : body worker = (.error text, { worker with control := charged })) (empty : worker.queue = [])
    (live : charged.Live socket) (own : entry.socket = socket) : handling (calm deployment now) entry body worker =
      (.ok ⟨⟩, { worker with control := rejection charged socket text, stage := some (.handled entry none) }) := by
  subst own
  have rejected := @rejectClient_idle deployment now entry.socket { worker with control := charged } text empty live
  rw [handling, Handler.recover, raised]
  dsimp only
  rw [Handler.bind_apply, rejected]
  rfl

/-- After the wait for the handler nothing is left to do. -/
theorem finishMessage_idle (empty : worker.queue = []) : ∃ outcome final,
    finishMessage (calm deployment now) entry none worker = (outcome, final) ∧ final.control = worker.control ∧
      final.queue = [] ∧ (outcome = .ok ⟨⟩ → final.stage = none) := by
  have released : ∃ outcome middle, releasePending entry worker = (outcome, middle) ∧ middle.control = worker.control ∧
      middle.queue = [] := by
    rw [releasePending, Handler.change_bind, Handler.read_bind]
    cases (worker.discount entry).pendingByIp.get? ((worker.discount entry).data entry.socket).ip with
    | none => exact ⟨_, _, rfl, rfl, empty⟩
    | some totals => exact ⟨_, _, rfl, rfl, empty⟩
  obtain ⟨outcome, middle, ran, control, queue⟩ := released
  rw [finishMessage, Handler.bind_apply, Handler.ensuring, Handler.pure_apply]
  dsimp only
  rw [ran]
  cases outcome with
  | error text => exact ⟨_, _, rfl, control, queue, fun done => by cases done⟩
  | ok value =>
      have last : nextMessage (calm deployment now) middle = (.ok ⟨⟩, middle.setStage none) := by
        rw [nextMessage, Handler.read_bind, queue]
        rfl
      exact ⟨_, _, last, control, queue, fun _ => rfl⟩

theorem resume_handled (waits : worker.stage = some (.handled entry none)) (empty : worker.queue = []) :
    ∃ final, step deployment worker ⟨now, fun _ => false, .resume⟩ = some final ∧ final.control = worker.control.quiet ∧
      final.stage = none ∧ final.queue = [] := by
  have stepped : step deployment worker ⟨now, fun _ => false, .resume⟩ =
      some ((resume (calm deployment now) (.handled entry none)).finish { worker with control := worker.control.quiet }) := by
    change worker.stage.map _ = _
    rw [waits]
    rfl
  obtain ⟨outcome, final, finished, control, queue, idle⟩ :=
    @finishMessage_idle deployment now { worker with control := worker.control.quiet } entry empty
  rw [stepped, Handler.finish, resume, Handler.onRaise, finished]
  cases outcome with
  | error text => exact ⟨_, rfl, control, rfl, queue⟩
  | ok value => exact ⟨_, rfl, control, idle rfl, queue⟩

/-! ## From one client event to the next -/

/-- The loop goes on by itself, at the time of the event. -/
def resumed (deployment : Deployment) (now : Int) (worker : WorkerState) : Option WorkerState :=
  step deployment worker ⟨now, fun _ => false, .resume⟩

abbrev outputs (worker : WorkerState) : List Output := worker.control.wire

/-- An event of a client, after which the queue is drained at the same time. -/
def Handles (deployment : Deployment) : Server WorkerState Turn (List Output) := fun worker turn replies final =>
  ∃ next later, step deployment worker ⟨turn.now, fun _ => false, .client turn.event⟩ = some next ∧
    Settles (resumed deployment turn.now) outputs next later final ∧ replies = next.control.wire ++ later

theorem Handles.unique {turn : Turn} {replies others : List Output} {one two : WorkerState}
    (first : Handles deployment worker turn replies one) (second : Handles deployment worker turn others two) :
    replies = others ∧ one = two := by
  obtain ⟨next, later, stepped, settles, rfl⟩ := first
  obtain ⟨again, further, repeated, rests, rfl⟩ := second
  obtain rfl := Option.some.inj (stepped.symm.trans repeated)
  obtain ⟨rfl, same⟩ := settles.unique rests
  exact ⟨rfl, same⟩

/-- The loop comes to rest with the tables that the Bun server has, having said the same. -/
def Completes (deployment : Deployment) (now : Int) (bun : ControlState) (worker : WorkerState) : Prop :=
  ∃ later final, Settles (resumed deployment now) outputs worker later final ∧ final.stage = none ∧ final.queue = [] ∧
    final.control.quiet = bun.quiet ∧ ∀ socket, received socket (worker.control.wire ++ later) = received socket bun.wire

theorem completes_idle (idle : worker.stage = none) (empty : worker.queue = []) (matched : Matched control worker.control) :
    Completes deployment now control worker := by
  refine ⟨[], worker, .idle ?_, idle, empty, matched.tables, ?_⟩
  · change worker.stage.map _ = none
    rw [idle]
    rfl
  · simpa using matched.received

theorem completes_handled (waits : worker.stage = some (.handled entry none)) (empty : worker.queue = [])
    (matched : Matched control worker.control) : Completes deployment now control worker := by
  obtain ⟨final, stepped, tables, idle, rest⟩ := @resume_handled deployment now worker entry waits empty
  have silent : final.control.wire = [] := by rw [tables]; rfl
  have stops : resumed deployment now final = none := by
    change final.stage.map _ = none
    rw [idle]
    rfl
  refine ⟨outputs final ++ [], final, .busy stepped (.idle stops), idle, rest, ?_, ?_⟩
  · rw [tables]
    exact matched.tables
  · simpa [outputs, silent] using matched.received

/-- A wait before which nothing has been said. -/
theorem completes_resumed {next : WorkerState} (silent : worker.control.wire = []) (stepped : resumed deployment now worker = some next)
    (completes : Completes deployment now control next) : Completes deployment now control worker := by
  obtain ⟨later, final, settles, idle, empty, tables, heard⟩ := completes
  refine ⟨outputs next ++ later, final, .busy stepped settles, idle, empty, tables, ?_⟩
  simpa [silent] using heard

/-! ## Rejections -/

theorem received_partings : received socket (partings control socket) = [] := by
  have others : ∀ output ∈ partings control socket, ¬ output.receiver = socket := by
    intro output member
    obtain ⟨roomId, -, other, count, rfl, -, another⟩ := mem_partings member
    exact another
  simpa [received] using others

/-- The Bun server tells the client first, and the Worker last. -/
theorem matched_rejection {text other : String} :
    Matched ((control.withdraw socket).putAll (.sent socket (.error text) :: partings control socket ++ [.closed socket 1008]))
      (rejection control socket other) := by
  refine ⟨rfl, fun client => ?_⟩
  have prefixed : ∀ outputs : List Output, received client ((control.withdraw socket).putAll outputs).wire =
      received client (control.withdraw socket).wire ++ received client outputs := fun _ => received_append
  rw [rejection, prefixed, prefixed, received_append, List.cons_append]
  congr 1
  by_cases own : socket = client
  · subst own
    have told := @received_partings control socket
    have split : received socket (.sent socket (.error text) :: (partings control socket ++ [.closed socket 1008])) =
        .sent socket (.error "") :: (received socket (partings control socket) ++ [.closed socket 1008]) := by
      simp [received, Output.receiver, Output.veiled]
    rw [split, told]
    simp [received, Output.receiver, Output.veiled]
  · simp [received, Output.receiver, own]

end Worker

/-! ## The Bun server's part -/

/-- What a registered client's message asks for. -/
def respond (context : Context) (socket : Socket) (message : ControlMessage) : ControlHandler PUnit :=
  match message.relayed? with
  | some (recipientId, payload) => relayDatagram context socket recipientId payload
  | none => handleRoomMessage context socket message

theorem respond_same (kept : Wellkept control) : respond (Worker.calm deployment now) socket message control =
    respond (Bun.context deployment now) socket message control := by
  unfold respond
  cases message.relayed? with
  | none => exact handleRoomMessage_same kept
  | some relayed => exact relayDatagram_same kept

theorem respond_answers {context : Context} (kept : Wellkept control) (reliable : Reliable context control)
    (live : control.Live socket) (device : (control.data socket).peerId ≠ none) :
    Answers context.crypto socket message (respond context socket message) control := by
  unfold respond
  cases asked : message.relayed? with
  | none => exact handleRoomMessage_answers kept reliable live device
  | some relayed => exact relayDatagram_answers kept reliable live asked

theorem Answers.raised {crypto : Crypto} {handler : ControlHandler PUnit} {text : String} {middle : ControlState}
    (answers : Answers crypto socket message handler control) (ran : handler control = (.error text, middle)) :
    Tallied control middle := by
  obtain ⟨other, tallied, raised | returned⟩ := answers
  · obtain ⟨said, raised⟩ := raised
    obtain ⟨-, rfl⟩ := Prod.mk.inj (ran.symm.trans raised)
    exact tallied
  · obtain ⟨next, returned, -⟩ := returned
    cases ran.symm.trans returned

namespace Bun

variable {context : Context}

/-- The rest of a message, with the rejection of the client where it raises. -/
def settle (context : Context) (socket : Socket) (body : ControlHandler PUnit) (control : ControlState) : ControlState :=
  (body.recover (rejectClient context socket)).finish control

theorem settle_raised {body : ControlHandler PUnit} {text : String} {middle : ControlState}
    (ran : body control = (.error text, middle)) (kept : Wellkept middle) (live : middle.Live socket) :
    settle (Bun.context deployment now) socket body control = (middle.withdraw socket).putAll
      (.sent socket (.error text) :: partings middle socket ++ [.closed socket 1008]) := by
  rw [settle, Handler.finish, Handler.recover, ran]
  dsimp only
  rw [rejectClient_apply kept reliable live]

theorem settle_returned {body : ControlHandler PUnit} {next : ControlState} (ran : body control = (.ok ⟨⟩, next)) :
    settle context socket body control = next := by
  rw [settle, Handler.finish, Handler.recover, ran]

theorem settle_congr {first second : ControlHandler PUnit} {start : ControlState} (same : first control = second start) :
    settle context socket first control = settle context socket second start := by
  rw [settle, settle, Handler.finish, Handler.finish, Handler.recover, Handler.recover, same]

theorem message_settles {content : Parsed} (live : control.Live socket) :
    (Bun.message context socket content).finish control = settle context socket (handleParsed context socket content) control := by
  have flag : (control.data socket).closed = false := live
  rw [settle, Handler.finish, Bun.message, Handler.read_bind, flag]
  rfl

theorem relayed_type {target : PeerId × Text} (relayed : message.relayed? = some target) : message.type = .relay := by
  unfold ControlMessage.relayed? at relayed
  split at relayed
  · assumption
  · cases relayed

/-- A registration is charged like other messages. -/
theorem handleMessage_registers (asked : message.type = .deviceRegister) : handleMessage context socket message control =
    (meter context socket message >>= fun _ => registerDevice context socket message) control := by
  have direct : message.relayed? = none := by
    by_contra relays
    obtain ⟨target, relayed⟩ := Option.ne_none_iff_exists'.mp relays
    rw [relayed_type relayed] at asked
    cases asked
  rw [handleMessage, if_pos asked, meter, direct]

theorem handleMessage_responds (other : message.type ≠ .deviceRegister) (device : (control.data socket).peerId ≠ none) :
    handleMessage context socket message control =
      (meter context socket message >>= fun _ => respond context socket message) control := by
  rw [handleMessage, if_neg other, Handler.read_bind, Handler.bind_refuse_of_not device, meter, respond]
  cases message.relayed? <;> rfl

/-- A registration from its signature on. -/
def verify (context : Context) (socket : Socket) (signed : SignedRegistration) : ControlHandler PUnit := do
  checkSignature context signed
  let previous ← takeIdentity socket signed.registration.peerId
  replacePrevious context previous
  confirmRegistration context socket signed.registration.peerId

theorem registration_commits {peerId : PeerId} (kept : Wellkept control) :
    (replacePrevious (Bun.context deployment now) (control.previousOf socket peerId) >>= fun _ =>
      confirmRegistration (Bun.context deployment now) socket peerId) (control.setRegistered socket peerId) =
        (.ok ⟨⟩, committed (Bun.context deployment now) control socket peerId) := by
  rw [Handler.bind_apply, committed, takeOverOutputs, takeOver]
  cases taken : control.previousOf socket peerId with
  | none =>
      have confirmed := @confirmRegistration_apply (Bun.context deployment now) (control.setRegistered socket peerId)
        socket [] peerId rfl
      rw [putAll_nil] at confirmed
      exact confirmed
  | some previous =>
      obtain ⟨alive, -, -⟩ := previousOf_some kept taken
      have closing := @closeClient_apply (Bun.context deployment now) (control.setRegistered socket peerId) previous
        (live_setRegistered.mpr alive) fun _ _ _ _ _ => rfl
      have confirmed := @confirmRegistration_apply (Bun.context deployment now)
        ((control.setRegistered socket peerId).withdraw previous) socket
        (partings (control.setRegistered socket peerId) previous ++ [.closed previous 4000]) peerId rfl
      dsimp only
      rw [replacePrevious, Handler.bind_apply, closing]
      dsimp only [Handler.change]
      rw [put_eq, putAll_putAll]
      exact confirmed

end Bun

namespace Worker

variable {worker : WorkerState} {entry : Pending}

/-- The message of a registered client. -/
theorem beginMessage_responds (empty : worker.queue = []) (kept : Wellkept worker.control)
    (live : worker.control.Live entry.socket) (device : (worker.control.data entry.socket).peerId ≠ none)
    (other : entry.message.type ≠ .deviceRegister) : Completes deployment now
      (Bun.settle (Bun.context deployment now) entry.socket (respond (Bun.context deployment now) entry.socket entry.message)
        worker.control)
      ((beginMessage (calm deployment now) entry).finish worker) := by
  have flag : (worker.data entry.socket).closed = false := live
  have answers := @respond_answers worker.control entry.socket entry.message (Bun.context deployment now) kept Bun.reliable
    live device
  have body : ∀ handled : Except String PUnit × ControlState,
      respond (Bun.context deployment now) entry.socket entry.message worker.control = handled →
      (onControl (handleRegistered (calm deployment now) entry.socket entry.message) >>= fun _ =>
        (pure (.handled entry none) : WorkerHandler Stage)) worker =
      (handled.1.map fun _ => .handled entry none, { worker with control := handled.2 }) := by
    rintro ⟨outcome, next⟩ ran
    have registered : handleRegistered (calm deployment now) entry.socket entry.message worker.control = (outcome, next) := by
      rw [handleRegistered, Handler.read_bind, Handler.bind_refuse_of_not device, ← ran]
      exact respond_same kept
    rw [Handler.bind_apply, onControl_apply, registered]
    cases outcome <;> rfl
  have began : beginMessage (calm deployment now) entry worker = handling (calm deployment now) entry
      (onControl (handleRegistered (calm deployment now) entry.socket entry.message) >>= fun _ =>
        (pure (.handled entry none) : WorkerHandler Stage)) worker := by
    rw [beginMessage, handling, handling, Handler.recover, Handler.recover, Handler.read_bind, flag,
      if_neg Bool.false_ne_true, if_neg other]
  rw [Handler.finish, began]
  cases ran : respond (Bun.context deployment now) entry.socket entry.message worker.control with
  | mk outcome next =>
      have ended := body _ ran
      cases outcome with
      | error text =>
          have tallied := answers.raised ran
          have alive : next.Live entry.socket := by rwa [Live, tallied.closed]
          rw [Bun.settle_raised ran (tallied.wellkept kept) alive, handling_done ended empty alive rfl]
          exact completes_handled rfl empty matched_rejection
      | ok value =>
          rw [Bun.settle_returned ran, handling, Handler.recover, ended]
          exact completes_handled rfl empty .refl

theorem resumed_apply {stage : Stage} (waits : worker.stage = some stage) (silent : worker.control.wire = []) :
    resumed deployment now worker = some ((resume (calm deployment now) stage).finish worker) := by
  obtain ⟨⟨sockets, rooms, connections, byIp, rates, peers, limits, retained, wire⟩, queue, admitted, begun, waiting, pending,
    pendingBySocket, pendingByIp⟩ := worker
  obtain rfl : wire = [] := silent
  obtain rfl : waiting = some stage := waits
  rfl

theorem verifying_completes {signed : SignedRegistration} (waits : worker.stage = some (.verifying entry signed))
    (empty : worker.queue = []) (silent : worker.control.wire = []) (kept : Wellkept worker.control)
    (live : worker.control.Live entry.socket) : Completes deployment now
      (Bun.settle (Bun.context deployment now) entry.socket (Bun.verify (Bun.context deployment now) entry.socket signed)
        worker.control) worker := by
  refine completes_resumed silent (resumed_apply waits silent) ?_
  have state := @checkSignature_state (Bun.context deployment now) worker.control signed
  cases checked : checkSignature (Bun.context deployment now) signed worker.control with
  | mk outcome after =>
      obtain rfl : after = worker.control := by rw [← state, checked]
      have said : onControl (checkSignature (calm deployment now) signed) worker = (outcome, worker) := by
        rw [onControl_apply]
        change ((checkSignature (Bun.context deployment now) signed worker.control).1,
          { worker with control := (checkSignature (Bun.context deployment now) signed worker.control).2 }) = _
        rw [checked]
      rw [Handler.finish, resume]
      cases outcome with
      | error text =>
          have raised : Bun.verify (Bun.context deployment now) entry.socket signed worker.control = (.error text, worker.control) := by
            rw [Bun.verify, Handler.bind_apply, checked]
          rw [Bun.settle_raised raised kept live, handling_done (by rw [Handler.bind_apply, said]) empty live rfl]
          exact completes_handled rfl empty matched_rejection
      | ok value =>
          have returned : Bun.verify (Bun.context deployment now) entry.socket signed worker.control =
              (.ok ⟨⟩, committed (Bun.context deployment now) worker.control entry.socket signed.registration.peerId) := by
            rw [Bun.verify, Handler.bind_apply, checked]
            exact Bun.registration_commits kept
          rw [Bun.settle_returned returned, handling, Handler.recover, Handler.bind_apply, said]
          dsimp only
          rw [Handler.bind_apply, commitRegistration_idle empty kept live]
          exact completes_handled rfl empty .refl

theorem hashing_completes {signed : SignedRegistration} (waits : worker.stage = some (.hashing entry signed))
    (empty : worker.queue = []) (silent : worker.control.wire = []) (kept : Wellkept worker.control)
    (live : worker.control.Live entry.socket) : Completes deployment now
      (Bun.settle (Bun.context deployment now) entry.socket (checkDigest (Bun.context deployment now) signed >>= fun _ =>
        Bun.verify (Bun.context deployment now) entry.socket signed) worker.control) worker := by
  refine completes_resumed silent (resumed_apply waits silent) ?_
  rw [Handler.finish, resume]
  by_cases differs : toHex (deployment.crypto.sha256 (fromHex signed.registration.signingPublicKey)) ≠ signed.registration.peerId
  · have raised : (checkDigest (Bun.context deployment now) signed >>= fun _ =>
        Bun.verify (Bun.context deployment now) entry.socket signed) worker.control =
          (.error "Device identity mismatch", worker.control) := Handler.bind_refuse_of differs
    have said : onControl (checkDigest (calm deployment now) signed) worker = (.error "Device identity mismatch", worker) := by
      have mismatch : checkDigest (calm deployment now) signed worker.control =
          (.error "Device identity mismatch", worker.control) := Handler.refuse_of differs
      rw [onControl_apply, mismatch]
    rw [Bun.settle_raised raised kept live, handling_done (by rw [Handler.bind_apply, said]) empty live rfl]
    exact completes_handled rfl empty matched_rejection
  · have passed : (checkDigest (Bun.context deployment now) signed >>= fun _ =>
        Bun.verify (Bun.context deployment now) entry.socket signed) worker.control =
          Bun.verify (Bun.context deployment now) entry.socket signed worker.control := Handler.bind_refuse_of_not differs
    have said : onControl (checkDigest (calm deployment now) signed) worker = (.ok ⟨⟩, worker) := by
      have matching : checkDigest (calm deployment now) signed worker.control = (.ok ⟨⟩, worker.control) :=
        Handler.refuse_of_not differs
      rw [onControl_apply, matching]
    rw [Bun.settle_congr passed, handling, Handler.recover, Handler.bind_apply, said]
    exact verifying_completes rfl empty silent kept live

/-- The registration of a client, with both of its waits. -/
theorem beginMessage_registers (empty : worker.queue = []) (silent : worker.control.wire = []) (kept : Wellkept worker.control)
    (live : worker.control.Live entry.socket) (asked : entry.message.type = .deviceRegister) : Completes deployment now
      (Bun.settle (Bun.context deployment now) entry.socket
        (Bun.registerDevice (Bun.context deployment now) entry.socket entry.message) worker.control)
      ((beginMessage (calm deployment now) entry).finish worker) := by
  have flag : (worker.data entry.socket).closed = false := live
  have began : beginMessage (calm deployment now) entry worker = handling (calm deployment now) entry
      (onControl (readRegistration (calm deployment now) entry.socket entry.message) >>= fun signed =>
        (pure (.hashing entry signed) : WorkerHandler Stage)) worker := by
    rw [beginMessage, handling, handling, Handler.recover, Handler.recover, Handler.read_bind, flag,
      if_neg Bool.false_ne_true, if_pos asked]
  have state := @readRegistration_state (Bun.context deployment now) worker.control entry.socket entry.message
  rw [Handler.finish, began]
  cases read : readRegistration (Bun.context deployment now) entry.socket entry.message worker.control with
  | mk outcome after =>
      obtain rfl : after = worker.control := by rw [← state, read]
      have said : onControl (readRegistration (calm deployment now) entry.socket entry.message) worker = (outcome, worker) := by
        rw [onControl_apply]
        change ((readRegistration (Bun.context deployment now) entry.socket entry.message worker.control).1,
          { worker with control := (readRegistration (Bun.context deployment now) entry.socket entry.message worker.control).2 }) = _
        rw [read]
      cases outcome with
      | error text =>
          have raised : Bun.registerDevice (Bun.context deployment now) entry.socket entry.message worker.control =
              (.error text, worker.control) := by
            rw [Bun.registerDevice, Handler.bind_apply, read]
          rw [Bun.settle_raised raised kept live, handling_done (by rw [Handler.bind_apply, said]) empty live rfl]
          exact completes_handled rfl empty matched_rejection
      | ok signed =>
          have goes : Bun.registerDevice (Bun.context deployment now) entry.socket entry.message worker.control =
              (checkDigest (Bun.context deployment now) signed >>= fun _ =>
                Bun.verify (Bun.context deployment now) entry.socket signed) worker.control := by
            rw [Bun.registerDevice, Handler.bind_apply, read]
            rfl
          rw [Bun.settle_congr goes, handling, Handler.recover, Handler.bind_apply, said]
          exact hashing_completes rfl empty silent kept live

/-! ## Events -/

theorem admitMessage_completes {raw : Raw} (idle : worker.stage = none) (empty : worker.queue = [])
    (silent : worker.control.wire = []) (kept : Wellkept worker.control) (live : worker.control.Live socket)
    (small : raw.length ≤ maxControlMessageBytes ∧ raw.bytes ≤ maxControlMessageBytes) (room : ¬ worker.full socket raw.bytes)
    (regular : raw.content.Regular (worker.control.data socket)) : Completes deployment now
      ((Bun.message (Bun.context deployment now) socket raw.content).finish worker.control)
      ((admitMessage (calm deployment now) socket raw).finish worker) := by
  rw [Bun.message_settles live, Handler.finish, admitMessage_apply live small room, Handler.recover]
  have unread : ∀ text other, Bun.handleParsed (Bun.context deployment now) socket raw.content worker.control = (.error text, worker.control) →
      admitParsed (calm deployment now) socket raw worker = (.error other, worker) → Completes deployment now
        (Bun.settle (Bun.context deployment now) socket (Bun.handleParsed (Bun.context deployment now) socket raw.content)
          worker.control)
        ((admitParsed (calm deployment now) socket raw).recover (rejectClient (calm deployment now) socket) worker).2 := by
    intro text other raised refused
    rw [Bun.settle_raised raised kept live, Handler.recover, refused]
    dsimp only
    rw [rejectClient_idle empty live]
    exact completes_idle idle empty matched_rejection
  cases content : raw.content with
  | malformed =>
      rw [content] at unread
      exact unread "JSON Parse error" "Unexpected token" rfl (by rw [admitParsed, content]; rfl)
  | null =>
      rw [content] at unread
      exact unread "null is not an object" "Invalid control message" rfl (by rw [admitParsed, content]; rfl)
  | bare =>
      rw [content] at regular
      exact regular.elim
  | object message =>
      rw [content] at regular
      have body : ∃ body, (∀ charged, (charged.data socket).peerId = (worker.control.data socket).peerId →
            Wellkept charged → charged.Live socket → charged.wire = [] → Completes deployment now
              (Bun.settle (Bun.context deployment now) socket body charged)
              ((beginMessage (calm deployment now) ⟨socket, message, raw.bytes⟩).finish
                (taken worker ⟨socket, message, raw.bytes⟩ charged))) ∧
          Bun.handleParsed (Bun.context deployment now) socket (.object message) worker.control =
            (meter (Bun.context deployment now) socket message >>= fun _ => body) worker.control := by
        by_cases asked : message.type = .deviceRegister
        · refine ⟨Bun.registerDevice (Bun.context deployment now) socket message, ?_, Bun.handleMessage_registers asked⟩
          intro charged _ well alive quiet
          exact @beginMessage_registers deployment now (taken worker ⟨socket, message, raw.bytes⟩ charged)
            ⟨socket, message, raw.bytes⟩ rfl quiet well alive asked
        · have device : (worker.control.data socket).peerId ≠ none := regular.resolve_left asked
          refine ⟨respond (Bun.context deployment now) socket message, ?_, Bun.handleMessage_responds asked device⟩
          intro charged same well alive _
          exact @beginMessage_responds deployment now (taken worker ⟨socket, message, raw.bytes⟩ charged)
            ⟨socket, message, raw.bytes⟩ rfl well alive (by rw [← same] at device; exact device) asked
      obtain ⟨body, completes, parsed⟩ := body
      have tallied : Tallied worker.control (meter (Bun.context deployment now) socket message worker.control).2 := meter_counts
      cases paid : meter (Bun.context deployment now) socket message worker.control with
      | mk outcome charged =>
          rw [paid] at tallied
          have alive : charged.Live socket := by rwa [Live, tallied.closed]
          have well := tallied.wellkept kept
          cases outcome with
          | error text =>
              have raised : Bun.handleParsed (Bun.context deployment now) socket (.object message) worker.control =
                  (.error text, charged) := by
                rw [parsed, Handler.bind_apply, paid]
              rw [Bun.settle_raised raised well alive, admitParsed_overcharged content paid]
              dsimp only
              rw [@rejectClient_idle deployment now socket { worker with control := charged } text empty alive]
              exact completes_idle idle empty matched_rejection
          | ok value =>
              have goes : Bun.handleParsed (Bun.context deployment now) socket (.object message) worker.control = body charged := by
                rw [parsed, Handler.bind_apply, paid]
              rw [Bun.settle_congr goes, admitParsed_begins idle empty content paid, beginMessage_returns]
              exact completes charged (tallied.peerId socket) well alive (tallied.wire.trans silent)

/-- Between two events: the same tables, and nothing left to do in the Worker. -/
structure Alike (crypto : Crypto) (bun : ControlState) (worker : WorkerState) : Prop where
  tables : worker.control.quiet = bun.quiet
  idle : worker.stage = none
  empty : worker.queue = []
  kept : worker.Kept crypto
  wellkept : Wellkept bun

/-- What the two runtimes say to the clients of an event; a client that closes hears no more. -/
def Agree (turn : Turn) (bun worker : List Output) : Prop :=
  ∀ socket, (∀ closing, turn.event = .close closing → socket ≠ closing) → received socket worker = received socket bun

theorem settles_kept {outputs : List Output} {final : WorkerState} (kept : worker.Kept deployment.crypto)
    (settles : Settles (resumed deployment now) Worker.outputs worker outputs final) : final.Kept deployment.crypto := by
  induction settles with
  | idle _ => exact kept
  | busy ticked _ ih => exact ih (step_kept kept ticked)

/-- There is room for one message in an idle Worker. -/
theorem Alike.room {bun : ControlState} {bytes : Nat} (alike : Alike deployment.crypto bun worker)
    (small : bytes ≤ maxControlMessageBytes) :
    ¬ ({ worker with control := worker.control.quiet } : WorkerState).full socket bytes := by
  have accounted := alike.kept.steady.accounted
  rw [alike.idle, alike.empty] at accounted
  have total : worker.pending = ⟨0, 0⟩ := accounted.total
  have client : worker.clientTotals socket = ⟨0, 0⟩ := accounted.client socket
  have address : worker.addressTotals (worker.data socket).ip = ⟨0, 0⟩ := accounted.addressTotals _
  intro full
  change maxPendingMessages ≤ worker.pending.messages ∨ maxPendingMessageBytes < worker.pending.bytes + bytes ∨
    maxPendingMessagesPerClient ≤ (worker.clientTotals socket).messages ∨
    maxPendingMessageBytesPerClient < (worker.clientTotals socket).bytes + bytes ∨
    maxPendingMessagesPerIp ≤ (worker.addressTotals (worker.data socket).ip).messages ∨
    maxPendingMessageBytesPerIp < (worker.addressTotals (worker.data socket).ip).bytes + bytes at full
  rw [total, client, address] at full
  simp only [maxPendingMessages, maxPendingMessageBytes, maxPendingMessagesPerClient, maxPendingMessageBytesPerClient,
    maxPendingMessagesPerIp, maxPendingMessageBytesPerIp, maxControlMessageBytes] at full small
  omega

/-- The event has been handled, and the loop has come to rest. -/
theorem Completes.handled {bun next : ControlState} {turn : Turn} {begun : WorkerState} (alike : Alike deployment.crypto bun worker)
    (stepped : Bun.step deployment bun turn = some next)
    (followed : step deployment worker ⟨turn.now, fun _ => false, .client turn.event⟩ = some begun)
    (completes : Completes deployment turn.now next begun) :
    ∃ reply after, Handles deployment worker turn reply after ∧ Alike deployment.crypto next after ∧ Agree turn next.wire reply := by
  obtain ⟨later, final, settles, idle, empty, tables, heard⟩ := completes
  refine ⟨begun.control.wire ++ later, final, ⟨begun, later, followed, settles, rfl⟩, ?_, fun socket _ => heard socket⟩
  exact ⟨tables, idle, empty, settles_kept (step_kept alike.kept followed) settles, Bun.step_wellkept alike.wellkept stepped⟩

theorem simulates_connect {bun next : ControlState} {ip : Address} {challengeId challenge : Text}
    (alike : Alike deployment.crypto bun worker)
    (stepped : Bun.step deployment bun ⟨now, .connect socket ip challengeId challenge⟩ = some next) :
    ∃ reply after, Handles deployment worker ⟨now, .connect socket ip challengeId challenge⟩ reply after ∧
      Alike deployment.crypto next after ∧ Agree ⟨now, .connect socket ip challengeId challenge⟩ next.wire reply := by
  have known : worker.control.sockets = bun.sockets := (congrArg ControlState.sockets alike.tables :)
  have connections : worker.control.connections = bun.connections := (congrArg ControlState.connections alike.tables :)
  have byIp : worker.control.connectionsByIp = bun.connectionsByIp := (congrArg ControlState.connectionsByIp alike.tables :)
  have admits : worker.control.admits ip ↔ bun.admits ip := by
    rw [ControlState.admits, ControlState.admits, countFor, countFor, connections, byIp]
  have shape : Bun.step deployment bun ⟨now, .connect socket ip challengeId challenge⟩ =
      if bun.sockets.contains socket then none
      else if bun.admits ip then
        some ((openClient (Bun.context deployment now) socket ip challengeId challenge).finish bun.quiet)
      else some bun.quiet := rfl
  have follows : step deployment worker ⟨now, fun _ => false, .client (.connect socket ip challengeId challenge)⟩ =
      if worker.control.sockets.contains socket then none
      else if worker.control.admits ip then
        some ((onControl (openClient (calm deployment now) socket ip challengeId challenge)).finish
          { worker with control := worker.control.quiet })
      else some { worker with control := worker.control.quiet } := rfl
  rw [known, alike.tables] at follows
  have stepped' := stepped
  rw [shape] at stepped'
  split at stepped'
  · cases stepped'
  · rename_i unknown
    rw [if_neg unknown] at follows
    by_cases room : bun.admits ip
    · rw [if_pos room] at stepped'
      rw [if_pos (admits.mpr room)] at follows
      obtain rfl := Option.some.inj stepped'
      exact Completes.handled alike stepped follows (completes_idle alike.idle alike.empty .refl)
    · rw [if_neg room] at stepped'
      rw [if_neg (mt admits.mp room)] at follows
      obtain rfl := Option.some.inj stepped'
      exact Completes.handled alike stepped follows (completes_idle alike.idle alike.empty .refl)

theorem simulates_message {bun next : ControlState} {raw : Raw} (alike : Alike deployment.crypto bun worker)
    (regular : Regular bun ⟨now, .message socket raw⟩)
    (stepped : Bun.step deployment bun ⟨now, .message socket raw⟩ = some next) :
    ∃ reply after, Handles deployment worker ⟨now, .message socket raw⟩ reply after ∧
      Alike deployment.crypto next after ∧ Agree ⟨now, .message socket raw⟩ next.wire reply := by
  have known : worker.control.sockets = bun.sockets := (congrArg ControlState.sockets alike.tables :)
  have shape : Bun.step deployment bun ⟨now, .message socket raw⟩ = if bun.sockets.contains socket then
      some ((Bun.message (Bun.context deployment now) socket raw.content).finish bun.quiet) else none := rfl
  have follows : step deployment worker ⟨now, fun _ => false, .client (.message socket raw)⟩ =
      if worker.control.sockets.contains socket then
        some ((admitMessage (calm deployment now) socket raw).finish { worker with control := worker.control.quiet })
      else none := rfl
  rw [known, alike.tables] at follows
  have taken := stepped
  rw [shape] at taken
  split at taken
  · rename_i present
    rw [if_pos present] at follows
    obtain rfl := Option.some.inj taken
    refine Completes.handled alike stepped follows ?_
    by_cases live : bun.Live socket
    · obtain ⟨small, plain⟩ := regular live
      have room := @Alike.room deployment socket worker bun raw.bytes alike small.2
      rw [alike.tables] at room
      exact @admitMessage_completes deployment now socket { worker with control := bun.quiet } raw alike.idle alike.empty rfl
        (alike.wellkept.aside quiet_aside) live small room plain
    · have flag : (bun.data socket).closed = true := by simpa [Live] using live
      have ignored : (admitMessage (calm deployment now) socket raw).finish { worker with control := bun.quiet } =
          { worker with control := bun.quiet } := by
        rw [Handler.finish, admitMessage, Handler.read_bind]
        change ((if (bun.data socket).closed then (pure ⟨⟩ : WorkerHandler PUnit) else _) _).2 = _
        rw [flag, if_pos rfl]
        rfl
      have quiet : ¬ bun.quiet.Live socket := live
      rw [Bun.message_ignored quiet, ignored]
      exact completes_idle alike.idle alike.empty .refl
  · cases taken

theorem simulates_close {bun next : ControlState} (alike : Alike deployment.crypto bun worker)
    (stepped : Bun.step deployment bun ⟨now, .close socket⟩ = some next) :
    ∃ reply after, Handles deployment worker ⟨now, .close socket⟩ reply after ∧
      Alike deployment.crypto next after ∧ Agree ⟨now, .close socket⟩ next.wire reply := by
  have known : worker.control.sockets = bun.sockets := (congrArg ControlState.sockets alike.tables :)
  have shape : Bun.step deployment bun ⟨now, .close socket⟩ = if bun.sockets.contains socket then
      some ((Bun.closeClient (Bun.context deployment now) socket).finish bun.quiet) else none := rfl
  have follows : step deployment worker ⟨now, fun _ => false, .client (.close socket)⟩ =
      if worker.control.sockets.contains socket then
        some ((closed (calm deployment now) socket).finish { worker with control := worker.control.quiet })
      else none := rfl
  rw [known, alike.tables] at follows
  have taken := stepped
  rw [shape] at taken
  split at taken
  · rename_i present
    rw [if_pos present] at follows
    have ended : handleClose (calm deployment now) socket { worker with control := bun.quiet } =
        (.ok ⟨⟩, { worker with control := next }) := by
      by_cases live : bun.quiet.Live socket
      · have closing := @Bun.closeClient_apply (Bun.context deployment now) bun.quiet socket live fun _ _ _ _ _ => rfl
        rw [Handler.finish, closing] at taken
        obtain rfl := Option.some.inj taken
        exact @handleClose_idle deployment now socket { worker with control := bun.quiet } alike.empty live
      · rw [Bun.closeClient_ignored live] at taken
        obtain rfl := Option.some.inj taken
        exact handleClose_ignored live
    have reached : (closed (calm deployment now) socket).finish { worker with control := bun.quiet } =
        { worker with control := next.put (.closed socket 1000) } := by
      rw [Handler.finish, closed, Handler.bind_apply, ended]
      rfl
    rw [reached] at follows
    have stops : resumed deployment now { worker with control := next.put (.closed socket 1000) } = none := by
      change worker.stage.map _ = none
      rw [alike.idle]
      rfl
    refine ⟨_, _, ⟨_, [], follows, .idle stops, rfl⟩, ?_, fun client another => ?_⟩
    · exact ⟨rfl, alike.idle, alike.empty, step_kept alike.kept follows, Bun.step_wellkept alike.wellkept stepped⟩
    · have others : ¬ socket = client := fun same => another socket rfl same.symm
      change received client (next.wire ++ [.closed socket 1000] ++ []) = _
      simp [received, Output.receiver, others]
  · cases taken

end Worker

/-- Where the queue is drained after every event, the Worker handles it like the Bun server. -/
theorem Worker.simulates : Simulates (Bun.step deployment) Regular ControlState.wire (Worker.Handles deployment)
    (Worker.Alike deployment.crypto) Worker.Agree := by
  rintro bun worker ⟨now, event⟩ next alike regular stepped
  cases event with
  | connect socket ip challengeId challenge => exact Worker.simulates_connect alike stepped
  | message socket raw => exact Worker.simulates_message alike regular stepped
  | close socket => exact Worker.simulates_close alike stepped

end MeshTalk.Control
