import MeshTalk.Control.Consistent

namespace MeshTalk.Control

open MeshTalk.Library ControlState

/-! # What is charged to the rate limits

Only `checkRateLimit` touches the counters of the messages, so an event changes them
by the charge for its message or not at all.
-/

namespace ControlState

/-- The counters are as they were, and no client is forgotten. -/
structure Untouched (before after : ControlState) : Prop where
  limits : ∀ socket, before.sockets.contains socket = true →
    (after.data socket).toRateLimit = (before.data socket).toRateLimit
  addresses : after.rateLimitsByIp = before.rateLimitsByIp
  known : ∀ socket, before.sockets.contains socket = true → after.sockets.contains socket = true

variable {before middle after control : ControlState} {socket : Socket} {update : ClientData → ClientData}

theorem Untouched.refl : Untouched control control := ⟨fun _ _ => rfl, rfl, fun _ => id⟩

theorem Untouched.trans (first : Untouched before middle) (second : Untouched middle after) : Untouched before after where
  limits := fun socket present => (second.limits socket (first.known socket present)).trans (first.limits socket present)
  addresses := second.addresses.trans first.addresses
  known := fun socket present => second.known socket (first.known socket present)

/-- An update of one client that keeps its counters. -/
theorem Untouched.modify (limit : (update (control.data socket)).toRateLimit = (control.data socket).toRateLimit) :
    Untouched control (control.modify socket update) where
  limits := by
    intro other _
    rw [data_modify]
    split
    · rename_i own
      rw [limit, own]
    · rfl
  addresses := rfl
  known := fun _ => modify_known

/-- Updates of other tables. -/
theorem Untouched.of (sockets : after.sockets = before.sockets) (addresses : after.rateLimitsByIp = before.rateLimitsByIp) :
    Untouched before after where
  limits := fun socket _ => by rw [data, sockets, data]
  addresses := addresses
  known := fun socket present => by rwa [sockets]

theorem Untouched.then {last : ControlState} (first : Untouched before middle) (sockets : last.sockets = middle.sockets)
    (addresses : last.rateLimitsByIp = middle.rateLimitsByIp) : Untouched before last :=
  first.trans (.of sockets addresses)

end ControlState

/-! ## Handlers that leave the counters alone -/

section Spares

/-- Whatever the handler does, the counters stay as they are. -/
def Spares (handler : ControlHandler α) : Prop := ∀ before, Handler.Keeps (Untouched before) handler

variable {context : Context} {socket member : Socket} {roomId : RoomId} {control : ControlState} {peerId recipientId : PeerId}

theorem Spares.pure {value : α} : Spares (Pure.pure value) := fun _ => Handler.Keeps.pure

theorem Spares.raise {text : String} : Spares (Handler.raise text : ControlHandler α) := fun _ => Handler.Keeps.raise

theorem Spares.bind {first : ControlHandler α} {next : α → ControlHandler β} (leading : Spares first)
    (following : ∀ value, Spares (next value)) : Spares (first >>= next) :=
  fun before => (leading before).bind fun value => following value before

theorem Spares.read {next : ControlState → ControlHandler α} (following : ∀ seen, Spares (next seen)) :
    Spares (Handler.read >>= next) :=
  fun before => Handler.Keeps.read fun seen _ => following seen before

theorem Spares.change {update : ControlState → ControlState} (untouched : ∀ control, Untouched control (update control)) :
    Spares (Handler.change update) :=
  fun _ => Handler.Keeps.change fun control held => held.trans (untouched control)

theorem Spares.refuse {condition : Prop} [Decidable condition] {text : String} :
    Spares (Handler.refuse condition text) := fun _ => Handler.Keeps.refuse

theorem Spares.orRaise {value : Option α} {text : String} : Spares (Handler.orRaise value text) :=
  fun _ => Handler.Keeps.orRaise

theorem Spares.forEach {items : List α} {body : α → ControlHandler PUnit} (each : ∀ item, Spares (body item)) :
    Spares (Handler.forEach items body) :=
  fun before => Handler.Ensures.forEach fun item _ => each item before

theorem Spares.ite {condition : Prop} [Decidable condition] {accepted rejected : ControlHandler α}
    (whenTrue : Spares accepted) (whenFalse : Spares rejected) : Spares (if condition then accepted else rejected) := by
  split
  · exact whenTrue
  · exact whenFalse

theorem send_spares {frame : Frame} : Spares (send context socket frame) :=
  .ite .raise (.change fun _ => .of rfl rfl)

theorem broadcastRoom_spares {frame : Frame} {except : Option Socket} : Spares (broadcastRoom context roomId frame except) :=
  .read fun _ => .forEach fun _ => .ite .pure send_spares

theorem refreshRoom_spares : Spares (refreshRoom context roomId) := by
  refine .read fun control => ?_
  split
  · exact .pure
  · exact broadcastRoom_spares

theorem leaveRoom_spares : Spares (leaveRoom context socket roomId) := by
  refine .read fun control => ?_
  split
  · exact .pure
  · rename_i room _
    refine .bind (.change fun control => ?_) fun _ => .ite (.change fun _ => .of rfl rfl) refreshRoom_spares
    exact (Untouched.modify rfl : Untouched control (control.modify socket fun data => data.without roomId)).then rfl rfl

theorem joinRoom_spares {roomAuth : Text} : Spares (joinRoom context socket roomId roomAuth) := by
  have obtaining : Spares (obtainRoom roomId roomAuth) := by
    refine .read fun control => ?_
    split
    · exact .pure
    · exact .bind .refuse fun _ => .bind (.change fun _ => .of rfl rfl) fun _ => .pure
  have replaying : ∀ member, Spares (replaySignal context socket roomId member) := by
    refine fun member => .read fun control => ?_
    split
    · exact .ite .pure send_spares
    · exact .pure
  refine .bind .refuse fun _ => .read fun control => .ite .pure (.bind .refuse fun _ => .bind obtaining fun room => ?_)
  refine .bind .refuse fun _ => .bind .refuse fun _ => .bind (.forEach replaying) fun _ => .bind (.change fun control => ?_) fun _ =>
    .bind send_spares fun _ => refreshRoom_spares
  exact (Untouched.modify rfl : Untouched control (control.modify socket fun data => data.within roomId)).then rfl rfl

theorem signalRoom_spares {payload : Text} : Spares (signalRoom context socket roomId payload) := by
  refine .read fun control => .bind .refuse fun _ => .bind .refuse fun _ => .bind .refuse fun _ =>
    .bind (.change fun control => ?_) fun _ => broadcastRoom_spares
  exact (Untouched.modify rfl : Untouched control (control.modify socket fun data => data.signalling roomId payload)).then rfl rfl

theorem fetchPeers_spares : Spares (fetchPeers context socket roomId) := by
  refine .read fun control => .bind .refuse fun _ => ?_
  split
  · exact .pure
  · exact send_spares

theorem checkRelayRateLimit_spares : Spares (checkRelayRateLimit context socket) := by
  refine .bind (.change fun control => .modify ?_) fun _ => .read fun _ => .refuse
  split
  · rfl
  · rfl

theorem reserveRelayBandwidth_spares {bytes : Nat} : Spares (reserveRelayBandwidth context peerId recipientId bytes) := by
  have refilling : ∀ device, Spares (refillDevice context device) := fun device =>
    .read fun _ => .bind .orRaise fun _ => .bind (.change fun _ => .of rfl rfl) fun _ => .pure
  refine .bind (refilling peerId) fun _ => .bind (refilling recipientId) fun _ => .bind (.change fun _ => .of rfl rfl) fun _ =>
    .ite .pure (.ite .pure ?_)
  exact .bind (.change fun _ => .of rfl rfl) fun _ => .bind (.change fun _ => .of rfl rfl) fun _ => .pure

theorem relayDatagram_spares {payload : Text} : Spares (relayDatagram context socket recipientId payload) := by
  refine .bind .refuse fun _ => .read fun control => ?_
  split
  · exact .raise
  · refine .bind .refuse fun _ => .bind .orRaise fun _ => .bind .refuse fun _ => .ite send_spares ?_
    split
    · exact send_spares
    · exact .bind reserveRelayBandwidth_spares fun granted => .ite send_spares send_spares

theorem readRegistration_spares {message : ControlMessage} : Spares (readRegistration context socket message) :=
  .read fun _ => .bind .orRaise fun _ => .bind .refuse fun _ => .bind .refuse fun _ => .pure

theorem checkSignature_spares {signed : SignedRegistration} : Spares (checkSignature context signed) := by
  unfold checkSignature
  split
  · exact .raise
  · exact .refuse

theorem takeIdentity_spares : Spares (takeIdentity socket peerId) := by
  refine .read fun control => .bind (.change fun control => ?_) fun _ => .pure
  exact (Untouched.modify rfl : Untouched control (control.modify socket fun data => data.registered peerId)).then rfl rfl

theorem confirmRegistration_spares : Spares (confirmRegistration context socket peerId) := by
  refine .bind (.change fun control => ?_) fun _ => send_spares
  unfold ensureDeviceLimit
  split
  · exact .refl
  · exact .of rfl rfl

theorem detach_spares : Spares (detach context socket) := by
  refine .bind (.change fun control => ?_) fun _ => .read fun _ => .forEach fun _ => leaveRoom_spares
  have forgotten : Untouched control (control.forgetDevice socket) := by
    unfold forgetDevice
    split
    · exact .refl
    · split
      · exact .of rfl rfl
      · exact .refl
  exact forgotten.then rfl rfl

theorem handleRoomMessage_spares {message : ControlMessage} : Spares (handleRoomMessage context socket message) := by
  unfold handleRoomMessage
  split
  · exact joinRoom_spares
  · exact leaveRoom_spares
  · exact signalRoom_spares
  · exact fetchPeers_spares
  · exact .raise

theorem Spares.ensuring {handler : ControlHandler α} {last : ControlHandler PUnit} (spares : Spares handler) (ends : Spares last) :
    Spares (handler.ensuring last) :=
  fun before => (spares before).ensuring (ends before)

/-- What is left when an escape is caught. -/
theorem Spares.caught {handler : ControlHandler α} {rescue : String → ControlHandler α} {before : ControlState}
    (rescues : ∀ text, Spares (rescue text)) (held : Untouched before (handler.finish control)) :
    Untouched before ((handler.recover rescue).finish control) := by
  rw [Handler.finish] at held
  rw [Handler.finish, Handler.recover]
  rcases ran : handler control with ⟨outcome, final⟩
  rw [ran] at held
  cases outcome with
  | error text => exact ((rescues text) before).finish held
  | ok value => exact held

end Spares

/-! ## The messages that are counted -/

/-- A message that the limits are charged for: its connection and its type. -/
structure Charge where
  socket : Socket
  type : MessageType

/-- The tables after `checkRateLimit`, where there is something to charge. -/
def ControlState.charged (context : Context) (control : ControlState) : Option Charge → ControlState
  | none => control
  | some charge => (checkRateLimit context charge.socket charge.type).finish control

section

variable {context : Context} {socket : Socket} {control : ControlState} {message : ControlMessage} {type : MessageType}

/-- Nothing is counted after the charge. -/
theorem Spares.charged {next : PUnit → ControlHandler α} (spares : ∀ value, Spares (next value)) :
    Untouched (control.charged context (some ⟨socket, type⟩)) ((checkRateLimit context socket type >>= next).finish control) := by
  rw [Handler.finish, Handler.bind_apply, ControlState.charged, Handler.finish]
  rcases checkRateLimit context socket type control with ⟨outcome, middle⟩
  cases outcome with
  | error text => exact .refl
  | ok value => exact (spares value middle).finish .refl

namespace Bun

/-- A frame for the relay has a limit of its own, and an unregistered client is rejected first. -/
def chargeFor (control : ControlState) (socket : Socket) (message : ControlMessage) : Option Charge :=
  if message.type = .deviceRegister then some ⟨socket, message.type⟩
  else if (control.data socket).peerId = none then none
  else match message.relayed? with
    | some _ => none
    | none => some ⟨socket, message.type⟩

def charge (control : ControlState) (turn : Turn) : Option Charge :=
  match turn.event with
  | .message socket raw =>
      if (control.data socket).closed then none
      else match raw.content with
        | .malformed => none
        | .null => none
        | .bare => chargeFor control socket { type := .other }
        | .object message => chargeFor control socket message
  | _ => none

theorem closeClient_spares : Spares (closeClient context socket) :=
  .read fun _ => .ite .pure (.bind (.change fun _ => .modify rfl) fun _ => detach_spares)

theorem registerDevice_spares : Spares (registerDevice context socket message) := by
  refine .bind readRegistration_spares fun _ => .bind .refuse fun _ => .bind checkSignature_spares fun _ =>
    .bind takeIdentity_spares fun previous => .bind ?_ fun _ => confirmRegistration_spares
  cases previous with
  | none => exact .pure
  | some previous => exact .bind closeClient_spares fun _ => .change fun _ => .of rfl rfl

theorem rejectClient_spares {text : String} : Spares (rejectClient context socket text) :=
  .ensuring send_spares (.bind closeClient_spares fun _ => .change fun _ => .of rfl rfl)

theorem handleMessage_charged : Untouched (control.charged context (chargeFor control socket message))
    ((handleMessage context socket message).finish control) := by
  unfold chargeFor handleMessage
  by_cases registering : message.type = .deviceRegister
  · rw [if_pos registering, if_pos registering]
    exact Spares.charged fun _ => registerDevice_spares
  · rw [if_neg registering, if_neg registering, Handler.finish, Handler.read_bind]
    by_cases unknown : (control.data socket).peerId = none
    · rw [if_pos unknown, Handler.bind_refuse_of unknown]
      exact .refl
    · rw [if_neg unknown, Handler.bind_refuse_of_not unknown]
      cases message.relayed? with
      | some target =>
          exact (Spares.bind checkRelayRateLimit_spares fun _ => relayDatagram_spares) control |>.finish .refl
      | none => exact Spares.charged fun _ => handleRoomMessage_spares

theorem message_charged {raw : Raw} {now : Int} :
    Untouched (control.charged context (charge control ⟨now, .message socket raw⟩)) ((Bun.message context socket raw.content).finish control) := by
  unfold charge
  dsimp only
  cases closed : (control.data socket).closed with
  | true =>
      have gone : ¬ control.Live socket := by
        intro live
        rw [Live, closed] at live
        cases live
      rw [message_ignored gone]
      exact .refl
  | false =>
      have caught : (Bun.message context socket raw.content).finish control =
          ((handleParsed context socket raw.content).recover (rejectClient context socket)).finish control := by
        rw [Handler.finish, Bun.message, Handler.read_bind, closed]
        rfl
      rw [caught, if_neg Bool.false_ne_true]
      refine Spares.caught (fun _ => rejectClient_spares) ?_
      cases raw.content with
      | malformed => exact .refl
      | null => exact .refl
      | bare => exact handleMessage_charged
      | object message => exact handleMessage_charged

theorem openClient_untouched {ip : Address} {challengeId challenge : Text} (unknown : control.sockets.contains socket = false) :
    Untouched control ((openClient context socket ip challengeId challenge).finish control) := by
  have added : Untouched control (control.addClient socket (openedClient ip context.now challengeId challenge)) := by
    refine ⟨fun other present => ?_, rfl, fun other present => ?_⟩
    · have another : other ≠ socket := by
        rintro rfl
        rw [present] at unknown
        cases unknown
      rw [ControlState.data, addClient, Dict.get?_set, if_neg another, ControlState.data]
    · rw [Dict.contains, addClient, Dict.get?_set]
      split
      · rfl
      · exact present
  exact (send_spares control).finish added

/-- An event changes the counters by the charge for its message. -/
theorem step_charged {deployment : Deployment} {turn : Turn} {next : ControlState}
    (stepped : step deployment control turn = some next) :
    Untouched (control.quiet.charged (Bun.context deployment turn.now) (charge control turn)) next := by
  obtain ⟨now, event⟩ := turn
  cases event with
  | connect socket ip challengeId challenge =>
      change (if control.sockets.contains socket = true then none
        else if control.admits ip then
          some ((openClient (Bun.context deployment now) socket ip challengeId challenge).finish control.quiet)
        else some control.quiet) = some next at stepped
      split at stepped
      · cases stepped
      · rename_i unknown
        split at stepped
        · cases stepped
          exact openClient_untouched (Bool.eq_false_iff.mpr unknown)
        · cases stepped
          exact .refl
  | message socket raw =>
      change (if control.sockets.contains socket = true then
        some ((Bun.message (Bun.context deployment now) socket raw.content).finish control.quiet) else none) = some next at stepped
      split at stepped
      · cases stepped
        exact @message_charged _ socket control.quiet raw now
      · cases stepped
  | close socket =>
      change (if control.sockets.contains socket = true then
        some ((closeClient (Bun.context deployment now) socket).finish control.quiet) else none) = some next at stepped
      split at stepped
      · cases stepped
        exact (closeClient_spares control.quiet).finish .refl
      · cases stepped

end Bun

namespace Worker

/-- The limits are charged on arrival, before a message is queued. -/
def charge (worker : WorkerState) (turn : WorkerTurn) : Option Charge :=
  match turn.event with
  | .client (.message socket raw) =>
      if (worker.data socket).closed ∨ maxControlMessageBytes < raw.length ∨ maxControlMessageBytes < raw.bytes ∨
        worker.full socket raw.bytes then none
      else match raw.content with
        | .object message =>
            match message.relayed? with
            | some _ => none
            | none => some ⟨socket, message.type⟩
        | _ => none
  | _ => none

/-- Whatever the handler does, the counters stay as they are. -/
def Spares (handler : WorkerHandler α) : Prop :=
  ∀ before, Handler.Keeps (fun worker => Untouched before worker.control) handler

variable {worker : WorkerState} {entry : Pending} {text : String}

theorem onControl_spares {handler : ControlHandler α} (spares : Control.Spares handler) : Spares (onControl handler) := by
  intro before worker held
  have kept := spares before worker.control held
  rw [onControl_apply]
  rcases ran : handler worker.control with ⟨outcome, control⟩
  rw [ran] at kept
  cases outcome with
  | error text => exact kept
  | ok value => exact kept

theorem Spares.pure {value : α} : Spares (Pure.pure value) := fun _ => Handler.Keeps.pure

theorem Spares.bind {first : WorkerHandler α} {next : α → WorkerHandler β} (leading : Spares first)
    (following : ∀ value, Spares (next value)) : Spares (first >>= next) :=
  fun before => (leading before).bind fun value => following value before

theorem Spares.read {next : WorkerState → WorkerHandler α} (following : ∀ seen, Spares (next seen)) :
    Spares (Handler.read >>= next) :=
  fun before => Handler.Keeps.read fun seen _ => following seen before

theorem Spares.change {update : WorkerState → WorkerState}
    (untouched : ∀ worker, Untouched worker.control (update worker).control) : Spares (Handler.change update) :=
  fun _ => Handler.Keeps.change fun worker held => held.trans (untouched worker)

theorem Spares.recover {handler : WorkerHandler α} {rescue : String → WorkerHandler α} (spares : Spares handler)
    (rescues : ∀ text, Spares (rescue text)) : Spares (handler.recover rescue) :=
  fun before => (spares before).recover fun text => rescues text before

theorem releasePending_spares : Spares (releasePending entry) :=
  .bind (.change fun _ => .refl) fun _ => .read fun _ => .bind (fun _ => Handler.Keeps.orRaise) fun _ => .change fun _ => .refl

theorem handleClose_spares : Spares (handleClose context socket) := by
  refine .read fun worker => ?_
  split
  · exact .pure
  · refine .bind (.change fun _ => .modify rfl) fun _ => .bind ?_ fun _ => .bind (.change fun _ => .refl) fun _ =>
      onControl_spares detach_spares
    exact fun before => Handler.Ensures.forEach fun _ _ => releasePending_spares before

theorem putClosed_spares {code : Nat} : Spares (putClosed socket code) := .change fun _ => .of rfl rfl

theorem rejectClient_spares : Spares (rejectClient context socket text) :=
  .bind handleClose_spares fun _ => .bind (.recover (onControl_spares send_spares) fun _ => .pure) fun _ => putClosed_spares

theorem commitRegistration_spares {peerId : PeerId} : Spares (commitRegistration context socket peerId) := by
  refine .read fun worker => ?_
  split
  · exact .pure
  · refine .bind (onControl_spares takeIdentity_spares) fun previous => .bind ?_ fun _ =>
      onControl_spares confirmRegistration_spares
    cases previous with
    | none => exact .pure
    | some previous => exact .bind handleClose_spares fun _ => putClosed_spares

theorem handleRegistered_spares : Control.Spares (handleRegistered context socket message) := by
  refine .read fun control => .bind .refuse fun _ => ?_
  split
  · exact relayDatagram_spares
  · exact handleRoomMessage_spares

theorem handling_spares {body : WorkerHandler Stage} (spares : Spares body) : Spares (handling context entry body) := by
  have caught : Spares (body.recover fun text => do
      rejectClient context entry.socket text
      pure (.handled entry none)) := spares.recover fun _ => .bind rejectClient_spares fun _ => .pure
  intro before worker held
  have kept := caught before worker held
  unfold handling
  rcases ran : body.recover (fun text => do
      rejectClient context entry.socket text
      pure (.handled entry none)) worker with ⟨outcome, next⟩
  rw [ran] at kept
  cases outcome with
  | error text => exact kept
  | ok stage => exact kept

theorem nextMessage_spares : Spares (nextMessage context) := by
  refine .read fun worker => ?_
  split
  · exact .change fun _ => .refl
  · refine .bind (.change fun _ => .refl) fun _ => handling_spares (.read fun worker => ?_)
    split
    · exact .pure
    · split
      · exact .bind (onControl_spares readRegistration_spares) fun _ => .pure
      · exact .bind (onControl_spares handleRegistered_spares) fun _ => .pure

theorem drainQueue_spares : Spares (drainQueue context) := by
  refine .read fun worker => ?_
  split
  · exact .pure
  · exact nextMessage_spares

theorem resume_spares {stage : Stage} : Spares (resume context stage) := by
  cases stage with
  | hashing entry signed => exact handling_spares (.bind (onControl_spares .refuse) fun _ => .pure)
  | verifying entry signed =>
      exact handling_spares (.bind (onControl_spares checkSignature_spares) fun _ => .bind commitRegistration_spares fun _ => .pure)
  | handled entry failure =>
      intro before
      refine Handler.Keeps.onRaise ?_ fun _ held => held
      refine Handler.Keeps.bind (Handler.Keeps.ensuring ?_ (releasePending_spares before)) fun _ => nextMessage_spares before
      cases failure with
      | some text => exact rejectClient_spares before
      | none => exact Handler.Keeps.pure

theorem Spares.finish {handler : WorkerHandler α} {before : ControlState} (spares : Spares handler)
    (held : Untouched before worker.control) : Untouched before (handler.finish worker).control :=
  Handler.Keeps.finish (spares before) held

theorem Spares.caught {handler : WorkerHandler α} {rescue : String → WorkerHandler α} {before : ControlState}
    (rescues : ∀ text, Spares (rescue text)) (held : Untouched before (handler.finish worker).control) :
    Untouched before ((handler.recover rescue).finish worker).control := by
  rw [Handler.finish] at held
  rw [Handler.finish, Handler.recover]
  rcases ran : handler worker with ⟨outcome, final⟩
  rw [ran] at held
  cases outcome with
  | error text => exact (rescues text).finish held
  | ok value => exact held

theorem admitParsed_charged {raw : Raw} : Untouched (worker.control.charged context
    (match raw.content with
      | .object message =>
          match message.relayed? with
          | some _ => none
          | none => some ⟨socket, message.type⟩
      | _ => none)) ((admitParsed context socket raw).finish worker).control := by
  unfold admitParsed
  cases raw.content with
  | malformed => exact .refl
  | null => exact .refl
  | bare => exact .refl
  | object message =>
      have queues : Spares (do
          Handler.change fun worker => worker.enqueue ⟨socket, message, raw.bytes⟩
          drainQueue context : WorkerHandler PUnit) := .bind (.change fun _ => .refl) fun _ => drainQueue_spares
      dsimp only
      cases message.relayed? with
      | some target => exact (Spares.bind (onControl_spares checkRelayRateLimit_spares) fun _ => queues).finish .refl
      | none =>
          dsimp only
          rw [Handler.finish, Handler.bind_apply, onControl_apply, ControlState.charged, Handler.finish]
          rcases checkRateLimit context socket message.type worker.control with ⟨outcome, middle⟩
          cases outcome with
          | error text => exact .refl
          | ok value => exact queues.finish .refl

theorem admitMessage_charged {raw : Raw} {now : Int} {failing : Socket → Bool} :
    Untouched (worker.control.charged context (charge worker ⟨now, failing, .client (.message socket raw)⟩))
      ((admitMessage context socket raw).finish worker).control := by
  unfold charge
  dsimp only
  rw [admitMessage, Handler.finish, Handler.read_bind]
  by_cases closed : (worker.data socket).closed = true
  · rw [if_pos (.inl closed), if_pos closed]
    exact .refl
  · rw [if_neg closed]
    refine Spares.caught (fun _ => rejectClient_spares) ?_
    rw [admitChecked, Handler.finish]
    by_cases long : maxControlMessageBytes < raw.length
    · rw [if_pos (.inr (.inl long)), Handler.bind_refuse_of long]
      exact .refl
    rw [Handler.bind_refuse_of_not long]
    by_cases large : maxControlMessageBytes < raw.bytes
    · rw [if_pos (.inr (.inr (.inl large))), Handler.bind_refuse_of large]
      exact .refl
    rw [Handler.bind_refuse_of_not large, Handler.read_bind]
    by_cases full : worker.full socket raw.bytes
    · rw [if_pos (.inr (.inr (.inr full))), Handler.bind_refuse_of full]
      exact .refl
    rw [Handler.bind_refuse_of_not full, if_neg (not_or.mpr ⟨closed, not_or.mpr ⟨long, not_or.mpr ⟨large, full⟩⟩⟩)]
    exact admitParsed_charged

/-- An event changes the counters by the charge for its message. -/
theorem step_charged {deployment : Deployment} {turn : WorkerTurn} {next : WorkerState}
    (stepped : step deployment worker turn = some next) :
    Untouched (worker.control.quiet.charged (Worker.context deployment turn.now turn.failing) (charge worker turn)) next.control := by
  obtain ⟨now, failing, event⟩ := turn
  cases event with
  | client event =>
      cases event with
      | connect socket ip challengeId challenge =>
          change (if worker.control.sockets.contains socket = true then none
            else if worker.control.admits ip then
              some ((onControl (openClient (Worker.context deployment now failing) socket ip challengeId challenge)).finish
                { worker with control := worker.control.quiet })
            else some { worker with control := worker.control.quiet }) = some next at stepped
          split at stepped
          · cases stepped
          · rename_i unknown
            split at stepped
            · cases stepped
              exact Bun.openClient_untouched (Bool.eq_false_iff.mpr unknown)
            · cases stepped
              exact .refl
      | message socket raw =>
          change (if worker.control.sockets.contains socket = true then
            some ((admitMessage (Worker.context deployment now failing) socket raw).finish
              { worker with control := worker.control.quiet }) else none) = some next at stepped
          split at stepped
          · cases stepped
            exact @admitMessage_charged _ socket { worker with control := worker.control.quiet } raw now failing
          · cases stepped
      | close socket =>
          change (if worker.control.sockets.contains socket = true then
            some ((closed (Worker.context deployment now failing) socket).finish
              { worker with control := worker.control.quiet }) else none) = some next at stepped
          split at stepped
          · cases stepped
            exact Spares.finish (.bind handleClose_spares fun _ => putClosed_spares) .refl
          · cases stepped
  | error socket =>
      change (if worker.control.sockets.contains socket = true then
        some ((rejectClient (Worker.context deployment now failing) socket "WebSocket error").finish
          { worker with control := worker.control.quiet }) else none) = some next at stepped
      split at stepped
      · cases stepped
        exact rejectClient_spares.finish .refl
      · cases stepped
  | resume =>
      obtain ⟨stage, waits, rfl⟩ := Option.map_eq_some_iff.mp stepped
      exact resume_spares.finish .refl

end Worker

end

end MeshTalk.Control
