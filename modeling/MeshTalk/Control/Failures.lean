import MeshTalk.Control.Reactions

namespace MeshTalk.Control

open MeshTalk.Library ControlState

/-! # Sends that raise

A `send` of the Worker may raise for any client, and what escapes from a loop over
the members of a room is not sent to the rest of them.  The tables are followed
here up to the point where a handler stops.
-/

namespace ControlState

/-- What holds of the tables whether or not handlers are cut short. -/
structure Sound (control : ControlState) : Prop extends Linked control, Registered control

theorem empty_sound : Sound empty := ⟨empty_wellkept.toLinked, empty_wellkept.toRegistered⟩

end ControlState

/-- A part of a handler that neither registers a device nor closes a client. -/
structure Follows (before after : ControlState) : Prop where
  sound : Sound before → Sound after
  kin : Kin before after
  devices : ∀ socket, (after.data socket).peerId = (before.data socket).peerId
  closed : ∀ socket, before.sockets.contains socket = true → (after.data socket).closed = (before.data socket).closed

section

variable {context : Context} {control : ControlState} {socket other : Socket} {roomId : RoomId} {frame : Frame}
  {roomAuth payload : Text} {outputs : List Output} {allowed : Output → Prop}

namespace Follows

theorem trans {before middle after : ControlState} (first : Follows before middle) (second : Follows middle after) :
    Follows before after where
  sound := fun sound => second.sound (first.sound sound)
  kin := first.kin.trans second.kin
  devices := fun socket => (second.devices socket).trans (first.devices socket)
  closed := fun socket held => (second.closed socket (first.kin.known socket held)).trans (first.closed socket held)

theorem aside {after : ControlState} (aside : Aside control after) : Follows control after where
  sound := fun sound => ⟨sound.toLinked.same aside.toSameRooms, sound.toRegistered.same aside.toSameClients⟩
  kin := kin_of aside.toSameClients
  devices := aside.peerId
  closed := fun socket _ => aside.closed socket

theorem refl : Follows control control := .aside .refl

theorem putAll : Follows control (control.putAll outputs) := .aside aside_putAll

theorem of {after : ControlState} (same : SameClients control after) (linked : Linked control → Linked after) :
    Follows control after where
  sound := fun sound => ⟨linked sound.toLinked, sound.toRegistered.same same⟩
  kin := kin_of same
  devices := same.peerId
  closed := fun socket _ => same.closed socket

theorem leave : Follows control (control.leave socket roomId) := .of sameClients_leave Linked.leave

theorem leaveAll {roomIds : List RoomId} : Follows control (control.leaveAll socket roomIds) :=
  .of sameClients_leaveAll Linked.leaveAll

theorem join (outside : roomId ∉ (control.data socket).rooms) (authorized : isRoomAuth roomAuth = true) :
    Follows control (control.join socket roomId roomAuth) :=
  .of sameClients_join fun linked => linked.join outside authorized

theorem retain (inside : roomId ∈ (control.data socket).rooms)
    (fits : control.retainedBytes - control.signalLength socket roomId + payload.length ≤ maxRetainedBytes) :
    Follows control (control.retain socket roomId payload) :=
  .of sameClients_retain fun linked => linked.retain inside fits

end Follows

/-! ## Handlers that only send -/

/-- Frames are sent up to the first `send` that raises. -/
def Speaks (control : ControlState) (allowed : Output → Prop) (handler : ControlHandler α) : Prop :=
  ∀ earlier, ∃ outputs, (∀ output ∈ outputs, allowed output) ∧
    (handler (control.putAll earlier)).2 = control.putAll (earlier ++ outputs)

namespace Speaks

theorem pure {value : α} : Speaks control allowed (Pure.pure value : ControlHandler α) :=
  fun _ => ⟨[], nofun, by simp⟩

theorem send (permitted : allowed (.sent socket frame)) : Speaks control allowed (send context socket frame) := by
  intro earlier
  cases raises : context.failing socket with
  | false =>
      refine ⟨[.sent socket frame], by simpa using permitted, ?_⟩
      rw [send_apply raises, putAll_putAll]
  | true =>
      refine ⟨[], nofun, ?_⟩
      simp only [Control.send, raises, if_true, List.append_nil]
      rfl

theorem bind {first : ControlHandler α} {next : α → ControlHandler β} (leading : Speaks control allowed first)
    (following : ∀ value, Speaks control allowed (next value)) : Speaks control allowed (first >>= next) := by
  intro earlier
  obtain ⟨outputs, permitted, reached⟩ := leading earlier
  rw [Handler.bind_apply]
  rcases ran : first (control.putAll earlier) with ⟨outcome, middle⟩
  rw [ran] at reached
  dsimp only at reached
  cases outcome with
  | error text => exact ⟨outputs, permitted, reached⟩
  | ok value =>
      obtain ⟨more, further, finished⟩ := following value (earlier ++ outputs)
      refine ⟨outputs ++ more, ?_, ?_⟩
      · intro output member
        rcases List.mem_append.mp member with early | late
        · exact permitted output early
        · exact further output late
      · rw [← List.append_assoc, ← finished, reached]

theorem forEach {items : List α} {body : α → ControlHandler PUnit} (each : ∀ item ∈ items, Speaks control allowed (body item)) :
    Speaks control allowed (Handler.forEach items body) := by
  induction items with
  | nil => exact .pure
  | cons item rest ih =>
      refine (each item (List.mem_cons_self ..)).bind fun _ => ?_
      exact ih fun other member => each other (List.mem_cons_of_mem _ member)

/-- Reading does not see what has been sent. -/
theorem read {next : ControlState → ControlHandler α}
    (following : ∀ earlier, Speaks control allowed (next (control.putAll earlier))) :
    Speaks control allowed (Handler.read >>= next) :=
  fun earlier => following earlier earlier

theorem broadcastRoom {except : Option Socket}
    (permitted : ∀ member ∈ control.membersOf roomId, some member ≠ except → allowed (.sent member frame)) :
    Speaks control allowed (broadcastRoom context roomId frame except) := by
  refine .read fun earlier => .forEach fun member listed => ?_
  split
  · exact .pure
  · rename_i included
    exact .send (permitted member listed included)

theorem refreshRoom (permitted : ∀ output ∈ control.refreshes roomId, allowed output) :
    Speaks control allowed (refreshRoom context roomId) := by
  refine .read fun earlier => ?_
  rw [putAll_rooms]
  cases found : control.rooms.get? roomId with
  | none => exact .pure
  | some room =>
      refine .broadcastRoom fun member listed _ => permitted _ ?_
      rw [refreshes, ← membersOf_some found]
      exact List.mem_map_of_mem listed

theorem replaySignal (permitted : ∀ content, allowed (.sent socket (.signal roomId content))) :
    Speaks control allowed (replaySignal context socket roomId other) := by
  refine .read fun earlier => ?_
  split
  · split
    · exact .pure
    · exact .send (permitted _)
  · exact .pure

/-- The state a handler that only sends leaves. -/
theorem state {handler : ControlHandler α} (speaks : Speaks control allowed handler) :
    ∃ outputs, (∀ output ∈ outputs, allowed output) ∧ (handler control).2 = control.putAll outputs := by
  obtain ⟨outputs, permitted, reached⟩ := speaks []
  rw [putAll_nil, List.nil_append] at reached
  exact ⟨outputs, permitted, reached⟩

theorem follows {handler : ControlHandler α} (speaks : Speaks control allowed handler) : Follows control (handler control).2 := by
  obtain ⟨outputs, -, reached⟩ := speaks.state
  rw [reached]
  exact .putAll

end Speaks

/-! ## Leaving -/

/-- A client is out of a room before anything is sent. -/
theorem leaveRoom_state : ∃ outputs, (∀ output ∈ outputs, output ∈ (control.leave socket roomId).refreshes roomId) ∧
    (leaveRoom context socket roomId control).2 = (control.leave socket roomId).putAll outputs := by
  cases found : control.rooms.get? roomId with
  | none =>
      refine ⟨[], nofun, ?_⟩
      rw [leave_none found, putAll_nil, leaveRoom, Handler.read_bind, found]
      rfl
  | some room =>
      rw [leaveRoom, Handler.read_bind, found]
      dsimp only
      rw [Handler.change_bind]
      by_cases last : (room.members.filter fun member => member ≠ socket) = []
      · refine ⟨[], nofun, ?_⟩
        rw [if_pos last, putAll_nil, ControlState.leave, found]
        dsimp only
        rw [if_pos last]
        rfl
      · have stays : control.dropMember socket roomId room = control.leave socket roomId := by
          simp only [ControlState.leave, found, last, if_false]
        rw [if_neg last, stays]
        exact (Speaks.refreshRoom fun _ => id).state

/-- The rooms are left one after the other, up to the one whose members cannot be told. -/
theorem leaveRooms_state {roomIds : List RoomId} : ∃ done rest outputs, roomIds = done ++ rest ∧
    (∀ output ∈ outputs, output ∈ control.farewells socket roomIds) ∧
    (Handler.forEach roomIds (leaveRoom context socket) control).2 = (control.leaveAll socket done).putAll outputs ∧
    ((Handler.forEach roomIds (leaveRoom context socket) control).1 = .ok ⟨⟩ → rest = []) := by
  induction roomIds generalizing control with
  | nil => exact ⟨[], [], [], rfl, by rintro _ ⟨⟩, (putAll_nil).symm, fun _ => rfl⟩
  | cons roomId rest ih =>
      obtain ⟨outputs, told, left⟩ := @leaveRoom_state context control socket roomId
      rw [Handler.forEach, Handler.bind_apply]
      rcases ran : leaveRoom context socket roomId control with ⟨outcome, middle⟩
      rw [ran] at left
      dsimp only at left
      cases outcome with
      | error text =>
          refine ⟨[roomId], rest, outputs, rfl, ?_, left, by rintro ⟨⟩⟩
          exact fun output member => List.mem_append_left _ (told output member)
      | ok value =>
          obtain ⟨done, remaining, more, split, further, finished, completed⟩ := @ih middle
          subst left
          refine ⟨roomId :: done, remaining, outputs ++ more, by rw [split, List.cons_append], ?_, ?_, completed⟩
          · intro output member
            rcases List.mem_append.mp member with early | late
            · exact List.mem_append_left _ (told output early)
            · have later := further output late
              rw [putAll_farewells] at later
              exact List.mem_append_right _ later
          · rw [finished, putAll_leaveAll, putAll_putAll]
            rfl

/-- The clean-up of a client, whether or not its fellow members can be told. -/
theorem detach_state : ∃ done rest outputs, (control.data socket).rooms = done ++ rest ∧
    (∀ output ∈ outputs, control.IsFarewell socket output) ∧
    (detach context socket (control.markClosed socket)).2 = ((control.retire socket).leaveAll socket done).putAll outputs ∧
    ((detach context socket (control.markClosed socket)).1 = .ok ⟨⟩ → rest = []) := by
  have joined : ((control.retire socket).data socket).rooms = (control.data socket).rooms := sameRooms_retire.joined socket
  have reached : detach context socket (control.markClosed socket) =
      Handler.forEach (control.data socket).rooms (leaveRoom context socket) (control.retire socket) := by
    rw [← joined]
    rfl
  obtain ⟨done, rest, outputs, split, told, finished, completed⟩ :=
    @leaveRooms_state context (control.retire socket) socket (control.data socket).rooms
  rw [reached]
  exact ⟨done, rest, outputs, split, fun output member => mem_partings (told output member), finished, completed⟩

theorem detach_kin : Kin control (detach context socket (control.markClosed socket)).2 := by
  obtain ⟨done, rest, outputs, -, -, reached, -⟩ := @detach_state context control socket
  rw [reached]
  exact (kin_retire.trans (kin_of sameClients_leaveAll)).trans (kin_of aside_putAll.toSameClients)

theorem detach_sound (sound : Sound (control.retire socket)) : Sound (detach context socket (control.markClosed socket)).2 := by
  obtain ⟨done, rest, outputs, -, -, reached, -⟩ := @detach_state context control socket
  rw [reached]
  exact (Follows.leaveAll.trans .putAll).sound sound

theorem detach_devices : ((detach context socket (control.markClosed socket)).2.data other).peerId = (control.data other).peerId := by
  obtain ⟨done, rest, outputs, -, -, reached, -⟩ := @detach_state context control socket
  rw [reached, putAll_data, sameClients_leaveAll.peerId, peerId_retire]

theorem detach_live : (detach context socket (control.markClosed socket)).2.Live other ↔ control.Live other ∧ other ≠ socket := by
  obtain ⟨done, rest, outputs, -, -, reached, -⟩ := @detach_state context control socket
  rw [reached, Live, putAll_data, sameClients_leaveAll.closed]
  exact live_retire

/-! ## The handlers of rooms and the relay -/

def Trails (handler : ControlHandler α) (control : ControlState) : Prop := Follows control (handler control).2

namespace Trails

theorem pure {value : α} : Trails (Pure.pure value) control := Follows.refl

theorem raise {text : String} : Trails (Handler.raise text : ControlHandler α) control := Follows.refl

theorem bind {first : ControlHandler α} {next : α → ControlHandler β} (leading : Trails first control)
    (following : ∀ value middle, first control = (.ok value, middle) → Trails (next value) middle) :
    Trails (first >>= next) control := by
  rw [Trails, Handler.bind_apply]
  rcases ran : first control with ⟨outcome, middle⟩
  rw [Trails, ran] at leading
  cases outcome with
  | error text => exact leading
  | ok value => exact leading.trans (following value middle ran)

theorem refuse {condition : Prop} [Decidable condition] {text : String} {next : PUnit → ControlHandler α}
    (passed : ¬ condition → Trails (next ⟨⟩) control) : Trails (Handler.refuse condition text >>= next) control := by
  rw [Trails, Handler.bind_apply]
  by_cases holds : condition
  · rw [Handler.refuse_of holds]
    exact .refl
  · rw [Handler.refuse_of_not holds]
    exact passed holds

theorem read {next : ControlState → ControlHandler α} (following : Trails (next control) control) :
    Trails (Handler.read >>= next) control := following

theorem orRaise {value : Option α} {text : String} {next : α → ControlHandler β}
    (present : ∀ found, value = some found → Trails (next found) control) :
    Trails (Handler.orRaise value text >>= next) control := by
  cases value with
  | none => exact raise
  | some found => exact present found rfl

theorem speaks {handler : ControlHandler α} (speaks : Speaks control (fun _ => True) handler) : Trails handler control :=
  speaks.follows

theorem send : Trails (send context socket frame) control := speaks (.send trivial)

theorem counts {handler : ControlHandler α} (counts : Counts handler control) : Trails handler control :=
  Follows.aside counts.toAside

end Trails

theorem leaveRoom_trails : Trails (leaveRoom context socket roomId) control := by
  obtain ⟨outputs, -, reached⟩ := @leaveRoom_state context control socket roomId
  rw [Trails, reached]
  exact Follows.leave.trans .putAll

/-- Whoever enters a room is a member before it is told so. -/
theorem enterRoom_state {room : RoomState} : ∃ outputs,
    (room.members ≠ [] ∧ (enterRoom context socket roomId room control).2 = control.putAll outputs) ∨
      (enterRoom context socket roomId room control).2 = (control.addMember socket roomId room).putAll outputs := by
  have replays : Speaks control (fun _ => True) (Handler.forEach room.members (replaySignal context socket roomId)) :=
    .forEach fun _ _ => .replaySignal fun _ => trivial
  obtain ⟨outputs, -, reached⟩ := replays.state
  rw [enterRoom, Handler.bind_apply]
  rcases ran : Handler.forEach room.members (replaySignal context socket roomId) control with ⟨outcome, middle⟩
  rw [ran] at reached
  dsimp only at reached
  cases outcome with
  | error text =>
      refine ⟨outputs, .inl ⟨?_, reached⟩⟩
      intro nobody
      rw [nobody] at ran
      cases ran
  | ok value =>
      subst reached
      have confirms : Speaks (control.addMember socket roomId room) (fun _ => True)
          (send context socket (.joined roomId (room.members.length + 1)) >>= fun _ => refreshRoom context roomId) :=
        (Speaks.send trivial).bind fun _ => .refreshRoom fun _ _ => trivial
      obtain ⟨more, -, finished⟩ := confirms outputs
      exact ⟨outputs ++ more, .inr finished⟩

theorem joinRoom_trails : Trails (joinRoom context socket roomId roomAuth) control := by
  refine .refuse fun fit => .read ?_
  have valid : isRoomAuth roomAuth = true := by
    by_contra wrong
    exact fit (.inr wrong)
  split
  · exact .pure
  · rename_i outside
    refine .refuse fun _ => ?_
    have entered : ∀ room start, start.addMember socket roomId room = control.join socket roomId roomAuth →
        (start = control ∨ room.members = []) → Follows control (enterRoom context socket roomId room start).2 := by
      intro room start joins unchanged
      obtain ⟨outputs, ⟨someone, reached⟩ | reached⟩ := @enterRoom_state context start socket roomId room
      · rcases unchanged with same | nobody
        · rw [reached, same]
          exact .putAll
        · exact absurd nobody someone
      · rw [reached, joins]
        exact (Follows.join outside valid).trans .putAll
    rw [Trails, Handler.bind_apply, obtainRoom, Handler.read_bind]
    cases found : control.rooms.get? roomId with
    | some room =>
        refine Trails.refuse fun _ => .refuse fun _ => entered room control ?_ (.inl rfl)
        simp only [ControlState.join, found]
    | none =>
        dsimp only
        rw [Handler.bind_apply]
        by_cases full : maxRooms ≤ control.rooms.size
        · rw [Handler.refuse_of full]
          exact .refl
        · rw [Handler.refuse_of_not full]
          dsimp only
          rw [Handler.change_bind]
          dsimp only [Handler.pure_apply]
          rw [Handler.bind_apply, Handler.refuse_of_not (by simpa using (sameAuth valid valid).mpr rfl)]
          dsimp only
          rw [Handler.bind_apply, Handler.refuse_of_not (by decide)]
          refine entered ⟨roomAuth, []⟩ (control.createRoom roomId roomAuth) ?_ (.inr rfl)
          simp only [ControlState.join, found]

theorem signalRoom_trails : Trails (signalRoom context socket roomId payload) control := by
  refine .read (.refuse fun inside => .refuse fun _ => .refuse fun fits => ?_)
  have speaks : Speaks (control.retain socket roomId payload) (fun _ => True)
      (broadcastRoom context roomId (.signal roomId payload) (some socket)) := .broadcastRoom fun _ _ _ => trivial
  exact (Follows.retain (not_not.mp inside) (by omega)).trans speaks.follows

theorem fetchPeers_trails : Trails (fetchPeers context socket roomId) control := by
  refine .read (.refuse fun _ => ?_)
  split
  · exact .pure
  · exact .send

theorem relayDatagram_trails {recipientId : PeerId} : Trails (relayDatagram context socket recipientId payload) control := by
  refine .refuse fun _ => .read ?_
  split
  · exact .raise
  · refine .refuse fun _ => .orRaise fun frame _ => .refuse fun _ => ?_
    split
    · exact .send
    · split
      · exact .send
      · refine (Trails.counts reserve_counts).bind fun granted middle _ => ?_
        split <;> exact .send

theorem handleRoomMessage_trails {message : ControlMessage} :
    Trails (handleRoomMessage context socket message) control := by
  unfold handleRoomMessage
  split
  · exact joinRoom_trails
  · exact leaveRoom_trails
  · exact signalRoom_trails
  · exact fetchPeers_trails
  · exact .raise

theorem handleRegistered_trails {message : ControlMessage} :
    Trails (Worker.handleRegistered context socket message) control := by
  refine .read (.refuse fun _ => ?_)
  split
  · exact relayDatagram_trails
  · exact handleRoomMessage_trails

end

end MeshTalk.Control
