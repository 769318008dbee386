import MeshTalk.Control.Effects

namespace MeshTalk.Control

open MeshTalk.Library

/-! # Rooms and their members

The rooms, what clients hold of them and the retained bytes are kept in step by
every update.
-/

namespace ControlState

/-- The rooms and what the clients hold of them. -/
structure Linked (control : ControlState) : Prop where
  joined : ∀ socket roomId, socket ∈ control.membersOf roomId ↔ roomId ∈ (control.data socket).rooms
  occupied : ∀ roomId room, control.rooms.get? roomId = some room → room.members ≠ []
  distinct : ∀ roomId, (control.membersOf roomId).Nodup
  authorized : ∀ roomId room, control.rooms.get? roomId = some room → isRoomAuth room.auth = true
  signals : ∀ socket roomId payload, control.signalOf socket roomId = some payload → roomId ∈ (control.data socket).rooms
  retained : control.retainedBytes = control.retained
  bounded : control.retainedBytes ≤ maxRetainedBytes

variable {control : ControlState} {socket other : Socket} {roomId : RoomId} {room : RoomState}
  {roomAuth payload : Text} {peerId : PeerId} {now : Int}

theorem Linked.same {before after : ControlState} (linked : Linked before) (same : SameRooms before after) : Linked after := by
  have members : ∀ roomId, after.membersOf roomId = before.membersOf roomId := fun roomId =>
    membersOf_congr (by rw [same.rooms])
  refine ⟨?_, ?_, ?_, ?_, ?_, ?_, ?_⟩
  · intro socket roomId
    rw [members, same.joined]
    exact linked.joined socket roomId
  · intro roomId room found
    rw [same.rooms] at found
    exact linked.occupied roomId room found
  · intro roomId
    rw [members]
    exact linked.distinct roomId
  · intro roomId room found
    rw [same.rooms] at found
    exact linked.authorized roomId room found
  · intro socket roomId payload kept
    rw [signalOf, same.signals] at kept
    rw [same.joined]
    exact linked.signals socket roomId payload kept
  · rw [same.retainedBytes, same.retained]
    exact linked.retained
  · rw [same.retainedBytes]
    exact linked.bounded

theorem signalLength_eq : control.signalLength socket roomId = (control.data socket).signals.weightAt List.length roomId := by
  unfold signalLength signalOf Dict.weightAt
  split <;> rename_i found <;> rw [found]

theorem signalLength_le : control.signalLength socket roomId ≤ signalsLength (control.data socket) := by
  have each := @Dict.total_erase _ _ _ roomId (control.data socket).signals List.length
  rw [← signalLength_eq] at each
  unfold signalsLength
  omega

theorem Linked.leave (linked : Linked control) : Linked (control.leave socket roomId) := by
  cases found : control.rooms.get? roomId with
  | none =>
      rw [leave_none found]
      exact linked
  | some room =>
      have weights := @total_modify control socket (fun data => data.without roomId) signalsLength rfl
      have erased := @Dict.total_erase _ _ _ roomId (control.data socket).signals List.length
      have kept : (control.leave socket roomId).retained + control.signalLength socket roomId = control.retained := by
        have same : (control.leave socket roomId).sockets = (control.modify socket fun data => data.without roomId).sockets := by
          simp only [ControlState.leave, found]
          split <;> rfl
        simp only [ControlState.retained, same, signalLength_eq]
        simp only [signalsLength, ClientData.without] at weights erased ⊢
        omega
      have bytes : (control.leave socket roomId).retainedBytes = control.retainedBytes - control.signalLength socket roomId := by
        simp only [ControlState.leave, found]
        split <;> rfl
      refine ⟨?_, ?_, ?_, ?_, ?_, ?_, ?_⟩
      · intro client joined
        have before := linked.joined client joined
        rw [membersOf_leave, leave_data found]
        by_cases same : joined = roomId <;> by_cases itself : client = socket
        · simp [same, itself, ClientData.without]
        · subst same
          simp [itself, before]
        · subst itself
          simp [same, before, ClientData.without]
        · simp [same, itself, before]
      · intro joined state present
        rw [leave_rooms found] at present
        split at present
        · split at present
          · cases present
          · rename_i occupied
            cases present
            exact occupied
        · exact linked.occupied joined state present
      · intro joined
        rw [membersOf_leave]
        split
        · exact (linked.distinct roomId).filter _
        · exact linked.distinct joined
      · intro joined state present
        rw [leave_rooms found] at present
        split at present
        · split at present
          · cases present
          · cases present
            exact linked.authorized roomId room found
        · exact linked.authorized joined state present
      · intro client joined payload kept
        rw [signalOf, leave_data found] at kept
        rw [leave_data found]
        split
        · rename_i itself
          rw [if_pos itself] at kept
          simp only [ClientData.without, Dict.get?_erase] at kept ⊢
          split at kept
          · cases kept
          · rename_i different
            exact List.mem_filter.mpr ⟨linked.signals socket joined payload kept, decide_eq_true different⟩
        · rename_i another
          rw [if_neg another] at kept
          exact linked.signals client joined payload kept
      · rw [bytes, linked.retained]
        omega
      · have := linked.bounded
        rw [bytes]
        omega

theorem Linked.join (linked : Linked control) (outside : roomId ∉ (control.data socket).rooms)
    (authorized : isRoomAuth roomAuth = true) : Linked (control.join socket roomId roomAuth) := by
  have tables : (control.join socket roomId roomAuth).sockets = (control.modify socket fun data => data.within roomId).sockets ∧
      (control.join socket roomId roomAuth).retainedBytes = control.retainedBytes := by
    unfold ControlState.join
    split <;> exact ⟨rfl, rfl⟩
  refine ⟨?_, ?_, ?_, ?_, ?_, ?_, ?_⟩
  · intro client joined
    have before := linked.joined client joined
    rw [membersOf_join, join_data]
    by_cases same : joined = roomId <;> by_cases itself : client = socket
    · simp [same, itself, ClientData.within]
    · subst same
      simp [itself, before]
    · subst itself
      simp [same, before, ClientData.within]
    · simp [same, itself, before]
  · intro joined state present
    rw [join_rooms] at present
    split at present
    · cases present
      simp
    · exact linked.occupied joined state present
  · intro joined
    rw [membersOf_join]
    split
    · refine List.nodup_append.mpr ⟨linked.distinct roomId, by simp, ?_⟩
      intro member listed new isNew equal
      rw [List.mem_singleton] at isNew
      rw [equal, isNew] at listed
      exact outside ((linked.joined socket roomId).mp listed)
    · exact linked.distinct joined
  · intro joined state present
    rw [join_rooms] at present
    split at present
    · cases present
      dsimp only
      split
      · rename_i room found
        exact linked.authorized roomId room found
      · exact authorized
    · exact linked.authorized joined state present
  · intro client joined payload kept
    rw [signalOf, join_data] at kept
    rw [join_data]
    split
    · rename_i itself
      rw [if_pos itself] at kept
      exact List.mem_append_left _ (linked.signals socket joined payload kept)
    · rename_i another
      rw [if_neg another] at kept
      exact linked.signals client joined payload kept
  · have weights := @total_modify control socket (fun data => data.within roomId) signalsLength rfl
    rw [tables.2, linked.retained, ControlState.retained, ControlState.retained, tables.1]
    have unchanged : signalsLength ((control.data socket).within roomId) = signalsLength (control.data socket) := rfl
    rw [unchanged] at weights
    omega
  · rw [tables.2]
    exact linked.bounded

theorem Linked.retain (linked : Linked control) (inside : roomId ∈ (control.data socket).rooms)
    (fits : control.retainedBytes - control.signalLength socket roomId + payload.length ≤ maxRetainedBytes) :
    Linked (control.retain socket roomId payload) := by
  refine ⟨?_, linked.occupied, linked.distinct, linked.authorized, ?_, ?_, ?_⟩
  · intro client joined
    rw [retain_data]
    split
    · rename_i itself
      rw [itself]
      exact linked.joined socket joined
    · exact linked.joined client joined
  · intro client joined content kept
    rw [signalOf, retain_data] at kept
    rw [retain_data]
    split
    · rename_i itself
      rw [if_pos itself] at kept
      simp only [ClientData.signalling, Dict.get?_set] at kept ⊢
      split at kept
      · rename_i same
        rw [same]
        exact inside
      · exact linked.signals socket joined content kept
    · rename_i another
      rw [if_neg another] at kept
      exact linked.signals client joined content kept
  · have weights := @total_modify control socket (fun data => data.signalling roomId payload) signalsLength rfl
    have added := @Dict.total_set _ _ _ roomId payload (control.data socket).signals List.length
    have before := linked.retained
    have held : (control.retain socket roomId payload).retained + signalsLength (control.data socket) =
        control.retained + signalsLength ((control.data socket).signalling roomId payload) := weights
    have old : signalsLength (control.data socket) = (control.data socket).signals.total List.length := rfl
    have new : signalsLength ((control.data socket).signalling roomId payload) =
        ((control.data socket).signals.set roomId payload).total List.length := rfl
    rw [← signalLength_eq] at added
    change control.retainedBytes + (payload.length - control.signalLength socket roomId) = _
    omega
  · change control.retainedBytes + (payload.length - control.signalLength socket roomId) ≤ _
    omega

/-! ## Leaving all rooms -/

/-- What is settled when a client connects: its address and its challenge. -/
def greeting (data : ClientData) : Address × Text × Text := (data.ip, data.challengeId, data.challenge)

theorem greeting_ip {data other : ClientData} (same : greeting data = greeting other) : data.ip = other.ip :=
  congrArg Prod.fst same

/-- Updates that leave the clients alone but for their rooms and signals. -/
structure SameClients (before after : ControlState) : Prop where
  closed : ∀ socket, (after.data socket).closed = (before.data socket).closed
  greeted : ∀ socket, greeting (after.data socket) = greeting (before.data socket)
  peerId : ∀ socket, (after.data socket).peerId = (before.data socket).peerId
  live : ∀ ip, after.liveFor ip = before.liveFor ip
  connectionsByIp : after.connectionsByIp = before.connectionsByIp
  socketsByPeerId : after.socketsByPeerId = before.socketsByPeerId
  known : ∀ socket, before.sockets.contains socket = true → after.sockets.contains socket = true

/-- Updates of other tables. -/
theorem SameClients.ofTables {before after : ControlState} (sockets : after.sockets = before.sockets)
    (connectionsByIp : after.connectionsByIp = before.connectionsByIp)
    (socketsByPeerId : after.socketsByPeerId = before.socketsByPeerId) : SameClients before after where
  closed := fun socket => by rw [data, sockets, data]
  greeted := fun socket => by rw [data, sockets, data]
  peerId := fun socket => by rw [data, sockets, data]
  live := fun ip => by rw [liveFor, sockets, liveFor]
  connectionsByIp := connectionsByIp
  socketsByPeerId := socketsByPeerId
  known := fun socket held => by rwa [sockets]

theorem SameClients.refl : SameClients control control := .ofTables rfl rfl rfl

theorem modify_known {update : ClientData → ClientData} (held : control.sockets.contains other = true) :
    (control.modify socket update).sockets.contains other = true := by
  simp only [modify, Dict.contains, Dict.get?_set]
  split
  · rfl
  · exact held

theorem SameClients.trans {before middle after : ControlState} (first : SameClients before middle)
    (second : SameClients middle after) : SameClients before after where
  closed := fun socket => (second.closed socket).trans (first.closed socket)
  greeted := fun socket => (second.greeted socket).trans (first.greeted socket)
  peerId := fun socket => (second.peerId socket).trans (first.peerId socket)
  live := fun ip => (second.live ip).trans (first.live ip)
  connectionsByIp := second.connectionsByIp.trans first.connectionsByIp
  socketsByPeerId := second.socketsByPeerId.trans first.socketsByPeerId
  known := fun socket held => second.known socket (first.known socket held)

/-- An update of one client that keeps its flag, its address and its device. -/
theorem SameClients.of {after : ControlState} {update : ClientData → ClientData}
    (sockets : after.sockets = (control.modify socket update).sockets)
    (connectionsByIp : after.connectionsByIp = control.connectionsByIp)
    (socketsByPeerId : after.socketsByPeerId = control.socketsByPeerId)
    (closed : (update (control.data socket)).closed = (control.data socket).closed)
    (greeted : greeting (update (control.data socket)) = greeting (control.data socket))
    (peerId : (update (control.data socket)).peerId = (control.data socket).peerId) : SameClients control after := by
  have each : ∀ other, after.data other = if other = socket then update (control.data socket) else control.data other := by
    intro other
    rw [data, sockets]
    exact data_modify
  refine ⟨?_, ?_, ?_, ?_, connectionsByIp, socketsByPeerId, fun other held => sockets ▸ modify_known held⟩
  · intro other
    rw [each]
    split <;> simp_all
  · intro other
    rw [each]
    split <;> simp_all
  · intro other
    rw [each]
    split <;> simp_all
  · intro address
    have weights := @total_modify control socket update (countsFor address) rfl
    have unchanged : countsFor address (update (control.data socket)) = countsFor address (control.data socket) := by
      rw [countsFor, countsFor, closed, greeting_ip greeted]
    rw [unchanged] at weights
    simp only [liveFor, sockets]
    omega

theorem sameClients_leave : SameClients control (control.leave socket roomId) := by
  have without : ∀ {after : ControlState}, after.sockets = (control.modify socket fun data => data.without roomId).sockets →
      after.connectionsByIp = control.connectionsByIp → after.socketsByPeerId = control.socketsByPeerId →
      SameClients control after := fun sockets connections devices => .of sockets connections devices rfl rfl rfl
  unfold ControlState.leave
  split
  · exact .refl
  · split <;> exact without rfl rfl rfl

def leaveAll (control : ControlState) (socket : Socket) (roomIds : List RoomId) : ControlState :=
  roomIds.foldl (fun control roomId => control.leave socket roomId) control

theorem sameClients_leaveAll {roomIds : List RoomId} : SameClients control (control.leaveAll socket roomIds) := by
  induction roomIds generalizing control with
  | nil => exact .refl
  | cons roomId rest ih => exact sameClients_leave.trans ih

theorem Linked.leaveAll {roomIds : List RoomId} (linked : Linked control) : Linked (control.leaveAll socket roomIds) := by
  induction roomIds generalizing control with
  | nil => exact linked
  | cons roomId rest ih => exact ih linked.leave

theorem leave_other (another : other ≠ socket) : (control.leave socket roomId).data other = control.data other := by
  cases found : control.rooms.get? roomId with
  | none => rw [leave_none found]
  | some room => rw [leave_data found, if_neg another]

theorem leaveAll_other {roomIds : List RoomId} (another : other ≠ socket) :
    (control.leaveAll socket roomIds).data other = control.data other := by
  induction roomIds generalizing control with
  | nil => rfl
  | cons roomId rest ih => exact ih.trans (leave_other another)

theorem leaveAll_members {roomIds : List RoomId} {joined : RoomId} : (control.leaveAll socket roomIds).membersOf joined =
    if joined ∈ roomIds then (control.membersOf joined).filter fun member => member ≠ socket
    else control.membersOf joined := by
  induction roomIds generalizing control with
  | nil => simp [leaveAll]
  | cons roomId rest ih =>
      have later := @ih (control.leave socket roomId)
      change ((control.leave socket roomId).leaveAll socket rest).membersOf joined = _
      rw [later, membersOf_leave]
      by_cases same : joined = roomId <;> by_cases listed : joined ∈ rest <;> simp [same, listed]

/-- A client that leaves the rooms it is in is in none. -/
theorem leaveAll_rooms (linked : Linked control) :
    ((control.leaveAll socket (control.data socket).rooms).data socket).rooms = [] := by
  refine List.eq_nil_iff_forall_not_mem.mpr ?_
  intro roomId member
  have listed := ((linked.leaveAll.joined socket roomId).mpr member)
  rw [leaveAll_members] at listed
  split at listed
  · exact absurd rfl (of_decide_eq_true (List.mem_filter.mp listed).2)
  · rename_i outside
    exact outside ((linked.joined socket roomId).mp listed)

end ControlState

end MeshTalk.Control
