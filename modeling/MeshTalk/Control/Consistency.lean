import MeshTalk.Control.Rooms

namespace MeshTalk.Control

open MeshTalk.Library

/-! # Consistent tables

The connection counts and the registrations, and all that holds between two
events.
-/

namespace ControlState

variable {control : ControlState} {socket other : Socket} {roomId : RoomId} {room : RoomState}
  {roomAuth payload : Text} {peerId : PeerId} {now : Int}

theorem withdraw_eq : control.withdraw socket = (control.retire socket).leaveAll socket (control.data socket).rooms := rfl

theorem withdraw_other (another : other ≠ socket) : (control.withdraw socket).data other = control.data other := by
  rw [withdraw_eq, leaveAll_other another, retire_data, if_neg another]

theorem withdraw_rooms (linked : Linked control) : ((control.withdraw socket).data socket).rooms = [] := by
  have same : (control.data socket).rooms = ((control.retire socket).data socket).rooms :=
    (sameRooms_retire.joined socket).symm
  rw [withdraw_eq, same]
  exact leaveAll_rooms (linked.same sameRooms_retire)

theorem withdraw_closed : ((control.withdraw socket).data socket).closed = true := by
  rw [withdraw_eq, sameClients_leaveAll.closed, retire_data, if_pos rfl]
  rfl

theorem withdraw_members {joined : RoomId} : (control.withdraw socket).membersOf joined =
    if joined ∈ (control.data socket).rooms then (control.membersOf joined).filter fun member => member ≠ socket
    else control.membersOf joined := by
  rw [withdraw_eq, leaveAll_members, membersOf_congr (by rw [sameRooms_retire.rooms] :
    (control.retire socket).rooms.get? joined = control.rooms.get? joined)]

theorem Linked.withdraw (linked : Linked control) : Linked (control.withdraw socket) :=
  (linked.same sameRooms_retire).leaveAll

/-! ## Connections and registrations -/

/-- The counts of the addresses and the registered sockets. -/
structure Registered (control : ControlState) : Prop where
  counted : ∀ ip, control.countFor ip = control.liveFor ip
  registered : ∀ peerId socket, control.socketsByPeerId.get? peerId = some socket ↔
    control.Live socket ∧ (control.data socket).peerId = some peerId

theorem Registered.same {before after : ControlState} (registered : Registered before) (same : SameClients before after) :
    Registered after := by
  constructor
  · intro ip
    have counted := registered.counted ip
    rw [countFor] at counted ⊢
    rw [same.connectionsByIp, counted, same.live]
  · intro peerId socket
    rw [same.socketsByPeerId, Live, same.closed, same.peerId]
    exact registered.registered peerId socket

theorem releaseConnection_countFor {ip : Address} : (control.releaseConnection socket).countFor ip =
    if (control.data socket).ip = ip then control.countFor ip - 1 else control.countFor ip := by
  have kept : ∀ count, (control.data socket).ip ≠ ip →
      (if 0 < count then control.connectionsByIp.set (control.data socket).ip count
        else control.connectionsByIp.erase (control.data socket).ip).get? ip = control.connectionsByIp.get? ip := by
    intro count another
    split
    · rw [Dict.get?_set, if_neg (Ne.symm another)]
    · rw [Dict.get?_erase, if_neg (Ne.symm another)]
  simp only [countFor, releaseConnection]
  by_cases itself : (control.data socket).ip = ip
  · rw [if_pos itself, itself]
    cases found : control.connectionsByIp.get? ip with
    | none => simp
    | some count =>
        dsimp only
        by_cases more : 0 < count - 1
        · rw [if_pos more, Dict.get?_set, if_pos rfl]
        · rw [if_neg more, Dict.get?_erase, if_pos rfl]
          dsimp only
          omega
  · rw [if_neg itself, kept _ itself]

theorem forgetDevice_tables : (control.forgetDevice socket).sockets = control.sockets ∧
    (control.forgetDevice socket).connectionsByIp = control.connectionsByIp := by
  unfold forgetDevice
  split
  · exact ⟨rfl, rfl⟩
  · split <;> exact ⟨rfl, rfl⟩

/-- The end of a connection, for the counts. -/
theorem counted_retire {ip : Address} (live : control.Live socket) (counted : control.countFor ip = control.liveFor ip) :
    (control.retire socket).countFor ip = (control.retire socket).liveFor ip := by
  have weights := @total_modify control socket ClientData.shut (countsFor ip) rfl
  have shut : countsFor ip (control.data socket).shut = 0 := rfl
  have held : countsFor ip (control.data socket) = if (control.data socket).ip = ip then 1 else 0 := by
    have flag : (control.data socket).closed = false := live
    simp [countsFor, flag]
  have remaining : (control.retire socket).liveFor ip = (control.modify socket ClientData.shut).sockets.total (countsFor ip) := by
    simp only [retire, releaseConnection, liveFor, forgetDevice_tables.1, markClosed]
  have before : ((control.markClosed socket).forgetDevice socket).countFor ip = control.countFor ip := by
    rw [countFor, forgetDevice_tables.2]
    rfl
  have address : (((control.markClosed socket).forgetDevice socket).data socket).ip = (control.data socket).ip := by
    rw [forgetDevice_data, markClosed_data, if_pos rfl]
    rfl
  rw [remaining, retire, releaseConnection_countFor, before, address, counted]
  rw [shut, held] at weights
  unfold liveFor
  split at weights <;> rename_i itself
  · rw [if_pos itself]
    omega
  · rw [if_neg itself]
    omega

/-- What `forgetDevice` finds to erase for a client that is marked closed. -/
theorem retire_sockets : (control.retire socket).socketsByPeerId = match (control.data socket).peerId with
    | none => control.socketsByPeerId
    | some peerId => if control.socketsByPeerId.get? peerId = some socket then control.socketsByPeerId.erase peerId
        else control.socketsByPeerId := by
  have device : ((control.markClosed socket).data socket).peerId = (control.data socket).peerId := by
    rw [markClosed_data, if_pos rfl]
    rfl
  have same : (control.markClosed socket).socketsByPeerId = control.socketsByPeerId := rfl
  change ((control.markClosed socket).forgetDevice socket).socketsByPeerId = _
  unfold forgetDevice
  rw [device]
  cases (control.data socket).peerId with
  | none => rfl
  | some peerId =>
      dsimp only
      rw [same]
      split <;> rfl

theorem live_retire : (control.retire socket).Live other ↔ control.Live other ∧ other ≠ socket := by
  rw [Live, retire_data]
  by_cases itself : other = socket
  · simp [itself, ClientData.shut]
  · simp [itself, Live]

theorem peerId_retire : ((control.retire socket).data other).peerId = (control.data other).peerId := by
  rw [retire_data]
  split
  · rename_i itself
    rw [itself]
    rfl
  · rfl

theorem Registered.retire (registered : Registered control) (live : control.Live socket) :
    Registered (control.retire socket) := by
  refine ⟨fun ip => counted_retire live (registered.counted ip), ?_⟩
  intro peerId other
  have before := registered.registered peerId other
  have own := fun device => registered.registered device socket
  rw [live_retire, peerId_retire, retire_sockets]
  cases device : (control.data socket).peerId with
  | none =>
      dsimp only
      rw [before]
      constructor
      · rintro ⟨alive, named⟩
        refine ⟨⟨alive, ?_⟩, named⟩
        rintro rfl
        rw [device] at named
        cases named
      · rintro ⟨⟨alive, -⟩, named⟩
        exact ⟨alive, named⟩
  | some held =>
      dsimp only
      rw [if_pos ((own held).mpr ⟨live, device⟩), Dict.get?_erase]
      by_cases same : peerId = held
      · rw [if_pos same]
        refine ⟨nofun, ?_⟩
        rintro ⟨⟨alive, another⟩, named⟩
        have holder := before.mpr ⟨alive, named⟩
        rw [same, (own held).mpr ⟨live, device⟩] at holder
        exact absurd (Option.some.inj holder).symm another
      · rw [if_neg same, before]
        constructor
        · rintro ⟨alive, named⟩
          refine ⟨⟨alive, ?_⟩, named⟩
          rintro rfl
          rw [device] at named
          exact same (Option.some.inj named).symm
        · rintro ⟨⟨alive, -⟩, named⟩
          exact ⟨alive, named⟩

theorem live_setRegistered : (control.setRegistered socket peerId).Live other ↔ control.Live other := by
  rw [Live, setRegistered_data]
  split
  · rename_i itself
    rw [itself]
    rfl
  · rfl

theorem liveFor_setRegistered {ip : Address} : (control.setRegistered socket peerId).liveFor ip = control.liveFor ip := by
  have weights := @total_modify control socket (fun data => data.registered peerId) (countsFor ip) rfl
  have unchanged : countsFor ip ((control.data socket).registered peerId) = countsFor ip (control.data socket) := rfl
  rw [unchanged] at weights
  exact Nat.add_right_cancel weights

theorem counted_setRegistered {ip : Address} (counted : control.countFor ip = control.liveFor ip) :
    (control.setRegistered socket peerId).countFor ip = (control.setRegistered socket peerId).liveFor ip := by
  rw [liveFor_setRegistered]
  exact counted

theorem setRegistered_sockets {device : PeerId} : (control.setRegistered socket peerId).socketsByPeerId.get? device =
    if device = peerId then some socket else control.socketsByPeerId.get? device := Dict.get?_set

/-- A client registers a device that no other client has. -/
theorem Registered.setRegistered (registered : Registered control) (live : control.Live socket)
    (own : ∀ held ∈ (control.data socket).peerId, held = peerId) (alone : control.previousOf socket peerId = none) :
    Registered (control.setRegistered socket peerId) := by
  refine ⟨fun ip => counted_setRegistered (registered.counted ip), ?_⟩
  intro device other
  rw [live_setRegistered, setRegistered_data, setRegistered_sockets]
  have before := registered.registered device other
  by_cases same : device = peerId
  · subst same
    rw [if_pos rfl]
    by_cases itself : other = socket
    · subst itself
      simp [live, ClientData.registered]
    · simp only [Option.some.injEq, itself, if_false]
      refine ⟨fun equal => absurd equal.symm itself, ?_⟩
      rintro ⟨alive, named⟩
      have holder := before.mpr ⟨alive, named⟩
      rw [previousOf, holder, Option.filter_some_eq_none] at alone
      simp [itself] at alone
  · rw [if_neg same, before]
    by_cases itself : other = socket
    · subst itself
      rw [if_pos rfl]
      simp only [ClientData.registered, Option.some.injEq]
      refine ⟨?_, ?_⟩
      · rintro ⟨-, named⟩
        exact absurd (own device named) same
      · rintro ⟨-, equal⟩
        exact absurd equal.symm same
    · rw [if_neg itself]

/-- A client registers a device, and the client that had it goes. -/
theorem Registered.replace {previous : Socket} (registered : Registered control) (live : control.Live socket)
    (own : ∀ held ∈ (control.data socket).peerId, held = peerId) (taken : control.previousOf socket peerId = some previous) :
    Registered ((control.setRegistered socket peerId).retire previous) := by
  obtain ⟨holder, another⟩ := Option.filter_eq_some_iff.mp taken
  have different : previous ≠ socket := of_decide_eq_true another
  obtain ⟨alive, device⟩ := (registered.registered peerId previous).mp holder
  have stays : ((control.setRegistered socket peerId).data previous).peerId = some peerId := by
    rw [setRegistered_data, if_neg different, device]
  have given : (control.setRegistered socket peerId).socketsByPeerId.get? peerId = some socket := by
    rw [setRegistered_sockets, if_pos rfl]
  refine ⟨fun ip => counted_retire (live_setRegistered.mpr alive) (counted_setRegistered (registered.counted ip)), ?_⟩
  intro name other
  have before := registered.registered name other
  rw [live_retire, peerId_retire, live_setRegistered, retire_sockets, stays]
  dsimp only
  rw [given, if_neg (by simpa using Ne.symm different), setRegistered_data, setRegistered_sockets]
  by_cases same : name = peerId
  · subst same
    rw [if_pos rfl]
    by_cases itself : other = socket
    · subst itself
      simp [live, ClientData.registered, Ne.symm different]
    · simp only [Option.some.injEq, itself, if_false]
      refine ⟨fun equal => absurd equal.symm itself, ?_⟩
      rintro ⟨⟨lives, apart⟩, named⟩
      have other_holder := before.mpr ⟨lives, named⟩
      rw [holder] at other_holder
      exact absurd (Option.some.inj other_holder).symm apart
  · rw [if_neg same, before]
    by_cases itself : other = socket
    · subst itself
      rw [if_pos rfl]
      simp only [ClientData.registered, Option.some.injEq]
      refine ⟨?_, ?_⟩
      · rintro ⟨-, named⟩
        exact absurd (own name named) same
      · rintro ⟨-, equal⟩
        exact absurd equal.symm same
    · rw [if_neg itself]
      refine ⟨?_, fun ⟨⟨lives, _⟩, named⟩ => ⟨lives, named⟩⟩
      rintro ⟨lives, named⟩
      refine ⟨⟨lives, ?_⟩, named⟩
      rintro rfl
      rw [device] at named
      exact same (Option.some.inj named).symm

/-- The device moves to the client, and the client that had it is closed. -/
theorem Registered.takeOver (registered : Registered control) (live : control.Live socket)
    (own : ∀ held ∈ (control.data socket).peerId, held = peerId) : Registered (control.takeOver socket peerId now) := by
  have ensured : ∀ state : ControlState, SameClients state (state.ensureDeviceLimit peerId now) := by
    intro state
    unfold ensureDeviceLimit
    split
    · exact .refl
    · exact .ofTables rfl rfl rfl
  unfold ControlState.takeOver
  split
  · rename_i alone
    exact (registered.setRegistered live own alone).same (ensured _)
  · rename_i previous taken
    rw [withdraw_eq]
    exact ((registered.replace live own taken).same sameClients_leaveAll).same (ensured _)

/-! ## All of it -/

/-- Updates that change neither the rooms nor the connections, and forget no device. -/
structure Aside (before after : ControlState) : Prop extends SameRooms before after, SameClients before after where
  limits : ∀ peerId, before.deviceLimits.contains peerId = true → after.deviceLimits.contains peerId = true

theorem Aside.refl : Aside control control := ⟨.refl, .refl, fun _ => id⟩

theorem Aside.trans {before middle after : ControlState} (first : Aside before middle) (second : Aside middle after) :
    Aside before after :=
  ⟨first.toSameRooms.trans second.toSameRooms, first.toSameClients.trans second.toSameClients,
    fun peerId held => second.limits peerId (first.limits peerId held)⟩

theorem quiet_aside : Aside control control.quiet :=
  ⟨.of rfl rfl rfl, .ofTables rfl rfl rfl, fun _ => id⟩

theorem aside_putAll {outputs : List Output} : Aside control (control.putAll outputs) :=
  ⟨.of rfl rfl rfl, .ofTables rfl rfl rfl, fun _ => id⟩

/-- An update of the counters of one client. -/
theorem aside_modify {update : ClientData → ClientData}
    (rooms : (update (control.data socket)).rooms = (control.data socket).rooms)
    (signals : (update (control.data socket)).signals = (control.data socket).signals)
    (closed : (update (control.data socket)).closed = (control.data socket).closed)
    (greeted : greeting (update (control.data socket)) = greeting (control.data socket))
    (peerId : (update (control.data socket)).peerId = (control.data socket).peerId) :
    Aside control (control.modify socket update) :=
  ⟨.modify rooms signals, .of rfl rfl rfl closed greeted peerId, fun _ => id⟩

theorem aside_countMessage {type : MessageType} : Aside control (control.countMessage socket now type) :=
  aside_modify rfl rfl rfl rfl rfl

theorem aside_countRelayFrame : Aside control (control.countRelayFrame socket now) := by
  refine aside_modify ?_ ?_ ?_ ?_ ?_ <;> split <;> rfl

theorem aside_countAddress {ip : Address} {type : MessageType} : Aside control (control.countAddress ip now type) :=
  ⟨.of rfl rfl rfl, .ofTables rfl rfl rfl, fun _ => id⟩

theorem aside_setDeviceLimit {limit : DeviceLimit} : Aside control (control.setDeviceLimit peerId limit) := by
  refine ⟨.of rfl rfl rfl, .ofTables rfl rfl rfl, ?_⟩
  intro device held
  simp only [setDeviceLimit, Dict.contains, Dict.get?_set]
  split
  · rfl
  · exact held

theorem aside_ensureDeviceLimit : Aside control (control.ensureDeviceLimit peerId now) := by
  unfold ensureDeviceLimit
  split
  · exact .refl
  · exact aside_setDeviceLimit

/-- What holds of the tables between two events. -/
structure Wellkept (control : ControlState) : Prop extends Linked control, Registered control where
  emptied : ∀ socket, ¬ control.Live socket → (control.data socket).rooms = []
  identified : ∀ socket, (control.data socket).rooms ≠ [] → (control.data socket).peerId ≠ none
  limited : ∀ peerId socket, control.socketsByPeerId.get? peerId = some socket → control.deviceLimits.contains peerId = true

theorem Wellkept.aside {before after : ControlState} (kept : Wellkept before) (aside : Aside before after) : Wellkept after where
  toLinked := kept.toLinked.same aside.toSameRooms
  toRegistered := kept.toRegistered.same aside.toSameClients
  emptied := by
    intro socket gone
    rw [aside.joined]
    rw [Live, aside.closed] at gone
    exact kept.emptied socket gone
  identified := by
    intro socket inside
    rw [aside.joined] at inside
    rw [aside.peerId]
    exact kept.identified socket inside
  limited := by
    intro peerId socket held
    rw [aside.socketsByPeerId] at held
    exact aside.limits peerId (kept.limited peerId socket held)

/-- A member of a room is a live client, and its device is registered for it. -/
theorem Wellkept.member (kept : Wellkept control) (member : socket ∈ control.membersOf roomId) :
    control.Live socket ∧ ∃ peerId, (control.data socket).peerId = some peerId ∧
      control.socketsByPeerId.get? peerId = some socket := by
  have inside := (kept.joined socket roomId).mp member
  have occupied : (control.data socket).rooms ≠ [] := List.ne_nil_of_mem inside
  have live : control.Live socket := by
    by_contra gone
    exact occupied (kept.emptied socket gone)
  obtain ⟨peerId, device⟩ := Option.ne_none_iff_exists'.mp (kept.identified socket occupied)
  exact ⟨live, peerId, device, (kept.registered peerId socket).mpr ⟨live, device⟩⟩

theorem leave_deviceLimits : (control.leave socket roomId).deviceLimits = control.deviceLimits := by
  unfold ControlState.leave
  split
  · rfl
  · split <;> rfl

theorem leave_rooms_mem (linked : Linked control) {joined : RoomId} :
    joined ∈ ((control.leave socket roomId).data other).rooms ↔
      joined ∈ (control.data other).rooms ∧ ¬ (joined = roomId ∧ other = socket) := by
  rw [← linked.leave.joined, membersOf_leave, ← linked.joined]
  split
  · rename_i same
    simp [same]
  · rename_i different
    simp [different]

theorem Wellkept.leave (kept : Wellkept control) : Wellkept (control.leave socket roomId) where
  toLinked := kept.toLinked.leave
  toRegistered := kept.toRegistered.same sameClients_leave
  emptied := by
    intro other gone
    rw [Live, sameClients_leave.closed] at gone
    refine List.eq_nil_iff_forall_not_mem.mpr fun joined member => ?_
    have before := ((leave_rooms_mem kept.toLinked).mp member).1
    rw [kept.emptied other gone] at before
    cases before
  identified := by
    intro other inside
    rw [sameClients_leave.peerId]
    obtain ⟨joined, member⟩ := List.exists_mem_of_ne_nil _ inside
    exact kept.identified other (List.ne_nil_of_mem ((leave_rooms_mem kept.toLinked).mp member).1)
  limited := by
    intro peerId other held
    rw [sameClients_leave.socketsByPeerId] at held
    rw [leave_deviceLimits]
    exact kept.limited peerId other held

theorem sameClients_join : SameClients control (control.join socket roomId roomAuth) := by
  have within : ∀ {after : ControlState}, after.sockets = (control.modify socket fun data => data.within roomId).sockets →
      after.connectionsByIp = control.connectionsByIp → after.socketsByPeerId = control.socketsByPeerId →
      SameClients control after := fun sockets connections devices => .of sockets connections devices rfl rfl rfl
  unfold ControlState.join
  split <;> exact within rfl rfl rfl

theorem join_deviceLimits : (control.join socket roomId roomAuth).deviceLimits = control.deviceLimits := by
  unfold ControlState.join
  split <;> rfl

theorem Wellkept.join (kept : Wellkept control) (live : control.Live socket) (device : (control.data socket).peerId ≠ none)
    (outside : roomId ∉ (control.data socket).rooms) (authorized : isRoomAuth roomAuth = true) :
    Wellkept (control.join socket roomId roomAuth) where
  toLinked := kept.toLinked.join outside authorized
  toRegistered := kept.toRegistered.same sameClients_join
  emptied := by
    intro other gone
    rw [Live, sameClients_join.closed] at gone
    rw [join_data]
    split
    · rename_i itself
      rw [itself] at gone
      exact absurd live gone
    · exact kept.emptied other gone
  identified := by
    intro other inside
    rw [sameClients_join.peerId]
    rw [join_data] at inside
    split at inside
    · rename_i itself
      rw [itself]
      exact device
    · exact kept.identified other inside
  limited := by
    intro peerId other held
    rw [sameClients_join.socketsByPeerId] at held
    rw [join_deviceLimits]
    exact kept.limited peerId other held

theorem sameClients_retain : SameClients control (control.retain socket roomId payload) := by
  have changed : (control.retain socket roomId payload).sockets =
      (control.modify socket fun data => data.signalling roomId payload).sockets := rfl
  exact .of changed rfl rfl rfl rfl rfl

theorem retain_joined : ((control.retain socket roomId payload).data other).rooms = (control.data other).rooms := by
  rw [retain_data]
  split
  · rename_i itself
    rw [itself]
    rfl
  · rfl

theorem Wellkept.retain (kept : Wellkept control) (inside : roomId ∈ (control.data socket).rooms)
    (fits : control.retainedBytes - control.signalLength socket roomId + payload.length ≤ maxRetainedBytes) :
    Wellkept (control.retain socket roomId payload) where
  toLinked := kept.toLinked.retain inside fits
  toRegistered := kept.toRegistered.same sameClients_retain
  emptied := by
    intro other gone
    rw [retain_joined]
    rw [Live, sameClients_retain.closed] at gone
    exact kept.emptied other gone
  identified := by
    intro other occupied
    rw [retain_joined] at occupied
    rw [sameClients_retain.peerId]
    exact kept.identified other occupied
  limited := kept.limited

/-! ## The end of a client -/

theorem leaveAll_deviceLimits {roomIds : List RoomId} :
    (control.leaveAll socket roomIds).deviceLimits = control.deviceLimits := by
  induction roomIds generalizing control with
  | nil => rfl
  | cons roomId rest ih => exact ih.trans leave_deviceLimits

/-- The buckets go with the registration, and no others do. -/
theorem retire_limits {name : PeerId} (held : (control.retire socket).socketsByPeerId.get? name = some other)
    (limited : control.socketsByPeerId.get? name = some other → control.deviceLimits.contains name = true) :
    (control.retire socket).deviceLimits.contains name = true := by
  have device : ((control.markClosed socket).data socket).peerId = (control.data socket).peerId := by
    rw [markClosed_data, if_pos rfl]
    rfl
  have same : (control.markClosed socket).socketsByPeerId = control.socketsByPeerId := rfl
  change ((control.markClosed socket).forgetDevice socket).deviceLimits.contains name = true
  rw [retire_sockets] at held
  unfold forgetDevice
  rw [device]
  cases found : (control.data socket).peerId with
  | none =>
      rw [found] at held
      exact limited held
  | some own =>
      rw [found] at held
      dsimp only at held ⊢
      rw [same]
      split at held
      · rename_i registered
        rw [if_pos registered]
        rw [Dict.get?_erase] at held
        split at held
        · cases held
        · rename_i different
          have before := limited held
          simp only [Dict.contains, Dict.get?_mapValues, Dict.get?_erase, if_neg different, Option.isSome_map]
          exact before
      · rename_i replaced
        rw [if_neg replaced]
        exact limited held

theorem withdraw_live : (control.withdraw socket).Live other ↔ control.Live other ∧ other ≠ socket := by
  rw [withdraw_eq, Live, sameClients_leaveAll.closed]
  exact live_retire

theorem withdraw_peerId : ((control.withdraw socket).data other).peerId = (control.data other).peerId := by
  rw [withdraw_eq, sameClients_leaveAll.peerId, peerId_retire]

theorem withdraw_sockets : (control.withdraw socket).socketsByPeerId = (control.retire socket).socketsByPeerId := by
  rw [withdraw_eq, sameClients_leaveAll.socketsByPeerId]

theorem emptied_withdraw (linked : Linked control) (emptied : ∀ socket, ¬ control.Live socket → (control.data socket).rooms = [])
    (gone : ¬ (control.withdraw socket).Live other) : ((control.withdraw socket).data other).rooms = [] := by
  by_cases itself : other = socket
  · rw [itself]
    exact withdraw_rooms linked
  · rw [withdraw_other itself]
    exact emptied other fun live => gone (withdraw_live.mpr ⟨live, itself⟩)

theorem identified_withdraw (linked : Linked control)
    (identified : ∀ socket, (control.data socket).rooms ≠ [] → (control.data socket).peerId ≠ none)
    (inside : ((control.withdraw socket).data other).rooms ≠ []) : ((control.withdraw socket).data other).peerId ≠ none := by
  by_cases itself : other = socket
  · rw [itself, withdraw_rooms linked] at inside
    exact absurd rfl inside
  · rw [withdraw_other itself] at inside ⊢
    exact identified other inside

theorem limits_withdraw {name : PeerId} (held : (control.withdraw socket).socketsByPeerId.get? name = some other)
    (limited : control.socketsByPeerId.get? name = some other → control.deviceLimits.contains name = true) :
    (control.withdraw socket).deviceLimits.contains name = true := by
  rw [withdraw_sockets] at held
  rw [withdraw_eq, leaveAll_deviceLimits]
  exact retire_limits held limited

theorem Wellkept.withdraw (kept : Wellkept control) (live : control.Live socket) : Wellkept (control.withdraw socket) where
  toLinked := kept.toLinked.withdraw
  toRegistered := by
    rw [withdraw_eq]
    exact (kept.toRegistered.retire live).same sameClients_leaveAll
  emptied := fun _ gone => emptied_withdraw kept.toLinked kept.emptied gone
  identified := fun _ inside => identified_withdraw kept.toLinked kept.identified inside
  limited := fun name other held => limits_withdraw held (kept.limited name other)

theorem ensureDeviceLimit_contains : (control.ensureDeviceLimit peerId now).deviceLimits.contains peerId = true := by
  unfold ensureDeviceLimit
  split
  · rename_i found
    rw [Dict.contains, found]
    rfl
  · simp [setDeviceLimit, Dict.contains]

/-- What holds after the device has moved to the client. -/
theorem Wellkept.takeOver (kept : Wellkept control) (live : control.Live socket)
    (own : ∀ held ∈ (control.data socket).peerId, held = peerId) : Wellkept (control.takeOver socket peerId now) := by
  have linked : Linked (control.setRegistered socket peerId) := kept.toLinked.same sameRooms_setRegistered
  have emptied : ∀ other, ¬ (control.setRegistered socket peerId).Live other →
      ((control.setRegistered socket peerId).data other).rooms = [] := by
    intro other gone
    rw [sameRooms_setRegistered.joined]
    exact kept.emptied other fun alive => gone (live_setRegistered.mpr alive)
  have identified : ∀ other, ((control.setRegistered socket peerId).data other).rooms ≠ [] →
      ((control.setRegistered socket peerId).data other).peerId ≠ none := by
    intro other inside
    rw [sameRooms_setRegistered.joined] at inside
    rw [setRegistered_data]
    split
    · exact Option.some_ne_none _
    · exact kept.identified other inside
  have limited : ∀ name other, name ≠ peerId → (control.setRegistered socket peerId).socketsByPeerId.get? name = some other →
      (control.setRegistered socket peerId).deviceLimits.contains name = true := by
    intro name other different held
    change (control.socketsByPeerId.set peerId socket).get? name = some other at held
    rw [Dict.get?_set, if_neg different] at held
    exact kept.limited name other held
  have registered := @Registered.takeOver control socket peerId now kept.toRegistered live own
  unfold ControlState.takeOver at registered ⊢
  split
  · rename_i alone
    simp only [alone] at registered
    refine ⟨linked.same aside_ensureDeviceLimit.toSameRooms, registered, ?_, ?_, ?_⟩
    · intro other gone
      rw [ensureDeviceLimit_data]
      rw [Live, ensureDeviceLimit_data] at gone
      exact emptied other gone
    · intro other inside
      rw [ensureDeviceLimit_data] at inside ⊢
      exact identified other inside
    · intro name other held
      by_cases same : name = peerId
      · rw [same]
        exact ensureDeviceLimit_contains
      · rw [aside_ensureDeviceLimit.socketsByPeerId] at held
        exact aside_ensureDeviceLimit.limits name (limited name other same held)
  · rename_i previous taken
    simp only [taken] at registered
    refine ⟨linked.withdraw.same aside_ensureDeviceLimit.toSameRooms, registered, ?_, ?_, ?_⟩
    · intro other gone
      rw [ensureDeviceLimit_data]
      rw [Live, ensureDeviceLimit_data] at gone
      exact emptied_withdraw linked emptied gone
    · intro other inside
      rw [ensureDeviceLimit_data] at inside ⊢
      exact identified_withdraw linked identified inside
    · intro name other held
      by_cases same : name = peerId
      · rw [same]
        exact ensureDeviceLimit_contains
      · rw [aside_ensureDeviceLimit.socketsByPeerId] at held
        exact aside_ensureDeviceLimit.limits name (limits_withdraw held (limited name other same))

/-! ## A new client -/

theorem addClient_data {data : ClientData} : (control.addClient socket data).data other =
    if other = socket then data else control.data other := by
  simp only [ControlState.data, addClient, Dict.get?_set]
  split <;> rfl

theorem total_addClient {data : ClientData} {weight : ClientData → Nat} (new : control.sockets.get? socket = none) :
    (control.addClient socket data).sockets.total weight = control.sockets.total weight + weight data := by
  have weights := @Dict.total_set _ _ _ socket data control.sockets weight
  have nothing : control.sockets.weightAt weight socket = 0 := by simp [Dict.weightAt, new]
  rw [nothing] at weights
  exact weights

theorem data_new (new : control.sockets.get? socket = none) : control.data socket = ControlState.unopened := by
  simp [ControlState.data, new]

theorem sameRooms_addClient {data : ClientData} (new : control.sockets.get? socket = none) (rooms : data.rooms = [])
    (signals : data.signals = ∅) : SameRooms control (control.addClient socket data) := by
  have weightless : signalsLength data = 0 := by
    rw [signalsLength, signals]
    rfl
  refine ⟨rfl, ?_, ?_, rfl, ?_⟩
  · intro other
    rw [addClient_data]
    split
    · rename_i itself
      rw [itself, data_new new, rooms]
      rfl
    · rfl
  · intro other
    rw [addClient_data]
    split
    · rename_i itself
      rw [itself, data_new new, signals]
      rfl
    · rfl
  · rw [ControlState.retained, total_addClient new, weightless]
    rfl

theorem Registered.addClient {data : ClientData} (registered : Registered control) (new : control.sockets.get? socket = none)
    (live : data.closed = false) (device : data.peerId = none) : Registered (control.addClient socket data) := by
  refine ⟨?_, ?_⟩
  · intro ip
    have before := registered.counted ip
    have own := registered.counted data.ip
    rw [liveFor, total_addClient new, countsFor, ← liveFor]
    simp only [countFor, ControlState.addClient, Dict.get?_set] at before own ⊢
    by_cases itself : data.ip = ip
    · subst itself
      simp [live, before]
    · simp [itself, Ne.symm itself, before]
  · intro peerId other
    have before := registered.registered peerId other
    change control.socketsByPeerId.get? peerId = some other ↔ _
    rw [before, Live, Live, addClient_data]
    split
    · rename_i itself
      rw [itself, data_new new, device]
      simp [ControlState.unopened]
    · rfl

theorem Wellkept.addClient {data : ClientData} (kept : Wellkept control) (new : control.sockets.get? socket = none)
    (live : data.closed = false) (rooms : data.rooms = []) (signals : data.signals = ∅) (device : data.peerId = none) :
    Wellkept (control.addClient socket data) := by
  have same := sameRooms_addClient new rooms signals
  refine ⟨kept.toLinked.same same, kept.toRegistered.addClient new live device, ?_, ?_, kept.limited⟩
  · intro other gone
    rw [same.joined]
    rw [Live, addClient_data] at gone
    split at gone
    · rename_i itself
      rw [itself, data_new new]
      rfl
    · exact kept.emptied other gone
  · intro other inside
    rw [same.joined] at inside
    rw [addClient_data]
    split
    · rename_i itself
      rw [itself, data_new new] at inside
      exact absurd rfl inside
    · exact kept.identified other inside

theorem empty_wellkept : Wellkept empty := by
  refine ⟨⟨?_, ?_, ?_, ?_, ?_, ?_, ?_⟩, ⟨?_, ?_⟩, ?_, ?_, ?_⟩
  · intro socket roomId
    have nobody : empty.membersOf roomId = [] := rfl
    have nowhere : (empty.data socket).rooms = [] := rfl
    rw [nobody, nowhere]
    simp
  · exact nofun
  · exact fun _ => List.nodup_nil
  · exact nofun
  · exact nofun
  · rfl
  · exact Int.natCast_nonneg _
  · exact fun _ => rfl
  · intro peerId socket
    exact ⟨nofun, fun ⟨live, _⟩ => nomatch (live : true = false)⟩
  · exact fun _ _ => rfl
  · exact fun _ inside => absurd rfl inside
  · exact nofun

end ControlState

end MeshTalk.Control
