import MeshTalk.Control.Walks

namespace MeshTalk.Control

open MeshTalk.Library ControlState WorkerState

/-! # Who sees what

Memberships, registrations and retained signals go back to messages of the clients
that have them, so a signal only reaches clients that have presented the
authentication value of its room, and a relay frame only goes to a device in a
room with its sender.
-/

namespace Grounds

variable (grounds : Grounds)

/-- The client has asked for the signal to be retained. -/
def Retains (socket : Socket) (roomId : RoomId) (payload : Text) : Prop :=
  ∃ message, grounds.asks socket message ∧ message.type = .signal ∧ message.roomId = some roomId ∧ message.payload = some payload

/-- The client has signed a registration of its connection with the key of the device. -/
def Registers (crypto : Crypto) (socket : Socket) (data : ClientData) (peerId : PeerId) : Prop :=
  ∃ message signed, grounds.asks socket message ∧ message.type = .deviceRegister ∧ message.registration? = some signed ∧
    signed.Proves crypto data ∧ signed.registration.peerId = peerId

/-- Somebody who presented the same value of the room has sent the signal there. -/
def Shares (socket : Socket) (roomId : RoomId) (payload : Text) : Prop :=
  ∃ author roomAuth, grounds.Presents author roomId roomAuth ∧ grounds.Retains author roomId payload ∧
    grounds.Presents socket roomId roomAuth

end Grounds

/-- What the tables and the frames on the wire owe to the messages of clients. -/
structure Attested (crypto : Crypto) (grounds : Grounds) (control : ControlState) : Prop where
  inside : ∀ socket roomId, roomId ∈ (control.data socket).rooms → socket ∈ control.membersOf roomId
  presented : ∀ roomId room, control.rooms.get? roomId = some room → ∀ member ∈ room.members, grounds.Presents member roomId room.auth
  authorized : ∀ roomId room, control.rooms.get? roomId = some room → isRoomAuth room.auth = true
  retained : ∀ socket roomId payload, control.signalOf socket roomId = some payload → grounds.Retains socket roomId payload
  proven : ∀ socket peerId, (control.data socket).peerId = some peerId → grounds.Registers crypto socket (control.data socket) peerId
  shared : ∀ socket frame, .sent socket frame ∈ control.wire → ∀ content ∈ frame.contents, grounds.Shares socket content.1 content.2

/-- Updates of what no message has to account for. -/
structure SameStanding (before after : ControlState) : Prop where
  rooms : after.rooms = before.rooms
  joined : ∀ socket, (after.data socket).rooms = (before.data socket).rooms
  signals : ∀ socket, (after.data socket).signals = (before.data socket).signals
  peerId : ∀ socket, (after.data socket).peerId = (before.data socket).peerId
  greeted : ∀ socket, greeting (after.data socket) = greeting (before.data socket)

section

variable {context : Context} {crypto : Crypto} {grounds more : Grounds} {control after : ControlState} {socket other : Socket}
  {roomId : RoomId} {roomAuth payload : Text} {peerId : PeerId} {frame : Frame}

theorem empty_attested : Attested crypto grounds empty where
  inside _ _ listed := nomatch listed
  presented _ _ found := nomatch found
  authorized _ _ found := nomatch found
  retained _ _ _ found := nomatch found
  proven _ _ found := nomatch found
  shared _ _ listed := nomatch listed

theorem Grounds.Presents.mono (presents : grounds.Presents socket roomId roomAuth)
    (grown : ∀ socket message, grounds.asks socket message → more.asks socket message) : more.Presents socket roomId roomAuth := by
  obtain ⟨message, asked, named⟩ := presents
  exact ⟨message, grown socket message asked, named⟩

theorem Grounds.Retains.mono (retains : grounds.Retains socket roomId payload)
    (grown : ∀ socket message, grounds.asks socket message → more.asks socket message) : more.Retains socket roomId payload := by
  obtain ⟨message, asked, named⟩ := retains
  exact ⟨message, grown socket message asked, named⟩

/-- More messages, and an empty wire. -/
theorem Attested.quiet (attested : Attested crypto grounds control)
    (grown : ∀ socket message, grounds.asks socket message → more.asks socket message) : Attested crypto more control.quiet where
  inside := attested.inside
  presented roomId room found member listed := (attested.presented roomId room found member listed).mono grown
  authorized := attested.authorized
  retained socket roomId payload kept := (attested.retained socket roomId payload kept).mono grown
  proven socket peerId named := by
    obtain ⟨message, signed, asked, claimed⟩ := attested.proven socket peerId named
    exact ⟨message, signed, grown socket message asked, claimed⟩
  shared _ _ listed := nomatch listed

theorem Grounds.Registers.greeted {data own : ClientData} (registers : grounds.Registers crypto socket data peerId)
    (same : greeting own = greeting data) : grounds.Registers crypto socket own peerId := by
  obtain ⟨message, signed, asked, type, claimed, proves, named⟩ := registers
  have challengeId : own.challengeId = data.challengeId := congrArg (fun greeted => greeted.2.1) same
  have challenge : own.challenge = data.challenge := congrArg (fun greeted => greeted.2.2) same
  refine ⟨message, signed, asked, type, claimed, ⟨?_, ?_, proves.named, proves.verified⟩, named⟩
  · rw [challengeId, proves.challengeId]
  · rw [challenge, proves.nonce]

theorem Attested.same (attested : Attested crypto grounds control) (same : SameStanding control after)
    (shared : ∀ socket frame, .sent socket frame ∈ after.wire → ∀ content ∈ frame.contents, grounds.Shares socket content.1 content.2) :
    Attested crypto grounds after := by
  have members : ∀ roomId, after.membersOf roomId = control.membersOf roomId := fun roomId => membersOf_congr (by rw [same.rooms])
  refine ⟨?_, ?_, ?_, ?_, ?_, shared⟩
  · intro socket roomId listed
    rw [same.joined] at listed
    rw [members]
    exact attested.inside socket roomId listed
  · intro roomId room found
    rw [same.rooms] at found
    exact attested.presented roomId room found
  · intro roomId room found
    rw [same.rooms] at found
    exact attested.authorized roomId room found
  · intro socket roomId payload kept
    rw [signalOf, same.signals] at kept
    exact attested.retained socket roomId payload kept
  · intro socket peerId named
    rw [same.peerId] at named
    exact (attested.proven socket peerId named).greeted (same.greeted socket)

theorem Attested.silent (attested : Attested crypto grounds control) (same : SameStanding control after)
    (wire : after.wire = control.wire) : Attested crypto grounds after := by
  refine attested.same same fun socket frame listed => ?_
  rw [wire] at listed
  exact attested.shared socket frame listed

theorem ControlState.Aside.standing (aside : Aside control after) : SameStanding control after :=
  ⟨aside.rooms, aside.joined, aside.signals, aside.peerId, aside.greeted⟩

/-- An update of one client's data. -/
theorem standing_modify {update : ClientData → ClientData} (rooms : (update (control.data socket)).rooms = (control.data socket).rooms)
    (signals : (update (control.data socket)).signals = (control.data socket).signals)
    (peerId : (update (control.data socket)).peerId = (control.data socket).peerId)
    (greeted : greeting (update (control.data socket)) = greeting (control.data socket)) :
    SameStanding control (control.modify socket update) := by
  refine ⟨rfl, fun other => ?_, fun other => ?_, fun other => ?_, fun other => ?_⟩ <;>
    by_cases itself : other = socket <;> simp [itself, rooms, signals, peerId, greeted]

theorem standing_forgets : SameStanding control ((control.forgetDevice socket).releaseConnection socket) := by
  have rooms : (control.forgetDevice socket).rooms = control.rooms := by
    unfold forgetDevice
    split
    · rfl
    · split <;> rfl
  refine ⟨rooms, fun other => ?_, fun other => ?_, fun other => ?_, fun other => ?_⟩ <;> simp

theorem wire_forgets : ((control.forgetDevice socket).releaseConnection socket).wire = control.wire := by
  change (control.forgetDevice socket).wire = control.wire
  unfold forgetDevice
  split
  · rfl
  · split <;> rfl

/-! ## Each update -/

/-- The values that are compared are texts of hexadecimal digits. -/
theorem auth_of_fromHex {own : Text} (authorized : isRoomAuth own = true) (valid : isRoomAuth roomAuth = true)
    (same : fromHex own = fromHex roomAuth) : own = roomAuth := by
  simp only [isRoomAuth, matchesHex, Bool.and_eq_true, decide_eq_true_eq] at authorized valid
  exact @fromHex_injective own roomAuth 32 authorized.1 valid.1 authorized.2 valid.2 same

theorem Attested.member (attested : Attested crypto grounds control) (inside : control.Inside socket roomId) :
    socket ∈ control.membersOf roomId := inside.elim id (attested.inside socket roomId)

theorem Attested.presents (attested : Attested crypto grounds control) (listed : socket ∈ control.membersOf roomId) :
    ∃ room, control.rooms.get? roomId = some room ∧ grounds.Presents socket roomId room.auth := by
  cases found : control.rooms.get? roomId with
  | none => simp [membersOf_none found] at listed
  | some room =>
      rw [membersOf_some found] at listed
      exact ⟨room, rfl, attested.presented roomId room found socket listed⟩

/-- Who may see a signal has presented what its author has. -/
theorem Attested.entitled (attested : Attested crypto grounds control) (entitled : Entitled grounds control socket roomId payload) :
    grounds.Shares socket roomId payload := by
  obtain ⟨author, inside, kept, allowed⟩ := entitled
  obtain ⟨room, found, presents⟩ := attested.presents (attested.member inside)
  refine ⟨author, room.auth, presents, attested.retained author roomId payload kept, ?_⟩
  rcases allowed with member | ⟨roomAuth, presented, valid, matching⟩
  · obtain ⟨same, held, presented⟩ := attested.presents (attested.member member)
    rw [found] at held
    cases held
    exact presented
  · have equal := auth_of_fromHex (attested.authorized roomId room found) valid (matching room found)
    rwa [equal]

theorem Attested.tells {output : Output} (attested : Attested crypto grounds control) (fair : Fair grounds control output) :
    Attested crypto grounds (control.putAll [output]) := by
  have same : SameStanding control (control.putAll [output]) := aside_putAll.standing
  refine attested.same same fun socket frame listed content carried => ?_
  rcases List.mem_append.mp listed with earlier | new
  · exact attested.shared socket frame earlier content carried
  · have sent := (List.mem_singleton.mp new).symm
    exact attested.entitled (fair.entitled socket frame sent content carried)

theorem wire_leave : (control.leave socket roomId).wire = control.wire := by
  unfold leave
  split
  · rfl
  · split <;> rfl

theorem Attested.leaves (attested : Attested crypto grounds control) : Attested crypto grounds (control.leave socket roomId) := by
  cases found : control.rooms.get? roomId with
  | none => rwa [leave_none found]
  | some room =>
      have left : ∀ named state, (control.leave socket roomId).rooms.get? named = some state →
          ∃ before, control.rooms.get? named = some before ∧ state.auth = before.auth ∧ ∀ member ∈ state.members, member ∈ before.members := by
        intro named state held
        rw [leave_rooms found] at held
        split at held
        · rename_i same
          split at held
          · cases held
          · cases held
            exact ⟨room, by rw [same, found], rfl, fun member listed => (List.mem_filter.mp listed).1⟩
        · exact ⟨state, held, rfl, fun _ listed => listed⟩
      refine ⟨?_, ?_, ?_, ?_, ?_, ?_⟩
      · intro client joined listed
        rw [membersOf_leave]
        rw [leave_data found] at listed
        by_cases itself : client = socket
        · simp only [itself, if_true, ClientData.without, List.mem_filter, decide_eq_true_eq] at listed
          rw [if_neg listed.2, itself]
          exact attested.inside socket joined listed.1
        · rw [if_neg itself] at listed
          have member := attested.inside client joined listed
          split
          · rename_i same
            rw [← same]
            simpa [itself] using member
          · exact member
      · intro named state held member listed
        obtain ⟨before, was, auth, fewer⟩ := left named state held
        rw [auth]
        exact attested.presented named before was member (fewer member listed)
      · intro named state held
        obtain ⟨before, was, auth, -⟩ := left named state held
        rw [auth]
        exact attested.authorized named before was
      · intro client joined payload kept
        rw [signalOf, leave_data found] at kept
        split at kept
        · rename_i itself
          simp only [ClientData.without, Dict.get?_erase] at kept
          split at kept
          · cases kept
          · rw [itself]
            exact attested.retained socket joined payload kept
        · exact attested.retained client joined payload kept
      · intro client peerId named
        rw [sameClients_leave.peerId] at named
        exact (attested.proven client peerId named).greeted (sameClients_leave.greeted client)
      · intro client frame listed
        rw [wire_leave] at listed
        exact attested.shared client frame listed

theorem wire_join : (control.join socket roomId roomAuth).wire = control.wire := by
  unfold join
  split <;> rfl

theorem Attested.joins (attested : Attested crypto grounds control) (presents : grounds.Presents socket roomId roomAuth)
    (valid : isRoomAuth roomAuth = true)
    (matching : ∀ room, control.rooms.get? roomId = some room → fromHex room.auth = fromHex roomAuth) :
    Attested crypto grounds (control.join socket roomId roomAuth) := by
  have entered : ∀ room, (control.join socket roomId roomAuth).rooms.get? roomId = some room →
      room.auth = roomAuth ∧ room.members = control.membersOf roomId ++ [socket] := by
    intro room held
    rw [join_rooms, if_pos rfl] at held
    cases found : control.rooms.get? roomId with
    | none =>
        simp only [found, Option.some.injEq] at held
        exact ⟨by rw [← held], by rw [← held]⟩
    | some before =>
        simp only [found, Option.some.injEq] at held
        have equal := auth_of_fromHex (attested.authorized roomId before found) valid (matching before found)
        exact ⟨by rw [← held, ← equal], by rw [← held]⟩
  have others : ∀ named, named ≠ roomId → (control.join socket roomId roomAuth).rooms.get? named = control.rooms.get? named := by
    intro named another
    rw [join_rooms, if_neg another]
  refine ⟨?_, ?_, ?_, ?_, ?_, ?_⟩
  · intro client joined listed
    rw [membersOf_join]
    rw [join_data] at listed
    by_cases itself : client = socket
    · rw [if_pos itself] at listed
      rcases List.mem_append.mp listed with earlier | new
      · have member := attested.inside socket joined earlier
        split
        · rename_i same
          rw [same] at member
          simp [itself]
        · rwa [itself]
      · rw [if_pos (List.mem_singleton.mp new)]
        simp [itself]
    · rw [if_neg itself] at listed
      have member := attested.inside client joined listed
      split
      · rename_i same
        rw [same] at member
        simp [member]
      · exact member
  · intro named room held member listed
    by_cases same : named = roomId
    · subst same
      obtain ⟨auth, members⟩ := entered room held
      rw [auth]
      rw [members] at listed
      rcases List.mem_append.mp listed with earlier | new
      · obtain ⟨before, found, presented⟩ := attested.presents earlier
        have equal := auth_of_fromHex (attested.authorized named before found) valid (matching before found)
        rwa [equal] at presented
      · rwa [List.mem_singleton.mp new]
    · rw [others named same] at held
      exact attested.presented named room held member listed
  · intro named room held
    by_cases same : named = roomId
    · subst same
      rw [(entered room held).1]
      exact valid
    · rw [others named same] at held
      exact attested.authorized named room held
  · intro client joined payload kept
    have same : (control.join socket roomId roomAuth).signalOf client joined = control.signalOf client joined := by
      rw [signalOf, join_data]
      by_cases itself : client = socket <;> simp [itself, signalOf, ClientData.within]
    rw [same] at kept
    exact attested.retained client joined payload kept
  · intro client peerId named
    rw [sameClients_join.peerId] at named
    exact (attested.proven client peerId named).greeted (sameClients_join.greeted client)
  · intro client frame listed
    rw [wire_join] at listed
    exact attested.shared client frame listed

theorem Attested.retains (attested : Attested crypto grounds control) (retains : grounds.Retains socket roomId payload) :
    Attested crypto grounds (control.retain socket roomId payload) := by
  refine ⟨fun client joined listed => ?_, attested.presented, attested.authorized, fun client joined text kept => ?_, ?_, attested.shared⟩
  · rw [retain_joined] at listed
    exact attested.inside client joined listed
  · rw [signalOf, retain_data] at kept
    by_cases itself : client = socket
    · simp only [itself, if_true, ClientData.signalling, Dict.get?_set] at kept
      rw [itself]
      split at kept
      · rename_i same
        cases kept
        rwa [same]
      · exact attested.retained socket joined text kept
    · rw [if_neg itself] at kept
      exact attested.retained client joined text kept
  · intro client peerId named
    rw [sameClients_retain.peerId] at named
    exact (attested.proven client peerId named).greeted (sameClients_retain.greeted client)

theorem Attested.registers (attested : Attested crypto grounds control)
    (registers : grounds.Registers crypto socket (control.data socket) peerId) :
    Attested crypto grounds (control.setRegistered socket peerId) := by
  have data : ∀ client, ((control.setRegistered socket peerId).data client).rooms = (control.data client).rooms ∧
      ((control.setRegistered socket peerId).data client).signals = (control.data client).signals ∧
      greeting ((control.setRegistered socket peerId).data client) = greeting (control.data client) := by
    intro client
    by_cases itself : client = socket <;> simp [itself, ClientData.registered, greeting]
  refine ⟨fun client joined listed => ?_, attested.presented, attested.authorized, fun client joined text kept => ?_, ?_, attested.shared⟩
  · rw [(data client).1] at listed
    exact attested.inside client joined listed
  · rw [signalOf, (data client).2.1] at kept
    exact attested.retained client joined text kept
  · intro client device named
    have unchanged := (data client).2.2
    rw [setRegistered_data] at named
    by_cases itself : client = socket
    · simp only [itself, if_true, ClientData.registered, Option.some.injEq] at named
      rw [itself] at unchanged ⊢
      rw [← named]
      exact registers.greeted unchanged
    · rw [if_neg itself] at named
      exact (attested.proven client device named).greeted unchanged

theorem Attested.opens (attested : Attested crypto grounds control) {data : ClientData} (rooms : data.rooms = [])
    (signals : data.signals = ∅) (peerId : data.peerId = none) :
    Attested crypto grounds (control.addClient socket data) := by
  refine ⟨fun client joined listed => ?_, attested.presented, attested.authorized, fun client joined text kept => ?_, ?_, attested.shared⟩
  · rw [addClient_data] at listed
    by_cases itself : client = socket
    · simp [itself, rooms] at listed
    · rw [if_neg itself] at listed
      exact attested.inside client joined listed
  · rw [signalOf, addClient_data] at kept
    by_cases itself : client = socket
    · rw [if_pos itself, signals] at kept
      cases kept
    · rw [if_neg itself] at kept
      exact attested.retained client joined text kept
  · intro client device named
    rw [addClient_data] at named ⊢
    by_cases itself : client = socket
    · rw [if_pos itself, peerId] at named
      cases named
    · rw [if_neg itself] at named ⊢
      exact attested.proven client device named

/-- Every update can be traced back to messages. -/
theorem Act.attested (act : Act context grounds control after) (attested : Attested context.crypto grounds control) :
    Attested context.crypto grounds after := by
  cases act with
  | counts after tallied limits => exact attested.silent tallied.toAside.standing tallied.wire
  | limits peerId limit after found lowered => exact attested.silent aside_setDeviceLimit.standing rfl
  | tells output fair => exact attested.tells fair
  | leaves socket roomId touched => exact attested.leaves
  | joins socket message roomId roomAuth asked named valid matching => exact attested.joins ⟨message, asked, named⟩ valid matching
  | retains socket message roomId payload asked named inside => exact attested.retains ⟨message, asked, named⟩
  | registers socket message signed asked named proves granted =>
      exact attested.registers ⟨message, signed, asked, named.1, named.2, proves, rfl⟩
  | ensures peerId granted =>
      refine attested.silent aside_ensureDeviceLimit.standing ?_
      unfold ensureDeviceLimit
      split <;> rfl
  | shuts socket touched => exact attested.silent (standing_modify rfl rfl rfl rfl) rfl
  | forgets socket touched => exact attested.silent standing_forgets wire_forgets
  | opens socket ip challengeId challenge new => exact attested.opens rfl rfl rfl

theorem Acts.attested (acts : Acts context grounds control after) (attested : Attested context.crypto grounds control) :
    Attested context.crypto grounds after := by
  induction acts with
  | refl => exact attested
  | tail _ act ih => exact act.attested ih

/-! ## Relay frames -/

/-- The frame comes from a registered device, and goes to the registered socket of
another in a room of both, whose value each of them has presented. -/
structure Relayed (crypto : Crypto) (grounds : Grounds) (control : ControlState) (recipient : Socket) (peerId : PeerId)
    (payload : Text) (sender : Socket) (recipientId : PeerId) (roomId : RoomId) (roomAuth : Text) : Prop where
  asked : ∃ message, grounds.asks sender message ∧ message.relayed? = some (recipientId, payload)
  another : peerId ≠ recipientId
  sends : control.socketsByPeerId.get? peerId = some sender
  receives : control.socketsByPeerId.get? recipientId = some recipient
  live : control.Live sender ∧ control.Live recipient
  members : sender ∈ control.membersOf roomId ∧ recipient ∈ control.membersOf roomId
  room : ∃ room, control.rooms.get? roomId = some room ∧ room.auth = roomAuth
  presented : grounds.Presents sender roomId roomAuth ∧ grounds.Presents recipient roomId roomAuth
  proven : grounds.Registers crypto sender (control.data sender) peerId ∧
    grounds.Registers crypto recipient (control.data recipient) recipientId

/-- Nothing but tables of limits and the wire has changed when the frame is on its way. -/
theorem Forward.aside (forward : Forward context grounds control after) : Aside control after := by
  rw [forward.result]
  exact (aside_setDeviceLimit.trans aside_setDeviceLimit).trans aside_putAll

/-- The rooms that two clients share are the same in both runtimes: those who are gone have none. -/
theorem shared_room {recipientId : PeerId} (own : (control.data socket).peerId = some peerId)
    (emptied : context.runtime = .worker ∨ ∀ other roomId, other ∈ control.membersOf roomId → control.Live other)
    (shared : peersShareRoom context control socket recipientId = true) :
    peerId ≠ recipientId ∧ ∃ roomId ∈ (control.data socket).rooms, ∃ member ∈ control.membersOf roomId,
      control.Live member ∧ (control.data member).peerId = some recipientId := by
  simp only [peersShareRoom, own, Bool.and_eq_true, decide_eq_true_eq, List.any_eq_true] at shared
  obtain ⟨another, roomId, joined, member, listed, device⟩ := shared
  obtain ⟨data, found, named⟩ := Option.bind_eq_some_iff.mp device
  refine ⟨another, roomId, joined, member, listed, ?_⟩
  cases runtime : context.runtime with
  | worker =>
      simp only [Context.clientOf, runtime] at found
      split at found
      · cases found
      · rename_i present
        cases found
        exact ⟨by simpa [Live] using present, named⟩
  | bun =>
      simp only [Context.clientOf, runtime, Option.some.injEq] at found
      rw [runtime] at emptied
      refine ⟨(emptied.resolve_left fun other => by cases other) member roomId listed, ?_⟩
      rwa [found]

theorem Forward.relayed (forward : Forward context grounds control after) (registered : Registered after)
    (emptied : context.runtime = .worker ∨ ∀ other roomId, other ∈ after.membersOf roomId → after.Live other)
    (attested : Attested context.crypto grounds after) :
    ∃ roomId roomAuth, Relayed context.crypto grounds after forward.recipient forward.peerId forward.payload forward.sender
      forward.recipientId roomId roomAuth := by
  have aside := forward.aside
  have live : after.Live forward.sender := by
    rw [Live, aside.closed]
    exact forward.live
  have own : (after.data forward.sender).peerId = some forward.peerId := by
    rw [aside.peerId]
    exact forward.own
  have receives : after.socketsByPeerId.get? forward.recipientId = some forward.recipient := by
    rw [aside.socketsByPeerId]
    exact forward.registered
  have shares : peersShareRoom context after forward.sender forward.recipientId = true := by
    rw [aside.peersShareRoom]
    exact forward.shared
  obtain ⟨another, roomId, joined, member, listed, alive, device⟩ := shared_room own emptied shares
  have same : member = forward.recipient := by
    have holder := (registered.registered forward.recipientId member).mpr ⟨alive, device⟩
    rw [receives] at holder
    exact (Option.some.inj holder).symm
  subst same
  obtain ⟨room, found, presented⟩ := attested.presents (attested.inside forward.sender roomId joined)
  obtain ⟨again, held, presents⟩ := attested.presents listed
  rw [found] at held
  cases held
  exact ⟨roomId, room.auth, ⟨forward.message, forward.asked, forward.named⟩, another,
    (registered.registered forward.peerId forward.sender).mpr ⟨live, own⟩, receives, ⟨live, alive⟩,
    ⟨attested.inside forward.sender roomId joined, listed⟩, ⟨room, found, rfl⟩, ⟨presented, presents⟩,
    attested.proven forward.sender forward.peerId own, attested.proven forward.recipient forward.recipientId device⟩

theorem Act.unrelayed (act : Act context grounds control after) (direct : ∀ output ∈ control.wire, output.isRelay = false) :
    ∀ output ∈ after.wire, output.isRelay = false := by
  cases act with
  | counts after tallied limits =>
      rw [tallied.wire]
      exact direct
  | tells output fair =>
      intro other listed
      rcases List.mem_append.mp listed with earlier | new
      · exact direct other earlier
      · rw [List.mem_singleton.mp new]
        exact fair.direct
  | leaves socket roomId touched =>
      rw [wire_leave]
      exact direct
  | joins socket message roomId roomAuth asked named valid matching =>
      rw [wire_join]
      exact direct
  | ensures peerId granted =>
      unfold ensureDeviceLimit
      split <;> exact direct
  | forgets socket touched =>
      rw [wire_forgets]
      exact direct
  | limits peerId limit after found lowered => exact direct
  | retains socket message roomId payload asked named inside => exact direct
  | registers socket message signed asked named proves granted => exact direct
  | shuts socket touched => exact direct
  | opens socket ip challengeId challenge new => exact direct

theorem Acts.unrelayed (acts : Acts context grounds control after) (direct : ∀ output ∈ control.wire, output.isRelay = false) :
    ∀ output ∈ after.wire, output.isRelay = false := by
  induction acts with
  | refl => exact direct
  | tail _ act ih => exact act.unrelayed ih

theorem Forward.attested (forward : Forward context grounds control after) (attested : Attested context.crypto grounds control) :
    Attested context.crypto grounds after := by
  refine attested.same forward.aside.standing fun client frame listed content carried => ?_
  rw [forward.result] at listed
  rcases List.mem_append.mp listed with earlier | new
  · exact attested.shared client frame earlier content carried
  · cases List.mem_singleton.mp new
    cases carried

theorem Ends.attested (ends : Ends context grounds control after) (attested : Attested context.crypto grounds control) :
    Attested context.crypto grounds after := by
  rcases ends with acts | ⟨middle, acts, ⟨forward⟩⟩
  · exact acts.attested attested
  · exact forward.attested (acts.attested attested)

/-- The one relay frame of an event. -/
theorem Ends.forward {recipient : Socket} (ends : Ends context grounds control.quiet after)
    (sent : .sent recipient (.relay peerId payload) ∈ after.wire) :
    ∃ middle, ∃ forward : Forward context grounds middle after,
      forward.recipient = recipient ∧ forward.peerId = peerId ∧ forward.payload = payload := by
  have direct : ∀ {final : ControlState}, Acts context grounds control.quiet final → ∀ output ∈ final.wire, output.isRelay = false :=
    fun acts => acts.unrelayed fun _ listed => nomatch listed
  rcases ends with acts | ⟨middle, acts, ⟨forward⟩⟩
  · cases direct acts _ sent
  · refine ⟨middle, forward, ?_⟩
    rw [forward.result] at sent
    rcases List.mem_append.mp sent with earlier | new
    · cases direct acts _ earlier
    · cases List.mem_singleton.mp new
      exact ⟨rfl, rfl, rfl⟩

end

/-! ## Runs -/

/-- The event of a client, where it is one. -/
def WorkerEvent.client? : WorkerEvent → Option ClientEvent
  | .client event => some event
  | _ => none

/-- The messages that clients have sent. -/
def sentIn (events : List ClientEvent) : Grounds where
  asks socket message := ∃ raw, .message socket raw ∈ events ∧ Bun.readMessage raw.content = message
  grants _ := True
  ends _ := True

def Bun.sent (turns : List Turn) : Grounds := sentIn (turns.map Turn.event)

def Worker.sent (turns : List WorkerTurn) : Grounds := sentIn (turns.filterMap fun turn => turn.event.client?)

/-- The tables, the signals and the relay frames of one state. -/
structure Traced (crypto : Crypto) (grounds : Grounds) (control : ControlState) : Prop where
  attested : Attested crypto grounds control
  relayed : ∀ recipient peerId payload, .sent recipient (.relay peerId payload) ∈ control.wire →
    ∃ sender recipientId roomId roomAuth, Relayed crypto grounds control recipient peerId payload sender recipientId roomId roomAuth

theorem Ends.traced {context : Context} {grounds more : Grounds} {control after : ControlState}
    (ends : Ends context more control.quiet after) (attested : Attested context.crypto grounds control)
    (grown : ∀ socket message, grounds.asks socket message → more.asks socket message) (registered : Registered after)
    (emptied : context.runtime = .worker ∨ ∀ other roomId, other ∈ after.membersOf roomId → after.Live other) :
    Traced context.crypto more after := by
  have kept := ends.attested (attested.quiet grown)
  refine ⟨kept, fun recipient peerId payload sent => ?_⟩
  obtain ⟨middle, forward, rfl, rfl, rfl⟩ := ends.forward sent
  obtain ⟨roomId, roomAuth, relayed⟩ := forward.relayed registered emptied kept
  exact ⟨forward.sender, forward.recipientId, roomId, roomAuth, relayed⟩

theorem Bun.run_traced {deployment : Deployment} {turns : List Turn} {control : ControlState}
    (ran : run (Bun.step deployment) .empty turns = some control) :
    Traced deployment.crypto (Bun.sent turns) control ∧ Wellkept control := by
  refine @run_history _ _ (Bun.step deployment) .empty control turns []
    (fun before state => Traced deployment.crypto (Bun.sent before) state ∧ Wellkept state) ?_ ?_ ran
  · rintro before state turn next ⟨traced, kept⟩ stepped
    have left := Bun.step_wellkept kept stepped
    have asks : ∀ socket raw, turn.event = .message socket raw → (Bun.sent (before ++ [turn])).asks socket (readMessage raw.content) :=
      fun socket raw same => ⟨raw, by simp [same], rfl⟩
    have ends := Bun.step_ends asks (fun _ _ _ _ _ _ => ⟨trivial, fun _ _ => trivial⟩) (fun _ _ => trivial) stepped
    have grown : ∀ socket message, (Bun.sent before).asks socket message → (Bun.sent (before ++ [turn])).asks socket message := by
      rintro socket message ⟨raw, listed, read⟩
      exact ⟨raw, by simp [listed], read⟩
    have alive : ∀ other roomId, other ∈ next.membersOf roomId → next.Live other := fun other roomId listed => (left.member listed).1
    exact ⟨ends.traced traced.attested grown left.toRegistered (.inr alive), left⟩
  · exact ⟨⟨empty_attested, fun _ _ _ listed => nomatch listed⟩, empty_wellkept⟩

theorem Worker.run_traced {deployment : Deployment} {turns : List WorkerTurn} {worker : WorkerState}
    (ran : run (Worker.step deployment) .empty turns = some worker) :
    Traced deployment.crypto (Worker.sent turns) worker.control ∧ worker.Attended (Worker.sent turns) ∧ worker.Kept deployment.crypto := by
  refine @run_history _ _ (Worker.step deployment) .empty worker turns []
    (fun before state => Traced deployment.crypto (Worker.sent before) state.control ∧ state.Attended (Worker.sent before) ∧
      state.Kept deployment.crypto) ?_ ?_ ran
  · rintro before state turn next ⟨traced, attended, kept⟩ stepped
    have left := Worker.step_kept kept stepped
    have grown : ∀ socket message, (Worker.sent before).asks socket message → (Worker.sent (before ++ [turn])).asks socket message := by
      rintro socket message ⟨raw, listed, read⟩
      exact ⟨raw, by simp [listed], read⟩
    have asks : ∀ socket raw, turn.event = .client (.message socket raw) →
        (Worker.sent (before ++ [turn])).asks socket (Bun.readMessage raw.content) := by
      intro socket raw same
      refine ⟨raw, ?_, rfl⟩
      simp [same, WorkerEvent.client?]
    have turns := Worker.step_turns kept asks (fun _ _ _ _ => ⟨trivial, fun _ _ => trivial⟩) (fun _ _ => trivial) stepped
    have quiet : WorkerState.Attended (Worker.sent (before ++ [turn])) { state with control := state.control.quiet } :=
      ⟨fun entry queued => grown _ _ (attended.queued entry queued), fun stage waits => grown _ _ (attended.waits stage waits)⟩
    obtain ⟨ends, attends⟩ := turns quiet
    exact ⟨ends.traced traced.attested grown left.steady.sound.toRegistered (.inl rfl), attends, left⟩
  · refine ⟨⟨empty_attested, fun _ _ _ listed => nomatch listed⟩, ⟨fun _ listed => (nomatch listed), fun _ waits => (nomatch waits)⟩, ?_⟩
    exact WorkerState.empty_kept

/-- Whatever clients send, a relay frame only goes to a device that shares a room with
the sender, each of them registered and with the value of the room. -/
theorem relay_frames_stay_in_rooms (deployment : Deployment) :
    (∀ turns control, run (Bun.step deployment) .empty turns = some control → ∀ recipient peerId payload,
      .sent recipient (.relay peerId payload) ∈ control.wire → ∃ sender recipientId roomId roomAuth,
        Relayed deployment.crypto (Bun.sent turns) control recipient peerId payload sender recipientId roomId roomAuth) ∧
    ∀ turns worker, run (Worker.step deployment) .empty turns = some worker → ∀ recipient peerId payload,
      .sent recipient (.relay peerId payload) ∈ worker.control.wire → ∃ sender recipientId roomId roomAuth,
        Relayed deployment.crypto (Worker.sent turns) worker.control recipient peerId payload sender recipientId roomId roomAuth :=
  ⟨fun _ _ ran => (Bun.run_traced ran).1.relayed, fun _ _ ran => (Worker.run_traced ran).1.relayed⟩

namespace Sample

/-- `AA==` for the device of the second client. -/
def relaying : ControlMessage := { type := .relay, recipientId := some (name 98), payload := some [65, 65, 61, 61] }

def signalling : ControlMessage := { type := .signal, roomId := some room, payload := some [49] }

/-- Two clients meet in a room, and the first one sends a message. -/
def meeting (message : ControlMessage) : List ClientEvent := arrives 1 97 ++ arrives 2 98 ++ [tells 1 message]

def workerMeeting (message : ControlMessage) : List WorkerTurn :=
  workerArrives 1 97 ++ workerArrives 2 98 ++ drained (tells 1 message) 0

end Sample

/-- Two clients of a room, and a frame from one to the other. -/
theorem frame_is_relayed_in_a_room :
    (∃ control, run (Bun.step Sample.deployment) .empty (Sample.turns (Sample.meeting Sample.relaying)) = some control ∧
      ∃ sender recipientId roomId roomAuth, Relayed Sample.deployment.crypto (Bun.sent (Sample.turns (Sample.meeting Sample.relaying)))
        control 2 (Sample.name 97) [65, 65, 61, 61] sender recipientId roomId roomAuth) ∧
    ∃ worker, run (Worker.step Sample.deployment) .empty (Sample.workerMeeting Sample.relaying) = some worker ∧
      ∃ sender recipientId roomId roomAuth, Relayed Sample.deployment.crypto (Worker.sent (Sample.workerMeeting Sample.relaying))
        worker.control 2 (Sample.name 97) [65, 65, 61, 61] sender recipientId roomId roomAuth := by
  have first : ((run (Bun.step Sample.deployment) .empty (Sample.turns (Sample.meeting Sample.relaying))).map
      fun control => control.wire) = some [.sent 2 (.relay (Sample.name 97) [65, 65, 61, 61])] := by
    decide +kernel
  have second : ((run (Worker.step Sample.deployment) .empty (Sample.workerMeeting Sample.relaying)).map
      fun worker => worker.control.wire) = some [.sent 2 (.relay (Sample.name 97) [65, 65, 61, 61])] := by
    decide +kernel
  obtain ⟨control, reached, wire⟩ := Option.map_eq_some_iff.mp first
  obtain ⟨worker, arrived, sent⟩ := Option.map_eq_some_iff.mp second
  exact ⟨⟨control, reached, (relay_frames_stay_in_rooms Sample.deployment).1 _ _ reached _ _ _ (by simp [wire])⟩,
    worker, arrived, (relay_frames_stay_in_rooms Sample.deployment).2 _ _ arrived _ _ _ (by simp [sent])⟩

/-- The device that a socket is registered for has signed the challenge of that very
connection, with the key that the device is named after. -/
theorem registered_devices_prove_their_keys (deployment : Deployment) :
    (∀ turns control, run (Bun.step deployment) .empty turns = some control → ∀ peerId socket,
      control.socketsByPeerId.get? peerId = some socket →
        control.Live socket ∧ (Bun.sent turns).Registers deployment.crypto socket (control.data socket) peerId) ∧
    ∀ turns worker, run (Worker.step deployment) .empty turns = some worker → ∀ peerId socket,
      worker.control.socketsByPeerId.get? peerId = some socket →
        worker.control.Live socket ∧ (Worker.sent turns).Registers deployment.crypto socket (worker.data socket) peerId := by
  refine ⟨fun turns control ran peerId socket held => ?_, fun turns worker ran peerId socket held => ?_⟩
  · obtain ⟨traced, kept⟩ := Bun.run_traced ran
    obtain ⟨live, named⟩ := (kept.registered peerId socket).mp held
    exact ⟨live, traced.attested.proven socket peerId named⟩
  · obtain ⟨traced, -, kept⟩ := Worker.run_traced ran
    obtain ⟨live, named⟩ := (kept.steady.sound.registered peerId socket).mp held
    exact ⟨live, traced.attested.proven socket peerId named⟩

/-- A client that registers, in both runtimes. -/
theorem registered_client_proves_its_key :
    (∃ control, run (Bun.step Sample.deployment) .empty (Sample.turns (Sample.arrives 1 97)) = some control ∧
      (Bun.sent (Sample.turns (Sample.arrives 1 97))).Registers Sample.deployment.crypto 1 (control.data 1) (Sample.name 97)) ∧
    ∃ worker, run (Worker.step Sample.deployment) .empty (Sample.workerArrives 1 97) = some worker ∧
      (Worker.sent (Sample.workerArrives 1 97)).Registers Sample.deployment.crypto 1 (worker.data 1) (Sample.name 97) := by
  have first : ((run (Bun.step Sample.deployment) .empty (Sample.turns (Sample.arrives 1 97))).map
      fun control => control.socketsByPeerId.get? (Sample.name 97)) = some (some 1) := by
    decide +kernel
  have second : ((run (Worker.step Sample.deployment) .empty (Sample.workerArrives 1 97)).map
      fun worker => worker.control.socketsByPeerId.get? (Sample.name 97)) = some (some 1) := by
    decide +kernel
  obtain ⟨control, reached, held⟩ := Option.map_eq_some_iff.mp first
  obtain ⟨worker, arrived, holds⟩ := Option.map_eq_some_iff.mp second
  exact ⟨⟨control, reached, ((registered_devices_prove_their_keys Sample.deployment).1 _ _ reached _ _ held).2⟩,
    worker, arrived, ((registered_devices_prove_their_keys Sample.deployment).2 _ _ arrived _ _ holds).2⟩

/-- A signal only reaches clients that have presented the authentication value under
which its author was in the room. -/
theorem signals_stay_with_presenters (deployment : Deployment) :
    (∀ turns control, run (Bun.step deployment) .empty turns = some control → ∀ socket frame,
      .sent socket frame ∈ control.wire → ∀ content ∈ frame.contents, (Bun.sent turns).Shares socket content.1 content.2) ∧
    ∀ turns worker, run (Worker.step deployment) .empty turns = some worker → ∀ socket frame,
      .sent socket frame ∈ worker.control.wire → ∀ content ∈ frame.contents, (Worker.sent turns).Shares socket content.1 content.2 :=
  ⟨fun _ _ ran => (Bun.run_traced ran).1.attested.shared, fun _ _ ran => (Worker.run_traced ran).1.attested.shared⟩

/-- Two clients of a room, and a signal from one to the other. -/
theorem signal_is_shared_in_a_room :
    (Bun.sent (Sample.turns (Sample.meeting Sample.signalling))).Shares 2 Sample.room [49] ∧
      (Worker.sent (Sample.workerMeeting Sample.signalling)).Shares 2 Sample.room [49] := by
  have first : ((run (Bun.step Sample.deployment) .empty (Sample.turns (Sample.meeting Sample.signalling))).map
      fun control => control.wire) = some [.sent 2 (.signal Sample.room [49])] := by
    decide +kernel
  have second : ((run (Worker.step Sample.deployment) .empty (Sample.workerMeeting Sample.signalling)).map
      fun worker => worker.control.wire) = some [.sent 2 (.signal Sample.room [49])] := by
    decide +kernel
  obtain ⟨control, reached, wire⟩ := Option.map_eq_some_iff.mp first
  obtain ⟨worker, arrived, sent⟩ := Option.map_eq_some_iff.mp second
  have content : (Sample.room, [49]) ∈ (Frame.signal Sample.room [49]).contents := List.mem_singleton_self _
  exact ⟨(signals_stay_with_presenters Sample.deployment).1 _ _ reached 2 _ (by simp [wire]) _ content,
    (signals_stay_with_presenters Sample.deployment).2 _ _ arrived 2 _ (by simp [sent]) _ content⟩

end MeshTalk.Control
