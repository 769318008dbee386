import MeshTalk.Udp.Completed

namespace MeshTalk.Udp

open MeshTalk.Library MeshTalk.Protocol Handler

/-! # What one step does to the session maps

A step ends sessions, or adds one for a HELLO, or promotes one for its first
READY.
-/

namespace SessionTables

variable {tables first second : SessionTables} {session other : Session} {peerId : PeerId} {ends : Session → Prop}

/-- A session that has not proved key possession. -/
def Unconfirmed (tables : SessionTables) (session : Session) : Prop :=
  tables.Known session ∧ tables.confirmed session = false

/-- Nothing is new, only sessions that may end are gone, and a session that
loses its place is gone altogether. -/
structure Loses (ends : Session → Prop) (first second : SessionTables) : Prop where
  within : Within second first
  seated : ∀ {peerId session}, first.sessions.get? peerId = some session → second.Known session →
    second.sessions.get? peerId = some session
  queued : ∀ {peerId route session}, (first.pendingOf peerId).get? route = some session → second.Known session →
    (second.pendingOf peerId).get? route = some session
  active : ∀ {peerId session}, first.sessions.get? peerId = some session → ¬ ends session →
    second.sessions.get? peerId = some session
  listed : ∀ {sessionId session}, first.sessionsById.get? sessionId = some session →
    (∀ ended, ends ended → ended.sessionId ≠ sessionId) → second.sessionsById.get? sessionId = some session

theorem Within.refl : Within tables tables := ⟨id, id, id, id, fun _ => rfl, rfl⟩

theorem Within.trans {third : SessionTables} (later : Within third second) (earlier : Within second first) :
    Within third first where
  listed found := earlier.listed (later.listed found)
  active found := earlier.active (later.active found)
  pending found := earlier.pending (later.pending found)
  retiring found := earlier.retiring (later.retiring found)
  confirmed session := (later.confirmed session).trans (earlier.confirmed session)
  nextSession := later.nextSession.trans earlier.nextSession

theorem Loses.refl : Loses ends tables tables :=
  ⟨.refl, fun found _ => found, fun found _ => found, fun found _ => found, fun found _ => found⟩

theorem Loses.trans {third : SessionTables} (earlier : Loses ends first second) (later : Loses ends second third) :
    Loses ends first third where
  within := later.within.trans earlier.within
  seated found known := later.seated (earlier.seated found (later.within.known known)) known
  queued found known := later.queued (earlier.queued found (later.within.known known)) known
  active found stays := later.active (earlier.active found stays) stays
  listed found apart := later.listed (earlier.listed found apart) apart

theorem Loses.mono {more : Session → Prop} (loses : Loses ends first second)
    (implied : ∀ session, ends session → more session) : Loses more first second where
  within := loses.within
  seated := loses.seated
  queued := loses.queued
  active found stays := loses.active found fun ended => stays (implied _ ended)
  listed found apart := loses.listed found fun ended gone => apart ended (implied _ gone)

theorem Agrees.loses (agrees : Agrees first second) : Loses ends first second :=
  ⟨agrees.within, fun found _ => agrees.sessions ▸ found, fun found _ => agrees.pendingOf ▸ found,
    fun found _ => agrees.sessions ▸ found, fun found _ => agrees.sessionsById ▸ found⟩

theorem Agrees.known (agrees : Agrees first second) : second.Known session ↔ first.Known session := by
  simp only [Known, Listed, HeldActive, HeldPending, HeldRetiring, agrees.sessions, agrees.pendingOf,
    agrees.retiringSessions, agrees.sessionsById]

theorem remove_gone : ¬ (tables.remove session).Known session := by
  simp only [Known, Listed, HeldActive, HeldPending, HeldRetiring]
  grind

theorem remove_loses (ended : ends session) : Loses ends tables (tables.remove session) where
  within := remove_within
  seated {_ other} found known := by
    have gone := @remove_gone tables session
    by_cases same : other = session
    · exact absurd (same ▸ known) gone
    · rw [remove_sessions, if_neg fun held => same (Option.some.inj (found.symm.trans held.2))]
      exact found
  queued {_ _ other} found known := by
    have gone := @remove_gone tables session
    by_cases same : other = session
    · exact absurd (same ▸ known) gone
    · rw [remove_pendingOf, if_neg fun held => same (Option.some.inj (found.symm.trans held.2.2))]
      exact found
  active found stays := by
    rw [remove_sessions, if_neg]
    · exact found
    · rintro ⟨-, same⟩
      rw [found] at same
      cases same
      exact stays ended
  listed found apart := by
    rw [remove_sessionsById, Dict.get?_erase, if_neg fun same => apart session ended same.symm]
    exact found

/-- Promotion removes no session from the id map but an unconfirmed active one. -/
theorem promote_listed {now : Time} {sessionId : SessionId} (found : tables.sessionsById.get? sessionId = some other)
    (apart : ∀ ended, tables.sessions.get? session.peerId = some ended → tables.confirmed ended = false →
      ended.sessionId ≠ sessionId) :
    (tables.promote session now).sessionsById.get? sessionId = some other := by
  unfold promote vacate
  split
  · exact found
  · rw [activate_sessionsById]
    split
    · exact found
    · rename_i active occupied
      split
      · exact found
      · rename_i unconfirmed
        rw [remove_sessionsById, Dict.get?_erase,
          if_neg fun same => apart active occupied (Bool.of_not_eq_true unconfirmed) same.symm]
        exact found

/-- Promotion changes the pending sessions of no other peer. -/
theorem promote_pendingOf {now : Time} {route : Route} (other : peerId ≠ session.peerId)
    (active_key : ∀ {active}, tables.sessions.get? session.peerId = some active → active.peerId = session.peerId) :
    ((tables.promote session now).pendingOf peerId).get? route = (tables.pendingOf peerId).get? route := by
  unfold promote vacate
  grind

end SessionTables

namespace UdpTransport

open SessionTables

variable {settings : Settings} {now : Time} {transport start next : UdpTransport} {session : Session}
  {peerId : PeerId} {route : Route} {ends : Session → Prop}

/-- The maintenance task gives up the session. -/
inductive TimesOut (transport : UdpTransport) : Time × TransportEvent → Session → Prop
  | active {now at_ : Time} {token : Nat} {session : Session} {rest : List Session}
      (visited : transport.maintenance = .active at_ (session :: rest)) (expired : transport.Expires at_ session) :
      TimesOut transport (now, .maintenance token) session
  | retiring {now at_ expiresAt : Time} {token : Nat} {session : Session} {rest : List (Session × Time)}
      (visited : transport.maintenance = .retiring at_ ((session, expiresAt) :: rest)) (expired : at_ ≥ expiresAt) :
      TimesOut transport (now, .maintenance token) session

/-- The sessions a step may end. -/
inductive Ends (settings : Settings) (transport : UdpTransport) : Time × TransportEvent → Session → Prop
  | unconfirmed {event : Time × TransportEvent} {session : Session} (unconfirmed : transport.Unconfirmed session) :
      Ends settings transport event session
  | goodbye {now : Time} {header : AuthHeader} {tag : Bytes} {route : Route} {session : Session}
      (heard : hears settings route = true) (typed : header.type = .goodbye)
      (authentic : authenticates settings transport header tag route = some session) :
      Ends settings transport (now, .datagramReceived (.authenticated header tag) route) session
  | timedOut {event : Time × TransportEvent} {session : Session} (out : TimesOut transport event session) :
      Ends settings transport event session

/-- The session maps lose only sessions that may end. -/
def Sheds (ends : Session → Prop) (start next : UdpTransport) : Prop :=
  Loses ends start.toSessionTables next.toSessionTables

theorem Quiet.sheds (quiet : Quiet start next) : Sheds ends start next := quiet.tables.loses

theorem Sheds.refl : Sheds ends transport transport := Loses.refl

theorem Sheds.trans {last : UdpTransport} (earlier : Sheds ends start next) (later : Sheds ends next last) :
    Sheds ends start last :=
  Loses.trans earlier later

theorem Sheds.same (tables : next.toSessionTables = start.toSessionTables) : Sheds ends start next := by
  unfold Sheds
  rw [tables]
  exact .refl

theorem sheds_of_quiet {handler : Handling α} (quiet : ∀ start, Keeps (Quiet start) handler) :
    Keeps (Sheds ends start) handler := by
  intro state held
  have kept := quiet state state .refl
  rcases run : handler state with ⟨outcome, final⟩
  rw [run] at kept
  cases outcome <;> exact Sheds.trans held (Quiet.sheds kept)

theorem Sheds.change {update : UdpTransport → UdpTransport}
    (sheds : ∀ state, Sheds ends start state → Sheds ends start (update state)) :
    Keeps (Sheds ends start) (Handler.change update : Handling PUnit) :=
  Keeps.change sheds

theorem removeSession_sheds (ended : ends session) : Sheds ends transport (transport.removeSession session) := by
  unfold Sheds
  rw [removeSession_tables]
  exact remove_loses ended

theorem removeSessions_sheds {sessions : List Session} (ended : ∀ session ∈ sessions, ends session) :
    Sheds ends transport (removeSessions sessions transport) := by
  induction sessions generalizing transport with
  | nil => exact .refl
  | cons session rest ih =>
      exact (removeSession_sheds (ended session (List.mem_cons_self ..))).trans
        (ih fun other member => ended other (List.mem_cons_of_mem _ member))

theorem callback_sheds {told : Callback} : Keeps (Sheds ends start) (callback told) :=
  Keeps.change fun _ held => held

/-! ## Handlers that add and promote nothing -/

theorem dropUnconfirmed_sheds {current : Option Session} (known : ∀ session, current = some session → transport.Known session)
    (unconfirmed : ∀ session, transport.Unconfirmed session → ends session) :
    Sheds ends transport (transport.dropUnconfirmed current) := by
  unfold dropUnconfirmed
  split
  · split
    · exact .refl
    · rename_i session found
      exact removeSession_sheds (unconfirmed session ⟨known session rfl, Bool.of_not_eq_true found⟩)
  · exact .refl

theorem abandonAttempt_sheds (filed : transport.Filed)
    (unconfirmed : ∀ session, transport.Unconfirmed session → ends session) :
    Sheds ends transport (transport.abandonAttempt peerId) := by
  simp only [abandonAttempt]
  split
  · split
    · exact .same rfl
    · rename_i session occupied found
      have popped : Sheds ends transport { transport with attempts := transport.attempts.erase peerId } := .same rfl
      exact popped.trans (removeSession_sheds (unconfirmed session
        ⟨.inr (.inl (filed.heldActive occupied)), Bool.of_not_eq_true found⟩))
  · exact .same rfl

theorem punchStep_sheds {serial : Nat} (filed : transport.Filed)
    (unconfirmed : ∀ session, transport.Unconfirmed session → ends session)
    (stepped : punchStep settings now serial transport = some next) : Sheds ends transport next := by
  obtain ⟨punch, -, rfl⟩ := Option.map_eq_some_iff.mp stepped
  dsimp only
  split
  · have kept : Keeps (Sheds ends transport) (punchRound settings punch.attempt) := sheds_of_quiet fun _ => punchRound_quiet
    have round := kept transport .refl
    rcases run : punchRound settings punch.attempt transport with ⟨outcome, middle⟩
    rw [run] at round
    rcases outcome with failure | _ | _
    · exact Sheds.trans round (.same rfl)
    · exact Sheds.trans round (.same rfl)
    · exact Sheds.trans round (.same rfl)
  · have exhausted : Ensures (· = transport) (punchExhausted settings now punch.attempt)
        (fun _ => Sheds ends transport) (Sheds ends transport) := by
      refine Ensures.read fun seen same => Ensures.ite (fun _ => ?_) fun _ => Ensures.pure fun state same' => ?_
      · refine Ensures.bind (Ensures.change (Q := fun _ => Sheds ends transport) ?_) fun _ =>
          sheds_of_quiet fun _ => relayFallback_quiet
        rintro state rfl
        subst same
        exact abandonAttempt_sheds filed unconfirmed
      · subst same'
        subst same
        exact .refl
    exact (exhausted.finish rfl).trans (.same rfl)

theorem pending_sheds (filed : transport.Filed) (unconfirmed : ∀ session, transport.Unconfirmed session → ends session)
    (within : Within next.toSessionTables transport.toSessionTables) {sessions : List Session}
    (pending : ∀ session ∈ sessions, ∃ peerId, session ∈ (next.pendingOf peerId).values) :
    Sheds ends next (removeSessions sessions next) := by
  refine removeSessions_sheds fun session member => ?_
  obtain ⟨peerId, held⟩ := pending session member
  obtain ⟨route, found⟩ := Dict.mem_values_iff.mp held
  obtain ⟨rfl, rfl⟩ := (within.filed filed).pending_key found
  exact unconfirmed session ⟨.inr (.inr (.inl (within.pending found))),
    (within.confirmed session).symm.trans ((within.filed filed).pending_unconfirmed found)⟩

theorem clearDirectCandidate_sheds (filed : transport.Filed)
    (unconfirmed : ∀ session, transport.Unconfirmed session → ends session) :
    Sheds ends transport (transport.clearDirectCandidate peerId) :=
  withdrawDirect_quiet.sheds.trans (pending_sheds filed unconfirmed withdrawDirect_quiet.tables.within
    fun _ member => ⟨peerId, List.mem_of_mem_filter member⟩)

theorem forgetCandidate_sheds (filed : transport.Filed)
    (unconfirmed : ∀ session, transport.Unconfirmed session → ends session) :
    Sheds ends transport (transport.forgetCandidate peerId) :=
  withdraw_quiet.sheds.trans (pending_sheds filed unconfirmed withdraw_quiet.tables.within
    fun _ member => ⟨peerId, member⟩)

theorem finishTick_sheds (filed : transport.Filed)
    (unconfirmed : ∀ session, transport.Unconfirmed session → ends session) :
    Sheds ends transport (transport.finishTick now) := by
  refine (pending_sheds filed unconfirmed .refl fun session member => ?_).trans (.same rfl)
  obtain ⟨pending, held, member⟩ := List.mem_flatMap.mp (List.mem_of_mem_filter member)
  obtain ⟨peerId, found⟩ := Dict.mem_values_iff.mp held
  exact ⟨peerId, by rwa [pendingOf, found]⟩

theorem visitActive_sheds {token : Nat} (expired : transport.Expires now session → ends session) :
    Ensures (· = transport) (visitActive settings now session token)
      (fun _ => Sheds ends transport) (Sheds ends transport) := by
  refine Ensures.read fun seen same => ?_
  subst same
  refine Ensures.ite (fun overdue => ?_) fun _ => Ensures.ite (fun overdue => ?_) fun _ => ?_
  · refine Ensures.change ?_
    rintro state rfl
    simp only [Bool.not_eq_true'] at overdue
    exact removeSession_sheds (expired (.inl overdue))
  · refine Ensures.bind (Ensures.change (Q := fun _ => Sheds ends seen) ?_) fun _ => callback_sheds
    rintro state rfl
    exact removeSession_sheds (expired (.inr overdue))
  · have kept : Keeps (Sheds ends seen) (do
        keepAliveConfirmed settings now session token
        change (·.sweep now session)) :=
      Keeps.bind (Keeps.read fun _ _ => Keeps.ite (fun _ => sheds_of_quiet fun _ => keepAlive_quiet)
        fun _ => Keeps.pure) fun _ => Keeps.change fun _ held => held.trans sweep_quiet.sheds
    exact Ensures.weaken kept (fun _ same => same ▸ Sheds.refl) (fun _ _ held => held) fun _ held => held

theorem visitRetiring_sheds {expiresAt : Time} (expired : now ≥ expiresAt → ends session) :
    Ensures (· = transport) (visitRetiring now session expiresAt)
      (fun _ => Sheds ends transport) (Sheds ends transport) := by
  refine Ensures.ite (fun elapsed => ?_) fun _ => Ensures.change fun _ same => same ▸ sweep_quiet.sheds
  refine Ensures.bind (Ensures.change (Q := fun _ => Sheds ends transport) ?_) fun _ => callback_sheds
  rintro state rfl
  exact removeSession_sheds (expired elapsed)

theorem maintain_sheds {piece : Handling PUnit} {following : Maintenance}
    (ensured : Ensures (· = transport) piece (fun _ => Sheds ends transport) (Sheds ends transport)) :
    Sheds ends transport (maintain piece following transport) := by
  have result := ensured transport rfl
  unfold maintain
  rcases run : piece transport with ⟨outcome, final⟩
  rw [run] at result
  cases outcome <;> exact Sheds.trans result (.same rfl)

theorem maintenanceStep_sheds {token : Nat} (filed : transport.Filed)
    (stepped : maintenanceStep settings now token transport = some next) :
    Sheds (Ends settings transport (now, .maintenance token)) transport next := by
  unfold maintenanceStep at stepped
  split at stepped <;> rename_i phase
  · cases stepped; exact .same rfl
  · cases stepped
    exact maintain_sheds (visitActive_sheds fun expired => .timedOut (.active phase expired))
  · cases stepped; exact .same rfl
  · cases stepped
    exact maintain_sheds (visitRetiring_sheds fun expired => .timedOut (.retiring phase expired))
  · cases stepped
    exact (finishTick_sheds filed fun _ => .unconfirmed).trans (.same rfl)
  · contradiction

theorem handleData_sheds {header : DataHeader} {ciphertext : Bytes} :
    Keeps (Sheds ends start) (handleData settings now header ciphertext route) := by
  refine Keeps.bind (sheds_of_quiet fun _ => receivePacket_quiet) fun received => ?_
  split
  · exact Keeps.pure
  · refine Keeps.bind (Keeps.change fun state held => held.trans ?_) fun _ =>
      Keeps.bind (sheds_of_quiet fun _ => sendAuthenticated_quiet) fun _ => ?_
    · rename_i session packet
      have agrees : state.toSessionTables.Agrees (state.updateStatus session fun status =>
        { status with seen := status.seen.set header.messageId now }).toSessionTables := updateStatus_agrees rfl rfl
      exact agrees.loses
    · split
      · exact Keeps.pure
      · exact callback_sheds

/-! ## HELLO -/

/-- A HELLO that is heard adds a session: the opening is what the handshake
derived, and only unconfirmed sessions make way. -/
def AddsSession (settings : Settings) (transport next : UdpTransport) : Time × TransportEvent → Prop
  | (now, .datagramReceived (.hello hello) route) =>
      hears settings route = true ∧ ∃ opening middle name cleared,
        admitHello settings now hello route transport = (.ok (some opening), middle) ∧
          Loses transport.Unconfirmed transport.toSessionTables cleared ∧
          (∀ stale, transport.sessionForRoute hello.peerId route = some stale → transport.confirmed stale = false →
            ¬ cleared.Known stale) ∧
          Agrees (cleared.add (newSession settings now cleared.nextSession opening name)) next.toSessionTables
  | _ => False

theorem handleHello_shape {hello : Hello} (filed : transport.Filed) (heard : hears settings route = true) :
    Sheds transport.Unconfirmed transport
        ((handleHello settings now hello route).finish transport) ∨
      AddsSession settings transport ((handleHello settings now hello route).finish transport)
        (now, .datagramReceived (.hello hello) route) := by
  have admitted := @admitHello_spec settings now transport route hello transport .refl
  unfold handleHello finish
  rw [bind_apply]
  rcases run : admitHello settings now hello route transport with ⟨outcome, middle⟩
  rw [run] at admitted
  rcases outcome with failure | _ | opening
  · exact .inl (Quiet.sheds admitted)
  · exact .inl (Quiet.sheds admitted.1)
  · have quiet : Quiet transport middle := admitted.1
    have compared : opening.current = transport.sessionForRoute hello.peerId route := (admitted.2 opening rfl).2.2
    have known : ∀ session, opening.current = some session → transport.Known session := fun session found =>
      .inr (filed.sessionForRoute_held (compared.symm.trans found)).1
    have dropped : Sheds transport.Unconfirmed transport (middle.dropUnconfirmed opening.current) :=
      (Quiet.sheds quiet).trans (dropUnconfirmed_sheds
        (fun session found => quiet.tables.known.mpr (known session found)) fun session unconfirmed =>
          ⟨quiet.tables.known.mp unconfirmed.1, (quiet.tables.confirmed session).symm.trans unconfirmed.2⟩)
    have gone : ∀ stale, transport.sessionForRoute hello.peerId route = some stale →
        transport.confirmed stale = false → ¬ (middle.dropUnconfirmed opening.current).Known stale := by
      intro stale found unconfirmed
      rw [compared, found, dropUnconfirmed, if_neg (by rw [quiet.tables.confirmed, unconfirmed]; exact Bool.false_ne_true),
        removeSession_tables]
      exact remove_gone
    let Added (state : UdpTransport) : Prop := ∃ name cleared,
      Loses transport.Unconfirmed transport.toSessionTables cleared ∧
        (∀ stale, transport.sessionForRoute hello.peerId route = some stale → transport.confirmed stale = false →
          ¬ cleared.Known stale) ∧
        Agrees (cleared.add (newSession settings now cleared.nextSession opening name)) state.toSessionTables
    have spec : Ensures (· = middle) (installSession settings now opening)
        (fun _ state => Sheds transport.Unconfirmed transport state ∨ Added state)
        (fun state => Sheds transport.Unconfirmed transport state ∨ Added state) := by
      refine Ensures.read fun seen same => ?_
      subst same
      refine Ensures.bind (Ensures.refuse (Q := fun _ state => state = seen)
        (fun state same _ => .inl (same ▸ Quiet.sheds quiet)) fun _ same _ => same) fun _ =>
        Ensures.bind (Ensures.change (Q := fun _ state => state = seen.dropUnconfirmed opening.current)
          fun state same => by rw [same]) fun _ =>
        Ensures.bind (Ensures.orRaise (Q := fun _ state => state = seen.dropUnconfirmed opening.current)
          (fun state same _ => .inl (same ▸ dropped)) fun _ _ same _ => same) fun name => ?_
      let session := newSession settings now seen.nextSession opening name
      refine Ensures.bind (Ensures.change (Q := fun _ state =>
        Quiet ((seen.dropUnconfirmed opening.current).addSession session) state) ?_) fun _ =>
        Ensures.weaken sendAuthenticated_quiet (fun _ quiet => quiet) (fun _ state quiet => .inr ?_)
          fun state quiet => .inr ?_
      · rintro state rfl
        exact .refl
      all_goals
        refine ⟨name, _, dropped, gone, ?_⟩
        rw [dropUnconfirmed_nextSession, ← addSession_tables]
        exact quiet.tables
    have result := spec middle rfl
    dsimp only
    rcases installed : installSession settings now opening middle with ⟨outcome, final⟩
    rw [installed] at result
    rcases outcome with failure | _
    all_goals
      rcases result with sheds | ⟨name, cleared, loses, gone, agrees⟩
      · exact .inl sheds
      · exact .inr ⟨heard, opening, middle, name, cleared, run, loses, gone, agrees⟩

/-! ## READY -/

theorem popAttempt_attempts {other : PeerId} :
    (transport.popAttempt peerId).attempts.get? other =
      if other = peerId then none else transport.attempts.get? other := by
  unfold popAttempt
  split
  · rename_i absent
    split
    · rename_i same
      rw [same, absent]
    · rfl
  · exact Dict.get?_erase

theorem removeSession_attempts : (transport.removeSession session).attempts = transport.attempts := by
  simp only [removeSession, releaseForgottenRelay, dropRelayRouting]
  split
  · rfl
  · split
    · rfl
    · split <;> rfl

theorem confirmedState_attempts : (transport.confirmedState now session).attempts.get? session.peerId = none := by
  have popped : ((transport.confirm now session).popAttempt session.peerId).attempts.get? session.peerId = none := by
    rw [popAttempt_attempts, if_pos rfl]
  simp only [confirmedState, promoteSession, vacateActive]
  split
  · exact popped
  · split
    · exact popped
    · split
      · exact popped
      · exact (congrArg (Dict.get? · session.peerId) removeSession_attempts).trans popped

/-- What the first READY of a session does: it becomes the active one of its
peer. -/
structure Confirms (session : Session) (first second : SessionTables) : Prop where
  promoted : Promoted session first second
  elsewhere : ∀ {peerId other}, peerId ≠ session.peerId → first.sessions.get? peerId = some other →
    second.sessions.get? peerId = some other
  queued : ∀ {peerId route}, peerId ≠ session.peerId →
    (second.pendingOf peerId).get? route = (first.pendingOf peerId).get? route
  listed : ∀ {sessionId other}, first.sessionsById.get? sessionId = some other →
    (∀ ended, first.Unconfirmed ended → ended.sessionId ≠ sessionId) → second.sessionsById.get? sessionId = some other

theorem confirmedState_confirms (filed : transport.Filed) (listed : transport.Listed session) :
    Confirms session transport.toSessionTables (transport.confirmedState now session).toSessionTables where
  promoted := by
    rw [confirmedState_tables]
    exact SessionTables.promoted filed listed rfl
  elsewhere other found := by
    rw [confirmedState_sessions filed, if_neg other]
    exact found
  queued other := by
    rw [confirmedState_tables]
    exact promote_pendingOf other fun found => filed.active_key found
  listed found apart := by
    rw [confirmedState_tables]
    exact promote_listed found fun ended occupied unconfirmed => by
      refine apart ended ⟨.inr (.inl (filed.heldActive occupied)), ?_⟩
      rw [confirmed_eq, setStatus_statusOf] at unconfirmed
      split at unconfirmed
      · contradiction
      · exact unconfirmed

/-- A heard READY that is the first of its session. -/
def ConfirmsSession (settings : Settings) (transport next : UdpTransport) : Time × TransportEvent → Prop
  | (_, .datagramReceived (.authenticated header tag) route) =>
      hears settings route = true ∧ header.type = .ready ∧ ∃ session middle,
        authenticates settings transport header tag route = some session ∧ transport.confirmed session = false ∧
          Confirms session transport.toSessionTables middle ∧ Loses (fun _ => False) middle next.toSessionTables ∧
          next.attempts.get? session.peerId = none
  | _ => False

/-- The maps and the attempts are those of the state, but for the flags that tell
what the owner knows. -/
def Settles (start next : UdpTransport) : Prop :=
  Sheds (fun _ => False) start next ∧ next.attempts = start.attempts

theorem sendAuthenticated_settles {type : AuthenticatedType} {token : Nat} {other : Session} :
    Keeps (Settles start) (sendAuthenticated settings other type token) :=
  Keeps.read fun _ _ => Keeps.bind Keeps.refuse fun _ => Keeps.change fun _ held => held

theorem notifyOnce_settles : Keeps (Settles start) (notifyOnce session) := by
  refine Keeps.read fun seen _ => Keeps.ite (fun _ => Keeps.pure) fun _ => Keeps.bind (Keeps.change fun state held => ?_)
    fun _ => Keeps.read fun seen _ => Keeps.ite (fun _ => Keeps.change fun _ held => held) fun _ => Keeps.pure
  exact ⟨held.1.trans ⟨notified_within, fun found _ => found, fun found _ => found, fun found _ => found,
    fun found _ => found⟩, held.2⟩

theorem handleReady_shape {ends : Session → Prop} :
    Ensures (· = transport) (handleReady settings now session)
      (fun _ state => Sheds ends transport state ∨ transport.confirmed session = false ∧
        Settles (transport.confirmedState now session) state)
      (fun state => Sheds ends transport state ∨ transport.confirmed session = false ∧
        Settles (transport.confirmedState now session) state) := by
  have notified : ∀ middle : UdpTransport, Ensures (Settles middle) (notifyOnce session)
      (fun _ => Settles middle) (Settles middle) := fun _ => notifyOnce_settles
  by_cases confirmed : transport.confirmed session = true
  · refine Ensures.bind (Q := fun _ => Settles transport) ?_ fun _ => ?_
    · refine Ensures.read fun seen same => Ensures.ite (fun _ => Ensures.pure fun _ same' => ?_) fun unconfirmed => ?_
      · rw [same', same]
        exact ⟨.refl, rfl⟩
      · rw [same] at unconfirmed
        exact absurd confirmed unconfirmed
    · exact Ensures.weaken (notified transport) (fun _ held => held)
        (fun _ _ held => .inl (Loses.mono held.1 fun _ impossible => impossible.elim))
        fun _ held => .inl (Loses.mono held.1 fun _ impossible => impossible.elim)
  · have unconfirmed : transport.confirmed session = false := Bool.of_not_eq_true confirmed
    refine Ensures.bind (Q := fun _ => Settles (transport.confirmedState now session)) ?_ fun _ => ?_
    · refine Ensures.read fun seen same => Ensures.ite (fun again => ?_) fun _ => ?_
      · rw [same] at again
        exact absurd again confirmed
      · refine Ensures.bind (Ensures.change (Q := fun _ => Settles (transport.confirmedState now session)) ?_)
          fun _ => Ensures.weaken sendAuthenticated_settles (fun _ held => held)
            (fun _ _ held => held) fun state held => .inr ⟨unconfirmed, held⟩
        rintro state rfl
        rw [same]
        exact ⟨Sheds.refl, rfl⟩
    · exact Ensures.weaken (notified _) (fun _ held => held)
        (fun _ _ held => .inr ⟨unconfirmed, held⟩) fun _ held => .inr ⟨unconfirmed, held⟩

theorem handleKeepalive_shape {header : AuthHeader} {tag : Bytes} (filed : transport.Filed)
    (heard : hears settings route = true) :
    Sheds (Ends settings transport (now, .datagramReceived (.authenticated header tag) route)) transport
        ((handleKeepalive settings now header tag route).finish transport) ∨
      ConfirmsSession settings transport ((handleKeepalive settings now header tag route).finish transport)
        (now, .datagramReceived (.authenticated header tag) route) := by
  let event : Time × TransportEvent := (now, .datagramReceived (.authenticated header tag) route)
  have spec : Ensures (· = transport) (handleKeepalive settings now header tag route)
      (fun _ state => Sheds (Ends settings transport event) transport state ∨ ConfirmsSession settings transport state event)
      (fun state => Sheds (Ends settings transport event) transport state ∨
        ConfirmsSession settings transport state event) := by
    refine Ensures.bind (Ensures.weaken sessionFor_found (fun _ same => same) (fun _ _ found => found)
      fun _ same => .inl (same ▸ Sheds.refl)) fun session => ?_
    refine Ensures.bind (Ensures.refuse
      (Q := fun _ state => state = transport ∧ authenticates settings transport header tag route = some session)
      (fun state found _ => .inl (found.1 ▸ Sheds.refl)) fun state found passed =>
        ⟨found.1, authenticates_some.mpr ⟨found.2.1, found.2.2.1, Decidable.not_not.mp passed⟩⟩) fun _ => ?_
    rintro state ⟨rfl, authentic⟩
    obtain ⟨found, onRoute, -⟩ := authenticates_some.mp authentic
    have listed : state.Listed session := by
      rw [Listed, filed.listed_key found]
      exact found
    refine (Ensures.ite (fun ready => ?_) (fun _ => ?_) : Ensures (· = state) _ _ _) state rfl
    · have readied := @handleReady_shape settings now state session (Ends settings state event)
      refine Ensures.weaken readied (fun _ same => same) (fun _ final shape => ?_) fun final shape => ?_
      all_goals
        refine shape.imp_right ?_
        rintro ⟨unconfirmed, sheds, attempts⟩
        exact ⟨heard, ready, session, _, authentic, unconfirmed, confirmedState_confirms filed listed, sheds,
          attempts ▸ confirmedState_attempts⟩
    · refine Ensures.read fun seen same => ?_
      subst same
      refine Ensures.bind (Ensures.refuse (Q := fun _ state => state = seen)
        (fun state same _ => .inl (same ▸ Sheds.refl)) fun state same _ => same) fun _ => ?_
      refine Ensures.bind (Ensures.change (Q := fun _ => Sheds (Ends settings seen event) seen)
        fun state same => same ▸ touch_quiet.sheds) fun _ => ?_
      have kept : ∀ {handler : Handling PUnit}, Keeps (Sheds (Ends settings seen event) seen) handler →
          Ensures (Sheds (Ends settings seen event) seen) handler
            (fun _ state => Sheds (Ends settings seen event) seen state ∨ ConfirmsSession settings seen state event)
            (fun state => Sheds (Ends settings seen event) seen state ∨ ConfirmsSession settings seen state event) :=
        fun keeps => Ensures.weaken keeps (fun _ held => held) (fun _ _ held => .inl held) fun _ held => .inl held
      split
      · exact kept (sheds_of_quiet fun _ => sendAuthenticated_quiet)
      · rename_i goodbye
        refine kept (Keeps.read fun _ _ => Keeps.bind (Keeps.change fun state held => ?_) fun _ =>
          Keeps.ite (fun _ => callback_sheds) fun _ => Keeps.pure)
        exact held.trans (removeSession_sheds (.goodbye heard goodbye authentic))
      all_goals exact kept Keeps.pure
  exact spec.finish rfl

/-- A step ends sessions, or adds one for a HELLO, or promotes one for its first
READY. -/
theorem step_shape {event : Time × TransportEvent} (filed : transport.Filed)
    (stepped : step settings transport event = some next) :
    Sheds (Ends settings transport event) transport next ∨ AddsSession settings transport next event ∨
      ConfirmsSession settings transport next event := by
  obtain ⟨now, event⟩ := event
  cases event with
  | datagramReceived datagram route =>
      cases stepped
      unfold datagramReceived
      by_cases refused : settings.forceRelay ∧ !route.2
      · rw [if_pos refused]; exact .inl .refl
      · have heard : hears settings route = true := by
          rw [hears, Bool.not_eq_true', Bool.eq_false_iff, ne_eq, Bool.and_eq_true]
          exact refused
        rw [if_neg refused]
        cases datagram with
        | empty => exact .inl .refl
        | hello hello =>
            exact (handleHello_shape filed heard).imp (fun sheds => Loses.mono sheds fun _ => .unconfirmed) .inl
        | data header ciphertext => exact .inl (handleData_sheds.finish .refl)
        | authenticated header tag =>
            dsimp only
            split
            · exact .inl ((sheds_of_quiet fun _ => handleAck_quiet).finish .refl)
            · exact (handleKeepalive_shape filed heard).imp_right .inr
  | punch serial => exact .inl (punchStep_sheds filed (fun _ => .unconfirmed) stepped)
  | maintenance token => exact .inl (maintenanceStep_sheds filed stepped)
  | expectPeer peerId endpoint =>
      cases stepped
      exact .inl (expectPeer_quiet.finish .refl).sheds
  | expectDerpPeer peerId =>
      cases stepped
      exact .inl (expectDerpPeer_quiet.finish .refl).sheds
  | configureDerp sender serverEnabled =>
      cases stepped
      exact .inl (.same rfl)
  | clearDirectCandidate peerId =>
      cases stepped
      exact .inl (clearDirectCandidate_sheds filed fun _ => .unconfirmed)
  | forgetCandidate peerId =>
      cases stepped
      exact .inl (forgetCandidate_sheds filed fun _ => .unconfirmed)
  | sendPacket call peerId packet messageId nonces =>
      simp only [step] at stepped
      split at stepped
      · contradiction
      · cases stepped
        exact .inl (sendPacket_quiet.finish .refl).sheds
  | sendRound call =>
      obtain ⟨sending, -, rfl⟩ := Option.map_eq_some_iff.mp stepped
      exact .inl (sendRound_quiet.finish .refl).sheds

end UdpTransport

end MeshTalk.Udp
