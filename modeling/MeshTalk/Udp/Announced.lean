import MeshTalk.Udp.SessionRuns

namespace MeshTalk.Udp

open MeshTalk.Library MeshTalk.Protocol Handler

/-! # The session the owner has been told of

The owner learns of sessions only through callbacks that run later.  `Settled`
compares what it has on record with the confirmed and announced active session
of each peer, allowing for the callbacks still to run.
-/

namespace SessionTables

variable {tables : SessionTables} {session : Session} {peerId : PeerId} {now : Time}

theorem promote_sessions
    (active_key : ∀ {peerId active}, tables.sessions.get? peerId = some active → active.peerId = peerId) :
    (tables.promote session now).sessions.get? peerId =
      if peerId = session.peerId then some session else tables.sessions.get? peerId := by
  unfold promote vacate
  split
  · grind
  · split
    · grind
    · split <;> grind

theorem Filed.add_sessions (filed : Filed tables) (numbered : session.serial = tables.nextSession) :
    (tables.add session).sessions.get? peerId =
      if peerId = session.peerId ∧ (tables.confirmedActive peerId).isSome = false then some session
      else tables.sessions.get? peerId := by
  have older : ∀ {active}, tables.sessions.get? session.peerId = some active → active.serial ≠ session.serial := by
    intro active found
    have known := filed.serial_known (.inr (.inl (filed.heldActive found)))
    omega
  have same : (tables.create session).confirmedActive session.peerId = tables.confirmedActive session.peerId := by
    simp only [confirmedActive, create_sessions]
    cases found : tables.sessions.get? session.peerId with
    | none => rfl
    | some active =>
        have kept : (tables.create session).confirmed active = tables.confirmed active := by
          rw [confirmed_eq, create_statusOf, if_neg (older found), confirmed_eq]
        simp only [Option.filter, kept]
  have active_key := @filed.active_key
  have pending_key := @filed.pending_key
  have apart := @filed.active_not_pending
  simp only [HeldActive, HeldPending] at apart
  simp only [add, same, replacePending]
  split
  · split <;> grind
  · grind

/-- The peer's active session if it is confirmed and the owner has been told. -/
def announcedSession (tables : SessionTables) (peerId : PeerId) : Option Session :=
  (tables.sessions.get? peerId).filter fun session =>
    tables.confirmed session && (tables.statusOf session).connectedNotified

theorem announcedSession_some : tables.announcedSession peerId = some session ↔
    tables.sessions.get? peerId = some session ∧ tables.confirmed session = true ∧
      (tables.statusOf session).connectedNotified = true := by
  simp only [announcedSession, Option.filter_eq_some_iff, Bool.and_eq_true]

theorem announcedSession_congr {second : SessionTables}
    (same : second.sessions.get? peerId = tables.sessions.get? peerId)
    (status : ∀ active, tables.sessions.get? peerId = some active →
      second.statusOf active = tables.statusOf active) :
    second.announcedSession peerId = tables.announcedSession peerId := by
  refine Option.ext fun active => ?_
  rw [announcedSession_some, announcedSession_some, same]
  refine and_congr_right fun found => ?_
  rw [confirmed, confirmed, status active found]

end SessionTables

namespace UdpTransport

open SessionTables

variable {settings : Settings} {now : Time} {transport start next : UdpTransport} {session : Session}
  {peerId : PeerId} {route : Route} {entry : PeerId → Option SessionId} {opening : PeerId → SessionId → Prop}

/-- `entry` is the session id the owner has on record for a peer; `opening` says
that it is about to record one. -/
structure SettledAt (entry : PeerId → Option SessionId) (opening : PeerId → SessionId → Prop)
    (transport : UdpTransport) (peerId : PeerId) : Prop where
  announced : ∀ session, transport.announcedSession peerId = some session →
    entry peerId = some session.sessionId ∨ .dispatchConnected session ∈ transport.callbacks ∨
      opening peerId session.sessionId
  unannounced : ∀ sessionId, transport.announcedSession peerId = none → entry peerId = some sessionId →
    .onDisconnected peerId sessionId ∈ transport.callbacks

def Settled (entry : PeerId → Option SessionId) (opening : PeerId → SessionId → Prop)
    (transport : UdpTransport) : Prop :=
  ∀ peerId, SettledAt entry opening transport peerId

theorem SettledAt.mono (settled : SettledAt entry opening start peerId)
    (same : next.announcedSession peerId = start.announcedSession peerId)
    (callbacks : ∀ told ∈ start.callbacks, told ∈ next.callbacks) : SettledAt entry opening next peerId where
  announced session found := (settled.announced session (same ▸ found)).imp_right (Or.imp_left (callbacks _))
  unannounced sessionId absent recorded := callbacks _ (settled.unannounced sessionId (same ▸ absent) recorded)

theorem Settled.mono (settled : Settled entry opening start)
    (same : ∀ peerId, next.announcedSession peerId = start.announcedSession peerId)
    (callbacks : ∀ told ∈ start.callbacks, told ∈ next.callbacks) : Settled entry opening next :=
  fun peerId => (settled peerId).mono (same peerId) callbacks

theorem Quiet.announcedSession (quiet : Quiet start next) :
    next.announcedSession peerId = start.announcedSession peerId := by
  simp only [SessionTables.announcedSession, quiet.tables.sessions, quiet.tables.confirmed,
    quiet.tables.connectedNotified]

theorem Quiet.settled (quiet : Quiet start next) (settled : Settled entry opening start) :
    Settled entry opening next :=
  settled.mono (fun _ => quiet.announcedSession) fun _ member => quiet.callbacks ▸ member

theorem settled_of_quiet {handler : Handling α} (quiet : ∀ start, Keeps (Quiet start) handler) :
    Keeps (Settled entry opening) handler :=
  fun state settled => by
    have kept := quiet state state .refl
    rcases run : handler state with ⟨outcome, final⟩
    rw [run] at kept
    cases outcome <;> exact Quiet.settled kept settled

/-! ## Removing a session -/

theorem removeSession_announcedSession : (transport.removeSession session).announcedSession peerId =
    if peerId = session.peerId ∧ transport.sessions.get? peerId = some session then none
    else transport.announcedSession peerId := by
  simp only [announcedSession, removeSession_tables, remove_sessions, remove_within.confirmed, remove_statusOf]
  split <;> rfl

theorem removeSession_unannounced (unannounced : transport.announcedSession session.peerId ≠ some session) :
    (transport.removeSession session).announcedSession peerId = transport.announcedSession peerId := by
  rw [removeSession_announcedSession]
  split
  · rename_i held
    obtain ⟨rfl, active⟩ := held
    cases found : transport.announcedSession session.peerId with
    | none => rfl
    | some other =>
        have same := (announcedSession_some.mp found).1.symm.trans active
        cases same
        exact absurd found unannounced
  · rfl

theorem unannounced_of_unconfirmed (unconfirmed : transport.confirmed session = false) :
    transport.announcedSession peerId ≠ some session := by
  intro found
  have confirmed := (announcedSession_some.mp found).2.1
  rw [unconfirmed] at confirmed
  contradiction

theorem Settled.removeUnconfirmed (settled : Settled entry opening transport)
    (unconfirmed : transport.confirmed session = false) :
    Settled entry opening (transport.removeSession session) :=
  settled.mono (fun _ => removeSession_unannounced (unannounced_of_unconfirmed unconfirmed))
    fun _ member => by rwa [removeSession_callbacks]

theorem Settled.removeSessions {sessions : List Session} (settled : Settled entry opening transport)
    (unconfirmed : ∀ session ∈ sessions, transport.confirmed session = false) :
    Settled entry opening (removeSessions sessions transport) := by
  induction sessions generalizing transport with
  | nil => exact settled
  | cons session rest ih =>
      refine ih (settled.removeUnconfirmed (unconfirmed session (List.mem_cons_self ..))) fun other member => ?_
      rw [removeSession_tables, remove_within.confirmed]
      exact unconfirmed other (List.mem_cons_of_mem _ member)

/-- A session that ends with a disconnect callback: the record must be absent,
be that of the session, or be due for its own disconnect. -/
theorem Settled.disconnect (settled : Settled entry opening transport)
    (undisputed : transport.announcedSession session.peerId = some session →
      ∀ sessionId, entry session.peerId = some sessionId →
        sessionId = session.sessionId ∨ .onDisconnected session.peerId sessionId ∈ transport.callbacks)
    (callbacks : next.callbacks = transport.callbacks ++ [.onDisconnected session.peerId session.sessionId])
    (tables : next.toSessionTables = (transport.removeSession session).toSessionTables) :
    Settled entry opening next := by
  have same : ∀ peerId, next.announcedSession peerId = (transport.removeSession session).announcedSession peerId :=
    fun peerId => by rw [tables]
  have kept : ∀ told ∈ transport.callbacks, told ∈ next.callbacks :=
    fun told member => callbacks ▸ List.mem_append_left _ member
  by_cases announced : transport.announcedSession session.peerId = some session
  · have active := (announcedSession_some.mp announced).1
    intro peerId
    by_cases own : peerId = session.peerId
    · subst own
      have gone : next.announcedSession session.peerId = none := by
        rw [same, removeSession_announcedSession, if_pos ⟨rfl, active⟩]
      refine ⟨fun other found => ?_, fun sessionId _ recorded => ?_⟩
      · rw [gone] at found
        contradiction
      · rcases undisputed announced sessionId recorded with rfl | due
        · rw [callbacks]
          exact List.mem_append_right _ (List.mem_singleton.mpr rfl)
        · exact kept _ due
    · refine (settled peerId).mono ?_ kept
      rw [same, removeSession_announcedSession, if_neg fun held => own held.1]
  · exact settled.mono (fun peerId => (same peerId).trans (removeSession_unannounced announced)) kept

/-! ## HELLO, candidates and punching -/

theorem dropUnconfirmed_settled {current : Option Session} (settled : Settled entry opening transport) :
    Settled entry opening (transport.dropUnconfirmed current) := by
  unfold dropUnconfirmed
  split
  · split
    · exact settled
    · rename_i unconfirmed
      exact settled.removeUnconfirmed (Bool.of_not_eq_true unconfirmed)
  · exact settled

theorem addSession_announcedSession (filed : transport.Filed) (numbered : session.serial = transport.nextSession) :
    (transport.addSession session).announcedSession peerId = transport.announcedSession peerId := by
  simp only [announcedSession, addSession_tables, filed.add_sessions numbered, confirmed_eq, add_statusOf]
  split
  · rename_i opened
    obtain ⟨rfl, unestablished⟩ := opened
    have absent : transport.announcedSession session.peerId = none := by
      refine Option.eq_none_iff_forall_ne_some.mpr fun active found => ?_
      obtain ⟨occupied, confirmed, -⟩ := announcedSession_some.mp found
      rw [confirmedActive_isSome.mpr ⟨active, occupied, confirmed⟩] at unestablished
      contradiction
    simp only [announcedSession, confirmed_eq] at absent
    rw [absent]
    simp [Option.filter, SessionStatus.fresh]
  · cases found : transport.sessions.get? peerId with
    | none => rfl
    | some active =>
        have known := filed.serial_known (.inr (.inl (filed.heldActive found)))
        have older : active.serial ≠ session.serial := by omega
        simp [Option.filter, older]

theorem installSession_settled {opened : Opening} {stage : Maintenance}
    (consistent : Consistent False stage transport)
    (compared : opened.current = transport.sessionForRoute opened.hello.peerId opened.route)
    (settled : Settled entry opening transport) :
    Ensures (· = transport) (installSession settings now opened)
      (fun _ => Settled entry opening) (Settled entry opening) := by
  have filed := (dropUnconfirmed_consistent consistent compared).filed
  have dropped : Settled entry opening (transport.dropUnconfirmed opened.current) := dropUnconfirmed_settled settled
  refine Ensures.read fun seen same => ?_
  subst same
  refine Ensures.bind (Ensures.refuse (Q := fun _ state => state = seen)
    (fun state same _ => same ▸ settled) fun _ same _ => same) fun _ => ?_
  refine Ensures.bind (Ensures.change (Q := fun _ state => state = seen.dropUnconfirmed opened.current)
    fun state same => by rw [same]) fun _ => ?_
  refine Ensures.bind (Ensures.orRaise (Q := fun _ state => state = seen.dropUnconfirmed opened.current)
    (fun state same _ => same ▸ dropped) fun _ _ same _ => same) fun displayName => ?_
  refine Ensures.bind (Ensures.change (Q := fun _ => Settled entry opening) ?_) fun _ =>
    settled_of_quiet fun _ => sendAuthenticated_quiet
  rintro state rfl
  refine dropped.mono (fun peerId => addSession_announcedSession filed dropUnconfirmed_nextSession.symm) ?_
  intro told member
  rwa [addSession_callbacks]

theorem handleHello_settled {hello : Hello} {stage : Maintenance} (consistent : Consistent False stage start)
    (settled : Settled entry opening start) :
    Settled entry opening ((handleHello settings now hello route).finish start) := by
  have admitted := @admitHello_spec settings now start route hello start .refl
  unfold handleHello finish
  rw [bind_apply]
  rcases run : admitHello settings now hello route start with ⟨outcome, middle⟩
  rw [run] at admitted
  cases outcome with
  | error failure => exact Quiet.settled admitted settled
  | ok result =>
      obtain ⟨quiet, opens⟩ := admitted
      cases result with
      | none => exact quiet.settled settled
      | some opened =>
          obtain ⟨same, routed, compared⟩ := opens opened rfl
          refine Ensures.finish
            (installSession_settled (quiet.consistent consistent) ?_ (quiet.settled settled)) rfl
          rw [quiet.sessionForRoute, same, routed]
          exact compared

theorem pending_unconfirmed (filed : transport.Filed)
    (member : session ∈ (transport.pendingOf peerId).values) : transport.confirmed session = false := by
  obtain ⟨route, found⟩ := Dict.mem_values_iff.mp member
  obtain ⟨rfl, rfl⟩ := filed.pending_key found
  exact filed.pending_unconfirmed found

theorem clearDirectCandidate_settled (filed : transport.Filed) (settled : Settled entry opening transport) :
    Settled entry opening (transport.clearDirectCandidate peerId) := by
  have quiet : Quiet transport (transport.withdrawDirect peerId) := withdrawDirect_quiet
  exact (quiet.settled settled).removeSessions fun session member =>
    pending_unconfirmed (quiet.tables.within.filed filed) (List.mem_of_mem_filter member)

theorem forgetCandidate_settled (filed : transport.Filed) (settled : Settled entry opening transport) :
    Settled entry opening (transport.forgetCandidate peerId) := by
  have quiet : Quiet transport (transport.withdraw peerId) := withdraw_quiet
  exact (quiet.settled settled).removeSessions fun session member =>
    pending_unconfirmed (quiet.tables.within.filed filed) member

theorem finishTick_settled (filed : transport.Filed) (settled : Settled entry opening transport) :
    Settled entry opening (transport.finishTick now) := by
  have swept : Settled entry opening (UdpTransport.removeSessions
      (transport.pendingList.filter fun session => now - session.createdAt > 10) transport) := by
    refine settled.removeSessions fun session member => ?_
    obtain ⟨pending, held, member⟩ := List.mem_flatMap.mp (List.mem_of_mem_filter member)
    obtain ⟨peerId, found⟩ := Dict.mem_values_iff.mp held
    have member : session ∈ (transport.pendingOf peerId).values := by rwa [pendingOf, found]
    exact pending_unconfirmed filed member
  exact swept.mono (fun _ => rfl) fun _ member => member

theorem punchExhausted_settled {attempt : Attempt} :
    Keeps (Settled entry opening) (punchExhausted settings now attempt) := by
  refine Keeps.read fun seen _ => Keeps.ite (fun _ => ?_) fun _ => Keeps.pure
  refine Keeps.bind (Keeps.change fun state settled => ?_) fun _ => settled_of_quiet fun _ => relayFallback_quiet
  simp only [abandonAttempt]
  have popped : Settled entry opening { state with attempts := state.attempts.erase attempt.peerId } :=
    settled.mono (fun _ => rfl) fun _ member => member
  split
  · split
    · exact popped
    · rename_i unconfirmed
      exact popped.removeUnconfirmed (Bool.of_not_eq_true unconfirmed)
  · exact popped

theorem punchStep_settled {serial : Nat} (settled : Settled entry opening transport)
    (stepped : punchStep settings now serial transport = some next) : Settled entry opening next := by
  obtain ⟨punch, -, rfl⟩ := Option.map_eq_some_iff.mp stepped
  have ended : ∀ state, Settled entry opening state →
      Settled entry opening { state with punching := state.punching.erase serial } :=
    fun state settled => settled.mono (fun _ => rfl) fun _ member => member
  dsimp only
  split
  · rename_i remaining _
    have kept : Keeps (Settled entry opening) (punchRound settings punch.attempt) :=
      settled_of_quiet fun _ => punchRound_quiet
    have round := kept transport settled
    rcases run : punchRound settings punch.attempt transport with ⟨outcome, middle⟩
    rw [run] at round
    rcases outcome with failure | _ | _
    · exact ended middle round
    · exact ended middle round
    · exact round.mono (fun _ => rfl) fun _ member => member
  · exact ended _ (punchExhausted_settled.finish settled)

/-! ## READY and GOODBYE -/

theorem confirmedState_sessions (filed : transport.Filed) :
    (transport.confirmedState now session).sessions.get? peerId =
      if peerId = session.peerId then some session else transport.sessions.get? peerId := by
  rw [confirmedState_tables]
  exact promote_sessions fun found => filed.active_key found

theorem active_apart {active : Session} (filed : transport.Filed) (known : transport.Known session)
    (other : transport.sessions.get? peerId ≠ some session)
    (found : transport.sessions.get? peerId = some active) : active.serial ≠ session.serial := by
  intro same
  have equal := filed.serial_unique (.inr (.inl (filed.heldActive found))) known same
  exact other (equal ▸ found)

theorem active_elsewhere (filed : transport.Filed) (other : peerId ≠ session.peerId) :
    transport.sessions.get? peerId ≠ some session :=
  fun found => other (filed.active_key found).symm

theorem confirmedState_elsewhere (filed : transport.Filed) (listed : transport.Listed session)
    (other : peerId ≠ session.peerId) :
    (transport.confirmedState now session).announcedSession peerId = transport.announcedSession peerId := by
  refine announcedSession_congr ?_ fun active found => ?_
  · rw [confirmedState_sessions filed, if_neg other]
  · rw [confirmedState_tables, promote_statusOf, setStatus_statusOf,
      if_neg (active_apart filed (.inl listed) (active_elsewhere filed other) found)]

theorem confirmedState_unannounced (filed : transport.Filed) (announced : transport.Announced)
    (unconfirmed : transport.confirmed session = false) :
    (transport.confirmedState now session).announcedSession session.peerId = none := by
  refine Option.eq_none_iff_forall_ne_some.mpr fun active found => ?_
  obtain ⟨occupied, -, notified⟩ := announcedSession_some.mp found
  rw [confirmedState_sessions filed, if_pos rfl] at occupied
  cases occupied
  rw [confirmedState_tables, promote_statusOf, setStatus_statusOf, if_pos rfl] at notified
  have confirmed := announced session notified
  rw [unconfirmed] at confirmed
  contradiction

/-- Whether a datagram can be handed to the socket or to the relay. -/
def CanSend (transport : UdpTransport) (route : Route) : Prop :=
  route.2 = true → transport.derpSender = true ∧ transport.derpPeers.contains route.1 = true

instance (transport : UdpTransport) (route : Route) : Decidable (CanSend transport route) :=
  inferInstanceAs (Decidable (_ → _))

theorem sendRoute_spec {datagram : Datagram} :
    Ensures (· = transport) (sendRoute datagram route) (fun _ => Quiet transport)
      (fun state => Quiet transport state ∧ ¬ CanSend transport route) := by
  rintro state rfl
  have quiet := @sendRoute_quiet state route datagram state .refl
  have returned : CanSend state route →
      Ensures (· = state) (sendRoute datagram route) (fun _ _ => True) (fun _ => False) :=
    fun can => sendRoute_returns (fun _ same relayed => same ▸ can relayed) fun _ _ => trivial
  have returned := fun can => returned can state rfl
  rcases run : sendRoute datagram route state with ⟨outcome, final⟩
  rw [run] at quiet returned
  cases outcome with
  | ok => exact quiet
  | error failure => exact ⟨quiet, returned⟩

theorem callback_settled {told : Callback} : Keeps (Settled entry opening) (callback told) :=
  Keeps.change fun _ settled => settled.mono (fun _ => rfl) fun _ member => List.mem_append_left _ member

/-- Marking a session as announced, and telling the owner if it is active,
settles the session's peer. -/
theorem notifyConnected_settled (filed : transport.Filed) (known : transport.Known session)
    (confirmed : transport.confirmed session = true)
    (elsewhere : ∀ peerId, peerId ≠ session.peerId → SettledAt entry opening transport peerId)
    (here : transport.sessions.get? session.peerId ≠ some session →
      SettledAt entry opening transport session.peerId) :
    Ensures (· = transport) (notifyConnected session)
      (fun _ => Settled entry opening) (Settled entry opening) := by
  let marked := transport.updateStatus session fun status => { status with connectedNotified := true }
  have others : ∀ peerId, transport.sessions.get? peerId ≠ some session →
      marked.announcedSession peerId = transport.announcedSession peerId := fun peerId other =>
    announcedSession_congr rfl fun active found => by
      simp only [marked, updateStatus, setStatus_statusOf, if_neg (active_apart filed known other found)]
  refine Ensures.bind (Ensures.change (Q := fun _ state => state = marked) fun state same => by rw [same]) fun _ =>
    Ensures.read fun seen same => ?_
  subst same
  refine Ensures.ite (fun active => ?_) fun retired => ?_
  · refine Ensures.change ?_
    rintro state rfl peerId
    by_cases own : peerId = session.peerId
    · subst own
      have announced : marked.announcedSession session.peerId = some session := by
        refine announcedSession_some.mpr ⟨active, (notified_within.confirmed session).trans confirmed, ?_⟩
        simp only [marked, updateStatus, setStatus_statusOf, if_true]
      refine ⟨fun other found => .inr (.inl ?_), fun sessionId absent _ => ?_⟩
      · have equal := found.symm.trans announced
        cases equal
        exact List.mem_append_right _ (List.mem_singleton.mpr rfl)
      · have present := absent.symm.trans announced
        contradiction
    · exact (elsewhere peerId own).mono (others peerId (active_elsewhere filed own))
        fun _ member => List.mem_append_left _ member
  · refine Ensures.pure ?_
    rintro state rfl peerId
    by_cases own : peerId = session.peerId
    · subst own
      exact (here retired).mono (others _ retired) fun _ member => member
    · exact (elsewhere peerId own).mono (others peerId (active_elsewhere filed own)) fun _ member => member

theorem notifyOnce_settled (filed : transport.Filed) (known : transport.Known session)
    (confirmed : transport.confirmed session = true)
    (elsewhere : ∀ peerId, peerId ≠ session.peerId → SettledAt entry opening transport peerId)
    (here : transport.sessions.get? session.peerId ≠ some session ∨
      (transport.statusOf session).connectedNotified = true → SettledAt entry opening transport session.peerId) :
    Ensures (· = transport) (notifyOnce session) (fun _ => Settled entry opening) (Settled entry opening) := by
  refine Ensures.read fun seen same => ?_
  subst same
  refine Ensures.ite (fun notified => Ensures.pure ?_) fun _ =>
    notifyConnected_settled filed known confirmed elsewhere fun retired => here (.inl retired)
  rintro state rfl peerId
  by_cases own : peerId = session.peerId
  · subst own
    exact here (.inr notified)
  · exact elsewhere peerId own

theorem SettledAt.quiet (quiet : Quiet start next) (settled : SettledAt entry opening start peerId) :
    SettledAt entry opening next peerId :=
  settled.mono quiet.announcedSession fun _ member => quiet.callbacks ▸ member

theorem Quiet.filed (quiet : Quiet start next) (filed : start.Filed) : next.Filed :=
  quiet.tables.within.filed filed

/-- READY settles the peer unless it confirms the session and its reply cannot
be sent; then the owner is told nothing and must have nothing on record. -/
theorem handleReady_settled {stage : Maintenance} (consistent : Consistent False stage transport)
    (listed : transport.Listed session) (settled : Settled entry opening transport)
    (unrecorded : transport.confirmed session = false → ¬ CanSend (transport.confirmedState now session) session.route →
      ∀ sessionId, entry session.peerId = some sessionId →
        .onDisconnected session.peerId sessionId ∈ transport.callbacks) :
    Ensures (· = transport) (handleReady settings now session)
      (fun _ => Settled entry opening) (Settled entry opening) := by
  have filed := consistent.filed
  by_cases confirmed : transport.confirmed session = true
  · refine Ensures.bind (Q := fun _ state => state = transport) ?_ fun _ =>
      notifyOnce_settled filed (.inl listed) confirmed (fun peerId _ => settled peerId) fun _ => settled _
    refine Ensures.read fun seen same => ?_
    subst same
    exact Ensures.ite (fun _ => Ensures.pure fun _ same => same) fun unconfirmed => absurd confirmed unconfirmed
  · have unconfirmed := Bool.of_not_eq_true confirmed
    let established := transport.confirmedState now session
    have wellFiled : established.Filed := (confirmedState_consistent consistent listed unconfirmed).filed
    have kept : ∀ told ∈ transport.callbacks, told ∈ established.callbacks := by
      intro told member
      simp only [established, confirmedState, promoteSession_callbacks, popAttempt_quiet.callbacks]
      exact member
    have elsewhere : ∀ peerId, peerId ≠ session.peerId → SettledAt entry opening established peerId :=
      fun peerId other => (settled peerId).mono (confirmedState_elsewhere filed listed other) kept
    have absent : established.announcedSession session.peerId = none :=
      confirmedState_unannounced filed consistent.announced unconfirmed
    have occupied : established.sessions.get? session.peerId = some session := by
      rw [confirmedState_sessions filed, if_pos rfl]
    refine Ensures.bind (Q := fun _ => Quiet established) ?_ fun _ => ?_
    · refine Ensures.read fun seen same => ?_
      subst same
      refine Ensures.ite (fun holds => absurd holds confirmed) fun _ =>
        Ensures.bind (Ensures.change (Q := fun _ state => state = established) fun state same => same ▸ rfl)
          fun _ => ?_
      refine Ensures.weaken sendRoute_spec (fun _ same => same) (fun _ _ quiet => quiet) ?_
      rintro state ⟨quiet, cannot⟩ peerId
      refine SettledAt.quiet quiet ?_
      by_cases own : peerId = session.peerId
      · subst own
        refine ⟨fun other found => ?_, fun sessionId _ recorded => kept _ (unrecorded unconfirmed cannot sessionId recorded)⟩
        rw [absent] at found
        contradiction
      · exact elsewhere peerId own
    · intro state quiet
      refine notifyOnce_settled (quiet.filed wellFiled) (.inr (.inl ?_)) ?_ (fun peerId other => (elsewhere peerId other).quiet quiet) ?_ state rfl
      · rw [HeldActive, quiet.tables.sessions]
        exact occupied
      · rw [quiet.tables.confirmed]
        exact confirmedState_confirmed
      · rintro (retired | notified)
        · rw [quiet.tables.sessions] at retired
          exact absurd occupied retired
        · rw [quiet.tables.connectedNotified] at notified
          have present := announcedSession_some.mpr ⟨occupied, confirmedState_confirmed, notified⟩
          rw [absent] at present
          contradiction

/-- The record allows the announced session of the peer to end: it is absent,
it is that session's, or it is due for its own disconnect. -/
def Undisputed (entry : PeerId → Option SessionId) (transport : UdpTransport) (session : Session) : Prop :=
  transport.announcedSession session.peerId = some session →
    ∀ sessionId ∈ entry session.peerId,
      sessionId = session.sessionId ∨ .onDisconnected session.peerId sessionId ∈ transport.callbacks

instance (entry : PeerId → Option SessionId) (transport : UdpTransport) (session : Session) :
    Decidable (Undisputed entry transport session) := inferInstanceAs (Decidable (_ → ∀ _ ∈ _, _))

theorem Undisputed.quiet (quiet : Quiet start next) (undisputed : Undisputed entry start session) :
    Undisputed entry next session := by
  unfold Undisputed
  rw [quiet.announcedSession, quiet.callbacks]
  exact undisputed

theorem removeAndTell_settled (settled : Settled entry opening transport)
    (undisputed : Undisputed entry transport session) :
    Settled entry opening { transport.removeSession session with
      callbacks := (transport.removeSession session).callbacks ++
        [.onDisconnected session.peerId session.sessionId] } := by
  refine settled.disconnect undisputed ?_ rfl
  rw [removeSession_callbacks]

theorem handleGoodbye_settled (settled : Settled entry opening transport)
    (undisputed : Undisputed entry transport session) :
    Ensures (· = transport) (handleGoodbye session) (fun _ => Settled entry opening) (Settled entry opening) := by
  refine Ensures.read fun seen same => ?_
  subst same
  refine Ensures.bind (Ensures.change (Q := fun _ state => state = seen.removeSession session)
    fun state same => same ▸ rfl) fun _ => Ensures.ite (fun _ => Ensures.change ?_) fun inactive => Ensures.pure ?_
  · rintro state rfl
    exact removeAndTell_settled settled undisputed
  · rintro state rfl
    refine settled.mono (fun _ => removeSession_unannounced fun announced => ?_)
      fun _ member => by rwa [removeSession_callbacks]
    exact inactive (announcedSession_some.mp announced).1

/-- The session for which a control datagram passes the checks made before its
type is looked at. -/
def authenticates (settings : Settings) (transport : UdpTransport) (header : AuthHeader) (tag : Bytes)
    (route : Route) : Option Session :=
  (transport.sessionsById.get? header.sessionId).filter fun session =>
    session.route = route ∧ tag = settings.crypto.tag session.receiveAuthenticationKey header

theorem authenticates_some {header : AuthHeader} {tag : Bytes} :
    authenticates settings transport header tag route = some session ↔
      transport.sessionsById.get? header.sessionId = some session ∧ session.route = route ∧
        tag = settings.crypto.tag session.receiveAuthenticationKey header := by
  simp only [authenticates, Option.filter_eq_some_iff, decide_eq_true_eq]

theorem handleKeepalive_settled {stage : Maintenance} {header : AuthHeader} {tag : Bytes}
    (consistent : Consistent False stage transport) (settled : Settled entry opening transport)
    (ends : ∀ session, authenticates settings transport header tag route = some session →
      header.type = .goodbye → Undisputed entry transport session)
    (fails : ∀ session, authenticates settings transport header tag route = some session → header.type = .ready →
      transport.confirmed session = false → ¬ CanSend (transport.confirmedState now session) route →
      ∀ sessionId, entry session.peerId = some sessionId →
        .onDisconnected session.peerId sessionId ∈ transport.callbacks) :
    Ensures (· = transport) (handleKeepalive settings now header tag route)
      (fun _ => Settled entry opening) (Settled entry opening) := by
  refine Ensures.bind (Ensures.weaken sessionFor_found (fun _ same => same) (fun _ _ found => found)
    fun _ same => same ▸ settled) fun session => ?_
  refine Ensures.bind (Ensures.refuse
    (Q := fun _ state => state = transport ∧ authenticates settings transport header tag route = some session)
    (fun state found _ => found.1 ▸ settled) fun state found passed => ?_) fun _ => ?_
  · exact ⟨found.1, authenticates_some.mpr ⟨found.2.1, found.2.2.1, Decidable.not_not.mp passed⟩⟩
  · rintro state ⟨rfl, authentic⟩
    obtain ⟨found, onRoute, -⟩ := authenticates_some.mp authentic
    have listed : state.Listed session := by
      rw [Listed, consistent.filed.listed_key found]
      exact found
    refine (Ensures.ite (fun ready => ?_) (fun _ => ?_) : Ensures (· = state) _ _ _) state rfl
    · refine handleReady_settled consistent listed settled ?_
      rw [onRoute]
      exact fails session authentic ready
    · refine Ensures.read fun seen same => ?_
      subst same
      refine Ensures.bind (Ensures.refuse (Q := fun _ state => state = seen)
        (fun state same _ => same ▸ settled) fun state same _ => same) fun _ => ?_
      refine Ensures.bind (Ensures.change (Q := fun _ state => state = seen.touch now session)
        fun state same => same ▸ rfl) fun _ => ?_
      have touched : Settled entry opening (seen.touch now session) := touch_quiet.settled settled
      split
      · exact Ensures.weaken (settled_of_quiet fun _ => sendAuthenticated_quiet) (fun _ same => same ▸ touched)
          (fun _ _ settled => settled) fun _ settled => settled
      · rename_i goodbye
        exact handleGoodbye_settled touched ((ends session authentic goodbye).quiet touch_quiet)
      all_goals exact Ensures.pure fun _ same => same ▸ touched

/-! ## Data and maintenance -/

theorem acceptPacket_settled {messageId : Nat} {packet : Packet} :
    Keeps (Settled entry opening) (acceptPacket settings now session messageId packet) := by
  refine Keeps.bind (Keeps.change fun state settled => ?_) fun _ =>
    Keeps.bind (settled_of_quiet fun _ => sendAuthenticated_quiet) fun _ => ?_
  · have quiet : Quiet state (state.updateStatus session fun status =>
        { status with seen := status.seen.set messageId now }) := updateStatus_quiet (fun _ => rfl) fun _ => rfl
    exact settled.mono (fun _ => quiet.announcedSession) fun _ member => member
  · split
    · exact Keeps.pure
    · exact callback_settled

theorem handleData_settled {header : DataHeader} {ciphertext : Bytes} :
    Keeps (Settled entry opening) (handleData settings now header ciphertext route) := by
  refine Keeps.bind (settled_of_quiet fun _ => receivePacket_quiet) fun received => ?_
  split
  · exact Keeps.pure
  · exact acceptPacket_settled

theorem visitActive_settled {token : Nat} (settled : Settled entry opening transport)
    (undisputed : transport.Expires now session → Undisputed entry transport session) :
    Ensures (· = transport) (visitActive settings now session token)
      (fun _ => Settled entry opening) (Settled entry opening) := by
  refine Ensures.read fun seen same => ?_
  subst same
  refine Ensures.ite (fun overdue => ?_) fun recent => Ensures.ite (fun silent => ?_) fun heard => ?_
  · refine Ensures.change ?_
    rintro state rfl
    simp only [Bool.not_eq_true'] at overdue
    exact settled.removeUnconfirmed overdue.1
  · refine Ensures.bind (Ensures.change (Q := fun _ state => state = seen.removeSession session)
      fun state same => same ▸ rfl) fun _ => Ensures.change ?_
    rintro state rfl
    exact removeAndTell_settled settled (undisputed (.inr silent))
  · refine Ensures.weaken ?_ (fun _ same => same ▸ settled) (fun _ _ settled => settled) fun _ settled => settled
    exact Keeps.bind (Keeps.read fun _ _ => Keeps.ite (fun _ => settled_of_quiet fun _ => keepAlive_quiet)
      fun _ => Keeps.pure) fun _ => Keeps.change fun _ settled => sweep_quiet.settled settled

theorem visitRetiring_settled {expiresAt : Time} (settled : Settled entry opening transport)
    (undisputed : now ≥ expiresAt → Undisputed entry transport session) :
    Ensures (· = transport) (visitRetiring now session expiresAt)
      (fun _ => Settled entry opening) (Settled entry opening) := by
  refine Ensures.ite (fun expired => ?_) fun _ => Ensures.change fun _ same => sweep_quiet.settled (same ▸ settled)
  refine Ensures.bind (Ensures.change (Q := fun _ state => state = transport.removeSession session)
    fun state same => same ▸ rfl) fun _ => Ensures.change ?_
  rintro state rfl
  exact removeAndTell_settled settled (undisputed expired)

theorem maintain_settled {piece : Handling PUnit} {following : Maintenance}
    (ensured : Ensures (· = transport) piece (fun _ => Settled entry opening) (Settled entry opening)) :
    Settled entry opening (maintain piece following transport) := by
  have result := ensured transport rfl
  unfold maintain
  rcases run : piece transport with ⟨outcome, final⟩
  rw [run] at result
  cases outcome <;> exact Settled.mono result (fun _ => rfl) fun _ member => member

/-! ## The events that unsettle -/

/-- Whether the transport looks at a datagram at all. -/
def hears (settings : Settings) (route : Route) : Bool := !(settings.forceRelay && !route.2)

/-- The session whose end the event makes the transport report. -/
def endedSession (settings : Settings) (transport : UdpTransport) : Time × TransportEvent → Option Session
  | (_, .datagramReceived (.authenticated header tag) route) =>
      if hears settings route ∧ header.type = .goodbye then authenticates settings transport header tag route
      else none
  | (_, .maintenance _) =>
      match transport.maintenance with
      | .active now (session :: _) => if transport.Expires now session then some session else none
      | .retiring now ((session, expiresAt) :: _) => if now ≥ expiresAt then some session else none
      | _ => none
  | _ => none

/-- The session that the event confirms without the reply being sent, which the
source does before it tells the owner. -/
def unansweredSession (settings : Settings) (transport : UdpTransport) : Time × TransportEvent → Option Session
  | (now, .datagramReceived (.authenticated header tag) route) =>
      if hears settings route ∧ header.type = .ready then
        (authenticates settings transport header tag route).filter fun session =>
          transport.confirmed session = false ∧ ¬ CanSend (transport.confirmedState now session) route
      else none
  | _ => none

theorem maintenanceStep_settled {token : Nat} (filed : transport.Filed) (settled : Settled entry opening transport)
    (ends : ∀ session ∈ endedSession settings transport (now, .maintenance token), Undisputed entry transport session)
    (stepped : maintenanceStep settings now token transport = some next) : Settled entry opening next := by
  have paused : ∀ stage : Maintenance, Settled entry opening { transport with maintenance := stage } :=
    fun _ => settled.mono (fun _ => rfl) fun _ member => member
  unfold maintenanceStep at stepped
  split at stepped <;> rename_i phase
  · cases stepped
    exact paused _
  · cases stepped
    refine maintain_settled (visitActive_settled settled fun expires => ends _ ?_)
    simp only [endedSession, phase, if_pos expires, Option.mem_def]
  · cases stepped
    exact paused _
  · cases stepped
    refine maintain_settled (visitRetiring_settled settled fun expired => ends _ ?_)
    simp only [endedSession, phase, if_pos expired, Option.mem_def]
  · cases stepped
    exact (finishTick_settled filed settled).mono (fun _ => rfl) fun _ member => member
  · contradiction

theorem step_settled {event : Time × TransportEvent} (tracked : Tracked False transport)
    (settled : Settled entry opening transport)
    (ends : ∀ session ∈ endedSession settings transport event, Undisputed entry transport session)
    (fails : ∀ session ∈ unansweredSession settings transport event, ∀ sessionId ∈ entry session.peerId,
      .onDisconnected session.peerId sessionId ∈ transport.callbacks)
    (stepped : step settings transport event = some next) : Settled entry opening next := by
  have consistent := tracked.consistent
  obtain ⟨now, event⟩ := event
  cases event with
  | datagramReceived datagram route =>
      cases stepped
      unfold datagramReceived
      by_cases refused : settings.forceRelay ∧ !route.2
      · rw [if_pos refused]; exact settled
      · rw [if_neg refused]
        have heard : hears settings route = true := by
          rw [hears, Bool.not_eq_true', Bool.eq_false_iff, ne_eq, Bool.and_eq_true]
          exact refused
        cases datagram with
        | empty => exact settled
        | hello hello => exact handleHello_settled consistent settled
        | data header ciphertext => exact handleData_settled.finish settled
        | authenticated header tag =>
            dsimp only
            split
            · exact (settled_of_quiet fun _ => handleAck_quiet).finish settled
            · refine Ensures.finish (handleKeepalive_settled consistent settled ?_ ?_) rfl
              · intro session authentic goodbye
                refine ends session ?_
                simp only [endedSession, heard, goodbye, and_self, if_true, Option.mem_def, authentic]
              · intro session authentic ready unconfirmed cannot
                refine fails session ?_
                simp only [unansweredSession, heard, ready, and_self, if_true, Option.mem_def]
                exact Option.filter_eq_some_iff.mpr ⟨authentic, by simp [unconfirmed, cannot]⟩
  | punch serial => exact punchStep_settled settled stepped
  | maintenance token => exact maintenanceStep_settled tracked.filed settled ends stepped
  | expectPeer peerId endpoint =>
      cases stepped
      exact (settled_of_quiet fun _ => expectPeer_quiet).finish settled
  | expectDerpPeer peerId =>
      cases stepped
      exact (settled_of_quiet fun _ => expectDerpPeer_quiet).finish settled
  | configureDerp sender serverEnabled =>
      cases stepped
      exact settled.mono (fun _ => rfl) fun _ member => member
  | clearDirectCandidate peerId =>
      cases stepped
      exact clearDirectCandidate_settled tracked.filed settled
  | forgetCandidate peerId =>
      cases stepped
      exact forgetCandidate_settled tracked.filed settled
  | sendPacket call peerId packet messageId nonces =>
      simp only [step] at stepped
      split at stepped
      · contradiction
      · cases stepped
        exact (settled_of_quiet fun _ => sendPacket_quiet).finish settled
  | sendRound call =>
      obtain ⟨sending, -, rfl⟩ := Option.map_eq_some_iff.mp stepped
      exact (settled_of_quiet fun _ => sendRound_quiet).finish settled

end UdpTransport

end MeshTalk.Udp
