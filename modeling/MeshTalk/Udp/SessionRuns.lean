import MeshTalk.Udp.Frames

namespace MeshTalk.Udp

open MeshTalk.Library MeshTalk.Protocol Handler

/-! # The session maps over whole runs

`Filed` holds in every reachable state.  `Indexed` is lost by three slips: a
HELLO that overwrites an unconfirmed active session, a derived id that is
already in use, and the maintenance task removing an object whose id a newer
session has taken over.
-/

namespace SessionTables

variable {tables : SessionTables} {session other : Session} {peerId : PeerId} {route : Route}

theorem Indexed.listed (indexed : Indexed tables)
    (held : tables.HeldActive session ∨ tables.HeldPending session ∨ tables.HeldRetiring session) :
    tables.Listed session := by
  rcases held with active | pending | retiring
  · exact indexed.active_listed active
  · exact indexed.pending_listed pending
  · exact indexed.retiring_listed retiring

theorem Listed.unaliased (listed : tables.Listed session) : tables.Unaliased session := by
  intro other found
  exact Option.some.inj (found.symm.trans listed)

theorem Unaliased.remove (unaliased : tables.Unaliased session) : (tables.remove other).Unaliased session :=
  fun listed found => unaliased listed (remove_within.listed found)

theorem Filed.sessionForRoute_held (filed : Filed tables)
    (found : tables.sessionForRoute peerId route = some session) :
    (tables.HeldActive session ∨ tables.HeldPending session ∨ tables.HeldRetiring session) ∧
      session.peerId = peerId ∧ session.route = route := by
  unfold sessionForRoute at found
  rcases Option.or_eq_some_iff.mp found with active | ⟨-, found⟩
  · obtain ⟨active, onRoute⟩ := Option.filter_eq_some_iff.mp active
    exact ⟨.inl (filed.heldActive active), filed.active_key active, of_decide_eq_true onRoute⟩
  · rcases Option.or_eq_some_iff.mp found with pending | ⟨-, retiring⟩
    · obtain ⟨rfl, rfl⟩ := filed.pending_key pending
      exact ⟨.inr (.inl pending), rfl, rfl⟩
    · obtain ⟨⟨_, expiresAt⟩, first, rfl⟩ := Option.map_eq_some_iff.mp retiring
      obtain ⟨sessionId, filedUnder⟩ := Dict.mem_values_iff.mp (List.mem_of_find?_eq_some first)
      have matching := List.find?_some first
      simp only [Bool.and_eq_true, decide_eq_true_eq] at matching
      have key := filed.retiring_key filedUnder
      refine ⟨.inr (.inr ⟨expiresAt, ?_⟩), matching⟩
      rwa [key]

theorem sessionForRoute_active (active : tables.sessions.get? peerId = some session) (onRoute : session.route = route) :
    tables.sessionForRoute peerId route = some session := by
  simp [sessionForRoute, active, onRoute, Option.filter]

/-- Only confirmed sessions have been announced to the owner. -/
def Announced (tables : SessionTables) : Prop :=
  ∀ session, (tables.statusOf session).connectedNotified = true → tables.confirmed session = true

theorem Announced.congr {second : SessionTables} (announced : tables.Announced)
    (same : ∀ session, second.statusOf session = tables.statusOf session) : second.Announced := by
  intro session notified
  rw [confirmed_eq, same]
  exact announced session (same session ▸ notified)

theorem Agrees.announced {second : SessionTables} (agrees : Agrees tables second) (announced : tables.Announced) :
    second.Announced := by
  intro session notified
  rw [agrees.confirmed]
  exact announced session ((agrees.connectedNotified session).symm.trans notified)

theorem promote_statusOf {now : Time} : (tables.promote session now).statusOf other = tables.statusOf other := by
  unfold promote vacate
  split
  · rfl
  · split
    · exact activate_statusOf
    · split
      · exact activate_statusOf
      · rw [activate_statusOf, remove_statusOf]

theorem add_statusOf : (tables.add session).statusOf other =
    if other.serial = session.serial then .fresh session.createdAt else tables.statusOf other := by
  simp only [add, replacePending]
  split
  · split <;> grind
  · grind

end SessionTables

namespace UdpTransport

open SessionTables

variable {settings : Settings} {now : Time} {transport start next : UdpTransport} {session : Session}
  {peerId : PeerId} {route : Route} {indexed : Prop} {stage : Maintenance}

/-- The maps are filed and, where `indexed` is assumed of the run, indexed; only
confirmed sessions have been announced; the maintenance task is where it was. -/
structure Consistent (indexed : Prop) (stage : Maintenance) (transport : UdpTransport) : Prop where
  filed : transport.Filed
  announced : transport.Announced
  index : indexed → transport.Indexed
  stage : transport.maintenance = stage

theorem Quiet.consistent (quiet : Quiet start next) (consistent : Consistent indexed stage start) :
    Consistent indexed stage next :=
  ⟨quiet.tables.within.filed consistent.filed, quiet.tables.announced consistent.announced, fun assumed => quiet.tables.indexed (consistent.index assumed),
    quiet.maintenance.trans consistent.stage⟩

/-- A handler that is quiet from every state keeps the maps consistent. -/
theorem consistent_of_quiet {handler : Handling α} (quiet : ∀ start, Keeps (Quiet start) handler) :
    Keeps (Consistent indexed stage) handler :=
  fun state consistent => by
    have kept := quiet state state .refl
    rcases run : handler state with ⟨outcome, final⟩
    rw [run] at kept
    cases outcome <;> exact Quiet.consistent kept consistent

/-! ## Removing sessions -/

theorem Consistent.removeSession (consistent : Consistent indexed stage transport)
    (unaliased : indexed → transport.Unaliased session) : Consistent indexed stage (transport.removeSession session) := by
  refine ⟨?_, ?_, fun assumed => ?_, ?_⟩
  · rw [removeSession_tables]; exact remove_within.filed consistent.filed
  · rw [removeSession_tables]; exact consistent.announced.congr fun _ => remove_statusOf
  · rw [removeSession_tables]
    exact Indexed.remove consistent.filed (consistent.index assumed) (unaliased assumed)
  · rw [removeSession_maintenance]; exact consistent.stage

theorem Consistent.removeSessions {sessions : List Session} (consistent : Consistent indexed stage transport)
    (unaliased : indexed → ∀ session ∈ sessions, transport.Unaliased session) :
    Consistent indexed stage (removeSessions sessions transport) := by
  induction sessions generalizing transport with
  | nil => exact consistent
  | cons session rest ih =>
      refine ih (consistent.removeSession fun assumed => unaliased assumed session (List.mem_cons_self ..)) ?_
      intro assumed other member
      rw [removeSession_tables]
      exact (unaliased assumed other (List.mem_cons_of_mem _ member)).remove

theorem Consistent.unaliased (consistent : Consistent indexed stage transport)
    (held : transport.HeldActive session ∨ transport.HeldPending session ∨ transport.HeldRetiring session) :
    indexed → transport.Unaliased session :=
  fun assumed => ((consistent.index assumed).listed held).unaliased

theorem Consistent.pending_unaliased (consistent : Consistent indexed stage transport)
    (member : session ∈ (transport.pendingOf peerId).values) : indexed → transport.Unaliased session := by
  obtain ⟨route, found⟩ := Dict.mem_values_iff.mp member
  obtain ⟨rfl, rfl⟩ := consistent.filed.pending_key found
  exact consistent.unaliased (.inr (.inl found))

theorem clearDirectCandidate_consistent (consistent : Consistent indexed stage transport) :
    Consistent indexed stage (transport.clearDirectCandidate peerId) := by
  have halted : Consistent indexed stage (transport.withdrawDirect peerId) := withdrawDirect_quiet.consistent consistent
  exact halted.removeSessions fun assumed session member =>
    halted.pending_unaliased (List.mem_of_mem_filter member) assumed

theorem forgetCandidate_consistent (consistent : Consistent indexed stage transport) :
    Consistent indexed stage (transport.forgetCandidate peerId) := by
  have halted : Consistent indexed stage (transport.withdraw peerId) := withdraw_quiet.consistent consistent
  exact halted.removeSessions fun assumed session member => halted.pending_unaliased member assumed

theorem finishTick_consistent (consistent : Consistent indexed stage transport) :
    Consistent indexed stage (transport.finishTick now) := by
  unfold finishTick
  have swept : Consistent indexed stage (removeSessions
      (transport.pendingList.filter fun session => now - session.createdAt > 10) transport) := by
    refine consistent.removeSessions fun assumed session member => ?_
    obtain ⟨pending, held, member⟩ := List.mem_flatMap.mp (List.mem_of_mem_filter member)
    obtain ⟨peerId, found⟩ := Dict.mem_values_iff.mp held
    have member : session ∈ (transport.pendingOf peerId).values := by rwa [pendingOf, found]
    exact consistent.pending_unaliased member assumed
  exact ⟨swept.filed, swept.announced, swept.index, swept.stage⟩

/-! ## HELLO -/

/-- Room for the session a HELLO opens: an active session of the peer on another
route is confirmed, and the derived id is free. -/
def OpensSafely (transport : UdpTransport) (opening : Opening) : Prop :=
  (∀ active, transport.sessions.get? opening.hello.peerId = some active →
    transport.confirmed active = true ∨ active.route = opening.route) ∧
  transport.Unclaimed opening.hello.peerId opening.route opening.sessionId

theorem addSession_tables :
    (transport.addSession session).toSessionTables = transport.toSessionTables.add session := by
  simp only [addSession, SessionTables.add, replacePending]
  by_cases established : ((transport.create session).confirmedActive session.peerId).isSome = true
  · simp only [if_pos established]
    cases (transport.create session).pendingOf session.peerId |>.get? session.route with
    | none => rfl
    | some stale => simp only [removeSession_tables]
  · simp only [if_neg established]

theorem addSession_maintenance : (transport.addSession session).maintenance = transport.maintenance := by
  simp only [addSession]
  split
  · split
    · exact removeSession_maintenance
    · rfl
  · rfl

theorem addSession_callbacks : (transport.addSession session).callbacks = transport.callbacks := by
  simp only [addSession]
  split
  · split
    · exact removeSession_callbacks
    · rfl
  · rfl

theorem dropUnconfirmed_consistent {current : Option Session} (consistent : Consistent indexed stage transport)
    (compared : current = transport.sessionForRoute peerId route) :
    Consistent indexed stage (transport.dropUnconfirmed current) := by
  unfold dropUnconfirmed
  split
  · split
    · exact consistent
    · exact consistent.removeSession
        (consistent.unaliased (consistent.filed.sessionForRoute_held compared.symm).1)
  · exact consistent

theorem addSession_consistent (consistent : Consistent indexed stage transport)
    (numbered : session.serial = transport.nextSession)
    (room : indexed → (∀ active, transport.sessions.get? session.peerId = some active →
      transport.confirmed active = true) ∧ transport.Unclaimed session.peerId session.route session.sessionId) :
    Consistent indexed stage (transport.addSession session) := by
  refine ⟨?_, ?_, fun assumed => ?_, addSession_maintenance.trans consistent.stage⟩
  · rw [addSession_tables]
    exact (added consistent.filed numbered).filed consistent.filed numbered
  · rw [addSession_tables]
    intro other notified
    rw [confirmed_eq, add_statusOf]
    rw [add_statusOf] at notified
    split at notified
    · contradiction
    · rename_i different
      rw [if_neg different]
      exact consistent.announced other notified
  · rw [addSession_tables]
    exact Indexed.add consistent.filed (consistent.index assumed) numbered (room assumed).1 (room assumed).2

/-- What made room before the session compared with was dropped makes room
after it too, and then every active session left to the peer is confirmed. -/
theorem OpensSafely.dropped {opening : Opening} (safe : OpensSafely transport opening) (filed : transport.Filed)
    (compared : opening.current = transport.sessionForRoute opening.hello.peerId opening.route) :
    (∀ active, (transport.dropUnconfirmed opening.current).sessions.get? opening.hello.peerId = some active →
      (transport.dropUnconfirmed opening.current).confirmed active = true) ∧
    (transport.dropUnconfirmed opening.current).Unclaimed opening.hello.peerId opening.route opening.sessionId := by
  obtain ⟨established, unclaimed⟩ := safe
  have onRoute : ∀ active, transport.sessions.get? opening.hello.peerId = some active →
      active.route = opening.route → opening.current = some active :=
    fun active found same => compared.trans (sessionForRoute_active found same)
  unfold dropUnconfirmed
  split
  · rename_i current dropped
    split
    · rename_i confirmed
      refine ⟨fun active found => ?_, unclaimed⟩
      rcases established active found with confirmed | same
      · exact confirmed
      · have equal := Option.some.inj (dropped.symm.trans (onRoute active found same))
        exact equal ▸ confirmed
    · rename_i unconfirmed
      refine ⟨fun active found => ?_, fun holder listed => ?_⟩
      · rw [removeSession_tables] at found
        have before := remove_within.active found
        rw [removeSession_tables, remove_within.confirmed]
        rcases established active before with confirmed | same
        · exact confirmed
        · have equal := Option.some.inj (dropped.symm.trans (onRoute active before same))
          rw [equal, remove_sessions, if_pos ⟨(filed.active_key before).symm, before⟩] at found
          contradiction
      · rw [removeSession_tables] at listed ⊢
        obtain ⟨pending, confirmed⟩ := unclaimed holder (remove_within.listed listed)
        obtain ⟨active, found, confirmed⟩ := confirmedActive_isSome.mp confirmed
        have kept : holder ≠ current := by
          rintro rfl
          have key := filed.listed_key (remove_within.listed listed)
          rw [remove_sessionsById, Dict.get?_erase, if_pos key.symm] at listed
          contradiction
        have stays : active ≠ current := by
          rintro rfl
          exact unconfirmed confirmed
        refine ⟨?_, confirmedActive_isSome.mpr ⟨active, ?_, (remove_within.confirmed active).trans confirmed⟩⟩
        · rw [remove_pendingOf, if_neg]
          · exact pending
          · rintro ⟨-, -, same⟩
            exact kept (Option.some.inj (pending.symm.trans same))
        · rw [remove_sessions, if_neg]
          · exact found
          · rintro ⟨-, same⟩
            exact stays (Option.some.inj (found.symm.trans same))
  · rename_i absent
    refine ⟨fun active found => ?_, unclaimed⟩
    rcases established active found with confirmed | same
    · exact confirmed
    · rw [onRoute active found same] at absent
      contradiction

theorem dropUnconfirmed_nextSession {current : Option Session} :
    (transport.dropUnconfirmed current).nextSession = transport.nextSession := by
  unfold dropUnconfirmed
  split
  · split
    · rfl
    · rw [removeSession_tables, remove_nextSession]
  · rfl

theorem installSession_consistent {opening : Opening} (consistent : Consistent indexed stage transport)
    (compared : opening.current = transport.sessionForRoute opening.hello.peerId opening.route)
    (safe : indexed → OpensSafely transport opening) :
    Ensures (· = transport) (installSession settings now opening)
      (fun _ => Consistent indexed stage) (Consistent indexed stage) := by
  have dropped := dropUnconfirmed_consistent consistent compared
  refine Ensures.read fun seen same => ?_
  subst same
  refine Ensures.bind (Ensures.refuse (Q := fun _ state => state = seen)
    (fun state same _ => same ▸ consistent) fun _ same _ => same) fun _ => ?_
  refine Ensures.bind (Ensures.change (Q := fun _ state => state = seen.dropUnconfirmed opening.current)
    fun state same => by rw [same]) fun _ => ?_
  refine Ensures.bind (Ensures.orRaise (Q := fun _ state => state = seen.dropUnconfirmed opening.current)
    (fun state same _ => same ▸ dropped) fun _ _ same _ => same) fun displayName => ?_
  refine Ensures.bind (Ensures.change (Q := fun _ => Consistent indexed stage) ?_) fun _ =>
    consistent_of_quiet fun _ => sendAuthenticated_quiet
  rintro state rfl
  exact addSession_consistent dropped dropUnconfirmed_nextSession.symm
    fun assumed => (safe assumed).dropped consistent.filed compared

theorem OpensSafely.quiet {opening : Opening} (safe : OpensSafely start opening) (quiet : Quiet start next) :
    OpensSafely next opening := by
  unfold OpensSafely Unclaimed confirmedActive at *
  simpa only [quiet.tables.sessions, quiet.tables.confirmed, quiet.tables.sessionsById, quiet.tables.pendingOf]
    using safe

theorem handleHello_consistent {hello : Hello} (consistent : Consistent indexed stage start)
    (safe : indexed → ∀ opening next, admitHello settings now hello route start = (.ok (some opening), next) →
      OpensSafely start opening) :
    Consistent indexed stage ((handleHello settings now hello route).finish start) := by
  have admitted := @admitHello_spec settings now start route hello start .refl
  unfold handleHello finish
  rw [bind_apply]
  rcases run : admitHello settings now hello route start with ⟨outcome, middle⟩
  rw [run] at admitted
  cases outcome with
  | error failure => exact Quiet.consistent admitted consistent
  | ok result =>
      obtain ⟨quiet, opens⟩ := admitted
      cases result with
      | none => exact quiet.consistent consistent
      | some opening =>
          obtain ⟨same, routed, compared⟩ := opens opening rfl
          refine Ensures.finish (installSession_consistent (quiet.consistent consistent) ?_ ?_) rfl
          · rw [quiet.sessionForRoute, same, routed]; exact compared
          · exact fun assumed => (safe assumed opening middle run).quiet quiet

/-! ## READY and GOODBYE -/

theorem promoteSession_tables :
    (transport.promoteSession session now).toSessionTables = transport.toSessionTables.promote session now := by
  simp only [promoteSession, SessionTables.promote, vacateActive, vacate]
  split
  · rfl
  · split
    · rfl
    · split
      · rfl
      · simp only [removeSession_tables]

theorem promoteSession_maintenance :
    (transport.promoteSession session now).maintenance = transport.maintenance := by
  simp only [promoteSession, vacateActive]
  split
  · rfl
  · split
    · rfl
    · split
      · rfl
      · exact removeSession_maintenance

theorem promoteSession_callbacks :
    (transport.promoteSession session now).callbacks = transport.callbacks := by
  simp only [promoteSession, vacateActive]
  split
  · rfl
  · split
    · rfl
    · split
      · rfl
      · exact removeSession_callbacks

theorem popAttempt_tables : (transport.popAttempt peerId).toSessionTables = transport.toSessionTables := by
  unfold popAttempt
  split <;> rfl

/-- The state in which `confirmSession` sends its READY. -/
def confirmedState (transport : UdpTransport) (now : Time) (session : Session) : UdpTransport :=
  ((transport.confirm now session).popAttempt session.peerId).promoteSession session now

theorem confirmedState_tables : (transport.confirmedState now session).toSessionTables =
    (transport.toSessionTables.setStatus session
      { transport.statusOf session with confirmed := true, lastSeen := now }).promote session now := by
  unfold confirmedState
  rw [promoteSession_tables, popAttempt_tables]
  rfl

theorem confirmedState_consistent (consistent : Consistent indexed stage transport)
    (listed : transport.Listed session) (unconfirmed : transport.confirmed session = false) :
    Consistent indexed stage (transport.confirmedState now session) := by
  refine ⟨?_, ?_, fun assumed => ?_, ?_⟩
  · rw [confirmedState_tables]
    exact (promoted consistent.filed listed rfl).filed consistent.filed listed unconfirmed
  · rw [confirmedState_tables]
    intro other notified
    rw [confirmed_eq, promote_statusOf, setStatus_statusOf]
    rw [promote_statusOf, setStatus_statusOf] at notified
    split
    · rfl
    · rename_i different
      rw [if_neg different] at notified
      exact consistent.announced other notified
  · rw [confirmedState_tables]
    exact Indexed.promote consistent.filed (consistent.index assumed) listed unconfirmed
  · exact promoteSession_maintenance.trans (popAttempt_quiet.maintenance.trans consistent.stage)

theorem notified_within :
    Within (transport.updateStatus session fun status => { status with connectedNotified := true }).toSessionTables
      transport.toSessionTables where
  listed := id
  active := id
  pending := id
  retiring := id
  nextSession := rfl
  confirmed other := by
    simp only [SessionTables.confirmed, updateStatus, setStatus_statusOf]
    split
    · rename_i same
      simp only [SessionTables.statusOf, same]
    · rfl

theorem notified_consistent (consistent : Consistent indexed stage transport)
    (confirmed : transport.confirmed session = true) :
    Consistent indexed stage
      (transport.updateStatus session fun status => { status with connectedNotified := true }) := by
  refine ⟨notified_within.filed consistent.filed, fun other notified => ?_, fun assumed => ?_, consistent.stage⟩
  · rw [notified_within.confirmed]
    by_cases same : other.serial = session.serial
    · rwa [SessionTables.confirmed, SessionTables.statusOf, same]
    · refine consistent.announced other ?_
      rwa [updateStatus, setStatus_statusOf, if_neg same] at notified
  · obtain ⟨held, active, pending, retiring⟩ := consistent.index assumed
    exact ⟨held, active, pending, retiring⟩

theorem callback_consistent {told : Callback} : Keeps (Consistent indexed stage) (callback told) :=
  Keeps.change fun _ consistent => ⟨consistent.filed, consistent.announced, consistent.index, consistent.stage⟩

theorem notifyOnce_consistent :
    Ensures (fun state => Consistent indexed stage state ∧ state.confirmed session = true) (notifyOnce session)
      (fun _ => Consistent indexed stage) (Consistent indexed stage) := by
  refine Ensures.read fun seen held => Ensures.ite (fun _ => Ensures.pure fun _ same => same ▸ held.1) fun _ => ?_
  refine Ensures.bind (Ensures.change (Q := fun _ => Consistent indexed stage) ?_) fun _ =>
    Keeps.read fun seen _ => Keeps.ite (fun _ => callback_consistent) fun _ => Keeps.pure
  rintro state rfl
  exact notified_consistent held.1 held.2

theorem Quiet.listed (quiet : Quiet start next) (listed : start.Listed session) : next.Listed session := by
  unfold Listed
  rw [quiet.tables.sessionsById]
  exact listed

theorem confirmedState_confirmed : (transport.confirmedState now session).confirmed session = true := by
  rw [confirmed_eq, confirmedState_tables, promote_statusOf, setStatus_statusOf, if_pos rfl]

theorem confirmOnce_consistent (consistent : Consistent indexed stage start) (listed : start.Listed session) :
    Ensures (Quiet start) (confirmOnce settings now session)
      (fun _ state => Consistent indexed stage state ∧ state.confirmed session = true)
      (Consistent indexed stage) := by
  refine Ensures.read fun seen quiet => ?_
  have consistent := quiet.consistent consistent
  refine Ensures.ite (fun confirmed => Ensures.pure fun state same => same ▸ ⟨consistent, confirmed⟩)
    fun unconfirmed => ?_
  have established : Consistent indexed stage (seen.confirmedState now session) :=
    confirmedState_consistent consistent (quiet.listed listed) (Bool.of_not_eq_true unconfirmed)
  refine Ensures.bind (Ensures.change (Q := fun _ => Quiet (seen.confirmedState now session)) ?_) fun _ =>
    Ensures.weaken sendAuthenticated_quiet (fun _ quiet => quiet) (fun _ state quiet => ?_)
      fun state quiet => quiet.consistent established
  · rintro state rfl
    exact .refl
  · exact ⟨quiet.consistent established, (quiet.tables.confirmed session).trans confirmedState_confirmed⟩

theorem handleReady_consistent (consistent : Consistent indexed stage start) (listed : start.Listed session) :
    Ensures (Quiet start) (handleReady settings now session)
      (fun _ => Consistent indexed stage) (Consistent indexed stage) :=
  Ensures.bind (confirmOnce_consistent consistent listed) fun _ => notifyOnce_consistent

theorem handleGoodbye_consistent (listed : start.Listed session) (consistent : Consistent indexed stage start) :
    Ensures (Quiet start) (handleGoodbye session) (fun _ => Consistent indexed stage) (Consistent indexed stage) := by
  refine Ensures.read fun seen quiet => ?_
  refine Ensures.bind (Ensures.change (Q := fun _ => Consistent indexed stage) ?_) fun _ =>
    Keeps.ite (fun _ => callback_consistent) fun _ => Keeps.pure
  rintro state rfl
  exact (quiet.consistent consistent).removeSession fun _ => (quiet.listed listed).unaliased

theorem handleKeepalive_consistent {header : AuthHeader} {tag : Bytes} (consistent : Consistent indexed stage start) :
    Ensures (Quiet start) (handleKeepalive settings now header tag route)
      (fun _ => Consistent indexed stage) (Consistent indexed stage) := by
  have kept : ∀ state, Quiet start state → Consistent indexed stage state := fun _ quiet => quiet.consistent consistent
  refine Ensures.bind (Ensures.weaken sessionFor_spec (fun _ quiet => quiet) (fun _ _ found => found) kept)
    fun session => ?_
  refine Ensures.bind (Ensures.refuse (Q := fun _ state => Quiet start state ∧ start.Listed session)
    (fun state found _ => kept state found.1) ?_) fun _ => ?_
  · intro state found _
    exact ⟨found.1, by rw [Listed, consistent.filed.listed_key found.2.1]; exact found.2.1⟩
  · refine Ensures.ite (fun _ => ?_) fun _ => ?_
    · intro state found
      exact handleReady_consistent consistent found.2 state found.1
    · refine Ensures.read fun seen found => ?_
      obtain ⟨quiet, listed⟩ := found
      refine Ensures.bind (Ensures.refuse (Q := fun _ => Quiet start)
        (fun state same _ => same ▸ kept seen quiet) fun state same _ => same ▸ quiet) fun _ => ?_
      refine Ensures.bind (Ensures.weaken (Quiet.change fun _ => touch_quiet) (fun _ quiet => quiet)
        (fun _ _ quiet => quiet) kept) fun _ => ?_
      split
      · exact Ensures.weaken sendAuthenticated_quiet (fun _ quiet => quiet) (fun _ => kept) kept
      · exact handleGoodbye_consistent listed consistent
      · exact Ensures.pure kept
      · exact Ensures.pure kept
      · exact Ensures.pure kept

/-! ## Data, punching and maintenance -/

theorem acceptPacket_consistent {messageId : Nat} {packet : Packet} :
    Keeps (Consistent indexed stage) (acceptPacket settings now session messageId packet) := by
  refine Keeps.bind (Keeps.change fun state consistent => ?_) fun _ =>
    Keeps.bind (consistent_of_quiet fun _ => sendAuthenticated_quiet) fun _ => ?_
  · have agrees : state.toSessionTables.Agrees (state.updateStatus session fun status =>
        { status with seen := status.seen.set messageId now }).toSessionTables := updateStatus_agrees rfl rfl
    exact ⟨agrees.within.filed consistent.filed, agrees.announced consistent.announced,
      fun assumed => agrees.indexed (consistent.index assumed), consistent.stage⟩
  · split
    · exact Keeps.pure
    · exact callback_consistent

theorem handleData_consistent {header : DataHeader} {ciphertext : Bytes} :
    Keeps (Consistent indexed stage) (handleData settings now header ciphertext route) := by
  refine Keeps.bind (consistent_of_quiet fun _ => receivePacket_quiet) fun received => ?_
  split
  · exact Keeps.pure
  · exact acceptPacket_consistent

theorem abandonAttempt_consistent (consistent : Consistent indexed stage transport) :
    Consistent indexed stage (transport.abandonAttempt peerId) := by
  have popped : Consistent indexed stage { transport with attempts := transport.attempts.erase peerId } :=
    ⟨consistent.filed, consistent.announced, consistent.index, consistent.stage⟩
  simp only [abandonAttempt]
  split
  · rename_i session active
    split
    · exact popped
    · exact popped.removeSession (popped.unaliased (.inl (popped.filed.heldActive active)))
  · exact popped

theorem punchExhausted_consistent {attempt : Attempt} :
    Keeps (Consistent indexed stage) (punchExhausted settings now attempt) := by
  refine Keeps.read fun seen _ => Keeps.ite (fun _ => ?_) fun _ => Keeps.pure
  exact Keeps.bind (Keeps.change fun _ consistent => abandonAttempt_consistent consistent) fun _ =>
    consistent_of_quiet fun _ => relayFallback_quiet

theorem punchStep_consistent {serial : Nat} (consistent : Consistent indexed stage transport)
    (stepped : punchStep settings now serial transport = some next) : Consistent indexed stage next := by
  obtain ⟨punch, -, rfl⟩ := Option.map_eq_some_iff.mp stepped
  have ended : ∀ state, Consistent indexed stage state →
      Consistent indexed stage { state with punching := state.punching.erase serial } :=
    fun state consistent => ⟨consistent.filed, consistent.announced, consistent.index, consistent.stage⟩
  dsimp only
  split
  · rename_i remaining _
    have kept : Keeps (Consistent indexed stage) (punchRound settings punch.attempt) :=
      consistent_of_quiet fun _ => punchRound_quiet
    have round := kept transport consistent
    rcases run : punchRound settings punch.attempt transport with ⟨outcome, middle⟩
    rw [run] at round
    rcases outcome with failure | _ | _
    · exact ended middle round
    · exact ended middle round
    · exact ⟨round.filed, round.announced, round.index, round.stage⟩
  · exact ended _ (punchExhausted_consistent.finish consistent)

/-- A relayed session can be pinged and a due probe can be started. -/
def CanKeepAlive (transport : UdpTransport) (now : Time) (session : Session) : Prop :=
  (session.viaRelay = true → transport.derpSender = true ∧ transport.derpPeers.contains session.endpoint = true) ∧
  (transport.probeDue now session ≠ none →
    transport.attempts.contains session.peerId = true ∨ transport.attempts.size < maxAttempts)

def Expires (transport : UdpTransport) (now : Time) (session : Session) : Prop :=
  (transport.confirmed session = false ∧ now - session.createdAt > 10) ∨
    now - (transport.statusOf session).lastSeen > sessionTimeout

instance (transport : UdpTransport) (now : Time) (session : Session) : Decidable (transport.Expires now session) :=
  inferInstanceAs (Decidable (_ ∨ _))

/-- The next piece of a tick removes no object whose id a newer session has
taken over, and sends nothing that raises. -/
def TickSafe (transport : UdpTransport) : Prop :=
  match transport.maintenance with
  | .active now (session :: _) =>
      (transport.Expires now session → transport.Unaliased session) ∧
      (¬ transport.Expires now session → transport.confirmed session = true → transport.CanKeepAlive now session)
  | .retiring now ((session, expiresAt) :: _) => now ≥ expiresAt → transport.Unaliased session
  | _ => True

theorem sendRoute_returns {datagram : Datagram} {P Q : UdpTransport → Prop}
    (available : ∀ state, P state → route.2 = true →
      state.derpSender = true ∧ state.derpPeers.contains route.1 = true)
    (sent : ∀ state, P state → Q { state with sent := state.sent ++ [(datagram, route)] }) :
    Ensures P (sendRoute datagram route) (fun _ => Q) (fun _ => False) := by
  refine Ensures.read fun seen held => Ensures.bind
    (Ensures.refuse (Q := fun _ state => state = seen) ?_ fun state same _ => same) fun _ =>
      Ensures.change fun state same => same ▸ sent seen held
  rintro state rfl ⟨relayed, missing⟩
  obtain ⟨sender, routed⟩ := available state held relayed
  simp [sender, routed] at missing

theorem startAttempt_returns {direct : Endpoint} :
    Ensures (fun state => state.attempts.contains peerId = true ∨ state.attempts.size < maxAttempts)
      (startAttempt settings now peerId (direct, false)) (fun _ _ => True) (fun _ => False) := by
  refine Ensures.read fun seen room => Ensures.ite (fun relayed => absurd relayed.1 (by simp)) fun _ => ?_
  refine Ensures.bind (Ensures.refuse (Q := fun _ _ => True) ?_ fun _ _ _ => trivial) fun _ =>
    Ensures.bind (Ensures.change (Q := fun _ _ => True) fun _ _ => trivial) fun _ =>
      Ensures.pure fun _ _ => trivial
  rintro state rfl ⟨absent, full⟩
  rcases room with present | free
  · simp [present] at absent
  · omega

theorem keepAlive_returns {token : Nat} :
    Ensures (CanKeepAlive · now session) (keepAlive settings now session token) (fun _ _ => True) (fun _ => False) := by
  refine Ensures.bind (sendRoute_returns (Q := (CanKeepAlive · now session))
    (fun state can relayed => can.1 relayed) fun state can => can) fun _ => Ensures.read fun seen can => ?_
  split
  · exact Ensures.pure fun _ _ => trivial
  · rename_i direct due
    have room := can.2 (by rw [due]; exact Option.some_ne_none direct)
    refine Ensures.bind (Ensures.change ?_) fun _ =>
      Ensures.bind startAttempt_returns fun _ => Ensures.pure fun _ _ => trivial
    rintro state rfl
    exact room

/-- Two facts about one handler that hold together. -/
theorem keepAlive_consistent {token : Nat} (consistent : Consistent indexed stage transport)
    (can : indexed → transport.CanKeepAlive now session) :
    Ensures (· = transport) (keepAlive settings now session token)
      (fun _ => Consistent indexed stage) (fun state => Consistent indexed stage state ∧ ¬ indexed) := by
  rintro state rfl
  have keeps : Keeps (Consistent indexed stage) (keepAlive settings now session token) :=
    consistent_of_quiet fun _ => keepAlive_quiet
  have kept := keeps state consistent
  rcases run : keepAlive settings now session token state with ⟨outcome, final⟩
  rw [run] at kept
  cases outcome with
  | ok => exact kept
  | error failure =>
      refine ⟨kept, fun assumed => ?_⟩
      have returned := @keepAlive_returns settings now session token state (can assumed)
      rwa [run] at returned

theorem visitActive_consistent {token : Nat} (consistent : Consistent indexed stage transport)
    (unaliased : indexed → transport.Expires now session → transport.Unaliased session)
    (can : indexed → ¬ transport.Expires now session → transport.confirmed session = true →
      transport.CanKeepAlive now session) :
    Ensures (· = transport) (visitActive settings now session token)
      (fun _ => Consistent indexed stage) (fun state => Consistent indexed stage state ∧ ¬ indexed) := by
  refine Ensures.read fun seen same => ?_
  subst same
  refine Ensures.ite (fun overdue => ?_) fun recent => Ensures.ite (fun silent => ?_) fun heard => ?_
  · refine Ensures.change fun state same => same ▸ consistent.removeSession fun assumed => unaliased assumed (.inl ?_)
    simpa [SessionTables.confirmed] using overdue
  · refine Ensures.bind (Ensures.change (Q := fun _ => Consistent indexed stage) fun state same => ?_) fun _ =>
      Ensures.change fun state consistent => ⟨consistent.filed, consistent.announced, consistent.index, consistent.stage⟩
    exact same ▸ consistent.removeSession fun assumed => unaliased assumed (.inr silent)
  · have current : ¬ seen.Expires now session := by
      rintro (overdue | silent)
      · exact recent (by simpa [SessionTables.confirmed] using overdue)
      · exact heard silent
    refine Ensures.bind (Q := fun _ => Consistent indexed stage) (Ensures.read fun state same => ?_) fun _ =>
      Ensures.change fun state consistent => sweep_quiet.consistent consistent
    subst same
    exact Ensures.ite (fun confirmed => keepAlive_consistent consistent fun assumed => can assumed current confirmed)
      fun _ => Ensures.pure fun state same => same ▸ consistent

theorem visitRetiring_consistent {expiresAt : Time} (consistent : Consistent indexed stage transport)
    (unaliased : indexed → now ≥ expiresAt → transport.Unaliased session) :
    Ensures (· = transport) (visitRetiring now session expiresAt)
      (fun _ => Consistent indexed stage) (fun state => Consistent indexed stage state ∧ ¬ indexed) := by
  refine Ensures.ite (fun expired => ?_) fun _ => ?_
  · refine Ensures.bind (Ensures.change (Q := fun _ => Consistent indexed stage) fun state same => ?_) fun _ =>
      Ensures.change fun state consistent => ⟨consistent.filed, consistent.announced, consistent.index, consistent.stage⟩
    exact same ▸ consistent.removeSession fun assumed => unaliased assumed expired
  · exact Ensures.change fun state same => same ▸ sweep_quiet.consistent consistent

/-- The invariant of a run: the maps are filed and, where `indexed` is assumed,
indexed and looked after by a running maintenance task. -/
structure Tracked (indexed : Prop) (transport : UdpTransport) : Prop where
  filed : transport.Filed
  announced : transport.Announced
  index : indexed → transport.Indexed
  running : indexed → transport.maintenance.running = true

theorem Consistent.tracked (consistent : Consistent indexed stage next)
    (running : indexed → stage.running = true) : Tracked indexed next :=
  ⟨consistent.filed, consistent.announced, consistent.index, fun assumed => consistent.stage ▸ running assumed⟩

theorem Tracked.consistent (tracked : Tracked indexed transport) :
    Consistent indexed transport.maintenance transport :=
  ⟨tracked.filed, tracked.announced, tracked.index, rfl⟩

theorem maintain_tracked {piece : Handling PUnit} {following : Maintenance} (continues : following.running = true)
    (ensured : Ensures (· = transport) piece (fun _ => Consistent indexed stage)
      (fun state => Consistent indexed stage state ∧ ¬ indexed)) :
    Tracked indexed (maintain piece following transport) := by
  have result := ensured transport rfl
  unfold maintain
  rcases run : piece transport with ⟨outcome, final⟩
  rw [run] at result
  cases outcome with
  | ok => exact ⟨result.filed, result.announced, result.index, fun _ => continues⟩
  | error failure => exact ⟨result.1.filed, result.1.announced, result.1.index, fun assumed => absurd assumed result.2⟩

theorem maintenanceStep_tracked {token : Nat} (tracked : Tracked indexed transport)
    (safe : indexed → transport.TickSafe)
    (stepped : maintenanceStep settings now token transport = some next) : Tracked indexed next := by
  have consistent := tracked.consistent
  unfold TickSafe at safe
  unfold maintenanceStep at stepped
  split at stepped <;> rename_i phase
  · cases stepped
    exact ⟨tracked.filed, tracked.announced, tracked.index, fun _ => rfl⟩
  · cases stepped
    simp only [phase] at safe
    exact maintain_tracked rfl (visitActive_consistent consistent (fun assumed => (safe assumed).1)
      fun assumed => (safe assumed).2)
  · cases stepped
    exact ⟨tracked.filed, tracked.announced, tracked.index, fun _ => rfl⟩
  · cases stepped
    simp only [phase] at safe
    exact maintain_tracked rfl (visitRetiring_consistent consistent safe)
  · rename_i now
    cases stepped
    have finished : Consistent indexed transport.maintenance (transport.finishTick now) := finishTick_consistent consistent
    exact ⟨finished.filed, finished.announced, finished.index, fun _ => rfl⟩
  · contradiction

/-- The events that keep the index: a HELLO that opens a session finds room for
it, and the maintenance task meets no object it should not touch. -/
def Admits (settings : Settings) (transport : UdpTransport) : Time × TransportEvent → Prop
  | (now, .datagramReceived (.hello hello) route) =>
      (settings.forceRelay = true → route.2 = true) → ∀ opening next,
        admitHello settings now hello route transport = (.ok (some opening), next) → OpensSafely transport opening
  | (_, .maintenance _) => transport.TickSafe
  | _ => True

theorem step_tracked {event : Time × TransportEvent} (tracked : Tracked indexed transport)
    (admits : indexed → Admits settings transport event) (stepped : step settings transport event = some next) :
    Tracked indexed next := by
  have consistent := tracked.consistent
  obtain ⟨now, event⟩ := event
  cases event with
  | datagramReceived datagram route =>
      cases stepped
      refine Consistent.tracked ?_ tracked.running
      unfold datagramReceived
      by_cases refused : settings.forceRelay ∧ !route.2
      · rw [if_pos refused]; exact consistent
      · rw [if_neg refused]
        cases datagram with
        | empty => exact consistent
        | hello hello =>
            refine handleHello_consistent consistent fun assumed => admits assumed fun forced => ?_
            simpa [forced] using refused
        | data header ciphertext => exact handleData_consistent.finish consistent
        | authenticated header tag =>
            dsimp only
            split
            · exact (consistent_of_quiet fun _ => handleAck_quiet).finish consistent
            · exact Ensures.finish (handleKeepalive_consistent consistent) .refl
  | punch serial => exact (punchStep_consistent consistent stepped).tracked tracked.running
  | maintenance token => exact maintenanceStep_tracked tracked admits stepped
  | expectPeer peerId endpoint =>
      cases stepped
      exact ((consistent_of_quiet fun _ => expectPeer_quiet).finish consistent).tracked tracked.running
  | expectDerpPeer peerId =>
      cases stepped
      exact ((consistent_of_quiet fun _ => expectDerpPeer_quiet).finish consistent).tracked tracked.running
  | configureDerp sender serverEnabled =>
      cases stepped
      exact ⟨tracked.filed, tracked.announced, tracked.index, tracked.running⟩
  | clearDirectCandidate peerId =>
      cases stepped
      exact (clearDirectCandidate_consistent consistent).tracked tracked.running
  | forgetCandidate peerId =>
      cases stepped
      exact (forgetCandidate_consistent consistent).tracked tracked.running
  | sendPacket call peerId packet messageId nonces =>
      simp only [step] at stepped
      split at stepped
      · contradiction
      · cases stepped
        exact ((consistent_of_quiet fun _ => sendPacket_quiet).finish consistent).tracked tracked.running
  | sendRound call =>
      obtain ⟨sending, -, rfl⟩ := Option.map_eq_some_iff.mp stepped
      exact ((consistent_of_quiet fun _ => sendRound_quiet).finish consistent).tracked tracked.running

theorem initial_tracked : Tracked indexed initial := by
  refine ⟨?_, ?_, fun _ => ?_, fun _ => rfl⟩
  · constructor <;> simp [initial, Known, HeldActive, HeldPending, HeldRetiring, Listed, SessionTables.pendingOf]
  · intro session notified
    contradiction
  · constructor <;> simp [initial, HeldActive, HeldPending, HeldRetiring, Listed, SessionTables.pendingOf]

/-! ## The id map -/

/-- The session is the value held for its peer in exactly one of the three maps. -/
def HeldOnce (transport : UdpTransport) (session : Session) : Prop :=
  (transport.HeldActive session ∧ ¬ transport.HeldPending session ∧ ¬ transport.HeldRetiring session) ∨
  (¬ transport.HeldActive session ∧ transport.HeldPending session ∧ ¬ transport.HeldRetiring session) ∨
  (¬ transport.HeldActive session ∧ ¬ transport.HeldPending session ∧ transport.HeldRetiring session)

/-- Every session counted against the limit is held in exactly one map, and a
running maintenance task visits it there. -/
structure SessionsAccounted (transport : UdpTransport) : Prop where
  listed_iff : ∀ session, session ∈ transport.sessionsById.values ↔ HeldOnce transport session
  maintained : ∀ session ∈ transport.sessionsById.values, transport.maintenance.running = true ∧
    (session ∈ transport.sessions.values ∨ session ∈ transport.pendingList ∨
      ∃ expiresAt, (session, expiresAt) ∈ transport.retiringSessions.values)

theorem Tracked.accounted (tracked : Tracked True transport) : SessionsAccounted transport := by
  have filed := tracked.filed
  have index := tracked.index trivial
  have listed : ∀ {session}, session ∈ transport.sessionsById.values ↔ transport.Listed session := by
    intro session
    refine Dict.mem_values_iff.trans ⟨fun ⟨sessionId, found⟩ => ?_, fun found => ⟨_, found⟩⟩
    unfold Listed
    rwa [filed.listed_key found]
  have apart : ∀ {session}, transport.HeldPending session → ¬ transport.HeldRetiring session := by
    intro session pending retiring
    have confirmed := filed.retiring_confirmed retiring
    rw [filed.pending_unconfirmed pending] at confirmed
    contradiction
  refine ⟨fun session => listed.trans ⟨fun found => ?_, fun held => ?_⟩, fun session found => ?_⟩
  · rcases index.held found with active | pending | retiring
    · exact .inl ⟨active, filed.active_not_pending active, filed.active_not_retiring active⟩
    · exact .inr (.inl ⟨fun active => filed.active_not_pending active pending, pending, apart pending⟩)
    · exact .inr (.inr ⟨fun active => filed.active_not_retiring active retiring,
        fun pending => apart pending retiring, retiring⟩)
  · rcases held with ⟨active, -⟩ | ⟨-, pending, -⟩ | ⟨-, -, retiring⟩
    · exact index.active_listed active
    · exact index.pending_listed pending
    · exact index.retiring_listed retiring
  · refine ⟨tracked.running trivial, ?_⟩
    rcases index.held (listed.mp found) with active | pending | ⟨expiresAt, retiring⟩
    · exact .inl (Dict.mem_values_iff.mpr ⟨_, active⟩)
    · refine .inr (.inl (List.mem_flatMap.mpr ?_))
      unfold HeldPending SessionTables.pendingOf at pending
      cases held : transport.pendingSessions.get? session.peerId with
      | none => rw [held] at pending; contradiction
      | some routes =>
          rw [held] at pending
          exact ⟨routes, Dict.mem_values_iff.mpr ⟨_, held⟩, Dict.mem_values_iff.mpr ⟨_, pending⟩⟩
    · exact .inr (.inr ⟨expiresAt, Dict.mem_values_iff.mpr ⟨_, retiring⟩⟩)

/-- In every run whose events keep the index, the sessions listed by id are in
every state exactly those held once in the other maps. -/
theorem sessions_stay_accounted {events : List (Time × TransportEvent)} {final : UdpTransport}
    (meets : Meets (step settings) (Admits settings) initial events)
    (completed : run (step settings) initial events = some final) : SessionsAccounted final :=
  Tracked.accounted (run_invariant (Tracked True)
    (fun _ _ _ tracked admits stepped => step_tracked tracked (fun _ => admits) stepped)
    initial_tracked meets completed)

/-! ### A peer that is reached over two routes before it confirms either -/

/-- Stand-ins that behave as the primitives do on honest input: the signature
verifies, and key agreement depends on the private key. -/
def sampleCrypto : Crypto where
  fingerprint _ := "b0"
  digest data := data.take 8
  canonical _ := []
  sign _ := List.replicate 64 0
  verify _ _ _ := true
  sessionPublicKey privateKey := privateKey
  exchange privateKey _ := some privateKey
  derive shared salt := shared ++ salt
  tag _ _ := []
  encrypt _ _ fragment := fragment
  decrypt _ _ ciphertext := some ciphertext
  randomKey serial := List.replicate 32 (UInt8.ofNat serial)
  randomNonce serial := List.replicate 32 (UInt8.ofNat serial)

def sampleSettings : Settings where
  crypto := sampleCrypto
  peerId := "a0"
  displayName := "Alice"
  signingPublicKey := List.replicate 32 1
  encryptionPublicKey := List.replicate 32 1
  capabilities := []
  forceRelay := false
  isAddress _ := true

def sampleHello : Hello where
  capabilities := []
  peerId := "b0"
  displayName := "Bob"
  signingPublicKey := List.replicate 32 2
  encryptionPublicKey := List.replicate 32 2
  sessionPublicKey := List.replicate 32 2
  nonce := List.replicate 32 2
  unread := []
  signature := List.replicate 64 2

def homeRoute : Route := (("192.0.2.1", 4000), false)
def cellRoute : Route := (("198.51.100.7", 5000), false)

def twoRoutes : List (Time × TransportEvent) :=
  [(0, .datagramReceived (.hello sampleHello) homeRoute), (0, .datagramReceived (.hello sampleHello) cellRoute)]

/-- The session of the second route overwrites the unconfirmed one of the
first, which stays listed and is held nowhere. -/
theorem second_route_leaks_session :
    ¬ ∀ events final, run (step sampleSettings) initial events = some final → SessionsAccounted final := by
  intro accounted
  have reached : (run (step sampleSettings) initial twoRoutes).any (fun final =>
      (final.sessionsById.get? (List.replicate 8 0)).any (fun session =>
        session.peerId = "b0" && session.route = homeRoute) &&
      (final.sessions.get? "b0").any (fun session => session.route = cellRoute) &&
      final.pendingSessions.size = 0 && final.retiringSessions.size = 0) = true := by decide +kernel
  simp only [Option.any_eq_true, Bool.and_eq_true, decide_eq_true_eq] at reached
  obtain ⟨final, completed, ⟨⟨⟨leaked, found, peer, route⟩, active, occupied, elsewhere⟩, pending⟩, retiring⟩ := reached
  have held := ((accounted twoRoutes final completed).listed_iff leaked).mp (Dict.mem_values_iff.mpr ⟨_, found⟩)
  rcases held with ⟨active, -⟩ | ⟨-, waiting, -⟩ | ⟨-, -, expiresAt, waiting⟩
  · rw [HeldActive, peer, occupied] at active
    cases active
    rw [route] at elsewhere
    exact absurd elsewhere (by decide)
  · rw [HeldPending, SessionTables.pendingOf, Dict.size_eq_zero_iff.mp pending] at waiting
    contradiction
  · rw [Dict.size_eq_zero_iff.mp retiring] at waiting
    contradiction

/-- The first of the two HELLOs alone is such a run. -/
theorem first_route_stays_accounted : ∃ final, run (step sampleSettings) initial (twoRoutes.take 1) = some final ∧
    final.sessionsById.size = 1 ∧ SessionsAccounted final := by
  have reached : ((run (step sampleSettings) initial (twoRoutes.take 1)).map (·.sessionsById.size)) = some 1 := by
    decide +kernel
  obtain ⟨final, completed, size⟩ := Option.map_eq_some_iff.mp reached
  have meets : Meets (step sampleSettings) (Admits sampleSettings) initial (twoRoutes.take 1) :=
    ⟨fun _ _ _ _ => ⟨fun _ found => (nomatch found), fun _ found => (nomatch found)⟩, fun _ _ => trivial⟩
  exact ⟨final, completed, size, sessions_stay_accounted meets completed⟩

end UdpTransport

end MeshTalk.Udp
