import MeshTalk.Udp.SessionTables

namespace MeshTalk.Udp

open MeshTalk.Library MeshTalk.Protocol Handler

/-! # What each handler leaves alone

Most handlers change neither the session maps nor what the owner is told.
-/

namespace UdpTransport

/-- The session maps, the maintenance task, the callbacks and the completed
packets are the same. -/
structure Quiet (start next : UdpTransport) : Prop where
  tables : start.toSessionTables.Agrees next.toSessionTables
  maintenance : next.maintenance = start.maintenance
  callbacks : next.callbacks = start.callbacks
  completed : next.completed = start.completed

variable {settings : Settings} {now : Time} {transport start next : UdpTransport} {session : Session}
  {peerId : PeerId} {route : Route}

theorem Quiet.refl : Quiet transport transport := ⟨.refl, rfl, rfl, rfl⟩

theorem Quiet.trans {last : UdpTransport} (earlier : Quiet start next) (later : Quiet next last) :
    Quiet start last :=
  ⟨earlier.tables.trans later.tables, later.maintenance.trans earlier.maintenance,
    later.callbacks.trans earlier.callbacks, later.completed.trans earlier.completed⟩

/-- An update that assigns none of the fields `Quiet` looks at. -/
theorem Quiet.change {update : UdpTransport → UdpTransport} (quiet : ∀ transport, Quiet transport (update transport)) :
    Keeps (Quiet start) (change update : Handling PUnit) :=
  Keeps.change fun state held => held.trans (quiet state)

/-! ## State updates -/

theorem dropRelayRouting_quiet : Quiet transport (transport.dropRelayRouting peerId) := by
  simp only [dropRelayRouting]
  split <;> exact ⟨.refl, rfl, rfl, rfl⟩

theorem releaseForgottenRelay_tables :
    (transport.releaseForgottenRelay peerId).toSessionTables = transport.toSessionTables := by
  simp only [releaseForgottenRelay, dropRelayRouting]
  split
  · rfl
  · split
    · rfl
    · split <;> rfl

theorem releaseForgottenRelay_quiet : Quiet transport (transport.releaseForgottenRelay peerId) := by
  unfold releaseForgottenRelay
  split
  · exact .refl
  · split
    · exact .refl
    · exact dropRelayRouting_quiet

@[simp] theorem removeSession_tables :
    (transport.removeSession session).toSessionTables = transport.toSessionTables.remove session :=
  releaseForgottenRelay_tables

@[simp] theorem removeSession_maintenance :
    (transport.removeSession session).maintenance = transport.maintenance :=
  releaseForgottenRelay_quiet.maintenance

@[simp] theorem removeSession_callbacks :
    (transport.removeSession session).callbacks = transport.callbacks :=
  releaseForgottenRelay_quiet.callbacks

@[simp] theorem removeSession_completed :
    (transport.removeSession session).completed = transport.completed :=
  releaseForgottenRelay_quiet.completed

theorem popAttempt_quiet : Quiet transport (transport.popAttempt peerId) := by
  unfold popAttempt
  split <;> exact ⟨.refl, rfl, rfl, rfl⟩

theorem withdrawDirect_quiet : Quiet transport (transport.withdrawDirect peerId) := by
  simp only [withdrawDirect]
  split
  · refine Quiet.trans ?_ popAttempt_quiet
    exact ⟨.refl, rfl, rfl, rfl⟩
  · exact ⟨.refl, rfl, rfl, rfl⟩

theorem withdraw_quiet : Quiet transport (transport.withdraw peerId) := by
  simp only [withdraw]
  refine Quiet.trans ?_ popAttempt_quiet
  split
  · exact ⟨.refl, rfl, rfl, rfl⟩
  · refine Quiet.trans ?_ dropRelayRouting_quiet
    exact ⟨.refl, rfl, rfl, rfl⟩

theorem updateStatus_agrees {tables : SessionTables} {status : SessionStatus}
    (confirmed : status.confirmed = (tables.statusOf session).confirmed)
    (notified : status.connectedNotified = (tables.statusOf session).connectedNotified) :
    tables.Agrees (tables.setStatus session status) := by
  refine ⟨rfl, rfl, rfl, rfl, fun other => ?_, fun other => ?_, rfl⟩
  · rw [SessionTables.confirmed, SessionTables.confirmed, SessionTables.setStatus_statusOf]
    split
    · rename_i same
      rw [confirmed, SessionTables.statusOf, SessionTables.statusOf, same]
    · rfl
  · rw [SessionTables.setStatus_statusOf]
    split
    · rename_i same
      rw [notified, SessionTables.statusOf, SessionTables.statusOf, same]
    · rfl

/-- Assigning attributes other than the two flags. -/
theorem updateStatus_quiet {update : SessionStatus → SessionStatus}
    (confirmed : ∀ status, (update status).confirmed = status.confirmed)
    (notified : ∀ status, (update status).connectedNotified = status.connectedNotified) :
    Quiet transport (transport.updateStatus session update) :=
  ⟨updateStatus_agrees (confirmed _) (notified _), rfl, rfl, rfl⟩

theorem touch_quiet : Quiet transport (transport.touch now session) :=
  updateStatus_quiet (fun _ => rfl) (fun _ => rfl)

theorem sweep_quiet : Quiet transport (transport.sweep now session) :=
  updateStatus_quiet (fun _ => rfl) (fun _ => rfl)

/-! ## Sending -/

theorem sendRoute_quiet {datagram : Datagram} : Keeps (Quiet start) (sendRoute datagram route) :=
  Keeps.read fun _ _ => Keeps.bind Keeps.refuse fun _ => Quiet.change fun _ => ⟨.refl, rfl, rfl, rfl⟩

theorem sendAuthenticated_quiet {type : AuthenticatedType} {token : Nat} :
    Keeps (Quiet start) (sendAuthenticated settings session type token) :=
  sendRoute_quiet

theorem sendHello_quiet {hello : Option Hello} : Keeps (Quiet start) (sendHello hello route) :=
  sendRoute_quiet

theorem startAttempt_quiet : Keeps (Quiet start) (startAttempt settings now peerId route) := by
  refine Keeps.read fun seen _ => Keeps.ite (fun _ => ?_) (fun _ => ?_)
  · exact Keeps.bind (Quiet.change fun _ => ⟨.refl, rfl, rfl, rfl⟩) fun _ => Keeps.pure
  · refine Keeps.bind Keeps.refuse fun _ => Keeps.bind (Quiet.change fun state => ?_) fun _ => Keeps.pure
    exact (@popAttempt_quiet _ peerId).trans ⟨.refl, rfl, rfl, rfl⟩

/-! ## HELLO up to the point where a session is built -/

theorem wellFormedHello_quiet {hello : Hello} : Keeps (Quiet start) (wellFormedHello settings hello) :=
  Keeps.bind Keeps.refuse fun _ => Keeps.bind Keeps.refuse fun _ => Keeps.refuse

theorem authenticateHello_quiet {hello : Hello} :
    Keeps (Quiet start) (authenticateHello settings now hello route) := by
  refine Keeps.bind wellFormedHello_quiet fun _ => Keeps.read fun seen _ => Keeps.bind Keeps.refuse fun _ =>
    Keeps.bind (Quiet.change fun state => ?_) fun _ => Keeps.bind Keeps.refuse fun _ => Keeps.refuse
  split
  · exact ⟨.refl, rfl, rfl, rfl⟩
  · exact .refl

theorem answerRepeat_quiet : Keeps (Quiet start) (answerRepeat settings session route) := by
  refine Keeps.read fun seen _ => Keeps.ite (fun _ => sendAuthenticated_quiet) fun _ =>
    Keeps.ite (fun _ => Keeps.pure) fun _ => ?_
  refine Keeps.bind (Keeps.change fun state held => ?_) fun _ =>
    Keeps.bind sendHello_quiet fun _ => sendAuthenticated_quiet
  exact held.trans (updateStatus_quiet (fun _ => rfl) (fun _ => rfl))

theorem attemptFor_quiet {hello : Hello} : Keeps (Quiet start) (attemptFor settings now hello route) := by
  refine Keeps.read fun seen _ => ?_
  split
  · exact Keeps.ite (fun _ => Keeps.pure) fun _ => startAttempt_quiet
  · exact startAttempt_quiet

/-- What `admitHello` returns: the session it compared the HELLO with is the one
on its route, and the HELLO does not repeat the handshake of that session. -/
def Opens (start : UdpTransport) (hello : Hello) (route : Route) (opening : Opening) : Prop :=
  opening.hello = hello ∧ opening.route = route ∧ opening.current = start.sessionForRoute hello.peerId route

theorem currentFor_of_fresh {hello : Hello}
    (fresh : (transport.currentFor hello route).filter (sameHandshake hello) = none) :
    transport.currentFor hello route = transport.sessionForRoute hello.peerId route := by
  unfold currentFor at fresh ⊢
  cases found : (transport.pendingOf hello.peerId).get? route with
  | none => rfl
  | some pending =>
      simp only [found] at fresh
      by_cases repeated : sameHandshake hello pending = true
      · simp [repeated, Option.filter] at fresh
      · simp only [if_neg repeated]

theorem Quiet.sessionForRoute (quiet : Quiet start next) :
    next.sessionForRoute peerId route = start.sessionForRoute peerId route := by
  unfold SessionTables.sessionForRoute
  rw [quiet.tables.sessions, quiet.tables.retiringSessions, quiet.tables.pendingOf]

theorem deriveSession_spec {hello : Hello} {current : Option Session} :
    Ensures (Quiet start) (deriveSession settings now hello route current)
      (fun result state => Quiet start state ∧ ∀ opening, result = some opening →
        opening.hello = hello ∧ opening.route = route ∧ opening.current = current)
      (Quiet start) := by
  refine Ensures.bind attemptFor_quiet fun attempt => Ensures.bind sendHello_quiet fun _ =>
    Ensures.bind Keeps.orRaise fun shared => ?_
  dsimp only
  split
  · exact Ensures.bind sendAuthenticated_quiet fun _ =>
      Ensures.pure fun state held => ⟨held, fun _ contradiction => nomatch contradiction⟩
  · refine Ensures.pure fun state held => ⟨held, ?_⟩
    intro opening returned
    cases returned
    exact ⟨rfl, rfl, rfl⟩

theorem admitHello_spec {hello : Hello} :
    Ensures (Quiet start) (admitHello settings now hello route)
      (fun result state => Quiet start state ∧ ∀ opening, result = some opening → Opens start hello route opening)
      (Quiet start) := by
  refine Ensures.bind authenticateHello_quiet fun _ => Ensures.read fun seen quiet => ?_
  have entry : ∀ state, state = seen → Quiet start state := fun state same => same ▸ quiet
  split
  · exact Ensures.bind (Ensures.weaken answerRepeat_quiet entry (fun _ _ held => held) fun _ held => held)
      fun _ => Ensures.pure fun state held => ⟨held, fun _ contradiction => nomatch contradiction⟩
  · rename_i fresh
    have current := (currentFor_of_fresh fresh).trans quiet.sessionForRoute
    refine Ensures.weaken deriveSession_spec entry (fun result state held => ⟨held.1, ?_⟩) fun _ held => held
    intro opening returned
    obtain ⟨same, routed, compared⟩ := held.2 opening returned
    exact ⟨same, routed, compared.trans current⟩

/-! ## Data, candidates and punching -/

theorem sessionFor_found {sessionId : SessionId} {required : Bool} :
    Ensures (· = transport) (sessionFor sessionId route required)
      (fun session state => state = transport ∧ transport.sessionsById.get? sessionId = some session ∧
        session.route = route ∧ (required = true → transport.confirmed session = true))
      (· = transport) := by
  refine Ensures.read fun seen same => ?_
  subst same
  refine Ensures.bind (Ensures.orRaise (Q := fun session state => state = seen ∧
      seen.sessionsById.get? sessionId = some session ∧ session.route = route) (fun state same _ => same) ?_) ?_
  · intro state session same found
    obtain ⟨listed, onRoute⟩ := Option.filter_eq_some_iff.mp found
    exact ⟨same, listed, of_decide_eq_true onRoute⟩
  · intro session
    refine Ensures.bind (Ensures.refuse (Q := fun _ state => state = seen ∧
        seen.sessionsById.get? sessionId = some session ∧ session.route = route ∧
        (required = true → seen.confirmed session = true))
      (fun state held _ => held.1) ?_) fun _ => Ensures.pure fun state held => held
    intro state held passed
    exact ⟨held.1, held.2.1, held.2.2, fun demanded => by simpa [demanded] using passed⟩

theorem sessionFor_spec {sessionId : SessionId} {required : Bool} :
    Ensures (Quiet start) (sessionFor sessionId route required)
      (fun session state => Quiet start state ∧ start.sessionsById.get? sessionId = some session ∧
        (required = true → start.confirmed session = true))
      (Quiet start) := by
  intro state quiet
  refine Ensures.weaken sessionFor_found (fun _ same => same) ?_ (fun _ same => same ▸ quiet) state rfl
  rintro session _ ⟨rfl, listed, -, confirmed⟩
  rw [quiet.tables.sessionsById] at listed
  rw [quiet.tables.confirmed] at confirmed
  exact ⟨quiet, listed, confirmed⟩

theorem handleAck_quiet {header : AuthHeader} {tag : Bytes} :
    Keeps (Quiet start) (handleAck settings now header tag route) := by
  refine Ensures.bind (Ensures.weaken sessionFor_spec (fun _ held => held) (fun _ _ held => held.1) fun _ held => held)
    fun session => Keeps.bind Keeps.refuse fun _ => Keeps.bind (Quiet.change fun _ => touch_quiet) fun _ =>
      Keeps.read fun seen _ => ?_
  split
  · exact Keeps.pure
  · split
    · exact Keeps.pure
    · exact Quiet.change fun _ => ⟨.refl, rfl, rfl, rfl⟩

theorem storeFragment_quiet {header : DataHeader} {fragment : Bytes} :
    Keeps (Quiet start) (storeFragment now session header fragment) := by
  refine Keeps.read fun seen _ => Keeps.bind Keeps.refuse fun _ =>
    Keeps.bind (Quiet.change fun _ => updateStatus_quiet (fun _ => rfl) (fun _ => rfl)) fun _ =>
      Keeps.bind Keeps.refuse fun _ => Keeps.ite (fun _ => ?_) fun _ => ?_
  · exact Keeps.bind (Quiet.change fun _ => updateStatus_quiet (fun _ => rfl) (fun _ => rfl)) fun _ => Keeps.pure
  · exact Keeps.bind (Quiet.change fun _ => updateStatus_quiet (fun _ => rfl) (fun _ => rfl)) fun _ => Keeps.pure

theorem openFragment_quiet {header : DataHeader} {ciphertext : Bytes} :
    Keeps (Quiet start) (openFragment settings now header ciphertext route) :=
  Ensures.bind (Ensures.weaken sessionFor_spec (fun _ held => held) (fun _ _ held => held.1) fun _ held => held)
    fun _ => Keeps.bind Keeps.refuse fun _ => Keeps.bind Keeps.orRaise fun _ =>
      Keeps.bind (Quiet.change fun _ => touch_quiet) fun _ => Keeps.pure

theorem reassemble_quiet {header : DataHeader} {fragment : Bytes} :
    Keeps (Quiet start) (reassemble settings now session header fragment) :=
  Keeps.read fun _ _ => Keeps.ite (fun _ => Keeps.bind sendAuthenticated_quiet fun _ => Keeps.pure)
    fun _ => storeFragment_quiet

/-- A DATA datagram changes nothing the owner sees before its packet is marked
as seen. -/
theorem receivePacket_quiet {header : DataHeader} {ciphertext : Bytes} :
    Keeps (Quiet start) (receivePacket settings now header ciphertext route) := by
  refine Keeps.bind openFragment_quiet fun opened => Keeps.bind reassemble_quiet fun complete => ?_
  split
  · exact Keeps.pure
  · exact Keeps.bind (Keeps.bind Keeps.refuse fun _ => Keeps.orRaise) fun _ => Keeps.pure

theorem sendPacket_quiet {call messageId : Nat} {packet : Packet} {nonces : Nat → Bytes} :
    Keeps (Quiet start) (sendPacket settings call peerId packet messageId nonces) :=
  Keeps.read fun _ _ => Keeps.bind Keeps.orRaise fun _ => Keeps.bind Keeps.orRaise fun _ =>
    Keeps.bind Keeps.refuse fun _ => Keeps.bind Keeps.refuse fun _ => Quiet.change fun _ => ⟨.refl, rfl, rfl, rfl⟩

theorem sendAll_quiet {datagrams : List Datagram} : Keeps (Quiet start) (sendAll route datagrams) := by
  induction datagrams with
  | nil => exact Keeps.pure
  | cons datagram rest ih => exact Keeps.bind sendRoute_quiet fun _ => ih

theorem sendRound_quiet {call : Nat} {sending : Sending} : Keeps (Quiet start) (sendRound call sending) := by
  refine Keeps.ite (fun _ => ?_) fun _ => Keeps.ite (fun _ => ?_) fun _ => ?_
  · exact Keeps.bind (Quiet.change fun _ => ⟨.refl, rfl, rfl, rfl⟩) fun _ => Keeps.pure
  · exact Keeps.bind (Quiet.change fun _ => ⟨.refl, rfl, rfl, rfl⟩) fun _ => Keeps.raise
  · refine Keeps.bind (Keeps.onRaise sendAll_quiet fun state held => held.trans ⟨.refl, rfl, rfl, rfl⟩) fun _ =>
      Keeps.bind (Quiet.change fun _ => ⟨.refl, rfl, rfl, rfl⟩) fun _ => Keeps.pure

theorem expectDerpPeer_quiet : Keeps (Quiet start) (expectDerpPeer settings now peerId) := by
  refine Keeps.ite (fun _ => Keeps.pure) fun _ => Keeps.bind (Quiet.change fun _ => ⟨.refl, rfl, rfl, rfl⟩) fun _ =>
    Keeps.read fun seen _ => Keeps.ite (fun _ => ?_) fun _ => Keeps.pure
  exact Keeps.bind startAttempt_quiet fun _ => Keeps.pure

theorem expectPeer_quiet {endpoint : Endpoint} : Keeps (Quiet start) (expectPeer settings now peerId endpoint) := by
  have started : ∀ route, Keeps (Quiet start) (do let _ ← startAttempt settings now peerId route) :=
    fun route => Keeps.bind startAttempt_quiet fun _ => Keeps.pure
  refine Keeps.ite (fun _ => Keeps.pure) fun _ => Keeps.bind Keeps.refuse fun _ => Keeps.bind Keeps.refuse fun _ =>
    Keeps.read fun seen _ => Keeps.bind Keeps.refuse fun _ => Keeps.bind (Quiet.change fun _ => ⟨.refl, rfl, rfl, rfl⟩)
      fun _ => Keeps.ite (fun _ => ?_) fun _ => Keeps.ite (fun _ => Keeps.pure) fun _ =>
        Keeps.ite (fun _ => Keeps.pure) fun _ => Keeps.ite (fun _ => Keeps.pure) fun _ => ?_
  · split
    · exact Keeps.ite (fun _ => started _) fun _ => Keeps.pure
    · exact Keeps.pure
  · refine Keeps.bind (Quiet.change fun state => ?_) fun _ =>
      Keeps.bind (Quiet.change fun _ => ⟨.refl, rfl, rfl, rfl⟩) fun _ => started _
    split <;> exact ⟨.refl, rfl, rfl, rfl⟩

theorem keepAlive_quiet {token : Nat} : Keeps (Quiet start) (keepAlive settings now session token) := by
  refine Keeps.bind sendAuthenticated_quiet fun _ => Keeps.read fun seen _ => ?_
  split
  · exact Keeps.pure
  · exact Keeps.bind (Quiet.change fun _ => ⟨.refl, rfl, rfl, rfl⟩) fun _ =>
      Keeps.bind startAttempt_quiet fun _ => Keeps.pure

theorem sendReady_quiet {found : Option Session} : Keeps (Quiet start) (sendReady settings found) := by
  cases found with
  | none => exact Keeps.pure
  | some session => exact sendAuthenticated_quiet

theorem punchRound_quiet {attempt : Attempt} : Keeps (Quiet start) (punchRound settings attempt) :=
  Keeps.read fun _ _ => Keeps.ite (fun _ => Keeps.pure) fun _ => Keeps.bind sendHello_quiet fun _ =>
    Keeps.bind sendReady_quiet fun _ => Keeps.pure

theorem relayFallback_quiet {attempt : Attempt} {confirmed : Option Session} :
    Keeps (Quiet start) (relayFallback settings now attempt confirmed) := by
  refine Keeps.read fun seen _ => ?_
  split
  · exact Keeps.ite (fun _ => Keeps.bind startAttempt_quiet fun _ => Keeps.pure) fun _ => Keeps.pure
  · exact Keeps.pure

end UdpTransport

end MeshTalk.Udp
