import MeshTalk.Udp.Origins

namespace MeshTalk.Udp

open MeshTalk.Library MeshTalk.Protocol Handler

/-! # The attempt table and the punch loops

An entry of the table is meant to have a loop that still runs.  A loop that
returns early or raises ends without taking its entry along.
-/

def Attempt.route (attempt : Attempt) : Route := (attempt.endpoint, attempt.viaRelay)

namespace UdpTransport

inductive AttemptEvent where
  | transport (event : TransportEvent)
  /-- The socket raises in a round of a punch loop: at its READY if the HELLO has
  been sent, else at its HELLO. -/
  | socketRaises (serial : Nat) (greeted : Bool)

variable {settings : Settings} {now : Time} {transport start next final : UdpTransport} {session : Session}
  {peerId : PeerId} {route : Route} {attempt : Attempt} {hello : Hello} {serial : Nat}

/-- The active session of the peer if it is on the attempt's route. -/
def sessionOnRoute (transport : UdpTransport) (attempt : Attempt) : Option Session :=
  (transport.sessions.get? attempt.peerId).filter fun session => session.route = attempt.route

/-- The route of the attempt carries a confirmed session already. -/
def onConfirmedRoute (transport : UdpTransport) (attempt : Attempt) : Bool :=
  (transport.sessionOnRoute attempt).any fun session => transport.confirmed session

/-- The loop has a round left and its attempt is the one the table holds. -/
def inRound (transport : UdpTransport) (punch : Punch) : Bool :=
  0 < punch.remaining && transport.attempts.get? punch.attempt.peerId = some punch.attempt

/-- The round hands a datagram to the socket: its HELLO, or its READY to a
session on the route. -/
def reachesSocket (transport : UdpTransport) (greeted : Bool) (punch : Punch) : Bool :=
  transport.inRound punch && !transport.onConfirmedRoute punch.attempt && !punch.attempt.viaRelay &&
    (!greeted || (transport.sessionOnRoute punch.attempt).isSome)

/-- A round of a loop that the socket's exception ends. -/
def raisingRound (serial : Nat) (greeted : Bool) (transport : UdpTransport) : Option UdpTransport :=
  ((transport.punching.get? serial).filter (transport.reachesSocket greeted)).map fun punch =>
    let attempt := punch.attempt
    let greeting := (attempt.hello.elim .empty Datagram.hello, attempt.route)
    { transport with
      sent := if greeted then transport.sent ++ [greeting] else transport.sent
      punching := transport.punching.erase serial }

def attemptStep (settings : Settings) (transport : UdpTransport) : Time × AttemptEvent → Option UdpTransport
  | (now, .transport event) => step settings transport (now, event)
  | (_, .socketRaises serial greeted) => transport.raisingRound serial greeted

/-- Every entry of the attempt table has a punch loop that still runs. -/
def AttemptsRun (transport : UdpTransport) : Prop :=
  ∀ peerId attempt, transport.attempts.get? peerId = some attempt → transport.punching.contains attempt.serial = true

/-- A round of a loop whose attempt the table holds returns because its route is
confirmed already, or one of its sends raises. -/
def Strands (transport : UdpTransport) : Time × AttemptEvent → Prop
  | (_, .transport (.punch serial)) => ∃ punch, transport.punching.get? serial = some punch ∧
      transport.inRound punch = true ∧
        (transport.onConfirmedRoute punch.attempt = true ∨ ¬ CanSend transport punch.attempt.route)
  | (_, .socketRaises serial greeted) => ∃ punch, transport.punching.get? serial = some punch ∧
      transport.reachesSocket greeted punch = true
  | _ => False

/-! ## Loops and entries -/

/-- Entries are under their peers, loops under the numbers of their attempts, and
the loop of every entry runs. -/
structure Driven (transport : UdpTransport) : Prop where
  keyed : ∀ {peerId attempt}, transport.attempts.get? peerId = some attempt → attempt.peerId = peerId
  looped : ∀ {serial punch}, transport.punching.get? serial = some punch →
    punch.attempt.serial = serial ∧ serial < transport.nextAttempt
  running : ∀ {peerId attempt}, transport.attempts.get? peerId = some attempt →
    ∃ punch, transport.punching.get? attempt.serial = some punch ∧ punch.attempt = attempt

theorem Driven.attemptsRun (driven : Driven transport) : AttemptsRun transport := by
  intro peerId attempt found
  obtain ⟨punch, runs, -⟩ := driven.running found
  simp [Dict.contains, runs]

theorem Driven.numbered (driven : Driven transport) (found : transport.attempts.get? peerId = some attempt) :
    attempt.serial < transport.nextAttempt := by
  obtain ⟨punch, runs, -⟩ := driven.running found
  exact (driven.looped runs).2

/-- The number of an entry leads to its loop, and the loop to the entry. -/
theorem Driven.own {punch : Punch} (driven : Driven transport) (found : transport.attempts.get? peerId = some attempt)
    (runs : transport.punching.get? attempt.serial = some punch) :
    punch.attempt = attempt ∧ transport.attempts.get? punch.attempt.peerId = some punch.attempt := by
  obtain ⟨other, same, owned⟩ := driven.running found
  cases runs.symm.trans same
  refine ⟨owned, ?_⟩
  rw [owned, driven.keyed found, found]

theorem Driven.apart {other : PeerId} {stored : Attempt} (driven : Driven transport)
    (found : transport.attempts.get? peerId = some attempt) (also : transport.attempts.get? other = some stored)
    (same : attempt.serial = stored.serial) : peerId = other := by
  obtain ⟨punch, runs, owned⟩ := driven.running found
  have equal := (driven.own also (same ▸ runs)).1
  rw [← driven.keyed found, ← driven.keyed also, ← owned, equal]

theorem Driven.same (driven : Driven start) (attempts : next.attempts = start.attempts)
    (punching : next.punching = start.punching) (nextAttempt : next.nextAttempt = start.nextAttempt) : Driven next where
  keyed := by rw [attempts]; exact driven.keyed
  looped := by rw [punching, nextAttempt]; exact driven.looped
  running := by rw [attempts, punching]; exact driven.running

theorem Driven.change {update : UdpTransport → UdpTransport} (driven : ∀ transport, Driven transport → Driven (update transport)) :
    Keeps Driven (Handler.change update : Handling PUnit) :=
  Keeps.change driven

theorem Driven.changeSame {update : UdpTransport → UdpTransport}
    (attempts : ∀ transport, (update transport).attempts = transport.attempts)
    (punching : ∀ transport, (update transport).punching = transport.punching)
    (nextAttempt : ∀ transport, (update transport).nextAttempt = transport.nextAttempt) :
    Keeps Driven (Handler.change update : Handling PUnit) :=
  Keeps.change fun transport driven => driven.same (attempts transport) (punching transport) (nextAttempt transport)

/-- A loop whose number no entry has may end. -/
theorem Driven.endLoop (driven : Driven transport)
    (unlisted : ∀ peerId attempt, transport.attempts.get? peerId = some attempt → attempt.serial ≠ serial) :
    Driven { transport with punching := transport.punching.erase serial } where
  keyed := driven.keyed
  looped found := by
    rw [Dict.get?_erase] at found
    split at found
    · contradiction
    · exact driven.looped found
  running found := by
    obtain ⟨punch, runs, owned⟩ := driven.running found
    refine ⟨punch, ?_, owned⟩
    rw [Dict.get?_erase, if_neg (unlisted _ _ found), runs]

/-- Entries may go while their loops still run. -/
theorem Driven.dropEntry (driven : Driven transport) :
    Driven { transport with attempts := transport.attempts.erase peerId } where
  keyed found := by
    rw [Dict.get?_erase] at found
    split at found
    · contradiction
    · exact driven.keyed found
  looped := driven.looped
  running found := by
    rw [Dict.get?_erase] at found
    split at found
    · contradiction
    · exact driven.running found

theorem popAttempt_driven (driven : Driven transport) : Driven (transport.popAttempt peerId) := by
  unfold popAttempt
  split
  · exact driven
  · rename_i popped held
    refine @Driven.endLoop { transport with attempts := transport.attempts.erase peerId } popped.serial
      driven.dropEntry fun other attempt found same => ?_
    rw [Dict.get?_erase] at found
    split at found
    · contradiction
    · rename_i elsewhere
      exact elsewhere (driven.apart found held same)

theorem popAttempt_absent : (transport.popAttempt peerId).attempts.get? peerId = none := by
  rw [popAttempt_attempts, if_pos rfl]

/-- A new attempt with a new number takes the place of the peer's entry. -/
theorem Driven.enter {replaced : UdpTransport} (driven : Driven replaced) (attempts : Dict PeerId Attempt)
    (same : ∀ other, other ≠ peerId → attempts.get? other = replaced.attempts.get? other)
    (addressed : attempt.peerId = peerId) (numbered : attempt.serial = replaced.nextAttempt) (rounds : Nat) :
    Driven { replaced with
      nextAttempt := replaced.nextAttempt + 1
      attempts := attempts.set peerId attempt
      punching := replaced.punching.set attempt.serial { attempt, remaining := rounds } } where
  keyed {other stored} found := by
    rw [Dict.get?_set] at found
    split at found
    · cases found
      rename_i here
      rw [addressed, here]
    · rename_i elsewhere
      exact driven.keyed (same other elsewhere ▸ found)
  looped {number punch} found := by
    rw [Dict.get?_set] at found
    split at found
    · cases found
      rename_i here
      exact ⟨here.symm, by rw [here, numbered]; exact Nat.lt_succ_self _⟩
    · exact ⟨(driven.looped found).1, Nat.lt_succ_of_lt (driven.looped found).2⟩
  running {other stored} found := by
    rw [Dict.get?_set] at found
    split at found
    · cases found
      exact ⟨_, by rw [Dict.get?_set, if_pos rfl], rfl⟩
    · rename_i elsewhere
      have found := (same other elsewhere).symm.trans found
      obtain ⟨punch, runs, owned⟩ := driven.running found
      have older : stored.serial ≠ attempt.serial := numbered ▸ Nat.ne_of_lt (driven.numbered found)
      exact ⟨punch, by rw [Dict.get?_set, if_neg older, runs], owned⟩

theorem startAttempt_driven : Keeps Driven (startAttempt settings now peerId route) := by
  refine Ensures.read fun seen driven => Ensures.ite (fun _ => ?_) fun _ => ?_
  · refine Ensures.bind (Ensures.change (Q := fun _ => Driven) ?_) fun _ => Ensures.pure fun _ kept => kept
    rintro state rfl
    exact ⟨driven.keyed, fun found => ⟨(driven.looped found).1, Nat.lt_succ_of_lt (driven.looped found).2⟩, driven.running⟩
  · refine Ensures.bind (Ensures.refuse (Q := fun _ state => state = seen) ?_ fun _ same _ => same) fun _ =>
      Ensures.bind (Ensures.change (Q := fun _ => Driven) ?_) fun _ => Ensures.pure fun _ kept => kept
    · rintro state rfl -
      exact driven
    · rintro state rfl
      have popped : Driven (state.popAttempt peerId) := popAttempt_driven driven
      let unsent := newAttempt settings now state.nextAttempt peerId route
      let started : Attempt := { unsent with hello := some (makeHello settings unsent) }
      have entered := @Driven.enter peerId started (state.popAttempt peerId) popped state.attempts
        (fun other elsewhere => by rw [popAttempt_attempts, if_neg elsewhere]) rfl popAttempt_nextAttempt.symm punchRounds
      rw [popAttempt_nextAttempt] at entered
      exact entered

/-! ## Handlers -/

theorem removeSession_punching : (transport.removeSession session).punching = transport.punching := by
  simp only [removeSession, releaseForgottenRelay, dropRelayRouting]
  split
  · rfl
  · split
    · rfl
    · split <;> rfl

theorem removeSession_driven (driven : Driven transport) : Driven (transport.removeSession session) :=
  driven.same removeSession_attempts removeSession_punching removeSession_nextAttempt

theorem removeSessions_driven {sessions : List Session} (driven : Driven transport) :
    Driven (removeSessions sessions transport) := by
  induction sessions generalizing transport with
  | nil => exact driven
  | cons session rest ih => exact ih (removeSession_driven driven)

theorem updateStatus_driven {update : SessionStatus → SessionStatus} (driven : Driven transport) :
    Driven (transport.updateStatus session update) :=
  driven.same rfl rfl rfl

theorem sendRoute_driven {datagram : Datagram} : Keeps Driven (sendRoute datagram route) :=
  Keeps.read fun _ _ => Keeps.bind Keeps.refuse fun _ => Driven.changeSame (fun _ => rfl) (fun _ => rfl) fun _ => rfl

theorem sendAuthenticated_driven {type : AuthenticatedType} {token : Nat} :
    Keeps Driven (sendAuthenticated settings session type token) :=
  sendRoute_driven

theorem sendHello_driven {greeting : Option Hello} : Keeps Driven (sendHello greeting route) :=
  sendRoute_driven

theorem callback_driven {told : Callback} : Keeps Driven (callback told) :=
  Driven.changeSame (fun _ => rfl) (fun _ => rfl) fun _ => rfl

theorem authenticateHello_driven : Keeps Driven (authenticateHello settings now hello route) := by
  refine Keeps.bind (Keeps.bind Keeps.refuse fun _ => Keeps.bind Keeps.refuse fun _ => Keeps.refuse) fun _ =>
    Keeps.read fun seen _ => Keeps.bind Keeps.refuse fun _ => Keeps.bind (Keeps.change fun state driven => ?_) fun _ =>
      Keeps.bind Keeps.refuse fun _ => Keeps.refuse
  split
  · exact driven.same rfl rfl rfl
  · exact driven

theorem answerRepeat_driven : Keeps Driven (answerRepeat settings session route) :=
  Keeps.read fun _ _ => Keeps.ite (fun _ => sendAuthenticated_driven) fun _ => Keeps.ite (fun _ => Keeps.pure) fun _ =>
    Keeps.bind (Keeps.change fun _ => updateStatus_driven) fun _ => Keeps.bind sendHello_driven fun _ =>
      sendAuthenticated_driven

theorem promoteSession_driven (driven : Driven transport) : Driven (transport.promoteSession session now) := by
  simp only [promoteSession, vacateActive]
  split
  · exact driven
  · split
    · exact driven.same rfl rfl rfl
    · split
      · exact driven.same rfl rfl rfl
      · exact (removeSession_driven driven).same rfl rfl rfl

theorem handleReady_driven : Keeps Driven (handleReady settings now session) :=
  Keeps.bind (Keeps.read fun _ _ => Keeps.ite (fun _ => Keeps.pure) fun _ =>
    Keeps.bind (Keeps.change fun _ driven => promoteSession_driven (popAttempt_driven (updateStatus_driven driven)))
      fun _ => sendAuthenticated_driven) fun _ =>
  Keeps.read fun _ _ => Keeps.ite (fun _ => Keeps.pure) fun _ =>
    Keeps.bind (Keeps.change fun _ => updateStatus_driven) fun _ => Keeps.read fun _ _ =>
      Keeps.ite (fun _ => callback_driven) fun _ => Keeps.pure

theorem sessionFor_driven {sessionId : SessionId} {required : Bool} :
    Keeps Driven (sessionFor sessionId route required) :=
  Keeps.read fun _ _ => Keeps.bind Keeps.orRaise fun _ => Keeps.bind Keeps.refuse fun _ => Keeps.pure

theorem handleGoodbye_driven : Keeps Driven (handleGoodbye session) :=
  Keeps.read fun _ _ => Keeps.bind (Keeps.change fun _ => removeSession_driven) fun _ =>
    Keeps.ite (fun _ => callback_driven) fun _ => Keeps.pure

theorem handleKeepalive_driven {header : AuthHeader} {tag : Bytes} :
    Keeps Driven (handleKeepalive settings now header tag route) := by
  refine Keeps.bind sessionFor_driven fun session => Keeps.bind Keeps.refuse fun _ =>
    Keeps.ite (fun _ => handleReady_driven) fun _ => Keeps.read fun _ _ => Keeps.bind Keeps.refuse fun _ =>
      Keeps.bind (Keeps.change fun _ => updateStatus_driven) fun _ => ?_
  split
  · exact sendAuthenticated_driven
  · exact handleGoodbye_driven
  all_goals exact Keeps.pure

theorem handleAck_driven {header : AuthHeader} {tag : Bytes} : Keeps Driven (handleAck settings now header tag route) := by
  refine Keeps.bind sessionFor_driven fun session => Keeps.bind Keeps.refuse fun _ =>
    Keeps.bind (Keeps.change fun _ => updateStatus_driven) fun _ => Keeps.read fun _ _ => ?_
  split
  · exact Keeps.pure
  · split
    · exact Keeps.pure
    · exact Driven.changeSame (fun _ => rfl) (fun _ => rfl) fun _ => rfl

theorem storeFragment_driven {header : DataHeader} {fragment : Bytes} :
    Keeps Driven (storeFragment now session header fragment) :=
  Keeps.read fun _ _ => Keeps.bind Keeps.refuse fun _ =>
    Keeps.bind (Keeps.change fun _ => updateStatus_driven) fun _ => Keeps.bind Keeps.refuse fun _ =>
      Keeps.ite (fun _ => Keeps.bind (Keeps.change fun _ => updateStatus_driven) fun _ => Keeps.pure) fun _ =>
        Keeps.bind (Keeps.change fun _ => updateStatus_driven) fun _ => Keeps.pure

theorem receivePacket_driven {header : DataHeader} {ciphertext : Bytes} :
    Keeps Driven (receivePacket settings now header ciphertext route) := by
  have opens : Keeps Driven (openFragment settings now header ciphertext route) :=
    Keeps.bind sessionFor_driven fun _ => Keeps.bind Keeps.refuse fun _ => Keeps.bind Keeps.orRaise fun _ =>
      Keeps.bind (Keeps.change fun _ => updateStatus_driven) fun _ => Keeps.pure
  refine Keeps.bind opens fun opened => Keeps.bind (Keeps.read fun _ _ => Keeps.ite
    (fun _ => Keeps.bind sendAuthenticated_driven fun _ => Keeps.pure) fun _ => storeFragment_driven) fun complete => ?_
  split
  · exact Keeps.pure
  · exact Keeps.bind (Keeps.bind Keeps.refuse fun _ => Keeps.orRaise) fun _ => Keeps.pure

theorem handleData_driven {header : DataHeader} {ciphertext : Bytes} :
    Keeps Driven (handleData settings now header ciphertext route) := by
  refine Keeps.bind receivePacket_driven fun received => ?_
  split
  · exact Keeps.pure
  · refine Keeps.bind (Driven.changeSame (fun _ => rfl) (fun _ => rfl) fun _ => rfl) fun _ =>
      Keeps.bind sendAuthenticated_driven fun _ => ?_
    split
    · exact Keeps.pure
    · exact callback_driven

theorem deriveSession_driven {current : Option Session} :
    Keeps Driven (deriveSession settings now hello route current) := by
  refine Keeps.bind (Keeps.read fun _ _ => ?_) fun _ => Keeps.bind sendHello_driven fun _ =>
    Keeps.bind Keeps.orRaise fun _ => ?_
  · split
    · exact Keeps.ite (fun _ => Keeps.pure) fun _ => startAttempt_driven
    · exact startAttempt_driven
  · dsimp only
    split
    · exact Keeps.bind sendAuthenticated_driven fun _ => Keeps.pure
    · exact Keeps.pure

theorem admitHello_driven : Keeps Driven (admitHello settings now hello route) := by
  refine Keeps.bind authenticateHello_driven fun _ => Keeps.read fun _ _ => ?_
  split
  · exact Keeps.bind answerRepeat_driven fun _ => Keeps.pure
  · exact deriveSession_driven

theorem dropUnconfirmed_driven {current : Option Session} (driven : Driven transport) :
    Driven (transport.dropUnconfirmed current) := by
  unfold dropUnconfirmed
  split
  · split
    · exact driven
    · exact removeSession_driven driven
  · exact driven

theorem addSession_driven (driven : Driven transport) : Driven (transport.addSession session) := by
  simp only [addSession]
  split
  · split
    · exact driven.same removeSession_attempts removeSession_punching removeSession_nextAttempt
    · exact driven.same rfl rfl rfl
  · exact driven.same rfl rfl rfl

theorem handleHello_driven : Keeps Driven (handleHello settings now hello route) := by
  refine Keeps.bind admitHello_driven fun _ => ?_
  split
  · exact Keeps.pure
  · exact Keeps.read fun _ _ => Keeps.bind Keeps.refuse fun _ => Keeps.bind (Keeps.change fun _ => dropUnconfirmed_driven)
      fun _ => Keeps.bind Keeps.orRaise fun _ => Keeps.bind (Keeps.change fun _ => addSession_driven) fun _ =>
        sendAuthenticated_driven

theorem datagramReceived_driven {datagram : Datagram} : Keeps Driven (datagramReceived settings now datagram route) := by
  refine Keeps.ite (fun _ => Keeps.pure) fun _ => ?_
  cases datagram with
  | empty => exact Keeps.pure
  | hello hello => exact handleHello_driven
  | data header ciphertext => exact handleData_driven
  | authenticated header tag => exact Keeps.ite (fun _ => handleAck_driven) fun _ => handleKeepalive_driven

theorem startedAfter_driven : Keeps Driven (do let _ ← startAttempt settings now peerId route) :=
  Keeps.bind startAttempt_driven fun _ => Keeps.pure

theorem expectDerpPeer_driven : Keeps Driven (expectDerpPeer settings now peerId) :=
  Keeps.ite (fun _ => Keeps.pure) fun _ => Keeps.bind (Driven.changeSame (fun _ => rfl) (fun _ => rfl) fun _ => rfl) fun _ =>
    Keeps.read fun _ _ => Keeps.ite (fun _ => startedAfter_driven) fun _ => Keeps.pure

theorem keepAlive_driven {token : Nat} : Keeps Driven (keepAlive settings now session token) := by
  refine Keeps.bind sendAuthenticated_driven fun _ => Keeps.read fun _ _ => ?_
  split
  · exact Keeps.pure
  · exact Keeps.bind (Driven.changeSame (fun _ => rfl) (fun _ => rfl) fun _ => rfl) fun _ => startedAfter_driven

theorem visitActive_driven {token : Nat} : Keeps Driven (visitActive settings now session token) :=
  Keeps.read fun _ _ => Keeps.ite (fun _ => Keeps.change fun _ => removeSession_driven) fun _ =>
    Keeps.ite (fun _ => Keeps.bind (Keeps.change fun _ => removeSession_driven) fun _ => callback_driven) fun _ =>
      Keeps.bind (Keeps.read fun _ _ => Keeps.ite (fun _ => keepAlive_driven) fun _ => Keeps.pure) fun _ =>
        Keeps.change fun _ => updateStatus_driven

theorem visitRetiring_driven {expiresAt : Time} : Keeps Driven (visitRetiring now session expiresAt) :=
  Keeps.ite (fun _ => Keeps.bind (Keeps.change fun _ => removeSession_driven) fun _ => callback_driven) fun _ =>
    Keeps.change fun _ => updateStatus_driven

theorem maintain_driven {piece : Handling PUnit} {following : Maintenance} (kept : Keeps Driven piece)
    (driven : Driven transport) : Driven (maintain piece following transport) := by
  have result := kept transport driven
  unfold maintain
  rcases run : piece transport with ⟨outcome, final⟩
  rw [run] at result
  cases outcome <;> exact Driven.same result rfl rfl rfl

theorem maintenanceStep_driven {token : Nat} (driven : Driven transport)
    (stepped : maintenanceStep settings now token transport = some next) : Driven next := by
  unfold maintenanceStep at stepped
  split at stepped
  · cases stepped; exact driven.same rfl rfl rfl
  · cases stepped; exact maintain_driven visitActive_driven driven
  · cases stepped; exact driven.same rfl rfl rfl
  · cases stepped; exact maintain_driven visitRetiring_driven driven
  · cases stepped; exact (removeSessions_driven driven).same rfl rfl rfl
  · contradiction

theorem withdrawDirect_driven (driven : Driven transport) : Driven (transport.withdrawDirect peerId) := by
  have cleared : Driven { transport with
      directCandidates := transport.directCandidates.erase peerId
      expectedEndpoints := transport.expectedEndpoints.erase peerId } := driven.same rfl rfl rfl
  simp only [withdrawDirect]
  split
  · exact popAttempt_driven cleared
  · exact cleared

theorem withdraw_driven (driven : Driven transport) : Driven (transport.withdraw peerId) := by
  simp only [withdraw]
  refine popAttempt_driven ?_
  split
  · exact driven.same rfl rfl rfl
  · unfold dropRelayRouting
    dsimp only
    split <;> exact driven.same rfl rfl rfl

theorem sendPacket_driven {call messageId : Nat} {packet : Packet} {nonces : Nat → Bytes} :
    Keeps Driven (sendPacket settings call peerId packet messageId nonces) :=
  Keeps.read fun _ _ => Keeps.bind Keeps.orRaise fun _ => Keeps.bind Keeps.orRaise fun _ =>
    Keeps.bind Keeps.refuse fun _ => Keeps.bind Keeps.refuse fun _ =>
      Driven.changeSame (fun _ => rfl) (fun _ => rfl) fun _ => rfl

theorem sendAll_driven {datagrams : List Datagram} : Keeps Driven (sendAll route datagrams) := by
  induction datagrams with
  | nil => exact Keeps.pure
  | cons datagram rest ih => exact Keeps.bind sendRoute_driven fun _ => ih

theorem sendRound_driven {call : Nat} {sending : Sending} : Keeps Driven (sendRound call sending) := by
  have finished : ∀ state, Driven state → Driven (state.finishSending call sending) := fun _ driven => driven.same rfl rfl rfl
  refine Keeps.ite (fun _ => Keeps.bind (Keeps.change finished) fun _ => Keeps.pure) fun _ =>
    Keeps.ite (fun _ => Keeps.bind (Keeps.change finished) fun _ => Keeps.raise) fun _ => ?_
  exact Keeps.bind (Keeps.onRaise sendAll_driven finished) fun _ =>
    Keeps.bind (Driven.changeSame (fun _ => rfl) (fun _ => rfl) fun _ => rfl) fun _ => Keeps.pure

/-- Where the peer's attempt is replaced anyway, it makes no difference that its
loop was cancelled before. -/
theorem startAttempt_cancelled {stored : Attempt} {endpoint : Endpoint}
    (found : transport.attempts.get? peerId = some stored) :
    startAttempt settings now peerId (endpoint, false) { transport with
      punching := transport.punching.erase stored.serial } =
        startAttempt settings now peerId (endpoint, false) transport := by
  have gone : (transport.punching.erase stored.serial).erase stored.serial = transport.punching.erase stored.serial :=
    Dict.erase_of_get? (by rw [Dict.get?_erase, if_pos rfl])
  have popped : popAttempt { transport with punching := transport.punching.erase stored.serial } peerId =
      transport.popAttempt peerId := by
    simp only [popAttempt, found, gone]
  simp [startAttempt, bind_apply, Handler.read, Handler.refuse, Handler.change, Dict.contains, found, popped]

theorem restarted_driven {endpoint : Endpoint} :
    Keeps Driven (do
      change fun transport => { transport with
        punching := ((transport.attempts.get? peerId).map fun attempt =>
          transport.punching.erase attempt.serial).getD transport.punching }
      let _ ← startAttempt settings now peerId (endpoint, false)) := by
  intro state driven
  rw [change_bind]
  cases found : state.attempts.get? peerId with
  | none => exact startedAfter_driven state (driven.same rfl rfl rfl)
  | some stored =>
      have kept := @startedAfter_driven settings now peerId (endpoint, false) state driven
      rw [bind_apply] at kept ⊢
      rw [← startAttempt_cancelled found] at kept
      exact kept

theorem expectPeer_driven {endpoint : Endpoint} : Keeps Driven (expectPeer settings now peerId endpoint) := by
  refine Keeps.ite (fun _ => Keeps.pure) fun _ => Keeps.bind Keeps.refuse fun _ => Keeps.bind Keeps.refuse fun _ =>
    Keeps.read fun _ _ => Keeps.bind Keeps.refuse fun _ => Keeps.bind (Driven.changeSame (fun _ => rfl) (fun _ => rfl) fun _ => rfl)
      fun _ => Keeps.ite (fun _ => ?_) fun _ => Keeps.ite (fun _ => Keeps.pure) fun _ =>
        Keeps.ite (fun _ => Keeps.pure) fun _ => Keeps.ite (fun _ => Keeps.pure) fun _ => ?_
  · split
    · exact Keeps.ite (fun _ => startedAfter_driven) fun _ => Keeps.pure
    · exact Keeps.pure
  · refine Keeps.bind (Keeps.change fun state driven => ?_) fun _ => restarted_driven
    split
    · exact driven.same rfl rfl rfl
    · exact driven

/-! ## Rounds and the end of a loop -/

/-- A loop that finds its attempt replaced returns. -/
theorem punchRound_replaced (replaced : transport.attempts.get? attempt.peerId ≠ some attempt) :
    punchRound settings attempt transport = (.ok false, transport) := by
  rw [punchRound, read_bind, if_pos (.inl replaced)]
  rfl

theorem punchRound_reached (reached : transport.onConfirmedRoute attempt = true) :
    punchRound settings attempt transport = (.ok false, transport) := by
  rw [punchRound, read_bind, if_pos (.inr reached)]
  rfl

/-- Nothing has happened but that datagrams were sent. -/
def SentMore (start next : UdpTransport) : Prop := ∃ sent, next = { start with sent }

theorem sendRoute_more {datagram : Datagram} :
    Ensures (SentMore transport) (sendRoute datagram route)
      (fun _ state => SentMore transport state ∧ CanSend transport route)
      (fun state => SentMore transport state ∧ ¬ CanSend transport route) := by
  refine Ensures.read fun seen more => Ensures.bind
    (Ensures.refuse (Q := fun _ state => state = seen ∧ CanSend transport route) ?_ ?_) fun _ => Ensures.change ?_
  · rintro state rfl ⟨relayed, missing⟩
    obtain ⟨sent, rfl⟩ := more
    refine ⟨⟨sent, rfl⟩, fun can => ?_⟩
    obtain ⟨sender, routed⟩ := can relayed
    simp [sender, routed] at missing
  · rintro state rfl available
    obtain ⟨sent, rfl⟩ := more
    refine ⟨rfl, fun relayed => ?_⟩
    simpa [relayed] using available
  · rintro state ⟨rfl, can⟩
    obtain ⟨sent, rfl⟩ := more
    exact ⟨⟨_, rfl⟩, can⟩

/-- A round that is not left early sends, or raises because it cannot. -/
theorem punchRound_sends (held : transport.attempts.get? attempt.peerId = some attempt)
    (unreached : transport.onConfirmedRoute attempt = false) :
    Ensures (· = transport) (punchRound settings attempt)
      (fun goesOn state => goesOn = true ∧ SentMore transport state ∧ CanSend transport attempt.route)
      (fun state => SentMore transport state ∧ ¬ CanSend transport attempt.route) := by
  refine Ensures.read fun seen same => ?_
  subst same
  refine Ensures.ite (fun left => ?_) fun _ => ?_
  · rcases left with replaced | reached
    · exact absurd held replaced
    · have reached : seen.onConfirmedRoute attempt = true := reached
      rw [unreached] at reached
      contradiction
  refine Ensures.bind (Ensures.weaken sendRoute_more (fun state same => ⟨state.sent, same ▸ rfl⟩) (fun _ _ done => done)
    fun _ failed => failed) fun _ => ?_
  refine Ensures.bind (Q := fun _ state => SentMore seen state ∧ CanSend seen attempt.route) ?_ fun _ =>
    Ensures.pure fun _ done => ⟨rfl, done⟩
  unfold sendReady
  split
  · rename_i session onRoute
    have route : session.route = attempt.route := by
      have kept := (Option.filter_eq_some_iff.mp onRoute).2
      exact of_decide_eq_true kept
    rw [← route]
    exact Ensures.weaken sendRoute_more (fun _ done => done.1) (fun _ _ done => done) fun _ failed => failed
  · exact Ensures.pure fun _ done => done

theorem Driven.unlisted {punch : Punch} (driven : Driven transport) (runs : transport.punching.get? serial = some punch)
    (replaced : transport.attempts.get? punch.attempt.peerId ≠ some punch.attempt) :
    ∀ peerId attempt, transport.attempts.get? peerId = some attempt → attempt.serial ≠ serial := by
  rintro peerId attempt found rfl
  exact replaced (driven.own found runs).2

theorem abandonAttempt_driven (driven : Driven transport) : Driven (transport.abandonAttempt peerId) := by
  simp only [abandonAttempt]
  split
  · split
    · exact driven.dropEntry
    · exact removeSession_driven driven.dropEntry
  · exact driven.dropEntry

theorem abandonAttempt_attempts :
    (transport.abandonAttempt peerId).attempts = transport.attempts.erase peerId := by
  simp only [abandonAttempt]
  split
  · split
    · rfl
    · exact removeSession_attempts
  · rfl

theorem abandonAttempt_nextAttempt : (transport.abandonAttempt peerId).nextAttempt = transport.nextAttempt := by
  simp only [abandonAttempt]
  split
  · split
    · rfl
    · exact removeSession_nextAttempt
  · rfl

theorem relayFallback_driven {confirmed : Option Session} : Keeps Driven (relayFallback settings now attempt confirmed) := by
  refine Keeps.read fun _ _ => ?_
  split
  · exact Keeps.ite (fun _ => startedAfter_driven) fun _ => Keeps.pure
  · exact Keeps.pure

theorem relayFallback_spares {confirmed : Option Session} :
    Keeps (Spares settings start) (relayFallback settings now attempt confirmed) := by
  refine Keeps.read fun _ _ => ?_
  split
  · exact Keeps.ite (fun _ => startedAfter_spares) fun _ => Keeps.pure
  · exact Keeps.pure

/-- After its last round a loop has taken its entry along. -/
theorem punchExhausted_driven {punch : Punch} (driven : Driven transport)
    (runs : transport.punching.get? serial = some punch) :
    Driven ((punchExhausted settings now punch.attempt).finish transport) ∧
      ∀ peerId attempt, ((punchExhausted settings now punch.attempt).finish transport).attempts.get? peerId = some attempt →
        attempt.serial ≠ serial := by
  by_cases held : transport.attempts.get? punch.attempt.peerId = some punch.attempt
  · let left := transport.abandonAttempt punch.attempt.peerId
    have taken : (punchExhausted settings now punch.attempt).finish transport =
        (relayFallback settings now punch.attempt (transport.confirmedActive punch.attempt.peerId)).finish left := by
      rw [finish, punchExhausted, read_bind, if_pos held, change_bind]
      rfl
    have kept : Driven left := abandonAttempt_driven driven
    have spares : Spares settings left
        ((relayFallback settings now punch.attempt (transport.confirmedActive punch.attempt.peerId)).finish left) :=
      relayFallback_spares.finish .refl
    rw [taken]
    refine ⟨relayFallback_driven.finish kept, fun peerId attempt found same => ?_⟩
    obtain ⟨own, numbered⟩ := driven.looped runs
    rcases spares.older found with older | newer
    · rw [abandonAttempt_attempts, Dict.get?_erase] at older
      split at older
      · contradiction
      · rename_i elsewhere
        have equal := driven.apart older held (same.trans own.symm)
        exact elsewhere equal
    · rw [abandonAttempt_nextAttempt] at newer
      omega
  · have untouched : (punchExhausted settings now punch.attempt).finish transport = transport := by
      rw [finish, punchExhausted, read_bind, if_neg held]
      rfl
    rw [untouched]
    exact ⟨driven, driven.unlisted runs held⟩

theorem punchStep_goesOn {punch : Punch} {remaining : Nat} (runs : transport.punching.get? serial = some punch)
    (left : punch.remaining = remaining + 1) (round : punchRound settings punch.attempt transport = (.ok true, final)) :
    punchStep settings now serial transport =
      some { final with punching := final.punching.set serial { punch with remaining } } := by
  simp only [punchStep, runs, Option.map_some, left, round]

theorem punchStep_ends {punch : Punch} {remaining : Nat} {outcome : Except Failure Bool}
    (runs : transport.punching.get? serial = some punch) (left : punch.remaining = remaining + 1)
    (round : punchRound settings punch.attempt transport = (outcome, final)) (ends : outcome ≠ .ok true) :
    punchStep settings now serial transport = some { final with punching := final.punching.erase serial } := by
  simp only [punchStep, runs, Option.map_some, left, round]

theorem punchStep_last {punch : Punch} (runs : transport.punching.get? serial = some punch) (spent : punch.remaining = 0) :
    punchStep settings now serial transport =
      (let closed := (punchExhausted settings now punch.attempt).finish transport
       some { closed with punching := closed.punching.erase serial }) := by
  simp only [punchStep, runs, Option.map_some, spent]

/-- A loop goes on with a round less. -/
theorem Driven.continue {punch : Punch} {sent : List (Datagram × Route)} {remaining : Nat} (driven : Driven transport)
    (runs : transport.punching.get? serial = some punch) :
    Driven { transport with sent, punching := transport.punching.set serial { punch with remaining } } where
  keyed := driven.keyed
  looped found := by
    rw [Dict.get?_set] at found
    split at found
    · rename_i here
      cases found
      subst here
      exact ⟨(driven.looped runs).1, (driven.looped runs).2⟩
    · exact driven.looped found
  running {peerId attempt} found := by
    obtain ⟨other, loop, owned⟩ := driven.running found
    by_cases here : attempt.serial = serial
    · rw [here, runs] at loop
      cases loop
      exact ⟨{ punch with remaining }, by rw [Dict.get?_set, if_pos here], owned⟩
    · exact ⟨other, by rw [Dict.get?_set, if_neg here, loop], owned⟩

theorem punchStep_driven (driven : Driven transport) (fine : ¬ Strands transport (now, .transport (.punch serial)))
    (stepped : punchStep settings now serial transport = some next) : Driven next := by
  obtain ⟨punch, runs, -⟩ := Option.map_eq_some_iff.mp stepped
  cases left : punch.remaining with
  | zero =>
      rw [punchStep_last runs left] at stepped
      cases stepped
      obtain ⟨kept, unlisted⟩ := @punchExhausted_driven settings now transport serial punch driven runs
      exact kept.endLoop unlisted
  | succ remaining =>
      by_cases held : transport.attempts.get? punch.attempt.peerId = some punch.attempt
      · have inRound : transport.inRound punch = true := by simp [inRound, left, held]
        have unreached : transport.onConfirmedRoute punch.attempt = false :=
          Bool.eq_false_iff.mpr fun reached => fine ⟨punch, runs, inRound, .inl reached⟩
        have can : CanSend transport punch.attempt.route :=
          Decidable.not_not.mp fun cannot => fine ⟨punch, runs, inRound, .inr cannot⟩
        have sends := @punchRound_sends settings transport punch.attempt held unreached transport rfl
        rcases round : punchRound settings punch.attempt transport with ⟨outcome, final⟩
        rw [round] at sends
        cases outcome with
        | error failure => exact absurd can sends.2
        | ok goesOn =>
            obtain ⟨rfl, ⟨sent, rfl⟩, -⟩ := sends
            rw [punchStep_goesOn runs left round] at stepped
            cases stepped
            exact driven.continue runs
      · rw [punchStep_ends runs left (punchRound_replaced held) (by simp)] at stepped
        cases stepped
        exact driven.endLoop (driven.unlisted runs held)

/-- An entry stays behind when its loop ends. -/
theorem stranded {punch : Punch} (driven : Driven transport) (runs : transport.punching.get? serial = some punch)
    (held : transport.attempts.get? punch.attempt.peerId = some punch.attempt)
    (same : next.attempts = transport.attempts) :
    ¬ AttemptsRun { next with punching := next.punching.erase serial } := by
  intro running
  have still := running punch.attempt.peerId punch.attempt (by rw [same]; exact held)
  rw [Dict.contains, Dict.get?_erase, if_pos (driven.looped runs).1] at still
  contradiction

theorem strands_loses {event : Time × AttemptEvent} (driven : Driven transport) (strands : Strands transport event) :
    ∃ next, attemptStep settings transport event = some next ∧ ¬ AttemptsRun next := by
  unfold Strands at strands
  split at strands
  · rename_i now serial
    obtain ⟨punch, runs, standing, ends⟩ := strands
    simp only [inRound, Bool.and_eq_true, decide_eq_true_eq] at standing
    obtain ⟨rounds, held⟩ := standing
    obtain ⟨remaining, left⟩ := Nat.exists_eq_add_one_of_ne_zero (Nat.ne_of_gt rounds)
    cases reached : transport.onConfirmedRoute punch.attempt with
    | true => exact ⟨_, punchStep_ends runs left (punchRound_reached reached) (by simp), stranded driven runs held rfl⟩
    | false =>
        have cannot := ends.resolve_left (by simp [reached])
        have sends := @punchRound_sends settings transport punch.attempt held reached transport rfl
        rcases round : punchRound settings punch.attempt transport with ⟨outcome, final⟩
        rw [round] at sends
        cases outcome with
        | ok goesOn => exact absurd sends.2.2 cannot
        | error failure =>
            obtain ⟨⟨sent, rfl⟩, -⟩ := sends
            exact ⟨_, punchStep_ends runs left round (by simp), stranded driven runs held rfl⟩
  · rename_i now serial greeted
    obtain ⟨punch, runs, reaches⟩ := strands
    have held : transport.attempts.get? punch.attempt.peerId = some punch.attempt := by
      simp only [reachesSocket, inRound, Bool.and_eq_true, decide_eq_true_eq] at reaches
      exact reaches.1.1.1.2
    refine ⟨_, by rw [attemptStep, raisingRound, runs, Option.filter_some, if_pos reaches, Option.map_some], ?_⟩
    exact @stranded transport { transport with sent := _ } serial punch driven runs held rfl
  · contradiction

theorem attemptStep_driven {event : Time × AttemptEvent} (driven : Driven transport) (fine : ¬ Strands transport event)
    (stepped : attemptStep settings transport event = some next) : Driven next := by
  obtain ⟨now, event⟩ := event
  cases event with
  | socketRaises serial greeted =>
      obtain ⟨punch, kept, -⟩ := Option.map_eq_some_iff.mp stepped
      obtain ⟨runs, reaches⟩ := Option.filter_eq_some_iff.mp kept
      exact absurd ⟨punch, runs, reaches⟩ fine
  | transport event =>
      cases event with
      | punch serial => exact punchStep_driven driven fine stepped
      | maintenance token => exact maintenanceStep_driven driven stepped
      | datagramReceived datagram route =>
          cases stepped
          exact datagramReceived_driven.finish driven
      | expectPeer peerId endpoint =>
          cases stepped
          exact expectPeer_driven.finish driven
      | expectDerpPeer peerId =>
          cases stepped
          exact expectDerpPeer_driven.finish driven
      | configureDerp sender serverEnabled =>
          cases stepped
          exact driven.same rfl rfl rfl
      | clearDirectCandidate peerId =>
          cases stepped
          exact removeSessions_driven (withdrawDirect_driven driven)
      | forgetCandidate peerId =>
          cases stepped
          exact removeSessions_driven (withdraw_driven driven)
      | sendPacket call peerId packet messageId nonces =>
          simp only [attemptStep, step] at stepped
          split at stepped
          · contradiction
          · cases stepped
            exact sendPacket_driven.finish driven
      | sendRound call =>
          obtain ⟨sending, -, rfl⟩ := Option.map_eq_some_iff.mp stepped
          exact sendRound_driven.finish driven

theorem initial_driven : Driven initial :=
  ⟨fun found => (nomatch found), fun found => (nomatch found), fun found => (nomatch found)⟩

/-- Along a run every entry of the attempt table has a punch loop that still runs
exactly when no loop ends early beside its entry. -/
theorem attempts_run_iff (settings : Settings) (events : List (Time × AttemptEvent)) :
    (∀ before after state, events = before ++ after → run (attemptStep settings) initial before = some state →
      AttemptsRun state) ↔
    Meets (attemptStep settings) (fun transport event => ¬ Strands transport event) initial events :=
  always_iff_meets (fun _ (driven : Driven _) => driven.attemptsRun)
    (fun _ _ _ driven fine stepped => attemptStep_driven driven fine stepped)
    (fun _ _ driven ends => strands_loses driven (Classical.not_not.mp ends)) initial_driven

/-! ### A peer that greets again from where its confirmed session is -/

def secondHello : Hello := { sampleHello with nonce := List.replicate 32 3 }

def secondGreeting : List (Time × AttemptEvent) :=
  [(0, .transport (.datagramReceived (.hello sampleHello) homeRoute)),
   (1, .transport (.datagramReceived (.authenticated ⟨.ready, List.replicate 8 0, 0⟩ []) homeRoute)),
   (2, .transport (.datagramReceived (.hello secondHello) homeRoute)),
   (2, .transport (.punch 1))]

/-- The attempt for the second HELLO stays in the table after its loop has
returned in its first round. -/
theorem second_greeting_strands_attempt :
    ¬ ∀ settings events final, run (attemptStep settings) initial events = some final → AttemptsRun final := by
  intro always
  have reached : (run (attemptStep sampleSettings) initial secondGreeting).any (fun final =>
      (final.attempts.get? "b0").any (fun attempt => attempt.serial = 1) && !final.punching.contains 1) = true := by
    decide +kernel
  simp only [Option.any_eq_true, Bool.and_eq_true, decide_eq_true_eq] at reached
  obtain ⟨final, completed, ⟨attempt, found, serial⟩, ended⟩ := reached
  have runs := always sampleSettings secondGreeting final completed "b0" attempt found
  rw [serial] at runs
  simp [runs] at ended

end UdpTransport

end MeshTalk.Udp
