import MeshTalk.Udp.SessionRuns

namespace MeshTalk.Udp

open MeshTalk.Library MeshTalk.Protocol Handler

/-! # What a rejected HELLO leaves behind

The endpoint expected for a peer is refreshed before the signature is verified, and
the attempt is started before the handler looks for room among the sessions.
-/

namespace UdpTransport

/-- Only the datagrams sent and the serial number of the next attempt differ. -/
def Unchanged (before after : UdpTransport) : Prop :=
  after = { before with sent := after.sent, nextAttempt := after.nextAttempt }

section Conditions

variable (settings : Settings) (now : Time) (transport : UdpTransport) (hello : Hello) (route : Route)

/-- The checks that come before every update. -/
def TurnedAway : Prop :=
  (hello.peerId ≠ settings.crypto.fingerprint hello.signingPublicKey ∨ validateCapabilities hello.capabilities = none ∨
    hello.signingPublicKey.length ≠ 32 ∨ hello.encryptionPublicKey.length ≠ 32 ∨
      hello.sessionPublicKey.length ≠ 32 ∨ hello.nonce.length ≠ 32 ∨ hello.signature.length ≠ 64) ∨
    transport.introduced hello.peerId = true ∧
      (!(transport.matchesDirect hello.peerId route || transport.matchesRelay hello.peerId route)) = true

/-- The endpoint expected for the peer becomes another one, or is given a later time. -/
def Refreshes : Prop :=
  (!route.2 && transport.matchesDirect hello.peerId route) = true ∧
    transport.expectedEndpoints.get? hello.peerId ≠ some (route.1, now)

/-- The checks that follow the refresh, up to the signature. -/
def Unproven : Prop :=
  (transport.recoversDirectRoute hello.peerId route = true ∧
    capDirectRouteRecovery ∉ intersectCapabilities settings.capabilities hello.capabilities) ∨
  (!settings.crypto.verify hello.signingPublicKey hello.signature (settings.crypto.canonical hello)) = true

def Repeats : Prop := ∃ session ∈ transport.currentFor hello route, sameHandshake hello session = true

/-- The peer's attempt on the route. -/
def attemptOn : Option Attempt :=
  (transport.attempts.get? hello.peerId).filter fun attempt => (attempt.endpoint, attempt.viaRelay) = route

def Crowded : Prop :=
  (!transport.attempts.contains hello.peerId) = true ∧ transport.attempts.size ≥ maxAttempts

/-- Nothing can be sent on a relayed route. -/
def Unsendable : Prop := route.2 = true ∧ (!transport.derpSender || !transport.derpPeers.contains route.1) = true

/-- The attempt whose key the session is derived with. -/
def usedAttempt : Attempt :=
  (transport.attemptOn hello route).getD (newAttempt settings now transport.nextAttempt hello.peerId route)

/-- The id of the session that the two keys agree on, if they agree on one. -/
def agreedId : Option SessionId :=
  (settings.crypto.exchange (transport.usedAttempt settings now hello route).privateKey hello.sessionPublicKey).map fun shared =>
    sessionIdOf settings (settings.crypto.derive shared
      (sessionSalt settings hello (transport.usedAttempt settings now hello route)))

/-- A new session would have the id. -/
def Builds (sessionId : SessionId) : Prop := ∀ session ∈ transport.currentFor hello route, session.sessionId ≠ sessionId

/-- An authentic HELLO for which no session can be made. -/
def Unbuilt : Prop :=
  transport.agreedId settings now hello route = none ∨
    ∃ sessionId ∈ transport.agreedId settings now hello route, transport.Builds hello route sessionId ∧
      (transport.sessionsById.size ≥ maxSessions ∨ normalizeDisplayName hello.displayName = none)

/-- An unconfirmed session has made way before the display name is looked at. -/
def Displaces : Prop :=
  (∃ sessionId ∈ transport.agreedId settings now hello route, transport.Builds hello route sessionId) ∧
    transport.sessionsById.size < maxSessions ∧
    ∃ session ∈ transport.currentFor hello route, transport.confirmed session = false

/-- A HELLO that is rejected, if at all, where nothing has been changed yet. -/
def RejectedClean : Prop :=
  transport.TurnedAway settings hello route ∨
    (transport.Unproven settings hello route → ¬ transport.Refreshes now hello route) ∧
    (¬ transport.Unproven settings hello route → ¬ transport.Repeats hello route →
      (transport.attemptOn hello route = none → ¬ (route.2 = true ∧ (!transport.derpSender) = true) →
        transport.Crowded hello → ¬ transport.Refreshes now hello route) ∧
      (¬ transport.Unsendable route → transport.Unbuilt settings now hello route →
        (transport.attemptOn hello route = none → transport.Crowded hello) ∧
        (transport.attemptOn hello route ≠ none → ¬ transport.Refreshes now hello route ∧
          ¬ transport.Displaces settings now hello route)))

end Conditions

/-! ## The handler step by step -/

variable {settings : Settings} {now : Time} {transport before after : UdpTransport} {hello : Hello} {route : Route}

/-- The rejections are the `ValueError`s; a relay that is gone is a `ConnectionError`. -/
def NeverRejects (handler : Handling α) : Prop := ∀ state text, (handler state).1 ≠ .error (.value text)

namespace NeverRejects

theorem pure {value : α} : NeverRejects (Pure.pure value : Handling α) := by
  intro state text rejected
  cases rejected

theorem change {update : UdpTransport → UdpTransport} : NeverRejects (Handler.change update : Handling PUnit) := by
  intro state text rejected
  cases rejected

theorem bind {first : Handling α} {next : α → Handling β} (leading : NeverRejects first)
    (following : ∀ value, NeverRejects (next value)) : NeverRejects (first >>= next) := by
  intro state text rejected
  have led := leading state text
  rw [bind_apply] at rejected
  rcases ran : first state with ⟨outcome, middle⟩
  rw [ran] at rejected led
  cases outcome with
  | ok value => exact following value middle text rejected
  | error failure => exact led (congrArg Except.error (Except.error.inj rejected))

theorem read {next : UdpTransport → Handling α} (following : ∀ seen, NeverRejects (next seen)) :
    NeverRejects (Handler.read >>= next) :=
  fun state text rejected => following state state text rejected

theorem sendRoute {datagram : Datagram} : NeverRejects (sendRoute datagram route) := by
  refine read fun seen => bind ?_ fun _ => change
  intro state text rejected
  unfold refuse at rejected
  split at rejected <;> cases rejected

theorem answerRepeat {current : Session} : NeverRejects (answerRepeat settings current route) := by
  refine read fun seen => ?_
  dsimp only
  split
  · exact sendRoute
  · split
    · exact pure
    · exact bind change fun _ => bind sendRoute fun _ => sendRoute

end NeverRejects

/-- The expected endpoints after the refresh. -/
def refreshedEndpoints (now : Time) (transport : UdpTransport) (hello : Hello) (route : Route) :
    Dict PeerId (Endpoint × Time) :=
  if !route.2 && transport.matchesDirect hello.peerId route then transport.expectedEndpoints.set hello.peerId (route.1, now)
  else transport.expectedEndpoints

def refreshed (now : Time) (transport : UdpTransport) (hello : Hello) (route : Route) : UdpTransport :=
  { transport with expectedEndpoints := transport.refreshedEndpoints now hello route }

theorem refreshedEndpoints_same (calm : ¬ transport.Refreshes now hello route) :
    transport.refreshedEndpoints now hello route = transport.expectedEndpoints := by
  unfold refreshedEndpoints
  split
  · rename_i matched
    by_cases held : transport.expectedEndpoints.get? hello.peerId = some (route.1, now)
    · exact Dict.set_of_get? held
    · exact absurd ⟨matched, held⟩ calm
  · rfl

theorem refreshedEndpoints_other (refreshes : transport.Refreshes now hello route) :
    transport.refreshedEndpoints now hello route ≠ transport.expectedEndpoints := by
  intro same
  refine refreshes.2 ?_
  rw [← same, refreshedEndpoints, if_pos refreshes.1, Dict.get?_set, if_pos rfl]

/-- The three outcomes of the checks up to the signature. -/
theorem authenticateHello_turnedAway (away : transport.TurnedAway settings hello route) :
    ∃ text, authenticateHello settings now hello route transport = (.error (.value text), transport) := by
  by_cases mismatch : hello.peerId ≠ settings.crypto.fingerprint hello.signingPublicKey
  · exact ⟨_, by rw [authenticateHello, bind_apply, wellFormedHello, bind_refuse_of mismatch]⟩
  · by_cases invalid : validateCapabilities hello.capabilities = none
    · exact ⟨_, by rw [authenticateHello, bind_apply, wellFormedHello, bind_refuse_of_not mismatch, bind_refuse_of invalid]⟩
    · by_cases lengths : hello.signingPublicKey.length ≠ 32 ∨ hello.encryptionPublicKey.length ≠ 32 ∨
          hello.sessionPublicKey.length ≠ 32 ∨ hello.nonce.length ≠ 32 ∨ hello.signature.length ≠ 64
      · exact ⟨_, by
          rw [authenticateHello, bind_apply, wellFormedHello, bind_refuse_of_not mismatch, bind_refuse_of_not invalid,
            refuse_of lengths]⟩
      · rcases away with malformed | elsewhere
        · rcases malformed with other | none | wrong
          · exact absurd other mismatch
          · exact absurd none invalid
          · exact absurd wrong lengths
        · exact ⟨_, by
            rw [authenticateHello, bind_apply, wellFormedHello, bind_refuse_of_not mismatch, bind_refuse_of_not invalid,
              refuse_of_not lengths]
            dsimp only
            rw [read_bind, bind_refuse_of elsewhere]⟩

/-- Past the checks of the HELLO itself the expected endpoint is refreshed. -/
theorem authenticateHello_refreshes (stays : ¬ transport.TurnedAway settings hello route) :
    authenticateHello settings now hello route transport = ((do
      refuse (transport.recoversDirectRoute hello.peerId route ∧
          capDirectRouteRecovery ∉ intersectCapabilities settings.capabilities hello.capabilities)
        (.value "Direct route recovery is not jointly supported")
      refuse (!settings.crypto.verify hello.signingPublicKey hello.signature (settings.crypto.canonical hello))
        (.value "Invalid UDP handshake signature")) : Handling PUnit) (transport.refreshed now hello route) := by
  rw [TurnedAway, not_or, not_or, not_or] at stays
  obtain ⟨⟨mismatch, invalid, lengths⟩, elsewhere⟩ := stays
  have updated : (if !route.2 && transport.matchesDirect hello.peerId route then
      { transport with expectedEndpoints := transport.expectedEndpoints.set hello.peerId (route.1, now) }
    else transport) = transport.refreshed now hello route := by
    unfold refreshed refreshedEndpoints
    split <;> rfl
  rw [authenticateHello, bind_apply, wellFormedHello, bind_refuse_of_not mismatch, bind_refuse_of_not invalid,
    refuse_of_not lengths]
  dsimp only
  rw [read_bind, bind_refuse_of_not elsewhere, change_bind, updated]

theorem authenticateHello_unproven (stays : ¬ transport.TurnedAway settings hello route)
    (unproven : transport.Unproven settings hello route) : ∃ text,
    authenticateHello settings now hello route transport = (.error (.value text), transport.refreshed now hello route) := by
  rw [authenticateHello_refreshes stays]
  by_cases alone : transport.recoversDirectRoute hello.peerId route = true ∧
      capDirectRouteRecovery ∉ intersectCapabilities settings.capabilities hello.capabilities
  · exact ⟨_, bind_refuse_of alone⟩
  · exact ⟨_, by rw [bind_refuse_of_not alone, refuse_of (unproven.resolve_left alone)]⟩

theorem authenticateHello_proven (stays : ¬ transport.TurnedAway settings hello route)
    (proven : ¬ transport.Unproven settings hello route) :
    authenticateHello settings now hello route transport = (.ok ⟨⟩, transport.refreshed now hello route) := by
  rw [Unproven, not_or] at proven
  rw [authenticateHello_refreshes stays, bind_refuse_of_not proven.1, refuse_of_not proven.2]

/-- The end of the handler, from the attempt on. -/
def settle (settings : Settings) (now : Time) (hello : Hello) (route : Route) (current : Option Session) (attempt : Attempt) :
    Handling PUnit := do
  sendHello attempt.hello route
  let shared ← orRaise (settings.crypto.exchange attempt.privateKey hello.sessionPublicKey)
    (.value "Error computing shared key.")
  let material := settings.crypto.derive shared (sessionSalt settings hello attempt)
  match current.filter (·.sessionId = sessionIdOf settings material) with
  | some known => sendAuthenticated settings known .ready 0
  | none =>
      installSession settings now { hello, route, current, attempt, material, sessionId := sessionIdOf settings material }

theorem deriveSession_settles {current : Option Session} : (do
    match ← deriveSession settings now hello route current with
    | none => pure ⟨⟩
    | some opening => installSession settings now opening) =
      attemptFor settings now hello route >>= settle settings now hello route current := by
  unfold deriveSession
  rw [bind_assoc]
  refine congrArg (attemptFor settings now hello route >>= ·) (funext fun attempt => ?_)
  unfold settle
  rw [bind_assoc]
  refine congrArg (sendHello attempt.hello route >>= ·) (funext fun _ => ?_)
  rw [bind_assoc]
  refine congrArg (orRaise _ _ >>= ·) (funext fun shared => ?_)
  dsimp only
  cases current.filter (·.sessionId = sessionIdOf settings (settings.crypto.derive shared (sessionSalt settings hello attempt))) with
  | none => rfl
  | some known =>
      dsimp only
      rw [bind_assoc]
      funext state
      rw [bind_apply]
      rcases sendAuthenticated settings known .ready 0 state with ⟨outcome, middle⟩
      cases outcome <;> rfl

theorem handleHello_settles (stays : ¬ transport.TurnedAway settings hello route)
    (proven : ¬ transport.Unproven settings hello route) (fresh : ¬ transport.Repeats hello route) :
    handleHello settings now hello route transport =
      (attemptFor settings now hello route >>= settle settings now hello route (transport.currentFor hello route))
        (transport.refreshed now hello route) := by
  have other : (transport.currentFor hello route).filter (sameHandshake hello) = none := by
    rw [Option.filter_eq_none_iff]
    exact fun session found same => fresh ⟨session, found, same⟩
  have same : (transport.refreshed now hello route).currentFor hello route = transport.currentFor hello route := rfl
  rw [handleHello, bind_apply, admitHello, bind_apply, authenticateHello_proven stays proven]
  dsimp only
  rw [read_bind, same, other, ← deriveSession_settles]
  rfl

/-! ## The attempt -/

/-- The peer has no attempt on the route, and one can be made. -/
def NeedsAttempt (transport : UdpTransport) (hello : Hello) (route : Route) : Prop :=
  transport.attemptOn hello route = none ∧ ¬ (route.2 = true ∧ (!transport.derpSender) = true)

/-- What an attempt that is found or started leaves of the state. -/
structure Prepared (settings : Settings) (now : Time) (transport : UdpTransport) (hello : Hello) (route : Route)
    (attempt : Attempt) (next : UdpTransport) : Prop where
  tables : next.toSessionTables = transport.toSessionTables
  sender : next.derpSender = transport.derpSender
  peers : next.derpPeers = transport.derpPeers
  key : attempt.privateKey = (transport.usedAttempt settings now hello route).privateKey
  nonce : attempt.nonce = (transport.usedAttempt settings now hello route).nonce

theorem attemptFor_found {attempt : Attempt} (found : transport.attemptOn hello route = some attempt) :
    attemptFor settings now hello route (transport.refreshed now hello route) =
      (.ok attempt, transport.refreshed now hello route) ∧
    Prepared settings now transport hello route attempt (transport.refreshed now hello route) := by
  obtain ⟨held, onRoute⟩ := Option.filter_eq_some_iff.mp found
  have looked : (transport.refreshed now hello route).attempts.get? hello.peerId = some attempt := held
  refine ⟨?_, rfl, rfl, rfl, ?_, ?_⟩
  · rw [attemptFor, read_bind, looked]
    dsimp only
    rw [if_pos (of_decide_eq_true onRoute)]
    rfl
  · rw [usedAttempt, found]
    rfl
  · rw [usedAttempt, found]
    rfl

theorem attemptFor_starts (missing : transport.attemptOn hello route = none) :
    attemptFor settings now hello route (transport.refreshed now hello route) =
      startAttempt settings now hello.peerId route (transport.refreshed now hello route) := by
  rw [attemptFor, read_bind]
  cases held : (transport.refreshed now hello route).attempts.get? hello.peerId with
  | none => rfl
  | some attempt =>
      dsimp only
      have away : ¬ (attempt.endpoint, attempt.viaRelay) = route := by
        intro onRoute
        have found : transport.attemptOn hello route = some attempt :=
          Option.filter_eq_some_iff.mpr ⟨held, decide_eq_true onRoute⟩
        rw [missing] at found
        cases found
      rw [if_neg away]

theorem startAttempt_crowded (starts : transport.NeedsAttempt hello route) (crowded : transport.Crowded hello) :
    ∃ text, attemptFor settings now hello route (transport.refreshed now hello route) =
      (.error (.value text), transport.refreshed now hello route) := by
  rw [attemptFor_starts starts.1, startAttempt, read_bind]
  dsimp only
  have able : ¬ (route.2 = true ∧ (!(transport.refreshed now hello route).derpSender) = true) := starts.2
  rw [if_neg able]
  exact ⟨_, bind_refuse_of crowded⟩

/-- Without a relay nothing is started, and nothing can be sent either. -/
theorem startAttempt_idle (missing : transport.attemptOn hello route = none)
    (idle : route.2 = true ∧ (!transport.derpSender) = true) :
    ∃ attempt next, attemptFor settings now hello route (transport.refreshed now hello route) = (.ok attempt, next) ∧
      next.derpSender = transport.derpSender ∧ next.derpPeers = transport.derpPeers := by
  rw [attemptFor_starts missing, startAttempt, read_bind]
  dsimp only
  have unable : route.2 = true ∧ (!(transport.refreshed now hello route).derpSender) = true := idle
  rw [if_pos unable]
  exact ⟨_, _, rfl, rfl, rfl⟩

theorem popAttempt_relay {peerId : PeerId} : (transport.popAttempt peerId).derpSender = transport.derpSender ∧
    (transport.popAttempt peerId).derpPeers = transport.derpPeers := by
  unfold popAttempt
  split <;> exact ⟨rfl, rfl⟩

def startedAttempt (settings : Settings) (now : Time) (transport : UdpTransport) (hello : Hello) (route : Route) : Attempt :=
  { newAttempt settings now transport.nextAttempt hello.peerId route with
    hello := some (makeHello settings (newAttempt settings now transport.nextAttempt hello.peerId route)) }

theorem startAttempt_started (starts : transport.NeedsAttempt hello route) (room : ¬ transport.Crowded hello) :
    ∃ attempt next, attemptFor settings now hello route (transport.refreshed now hello route) = (.ok attempt, next) ∧
      Prepared settings now transport hello route attempt next ∧ next.attempts ≠ transport.attempts := by
  have able : ¬ (route.2 = true ∧ (!(transport.refreshed now hello route).derpSender) = true) := starts.2
  have spare : ¬ ((!(transport.refreshed now hello route).attempts.contains hello.peerId) = true ∧
      (transport.refreshed now hello route).attempts.size ≥ maxAttempts) := room
  rw [attemptFor_starts starts.1, startAttempt, read_bind]
  dsimp only
  rw [if_neg able, bind_refuse_of_not spare]
  refine ⟨_, _, rfl, ⟨popAttempt_tables, popAttempt_relay.1, popAttempt_relay.2, ?_, ?_⟩, fun same => ?_⟩
  · rw [usedAttempt, starts.1]
    rfl
  · rw [usedAttempt, starts.1]
    rfl
  · have assigned : transport.attempts.set hello.peerId (startedAttempt settings now transport hello route) =
        transport.attempts := same
    have found : transport.attempts.get? hello.peerId = some (startedAttempt settings now transport hello route) := by
      rw [← assigned, Dict.get?_set, if_pos rfl]
    have missing := starts.1
    rw [attemptOn, Option.filter_eq_none_iff] at missing
    exact missing _ found (decide_eq_true rfl)

/-! ## The session -/

variable {current : Option Session} {attempt : Attempt} {state : UdpTransport}

theorem sendHello_unsendable {opening : Option Hello} (unsendable : state.Unsendable route) :
    ∃ text, sendHello opening route state = (.error (.connection text), state) :=
  ⟨_, by
    rw [Unsendable] at unsendable
    rw [sendHello, sendRoute, read_bind, bind_refuse_of unsendable]⟩

theorem sendHello_sent {opening : Option Hello} (sendable : ¬ state.Unsendable route) :
    sendHello opening route state = (.ok ⟨⟩, { state with sent := state.sent ++ [(opening.elim .empty .hello, route)] }) := by
  rw [Unsendable] at sendable
  rw [sendHello, sendRoute, read_bind, bind_refuse_of_not sendable]
  rfl

theorem settle_unsendable (unsendable : state.Unsendable route) (text : String) :
    (settle settings now hello route current attempt state).1 ≠ .error (.value text) := by
  obtain ⟨shown, raised⟩ := @sendHello_unsendable route state attempt.hello unsendable
  rw [settle, bind_apply, raised]
  intro rejected
  cases rejected

/-- The state once the own HELLO has been sent. -/
def answered (state : UdpTransport) (attempt : Attempt) (route : Route) : UdpTransport :=
  { state with sent := state.sent ++ [(attempt.hello.elim .empty .hello, route)] }

theorem settle_answers (sendable : ¬ state.Unsendable route) :
    settle settings now hello route current attempt state = ((do
      let shared ← orRaise (settings.crypto.exchange attempt.privateKey hello.sessionPublicKey)
        (.value "Error computing shared key.")
      let material := settings.crypto.derive shared (sessionSalt settings hello attempt)
      match current.filter (·.sessionId = sessionIdOf settings material) with
      | some known => sendAuthenticated settings known .ready 0
      | none =>
          installSession settings now { hello, route, current, attempt, material, sessionId := sessionIdOf settings material } :
        Handling PUnit) (state.answered attempt route)) := by
  rw [settle, bind_apply, sendHello_sent sendable]
  rfl

/-- A session that can be made is not rejected, and one that cannot leaves at most the
unconfirmed session removed. -/
theorem installSession_outcome {opening : Opening} :
    (state.sessionsById.size ≥ maxSessions ∧ ∃ text, installSession settings now opening state = (.error (.value text), state)) ∨
    (state.sessionsById.size < maxSessions ∧ normalizeDisplayName opening.hello.displayName = none ∧
      ∃ text, installSession settings now opening state = (.error (.value text), state.dropUnconfirmed opening.current)) ∨
    (state.sessionsById.size < maxSessions ∧ normalizeDisplayName opening.hello.displayName ≠ none ∧
      ∀ text, (installSession settings now opening state).1 ≠ .error (.value text)) := by
  rw [installSession, read_bind]
  by_cases full : state.sessionsById.size ≥ maxSessions
  · exact .inl ⟨full, _, bind_refuse_of full⟩
  · rw [bind_refuse_of_not full, change_bind]
    cases named : normalizeDisplayName opening.hello.displayName with
    | none => exact .inr (.inl ⟨Nat.not_le.mp full, rfl, _, rfl⟩)
    | some displayName =>
        refine .inr (.inr ⟨Nat.not_le.mp full, Option.some_ne_none _, fun text => ?_⟩)
        have adds : NeverRejects (do
            Handler.change fun transport =>
              transport.addSession (newSession settings now state.nextSession opening displayName)
            sendAuthenticated settings (newSession settings now state.nextSession opening displayName) .ready 0) :=
          .bind .change fun _ => .sendRoute
        exact adds _ text

/-- How the handler ends once it has an attempt. -/
theorem settle_outcome (prepared : Prepared settings now transport hello route attempt state)
    (sendable : ¬ transport.Unsendable route) :
    (¬ transport.Unbuilt settings now hello route ∧
      ∀ text, (settle settings now hello route (transport.currentFor hello route) attempt state).1 ≠ .error (.value text)) ∨
    (transport.Unbuilt settings now hello route ∧ ¬ transport.Displaces settings now hello route ∧ ∃ text,
      settle settings now hello route (transport.currentFor hello route) attempt state =
        (.error (.value text), state.answered attempt route)) ∨
    (transport.Unbuilt settings now hello route ∧
      (transport.Displaces settings now hello route ↔
        ∃ session ∈ transport.currentFor hello route, transport.confirmed session = false) ∧ ∃ text,
      settle settings now hello route (transport.currentFor hello route) attempt state =
        (.error (.value text), (state.answered attempt route).dropUnconfirmed (transport.currentFor hello route))) := by
  have ready : ¬ state.Unsendable route := by
    rwa [Unsendable, prepared.sender, prepared.peers]
  have agreed : transport.agreedId settings now hello route =
      (settings.crypto.exchange attempt.privateKey hello.sessionPublicKey).map fun shared =>
        sessionIdOf settings (settings.crypto.derive shared (sessionSalt settings hello attempt)) := by
    rw [agreedId, prepared.key, sessionSalt, sessionSalt, prepared.nonce]
  have size : (state.answered attempt route).sessionsById = transport.sessionsById :=
    congrArg (fun tables => tables.sessionsById) prepared.tables
  rw [settle_answers ready]
  cases exchanged : settings.crypto.exchange attempt.privateKey hello.sessionPublicKey with
  | none =>
      have nothing : transport.agreedId settings now hello route = none := by
        rw [agreed, exchanged]
        rfl
      refine .inr (.inl ⟨.inl nothing, ?_, _, rfl⟩)
      rintro ⟨⟨sessionId, found, -⟩, -⟩
      rw [nothing] at found
      cases found
  | some shared =>
      rw [exchanged] at agreed
      dsimp only [Option.map_some] at agreed
      rw [bind_apply]
      dsimp only [orRaise, pure_apply]
      generalize settings.crypto.derive shared (sessionSalt settings hello attempt) = material at agreed ⊢
      have only : ∀ sessionId ∈ transport.agreedId settings now hello route, sessionId = sessionIdOf settings material := by
        intro sessionId found
        rw [agreed] at found
        exact (Option.some.inj found).symm
      by_cases builds : transport.Builds hello route (sessionIdOf settings material)
      · have new : (transport.currentFor hello route).filter (·.sessionId = sessionIdOf settings material) = none := by
          rw [Option.filter_eq_none_iff]
          exact fun session found same => builds session found (of_decide_eq_true same)
        rw [new]
        dsimp only
        have outcome := @installSession_outcome settings now (state.answered attempt route)
          ⟨hello, route, transport.currentFor hello route, attempt, material, sessionIdOf settings material⟩
        rw [size] at outcome
        rcases outcome with ⟨full, rejected⟩ | ⟨room, unnamed, rejected⟩ | ⟨room, named, accepted⟩
        · refine .inr (.inl ⟨.inr ⟨_, agreed, builds, .inl full⟩, fun displaces => ?_, rejected⟩)
          exact absurd displaces.2.1 (Nat.not_lt.mpr full)
        · exact .inr (.inr ⟨.inr ⟨_, agreed, builds, .inr unnamed⟩,
            ⟨fun displaces => displaces.2.2, fun unconfirmed => ⟨⟨_, agreed, builds⟩, room, unconfirmed⟩⟩, rejected⟩)
        · refine .inl ⟨?_, accepted⟩
          rintro (nothing | ⟨sessionId, found, -, full | unnamed⟩)
          · rw [nothing] at agreed
            cases agreed
          · exact absurd room (Nat.not_lt.mpr full)
          · exact named unnamed
      · refine .inl ⟨?_, ?_⟩
        · rintro (nothing | ⟨sessionId, found, fits, -⟩)
          · rw [nothing] at agreed
            cases agreed
          · exact builds (only sessionId found ▸ fits)
        · intro text
          cases known : (transport.currentFor hello route).filter (·.sessionId = sessionIdOf settings material) with
          | none =>
              rw [Option.filter_eq_none_iff] at known
              exact absurd (fun session found same => known session found (decide_eq_true same)) builds
          | some session => exact NeverRejects.sendRoute _ text

/-! ## What has changed -/

theorem Unchanged.expectedEndpoints (unchanged : Unchanged before after) : after.expectedEndpoints = before.expectedEndpoints :=
  congrArg (fun transport => transport.expectedEndpoints) unchanged

theorem Unchanged.attempts (unchanged : Unchanged before after) : after.attempts = before.attempts :=
  congrArg (fun transport => transport.attempts) unchanged

theorem Unchanged.tables (unchanged : Unchanged before after) : after.toSessionTables = before.toSessionTables :=
  congrArg (fun transport => transport.toSessionTables) unchanged

/-- The session a HELLO is compared with is held on its route. -/
theorem currentFor_held {session : Session} (filed : transport.Filed) (found : session ∈ transport.currentFor hello route) :
    transport.HeldActive session ∨ transport.HeldPending session ∨ transport.HeldRetiring session := by
  unfold currentFor at found
  split at found
  · rename_i pending held
    split at found
    · cases found
      obtain ⟨own, onRoute⟩ := filed.pending_key held
      refine .inr (.inl ?_)
      rw [SessionTables.HeldPending, own, onRoute]
      exact held
    · exact (filed.sessionForRoute_held found).1
  · exact (filed.sessionForRoute_held found).1

/-- Removing a session that is held changes the maps. -/
theorem remove_changes {tables : SessionTables} {session : Session} (held : tables.HeldActive session ∨
    tables.HeldPending session ∨ tables.HeldRetiring session) : tables.remove session ≠ tables := by
  intro same
  rcases held with active | pending | ⟨expiresAt, retiring⟩
  · have removed := @SessionTables.remove_sessions tables session session.peerId
    rw [same, if_pos ⟨rfl, active⟩, active] at removed
    cases removed
  · have removed := @SessionTables.remove_pendingOf tables session session.peerId session.route
    rw [same, if_pos ⟨rfl, rfl, pending⟩, pending] at removed
    cases removed
  · have removed : (tables.remove session).retiringSessions.get? session.sessionId = none := by
      rw [SessionTables.remove_retiringSessions, Dict.get?_erase, if_pos rfl]
    rw [same, retiring] at removed
    cases removed

theorem answered_unchanged : Unchanged before (state.answered attempt route) ↔ Unchanged before state := by
  constructor
  · intro same
    have undone : state = { state.answered attempt route with sent := state.sent } := rfl
    rw [Unchanged] at same ⊢
    rw [undone, same]
  · intro same
    rw [Unchanged] at same ⊢
    rw [answered, same]

theorem refreshed_unchanged (calm : ¬ transport.Refreshes now hello route) :
    Unchanged transport (transport.refreshed now hello route) := by
  rw [Unchanged, refreshed, refreshedEndpoints_same calm]

theorem refreshed_changed (refreshes : transport.Refreshes now hello route)
    (same : after.expectedEndpoints = (transport.refreshed now hello route).expectedEndpoints) :
    ¬ Unchanged transport after := fun unchanged =>
  refreshedEndpoints_other refreshes (same.symm.trans unchanged.expectedEndpoints)

/-- An unconfirmed session that a HELLO was compared with is gone. -/
theorem dropUnconfirmed_changed {session : Session} (filed : transport.Filed) (found : session ∈ transport.currentFor hello route)
    (unconfirmed : transport.confirmed session = false) (tables : state.toSessionTables = transport.toSessionTables) :
    ¬ Unchanged transport (state.dropUnconfirmed (transport.currentFor hello route)) := by
  intro unchanged
  have same := unchanged.tables
  rw [Option.mem_def.mp found, dropUnconfirmed, tables, unconfirmed, if_neg Bool.false_ne_true, removeSession_tables, tables] at same
  exact remove_changes (currentFor_held filed found) same

/-- Without one nothing is removed. -/
theorem dropUnconfirmed_unchanged (confirmed : ¬ ∃ session ∈ transport.currentFor hello route, transport.confirmed session = false)
    (tables : state.toSessionTables = transport.toSessionTables) :
    state.dropUnconfirmed (transport.currentFor hello route) = state := by
  unfold dropUnconfirmed
  cases found : transport.currentFor hello route with
  | none => rfl
  | some session =>
      have holds : transport.confirmed session = true := by
        by_contra other
        exact confirmed ⟨session, found, Bool.not_eq_true _ ▸ other⟩
      dsimp only
      rw [tables, if_pos holds]

/-- When the handler, once it has an attempt, rejects nothing or changes nothing more. -/
theorem settles_iff (filed : transport.Filed) (prepared : Prepared settings now transport hello route attempt state) :
    (∀ text final, settle settings now hello route (transport.currentFor hello route) attempt state = (.error (.value text), final) →
      Unchanged transport final) ↔
    (¬ transport.Unsendable route → transport.Unbuilt settings now hello route →
      Unchanged transport state ∧ ¬ transport.Displaces settings now hello route) := by
  by_cases unsendable : transport.Unsendable route
  · have blocked : state.Unsendable route := by rwa [Unsendable, prepared.sender, prepared.peers]
    refine ⟨fun _ sendable => absurd unsendable sendable, fun _ text final rejected => ?_⟩
    exact absurd (congrArg Prod.fst rejected) (settle_unsendable blocked text)
  · have tables : (state.answered attempt route).toSessionTables = transport.toSessionTables := prepared.tables
    rcases settle_outcome prepared unsendable with ⟨built, accepts⟩ | ⟨unbuilt, kept, text, rejects⟩ | ⟨unbuilt, displaces, text, rejects⟩
    · refine ⟨fun _ _ unbuilt => absurd unbuilt built, fun _ text final rejected => ?_⟩
      exact absurd (congrArg Prod.fst rejected) (accepts text)
    · constructor
      · exact fun spared _ _ => ⟨answered_unchanged.mp (spared text _ rejects), kept⟩
      · rintro spared other final rejected
        rw [rejects] at rejected
        cases rejected
        exact answered_unchanged.mpr (spared unsendable unbuilt).1
    · by_cases unconfirmed : ∃ session ∈ transport.currentFor hello route, transport.confirmed session = false
      · constructor
        · intro spared
          obtain ⟨session, found, waits⟩ := unconfirmed
          exact absurd (spared text _ rejects) (dropUnconfirmed_changed filed found waits tables)
        · exact fun spared => absurd (displaces.mpr unconfirmed) (spared unsendable unbuilt).2
      · rw [dropUnconfirmed_unchanged unconfirmed tables] at rejects
        constructor
        · exact fun spared _ _ => ⟨answered_unchanged.mp (spared text _ rejects), fun other => unconfirmed (displaces.mp other)⟩
        · rintro spared other final rejected
          rw [rejects] at rejected
          cases rejected
          exact answered_unchanged.mpr (spared unsendable unbuilt).1

/-- A repeat is answered or ignored, never rejected. -/
theorem handleHello_repeats (stays : ¬ transport.TurnedAway settings hello route) (proven : ¬ transport.Unproven settings hello route)
    (repeats : transport.Repeats hello route) (text : String) :
    (handleHello settings now hello route transport).1 ≠ .error (.value text) := by
  obtain ⟨session, found, same⟩ := repeats
  have known : (transport.currentFor hello route).filter (sameHandshake hello) = some session :=
    Option.filter_eq_some_iff.mpr ⟨found, same⟩
  have current : (transport.refreshed now hello route).currentFor hello route = transport.currentFor hello route := rfl
  have answers : NeverRejects (do
      let answered ← (do
        answerRepeat settings session route
        return none : Handling (Option Opening))
      match answered with
      | none => Pure.pure ⟨⟩
      | some opening => installSession settings now opening) := by
    rw [bind_assoc]
    exact .bind .answerRepeat fun _ => .pure
  have reached : handleHello settings now hello route transport = (do
      let answered ← (do
        answerRepeat settings session route
        return none : Handling (Option Opening))
      match answered with
      | none => Pure.pure ⟨⟩
      | some opening => installSession settings now opening : Handling PUnit) (transport.refreshed now hello route) := by
    rw [handleHello, bind_apply, admitHello, bind_apply, authenticateHello_proven stays proven]
    dsimp only
    rw [read_bind, current, known]
    rfl
  rw [reached]
  exact answers _ text

/-- A rejected HELLO leaves the state as it was exactly when it is rejected clean. -/
theorem handleHello_rejects_iff (filed : transport.Filed) :
    (∀ text final, handleHello settings now hello route transport = (.error (.value text), final) → Unchanged transport final) ↔
      transport.RejectedClean settings now hello route := by
  by_cases away : transport.TurnedAway settings hello route
  · obtain ⟨shown, rejects⟩ := @authenticateHello_turnedAway settings now transport hello route away
    refine ⟨fun _ => .inl away, fun _ text final rejected => ?_⟩
    rw [handleHello, bind_apply, admitHello, bind_apply, rejects] at rejected
    cases rejected
    rfl
  · by_cases unproven : transport.Unproven settings hello route
    · obtain ⟨shown, rejects⟩ := @authenticateHello_unproven settings now transport hello route away unproven
      have rejected : handleHello settings now hello route transport = (.error (.value shown), transport.refreshed now hello route) := by
        rw [handleHello, bind_apply, admitHello, bind_apply, rejects]
      constructor
      · refine fun spared => .inr ⟨fun _ refreshes => ?_, fun proven => absurd unproven proven⟩
        exact refreshed_changed refreshes rfl (spared shown _ rejected)
      · rintro (other | ⟨calm, -⟩) text final ran
        · exact absurd other away
        · rw [rejected] at ran
          cases ran
          exact refreshed_unchanged (calm unproven)
    · by_cases repeats : transport.Repeats hello route
      · refine ⟨fun _ => .inr ⟨fun other => absurd other unproven, fun _ fresh => absurd repeats fresh⟩, fun _ text final rejected => ?_⟩
        exact absurd (congrArg Prod.fst rejected) (handleHello_repeats away unproven repeats text)
      · have settles := @handleHello_settles settings now transport hello route away unproven repeats
        have clean : transport.RejectedClean settings now hello route ↔
            (transport.attemptOn hello route = none → ¬ (route.2 = true ∧ (!transport.derpSender) = true) →
              transport.Crowded hello → ¬ transport.Refreshes now hello route) ∧
            (¬ transport.Unsendable route → transport.Unbuilt settings now hello route →
              (transport.attemptOn hello route = none → transport.Crowded hello) ∧
              (transport.attemptOn hello route ≠ none → ¬ transport.Refreshes now hello route ∧
                ¬ transport.Displaces settings now hello route)) := by
          refine ⟨fun clean => (clean.resolve_left away).2 unproven repeats, fun spared => .inr ⟨fun other => absurd other unproven, fun _ _ => spared⟩⟩
        rw [clean, settles, bind_apply]
        cases held : transport.attemptOn hello route with
        | some attempt =>
            obtain ⟨found, prepared⟩ := @attemptFor_found settings now transport hello route attempt held
            rw [found]
            dsimp only
            rw [settles_iff filed prepared]
            have calm : Unchanged transport (transport.refreshed now hello route) ↔ ¬ transport.Refreshes now hello route :=
              ⟨fun unchanged refreshes => refreshed_changed refreshes rfl unchanged, refreshed_unchanged⟩
            rw [calm]
            constructor
            · exact fun spared => ⟨fun none => (nomatch none), fun sendable unbuilt =>
                ⟨fun none => (nomatch none), fun _ => spared sendable unbuilt⟩⟩
            · exact fun spared sendable unbuilt => (spared.2 sendable unbuilt).2 (Option.some_ne_none _)
        | none =>
            by_cases idle : route.2 = true ∧ (!transport.derpSender) = true
            · obtain ⟨attempt, next, made, sender, peers⟩ := @startAttempt_idle settings now transport hello route held idle
              have unsendable : transport.Unsendable route := ⟨idle.1, by rw [idle.2]; rfl⟩
              have blocked : next.Unsendable route := by rwa [Unsendable, sender, peers]
              rw [made]
              dsimp only
              refine ⟨fun _ => ⟨fun _ other => absurd idle other, fun sendable => absurd unsendable sendable⟩, ?_⟩
              intro _ text final rejected
              exact absurd (congrArg Prod.fst rejected) (settle_unsendable blocked text)
            · by_cases crowded : transport.Crowded hello
              · obtain ⟨shown, refused⟩ := @startAttempt_crowded settings now transport hello route ⟨held, idle⟩ crowded
                rw [refused]
                dsimp only
                constructor
                · intro spared
                  have unchanged := spared shown _ rfl
                  have calm : ¬ transport.Refreshes now hello route := fun refreshes => refreshed_changed refreshes rfl unchanged
                  exact ⟨fun _ _ _ => calm, fun _ _ => ⟨fun _ => crowded, fun other => absurd rfl other⟩⟩
                · rintro spared text final rejected
                  cases rejected
                  exact refreshed_unchanged (spared.1 rfl idle crowded)
              · obtain ⟨attempt, next, started, prepared, attempts⟩ :=
                  @startAttempt_started settings now transport hello route ⟨held, idle⟩ crowded
                rw [started]
                dsimp only
                rw [settles_iff filed prepared]
                constructor
                · intro spared
                  refine ⟨fun _ _ other => absurd other crowded, fun sendable unbuilt => ?_⟩
                  exact absurd (spared sendable unbuilt).1.attempts attempts
                · intro spared sendable unbuilt
                  exact absurd ((spared.2 sendable unbuilt).1 rfl) crowded

/-! ## From the payload on -/

def maxHelloSize : Nat := 1000

/-- `_handle_hello` with its payload; the JSON library is a parameter.  A display name
that is missing or no text is read as an empty one, which fails at the same place. -/
def handleHelloPayload (settings : Settings) (now : Time) (parse : Bytes → Option Hello) (payload : Bytes) (route : Route) :
    Handling PUnit := do
  refuse (maxHelloSize < payload.length) (.value "Oversized UDP handshake")
  let hello ← orRaise (parse payload) (.value "Invalid UDP handshake")
  handleHello settings now hello route

/-- The call raises a `ValueError` only where it leaves the state as it was. -/
def SparesState (settings : Settings) (now : Time) (parse : Bytes → Option Hello) (transport : UdpTransport) (payload : Bytes)
    (route : Route) : Prop :=
  ∀ text final, handleHelloPayload settings now parse payload route transport = (.error (.value text), final) →
    Unchanged transport final

/-- In every state a rejected HELLO leaves the state as it was exactly when it is too
long, no HELLO at all, or rejected clean. -/
theorem rejected_hello_spares_state_iff (settings : Settings) (events : List (Time × TransportEvent)) (transport : UdpTransport)
    (reached : run (step settings) initial events = some transport) (now : Time) (parse : Bytes → Option Hello) (payload : Bytes)
    (route : Route) :
    SparesState settings now parse transport payload route ↔
      (payload.length ≤ maxHelloSize → ∀ hello ∈ parse payload, transport.RejectedClean settings now hello route) := by
  have tracked : Tracked False transport := reachable_invariant
    (fun _ _ _ tracked stepped => step_tracked tracked (fun impossible => impossible.elim) stepped) initial_tracked ⟨events, reached⟩
  unfold SparesState handleHelloPayload
  by_cases oversized : maxHelloSize < payload.length
  · refine ⟨fun _ fits => absurd oversized (Nat.not_lt.mpr fits), fun _ text final rejected => ?_⟩
    rw [bind_refuse_of oversized] at rejected
    cases rejected
    rfl
  · rw [bind_refuse_of_not oversized, bind_apply]
    cases parsed : parse payload with
    | none =>
        refine ⟨fun _ _ hello found => (nomatch found), fun _ text final rejected => ?_⟩
        cases rejected
        rfl
    | some hello =>
        have clean := @handleHello_rejects_iff settings now transport hello route tracked.filed
        exact ⟨fun spares _ other found => Option.some.inj found ▸ clean.mp spares,
          fun spares => clean.mpr (spares (Nat.not_lt.mp oversized) hello rfl)⟩

/-! ### A forged HELLO from the address of an introduced peer -/

def strictSettings : Settings :=
  { sampleSettings with crypto := { sampleCrypto with verify := fun _ signature _ => signature = List.replicate 64 0 } }

def introduction : List (Time × TransportEvent) := [(0, .expectPeer "b0" homeRoute.1)]

def otherPort : Route := (("192.0.2.1", 4001), false)

/-- The signature does not verify, but the endpoint expected for the peer has moved. -/
theorem forged_hello_changes_state :
    ¬ ∀ events transport, run (step strictSettings) initial events = some transport → ∀ now parse payload route,
      SparesState strictSettings now parse transport payload route := by
  intro spares
  have moved : ((run (step strictSettings) initial introduction).any fun transport =>
      match handleHelloPayload strictSettings 1 (fun _ => some sampleHello) [] otherPort transport with
      | (.error (.value _), final) => transport.expectedEndpoints.get? "b0" = some (homeRoute.1, 0) &&
          final.expectedEndpoints.get? "b0" = some (otherPort.1, 1)
      | _ => false) = true := by decide +kernel
  obtain ⟨transport, reached, changed⟩ := (Option.any_eq_true _ _).mp moved
  have spared := spares introduction transport reached 1 (fun _ => some sampleHello) [] otherPort
  rcases ran : handleHelloPayload strictSettings 1 (fun _ => some sampleHello) [] otherPort transport with ⟨outcome, final⟩
  rw [ran] at changed
  match outcome with
  | .error (.value text) =>
      have same := (spared text final ran).expectedEndpoints
      simp only [Bool.and_eq_true, decide_eq_true_eq] at changed
      rw [same, changed.1] at changed
      exact absurd changed.2 (by decide)
  | .error (.connection _) => cases changed
  | .ok _ => cases changed

/-- From an address that was not introduced the same forgery is rejected clean. -/
theorem forged_hello_from_elsewhere_spares_state : ∃ transport,
    run (step strictSettings) initial introduction = some transport ∧
      SparesState strictSettings 1 (fun _ => some sampleHello) transport [] cellRoute := by
  have away : ((run (step strictSettings) initial introduction).any fun transport =>
      transport.introduced "b0" && !(transport.matchesDirect "b0" cellRoute || transport.matchesRelay "b0" cellRoute)) = true := by
    decide +kernel
  obtain ⟨transport, reached, elsewhere⟩ := (Option.any_eq_true _ _).mp away
  rw [Bool.and_eq_true] at elsewhere
  refine ⟨transport, reached, (rejected_hello_spares_state_iff strictSettings introduction transport reached 1
    (fun _ => some sampleHello) [] cellRoute).mpr fun _ hello found => .inl (.inr ?_)⟩
  rw [← Option.some.inj found]
  exact elsewhere

end UdpTransport

end MeshTalk.Udp
