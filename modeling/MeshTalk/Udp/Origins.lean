import MeshTalk.Udp.Steps

namespace MeshTalk.Udp

open MeshTalk.Library MeshTalk.Protocol Handler

/-! # Where the keys of a session come from

Every session was derived from one attempt of this node and one HELLO it
accepted, and an attempt is gone once a session it led to is confirmed.
-/

namespace UdpTransport

open SessionTables

variable {settings : Settings} {now : Time} {transport start next final : UdpTransport} {session : Session}
  {peerId : PeerId} {route : Route} {attempt : Attempt} {hello : Hello}

/-! ## Attempts -/

/-- The attempt's key and nonce are the ones drawn for its number. -/
structure Drawn (settings : Settings) (attempt : Attempt) : Prop where
  privateKey : attempt.privateKey = settings.crypto.randomKey attempt.serial
  nonce : attempt.nonce = settings.crypto.randomNonce attempt.serial

/-- The attempts held are drawn ones, under their peers and with numbers of their
own. -/
structure AttemptsDrawn (settings : Settings) (transport : UdpTransport) : Prop where
  keyed : ∀ {peerId attempt}, transport.attempts.get? peerId = some attempt → attempt.peerId = peerId
  drawn : ∀ {peerId attempt}, transport.attempts.get? peerId = some attempt → Drawn settings attempt
  numbered : ∀ {peerId attempt}, transport.attempts.get? peerId = some attempt → attempt.serial < transport.nextAttempt
  apart : ∀ {first second one other}, transport.attempts.get? first = some one →
    transport.attempts.get? second = some other → one.serial = other.serial → first = second

/-- Attempts only go, or come with new numbers. -/
structure Renews (settings : Settings) (start next : UdpTransport) : Prop where
  drawn : AttemptsDrawn settings start → AttemptsDrawn settings next
  nextAttempt : start.nextAttempt ≤ next.nextAttempt
  older : ∀ {peerId attempt}, next.attempts.get? peerId = some attempt →
    start.attempts.get? peerId = some attempt ∨ start.nextAttempt ≤ attempt.serial

theorem Renews.refl : Renews settings transport transport := ⟨id, Nat.le_refl _, .inl⟩

theorem Renews.trans {last : UdpTransport} (earlier : Renews settings start next) (later : Renews settings next last) :
    Renews settings start last where
  drawn drawn := later.drawn (earlier.drawn drawn)
  nextAttempt := Nat.le_trans earlier.nextAttempt later.nextAttempt
  older found := by
    rcases later.older found with kept | new
    · exact earlier.older kept
    · exact .inr (Nat.le_trans earlier.nextAttempt new)

theorem Renews.fewer (kept : ∀ peerId attempt, next.attempts.get? peerId = some attempt →
      start.attempts.get? peerId = some attempt)
    (nextAttempt : next.nextAttempt = start.nextAttempt) : Renews settings start next where
  drawn drawn := {
    keyed := fun found => drawn.keyed (kept _ _ found)
    drawn := fun found => drawn.drawn (kept _ _ found)
    numbered := fun found => nextAttempt ▸ drawn.numbered (kept _ _ found)
    apart := fun first second => drawn.apart (kept _ _ first) (kept _ _ second) }
  nextAttempt := Nat.le_of_eq nextAttempt.symm
  older found := .inl (kept _ _ found)

theorem Renews.same (attempts : next.attempts = start.attempts) (nextAttempt : next.nextAttempt = start.nextAttempt) :
    Renews settings start next :=
  .fewer (fun _ _ found => attempts ▸ found) nextAttempt

/-- The calls of `send_packet` are left alone too. -/
structure Spares (settings : Settings) (start next : UdpTransport) : Prop extends Renews settings start next where
  sending : next.sending = start.sending
  pending : next.pending = start.pending

theorem Spares.fewer (kept : ∀ peerId attempt, next.attempts.get? peerId = some attempt →
      start.attempts.get? peerId = some attempt)
    (nextAttempt : next.nextAttempt = start.nextAttempt) (sending : next.sending = start.sending)
    (pending : next.pending = start.pending) : Spares settings start next :=
  ⟨.fewer kept nextAttempt, sending, pending⟩

theorem Spares.same (attempts : next.attempts = start.attempts) (nextAttempt : next.nextAttempt = start.nextAttempt)
    (sending : next.sending = start.sending) (pending : next.pending = start.pending) : Spares settings start next :=
  ⟨.same attempts nextAttempt, sending, pending⟩

theorem Spares.refl : Spares settings transport transport := .same rfl rfl rfl rfl

theorem Spares.trans {last : UdpTransport} (earlier : Spares settings start next) (later : Spares settings next last) :
    Spares settings start last :=
  ⟨earlier.toRenews.trans later.toRenews, later.sending.trans earlier.sending, later.pending.trans earlier.pending⟩

theorem Spares.change {update : UdpTransport → UdpTransport}
    (spares : ∀ transport, Spares settings transport (update transport)) :
    Keeps (Spares settings start) (Handler.change update : Handling PUnit) :=
  Keeps.change fun state held => held.trans (spares state)

theorem Spares.changeSame {update : UdpTransport → UdpTransport}
    (attempts : ∀ transport, (update transport).attempts = transport.attempts)
    (nextAttempt : ∀ transport, (update transport).nextAttempt = transport.nextAttempt)
    (sending : ∀ transport, (update transport).sending = transport.sending)
    (pending : ∀ transport, (update transport).pending = transport.pending) :
    Keeps (Spares settings start) (Handler.change update : Handling PUnit) :=
  Spares.change fun transport =>
    .same (attempts transport) (nextAttempt transport) (sending transport) (pending transport)

/-- A handler that spares the calls renews the attempts. -/
theorem renews_of_spares {handler : Handling α} (spares : ∀ start, Keeps (Spares settings start) handler) :
    Keeps (Renews settings start) handler := by
  intro state held
  have kept := spares state state .refl
  rcases run : handler state with ⟨outcome, final⟩
  rw [run] at kept
  cases outcome <;> exact Renews.trans held (Spares.toRenews kept)

theorem Renews.change {update : UdpTransport → UdpTransport}
    (renews : ∀ transport, Renews settings transport (update transport)) :
    Keeps (Renews settings start) (Handler.change update : Handling PUnit) :=
  Keeps.change fun state held => held.trans (renews state)

theorem popAttempt_nextAttempt : (transport.popAttempt peerId).nextAttempt = transport.nextAttempt := by
  unfold popAttempt
  split <;> rfl

theorem popAttempt_sending : (transport.popAttempt peerId).sending = transport.sending := by
  unfold popAttempt
  split <;> rfl

theorem popAttempt_pending : (transport.popAttempt peerId).pending = transport.pending := by
  unfold popAttempt
  split <;> rfl

theorem popAttempt_spares : Spares settings transport (transport.popAttempt peerId) := by
  refine .fewer (fun other attempt found => ?_) popAttempt_nextAttempt popAttempt_sending popAttempt_pending
  rw [popAttempt_attempts] at found
  split at found
  · contradiction
  · exact found

theorem removeSession_nextAttempt : (transport.removeSession session).nextAttempt = transport.nextAttempt := by
  simp only [removeSession, releaseForgottenRelay, dropRelayRouting]
  split
  · rfl
  · split
    · rfl
    · split <;> rfl

theorem removeSession_sending : (transport.removeSession session).sending = transport.sending := by
  simp only [removeSession, releaseForgottenRelay, dropRelayRouting]
  split
  · rfl
  · split
    · rfl
    · split <;> rfl

theorem removeSession_pending : (transport.removeSession session).pending = transport.pending := by
  simp only [removeSession, releaseForgottenRelay, dropRelayRouting]
  split
  · rfl
  · split
    · rfl
    · split <;> rfl

theorem removeSession_spares : Spares settings transport (transport.removeSession session) :=
  .same removeSession_attempts removeSession_nextAttempt removeSession_sending removeSession_pending

theorem removeSessions_spares {sessions : List Session} :
    Spares settings transport (removeSessions sessions transport) := by
  induction sessions generalizing transport with
  | nil => exact .refl
  | cons session rest ih => exact removeSession_spares.trans ih

/-- The attempt is one of this node's for the peer on the route, and no other
peer's attempt has its number. -/
structure Leads (settings : Settings) (transport : UdpTransport) (peerId : PeerId) (attempt : Attempt) : Prop where
  drawn : Drawn settings attempt
  addressed : attempt.peerId = peerId
  numbered : attempt.serial < transport.nextAttempt
  only : ∀ {other stored}, transport.attempts.get? other = some stored → stored.serial = attempt.serial →
    other = peerId ∧ stored = attempt

theorem Leads.renews (leads : Leads settings start peerId attempt) (renews : Renews settings start next) :
    Leads settings next peerId attempt where
  drawn := leads.drawn
  addressed := leads.addressed
  numbered := Nat.lt_of_lt_of_le leads.numbered renews.nextAttempt
  only found same := by
    rcases renews.older found with kept | new
    · exact leads.only kept same
    · exact absurd leads.numbered (Nat.not_lt.mpr (same ▸ new))

/-- What `_start_attempt` draws, and that it stores it under the peer unless the
relay is away. -/
structure Starts (settings : Settings) (start : UdpTransport) (peerId : PeerId) (route : Route) (attempt : Attempt)
    (next : UdpTransport) : Prop where
  routed : (attempt.endpoint, attempt.viaRelay) = route
  serial : attempt.serial = start.nextAttempt
  drawn : Drawn settings attempt
  addressed : attempt.peerId = peerId
  nextAttempt : next.nextAttempt = start.nextAttempt + 1
  sending : next.sending = start.sending
  pending : next.pending = start.pending
  stored : ∀ {other found}, next.attempts.get? other = some found →
    other = peerId ∧ found = attempt ∨ start.attempts.get? other = some found
  replaces : CanSend next route → ∀ {found}, next.attempts.get? peerId = some found → found = attempt

theorem startAttempt_starts :
    Ensures (· = transport) (startAttempt settings now peerId route)
      (fun attempt state => Starts settings transport peerId route attempt state) (· = transport) := by
  refine Ensures.read fun seen same => ?_
  subst same
  refine Ensures.ite (fun away => ?_) fun _ => ?_
  · refine Ensures.bind (Ensures.change (Q := fun _ state =>
      state = { seen with nextAttempt := seen.nextAttempt + 1 }) fun state same => same ▸ rfl) fun _ => Ensures.pure ?_
    rintro state rfl
    refine ⟨rfl, rfl, ⟨rfl, rfl⟩, rfl, rfl, rfl, rfl, .inr, fun can => ?_⟩
    have sender : seen.derpSender = true := (can away.1).1
    simp [sender] at away
  · let unsent := newAttempt settings now seen.nextAttempt peerId route
    let started : Attempt := { unsent with hello := some (makeHello settings unsent) }
    refine Ensures.bind (Ensures.refuse (Q := fun _ state => state = seen) (fun _ same _ => same)
      fun _ same _ => same) fun _ => Ensures.bind (Ensures.change (Q := fun _ state =>
        state.nextAttempt = seen.nextAttempt + 1 ∧ state.sending = seen.sending ∧ state.pending = seen.pending ∧
          state.attempts = seen.attempts.set peerId started) ?_) fun _ =>
      Ensures.pure ?_
    · rintro state rfl
      exact ⟨rfl, popAttempt_sending, popAttempt_pending, rfl⟩
    · rintro state ⟨count, sending, pending, attempts⟩
      refine ⟨rfl, rfl, ⟨rfl, rfl⟩, rfl, count, sending, pending, ?_, fun _ stored found => ?_⟩
      · intro other stored found
        rw [attempts, Dict.get?_set] at found
        split at found
        · rename_i same
          exact .inl ⟨same, (Option.some.inj found).symm⟩
        · exact .inr found
      · rw [attempts, Dict.get?_set, if_pos rfl] at found
        exact (Option.some.inj found).symm

theorem Starts.renews (starts : Starts settings start peerId route attempt next) : Renews settings start next where
  drawn drawn := by
    have old : ∀ {other stored}, start.attempts.get? other = some stored → stored.serial ≠ attempt.serial :=
      fun found => Nat.ne_of_lt (starts.serial ▸ drawn.numbered found)
    refine ⟨fun held => ?_, fun held => ?_, fun held => ?_, fun one other same => ?_⟩
    · rcases starts.stored held with ⟨rfl, rfl⟩ | older
      · exact starts.addressed
      · exact drawn.keyed older
    · rcases starts.stored held with ⟨rfl, rfl⟩ | older
      · exact starts.drawn
      · exact drawn.drawn older
    · rw [starts.nextAttempt]
      rcases starts.stored held with ⟨rfl, rfl⟩ | older
      · exact starts.serial ▸ Nat.lt_succ_self _
      · exact Nat.lt_succ_of_lt (drawn.numbered older)
    · rcases starts.stored one with ⟨rfl, rfl⟩ | firstOlder <;> rcases starts.stored other with ⟨rfl, rfl⟩ | secondOlder
      · rfl
      · exact absurd same.symm (old secondOlder)
      · exact absurd same (old firstOlder)
      · exact drawn.apart firstOlder secondOlder same
  nextAttempt := by
    rw [starts.nextAttempt]
    exact Nat.le_succ _
  older held := by
    rcases starts.stored held with ⟨rfl, rfl⟩ | older
    · exact .inr (Nat.le_of_eq starts.serial.symm)
    · exact .inl older

theorem Starts.leads (starts : Starts settings start peerId route attempt next) (drawn : AttemptsDrawn settings start) :
    Leads settings next peerId attempt where
  drawn := starts.drawn
  addressed := starts.addressed
  numbered := by
    rw [starts.nextAttempt, starts.serial]
    exact Nat.lt_succ_self _
  only found same := by
    rcases starts.stored found with stored | older
    · exact stored
    · exact absurd (same.trans starts.serial) (Nat.ne_of_lt (drawn.numbered older))

theorem startAttempt_spares : Keeps (Spares settings start) (startAttempt settings now peerId route) := by
  intro state held
  exact Ensures.weaken startAttempt_starts (fun _ same => same)
    (fun _ _ starts => held.trans ⟨starts.renews, starts.sending, starts.pending⟩) (fun _ same => same ▸ held) state rfl

/-! ## Handlers that open no session -/

theorem sendRoute_spares {datagram : Datagram} : Keeps (Spares settings start) (sendRoute datagram route) :=
  Keeps.read fun _ _ => Keeps.bind Keeps.refuse fun _ => Spares.changeSame (fun _ => rfl) (fun _ => rfl) (fun _ => rfl) fun _ => rfl

theorem sendAuthenticated_spares {type : AuthenticatedType} {token : Nat} {other : Settings} :
    Keeps (Spares settings start) (sendAuthenticated other session type token) :=
  sendRoute_spares

theorem sendHello_spares {hello : Option Hello} : Keeps (Spares settings start) (sendHello hello route) :=
  sendRoute_spares

theorem updateStatus_spares {update : SessionStatus → SessionStatus} :
    Spares settings transport (transport.updateStatus session update) :=
  .same rfl rfl rfl rfl

theorem authenticateHello_spares : Keeps (Spares settings start) (authenticateHello settings now hello route) := by
  refine Keeps.bind (Keeps.bind Keeps.refuse fun _ => Keeps.bind Keeps.refuse fun _ => Keeps.refuse) fun _ =>
    Keeps.read fun seen _ => Keeps.bind Keeps.refuse fun _ => Keeps.bind (Spares.change fun state => ?_) fun _ =>
      Keeps.bind Keeps.refuse fun _ => Keeps.refuse
  split
  · exact .same rfl rfl rfl rfl
  · exact .refl

theorem answerRepeat_spares : Keeps (Spares settings start) (answerRepeat settings session route) :=
  Keeps.read fun _ _ => Keeps.ite (fun _ => sendAuthenticated_spares) fun _ => Keeps.ite (fun _ => Keeps.pure) fun _ =>
    Keeps.bind (Spares.change fun _ => updateStatus_spares) fun _ => Keeps.bind sendHello_spares fun _ =>
      sendAuthenticated_spares

theorem dropUnconfirmed_spares {current : Option Session} :
    Spares settings transport (transport.dropUnconfirmed current) := by
  unfold dropUnconfirmed
  split
  · split
    · exact .refl
    · exact removeSession_spares
  · exact .refl

theorem promoteSession_spares : Spares settings transport (transport.promoteSession session now) := by
  simp only [promoteSession, vacateActive]
  split
  · exact .refl
  · split
    · exact .same rfl rfl rfl rfl
    · split
      · exact .same rfl rfl rfl rfl
      · exact removeSession_spares.trans (.same rfl rfl rfl rfl)

theorem confirmedState_spares : Spares settings transport (transport.confirmedState now session) :=
  (updateStatus_spares.trans popAttempt_spares).trans promoteSession_spares

theorem callback_spares {told : Callback} : Keeps (Spares settings start) (callback told) :=
  Spares.changeSame (fun _ => rfl) (fun _ => rfl) (fun _ => rfl) fun _ => rfl

theorem handleReady_spares : Keeps (Spares settings start) (handleReady settings now session) :=
  Keeps.bind (Keeps.read fun _ _ => Keeps.ite (fun _ => Keeps.pure) fun _ =>
    Keeps.bind (Spares.change fun _ => confirmedState_spares) fun _ => sendAuthenticated_spares) fun _ =>
  Keeps.read fun _ _ => Keeps.ite (fun _ => Keeps.pure) fun _ =>
    Keeps.bind (Spares.change fun _ => updateStatus_spares) fun _ => Keeps.read fun _ _ =>
      Keeps.ite (fun _ => callback_spares) fun _ => Keeps.pure

theorem sessionFor_spares {sessionId : SessionId} {required : Bool} :
    Keeps (Spares settings start) (sessionFor sessionId route required) :=
  Keeps.read fun _ _ => Keeps.bind Keeps.orRaise fun _ => Keeps.bind Keeps.refuse fun _ => Keeps.pure

theorem handleGoodbye_spares : Keeps (Spares settings start) (handleGoodbye session) :=
  Keeps.read fun _ _ => Keeps.bind (Spares.change fun _ => removeSession_spares) fun _ =>
    Keeps.ite (fun _ => callback_spares) fun _ => Keeps.pure

theorem handleKeepalive_spares {header : AuthHeader} {tag : Bytes} :
    Keeps (Spares settings start) (handleKeepalive settings now header tag route) := by
  refine Keeps.bind sessionFor_spares fun session => Keeps.bind Keeps.refuse fun _ =>
    Keeps.ite (fun _ => handleReady_spares) fun _ => Keeps.read fun _ _ => Keeps.bind Keeps.refuse fun _ =>
      Keeps.bind (Spares.change fun _ => updateStatus_spares) fun _ => ?_
  split
  · exact sendAuthenticated_spares
  · exact handleGoodbye_spares
  all_goals exact Keeps.pure

theorem handleAck_renews {header : AuthHeader} {tag : Bytes} :
    Keeps (Renews settings start) (handleAck settings now header tag route) := by
  refine Keeps.bind (renews_of_spares fun _ => sessionFor_spares) fun session => Keeps.bind Keeps.refuse fun _ =>
    Keeps.bind (Renews.change fun _ => .same rfl rfl) fun _ => Keeps.read fun _ _ => ?_
  split
  · exact Keeps.pure
  · split
    · exact Keeps.pure
    · exact Renews.change fun _ => .same rfl rfl

theorem handleData_spares {header : DataHeader} {ciphertext : Bytes} :
    Keeps (Spares settings start) (handleData settings now header ciphertext route) := by
  have opens : Keeps (Spares settings start) (openFragment settings now header ciphertext route) :=
    Keeps.bind sessionFor_spares fun _ => Keeps.bind Keeps.refuse fun _ => Keeps.bind Keeps.orRaise fun _ =>
      Keeps.bind (Spares.change fun _ => updateStatus_spares) fun _ => Keeps.pure
  have stores : ∀ session fragment, Keeps (Spares settings start) (storeFragment now session header fragment) :=
    fun _ _ => Keeps.read fun _ _ => Keeps.bind Keeps.refuse fun _ =>
      Keeps.bind (Spares.change fun _ => updateStatus_spares) fun _ => Keeps.bind Keeps.refuse fun _ =>
        Keeps.ite (fun _ => Keeps.bind (Spares.change fun _ => updateStatus_spares) fun _ => Keeps.pure) fun _ =>
          Keeps.bind (Spares.change fun _ => updateStatus_spares) fun _ => Keeps.pure
  refine Keeps.bind (Keeps.bind opens fun opened => Keeps.bind (Keeps.read fun _ _ => Keeps.ite
    (fun _ => Keeps.bind sendAuthenticated_spares fun _ => Keeps.pure) fun _ => stores _ _) fun complete => ?_)
    fun received => ?_
  · split
    · exact Keeps.pure
    · exact Keeps.bind (Keeps.bind Keeps.refuse fun _ => Keeps.orRaise) fun _ => Keeps.pure
  · split
    · exact Keeps.pure
    · refine Keeps.bind (Spares.changeSame (fun _ => rfl) (fun _ => rfl) (fun _ => rfl) fun _ => rfl) fun _ =>
        Keeps.bind sendAuthenticated_spares fun _ => ?_
      split
      · exact Keeps.pure
      · exact callback_spares

theorem startedAfter_spares : Keeps (Spares settings start) (do let _ ← startAttempt settings now peerId route) :=
  Keeps.bind startAttempt_spares fun _ => Keeps.pure

theorem punchRound_spares : Keeps (Spares settings start) (punchRound settings attempt) := by
  refine Keeps.read fun _ _ => Keeps.ite (fun _ => Keeps.pure) fun _ => Keeps.bind sendHello_spares fun _ =>
    Keeps.bind ?_ fun _ => Keeps.pure
  unfold sendReady
  split
  · exact sendAuthenticated_spares
  · exact Keeps.pure

theorem abandonAttempt_spares : Spares settings transport (transport.abandonAttempt peerId) := by
  have popped : Spares settings transport { transport with attempts := transport.attempts.erase peerId } := by
    refine .fewer (fun other attempt found => ?_) rfl rfl rfl
    rw [Dict.get?_erase] at found
    split at found
    · contradiction
    · exact found
  simp only [abandonAttempt]
  split
  · split
    · exact popped
    · exact popped.trans removeSession_spares
  · exact popped

theorem punchExhausted_spares : Keeps (Spares settings start) (punchExhausted settings now attempt) := by
  refine Keeps.read fun _ _ => Keeps.ite (fun _ => Keeps.bind (Spares.change fun _ => abandonAttempt_spares) fun _ =>
    Keeps.read fun _ _ => ?_) fun _ => Keeps.pure
  split
  · exact Keeps.ite (fun _ => startedAfter_spares) fun _ => Keeps.pure
  · exact Keeps.pure

theorem punchStep_spares {serial : Nat} (stepped : punchStep settings now serial transport = some next) :
    Spares settings transport next := by
  obtain ⟨punch, -, rfl⟩ := Option.map_eq_some_iff.mp stepped
  dsimp only
  split
  · have kept : Keeps (Spares settings transport) (punchRound settings punch.attempt) := punchRound_spares
    have round := kept transport .refl
    rcases run : punchRound settings punch.attempt transport with ⟨outcome, middle⟩
    rw [run] at round
    rcases outcome with failure | _ | _
    · exact round.trans (.same rfl rfl rfl rfl)
    · exact round.trans (.same rfl rfl rfl rfl)
    · exact round.trans (.same rfl rfl rfl rfl)
  · have kept : Keeps (Spares settings transport) (punchExhausted settings now punch.attempt) := punchExhausted_spares
    have exhausted := kept.finish .refl
    exact exhausted.trans (.same rfl rfl rfl rfl)

theorem keepAlive_spares {token : Nat} : Keeps (Spares settings start) (keepAlive settings now session token) := by
  refine Keeps.bind sendAuthenticated_spares fun _ => Keeps.read fun _ _ => ?_
  split
  · exact Keeps.pure
  · exact Keeps.bind (Spares.changeSame (fun _ => rfl) (fun _ => rfl) (fun _ => rfl) fun _ => rfl) fun _ => startedAfter_spares

theorem visitActive_spares {token : Nat} : Keeps (Spares settings start) (visitActive settings now session token) :=
  Keeps.read fun _ _ => Keeps.ite (fun _ => Spares.change fun _ => removeSession_spares) fun _ =>
    Keeps.ite (fun _ => Keeps.bind (Spares.change fun _ => removeSession_spares) fun _ => callback_spares) fun _ =>
      Keeps.bind (Keeps.read fun _ _ => Keeps.ite (fun _ => keepAlive_spares) fun _ => Keeps.pure) fun _ =>
        Spares.change fun _ => updateStatus_spares

theorem visitRetiring_spares {expiresAt : Time} : Keeps (Spares settings start) (visitRetiring now session expiresAt) :=
  Keeps.ite (fun _ => Keeps.bind (Spares.change fun _ => removeSession_spares) fun _ => callback_spares) fun _ =>
    Spares.change fun _ => updateStatus_spares

theorem maintain_spares {piece : Handling PUnit} {following : Maintenance} (kept : Keeps (Spares settings transport) piece) :
    Spares settings transport (maintain piece following transport) := by
  have result := kept transport .refl
  unfold maintain
  rcases run : piece transport with ⟨outcome, final⟩
  rw [run] at result
  cases outcome <;> exact Spares.trans result (.same rfl rfl rfl rfl)

theorem maintenanceStep_spares {token : Nat} (stepped : maintenanceStep settings now token transport = some next) :
    Spares settings transport next := by
  unfold maintenanceStep at stepped
  split at stepped
  · cases stepped; exact .same rfl rfl rfl rfl
  · cases stepped; exact maintain_spares visitActive_spares
  · cases stepped; exact .same rfl rfl rfl rfl
  · cases stepped; exact maintain_spares visitRetiring_spares
  · cases stepped; exact removeSessions_spares.trans (.same rfl rfl rfl rfl)
  · contradiction

theorem expectDerpPeer_spares : Keeps (Spares settings start) (expectDerpPeer settings now peerId) :=
  Keeps.ite (fun _ => Keeps.pure) fun _ => Keeps.bind (Spares.changeSame (fun _ => rfl) (fun _ => rfl) (fun _ => rfl) fun _ => rfl) fun _ =>
    Keeps.read fun _ _ => Keeps.ite (fun _ => startedAfter_spares) fun _ => Keeps.pure

theorem expectPeer_spares {endpoint : Endpoint} : Keeps (Spares settings start) (expectPeer settings now peerId endpoint) := by
  refine Keeps.ite (fun _ => Keeps.pure) fun _ => Keeps.bind Keeps.refuse fun _ => Keeps.bind Keeps.refuse fun _ =>
    Keeps.read fun _ _ => Keeps.bind Keeps.refuse fun _ => Keeps.bind (Spares.changeSame (fun _ => rfl) (fun _ => rfl) (fun _ => rfl) fun _ => rfl)
      fun _ => Keeps.ite (fun _ => ?_) fun _ => Keeps.ite (fun _ => Keeps.pure) fun _ =>
        Keeps.ite (fun _ => Keeps.pure) fun _ => Keeps.ite (fun _ => Keeps.pure) fun _ => ?_
  · split
    · exact Keeps.ite (fun _ => startedAfter_spares) fun _ => Keeps.pure
    · exact Keeps.pure
  · refine Keeps.bind (Spares.change fun state => ?_) fun _ =>
      Keeps.bind (Spares.changeSame (fun _ => rfl) (fun _ => rfl) (fun _ => rfl) fun _ => rfl) fun _ => startedAfter_spares
    split
    · exact .same rfl rfl rfl rfl
    · exact .refl

theorem withdrawDirect_spares : Spares settings transport (transport.withdrawDirect peerId) := by
  have cleared : Spares settings transport { transport with
      directCandidates := transport.directCandidates.erase peerId
      expectedEndpoints := transport.expectedEndpoints.erase peerId } := .same rfl rfl rfl rfl
  simp only [withdrawDirect]
  split
  · exact cleared.trans popAttempt_spares
  · exact cleared

theorem withdraw_spares : Spares settings transport (transport.withdraw peerId) := by
  simp only [withdraw]
  refine Spares.trans ?_ popAttempt_spares
  split
  · exact .same rfl rfl rfl rfl
  · unfold dropRelayRouting
    dsimp only
    split <;> exact .same rfl rfl rfl rfl

theorem sendPacket_renews {call messageId : Nat} {packet : Packet} {nonces : Nat → Bytes} :
    Keeps (Renews settings start) (sendPacket settings call peerId packet messageId nonces) :=
  Keeps.read fun _ _ => Keeps.bind Keeps.orRaise fun _ => Keeps.bind Keeps.orRaise fun _ =>
    Keeps.bind Keeps.refuse fun _ => Keeps.bind Keeps.refuse fun _ => Renews.change fun _ => .same rfl rfl

theorem sendAll_spares {datagrams : List Datagram} : Keeps (Spares settings start) (sendAll route datagrams) := by
  induction datagrams with
  | nil => exact Keeps.pure
  | cons datagram rest ih => exact Keeps.bind sendRoute_spares fun _ => ih

theorem sendRound_renews {call : Nat} {sending : Sending} : Keeps (Renews settings start) (sendRound call sending) := by
  have finished : ∀ state, Renews settings state (state.finishSending call sending) := fun _ => .same rfl rfl
  refine Keeps.ite (fun _ => Keeps.bind (Renews.change finished) fun _ => Keeps.pure) fun _ =>
    Keeps.ite (fun _ => Keeps.bind (Renews.change finished) fun _ => Keeps.raise) fun _ => ?_
  refine Keeps.bind (Keeps.onRaise (renews_of_spares fun _ => sendAll_spares) fun state held => held.trans (finished state))
    fun _ => Keeps.bind (Renews.change fun _ => .same rfl rfl) fun _ => Keeps.pure

/-! ## HELLO -/

/-- A HELLO that passes the checks made of it alone and whose signature verifies. -/
structure Accepted (settings : Settings) (hello : Hello) : Prop where
  identity : hello.peerId = settings.crypto.fingerprint hello.signingPublicKey
  sessionKey : hello.sessionPublicKey.length = 32
  nonce : hello.nonce.length = 32
  signed : settings.crypto.verify hello.signingPublicKey hello.signature (settings.crypto.canonical hello) = true

theorem wellFormedHello_checked :
    Ensures (· = transport) (wellFormedHello settings hello)
      (fun _ state => state = transport ∧ hello.peerId = settings.crypto.fingerprint hello.signingPublicKey ∧
        hello.sessionPublicKey.length = 32 ∧ hello.nonce.length = 32)
      (· = transport) := by
  refine Ensures.bind (Ensures.refuse (Q := fun _ state => state = transport ∧
      hello.peerId = settings.crypto.fingerprint hello.signingPublicKey) (fun _ held _ => held)
    fun _ held same => ⟨held, not_not.mp same⟩) fun _ =>
    Ensures.bind (Ensures.refuse (Q := fun _ state => state = transport ∧
      hello.peerId = settings.crypto.fingerprint hello.signingPublicKey) (fun _ held _ => held.1)
      fun _ held _ => held) fun _ => Ensures.refuse (fun _ held _ => held.1) ?_
  intro state held lengths
  exact ⟨held.1, held.2, by omega, by omega⟩

/-- The attempts are those of the state. -/
def SameAttempts (start next : UdpTransport) : Prop :=
  next.attempts = start.attempts ∧ next.nextAttempt = start.nextAttempt

theorem SameAttempts.renews (same : SameAttempts start next) : Renews settings start next := .same same.1 same.2

theorem authenticateHello_accepted :
    Ensures (· = transport) (authenticateHello settings now hello route)
      (fun _ state => SameAttempts transport state ∧ Accepted settings hello) (Renews settings transport) := by
  refine Ensures.bind (Ensures.weaken wellFormedHello_checked (fun _ same => same) (fun _ _ held => held)
    fun _ same => same ▸ .refl) fun _ => Ensures.read fun seen ⟨same, identity, key, nonce⟩ => ?_
  subst same
  refine Ensures.bind (Ensures.refuse (Q := fun _ => SameAttempts seen) (fun _ same _ => same ▸ .refl)
      fun _ same _ => same ▸ ⟨rfl, rfl⟩) fun _ =>
    Ensures.bind (Ensures.change (Q := fun _ => SameAttempts seen) fun state held => ?_) fun _ =>
    Ensures.bind (Ensures.refuse (Q := fun _ => SameAttempts seen) (fun _ held _ => held.renews)
      fun _ held _ => held) fun _ => Ensures.refuse (fun _ held _ => held.renews) fun _ held verified => ?_
  · split
    · exact held
    · exact held
  · exact ⟨held, identity, key, nonce, by simpa using verified⟩

/-- The attempt is the one the peer had, or a new one that leaves no older one in
its place. -/
def Picks (start next : UdpTransport) (peerId : PeerId) (attempt : Attempt) : Prop :=
  start.attempts.get? peerId = some attempt ∨
    start.nextAttempt ≤ attempt.serial ∧
      ∀ {stored}, next.attempts.get? peerId = some stored → start.nextAttempt ≤ stored.serial

theorem Picks.renews {middle : UdpTransport} (picks : Picks start middle peerId attempt)
    (earlier : Renews settings start middle) (later : Renews settings middle next) : Picks start next peerId attempt := by
  refine picks.imp_right fun ⟨new, replaced⟩ => ⟨new, fun found => ?_⟩
  rcases later.older found with kept | newer
  · exact replaced kept
  · exact Nat.le_trans earlier.nextAttempt newer

/-- What `_handle_hello` knows of the attempt it goes on with. -/
structure Chooses (settings : Settings) (start : UdpTransport) (peerId : PeerId) (route : Route) (attempt : Attempt)
    (next : UdpTransport) : Prop where
  renews : Renews settings start next
  leads : Leads settings next peerId attempt
  routed : (attempt.endpoint, attempt.viaRelay) = route
  picks : CanSend next route → Picks start next peerId attempt

theorem Starts.chooses (starts : Starts settings start peerId route attempt next) (drawn : AttemptsDrawn settings start) :
    Chooses settings start peerId route attempt next where
  renews := starts.renews
  leads := starts.leads drawn
  routed := starts.routed
  picks can := .inr ⟨Nat.le_of_eq starts.serial.symm, fun found => by
    rw [starts.replaces can found]
    exact Nat.le_of_eq starts.serial.symm⟩

theorem attemptFor_chooses (drawn : AttemptsDrawn settings transport) :
    Ensures (· = transport) (attemptFor settings now hello route)
      (fun attempt state => Chooses settings transport hello.peerId route attempt state)
      (Renews settings transport) := by
  refine Ensures.read fun seen same => ?_
  subst same
  have started : Ensures (· = seen) (startAttempt settings now hello.peerId route)
      (fun attempt state => Chooses settings seen hello.peerId route attempt state) (Renews settings seen) :=
    Ensures.weaken startAttempt_starts (fun _ same => same) (fun _ _ starts => starts.chooses drawn)
      fun _ same => same ▸ .refl
  split
  · rename_i attempt found
    refine Ensures.ite (fun onRoute => Ensures.pure fun state same => ?_) fun _ => started
    subst same
    refine ⟨.refl, ⟨drawn.drawn found, drawn.keyed found, drawn.numbered found, fun {other stored} held same => ?_⟩,
      onRoute, fun _ => .inl found⟩
    obtain rfl := drawn.apart held found same
    exact ⟨rfl, Option.some.inj (held.symm.trans found)⟩
  · exact started

/-- The key material that an attempt and a HELLO lead to. -/
def materialOf (settings : Settings) (attempt : Attempt) (hello : Hello) : Option Bytes :=
  (settings.crypto.exchange attempt.privateKey hello.sessionPublicKey).map fun shared =>
    settings.crypto.derive shared (sessionSalt settings hello attempt)

/-- What a session was derived from. -/
structure Origin (settings : Settings) (session : Session) (opening : Opening) : Prop where
  accepted : Accepted settings opening.hello
  drawn : Drawn settings opening.attempt
  material : materialOf settings opening.attempt opening.hello = some opening.material
  sessionId : opening.sessionId = sessionIdOf settings opening.material
  built : ∃ now name, session = newSession settings now session.serial opening name

/-- What `_handle_hello` has derived when it goes on to create a session. -/
structure Derived (settings : Settings) (start : UdpTransport) (hello : Hello) (route : Route) (opening : Opening)
    (next : UdpTransport) : Prop where
  renews : Renews settings start next
  answers : opening.hello = hello
  onRoute : opening.route = route
  accepted : Accepted settings hello
  leads : Leads settings next hello.peerId opening.attempt
  routed : (opening.attempt.endpoint, opening.attempt.viaRelay) = route
  picks : Picks start next hello.peerId opening.attempt
  material : materialOf settings opening.attempt hello = some opening.material
  sessionId : opening.sessionId = sessionIdOf settings opening.material

theorem Derived.renewed {opening : Opening} {middle : UdpTransport}
    (derived : Derived settings start hello route opening middle) (later : Renews settings middle next) :
    Derived settings start hello route opening next where
  renews := derived.renews.trans later
  answers := derived.answers
  onRoute := derived.onRoute
  accepted := derived.accepted
  leads := derived.leads.renews later
  routed := derived.routed
  picks := derived.picks.renews derived.renews later
  material := derived.material
  sessionId := derived.sessionId

theorem sendHello_can {answer : Option Hello} :
    Ensures (· = transport) (sendHello answer route)
      (fun _ state => Renews settings transport state ∧ CanSend transport route) (Renews settings transport) := by
  refine Ensures.read fun seen same => Ensures.bind (Ensures.refuse (Q := fun _ state => state = seen ∧ CanSend seen route)
    (fun _ same' _ => same ▸ same' ▸ .refl) fun state same' passed => ⟨same', fun relayed => ?_⟩) fun _ =>
      Ensures.change fun state held => ⟨?_, same ▸ held.2⟩
  · simpa [relayed] using passed
  · rw [held.1, same]
    exact .same rfl rfl

theorem deriveSession_derived {current : Option Session} (drawn : AttemptsDrawn settings transport)
    (accepted : Accepted settings hello) :
    Ensures (· = transport) (deriveSession settings now hello route current)
      (fun result state => Renews settings transport state ∧
        ∀ opening, result = some opening → Derived settings transport hello route opening state)
      (Renews settings transport) := by
  refine Ensures.bind (attemptFor_chooses drawn) fun attempt => ?_
  let Answered (next : UdpTransport) : Prop := ∃ middle,
    Chooses settings transport hello.peerId route attempt middle ∧ CanSend middle route ∧ Renews settings middle next
  have answered : ∀ {next}, Answered next → Renews settings transport next :=
    fun ⟨_, chooses, _, later⟩ => chooses.renews.trans later
  refine Ensures.bind (Q := fun _ => Answered) ?_ fun _ => ?_
  · intro middle chooses
    have sent : Ensures (· = middle) (sendHello attempt.hello route) (fun _ => Answered) (Renews settings transport) :=
      Ensures.weaken sendHello_can (fun _ same => same) (fun _ _ held => ⟨middle, chooses, held.2, held.1⟩)
        fun _ held => chooses.renews.trans held
    exact sent middle rfl
  · refine Ensures.bind (Ensures.orRaise (Q := fun shared next => Answered next ∧
        settings.crypto.exchange attempt.privateKey hello.sessionPublicKey = some shared)
      (fun _ held _ => answered held) fun _ _ held found => ⟨held, found⟩) fun shared => ?_
    dsimp only
    split
    · refine Ensures.bind (Q := fun _ => Renews settings transport) ?_ fun _ =>
        Ensures.pure fun _ held => ⟨held, fun _ contradiction => nomatch contradiction⟩
      exact Ensures.weaken (renews_of_spares fun _ => sendAuthenticated_spares)
        (fun _ held => answered held.1) (fun _ _ held => held) fun _ held => held
    · refine Ensures.pure ?_
      rintro next ⟨⟨middle, chooses, can, later⟩, found⟩
      refine ⟨chooses.renews.trans later, ?_⟩
      rintro opening returned
      cases returned
      exact ⟨chooses.renews.trans later, rfl, rfl, accepted, chooses.leads.renews later, chooses.routed,
        (chooses.picks can).renews chooses.renews later, by rw [materialOf, found]; rfl, rfl⟩

theorem admitHello_derived (drawn : AttemptsDrawn settings transport) :
    Ensures (· = transport) (admitHello settings now hello route)
      (fun result state => Renews settings transport state ∧
        ∀ opening, result = some opening → Derived settings transport hello route opening state)
      (Renews settings transport) := by
  refine Ensures.bind authenticateHello_accepted fun _ => Ensures.read fun seen ⟨same, accepted⟩ => ?_
  have renewed : Renews settings transport seen := same.renews
  split
  · refine Ensures.bind (Q := fun _ => Renews settings transport) ?_ fun _ =>
      Ensures.pure fun _ held => ⟨held, fun _ contradiction => nomatch contradiction⟩
    exact Ensures.weaken (renews_of_spares fun _ => answerRepeat_spares) (fun _ same => same ▸ renewed)
      (fun _ _ held => held) fun _ held => held
  · refine Ensures.weaken (deriveSession_derived (renewed.drawn drawn) accepted) (fun _ same => same)
      (fun _ _ held => ⟨renewed.trans held.1, fun opening returned => ?_⟩) fun _ held => renewed.trans held
    obtain ⟨renews, answers, onRoute, accepted, leads, routed, picks, material, sessionId⟩ := held.2 opening returned
    refine ⟨renewed.trans renews, answers, onRoute, accepted, leads, routed, ?_, material, sessionId⟩
    rwa [Picks, same.1, same.2] at picks

/-! ## Every session has an origin -/

/-- No stored attempt of the session's peer is the given one. -/
def Spent (transport : UdpTransport) (session : Session) (attempt : Attempt) : Prop :=
  ∀ stored, transport.attempts.get? session.peerId = some stored → stored.serial ≠ attempt.serial

/-- The session was derived from an attempt of this node and a HELLO it heard,
and once it is confirmed the attempt is spent. -/
def SourcedFrom (settings : Settings) (heard : Hello → Prop) (transport : UdpTransport) (session : Session)
    (opening : Opening) : Prop :=
  Origin settings session opening ∧ heard opening.hello ∧ Leads settings transport session.peerId opening.attempt ∧
    (transport.confirmed session = true → transport.Spent session opening.attempt)

/-- The handshakes of the sessions, under their serial numbers. -/
structure Sourced (settings : Settings) (heard : Hello → Prop) (origins : Nat → Opening) (transport : UdpTransport) :
    Prop where
  attempts : AttemptsDrawn settings transport
  origin : ∀ {session}, transport.Known session → SourcedFrom settings heard transport session (origins session.serial)

/-- Note the handshake of the session that the event creates, if any. -/
def recordOpening (settings : Settings) (transport : UdpTransport) (origins : Nat → Opening) :
    Time × TransportEvent → Nat → Opening
  | (now, .datagramReceived (.hello hello) route) =>
      match admitHello settings now hello route transport with
      | (.ok (some opening), _) => Function.update origins transport.nextSession opening
      | _ => origins
  | _ => origins

theorem recordOpening_older {origins : Nat → Opening} {event : Time × TransportEvent} {serial : Nat}
    (older : serial ≠ transport.nextSession) : recordOpening settings transport origins event serial = origins serial := by
  unfold recordOpening
  split
  · rename_i now hello route
    rcases admitHello settings now hello route transport with ⟨_ | _ | opening, middle⟩
    · rfl
    · rfl
    · exact Function.update_of_ne older ..
  · rfl

variable {heard : Hello → Prop} {origins : Nat → Opening}

theorem Spent.renews (spent : start.Spent session attempt) (leads : Leads settings start peerId attempt)
    (renews : Renews settings start next) : next.Spent session attempt := by
  intro stored found
  rcases renews.older found with kept | new
  · exact spent stored kept
  · exact Nat.ne_of_gt (Nat.lt_of_lt_of_le leads.numbered new)

theorem SourcedFrom.renews {opening : Opening} (sourced : SourcedFrom settings heard start session opening)
    (renews : Renews settings start next) (confirmed : next.confirmed session = start.confirmed session) :
    SourcedFrom settings heard next session opening := by
  obtain ⟨origin, hello, leads, spent⟩ := sourced
  exact ⟨origin, hello, leads.renews renews, fun established =>
    (spent (confirmed ▸ established)).renews leads renews⟩

theorem newSession_origin {serial : Nat} {name : String} {opening : Opening} {received : Hello}
    (derived : Derived settings start received route opening next) :
    Origin settings (newSession settings now serial opening name) opening where
  accepted := derived.answers ▸ derived.accepted
  drawn := derived.leads.drawn
  material := by rw [derived.answers]; exact derived.material
  sessionId := derived.sessionId
  built := ⟨now, name, rfl⟩

/-- Which HELLOs are heard. -/
def Hears (heard : Hello → Prop) : Time × TransportEvent → Prop
  | (_, .datagramReceived (.hello hello) _) => heard hello
  | _ => True

theorem addSession_spares : Spares settings transport (transport.addSession session) := by
  simp only [addSession]
  split
  · split
    · exact .same removeSession_attempts removeSession_nextAttempt removeSession_sending removeSession_pending
    · exact .same rfl rfl rfl rfl
  · exact .same rfl rfl rfl rfl

theorem installSession_spares {opening : Opening} :
    Keeps (Spares settings start) (installSession settings now opening) :=
  Keeps.read fun _ _ => Keeps.bind Keeps.refuse fun _ => Keeps.bind (Spares.change fun _ => dropUnconfirmed_spares)
    fun _ => Keeps.bind Keeps.orRaise fun _ => Keeps.bind (Spares.change fun _ => addSession_spares) fun _ =>
      sendAuthenticated_spares

theorem admitHello_spares : Keeps (Spares settings start) (admitHello settings now hello route) := by
  have derives : ∀ current, Keeps (Spares settings start) (deriveSession settings now hello route current) := by
    intro current
    refine Keeps.bind (Keeps.read fun _ _ => ?_) fun _ => Keeps.bind sendHello_spares fun _ =>
      Keeps.bind Keeps.orRaise fun _ => ?_
    · split
      · exact Keeps.ite (fun _ => Keeps.pure) fun _ => startAttempt_spares
      · exact startAttempt_spares
    · dsimp only
      split
      · exact Keeps.bind sendAuthenticated_spares fun _ => Keeps.pure
      · exact Keeps.pure
  refine Keeps.bind authenticateHello_spares fun _ => Keeps.read fun _ _ => ?_
  split
  · exact Keeps.bind answerRepeat_spares fun _ => Keeps.pure
  · exact derives _

theorem handleHello_spares : Keeps (Spares settings start) (handleHello settings now hello route) := by
  refine Keeps.bind admitHello_spares fun _ => ?_
  split
  · exact Keeps.pure
  · exact installSession_spares

/-- The events that may change the calls of `send_packet`. -/
def OfCalls : Time × TransportEvent → Prop
  | (_, .sendPacket ..) | (_, .sendRound _) => True
  | (_, .datagramReceived (.authenticated header _) _) => header.type = .ack
  | _ => False

theorem step_spares {event : Time × TransportEvent} (aside : ¬ OfCalls event)
    (stepped : step settings transport event = some next) : Spares settings transport next := by
  obtain ⟨now, event⟩ := event
  cases event with
  | datagramReceived datagram route =>
      cases stepped
      unfold datagramReceived
      by_cases refused : settings.forceRelay ∧ !route.2
      · rw [if_pos refused]; exact .refl
      · rw [if_neg refused]
        cases datagram with
        | empty => exact .refl
        | hello hello => exact handleHello_spares.finish .refl
        | data header ciphertext => exact handleData_spares.finish .refl
        | authenticated header tag =>
            dsimp only
            rw [if_neg (show ¬ header.type = .ack from aside)]
            exact handleKeepalive_spares.finish .refl
  | punch serial => exact punchStep_spares stepped
  | maintenance token => exact maintenanceStep_spares stepped
  | expectPeer peerId endpoint =>
      cases stepped
      exact expectPeer_spares.finish .refl
  | expectDerpPeer peerId =>
      cases stepped
      exact expectDerpPeer_spares.finish .refl
  | configureDerp sender serverEnabled =>
      cases stepped
      exact .same rfl rfl rfl rfl
  | clearDirectCandidate peerId =>
      cases stepped
      exact withdrawDirect_spares.trans removeSessions_spares
  | forgetCandidate peerId =>
      cases stepped
      exact withdraw_spares.trans removeSessions_spares
  | sendPacket call peerId packet messageId nonces => exact absurd trivial aside
  | sendRound call => exact absurd trivial aside

theorem step_renews {event : Time × TransportEvent} (stepped : step settings transport event = some next) :
    Renews settings transport next := by
  by_cases calls : OfCalls event
  · unfold OfCalls at calls
    split at calls
    · simp only [step] at stepped
      split at stepped
      · contradiction
      · cases stepped
        exact sendPacket_renews.finish .refl
    · obtain ⟨sending, -, rfl⟩ := Option.map_eq_some_iff.mp stepped
      exact sendRound_renews.finish .refl
    · cases stepped
      simp only [datagramReceived, if_pos calls]
      split
      · exact .refl
      · exact handleAck_renews.finish .refl
    · contradiction
  · exact (step_spares calls stepped).toRenews

/-- What the HELLO of an added session was derived from, as the step leaves the
attempts. -/
theorem admitted_derived {received : Hello} {opening : Opening} {middle : UdpTransport}
    (drawn : AttemptsDrawn settings transport) (heard : hears settings route = true)
    (admitted : admitHello settings now received route transport = (.ok (some opening), middle))
    (stepped : step settings transport (now, .datagramReceived (.hello received) route) = some next) :
    Derived settings transport received route opening next := by
  have derived := @admitHello_derived settings now transport route received drawn transport rfl
  rw [admitted] at derived
  refine (derived.2 opening rfl).renewed ?_
  have opened : ¬ (settings.forceRelay ∧ !route.2) := by
    rw [hears, Bool.not_eq_true', Bool.eq_false_iff, ne_eq, Bool.and_eq_true] at heard
    exact heard
  simp only [step, datagramReceived, if_neg opened, Option.some.injEq] at stepped
  rw [← stepped, handleHello, finish, bind_apply, admitted]
  exact ((installSession_spares.finish .refl : Spares settings middle _)).toRenews

theorem step_sourced {event : Time × TransportEvent} (filed : transport.Filed)
    (sourced : Sourced settings heard origins transport) (hearing : Hears heard event)
    (stepped : step settings transport event = some next) :
    Sourced settings heard (recordOpening settings transport origins event) next := by
  have renews := step_renews stepped
  have kept : ∀ {session}, transport.Known session → next.confirmed session = transport.confirmed session →
      SourcedFrom settings heard next session (recordOpening settings transport origins event session.serial) := by
    intro session older confirmed
    rw [recordOpening_older (Nat.ne_of_lt (filed.serial_known older))]
    exact (sourced.origin older).renews renews confirmed
  refine ⟨renews.drawn sourced.attempts, fun {session} known => ?_⟩
  rcases step_shape filed stepped with sheds | adds | confirms
  · exact kept (sheds.within.known known) (sheds.within.confirmed session)
  · obtain ⟨now, event⟩ := event
    unfold AddsSession at adds
    split at adds
    · rename_i clock received route same
      obtain ⟨rfl, rfl⟩ := Prod.mk.inj same
      obtain ⟨heardRoute, opened, middle, name, cleared, admitted, loses, -, agrees⟩ := adds
      have added : Added (newSession settings now cleared.nextSession opened name) cleared _ :=
        SessionTables.added (loses.within.filed filed) rfl
      have derived := admitted_derived sourced.attempts heardRoute admitted stepped
      rcases added.known (agrees.within.known known) with rfl | older
      · have recorded : recordOpening settings transport origins (now, .datagramReceived (.hello received) route)
            (newSession settings now cleared.nextSession opened name).serial = opened := by
          simp only [recordOpening, admitted, newSession, loses.within.nextSession, Function.update_self]
        rw [recorded]
        refine ⟨newSession_origin derived, ?_, ?_, fun confirmed => ?_⟩
        · rw [derived.answers]
          exact hearing
        · change Leads settings next opened.hello.peerId opened.attempt
          rw [derived.answers]
          exact derived.leads
        · rw [agrees.confirmed, added.confirmed, if_pos rfl] at confirmed
          contradiction
      · have apart : session.serial ≠ (newSession settings now cleared.nextSession opened name).serial :=
          Nat.ne_of_lt ((loses.within.filed filed).serial_known older)
        refine kept (loses.within.known older) ?_
        rw [agrees.confirmed, added.confirmed, if_neg apart, loses.within.confirmed]
    · contradiction
  · obtain ⟨now, event⟩ := event
    unfold ConfirmsSession at confirms
    split at confirms
    · obtain ⟨-, -, promotedSession, middle, authentic, unconfirmed, confirms, loses, popped⟩ := confirms
      have listed : transport.Listed promotedSession := by
        have found := (authenticates_some.mp authentic).1
        rw [Listed, filed.listed_key found]
        exact found
      have older := confirms.promoted.known filed listed (loses.within.known known)
      have confirmed := (loses.within.confirmed session).trans (confirms.promoted.confirmed session)
      by_cases same : session.serial = promotedSession.serial
      · have same := filed.serial_unique older (.inl listed) same
        subst same
        rw [recordOpening_older (Nat.ne_of_lt (filed.serial_known older))]
        obtain ⟨origin, hello, leads, -⟩ := sourced.origin older
        refine ⟨origin, hello, leads.renews renews, fun _ stored found => ?_⟩
        rw [popped] at found
        contradiction
      · rw [if_neg same] at confirmed
        exact kept older confirmed
    · contradiction

theorem initial_unknown : ¬ initial.Known session := by
  rintro (listed | active | pending | ⟨expiresAt, retiring⟩)
  · contradiction
  · contradiction
  · contradiction
  · contradiction

theorem initial_sourced : Sourced settings heard origins initial := by
  refine ⟨⟨?_, ?_, ?_, ?_⟩, fun known => absurd known initial_unknown⟩
  · intro peerId attempt found
    contradiction
  · intro peerId attempt found
    contradiction
  · intro peerId attempt found
    contradiction
  · intro first second one other found
    contradiction

end UdpTransport

end MeshTalk.Udp
