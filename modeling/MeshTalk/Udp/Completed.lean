import MeshTalk.Udp.Announced

namespace MeshTalk.Udp

open MeshTalk.Library MeshTalk.Protocol Handler

/-! # Completed packets and the callbacks that hand them over -/

/-- The type of the packet is live and enabled by the session's capabilities. -/
def Delivery.allowed (delivery : Delivery) : Bool :=
  match delivery.packet.type with
  | .retired _ => false
  | .live type =>
      match capabilityForPacket type with
      | none => true
      | some required => required ∈ delivery.session.capabilities

namespace UdpTransport

open SessionTables

variable {settings : Settings} {now : Time} {transport start next : UdpTransport} {session : Session}
  {peerId : PeerId} {route : Route}

/-- No packet is completed and no callback is lost. -/
structure Extends (start next : UdpTransport) : Prop where
  completed : next.completed = start.completed
  callbacks : ∀ told ∈ start.callbacks, told ∈ next.callbacks

theorem Extends.refl : Extends transport transport := ⟨rfl, fun _ => id⟩

theorem Extends.trans {last : UdpTransport} (earlier : Extends start next) (later : Extends next last) :
    Extends start last :=
  ⟨later.completed.trans earlier.completed, fun told member => later.callbacks told (earlier.callbacks told member)⟩

/-- No packet is completed and none is handed over; the owner may be told
something else. -/
structure Withholds (start next : UdpTransport) : Prop where
  completed : next.completed = start.completed
  callbacks : ∃ told, next.callbacks = start.callbacks ++ told ∧
    ∀ callback ∈ told, ∀ delivery, callback ≠ .onPacket delivery

theorem Withholds.same (completed : next.completed = start.completed) (callbacks : next.callbacks = start.callbacks) :
    Withholds start next :=
  ⟨completed, [], by rw [callbacks, List.append_nil], fun _ member => (nomatch member)⟩

theorem Withholds.refl : Withholds transport transport := .same rfl rfl

theorem Withholds.trans {last : UdpTransport} (earlier : Withholds start next) (later : Withholds next last) :
    Withholds start last := by
  obtain ⟨first, firstTold, firstKinds⟩ := earlier.callbacks
  obtain ⟨second, secondTold, secondKinds⟩ := later.callbacks
  refine ⟨later.completed.trans earlier.completed, first ++ second, ?_, fun callback member => ?_⟩
  · rw [secondTold, firstTold, List.append_assoc]
  · rcases List.mem_append.mp member with member | member
    · exact firstKinds callback member
    · exact secondKinds callback member

theorem Withholds.extends (withholds : Withholds start next) : Extends start next := by
  obtain ⟨told, callbacks, -⟩ := withholds.callbacks
  exact ⟨withholds.completed, fun _ member => callbacks ▸ List.mem_append_left _ member⟩

theorem Quiet.withholds (quiet : Quiet start next) : Withholds start next := .same quiet.completed quiet.callbacks

theorem Quiet.extends (quiet : Quiet start next) : Extends start next := quiet.withholds.extends

theorem Withholds.change {update : UdpTransport → UdpTransport}
    (withholds : ∀ transport, Withholds transport (update transport)) :
    Keeps (Withholds start) (change update : Handling PUnit) :=
  Keeps.change fun state held => held.trans (withholds state)

theorem withholds_of_quiet {handler : Handling α} (quiet : ∀ start, Keeps (Quiet start) handler) :
    Keeps (Withholds start) handler := by
  intro state held
  have kept := quiet state state .refl
  rcases run : handler state with ⟨outcome, final⟩
  rw [run] at kept
  cases outcome <;> exact held.trans (Quiet.withholds kept)

theorem removeSession_withholds : Withholds transport (transport.removeSession session) :=
  .same removeSession_completed removeSession_callbacks

theorem removeSessions_withholds {sessions : List Session} : Withholds transport (removeSessions sessions transport) := by
  induction sessions generalizing transport with
  | nil => exact .refl
  | cons session rest ih => exact removeSession_withholds.trans ih

theorem callback_withholds {told : Callback} (kind : ∀ delivery, told ≠ .onPacket delivery) :
    Keeps (Withholds start) (callback told) :=
  Withholds.change fun _ => ⟨rfl, [told], rfl, fun _ member => List.mem_singleton.mp member ▸ kind⟩

theorem told_connected_withholds : Keeps (Withholds start) (callback (.dispatchConnected session)) :=
  callback_withholds fun _ other => nomatch other

theorem told_disconnected_withholds {sessionId : SessionId} :
    Keeps (Withholds start) (callback (.onDisconnected peerId sessionId)) :=
  callback_withholds fun _ other => nomatch other

/-! ## Handlers that complete no packet -/

theorem dropUnconfirmed_withholds {current : Option Session} : Withholds transport (transport.dropUnconfirmed current) := by
  unfold dropUnconfirmed
  split
  · split
    · exact .refl
    · exact removeSession_withholds
  · exact .refl

theorem addSession_completed : (transport.addSession session).completed = transport.completed := by
  simp only [addSession]
  split
  · split
    · exact removeSession_completed
    · rfl
  · rfl

theorem handleHello_withholds {hello : Hello} :
    Keeps (Withholds start) (handleHello settings now hello route) := by
  refine Keeps.bind (withholds_of_quiet fun state => ?_) fun opening => ?_
  · exact Ensures.weaken admitHello_spec (fun _ quiet => quiet) (fun _ _ held => held.1) fun _ quiet => quiet
  · split
    · exact Keeps.pure
    · exact Keeps.read fun _ _ => Keeps.bind Keeps.refuse fun _ =>
        Keeps.bind (Withholds.change fun _ => dropUnconfirmed_withholds) fun _ => Keeps.bind Keeps.orRaise fun _ =>
          Keeps.bind (Withholds.change fun _ => Withholds.same addSession_completed addSession_callbacks)
            fun _ => withholds_of_quiet fun _ => sendAuthenticated_quiet

theorem promoteSession_completed : (transport.promoteSession session now).completed = transport.completed := by
  simp only [promoteSession, vacateActive]
  split
  · rfl
  · split
    · rfl
    · split
      · rfl
      · exact removeSession_completed

theorem confirmedState_withholds : Withholds transport (transport.confirmedState now session) := by
  have confirmed : Withholds transport (transport.confirm now session) := .same rfl rfl
  have popped : Withholds (transport.confirm now session)
      ((transport.confirm now session).popAttempt session.peerId) := popAttempt_quiet.withholds
  exact (confirmed.trans popped).trans (.same promoteSession_completed promoteSession_callbacks)

theorem handleReady_withholds : Keeps (Withholds start) (handleReady settings now session) := by
  refine Keeps.bind (Keeps.read fun _ _ => Keeps.ite (fun _ => Keeps.pure) fun _ => ?_) fun _ =>
    Keeps.read fun _ _ => Keeps.ite (fun _ => Keeps.pure) fun _ => ?_
  · exact Keeps.bind (Withholds.change fun _ => confirmedState_withholds) fun _ =>
      withholds_of_quiet fun _ => sendAuthenticated_quiet
  · exact Keeps.bind (Withholds.change fun _ => .same rfl rfl) fun _ =>
      Keeps.read fun _ _ => Keeps.ite (fun _ => told_connected_withholds) fun _ => Keeps.pure

theorem handleGoodbye_withholds : Keeps (Withholds start) (handleGoodbye session) :=
  Keeps.read fun _ _ => Keeps.bind (Withholds.change fun _ => removeSession_withholds) fun _ =>
    Keeps.ite (fun _ => told_disconnected_withholds) fun _ => Keeps.pure

theorem handleKeepalive_withholds {header : AuthHeader} {tag : Bytes} :
    Keeps (Withholds start) (handleKeepalive settings now header tag route) := by
  refine Keeps.bind (withholds_of_quiet fun _ => ?_) fun session => Keeps.bind Keeps.refuse fun _ =>
    Keeps.ite (fun _ => handleReady_withholds) fun _ => Keeps.read fun _ _ => Keeps.bind Keeps.refuse fun _ =>
      Keeps.bind (Withholds.change fun _ => touch_quiet.withholds) fun _ => ?_
  · exact Ensures.weaken sessionFor_spec (fun _ quiet => quiet) (fun _ _ held => held.1) fun _ quiet => quiet
  · split
    · exact withholds_of_quiet fun _ => sendAuthenticated_quiet
    · exact handleGoodbye_withholds
    all_goals exact Keeps.pure

theorem punchStep_withholds {serial : Nat} (stepped : punchStep settings now serial transport = some next) :
    Withholds transport next := by
  obtain ⟨punch, -, rfl⟩ := Option.map_eq_some_iff.mp stepped
  dsimp only
  split
  · rename_i remaining _
    have kept : Keeps (Withholds transport) (punchRound settings punch.attempt) :=
      withholds_of_quiet fun _ => punchRound_quiet
    have round := kept transport .refl
    rcases run : punchRound settings punch.attempt transport with ⟨outcome, middle⟩
    rw [run] at round
    rcases outcome with failure | _ | _
    · exact round.trans (.same rfl rfl)
    · exact round.trans (.same rfl rfl)
    · exact round.trans (.same rfl rfl)
  · have exhausted : Keeps (Withholds transport) (punchExhausted settings now punch.attempt) := by
      refine Keeps.read fun _ _ => Keeps.ite (fun _ => Keeps.bind (Withholds.change fun state => ?_) fun _ =>
        withholds_of_quiet fun _ => relayFallback_quiet) fun _ => Keeps.pure
      simp only [abandonAttempt]
      split
      · split
        · exact .same rfl rfl
        · have popped : Withholds state { state with attempts := state.attempts.erase punch.attempt.peerId } :=
            .same rfl rfl
          exact popped.trans removeSession_withholds
      · exact .same rfl rfl
    exact (exhausted.finish .refl).trans (.same rfl rfl)

theorem visitActive_withholds {token : Nat} : Keeps (Withholds start) (visitActive settings now session token) :=
  Keeps.read fun _ _ => Keeps.ite (fun _ => Withholds.change fun _ => removeSession_withholds) fun _ =>
    Keeps.ite (fun _ => Keeps.bind (Withholds.change fun _ => removeSession_withholds) fun _ => told_disconnected_withholds) fun _ =>
      Keeps.bind (Keeps.read fun _ _ => Keeps.ite (fun _ => withholds_of_quiet fun _ => keepAlive_quiet)
        fun _ => Keeps.pure) fun _ => Withholds.change fun _ => sweep_quiet.withholds

theorem visitRetiring_withholds {expiresAt : Time} : Keeps (Withholds start) (visitRetiring now session expiresAt) :=
  Keeps.ite (fun _ => Keeps.bind (Withholds.change fun _ => removeSession_withholds) fun _ => told_disconnected_withholds) fun _ =>
    Withholds.change fun _ => sweep_quiet.withholds

theorem maintain_withholds {piece : Handling PUnit} {following : Maintenance} (kept : Keeps (Withholds transport) piece) :
    Withholds transport (maintain piece following transport) := by
  have result := kept transport .refl
  unfold maintain
  rcases run : piece transport with ⟨outcome, final⟩
  rw [run] at result
  cases outcome <;> exact Withholds.trans result (.same rfl rfl)

theorem maintenanceStep_withholds {token : Nat} (stepped : maintenanceStep settings now token transport = some next) :
    Withholds transport next := by
  unfold maintenanceStep at stepped
  split at stepped
  · cases stepped; exact .same rfl rfl
  · cases stepped; exact maintain_withholds visitActive_withholds
  · cases stepped; exact .same rfl rfl
  · cases stepped; exact maintain_withholds visitRetiring_withholds
  · cases stepped
    exact removeSessions_withholds.trans (.same rfl rfl)
  · contradiction

/-! ## DATA -/

/-- Completed packets that the owner may be given are handed over. -/
structure HandsOver (start next : UdpTransport) : Prop where
  callbacks : ∀ told ∈ start.callbacks, told ∈ next.callbacks
  completed : ∀ delivery ∈ next.completed,
    delivery ∈ start.completed ∨ (delivery.allowed = true → .onPacket delivery ∈ next.callbacks)

theorem Extends.handsOver (extension : Extends start next) : HandsOver start next :=
  ⟨extension.callbacks, fun _ member => .inl (extension.completed ▸ member)⟩

theorem Extends.thenHandsOver {last : UdpTransport} (extension : Extends start next) (hands : HandsOver next last) :
    HandsOver start last :=
  ⟨fun told member => hands.callbacks told (extension.callbacks told member),
    fun delivery member => (hands.completed delivery member).imp_left fun earlier => extension.completed ▸ earlier⟩

/-- The acknowledgement of a packet that the datagram completes can be sent;
the source sends it before it hands the packet over. -/
def AcknowledgesCompleted (settings : Settings) (transport : UdpTransport) : Time × TransportEvent → Prop
  | (now, .datagramReceived (.data header ciphertext) route) =>
      hears settings route = true →
        match receivePacket settings now header ciphertext route transport with
        | (.ok (some (session, _)), after) => CanSend after session.route
        | _ => True
  | _ => True

instance (settings : Settings) (transport : UdpTransport) :
    ∀ event, Decidable (AcknowledgesCompleted settings transport event)
  | (now, .datagramReceived (.data header ciphertext) route) => by
      unfold AcknowledgesCompleted
      exact @instDecidableForall _ _ inferInstance <|
        match receivePacket settings now header ciphertext route transport with
        | (.ok (some (session, _)), after) => inferInstanceAs (Decidable (CanSend after session.route))
        | (.ok none, _) | (.error _, _) => inferInstanceAs (Decidable True)
  | (_, .datagramReceived .empty _) | (_, .datagramReceived (.hello _) _)
  | (_, .datagramReceived (.authenticated _ _) _) | (_, .punch _) | (_, .maintenance _) | (_, .expectPeer _ _)
  | (_, .expectDerpPeer _) | (_, .configureDerp _ _) | (_, .clearDirectCandidate _) | (_, .forgetCandidate _)
  | (_, .sendPacket _ _ _ _ _) | (_, .sendRound _) => inferInstanceAs (Decidable True)

theorem acceptPacket_handsOver {messageId : Nat} {packet : Packet} (can : CanSend transport session.route) :
    Ensures (· = transport) (acceptPacket settings now session messageId packet)
      (fun _ => HandsOver transport) (HandsOver transport) := by
  let delivery : Delivery := { session, messageId, packet }
  let marked : UdpTransport :=
    { transport.updateStatus session (fun status => { status with seen := status.seen.set messageId now }) with
      completed := transport.completed ++ [delivery] }
  have handed : ∀ {state : UdpTransport}, (∀ told ∈ transport.callbacks, told ∈ state.callbacks) →
      state.completed = marked.completed → (delivery.allowed = true → .onPacket delivery ∈ state.callbacks) →
      HandsOver transport state := by
    intro state callbacks completed told
    refine ⟨callbacks, fun other member => ?_⟩
    rw [completed] at member
    rcases List.mem_append.mp member with earlier | new
    · exact .inl earlier
    · exact .inr (List.mem_singleton.mp new ▸ told)
  refine Ensures.bind (Ensures.change (Q := fun _ state => state = marked) fun state same => same ▸ rfl) fun _ =>
    Ensures.bind (Ensures.weaken sendRoute_spec (fun _ same => same) (fun _ _ quiet => quiet) ?_) fun _ => ?_
  · rintro state ⟨-, cannot⟩
    exact absurd can cannot
  · split
    · rename_i retired
      refine Ensures.pure fun state quiet => handed (fun _ member => quiet.callbacks ▸ member) quiet.completed ?_
      simp [delivery, Delivery.allowed, retired]
    · exact Ensures.change fun state quiet => handed
        (fun _ member => List.mem_append_left _ (quiet.callbacks ▸ member)) quiet.completed
        fun _ => List.mem_append_right _ (List.mem_singleton.mpr rfl)

theorem handleData_handsOver {header : DataHeader} {ciphertext : Bytes}
    (can : match receivePacket settings now header ciphertext route transport with
      | (.ok (some (session, _)), after) => CanSend after session.route
      | _ => True) :
    HandsOver transport ((handleData settings now header ciphertext route).finish transport) := by
  have kept : Keeps (Quiet transport) (receivePacket settings now header ciphertext route) := receivePacket_quiet
  have received := kept transport .refl
  unfold handleData finish
  rw [bind_apply]
  rcases run : receivePacket settings now header ciphertext route transport with ⟨outcome, middle⟩
  rw [run] at received can
  rcases outcome with failure | _ | ⟨session, packet⟩
  · exact (Quiet.extends received).handsOver
  · exact (Quiet.extends received).handsOver
  · exact (Quiet.extends received).thenHandsOver (Ensures.finish (acceptPacket_handsOver can) rfl)

/-- Only a DATA datagram completes a packet or hands one over. -/
theorem step_withholds {event : TransportEvent}
    (other : ∀ header ciphertext route, event ≠ .datagramReceived (.data header ciphertext) route)
    (stepped : step settings transport (now, event) = some next) : Withholds transport next := by
  cases event with
  | datagramReceived datagram route =>
      cases stepped
      unfold datagramReceived
      by_cases refused : settings.forceRelay ∧ !route.2
      · rw [if_pos refused]; exact .refl
      · rw [if_neg refused]
        cases datagram with
        | empty => exact .refl
        | hello hello => exact handleHello_withholds.finish .refl
        | data header ciphertext => exact absurd rfl (other header ciphertext route)
        | authenticated header tag =>
            dsimp only
            split
            · exact (withholds_of_quiet fun _ => handleAck_quiet).finish .refl
            · exact handleKeepalive_withholds.finish .refl
  | punch serial => exact punchStep_withholds stepped
  | maintenance token => exact maintenanceStep_withholds stepped
  | expectPeer peerId endpoint =>
      cases stepped
      exact (expectPeer_quiet.finish .refl).withholds
  | expectDerpPeer peerId =>
      cases stepped
      exact (expectDerpPeer_quiet.finish .refl).withholds
  | configureDerp sender serverEnabled =>
      cases stepped
      exact .same rfl rfl
  | clearDirectCandidate peerId =>
      cases stepped
      exact withdrawDirect_quiet.withholds.trans removeSessions_withholds
  | forgetCandidate peerId =>
      cases stepped
      exact withdraw_quiet.withholds.trans removeSessions_withholds
  | sendPacket call peerId packet messageId nonces =>
      simp only [step] at stepped
      split at stepped
      · contradiction
      · cases stepped
        exact (sendPacket_quiet.finish .refl).withholds
  | sendRound call =>
      obtain ⟨sending, -, rfl⟩ := Option.map_eq_some_iff.mp stepped
      exact (sendRound_quiet.finish .refl).withholds

theorem datagramReceived_data {header : DataHeader} {ciphertext : Bytes} :
    (datagramReceived settings now (.data header ciphertext) route).finish transport =
      if hears settings route then (handleData settings now header ciphertext route).finish transport else transport := by
  unfold datagramReceived hears
  cases settings.forceRelay <;> cases route.2 <;> rfl

theorem step_handsOver {event : Time × TransportEvent} (acknowledges : AcknowledgesCompleted settings transport event)
    (stepped : step settings transport event = some next) : HandsOver transport next := by
  obtain ⟨now, event⟩ := event
  by_cases data : ∃ header ciphertext route, event = .datagramReceived (.data header ciphertext) route
  · obtain ⟨header, ciphertext, route, rfl⟩ := data
    simp only [step, datagramReceived_data, Option.some.injEq] at stepped
    subst stepped
    split
    · rename_i heard
      exact handleData_handsOver (acknowledges heard)
    · exact Withholds.refl.extends.handsOver
  · have other : ∀ header ciphertext route, event ≠ .datagramReceived (.data header ciphertext) route :=
      fun header ciphertext route same => data ⟨header, ciphertext, route, same⟩
    exact (step_withholds other stepped).extends.handsOver

end UdpTransport

end MeshTalk.Udp
