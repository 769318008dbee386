import MeshTalk.Udp.Origins

namespace MeshTalk.Udp

open MeshTalk.Library MeshTalk.Protocol Handler

/-! # Waiting calls of `send_packet`

A call that waits for its acknowledgement is ended by a round of its own and by
nothing else.
-/

namespace UdpTransport

variable {settings : Settings} {now : Time} {transport start next final : UdpTransport} {session : Session}
  {route : Route} {call : Nat} {sending : Sending}

/-- The call waits with the packet it was made for; how many rounds it has left
and whether it is acknowledged may have changed. -/
def Waits (call : Nat) (sending : Sending) (transport : UdpTransport) : Prop :=
  ∃ remaining acknowledged, transport.sending.get? call = some { sending with remaining, acknowledged }

/-- The round of a call that ends it: the packet was acknowledged, or every round
has been sent, or the relay of its session is not available. -/
def EndsCall (call : Nat) (transport : UdpTransport) : Time × TransportEvent → Prop
  | (_, .sendRound ending) => ending = call ∧ ∃ held, transport.sending.get? call = some held ∧
      (held.acknowledged = true ∨ held.remaining = 0 ∨ ¬ CanSend transport held.session.route)
  | _ => False

/-- Only datagrams have been sent. -/
def Transmits (start next : UdpTransport) : Prop :=
  next.sending = start.sending ∧ next.derpSender = start.derpSender ∧ next.derpPeers = start.derpPeers

theorem Transmits.canSend (transmits : Transmits start next) : CanSend next route ↔ CanSend start route := by
  rw [CanSend, CanSend, transmits.2.1, transmits.2.2]

theorem sendRoute_transmits {datagram : Datagram} :
    Ensures (Transmits transport) (sendRoute datagram route) (fun _ => Transmits transport)
      (fun state => Transmits transport state ∧ ¬ CanSend transport route) := by
  refine Ensures.read fun seen transmits => Ensures.bind
    (Ensures.refuse (Q := fun _ state => state = seen) ?_ fun _ same _ => same) fun _ =>
      Ensures.change fun state same => same ▸ transmits
  rintro state rfl ⟨relayed, missing⟩
  refine ⟨transmits, fun can => ?_⟩
  obtain ⟨sender, routed⟩ := transmits.canSend.mpr can relayed
  simp [sender, routed] at missing

theorem sendAll_transmits {datagrams : List Datagram} :
    Ensures (Transmits transport) (sendAll route datagrams) (fun _ => Transmits transport)
      (fun state => Transmits transport state ∧ ¬ CanSend transport route) := by
  induction datagrams with
  | nil => exact Ensures.pure fun _ held => held
  | cons datagram rest ih => exact Ensures.bind sendRoute_transmits fun _ => ih

/-- What a round leaves of the calls. -/
theorem sendRound_sending {ending : Nat} {held : Sending} (found : transport.sending.get? ending = some held) :
    (∀ other, other ≠ ending →
      ((sendRound ending held).finish transport).sending.get? other = transport.sending.get? other) ∧
    (¬ EndsCall ending transport (now, .sendRound ending) →
      ((sendRound ending held).finish transport).sending.get? ending =
        some { held with remaining := held.remaining - 1 }) := by
  have finished : ∀ (state : UdpTransport) other, other ≠ ending → state.sending = transport.sending →
      (state.finishSending ending held).sending.get? other = transport.sending.get? other := by
    intro state other apart same
    simp only [finishSending]
    rw [Dict.get?_erase, if_neg apart, same]
  have ends : ∀ reason : held.acknowledged = true ∨ held.remaining = 0 ∨ ¬ CanSend transport held.session.route,
      EndsCall ending transport (now, .sendRound ending) := fun reason => ⟨rfl, held, found, reason⟩
  unfold sendRound
  split
  · rename_i acknowledged
    exact ⟨fun other apart => finished transport other apart rfl, fun stays => absurd (ends (.inl acknowledged)) stays⟩
  · split
    · rename_i exhausted
      exact ⟨fun other apart => finished transport other apart rfl,
        fun stays => absurd (ends (.inr (.inl exhausted))) stays⟩
    · have sent := @sendAll_transmits transport held.session.route held.datagrams transport ⟨rfl, rfl, rfl⟩
      simp only [finish, bind_apply, onRaise]
      rcases run : sendAll held.session.route held.datagrams transport with ⟨outcome, middle⟩
      rw [run] at sent
      cases outcome with
      | error failure =>
          exact ⟨fun other apart => finished middle other apart sent.1.1,
            fun stays => absurd (ends (.inr (.inr sent.2))) stays⟩
      | ok _ =>
          refine ⟨fun other apart => ?_, fun _ => ?_⟩
          · change (middle.sending.set ending _).get? other = _
            rw [Dict.get?_set, if_neg apart, sent.1]
          · change (middle.sending.set ending _).get? ending = _
            rw [Dict.get?_set, if_pos rfl]

theorem Waits.congr (waits : Waits call sending start) (same : next.sending.get? call = start.sending.get? call) :
    Waits call sending next := by
  unfold Waits
  rwa [same]

theorem waits_of_spares (settings : Settings) {handler : Handling α} (spares : ∀ start, Keeps (Spares settings start) handler) :
    Keeps (Waits call sending) handler := by
  intro state waits
  have kept := spares state state .refl
  rcases run : handler state with ⟨outcome, final⟩
  rw [run] at kept
  cases outcome <;> exact waits.congr (by rw [Spares.sending kept])

theorem handleAck_waits {header : AuthHeader} {tag : Bytes} :
    Keeps (Waits call sending) (handleAck settings now header tag route) := by
  refine Keeps.bind (waits_of_spares settings fun _ => sessionFor_spares) fun session => Keeps.bind Keeps.refuse fun _ =>
    Keeps.bind (waits_of_spares settings fun _ => Spares.change fun _ => updateStatus_spares) fun _ => ?_
  refine Ensures.read fun seen waits => ?_
  split
  · exact Ensures.pure fun _ same => same ▸ waits
  · rename_i acknowledged _
    split
    · exact Ensures.pure fun _ same => same ▸ waits
    · rename_i held found
      refine Ensures.change ?_
      rintro state rfl
      obtain ⟨remaining, answered, waiting⟩ := waits
      simp only [Waits, Dict.get?_set]
      split
      · rename_i same
        rw [← same, waiting] at found
        cases found
        exact ⟨remaining, true, rfl⟩
      · exact ⟨remaining, answered, waiting⟩

/-- Nothing but a round of its own ends a waiting call. -/
theorem step_waits {event : Time × TransportEvent} (waits : Waits call sending transport)
    (stays : ¬ EndsCall call transport event) (stepped : step settings transport event = some next) :
    Waits call sending next := by
  by_cases calls : OfCalls event
  · unfold OfCalls at calls
    split at calls
    · rename_i now other peerId packet messageId nonces
      simp only [step] at stepped
      split at stepped
      · contradiction
      · rename_i fresh
        cases stepped
        have apart : call ≠ other := by
          rintro rfl
          obtain ⟨_, _, waiting⟩ := waits
          simp [Dict.contains, waiting] at fresh
        have kept : Keeps (Waits call sending) (sendPacket settings other peerId packet messageId nonces) := by
          refine Keeps.read fun _ _ => Keeps.bind Keeps.orRaise fun _ => Keeps.bind Keeps.orRaise fun _ =>
            Keeps.bind Keeps.refuse fun _ => Keeps.bind Keeps.refuse fun _ => Keeps.change fun state waits => ?_
          refine waits.congr ?_
          rw [Dict.get?_set, if_neg apart]
        exact kept.finish waits
    · rename_i now ending
      obtain ⟨held, found, rfl⟩ := Option.map_eq_some_iff.mp stepped
      obtain ⟨others, own⟩ := @sendRound_sending now transport ending held found
      by_cases same : call = ending
      · subst same
        obtain ⟨remaining, acknowledged, waiting⟩ := waits
        cases found.symm.trans waiting
        exact ⟨remaining - 1, acknowledged, own stays⟩
      · exact waits.congr (others call same)
    · cases stepped
      simp only [datagramReceived, if_pos calls]
      split
      · exact waits
      · exact handleAck_waits.finish waits
    · contradiction
  · exact waits.congr (by rw [(step_spares calls stepped).sending])

/-- An acknowledgement of the session's peer is found and noted. -/
theorem acknowledged {header : AuthHeader} (typed : header.type = .ack) (listed : transport.Listed session)
    (own : header.sessionId = session.sessionId) (confirmed : transport.confirmed session = true)
    (heard : hears settings session.route = true) {held : Sending}
    (registered : transport.pending.get? (header.sessionId, header.token) = some call)
    (found : transport.sending.get? call = some held)
    (stepped : step settings transport (now, .datagramReceived
      (.authenticated header (settings.crypto.tag session.receiveAuthenticationKey header)) session.route) = some next) :
    next.sending.get? call = some { held with acknowledged := true } := by
  have opened : ¬ (settings.forceRelay ∧ !session.route.2) := by
    rw [hears, Bool.not_eq_true', Bool.eq_false_iff, ne_eq, Bool.and_eq_true] at heard
    exact heard
  have listed : transport.sessionsById.get? session.sessionId = some session := listed
  have looked : sessionFor header.sessionId session.route true transport = (.ok session, transport) := by
    simp [sessionFor, bind_apply, Handler.read, Handler.orRaise, Handler.refuse, own, listed, Option.filter, confirmed]
  cases stepped
  simp only [datagramReceived, if_neg opened, if_pos typed, handleAck, finish, bind_apply, looked]
  simp [authenticated, Handler.refuse, Handler.change, Handler.read, touch, updateStatus, registered, found]

end UdpTransport

end MeshTalk.Udp
