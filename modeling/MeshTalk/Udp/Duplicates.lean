import MeshTalk.Udp.Fragments

namespace MeshTalk.Udp

open MeshTalk.Library MeshTalk.Protocol Handler

/-! # How often a message is handed to the owner

The `seen` table of a session forgets a message after a while, but the session
goes on accepting its datagrams.
-/

namespace UdpTransport

variable {settings : Settings} {now : Time} {transport start next final : UdpTransport} {session : Session}
  {route : Route} {header : DataHeader} {ciphertext fragment : Bytes} {packet : Packet} {serial messageId : Nat}

/-- The packet a callback hands over for a message of a session. -/
def Callback.packetOf (serial messageId : Nat) : Callback → Option Packet
  | .onPacket delivery =>
      if delivery.session.serial = serial ∧ delivery.messageId = messageId then some delivery.packet else none
  | .dispatchConnected _ | .onDisconnected _ _ => none

/-- The packets of a message of a session that were handed to the owner. -/
def handed (transport : UdpTransport) (serial messageId : Nat) : List Packet :=
  transport.callbacks.filterMap (Callback.packetOf serial messageId)

theorem handed_congr (same : next.callbacks = transport.callbacks) :
    next.handed serial messageId = transport.handed serial messageId := by
  rw [handed, same, handed]

theorem told_handed {told : Callback} :
    (transport.told told).handed serial messageId =
      transport.handed serial messageId ++ (Callback.packetOf serial messageId told).toList := by
  rw [handed, UdpTransport.told, List.filterMap_append, handed]
  cases found : Callback.packetOf serial messageId told <;> simp [found]

theorem Withholds.handed (withholds : Withholds transport next) :
    next.handed serial messageId = transport.handed serial messageId := by
  obtain ⟨told, callbacks, kinds⟩ := withholds.callbacks
  have none : told.filterMap (Callback.packetOf serial messageId) = [] := by
    refine List.filterMap_eq_nil_iff.mpr fun callback member => ?_
    cases callback with
    | onPacket delivery => exact absurd rfl (kinds _ member delivery)
    | dispatchConnected session => rfl
    | onDisconnected peerId sessionId => rfl
  rw [UdpTransport.handed, callbacks, List.filterMap_append, none, List.append_nil, UdpTransport.handed]

/-- The event is a heard DATA datagram with the last missing fragment of a packet
of a live type, and the acknowledgement can be sent. -/
def Hands (settings : Settings) (transport : UdpTransport) (session : Session) (messageId : Nat) (packet : Packet) :
    Time × TransportEvent → Prop
  | (now, .datagramReceived (.data header ciphertext) route) =>
      hears settings route = true ∧ header.messageId = messageId ∧ CanSend transport route ∧ Supported packet ∧
        ∃ fragment, Completing settings now transport header ciphertext route session fragment packet
  | _ => False

/-- The last missing fragment arrives of a message that was handed over before
and that the session has no entry in `seen` for. -/
def Redelivers (settings : Settings) (transport : UdpTransport) (event : Time × TransportEvent) : Prop :=
  ∃ session messageId packet, Hands settings transport session messageId packet event ∧
    transport.handed session.serial messageId ≠ []

theorem handleData_handed (serial messageId : Nat)
    (completing : Completing settings now transport header ciphertext route session fragment packet)
    (can : CanSend transport route) (supported : Supported packet) :
    ((handleData settings now header ciphertext route).finish transport).handed serial messageId =
      transport.handed serial messageId ++
        (Callback.packetOf serial messageId (.onPacket { session, messageId := header.messageId, packet })).toList := by
  obtain ⟨received, answered, only, answer, final⟩ := handleData_completing completing
  have callbacks : answered.callbacks = transport.callbacks := answer.quiet.callbacks.trans only.quiet.callbacks
  rw [final, if_pos ⟨can, supported⟩, told_handed, handed_congr callbacks]

/-- What an event adds to the packets handed over. -/
theorem step_handed {event : Time × TransportEvent} (stepped : step settings transport event = some next) :
    (∃ session id packet, Hands settings transport session id packet event ∧ ∀ serial messageId,
      next.handed serial messageId = transport.handed serial messageId ++
        (Callback.packetOf serial messageId (.onPacket { session, messageId := id, packet })).toList) ∨
      ∀ serial messageId, next.handed serial messageId = transport.handed serial messageId := by
  obtain ⟨now, event⟩ := event
  by_cases data : ∃ header ciphertext route, event = .datagramReceived (.data header ciphertext) route
  · obtain ⟨header, ciphertext, route, rfl⟩ := data
    simp only [step, datagramReceived_data, Option.some.injEq] at stepped
    subst stepped
    by_cases heard : hears settings route = true
    · rw [if_pos heard]
      by_cases some : ∃ session fragment packet,
          Completing settings now transport header ciphertext route session fragment packet
      · obtain ⟨session, fragment, packet, completing⟩ := some
        by_cases both : CanSend transport route ∧ Supported packet
        · exact .inl ⟨session, header.messageId, packet, ⟨heard, rfl, both.1, both.2, fragment, completing⟩,
            fun _ _ => handleData_handed _ _ completing both.1 both.2⟩
        · obtain ⟨received, answered, only, answer, final⟩ := handleData_completing completing
          rw [if_neg both] at final
          rw [final]
          exact .inr fun _ _ => handed_congr (answer.quiet.callbacks.trans only.quiet.callbacks)
      · have incomplete : ∀ session fragment packet,
            ¬ Completing settings now transport header ciphertext route session fragment packet :=
          fun session fragment packet completing => some ⟨session, fragment, packet, completing⟩
        exact .inr fun _ _ => handed_congr (handleData_incomplete incomplete).quiet.callbacks
    · rw [if_neg heard]
      exact .inr fun _ _ => rfl
  · have other : ∀ header ciphertext route, event ≠ .datagramReceived (.data header ciphertext) route :=
      fun header ciphertext route same => data ⟨header, ciphertext, route, same⟩
    exact .inr fun _ _ => (step_withholds other stepped).handed

theorem step_hands {event : Time × TransportEvent} (stepped : step settings transport event = some next)
    (hands : Hands settings transport session messageId packet event) :
    next.handed session.serial messageId = transport.handed session.serial messageId ++ [packet] := by
  obtain ⟨now, event⟩ := event
  unfold Hands at hands
  split at hands
  · rename_i clock header ciphertext route same
    obtain ⟨rfl, rfl⟩ := Prod.mk.inj same
    obtain ⟨heard, rfl, can, supported, fragment, completing⟩ := hands
    simp only [step, datagramReceived_data, Option.some.injEq] at stepped
    rw [← stepped, if_pos heard, handleData_handed _ _ completing can supported]
    simp [Callback.packetOf]
  · contradiction

theorem step_handed_length {event : Time × TransportEvent} (stepped : step settings transport event = some next) :
    (transport.handed serial messageId).length ≤ (next.handed serial messageId).length := by
  rcases step_handed stepped with ⟨session, id, packet, -, adds⟩ | same
  · rw [adds, List.length_append]
    exact Nat.le_add_right _ _
  · exact Nat.le_of_eq (congrArg List.length (same serial messageId)).symm

theorem run_handed_length {events : List (Time × TransportEvent)}
    (completed : run (step settings) start events = some final) :
    (start.handed serial messageId).length ≤ (final.handed serial messageId).length := by
  induction events generalizing start with
  | nil => cases completed; exact Nat.le_refl _
  | cons event rest ih =>
      obtain ⟨next, stepped, remaining⟩ := run_cons_some completed
      exact Nat.le_trans (step_handed_length stepped) (ih remaining)

/-- A step that delivers no message again keeps every message delivered at most
once. -/
theorem step_once {event : Time × TransportEvent} (once : ∀ serial messageId, (transport.handed serial messageId).length ≤ 1)
    (stepped : step settings transport event = some next) (fresh : ¬ Redelivers settings transport event) :
    ∀ serial messageId, (next.handed serial messageId).length ≤ 1 := by
  intro serial messageId
  rcases step_handed stepped with ⟨session, id, packet, hands, adds⟩ | same
  · rw [adds]
    by_cases addressed : session.serial = serial ∧ id = messageId
    · obtain ⟨rfl, rfl⟩ := addressed
      have none : transport.handed session.serial id = [] :=
        not_not.mp fun some => fresh ⟨session, id, packet, hands, some⟩
      simp [none, Callback.packetOf]
    · simpa [Callback.packetOf, addressed] using once serial messageId
  · rw [same]
    exact once serial messageId

/-- Every message of every session is handed over at most once in a run just if
no step of the run delivers one again. -/
theorem once_iff {events : List (Time × TransportEvent)}
    (once : ∀ serial messageId, (start.handed serial messageId).length ≤ 1)
    (completed : run (step settings) start events = some final) :
    (∀ serial messageId, (final.handed serial messageId).length ≤ 1) ↔
      Meets (step settings) (fun transport event => ¬ Redelivers settings transport event) start events := by
  induction events generalizing start with
  | nil => cases completed; exact ⟨fun _ => trivial, fun _ => once⟩
  | cons event rest ih =>
      obtain ⟨next, stepped, remaining⟩ := run_cons_some completed
      constructor
      · intro bounded
        have fresh : ¬ Redelivers settings start event := by
          rintro ⟨session, messageId, packet, hands, before⟩
          have adds := step_hands stepped hands
          have grows : (next.handed session.serial messageId).length ≤ (final.handed session.serial messageId).length :=
            run_handed_length remaining
          have some : 0 < (start.handed session.serial messageId).length := List.length_pos_iff.mpr before
          rw [adds, List.length_append, List.length_singleton] at grows
          have most := bounded session.serial messageId
          omega
        refine ⟨fresh, fun other again => ?_⟩
        cases stepped.symm.trans again
        exact (ih (step_once once stepped fresh) remaining).mp bounded
      · rintro ⟨fresh, later⟩
        exact (ih (step_once once stepped fresh) remaining).mpr (later next stepped)

/-- In a run of the transport every message of every session is handed to the
owner at most once just if no step finds the last fragment of a message that was
handed over before and has left `seen`. -/
theorem messages_delivered_once {events : List (Time × TransportEvent)}
    (completed : run (step settings) initial events = some final) :
    (∀ serial messageId, (final.handed serial messageId).length ≤ 1) ↔
      Meets (step settings) (fun transport event => ¬ Redelivers settings transport event) initial events :=
  once_iff (fun _ _ => Nat.zero_le 1) completed

def sampleSession : SessionId := List.replicate 8 0

/-- A MESSAGE packet in one fragment. -/
def messageFragment : TransportEvent :=
  .datagramReceived (.data { sessionId := sampleSession, messageId := 1, index := 0, count := 1, nonce := [] }
    [0, 0, 0, 0, 3]) homeRoute

def control (type : AuthenticatedType) : TransportEvent :=
  .datagramReceived (.authenticated { type, sessionId := sampleSession, token := 0 } []) homeRoute

/-- The packet arrives, the session is kept alive while its entry in `seen`
grows old, a tick drops the entry, and the same datagram arrives again. -/
def lateReplay : List (Time × TransportEvent) :=
  [(0, .datagramReceived (.hello sampleHello) homeRoute), (0, control .ready), (1, messageFragment),
    (8, control .ping), (13, .maintenance 0), (13, .maintenance 0), (14, messageFragment)]

theorem late_replay_is_delivered_twice :
    ¬ ∀ settings events final, run (step settings) initial events = some final →
      ∀ serial messageId, (final.handed serial messageId).length ≤ 1 := by
  intro once
  have reached : (run (step sampleSettings) initial lateReplay).any (fun final =>
      (final.handed 0 1).length = 2) = true := by decide +kernel
  simp only [Option.any_eq_true, decide_eq_true_eq] at reached
  obtain ⟨final, completed, twice⟩ := reached
  have most := once sampleSettings lateReplay final completed 0 1
  omega

/-- Before the tick the same datagram is only acknowledged again. -/
theorem early_replay_is_withheld : ∃ final,
    run (step sampleSettings) initial (lateReplay.take 4 ++ [(9, messageFragment)]) = some final ∧
      (final.handed 0 1).length = 1 ∧
      ((∀ serial messageId, (final.handed serial messageId).length ≤ 1) ↔
        Meets (step sampleSettings) (fun transport event => ¬ Redelivers sampleSettings transport event) initial
          (lateReplay.take 4 ++ [(9, messageFragment)])) := by
  have reached : ((run (step sampleSettings) initial (lateReplay.take 4 ++ [(9, messageFragment)])).map
      fun final => (final.handed 0 1).length) = some 1 := by decide +kernel
  obtain ⟨final, completed, length⟩ := Option.map_eq_some_iff.mp reached
  exact ⟨final, completed, length, messages_delivered_once completed⟩

end UdpTransport

end MeshTalk.Udp
