import MeshTalk.Peers.Agreement
import MeshTalk.Udp.Completed

namespace MeshTalk.Peers

open MeshTalk.Library MeshTalk.Protocol MeshTalk.Udp

/-! # Acknowledged packets and the owner's handler -/

namespace PeerManager

open PeerTables
open UdpTransport (TransportEvent Extends)

variable {settings : Udp.Settings} {manager final : PeerManager} {peer : PeerConnection} {delivery : Delivery} {draw : SendDraw}

/-- The peer of the delivery has a connected entry that accepts its packet. -/
def passes (manager : PeerManager) (delivery : Delivery) : Bool :=
  (manager.connectedUdp delivery.session.peerId).any fun peer => peer.acceptPacket delivery.packet

/-- What a callback adds to the deliveries that were acted on. -/
def passedBy (manager : PeerManager) : Callback → List Delivery
  | .onPacket delivery => if manager.passes delivery then [delivery] else []
  | .dispatchConnected _ | .onDisconnected _ _ => []

theorem onCallback_passed {told : Callback} :
    (manager.onCallback settings draw told).passed = manager.passed ++ manager.passedBy told := by
  cases told with
  | dispatchConnected session =>
      simp only [onCallback, dispatchConnected, onUdpConnected, passedBy, List.append_nil]
      split
      · split
        · rfl
        · split <;> rfl
      · rfl
  | onDisconnected peerId sessionId => exact (List.append_nil _).symm
  | onPacket delivery =>
      simp only [onCallback, onUdpPacket, passedBy, passes]
      split
      · rename_i absent
        simp [absent]
      · rename_i peer found
        simp only [found, Option.any_some]
        split
        · simp only [actOnPacket]
          split <;> rfl
        · exact (List.append_nil _).symm

theorem mem_passedBy {told : Callback} : delivery ∈ manager.passedBy told ↔
    told = .onPacket delivery ∧ manager.passes delivery = true := by
  cases told with
  | dispatchConnected session => simp [passedBy]
  | onDisconnected peerId sessionId => simp [passedBy]
  | onPacket other =>
      simp only [passedBy]
      grind

/-- Only allowed packets have been acted on, and every completed one that is
allowed has been or waits to be. -/
structure Delivers (manager : PeerManager) : Prop where
  sound : ∀ delivery ∈ manager.passed, delivery.allowed = true
  complete : ∀ delivery ∈ manager.udp.completed, delivery.allowed = true →
    .onPacket delivery ∈ manager.udp.callbacks ∨ delivery ∈ manager.passed

theorem Delivers.extends (delivers : Delivers manager) (passed : final.passed = manager.passed)
    (extension : Extends manager.udp final.udp) : Delivers final where
  sound := passed ▸ delivers.sound
  complete delivery member allowed := by
    rw [extension.completed] at member
    rw [passed]
    exact (delivers.complete delivery member allowed).imp_left (extension.callbacks _)

/-- The entry of the peer accepts the packet of the callback just if the session
allows it. -/
def PassesAllowed (manager : PeerManager) : Callback → Prop
  | .onPacket delivery => manager.passes delivery = delivery.allowed
  | .dispatchConnected _ | .onDisconnected _ _ => True

instance (manager : PeerManager) : ∀ told, Decidable (PassesAllowed manager told)
  | .onPacket _ => inferInstanceAs (Decidable (_ = _))
  | .dispatchConnected _ | .onDisconnected _ _ => inferInstanceAs (Decidable True)

/-- The events that lose no acknowledged packet: the acknowledgement of a packet
can be sent when it completes, and when its callback runs the peer's entry
accepts the packet just if the session allows it. -/
def KeepsDeliveries (settings : Udp.Settings) (manager : PeerManager) : Time × PeerEvent → Prop
  | (now, .transport event) => UdpTransport.AcknowledgesCompleted settings manager.udp (now, event)
  | (_, .runCallback index _) => ∀ told ∈ manager.udp.callbacks[index]?, PassesAllowed manager told
  | _ => True

theorem runCallback_delivers {index : Nat} {told : Callback} (delivers : Delivers manager)
    (found : manager.udp.callbacks[index]? = some told)
    (keeps : ∀ delivery, told = .onPacket delivery → manager.passes delivery = delivery.allowed) :
    Delivers ((manager.takeCallback index).onCallback settings draw told) := by
  have quiet : UdpTransport.Quiet (manager.takeCallback index).udp
      ((manager.takeCallback index).onCallback settings draw told).udp := onCallback_quiet
  constructor
  · intro delivery member
    rw [onCallback_passed] at member
    rcases List.mem_append.mp member with earlier | new
    · exact delivers.sound delivery earlier
    · obtain ⟨taken, accepted⟩ := mem_passedBy.mp new
      exact (keeps delivery taken).symm.trans accepted
  · intro delivery member allowed
    rw [quiet.completed] at member
    rw [onCallback_passed, quiet.callbacks]
    rcases delivers.complete delivery member allowed with waits | earlier
    · rcases takeCallback_mem found waits with left | taken
      · exact .inl left
      · exact .inr (List.mem_append_right _ (mem_passedBy.mpr ⟨taken.symm, (keeps delivery taken.symm).trans allowed⟩))
    · exact .inr (List.mem_append_left _ earlier)

theorem step_delivers {event : Time × PeerEvent} (delivers : Delivers manager)
    (keeps : KeepsDeliveries settings manager event) (stepped : step settings manager event = some final) :
    Delivers final := by
  obtain ⟨now, event⟩ := event
  cases event with
  | transport event =>
      simp only [step] at stepped
      split at stepped
      · contradiction
      · obtain ⟨udp, moved, rfl⟩ := Option.map_eq_some_iff.mp stepped
        have hands := UdpTransport.step_handsOver keeps moved
        refine ⟨delivers.sound, fun delivery member allowed => ?_⟩
        rcases hands.completed delivery member with earlier | told
        · exact (delivers.complete delivery earlier allowed).imp_left (hands.callbacks _)
        · exact .inl (told allowed)
  | runCallback index draw =>
      simp only [step, runCallback] at stepped
      split at stepped
      · contradiction
      · obtain ⟨told, found, rfl⟩ := Option.map_eq_some_iff.mp stepped
        refine runCallback_delivers delivers found ?_
        rintro delivery rfl
        exact keeps _ found
  | sendPacket serial packet draw =>
      simp only [step] at stepped
      split at stepped
      · contradiction
      · obtain ⟨peer, -, rfl⟩ := Option.map_eq_some_iff.mp stepped
        unfold sendPacket
        split
        · exact delivers
        · rcases sent : UdpTransport.sendPacket settings draw.call peer.peerId packet draw.messageId draw.nonces
            manager.udp with ⟨outcome, after⟩
          have quiet := quiet_of_run UdpTransport.sendPacket_quiet sent
          rcases outcome with (text | text) | _ <;> exact delivers.extends rfl quiet.extends
  | sendRound call =>
      obtain ⟨peer, -, rest⟩ := Option.bind_eq_some_iff.mp stepped
      obtain ⟨sending, -, rfl⟩ := Option.map_eq_some_iff.mp rest
      simp only [sendRound]
      rcases sent : UdpTransport.sendRound call sending manager.udp with ⟨outcome, after⟩
      have quiet := quiet_of_run UdpTransport.sendRound_quiet sent
      rcases outcome with (text | text) | (_ | _) <;> exact delivers.extends rfl quiet.extends
  | lanAuthenticated peerId endpoint capabilities outbound =>
      cases stepped
      simp only [lanAuthenticated]
      split <;> exact delivers.extends rfl .refl
  | seeded serial loaded =>
      obtain ⟨peer, -, -, rfl⟩ := resume_some stepped
      exact delivers.extends rfl .refl
  | upserted serial saved =>
      obtain ⟨peer, -, -, rfl⟩ := resume_some stepped
      exact delivers.extends rfl .refl
  | setupFailed serial =>
      simp only [step] at stepped
      obtain ⟨peer, -, -, rfl⟩ := resume_some stepped
      exact delivers.extends rfl .refl
  | lanSendFailed serial failure =>
      obtain ⟨peer, -, rfl⟩ := Option.map_eq_some_iff.mp stepped
      exact delivers.extends rfl .refl
  | receiveLoopEnded serial =>
      simp only [step] at stepped
      obtain ⟨peer, -, -, rfl⟩ := resume_some stepped
      exact delivers.extends rfl .refl

theorem initial_delivers : Delivers PeerManager.initial where
  sound delivery member := by simp [PeerManager.initial] at member
  complete delivery member := by simp [PeerManager.initial, UdpTransport.initial] at member

/-- A datagram on its route is the acknowledgement of the packet. -/
def acknowledges (delivery : Delivery) : Datagram × Route → Bool
  | (.authenticated header _, route) =>
      header = { type := .ack, sessionId := delivery.session.sessionId, token := delivery.messageId } &&
        route = delivery.session.route
  | (.empty, _) | (.hello _, _) | (.data _ _, _) => false

def acknowledged (udp : UdpTransport) (delivery : Delivery) : Bool := udp.sent.any (acknowledges delivery)

/-- Every acknowledged packet is acted on exactly when the session allows it,
once its callback has run. -/
def DeliversAcknowledged (manager : PeerManager) : Prop :=
  ∀ delivery ∈ manager.udp.completed, acknowledged manager.udp delivery = true →
    .onPacket delivery ∉ manager.udp.callbacks → (delivery ∈ manager.passed ↔ delivery.allowed = true)

instance (settings : Udp.Settings) (manager : PeerManager) : ∀ event, Decidable (KeepsDeliveries settings manager event)
  | (now, .transport event) => inferInstanceAs (Decidable (UdpTransport.AcknowledgesCompleted settings manager.udp (now, event)))
  | (_, .runCallback _ _) => inferInstanceAs (Decidable (∀ _ ∈ _, PassesAllowed _ _))
  | (_, .sendPacket _ _ _) | (_, .sendRound _) | (_, .seeded _ _) | (_, .lanAuthenticated _ _ _ _)
  | (_, .upserted _ _) | (_, .setupFailed _) | (_, .lanSendFailed _ _) | (_, .receiveLoopEnded _) =>
      inferInstanceAs (Decidable True)

/-- In every run whose events lose no acknowledged packet, the acknowledged
packets that were acted on are the allowed ones. -/
theorem acknowledged_packets_reach_owner {events : List (Time × PeerEvent)}
    (meets : Meets (step settings) (KeepsDeliveries settings) initial events)
    (completed : run (step settings) initial events = some final) : DeliversAcknowledged final := by
  have delivers : Delivers final := run_invariant Delivers
    (fun _ _ _ delivers keeps stepped => step_delivers delivers keeps stepped)
    initial_delivers meets completed
  intro delivery member _ run
  exact ⟨delivers.sound delivery, fun allowed => (delivers.complete delivery member allowed).resolve_left run⟩

/-! ### A packet that completes before its peer is registered -/

def sampleMessage : Packet := { type := .live .message, payload := [104, 105] }

def chatSettings : Udp.Settings := { UdpTransport.sampleSettings with capabilities := [capTextChat] }

/-- READY confirms the session and a whole message follows in one datagram. -/
def sampleMessageRun : List (Time × PeerEvent) :=
  [(0, .transport (.datagramReceived (.hello { UdpTransport.sampleHello with capabilities := [capTextChat] })
      UdpTransport.homeRoute)),
   (0, .transport (.datagramReceived
     (.authenticated { type := .ready, sessionId := List.replicate 8 0, token := 0 } []) UdpTransport.homeRoute)),
   (0, .transport (.datagramReceived
     (.data { sessionId := List.replicate 8 0, messageId := 7, index := 0, count := 1, nonce := [] }
       (sampleMessage.encode.getD [])) UdpTransport.homeRoute)),
   (0, .runCallback 0 (sampleDraw 0))]

/-- The packet's callback runs while the connected callback still waits for the
database, finds no entry and drops the acknowledged packet. -/
theorem early_packet_is_dropped :
    ¬ ∀ events final, run (step chatSettings) initial events = some final → DeliversAcknowledged final := by
  intro delivers
  have reached : (run (step chatSettings) initial (sampleMessageRun ++ [(0, .runCallback 0 (sampleDraw 0))])).any
      (fun final => final.udp.completed.any (fun delivery =>
        acknowledged final.udp delivery && !decide (.onPacket delivery ∈ final.udp.callbacks) &&
          !decide (delivery ∈ final.passed) && delivery.allowed)) = true := by decide +kernel
  simp only [Option.any_eq_true, List.any_eq_true, Bool.and_eq_true, Bool.not_eq_true', decide_eq_false_iff_not] at reached
  obtain ⟨final, completed, delivery, member, ⟨⟨known, ran⟩, dropped⟩, allowed⟩ := reached
  exact dropped ((delivers _ final completed delivery member known ran).mpr allowed)

/-- The same packet reaches the owner when its callback runs after the entry is
registered. -/
theorem registered_packet_reaches_owner : ∃ final,
    run (step chatSettings) initial
      (sampleMessageRun ++ [(0, .seeded 0 true), (0, .runCallback 0 (sampleDraw 0))]) = some final ∧
      final.passed.length = 1 ∧ DeliversAcknowledged final := by
  have reached : (run (step chatSettings) initial
      (sampleMessageRun ++ [(0, .seeded 0 true), (0, .runCallback 0 (sampleDraw 0))])).map (·.passed.length) = some 1 := by
    decide +kernel
  obtain ⟨final, completed, size⟩ := Option.map_eq_some_iff.mp reached
  exact ⟨final, completed, size, acknowledged_packets_reach_owner (by decide +kernel) completed⟩

end PeerManager

end MeshTalk.Peers
