import MeshTalk.Peers.Tables
import MeshTalk.Udp.Maintenance

namespace MeshTalk.Peers

open MeshTalk.Library MeshTalk.Protocol MeshTalk.Udp
open UdpTransport (TransportEvent)

/-! # The peer manager and its transport as one machine

Each event runs one task from a suspension point to the next.  Tasks that the
transport has spawned may start in any order.  A handshake enters with the
event that completes it; database writes that decide nothing here, profile
contents and the restart after a route change are left out.
-/

structure PeerManager extends PeerTables where
  udp : UdpTransport
  /-- The connection that a `send_packet` call in progress was made on. -/
  udpSends : Dict Nat PeerConnection
  /-- Deliveries that `_on_udp_packet` has acted on, in order. -/
  passed : List Delivery

def PeerManager.initial : PeerManager :=
  { PeerTables.initial with udp := .initial, udpSends := ∅, passed := [] }

/-- What a packet sent over UDP draws at random, and the number of its call. -/
structure SendDraw where
  call : Nat
  messageId : Nat
  nonces : Nat → Bytes

def requiredCapability : WireType → Option String
  | .live type => capabilityForPacket type
  | .retired _ => none

/-- `_accept_packet`. -/
def PeerConnection.acceptPacket (peer : PeerConnection) (packet : Packet) : Bool :=
  match requiredCapability packet.type with
  | none => true
  | some required => peer.supports required

namespace PeerManager

variable (settings : Udp.Settings) (now : Time)

def shouldInitiate (remotePeerId : PeerId) : Bool := settings.peerId < remotePeerId

def onTables (manager : PeerManager) (tables : PeerTables) : PeerManager :=
  { manager with toPeerTables := tables }

/-! ## Callbacks of the transport -/

def getCapabilities (manager : PeerManager) (peerId : PeerId) : List String :=
  ((manager.udp.sessions.get? peerId).map Session.capabilities).getD []

/-- `_on_udp_connected` up to `_seed_peer_dnd`. -/
def onUdpConnected (session : Session) (manager : PeerManager) : PeerManager :=
  if manager.peerLimitReached session.peerId then manager
  else if (manager.udp.sessions.get? session.peerId).any fun active => active.sessionId ≠ session.sessionId then
    manager
  else
    manager.onTables <| manager.toPeerTables.create
      { serial := manager.connections.length
        peerId := session.peerId
        endpoint := session.endpoint
        transport := if session.viaRelay then .remoteDerp else .remoteUdp
        capabilities := manager.getCapabilities session.peerId
        udpSessionId := some session.sessionId
        lan_sessionless := by split <;> simp }
      .connected

def dispatchConnected (session : Session) (manager : PeerManager) : PeerManager :=
  if manager.udp.sessions.get? session.peerId = some session then manager.onUdpConnected session else manager

/-- PONG goes out through the transport without the handling of a failed send. -/
def sendPong (peerId : PeerId) (draw : SendDraw) (manager : PeerManager) : PeerManager :=
  { manager with
    udp := (UdpTransport.sendPacket settings draw.call peerId { type := .live .pong, payload := [] }
      draw.messageId draw.nonces).finish manager.udp }

/-- What `_on_udp_packet` does with a packet its peer may send.  The owner's
handler and profile updates do not touch the maps. -/
def actOnPacket (peer : PeerConnection) (delivery : Delivery) (draw : SendDraw) (manager : PeerManager) :
    PeerManager :=
  let passed := { manager with passed := manager.passed ++ [delivery] }
  match delivery.packet.type with
  | .live .ping => passed.sendPong settings peer.peerId draw
  | .live .goodbye => passed.onTables (passed.toPeerTables.onUdpDisconnected peer.peerId peer.udpSessionId)
  | _ => passed

/-- `_on_udp_packet`. -/
def onUdpPacket (delivery : Delivery) (draw : SendDraw) (manager : PeerManager) : PeerManager :=
  match manager.connectedUdp delivery.session.peerId with
  | none => manager
  | some peer => if peer.acceptPacket delivery.packet then manager.actOnPacket settings peer delivery draw else manager

def onCallback (draw : SendDraw) (manager : PeerManager) : Callback → PeerManager
  | .dispatchConnected session => manager.dispatchConnected session
  | .onDisconnected peerId sessionId =>
      manager.onTables (manager.toPeerTables.onUdpDisconnected peerId (some sessionId))
  | .onPacket delivery => manager.onUdpPacket settings delivery draw

def takeCallback (index : Nat) (manager : PeerManager) : PeerManager :=
  { manager with udp := { manager.udp with callbacks := manager.udp.callbacks.eraseIdx index } }

/-- Start the spawned task at `index`. -/
def runCallback (index : Nat) (draw : SendDraw) (manager : PeerManager) : Option PeerManager :=
  if manager.udp.sending.contains draw.call then none
  else
    manager.udp.callbacks[index]?.map ((manager.takeCallback index).onCallback settings draw)

/-! ## Sending over UDP -/

/-- `send_packet` on a remote connection up to its first wait. -/
def sendPacket (peer : PeerConnection) (packet : Packet) (draw : SendDraw) (manager : PeerManager) :
    PeerManager :=
  if !peer.acceptPacket packet then manager
  else
    match UdpTransport.sendPacket settings draw.call peer.peerId packet draw.messageId draw.nonces manager.udp with
    | (.ok _, udp) => { manager with udp, udpSends := manager.udpSends.set draw.call peer }
    | (.error (.connection _), udp) =>
        { manager with udp }.onTables (manager.toPeerTables.onUdpDisconnected peer.peerId peer.udpSessionId)
    | (.error (.value _), udp) => { manager with udp }

/-- One round of a send the manager waits for. -/
def sendRound (call : Nat) (peer : PeerConnection) (sending : Sending) (manager : PeerManager) : PeerManager :=
  let finished := manager.udpSends.erase call
  match UdpTransport.sendRound call sending manager.udp with
  | (.ok false, udp) => { manager with udp }
  | (.ok true, udp) | (.error (.value _), udp) => { manager with udp, udpSends := finished }
  | (.error (.connection _), udp) =>
      { manager with udp, udpSends := finished }.onTables
        (manager.toPeerTables.onUdpDisconnected peer.peerId peer.udpSessionId)

/-! ## LAN connections -/

/-- A completed handshake.  Only the direction from the lower to the higher id
is kept, on either side. -/
def lanAuthenticated (peerId : PeerId) (endpoint : Endpoint) (capabilities : List String) (outbound : Bool)
    (manager : PeerManager) : PeerManager :=
  if outbound ≠ shouldInitiate settings peerId then manager
  else
    manager.onTables <| manager.toPeerTables.create
      { serial := manager.connections.length
        peerId
        endpoint
        transport := .lanTcp
        capabilities
        udpSessionId := none
        lan_sessionless := fun _ => rfl }
      .connecting

/-- An exception in `connect_to_peer` or `_handle_incoming`; only the former
marks the connection. -/
def lanRaised (tables : PeerTables) (peer : PeerConnection) : PeerTables :=
  if shouldInitiate settings peer.peerId then tables.setState peer .disconnected else tables

def lanSeeded (peer : PeerConnection) (loaded : Bool) (tables : PeerTables) : PeerTables :=
  let failed := (lanRaised settings tables peer).setPhase peer .finished
  if !loaded then failed
  else
    match tables.admitLanPeer peer with
    | .error _ => failed
    | .ok (false, same) => same.setPhase peer .finished
    | .ok (true, next) => next.setPhase peer .admitted

/-- The task that waits in `_seed_peer_dnd` goes on. -/
def seeded (peer : PeerConnection) (loaded : Bool) (tables : PeerTables) : PeerTables :=
  if peer.isLan then lanSeeded settings peer loaded tables
  else if loaded then (tables.registerUdp peer).setPhase peer .finished
  else tables.setPhase peer .finished

/-- The database write between admission and receive loop has ended. -/
def upserted (peer : PeerConnection) (saved : Bool) (tables : PeerTables) : PeerTables :=
  if saved then tables.setPhase peer .receiving
  else ((lanRaised settings tables peer).undoLanAdmission peer).setPhase peer .finished

inductive PeerEvent where
  | transport (event : TransportEvent)
  | runCallback (index : Nat) (draw : SendDraw)
  | sendPacket (serial : Nat) (packet : Packet) (draw : SendDraw)
  | sendRound (call : Nat)
  | lanAuthenticated (peerId : PeerId) (endpoint : Endpoint) (capabilities : List String) (outbound : Bool)
  | seeded (serial : Nat) (loaded : Bool)
  | upserted (serial : Nat) (saved : Bool)
  | setupFailed (serial : Nat)
  | lanSendFailed (serial : Nat) (failure : PeerTables.LanFailure)
  | receiveLoopEnded (serial : Nat)

/-- Resume the task of a connection that is suspended in a given phase. -/
def resume (manager : PeerManager) (serial : Nat) (phase : Phase)
    (next : PeerConnection → PeerTables → PeerTables) : Option PeerManager :=
  match manager.connections[serial]? with
  | some peer => if manager.phases serial = phase then some (manager.onTables (next peer manager.toPeerTables)) else none
  | none => none

/-- A round of a send that the manager does not wait for is an event of the
transport alone. -/
def ownsRound (manager : PeerManager) : TransportEvent → Bool
  | .sendRound call => manager.udpSends.contains call
  | _ => false

def step (manager : PeerManager) : Time × PeerEvent → Option PeerManager
  | (now, .transport event) =>
      if manager.ownsRound event then none
      else (UdpTransport.step settings manager.udp (now, event)).map fun udp => { manager with udp }
  | (_, .runCallback index draw) => manager.runCallback settings index draw
  | (_, .sendPacket serial packet draw) =>
      if manager.udp.sending.contains draw.call then none
      else
        (manager.connections[serial]?.filter (!·.isLan)).map fun peer => manager.sendPacket settings peer packet draw
  | (_, .sendRound call) =>
      (manager.udpSends.get? call).bind fun peer =>
        (manager.udp.sending.get? call).map fun sending => manager.sendRound call peer sending
  | (_, .lanAuthenticated peerId endpoint capabilities outbound) =>
      some (manager.lanAuthenticated settings peerId endpoint capabilities outbound)
  | (_, .seeded serial loaded) => manager.resume serial .seeding fun peer => seeded settings peer loaded
  | (_, .upserted serial saved) => manager.resume serial .admitted fun peer => upserted settings peer saved
  | (_, .setupFailed serial) =>
      manager.resume serial .receiving fun peer tables => lanRaised settings tables peer
  | (_, .lanSendFailed serial failure) =>
      (manager.connections[serial]?.filter (·.isLan)).map fun peer =>
        manager.onTables (manager.toPeerTables.failLanSend peer failure)
  | (_, .receiveLoopEnded serial) =>
      manager.resume serial .receiving fun peer tables => (tables.endReceiveLoop peer).setPhase peer .finished

end PeerManager

end MeshTalk.Peers
