import MeshTalk.Library.Dict
import MeshTalk.Protocol.Handshake
import Mathlib.Logic.Function.Basic

namespace MeshTalk.Peers

open MeshTalk.Library MeshTalk.Protocol

/-! # Connections and the maps that select them

A connection value holds what its construction and handshake fix.  Its `state`
attribute and how far the task that serves it has come are kept under its
serial number, the index of the value in `connections`.
-/

def maxConnectedPeers : Nat := 256

inductive PeerState where
  | unknown | discovered | connecting | connected | disconnected
deriving DecidableEq, Repr

inductive PeerTransport where
  | lanTcp | remoteUdp | remoteDerp
deriving DecidableEq, Repr

structure PeerConnection where
  serial : Nat
  peerId : PeerId
  endpoint : Endpoint
  transport : PeerTransport
  capabilities : List String
  udpSessionId : Option SessionId
  lan_sessionless : transport = .lanTcp → udpSessionId = none
deriving DecidableEq

def PeerConnection.supports (peer : PeerConnection) (capability : String) : Bool :=
  capability ∈ peer.capabilities

def PeerConnection.isLan (peer : PeerConnection) : Bool := peer.transport = .lanTcp

/-- Where the task that set a connection up or serves it is suspended: in
`_seed_peer_dnd`, between admission and receive loop, or in the receive loop. -/
inductive Phase where
  | seeding | admitted | receiving | finished
deriving DecidableEq, Repr

structure PeerTables where
  connections : List PeerConnection
  states : Nat → PeerState
  phases : Nat → Phase
  peers : Dict PeerId PeerConnection
  udpPeers : Dict PeerId PeerConnection

namespace PeerTables

variable (tables : PeerTables)

def initial : PeerTables where
  connections := []
  states := fun _ => .unknown
  phases := fun _ => .finished
  peers := ∅
  udpPeers := ∅

def connected (peer : PeerConnection) : Bool := tables.states peer.serial = .connected

def setState (peer : PeerConnection) (state : PeerState) : PeerTables :=
  { tables with states := Function.update tables.states peer.serial state }

def setPhase (peer : PeerConnection) (phase : Phase) : PeerTables :=
  { tables with phases := Function.update tables.phases peer.serial phase }

/-- Construct a connection object; `peer` carries the next serial number. -/
def create (peer : PeerConnection) (state : PeerState) : PeerTables :=
  ({ tables with connections := tables.connections ++ [peer] }.setState peer state).setPhase peer .seeding

/-- `self.peers[peer_id] = peer`. -/
def select (peerId : PeerId) (peer : PeerConnection) : PeerTables :=
  { tables with peers := tables.peers.set peerId peer }

def deselect (peerId : PeerId) : PeerTables := { tables with peers := tables.peers.erase peerId }

/-- The connected UDP entry of a peer. -/
def connectedUdp (peerId : PeerId) : Option PeerConnection :=
  (tables.udpPeers.get? peerId).filter fun remote => tables.connected remote

/-- Whether the selected connection of a peer is a connected LAN one. -/
def lanConnected (peerId : PeerId) : Bool :=
  (tables.peers.get? peerId).any fun active => tables.connected active && active.isLan

/-- Whether a new peer would exceed the limit. -/
def peerLimitReached (peerId : PeerId) : Bool :=
  !tables.peers.contains peerId && decide (tables.peers.size ≥ maxConnectedPeers)

/-- Select the connected UDP entry of a peer, or nothing. -/
def fallBack (peerId : PeerId) : PeerTables :=
  match tables.connectedUdp peerId with
  | some remote => tables.select peerId remote
  | none => tables.deselect peerId

/-- `_admit_lan_peer`; the flag tells whether the peer was admitted. -/
def admitLanPeer (peer : PeerConnection) : Except String (Bool × PeerTables) :=
  if tables.lanConnected peer.peerId then .ok (false, tables)
  else if tables.peerLimitReached peer.peerId then .error "Connected peer limit reached"
  else .ok (true, (tables.setState peer .connected).select peer.peerId peer)

/-- `_undo_lan_admission`. -/
def undoLanAdmission (peer : PeerConnection) : PeerTables :=
  if tables.peers.get? peer.peerId = some peer then tables.fallBack peer.peerId else tables

/-- The `finally` block of `_receive_loop`. -/
def endReceiveLoop (peer : PeerConnection) : PeerTables :=
  (tables.setState peer .disconnected).undoLanAdmission peer

/-- The part of `_on_udp_connected` after `_seed_peer_dnd`. -/
def registerUdp (peer : PeerConnection) : PeerTables :=
  let entered := { tables with udpPeers := tables.udpPeers.set peer.peerId peer }
  if tables.lanConnected peer.peerId then entered else entered.select peer.peerId peer

/-- Drop the UDP entry `old` of a peer. -/
def dropUdp (peerId : PeerId) (old : PeerConnection) : PeerTables :=
  let popped := { tables.setState old .disconnected with udpPeers := tables.udpPeers.erase peerId }
  if tables.peers.get? peerId = some old then popped.deselect peerId else popped

/-- `_on_udp_disconnected`. -/
def onUdpDisconnected (peerId : PeerId) (expected : Option SessionId) : PeerTables :=
  match tables.udpPeers.get? peerId with
  | none => tables
  | some old =>
      if expected.isSome ∧ old.udpSessionId ≠ expected then tables else tables.dropUdp peerId old

/-- How an encrypted LAN send fails: `TcpTransportError`, or `ConnectionError`
and `OSError`. -/
inductive LanFailure where
  | transport | connection
deriving DecidableEq, Repr

/-- The `except` branches of `_send_packet`. -/
def failLanSend (peer : PeerConnection) (failure : LanFailure) : PeerTables :=
  let ended := tables.setState peer .disconnected
  match failure, ended.connectedUdp peer.peerId with
  | .connection, some remote => ended.select peer.peerId remote
  | _, _ => ended

end PeerTables

end MeshTalk.Peers
