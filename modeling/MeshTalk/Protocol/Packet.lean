import Mathlib.Data.List.Dedup
import MeshTalk.Library.BigEndian

namespace MeshTalk.Protocol

open MeshTalk.Library

/-! # Application packets and the capabilities that gate them -/

/-- SHA-256 of a signing key as 64 lowercase hex digits; compared as text. -/
abbrev PeerId := String

/-- Seconds, as the clock functions return them. -/
abbrev Time := Rat

def maxPacketSize : Nat := 64 * 1024
def headerSize : Nat := 5

def capTextChat := "text_chat"
def capProfileSync := "profile_sync"
def capFriendRequests := "friend_requests"
def capDeliveryReceipts := "delivery_receipts"
def capBlockReports := "block_reports"
def capGroupChat := "group_chat"
def capFileTransferV2 := "file_transfer_v2"
def capTypingIndicators := "typing_indicators"
def capMessageReplies := "message_replies"
def capDirectRouteRecovery := "direct_route_recovery"
def capGroupRelay := "group_relay"
def capAtMentions := "at_mentions"

inductive PacketType where
  | handshake | handshakeAck | message | messageAck | ping | pong | goodbye | profile
  | handshakeConfirm | friendRequest | friendRequestResponse | messageBlocked
  | friendRequestCancelled | groupMessage | groupMessageAck | groupLeave | typing
  | fileOfferV2 | fileChunkV2 | fileAckV2
deriving DecidableEq, Repr

def PacketType.value : PacketType → Nat
  | .handshake => 0x01 | .handshakeAck => 0x02 | .message => 0x03 | .messageAck => 0x04
  | .ping => 0x05 | .pong => 0x06 | .goodbye => 0x07 | .profile => 0x08
  | .handshakeConfirm => 0x09 | .friendRequest => 0x0A | .friendRequestResponse => 0x0B
  | .messageBlocked => 0x0C | .friendRequestCancelled => 0x0D | .groupMessage => 0x0E
  | .groupMessageAck => 0x0F | .groupLeave => 0x10 | .typing => 0x14
  | .fileOfferV2 => 0x15 | .fileChunkV2 => 0x16 | .fileAckV2 => 0x17

def PacketType.all : List PacketType :=
  [.handshake, .handshakeAck, .message, .messageAck, .ping, .pong, .goodbye, .profile,
   .handshakeConfirm, .friendRequest, .friendRequestResponse, .messageBlocked,
   .friendRequestCancelled, .groupMessage, .groupMessageAck, .groupLeave, .typing,
   .fileOfferV2, .fileChunkV2, .fileAckV2]

def PacketType.ofValue? (value : Nat) : Option PacketType :=
  PacketType.all.find? fun type => type.value = value

theorem PacketType.ofValue?_value (type : PacketType) : ofValue? type.value = some type := by
  cases type <;> rfl

theorem PacketType.value_injective {first second : PacketType} (same : first.value = second.value) :
    first = second := by
  have found := first.ofValue?_value
  rw [same, second.ofValue?_value] at found
  exact (Option.some.inj found).symm

/-- Types 0x11 to 0x13 of clients before the removal of v1 file transfer. -/
def removedV1FilePacketTypes : List Nat := [0x11, 0x12, 0x13]

/-- A packet's type on the wire: a live member of the enumeration or a retired
number that transports still acknowledge and then ignore. -/
inductive WireType where
  | live (type : PacketType)
  | retired (value : Nat)
deriving DecidableEq, Repr

structure Packet where
  type : WireType
  payload : Bytes
deriving DecidableEq, Repr

/-- `PACKET_CAPABILITIES`: the handshake, keepalive and goodbye types need none. -/
def capabilityForPacket : PacketType → Option String
  | .message => some capTextChat
  | .messageAck => some capDeliveryReceipts
  | .profile => some capProfileSync
  | .friendRequest | .friendRequestResponse | .friendRequestCancelled => some capFriendRequests
  | .messageBlocked => some capBlockReports
  | .groupMessage | .groupMessageAck | .groupLeave => some capGroupChat
  | .typing => some capTypingIndicators
  | .fileOfferV2 | .fileChunkV2 | .fileAckV2 => some capFileTransferV2
  | .handshake | .handshakeAck | .ping | .pong | .goodbye | .handshakeConfirm => none

def WireType.value : WireType → Nat
  | .live type => type.value
  | .retired value => value

def WireType.ofValue? (value : Nat) : Option WireType :=
  match PacketType.ofValue? value with
  | some type => some (.live type)
  | none => if value ∈ removedV1FilePacketTypes then some (.retired value) else none

/-- `Packet.encode`: `none` where the source raises for an oversized payload, or
`struct.pack` for a type that is no byte. -/
def Packet.encode (packet : Packet) : Option Bytes :=
  if packet.payload.length > maxPacketSize ∨ packet.type.value > 255 then none
  else some (BigEndian.toBytes 4 packet.payload.length ++
    BigEndian.toBytes 1 packet.type.value ++ packet.payload)

def Packet.decodeHeader (data : Bytes) : Option (Nat × WireType) :=
  if data.length ≠ headerSize then none
  else
    let length := BigEndian.ofBytes (data.take 4)
    if length > maxPacketSize then none
    else (WireType.ofValue? (BigEndian.ofBytes (data.drop 4))).map fun type => (length, type)

def Packet.decode (header payload : Bytes) : Option Packet :=
  (decodeHeader header).bind fun (length, type) =>
    if payload.length = length then some { type, payload } else none

theorem WireType.ofValue?_retired {value : Nat} (member : value ∈ removedV1FilePacketTypes) :
    ofValue? value = some (.retired value) := by
  simp only [removedV1FilePacketTypes, List.mem_cons, List.not_mem_nil, or_false] at member
  rcases member with rfl | rfl | rfl <;> rfl

theorem WireType.value_of_ofValue? {value : Nat} {type : WireType} (known : ofValue? value = some type) :
    type.value = value := by
  unfold ofValue? at known
  split at known
  · rename_i live found
    cases known
    have same := List.find?_some found
    exact of_decide_eq_true same
  · split at known
    · cases known
      rfl
    · contradiction

theorem Packet.encode_length {packet : Packet} {frame : Bytes} (encoded : packet.encode = some frame) :
    headerSize ≤ frame.length ∧ frame.length ≤ maxPacketSize + headerSize := by
  simp only [encode] at encoded
  split at encoded
  · contradiction
  · cases encoded
    simp only [List.length_append, BigEndian.toBytes_length, headerSize]
    omega

/-- A packet that encodes is decoded with its payload and the type its number
stands for. -/
theorem Packet.decode_frame {packet : Packet} {frame : Bytes} (encoded : packet.encode = some frame) :
    decode (frame.take headerSize) (frame.drop headerSize) =
      (WireType.ofValue? packet.type.value).map fun type => { type, payload := packet.payload } := by
  obtain ⟨wire, payload⟩ := packet
  simp only [encode] at encoded
  split at encoded
  · contradiction
  · rename_i fits
    cases encoded
    have size : (BigEndian.toBytes 4 payload.length ++ BigEndian.toBytes 1 wire.value).length = headerSize := by
      simp [headerSize]
    have four : (BigEndian.toBytes 4 payload.length).length = 4 := BigEndian.toBytes_length
    have length : BigEndian.ofBytes (BigEndian.toBytes 4 payload.length) = payload.length :=
      BigEndian.ofBytes_toBytes (by simp only [maxPacketSize] at fits; omega)
    have value : BigEndian.ofBytes (BigEndian.toBytes 1 wire.value) = wire.value :=
      BigEndian.ofBytes_toBytes (by omega)
    have header : decodeHeader (BigEndian.toBytes 4 payload.length ++ BigEndian.toBytes 1 wire.value) =
        (WireType.ofValue? wire.value).map fun type => (payload.length, type) := by
      simp only [decodeHeader, size, ne_eq, not_true_eq_false, if_false]
      rw [List.take_left' four, List.drop_left' four, length, value, if_neg fun long => fits (.inl long)]
    change decode (((BigEndian.toBytes 4 payload.length ++ BigEndian.toBytes 1 wire.value) ++ payload).take headerSize)
      (((BigEndian.toBytes 4 payload.length ++ BigEndian.toBytes 1 wire.value) ++ payload).drop headerSize) = _
    rw [List.take_left' size, List.drop_left' size]
    cases known : WireType.ofValue? wire.value with
    | none => simp only [decode, header, known, Option.map_none, Option.bind_none]
    | some type => simp only [decode, header, known, Option.map_some, Option.bind_some, if_true]

/-- Framing round trip for the live packet types: every packet that encodes is
recovered from its header and payload. -/
theorem Packet.decode_encode {packet : Packet} {type : PacketType} {frame : Bytes}
    (live : packet.type = .live type) (encoded : packet.encode = some frame) :
    decode (frame.take headerSize) (frame.drop headerSize) = some packet := by
  have known : WireType.ofValue? type.value = some (.live type) := by
    simp only [WireType.ofValue?, PacketType.ofValue?_value]
  obtain ⟨wire, payload⟩ := packet
  subst live
  rw [decode_frame encoded, WireType.value, known]
  rfl

/-- Sorted intersection of two capability lists. -/
def intersectCapabilities (ours remote : List String) : List String :=
  ((ours.filter fun capability => capability ∈ remote).dedup).mergeSort (fun a b => decide (a ≤ b))

end MeshTalk.Protocol
