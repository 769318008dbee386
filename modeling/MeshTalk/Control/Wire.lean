import MeshTalk.Library.Base64

namespace MeshTalk.Control

open MeshTalk.Library

/-! # Limits, patterns and frames of the control service

Shared by the Bun server and the Worker.  Texts are UTF-16, so lengths are those
the service compares with its limits.
-/

abbrev Socket := Nat
abbrev RoomId := Text
abbrev PeerId := Text
abbrev Address := Text

def maxRoomMembers : Nat := 64
def maxRoomsPerClient : Nat := 32
def maxSignalLength : Nat := 8 * 1024
def maxControlMessagesPerMinute : Nat := 96
def maxSignalsPerMinute : Nat := 64
def maxPeerFetchesPerMinute : Nat := 30
def maxRelayFramesPerSecond : Nat := 500
def maxControlMessageBytes : Nat := 256 * 1024
def maxPendingMessages : Nat := 256
def maxPendingMessageBytes : Nat := 4 * 1024 * 1024
def maxPendingMessagesPerClient : Nat := 16
def maxPendingMessageBytesPerClient : Nat := 256 * 1024
def maxPendingMessagesPerIp : Nat := 32
def maxPendingMessageBytesPerIp : Nat := 512 * 1024
def maxConnections : Nat := 10000
def maxConnectionsPerIp : Nat := 32
def maxRooms : Nat := 10000
def maxRetainedBytes : Nat := 64 * 1024 * 1024
def maxRelayFrameLength : Nat := 1200
def maxRelayPeersPerDevice : Nat := 8
def relayPeerIdleMs : Nat := 60000
def relayBytesPerSecond : Nat := 1024 * 1024
def relayBurstBytes : Nat := 4 * 1024 * 1024

/-! ## Patterns -/

def isLowerHex (code : UInt16) : Bool := (48 ≤ code && code ≤ 57) || (97 ≤ code && code ≤ 102)

/-- `/^[a-f0-9]{length}$/`. -/
def matchesHex (length : Nat) (text : Text) : Bool := text.length = length && text.all isLowerHex

def isRoomId : Text → Bool := matchesHex 32
def isRoomAuth : Text → Bool := matchesHex 64
def isPeerId : Text → Bool := matchesHex 64
def isHex32 : Text → Bool := matchesHex 64
def isHex64 : Text → Bool := matchesHex 128

def hexValue (code : UInt16) : Nat := if 97 ≤ code then code.toNat - 87 else code.toNat - 48

/-- Of a text that matches one of the patterns. -/
def fromHex : Text → Bytes
  | high :: low :: rest => UInt8.ofNat (16 * hexValue high + hexValue low) :: fromHex rest
  | _ => []

def hexDigit (value : Nat) : UInt16 := UInt16.ofNat (if value < 10 then 48 + value else 87 + value)

def toHex : Bytes → Text
  | [] => []
  | byte :: rest => hexDigit (byte.toNat / 16) :: hexDigit (byte.toNat % 16) :: toHex rest

theorem hexValue_bounded {code : UInt16} (digit : isLowerHex code = true) : hexValue code < 16 := by
  simp only [isLowerHex, Bool.or_eq_true, Bool.and_eq_true, decide_eq_true_eq, UInt16.le_iff_toNat_le] at digit
  simp only [hexValue, UInt16.le_iff_toNat_le]
  simp at digit ⊢
  split <;> omega

theorem hexValue_injective {code other : UInt16} (digit : isLowerHex code = true) (another : isLowerHex other = true)
    (same : hexValue code = hexValue other) : code = other := by
  simp only [isLowerHex, Bool.or_eq_true, Bool.and_eq_true, decide_eq_true_eq, UInt16.le_iff_toNat_le] at digit another
  simp only [hexValue, UInt16.le_iff_toNat_le] at same
  refine UInt16.toNat_inj.mp ?_
  simp at digit another same
  split at same <;> split at same <;> omega

/-- Reading is injective on the lowercase texts of one even length. -/
theorem fromHex_injective {text other : Text} {count : Nat} (length : text.length = 2 * count)
    (sameLength : other.length = 2 * count) (digits : text.all isLowerHex = true) (others : other.all isLowerHex = true)
    (same : fromHex text = fromHex other) : text = other := by
  induction count generalizing text other with
  | zero =>
      rw [List.length_eq_zero_iff.mp length, List.length_eq_zero_iff.mp sameLength]
  | succ count ih =>
      match text, other, length, sameLength with
      | high :: low :: rest, upper :: lower :: remaining, length, sameLength =>
          simp only [List.all_cons, Bool.and_eq_true] at digits others
          simp only [fromHex, List.cons.injEq] at same
          have first := And.intro (hexValue_bounded digits.1) (hexValue_bounded digits.2.1)
          have second := And.intro (hexValue_bounded others.1) (hexValue_bounded others.2.1)
          have bytes := congrArg UInt8.toNat same.1
          simp only [UInt8.toNat_ofNat'] at bytes
          have highs : hexValue high = hexValue upper := by omega
          have lows : hexValue low = hexValue lower := by omega
          simp only [List.length_cons] at length sameLength
          rw [hexValue_injective digits.1 others.1 highs, hexValue_injective digits.2.1 others.2.1 lows,
            ih (by omega) (by omega) digits.2.2 others.2.2 same.2]

/-! ## Messages and frames -/

/-- The values that `type` is compared with. -/
inductive MessageType where
  | deviceRegister
  | relay
  | join
  | leave
  | signal
  | getPeers
  | other
deriving Repr, DecidableEq

/-- A message after JSON decoding; a field that does not have the type asked for is absent. -/
structure ControlMessage where
  type : MessageType
  roomId : Option Text := none
  roomAuth : Option Text := none
  payload : Option Text := none
  recipientId : Option Text := none
  challengeId : Option Text := none
  nonce : Option Text := none
  issuedAt : Option Rat := none
  peerId : Option Text := none
  signingPublicKey : Option Text := none
  signature : Option Text := none
deriving Repr, DecidableEq

/-- What `JSON.parse` makes of a message. -/
inductive Parsed where
  | malformed
  | null
  /-- A number, a string, a truth value or an array. -/
  | bare
  | object (message : ControlMessage)
deriving Repr, DecidableEq

/-- A message as it arrives, with its size in code units and in bytes. -/
structure Raw where
  length : Nat
  bytes : Nat
  content : Parsed
deriving Repr, DecidableEq

inductive DropReason where
  | unauthorized
  | offline
  | quota
deriving Repr, DecidableEq

inductive Frame where
  | deviceChallenge (challengeId nonce : Text) (expiresAt : Int)
  | deviceRegistered (peerId : PeerId) (relayEnabled : Bool)
  | joined (roomId : RoomId) (memberCount : Nat)
  | refresh (roomId : RoomId) (memberCount : Nat)
  | signal (roomId : RoomId) (payload : Text)
  | peers (roomId : RoomId) (payloads : List Text)
  | relay (peerId : PeerId) (payload : Text)
  | relayDropped (recipientId : PeerId) (reason : DropReason)
  | error (text : String)
deriving Repr, DecidableEq

/-- The room that a frame names. -/
def Frame.roomId? : Frame → Option RoomId
  | .joined roomId _ => some roomId
  | .refresh roomId _ => some roomId
  | .signal roomId _ => some roomId
  | .peers roomId _ => some roomId
  | _ => none

/-- The registration that a device signs. -/
structure Registration where
  challengeId : Text
  issuedAt : Rat
  nonce : Text
  peerId : PeerId
  signingPublicKey : Text

/-- The cryptographic library, which may reject a key by raising. -/
structure Crypto where
  sha256 : Bytes → Bytes
  canonical : Registration → Bytes
  verify : Bytes → Bytes → Bytes → Except String Bool

end MeshTalk.Control
