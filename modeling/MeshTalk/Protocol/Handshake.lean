import MeshTalk.Protocol.Packet

namespace MeshTalk.Protocol

open MeshTalk.Library

/-! # Handshake values and the primitives they rest on

Signatures, key agreement, key derivation and authenticated encryption come
from a library outside the repository and are fields of `Crypto`.
-/

abbrev Endpoint := String × Nat
abbrev SessionId := Bytes

/-- Code points that `str.strip` removes. -/
def isSpace (char : Char) : Bool :=
  let code := char.toNat
  (9 ≤ code && code ≤ 13) || (28 ≤ code && code ≤ 32) || code = 0x85 || code = 0xA0 ||
    code = 0x1680 || (0x2000 ≤ code && code ≤ 0x200A) || code = 0x2028 || code = 0x2029 ||
    code = 0x202F || code = 0x205F || code = 0x3000

def strip (text : List Char) : List Char :=
  ((text.dropWhile isSpace).reverse.dropWhile isSpace).reverse

/-- `Identity.normalize_display_name`, `none` where it raises. -/
def normalizeDisplayName (displayName : String) : Option String :=
  let name := strip displayName.toList
  if name = [] then none
  else if name.length > 48 then none
  else if name.any fun char => char.toNat < 32 || char.toNat = 127 then none
  else some (String.ofList name)

def isCapabilityChar (char : Char) : Bool :=
  char.isAlphanum || char = '_' || char = '.' || char = '-'

/-- `validate_capabilities` on a list of strings, `none` where it raises. -/
def validateCapabilities (capabilities : List String) : Option (List String) :=
  if capabilities.length > 64 then none
  else if capabilities.any fun capability =>
      capability.isEmpty || capability.length > 64 || !capability.toList.all isCapabilityChar then none
  else if capabilities.dedup.length ≠ capabilities.length then none
  else some capabilities

def sortCapabilities (capabilities : List String) : List String :=
  capabilities.dedup.mergeSort fun a b => decide (a ≤ b)

/-- `sorted(set(first) - set(second))`. -/
def capabilityDifference (first second : List String) : List String :=
  sortCapabilities (first.filter fun capability => capability ∉ second)

/-- The JSON object of a UDP handshake with its byte fields decoded from hex.
Members the receiver does not read are kept because the signature covers them. -/
structure Hello where
  capabilities : List String
  peerId : PeerId
  displayName : String
  signingPublicKey : Bytes
  encryptionPublicKey : Bytes
  sessionPublicKey : Bytes
  nonce : Bytes
  unread : List (String × String)
  signature : Bytes
deriving DecidableEq, Repr

inductive AuthenticatedType where
  | ack | ping | pong | ready | goodbye
deriving DecidableEq, Repr

structure AuthHeader where
  type : AuthenticatedType
  sessionId : SessionId
  token : Nat
deriving DecidableEq, Repr

structure DataHeader where
  sessionId : SessionId
  messageId : Nat
  index : Nat
  count : Nat
  nonce : Bytes
deriving DecidableEq, Repr

/-- A datagram whose magic, type and fixed-size header have been unpacked;
others are dropped before any state is read.  `empty` is what an attempt that
was never stored has for its HELLO. -/
inductive Datagram where
  | empty
  | hello (value : Hello)
  | data (header : DataHeader) (ciphertext : Bytes)
  | authenticated (header : AuthHeader) (tag : Bytes)
deriving DecidableEq, Repr

structure Crypto where
  /-- Hex SHA-256 of a signing key. -/
  fingerprint : Bytes → PeerId
  digest : Bytes → Bytes
  /-- Canonical bytes of every member but the signature. -/
  canonical : Hello → Bytes
  sign : Bytes → Bytes
  verify : Bytes → Bytes → Bytes → Bool
  sessionPublicKey : Bytes → Bytes
  exchange : Bytes → Bytes → Option Bytes
  derive : Bytes → Bytes → Bytes
  tag : Bytes → AuthHeader → Bytes
  encrypt : Bytes → DataHeader → Bytes → Bytes
  decrypt : Bytes → DataHeader → Bytes → Option Bytes
  /-- Private key and nonce drawn for the attempt of a given number. -/
  randomKey : Nat → Bytes
  randomNonce : Nat → Bytes

end MeshTalk.Protocol
