import MeshTalk.Library.Handler
import MeshTalk.Protocol.Packet

namespace MeshTalk.Tcp

open MeshTalk.Library MeshTalk.Protocol Handler

/-! # Records of a LAN TCP session

A handler keeps what it did to the session before it raises, so that a raise
which consumes no sequence number is proved and not assumed.
-/

/-- Ciphertext length and sequence number. -/
def tcpRecordHeaderSize : Nat := 12
def tcpRecordTagSize : Nat := 16
def tcpMaxSequence : Nat := 2 ^ 64 - 1
def tcpMaxPlaintextSize : Nat := headerSize + maxPacketSize
def tcpMaxRecordSize : Nat := tcpMaxPlaintextSize + tcpRecordTagSize
def tcpRecordAadPrefix : Bytes := "meshtalk-tcp-record-v1".toUTF8.toList

/-- AES-GCM: key, nonce, data and associated data, in the library's order. -/
structure Aead where
  encrypt : Bytes → Bytes → Bytes → Bytes → Bytes
  decrypt : Bytes → Bytes → Bytes → Bytes → Option Bytes

/-- `TcpTransportError`, and the exceptions of `Packet.encode`. -/
inductive TcpFailure where
  | transport (text : String)
  | payload (text : String)
deriving DecidableEq, Repr

structure TcpSession where
  peerId : PeerId
  sessionId : Bytes
  transcriptHash : Bytes
  confirmationToken : Bytes
  transmitEncryptionKey : Bytes
  receiveEncryptionKey : Bytes
  transmitNoncePrefix : Bytes
  receiveNoncePrefix : Bytes
  sendSequence : Nat
  receiveSequence : Nat
  confirmed : Bool
deriving DecidableEq

abbrev Handling (α : Type) := Handler TcpSession TcpFailure α

namespace TcpSession

/-- `struct.pack("!IQ", ...)`. -/
def packHeader (length sequence : Nat) : Bytes := BigEndian.toBytes 4 length ++ BigEndian.toBytes 8 sequence

/-- `_nonce`. -/
def nonce (noncePrefix : Bytes) (sequence : Nat) : Bytes := noncePrefix ++ BigEndian.toBytes 8 sequence

def validateRecordHeader (header : Bytes) : Handling (Nat × Nat) := do
  refuse (header.length ≠ tcpRecordHeaderSize) (.transport "TCP record header is truncated")
  let length := BigEndian.ofBytes (header.take 4)
  let sequence := BigEndian.ofBytes (header.drop 4)
  refuse (length < tcpRecordTagSize) (.transport "TCP record is truncated")
  refuse (length > tcpMaxRecordSize) (.transport "TCP record is oversized")
  refuse (sequence ≥ tcpMaxSequence) (.transport "TCP record sequence is exhausted")
  return (length, sequence)

def encodeFailure (packet : Packet) : TcpFailure :=
  .payload ("Payload too large: " ++ toString packet.payload.length ++ " > " ++ toString maxPacketSize)

variable (aead : Aead)

def encryptPacket (packet : Packet) : Handling Bytes := do
  let session ← read
  refuse (session.sendSequence ≥ tcpMaxSequence) (.transport "TCP send sequence is exhausted")
  let plaintext ← orRaise packet.encode (encodeFailure packet)
  let sequence := session.sendSequence
  let header := packHeader (plaintext.length + tcpRecordTagSize) sequence
  let ciphertext := aead.encrypt session.transmitEncryptionKey (nonce session.transmitNoncePrefix sequence) plaintext
    (tcpRecordAadPrefix ++ header)
  change fun session => { session with sendSequence := session.sendSequence + 1 }
  return header ++ ciphertext

/-- The end of `decrypt_record`, once the record has been authenticated. -/
def readPlaintext (plaintext : Bytes) : Handling Packet := do
  refuse (plaintext.length < headerSize ∨ plaintext.length > tcpMaxPlaintextSize)
    (.transport "Invalid TCP record plaintext size")
  let packet ← orRaise (Packet.decode (plaintext.take headerSize) (plaintext.drop headerSize))
    (.transport "Invalid TCP record packet")
  change fun session => { session with receiveSequence := session.receiveSequence + 1 }
  return packet

def decryptRecord (header ciphertext : Bytes) : Handling Packet := do
  let (length, sequence) ← validateRecordHeader header
  refuse (ciphertext.length ≠ length) (.transport "TCP record length mismatch")
  let session ← read
  refuse (sequence ≠ session.receiveSequence)
    (.transport ("Unexpected TCP record sequence: " ++ toString sequence ++ " != " ++ toString session.receiveSequence))
  let plaintext ← orRaise (aead.decrypt session.receiveEncryptionKey (nonce session.receiveNoncePrefix sequence)
    ciphertext (tcpRecordAadPrefix ++ header)) (.transport "Invalid TCP record authentication")
  readPlaintext plaintext

/-- `_recv_encrypted_packet` of the peer manager, on the bytes its stream yields:
`none` where the stream ends inside a record. -/
def recvEncryptedPacket (received : Bytes) : Handling (Option Packet) :=
  if received.length < tcpRecordHeaderSize then return none
  else do
    let header := received.take tcpRecordHeaderSize
    let rest := received.drop tcpRecordHeaderSize
    let (length, _) ← validateRecordHeader header
    if rest.length < length then return none
    else do
      let packet ← decryptRecord aead header (rest.take length)
      return some packet

variable {aead} {session next : TcpSession} {packet : Packet} {header ciphertext record received : Bytes}

/-! ## What the calls do -/

/-- What `encrypt_packet` gives the cipher and gets from it. -/
structure Sealing where
  packet : Packet
  plaintext : Bytes
  nonce : Bytes
  header : Bytes
  ciphertext : Bytes
deriving DecidableEq

def Sealing.associatedData (sealing : Sealing) : Bytes := tcpRecordAadPrefix ++ sealing.header

/-- The record of a packet under a sequence number. -/
def sealingOf (aead : Aead) (session : TcpSession) (sequence : Nat) (packet : Packet) (plaintext : Bytes) : Sealing :=
  let header := packHeader (plaintext.length + tcpRecordTagSize) sequence
  { packet, plaintext, header
    nonce := nonce session.transmitNoncePrefix sequence
    ciphertext := aead.encrypt session.transmitEncryptionKey (nonce session.transmitNoncePrefix sequence) plaintext
      (tcpRecordAadPrefix ++ header) }

/-- A call that raises consumes no sequence number; one that returns seals the
packet under the next. -/
theorem encryptPacket_spec :
    Ensures (· = session) (encryptPacket aead packet)
      (fun record state => ∃ plaintext, packet.encode = some plaintext ∧ session.sendSequence < tcpMaxSequence ∧
        state = { session with sendSequence := session.sendSequence + 1 } ∧
        record = (sealingOf aead session session.sendSequence packet plaintext).header ++
          (sealingOf aead session session.sendSequence packet plaintext).ciphertext)
      (· = session) := by
  refine Ensures.read fun seen same => ?_
  subst same
  refine Ensures.bind (Ensures.refuse (Q := fun _ state => state = seen ∧ seen.sendSequence < tcpMaxSequence)
    (fun _ same _ => same) fun _ same room => ⟨same, Nat.not_le.mp room⟩) fun _ =>
    Ensures.bind (Ensures.orRaise (Q := fun plaintext state => (state = seen ∧ seen.sendSequence < tcpMaxSequence) ∧
      packet.encode = some plaintext) (fun _ held _ => held.1) fun _ _ held encoded => ⟨held, encoded⟩) fun plaintext =>
    Ensures.bind (Ensures.change (Q := fun _ state => state = { seen with sendSequence := seen.sendSequence + 1 } ∧
      seen.sendSequence < tcpMaxSequence ∧ packet.encode = some plaintext) ?_) fun _ =>
      Ensures.pure fun state held => ⟨plaintext, held.2.2, held.2.1, held.1, rfl⟩
  rintro state ⟨⟨rfl, room⟩, encoded⟩
  exact ⟨rfl, room, encoded⟩

/-- What a record must be for `decrypt_record` to accept it. -/
structure Opens (aead : Aead) (session : TcpSession) (header ciphertext : Bytes) (packet : Packet) : Prop where
  size : header.length = tcpRecordHeaderSize
  length : BigEndian.ofBytes (header.take 4) = ciphertext.length
  bounds : tcpRecordTagSize ≤ ciphertext.length ∧ ciphertext.length ≤ tcpMaxRecordSize
  sequence : BigEndian.ofBytes (header.drop 4) = session.receiveSequence
  room : session.receiveSequence < tcpMaxSequence
  decrypts : ∃ plaintext, aead.decrypt session.receiveEncryptionKey
      (nonce session.receiveNoncePrefix session.receiveSequence) ciphertext (tcpRecordAadPrefix ++ header) = some plaintext ∧
    headerSize ≤ plaintext.length ∧ plaintext.length ≤ tcpMaxPlaintextSize ∧
    Packet.decode (plaintext.take headerSize) (plaintext.drop headerSize) = some packet

theorem validateRecordHeader_spec :
    Ensures (· = session) (validateRecordHeader header)
      (fun fields state => state = session ∧ header.length = tcpRecordHeaderSize ∧
        fields = (BigEndian.ofBytes (header.take 4), BigEndian.ofBytes (header.drop 4)) ∧
        tcpRecordTagSize ≤ fields.1 ∧ fields.1 ≤ tcpMaxRecordSize ∧ fields.2 < tcpMaxSequence)
      (· = session) := by
  refine Ensures.bind (Ensures.refuse (Q := fun _ state => state = session ∧ header.length = tcpRecordHeaderSize)
    (fun _ same _ => same) fun _ same size => ⟨same, not_not.mp size⟩) fun _ =>
    Ensures.bind (Ensures.refuse (Q := fun _ state => (state = session ∧ header.length = tcpRecordHeaderSize) ∧
      tcpRecordTagSize ≤ BigEndian.ofBytes (header.take 4)) (fun _ held _ => held.1)
      fun _ held long => ⟨held, Nat.not_lt.mp long⟩) fun _ =>
    Ensures.bind (Ensures.refuse (Q := fun _ state => ((state = session ∧ header.length = tcpRecordHeaderSize) ∧
      tcpRecordTagSize ≤ BigEndian.ofBytes (header.take 4)) ∧ BigEndian.ofBytes (header.take 4) ≤ tcpMaxRecordSize)
      (fun _ held _ => held.1.1) fun _ held short => ⟨held, Nat.not_lt.mp short⟩) fun _ =>
    Ensures.bind (Ensures.refuse (Q := fun _ state => (((state = session ∧ header.length = tcpRecordHeaderSize) ∧
      tcpRecordTagSize ≤ BigEndian.ofBytes (header.take 4)) ∧ BigEndian.ofBytes (header.take 4) ≤ tcpMaxRecordSize) ∧
        BigEndian.ofBytes (header.drop 4) < tcpMaxSequence)
      (fun _ held _ => held.1.1.1) fun _ held room => ⟨held, Nat.not_le.mp room⟩) fun _ => Ensures.pure ?_
  rintro state ⟨⟨⟨⟨same, size⟩, long⟩, short⟩, room⟩
  exact ⟨same, size, rfl, long, short, room⟩

theorem readPlaintext_spec {plaintext : Bytes} :
    Ensures (· = session) (readPlaintext plaintext)
      (fun packet state => headerSize ≤ plaintext.length ∧ plaintext.length ≤ tcpMaxPlaintextSize ∧
        Packet.decode (plaintext.take headerSize) (plaintext.drop headerSize) = some packet ∧
        state = { session with receiveSequence := session.receiveSequence + 1 })
      (· = session) := by
  refine Ensures.bind (Ensures.refuse (Q := fun _ state => state = session ∧
      headerSize ≤ plaintext.length ∧ plaintext.length ≤ tcpMaxPlaintextSize) (fun _ same _ => same)
    fun _ same sized => ⟨same, by omega, by omega⟩) fun _ =>
    Ensures.bind (Ensures.orRaise (Q := fun packet state => (state = session ∧
      headerSize ≤ plaintext.length ∧ plaintext.length ≤ tcpMaxPlaintextSize) ∧
        Packet.decode (plaintext.take headerSize) (plaintext.drop headerSize) = some packet)
      (fun _ held _ => held.1) fun _ _ held decoded => ⟨held, decoded⟩) fun packet =>
    Ensures.bind (Ensures.change (Q := fun _ state => headerSize ≤ plaintext.length ∧
      plaintext.length ≤ tcpMaxPlaintextSize ∧
      Packet.decode (plaintext.take headerSize) (plaintext.drop headerSize) = some packet ∧
      state = { session with receiveSequence := session.receiveSequence + 1 }) ?_) fun _ => Ensures.pure fun _ held => held
  rintro state ⟨⟨rfl, long, short⟩, decoded⟩
  exact ⟨long, short, decoded, rfl⟩

/-- A record that is rejected leaves the session as it was; one that is accepted
is the one that the session waits for. -/
theorem decryptRecord_spec :
    Ensures (· = session) (decryptRecord aead header ciphertext)
      (fun packet state => Opens aead session header ciphertext packet ∧
        state = { session with receiveSequence := session.receiveSequence + 1 })
      (· = session) := by
  refine Ensures.bind validateRecordHeader_spec fun ⟨length, sequence⟩ => ?_
  refine Ensures.bind (Ensures.refuse (Q := fun _ state => state = session ∧ header.length = tcpRecordHeaderSize ∧
      (length, sequence) = (BigEndian.ofBytes (header.take 4), BigEndian.ofBytes (header.drop 4)) ∧
        (tcpRecordTagSize ≤ length ∧ length ≤ tcpMaxRecordSize ∧ sequence < tcpMaxSequence) ∧ ciphertext.length = length)
    (fun _ held _ => held.1) fun _ held same => ⟨held.1, held.2.1, held.2.2.1, held.2.2.2, not_not.mp same⟩) fun _ =>
      Ensures.read fun seen ⟨same, size, fields, bounds, measured⟩ => ?_
  subst same
  obtain ⟨rfl, rfl⟩ := Prod.mk.inj fields
  refine Ensures.bind (Ensures.refuse (Q := fun _ state => state = seen ∧
      BigEndian.ofBytes (header.drop 4) = seen.receiveSequence) (fun _ same _ => same)
    fun _ same sequence => ⟨same, not_not.mp sequence⟩) fun _ => ?_
  rintro state ⟨rfl, sequence⟩
  rw [sequence] at bounds ⊢
  have opened : Ensures (· = state) (do
      let plaintext ← orRaise (aead.decrypt state.receiveEncryptionKey
        (nonce state.receiveNoncePrefix state.receiveSequence) ciphertext (tcpRecordAadPrefix ++ header))
        (.transport "Invalid TCP record authentication")
      readPlaintext plaintext)
      (fun packet next => Opens aead state header ciphertext packet ∧
        next = { state with receiveSequence := state.receiveSequence + 1 }) (· = state) := by
    refine Ensures.bind (Ensures.orRaise (Q := fun plaintext next => next = state ∧ aead.decrypt state.receiveEncryptionKey
      (nonce state.receiveNoncePrefix state.receiveSequence) ciphertext (tcpRecordAadPrefix ++ header) = some plaintext)
      (fun _ same _ => same) fun _ _ same decrypted => ⟨same, decrypted⟩) fun plaintext => ?_
    rintro next ⟨rfl, decrypted⟩
    exact Ensures.weaken readPlaintext_spec (fun _ same => same) (fun packet final ⟨long, short, decoded, counted⟩ =>
      ⟨⟨size, measured.symm, ⟨measured ▸ bounds.1, measured ▸ bounds.2.1⟩, sequence, bounds.2.2,
        plaintext, decrypted, long, short, decoded⟩, counted⟩) (fun _ same => same) next rfl
  exact opened state rfl

/-- The record that the session waits for is accepted. -/
theorem decryptRecord_opens (opens : Opens aead session header ciphertext packet) :
    decryptRecord aead header ciphertext session =
      (.ok packet, { session with receiveSequence := session.receiveSequence + 1 }) := by
  obtain ⟨size, length, ⟨long, short⟩, sequence, room, plaintext, decrypts, readable, bounded, decoded⟩ := opens
  have validated : validateRecordHeader header session = (.ok (ciphertext.length, session.receiveSequence), session) := by
    simp only [validateRecordHeader, size, length, sequence, refuse, ne_eq, not_true_eq_false, if_false, bind_apply,
      if_neg (Nat.not_lt.mpr long), if_neg (Nat.not_lt.mpr short), if_neg (Nat.not_le.mpr room), pure_apply]
  simp only [decryptRecord, bind_apply, validated, refuse, ne_eq, not_true_eq_false, if_false, pure_apply, Handler.read,
    Handler.orRaise, decrypts, readPlaintext, if_neg (not_or.mpr ⟨Nat.not_lt.mpr readable, Nat.not_lt.mpr bounded⟩), decoded,
    Handler.change]

/-- The read loop hands to `decrypt_record` what it cuts from the stream, and
leaves the session as it was where the stream ends inside a record. -/
theorem recvEncryptedPacket_spec :
    Ensures (· = session) (recvEncryptedPacket aead received)
      (fun result state => match result with
        | none => state = session
        | some packet => Opens aead session (received.take tcpRecordHeaderSize) ((received.drop tcpRecordHeaderSize).take
            (BigEndian.ofBytes ((received.take tcpRecordHeaderSize).take 4))) packet ∧
          state = { session with receiveSequence := session.receiveSequence + 1 })
      (· = session) := by
  refine Ensures.ite (fun _ => Ensures.pure fun _ same => same) fun _ =>
    Ensures.bind validateRecordHeader_spec fun ⟨length, sequence⟩ => ?_
  rintro state ⟨rfl, -, fields, -⟩
  obtain ⟨rfl, -⟩ := Prod.mk.inj fields
  refine (Ensures.ite (fun _ => Ensures.pure fun _ same => same) fun _ => Ensures.bind decryptRecord_spec fun packet =>
    Ensures.pure fun _ held => held : Ensures (· = state) _ _ _) state rfl

end TcpSession

end MeshTalk.Tcp
