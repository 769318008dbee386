import Mathlib.Data.UInt
import MeshTalk.Library.Machine
import MeshTalk.Tcp.Session

namespace MeshTalk.Tcp

open MeshTalk.Library MeshTalk.Protocol Handler TcpSession

/-! # One direction of a TCP connection

One side encrypts packets, and the other is offered whatever bytes the network
delivers: as a record, or as a stream that the read loop cuts.
-/

variable {aead : Aead} {sender receiver : TcpSession} {header ciphertext : Bytes}

/-- The two sessions and, for statements about them, what has been sealed and
what has been accepted so far. -/
structure Link where
  sender : TcpSession
  receiver : TcpSession
  sealed : List Sealing
  accepted : List Packet

inductive LinkEvent where
  | encrypt (packet : Packet)
  | offer (header ciphertext : Bytes)
  | receive (received : Bytes)

namespace Link

variable {link next final : Link} {event : LinkEvent}

def fresh (sender receiver : TcpSession) : Link := { sender, receiver, sealed := [], accepted := [] }

def step (aead : Aead) (link : Link) : LinkEvent → Option Link
  | .encrypt packet =>
      match encryptPacket aead packet link.sender with
      | (.ok _, sender) => some { link with
          sender
          sealed := link.sealed ++ [sealingOf aead link.sender link.sender.sendSequence packet (packet.encode.getD [])] }
      | (.error _, sender) => some { link with sender }
  | .offer header ciphertext =>
      match decryptRecord aead header ciphertext link.receiver with
      | (.ok packet, receiver) => some { link with receiver, accepted := link.accepted ++ [packet] }
      | (.error _, receiver) => some { link with receiver }
  | .receive received =>
      match recvEncryptedPacket aead received link.receiver with
      | (.ok (some packet), receiver) => some { link with receiver, accepted := link.accepted ++ [packet] }
      | (.ok none, receiver) | (.error _, receiver) => some { link with receiver }

/-- The record that an event offers to `decrypt_record`. -/
def offered : LinkEvent → Option (Bytes × Bytes)
  | .encrypt _ => none
  | .offer header ciphertext => some (header, ciphertext)
  | .receive received =>
      some (received.take tcpRecordHeaderSize,
        (received.drop tcpRecordHeaderSize).take (BigEndian.ofBytes ((received.take tcpRecordHeaderSize).take 4)))

/-- What an ideal cipher grants of an event: whatever opens was sealed, under the
same nonce and with the same associated data. -/
def Genuine (aead : Aead) (link : Link) (event : LinkEvent) : Prop :=
  ∀ record ∈ offered event, ∀ plaintext ∈ aead.decrypt link.receiver.receiveEncryptionKey
      (nonce link.receiver.receiveNoncePrefix link.receiver.receiveSequence) record.2 (tcpRecordAadPrefix ++ record.1),
    ∃ sealing ∈ link.sealed, sealing.plaintext = plaintext ∧ sealing.ciphertext = record.2 ∧
      sealing.nonce = nonce link.receiver.receiveNoncePrefix link.receiver.receiveSequence ∧
      sealing.associatedData = tcpRecordAadPrefix ++ record.1

instance Genuine.decidable (aead : Aead) (link : Link) (event : LinkEvent) : Decidable (Genuine aead link event) :=
  inferInstanceAs (Decidable (∀ record ∈ offered event, _))

end Link

/-- AES-GCM inverts its own encryption and adds its tag. -/
structure IdealAead (aead : Aead) : Prop where
  decrypts : ∀ key nonce plaintext associatedData,
    aead.decrypt key nonce (aead.encrypt key nonce plaintext associatedData) associatedData = some plaintext
  expands : ∀ key nonce plaintext associatedData,
    (aead.encrypt key nonce plaintext associatedData).length = plaintext.length + tcpRecordTagSize

/-- New sessions of which one receives under what the other transmits under. -/
structure Mirrored (sender receiver : TcpSession) : Prop where
  key : receiver.receiveEncryptionKey = sender.transmitEncryptionKey
  noncePrefix : receiver.receiveNoncePrefix = sender.transmitNoncePrefix
  unsent : sender.sendSequence = 0
  unreceived : receiver.receiveSequence = 0

/-- A packet as its equality in the source sees it: a type is its number. -/
def wire (packet : Packet) : Nat × Bytes := (packet.type.value, packet.payload)

theorem nonce_injective {noncePrefix : Bytes} {first second : Nat} (same : nonce noncePrefix first = nonce noncePrefix second)
    (one : first < 2 ^ 64) (other : second < 2 ^ 64) : first = second := by
  have bytes := congrArg BigEndian.ofBytes (List.append_cancel_left same)
  rwa [BigEndian.ofBytes_toBytes (by omega), BigEndian.ofBytes_toBytes (by omega)] at bytes

/-- The packet is what the receiver reads in the record: the payload, under the
type that the number stands for. -/
def Carries (sealing : Sealing) (packet : Packet) : Prop :=
  WireType.ofValue? sealing.packet.type.value = some packet.type ∧ packet.payload = sealing.packet.payload

theorem Carries.wire {sealing : Sealing} {packet : Packet} (carries : Carries sealing packet) :
    wire packet = wire sealing.packet := by
  rw [Tcp.wire, Tcp.wire, WireType.value_of_ofValue? carries.1, carries.2]

theorem carries_of_frame {sealing : Sealing} {packet : Packet} {frame : Bytes} (encoded : sealing.packet.encode = some frame)
    (decoded : Packet.decode (frame.take headerSize) (frame.drop headerSize) = some packet) : Carries sealing packet := by
  rw [Packet.decode_frame encoded] at decoded
  obtain ⟨type, known, rfl⟩ := Option.map_eq_some_iff.mp decoded
  exact ⟨known, rfl⟩

namespace Link

/-- The records under each sequence number are those of the packets, and what
was accepted are the first of them. -/
structure InOrder (aead : Aead) (sender receiver : TcpSession) (link : Link) : Prop where
  sent : link.sender = { sender with sendSequence := link.sealed.length }
  received : link.receiver = { receiver with receiveSequence := link.accepted.length }
  room : link.sealed.length ≤ tcpMaxSequence
  records : ∀ {index sealing}, link.sealed[index]? = some sealing →
    ∃ plaintext, sealing.packet.encode = some plaintext ∧ sealing = sealingOf aead sender index sealing.packet plaintext
  short : link.accepted.length ≤ link.sealed.length
  accepted : link.accepted.map wire = (link.sealed.take link.accepted.length).map fun sealing => wire sealing.packet

theorem InOrder.fresh (mirrored : Mirrored sender receiver) : InOrder aead sender receiver (fresh sender receiver) where
  sent := by rw [Link.fresh, List.length_nil, ← mirrored.unsent]
  received := by rw [Link.fresh, List.length_nil, ← mirrored.unreceived]
  room := Nat.zero_le _
  records found := nomatch found
  short := Nat.le_refl _
  accepted := rfl

variable {link next final : Link} {event : LinkEvent} {packet : Packet}

theorem InOrder.index_lt (inOrder : InOrder aead sender receiver link) {index : Nat} {sealing : Sealing}
    (found : link.sealed[index]? = some sealing) : index < 2 ^ 64 := by
  have inside := (List.getElem?_eq_some_iff.mp found).1
  have room := inOrder.room
  unfold tcpMaxSequence at room
  omega

/-- A record that opens is the one after those already accepted. -/
theorem InOrder.opens (inOrder : InOrder aead sender receiver link) (mirrored : Mirrored sender receiver)
    (genuine : Genuine aead link event) (offers : offered event = some (header, ciphertext))
    (opens : Opens aead link.receiver header ciphertext packet) :
    ∃ sealing, link.sealed[link.accepted.length]? = some sealing ∧ header = sealing.header ∧
      ciphertext = sealing.ciphertext ∧ Carries sealing packet := by
  obtain ⟨plaintext, decrypted, -, -, decoded⟩ := opens.decrypts
  obtain ⟨sealing, member, same, text, nonces, data⟩ := genuine (header, ciphertext) offers plaintext decrypted
  obtain ⟨index, found⟩ := List.mem_iff_getElem?.mp member
  obtain ⟨frame, encoded, record⟩ := inOrder.records found
  have waiting : index = link.accepted.length := by
    have room := opens.room
    rw [inOrder.received] at nonces room
    change link.accepted.length < 2 ^ 64 - 1 at room
    rw [record, mirrored.noncePrefix] at nonces
    exact nonce_injective nonces (inOrder.index_lt found) (by omega)
  subst waiting
  have framed : frame = plaintext := by
    rw [← same, record]
    rfl
  subst framed
  exact ⟨sealing, found, (List.append_cancel_left data).symm, text.symm, carries_of_frame encoded decoded⟩

theorem InOrder.accepts (inOrder : InOrder aead sender receiver link) {sealing : Sealing}
    (found : link.sealed[link.accepted.length]? = some sealing) (same : wire packet = wire sealing.packet) :
    InOrder aead sender receiver { link with
      receiver := { link.receiver with receiveSequence := link.receiver.receiveSequence + 1 }
      accepted := link.accepted ++ [packet] } where
  sent := inOrder.sent
  received := by
    rw [List.length_append, List.length_singleton, inOrder.received]
  room := inOrder.room
  records := inOrder.records
  short := by
    rw [List.length_append, List.length_singleton]
    exact (List.getElem?_eq_some_iff.mp found).1
  accepted := by
    rw [List.length_append, List.length_singleton, List.map_append, inOrder.accepted, List.take_add_one, found,
      List.map_append]
    simp [same]

theorem InOrder.seals (inOrder : InOrder aead sender receiver link) {plaintext : Bytes}
    (encoded : packet.encode = some plaintext) (room : link.sealed.length < tcpMaxSequence) :
    InOrder aead sender receiver { link with
      sender := { link.sender with sendSequence := link.sender.sendSequence + 1 }
      sealed := link.sealed ++ [sealingOf aead sender link.sealed.length packet plaintext] } where
  sent := by
    rw [List.length_append, List.length_singleton, inOrder.sent]
  received := inOrder.received
  room := by
    rw [List.length_append, List.length_singleton]
    exact room
  records {index sealing} found := by
    rcases Nat.lt_or_ge index link.sealed.length with older | last
    · exact inOrder.records ((List.getElem?_append_left older).symm.trans found)
    · rw [List.getElem?_append_right last] at found
      obtain ⟨only, rfl⟩ := List.getElem?_eq_some_iff.mp found
      have last : index = link.sealed.length := by
        rw [List.length_singleton] at only
        omega
      subst last
      exact ⟨plaintext, by simpa [sealingOf] using encoded, by simp [sealingOf]⟩
  short := by
    rw [List.length_append]
    exact Nat.le_add_right_of_le inOrder.short
  accepted := by
    rw [List.take_append_of_le_length inOrder.short]
    exact inOrder.accepted

/-- What a call that returns adds to the log. -/
theorem InOrder.sealing (inOrder : InOrder aead sender receiver link) {plaintext : Bytes} :
    sealingOf aead link.sender link.sender.sendSequence packet plaintext =
      sealingOf aead sender link.sealed.length packet plaintext := by
  rw [inOrder.sent]
  rfl

theorem step_inOrder (inOrder : InOrder aead sender receiver link) (mirrored : Mirrored sender receiver)
    (genuine : Genuine aead link event) (stepped : step aead link event = some next) :
    InOrder aead sender receiver next := by
  cases event with
  | encrypt packet =>
      have spec := @encryptPacket_spec aead link.sender packet link.sender rfl
      simp only [step] at stepped
      rcases ran : encryptPacket aead packet link.sender with ⟨failure | record, session⟩
      · rw [ran] at spec stepped
        cases stepped
        rw [show session = link.sender from spec]
        exact inOrder
      · rw [ran] at spec stepped
        cases stepped
        obtain ⟨plaintext, encoded, room, rfl, -⟩ := spec
        rw [encoded, Option.getD_some, inOrder.sealing]
        rw [inOrder.sent] at room
        exact inOrder.seals encoded room
  | offer header ciphertext =>
      have spec := @decryptRecord_spec aead link.receiver header ciphertext link.receiver rfl
      simp only [step] at stepped
      rcases ran : decryptRecord aead header ciphertext link.receiver with ⟨failure | packet, session⟩
      · rw [ran] at spec stepped
        cases stepped
        rw [show session = link.receiver from spec]
        exact inOrder
      · rw [ran] at spec stepped
        cases stepped
        obtain ⟨opens, rfl⟩ := spec
        obtain ⟨sealing, found, -, -, carries⟩ := inOrder.opens mirrored genuine rfl opens
        exact inOrder.accepts found carries.wire
  | receive received =>
      have spec := @recvEncryptedPacket_spec aead link.receiver received link.receiver rfl
      simp only [step] at stepped
      rcases ran : recvEncryptedPacket aead received link.receiver with ⟨failure | _ | packet, session⟩
      · rw [ran] at spec stepped
        cases stepped
        rw [show session = link.receiver from spec]
        exact inOrder
      · rw [ran] at spec stepped
        cases stepped
        rw [show session = link.receiver from spec]
        exact inOrder
      · rw [ran] at spec stepped
        cases stepped
        obtain ⟨opens, rfl⟩ := spec
        obtain ⟨sealing, found, -, -, carries⟩ := inOrder.opens mirrored genuine rfl opens
        exact inOrder.accepts found carries.wire

theorem InOrder.nonces_nodup (inOrder : InOrder aead sender receiver link) : (link.sealed.map Sealing.nonce).Nodup := by
  rw [List.nodup_iff_getElem?_ne_getElem?]
  intro first second earlier inside same
  rw [List.length_map] at inside
  have one := List.getElem?_eq_getElem (Nat.lt_trans earlier inside)
  have other := List.getElem?_eq_getElem inside
  obtain ⟨_, -, firstRecord⟩ := inOrder.records one
  obtain ⟨_, -, secondRecord⟩ := inOrder.records other
  rw [List.getElem?_map, List.getElem?_map, one, other, Option.map_some, Option.map_some] at same
  have nonces := Option.some.inj same
  rw [firstRecord, secondRecord] at nonces
  have equal := nonce_injective nonces (inOrder.index_lt one) (inOrder.index_lt other)
  omega

/-- The next record opens. -/
theorem InOrder.next_opens (inOrder : InOrder aead sender receiver link) (mirrored : Mirrored sender receiver)
    (ideal : IdealAead aead) {sealing : Sealing} (found : link.sealed[link.accepted.length]? = some sealing)
    (carries : Carries sealing packet) : Opens aead link.receiver sealing.header sealing.ciphertext packet := by
  obtain ⟨plaintext, encoded, record⟩ := inOrder.records found
  obtain ⟨long, short⟩ := Packet.encode_length encoded
  have inside := (List.getElem?_eq_some_iff.mp found).1
  have room := inOrder.room
  have four : (BigEndian.toBytes 4 (plaintext.length + tcpRecordTagSize)).length = 4 := BigEndian.toBytes_length
  have cipher : sealing.ciphertext.length = plaintext.length + tcpRecordTagSize := by
    rw [record]
    exact ideal.expands ..
  have header : sealing.header = packHeader (plaintext.length + tcpRecordTagSize) link.accepted.length := by
    rw [record]
    rfl
  have waiting : link.receiver.receiveSequence = link.accepted.length := by rw [inOrder.received]
  have decrypted : aead.decrypt link.receiver.receiveEncryptionKey
      (nonce link.receiver.receiveNoncePrefix link.receiver.receiveSequence) sealing.ciphertext
        (tcpRecordAadPrefix ++ sealing.header) = some plaintext := by
    rw [inOrder.received, mirrored.key, mirrored.noncePrefix, record]
    exact ideal.decrypts ..
  simp only [headerSize, maxPacketSize] at long short
  constructor
  · simp [header, packHeader, tcpRecordHeaderSize]
  · rw [header, cipher, packHeader, List.take_left' four]
    exact BigEndian.ofBytes_toBytes (by simp only [tcpRecordTagSize]; omega)
  · rw [cipher]
    simp only [tcpRecordTagSize, tcpMaxRecordSize, tcpMaxPlaintextSize, headerSize, maxPacketSize]
    omega
  · rw [header, packHeader, List.drop_left' four, waiting]
    refine BigEndian.ofBytes_toBytes ?_
    unfold tcpMaxSequence at room
    omega
  · rw [waiting]
    omega
  · refine ⟨plaintext, decrypted, long, ?_, ?_⟩
    · simp only [tcpMaxPlaintextSize, headerSize, maxPacketSize]
      omega
    · rw [Packet.decode_frame encoded, carries.1, ← carries.2]
      rfl

/-- A cipher whose tag sums up everything it is given. -/
def summingAead : Aead where
  encrypt key nonce plaintext associatedData :=
    plaintext ++ List.replicate 15 0 ++ [(key ++ nonce ++ associatedData ++ plaintext).sum]
  decrypt key nonce ciphertext associatedData :=
    let plaintext := ciphertext.take (ciphertext.length - 16)
    if ciphertext = plaintext ++ List.replicate 15 0 ++ [(key ++ nonce ++ associatedData ++ plaintext).sum] then
      some plaintext
    else none

def sampleSession (transmit receive : UInt8) : TcpSession where
  peerId := ""
  sessionId := []
  transcriptHash := []
  confirmationToken := []
  transmitEncryptionKey := List.replicate 32 transmit
  receiveEncryptionKey := List.replicate 32 receive
  transmitNoncePrefix := List.replicate 4 transmit
  receiveNoncePrefix := List.replicate 4 receive
  sendSequence := 0
  receiveSequence := 0
  confirmed := true

def samplePacket (byte : UInt8) : Packet := { type := .live .message, payload := [byte] }

def sampleRecord (sequence : Nat) (byte : UInt8) : Sealing :=
  sealingOf summingAead (sampleSession 1 2) sequence (samplePacket byte) ((samplePacket byte).encode.getD [])

def tampered : List LinkEvent :=
  let first := sampleRecord 0 10
  let second := sampleRecord 1 20
  [.encrypt (samplePacket 10), .encrypt { type := .live .message, payload := List.replicate 65537 0 },
    .encrypt (samplePacket 20), .offer second.header second.ciphertext, .offer first.header (first.ciphertext ++ [0]),
    .receive (first.header ++ first.ciphertext), .offer first.header first.ciphertext,
    .receive (second.header ++ second.ciphertext.take 3)]

theorem summingAead_ideal : IdealAead summingAead where
  decrypts key nonce plaintext associatedData := by
    have taken : (plaintext ++ List.replicate 15 0 ++ [(key ++ nonce ++ associatedData ++ plaintext).sum]).take
        ((plaintext ++ List.replicate 15 0 ++ [(key ++ nonce ++ associatedData ++ plaintext).sum]).length - 16) =
          plaintext := by
      simp [List.append_assoc]
    simp only [summingAead, taken, if_true]
  expands key nonce plaintext associatedData := by simp [summingAead, tcpRecordTagSize]

end Link

end MeshTalk.Tcp
