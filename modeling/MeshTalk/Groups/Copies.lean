import MeshTalk.Groups.Presence
import MeshTalk.Groups.Sweeps

namespace MeshTalk.Groups

open MeshTalk.Library MeshTalk.Protocol MeshTalk.Store MeshTalk.Library.Contract

/-! # Whether a relayed copy is stored

A relay counts a copy as delivered once it is sent.  Whether its receiver takes
it is decided by the limits, the roster and the keys it has when the copy comes
to each of its checks, and by how the sender wrote `created_at`.
-/

variable {crypto : FileCrypto} {publicAddress : String → Bool}

/-! ## What a relay sends -/

section Relay

variable {relay : Identity crypto} {dumps : Json → Bytes} {encryptForRecipient : Bytes → Bytes → Json → Bytes}
  {recipientId : PeerId} {recipientKey : Bytes} {self : Nat}

/-- A copy made for a peer whose encryption key the relay has from its connection. -/
def Made (relay : Identity crypto) (dumps : Json → Bytes) (encryptForRecipient : Bytes → Bytes → Json → Bytes)
    (recipientKey : Bytes) (copy : RelayedCopy) : Prop :=
  ∃ peer groupId, peer.peerId = copy.peerId ∧ peer.encryptionPublicKey = some recipientKey ∧
    Prepared relay dumps encryptForRecipient peer groupId copy.message copy.payload

/-- A connection to the recipient has its encryption key. -/
def Introduced (recipientId : PeerId) (recipientKey : Bytes) : GroupPoint → GroupFate → GroupNode → Prop
  | .send peer _ _, _, _ => peer.peerId = recipientId → peer.encryptionPublicKey = some recipientKey
  | _, _, _ => True

def copying (relay : Identity crypto) (dumps : Json → Bytes) (encryptForRecipient : Bytes → Bytes → Json → Bytes)
    (recipientId : PeerId) (recipientKey : Bytes) : Contract GroupNode GroupFate GroupPoint :=
  Contract.ofInvariant (fun node => ∀ copy ∈ node.relays, copy.peerId = recipientId →
    Made relay dumps encryptForRecipient recipientKey copy) (Introduced recipientId recipientKey)

theorem copying_step {point : GroupPoint} {fate : GroupFate} {before after : GroupNode}
    (made : (copying relay dumps encryptForRecipient recipientId recipientKey).invariant before)
    (relays : after.relays = before.relays) :
    (copying relay dumps encryptForRecipient recipientId recipientKey).Step self point fate before after :=
  ⟨fun copy member => made copy (relays ▸ member), trivial, fun _ _ => trivial⟩

def copyingRules : SweepRules relay dumps encryptForRecipient
    (copying relay dumps encryptForRecipient recipientId recipientKey) self where
  arrived := fun _ _ _ _ => True
  resumed := fun _ _ _ _ _ => True
  relaying := fun _ _ _ _ _ => True
  verdict := fun _ _ _ _ => True
  unmoved := fun _ _ _ _ made moved => copying_step made moved.relays
  arrivedStable := fun _ _ _ _ _ _ _ _ _ => trivial
  arrivedUnmoved := fun _ _ _ _ _ _ _ => trivial
  resumedStable := fun _ _ _ _ _ _ _ _ _ _ => trivial
  relayingStable := fun _ _ _ _ _ _ _ _ _ _ => trivial
  relayingUnmoved := fun _ _ _ _ _ _ _ _ => trivial
  verdictStable := fun _ _ _ _ _ _ _ _ _ => trivial
  verdictUnmoved := fun _ _ _ _ _ _ _ => trivial
  ineligible := fun _ _ _ => trivial
  raisedQuery := fun _ _ _ _ _ _ => trivial
  raisedPrepare := fun _ _ _ _ _ _ _ _ => trivial
  suppressed := fun _ _ _ _ _ _ _ _ _ => trivial
  arrives := fun _ _ _ _ made => ⟨copying_step made rfl, trivial⟩
  resumes := fun _ _ _ _ _ _ => trivial
  fetches := fun _ _ _ _ _ _ _ made _ => ⟨copying_step made rfl, trivial⟩
  examines := fun _ _ _ _ _ _ _ _ made _ _ => ⟨copying_step made rfl, trivial⟩
  sends := by
    intro peer payload groupId stored rest covered fate before made _ prepared introduced goes
    refine ⟨⟨fun copy member addressed => ?_, trivial, fun _ _ => trivial⟩, trivial⟩
    rw [sendCopy, if_neg (Bool.eq_false_iff.mp goes)] at member
    rcases List.mem_append.mp member with earlier | added
    · exact made copy earlier addressed
    · cases List.mem_singleton.mp added
      exact ⟨peer, groupId, rfl, introduced addressed, prepared⟩
  advances := fun _ _ _ _ _ _ made _ => copying_step made rfl
  leaves := fun _ _ made => copying_step made rfl

theorem groupService_copies : Pool.Fulfils (copying relay dumps encryptForRecipient recipientId recipientKey)
    (groupService relay dumps encryptForRecipient) where
  starts := by
    intro request self state _
    have executes : ∀ {statement : GroupStatement} {state : GroupNode},
        (copying relay dumps encryptForRecipient recipientId recipientKey).Keeps self (execute statement) state :=
      Honours.perform (P := fun _ => True) trivial (fun _ _ _ _ _ _ => trivial) fun _ _ made _ _ =>
        ⟨copying_step made rfl, trivial⟩
    cases request with
    | sweep peer => exact copyingRules.relayForPeer
    | upsertMember groupId peerId active =>
        exact Honours.bind (executes.weaken (fun _ _ _ => executes) fun _ _ => id)
    | change statement =>
        cases statement with
        | setCursor peerId groupId lastRowid => trivial
        | upsertMember groupId peerId active => trivial
        | _ => exact executes
  reboots := fun _ made => made

end Relay

/-! ## What a relay has accepted -/

/-- A stored message is one that `_handle_message` accepted: `original` is the
packet, and its origin signature verified under the key the relay had. -/
structure AcceptedAs (crypto : FileCrypto) (original : GroupMessagePayload) (senderKey : Bytes) (stored : GroupMessage) :
    Prop where
  valid : original.valid = true
  row : ∃ plaintext content now rowid, decodeUtf8 plaintext = some content ∧
    stored = { receivedRow original content now with rowid } ∧
    (original.originSignature.length = 64 →
      crypto.verify senderKey original.originSignature (originBytes crypto original plaintext) = true)

/-- A connection on which the recipient has the relay authenticated, with what
the copy needs negotiated. -/
structure AuthenticatedRelay (relay : Identity crypto) (copy : RelayedCopy) (peer : GroupPeer) : Prop where
  peerId : peer.peerId = relay.peerId
  key : peer.signingPublicKey = some relay.signingPublicKey
  groups : peer.supports capGroupChat = true
  replies : copy.message.replyToMessageId.getD "" ≠ "" → peer.supports capMessageReplies = true

/-- What the checks of the recipient find in a copy. -/
structure Sendable (recipient : Identity crypto) (peer : GroupPeer) (senderKey : Bytes) (payload : GroupMessagePayload)
    (content : String) : Prop where
  valid : payload.valid = true
  recipientId : payload.recipientId = recipient.peerId
  senders : payload.senderId ≠ recipient.peerId ∧ payload.senderId ≠ peer.peerId
  groups : peer.supports capGroupChat = true
  replies : payload.replyToMessageId.getD "" ≠ "" → peer.supports capMessageReplies = true
  authentic : ∃ key, peer.signingPublicKey = some key ∧
    crypto.verify key payload.signature (payload.signedBytes crypto) = true
  opens : recipient.decryptAsRecipient payload.encryptedContent payload.associatedData = some (encodeUtf8 content)
  size : (encodeUtf8 content).length ≤ maxGroupMessageContentSize
  origin : payload.originSignature.length = 64 ∧
    crypto.verify senderKey payload.originSignature (originBytes crypto payload (encodeUtf8 content)) = true

section Copy

variable {relay recipient : Identity crypto} {dumps : Json → Bytes} {encryptForRecipient : Bytes → Bytes → Json → Bytes}
  {recipientKey senderKey : Bytes} {copy : RelayedCopy} {original : GroupMessagePayload} {peer : GroupPeer}

/-- A copy of a message whose `created_at` its sender wrote as a real number
passes every check that does not depend on the state of the recipient. -/
theorem made_sendable (made : Made relay dumps encryptForRecipient recipientKey copy)
    (addressed : copy.peerId = recipient.peerId) (accepted : AcceptedAs crypto original senderKey copy.message)
    (real : original.createdAt.stored = original.createdAt)
    (opens : ∀ content data, recipient.decryptAsRecipient (encryptForRecipient recipientKey content data) data = some content)
    (authenticated : AuthenticatedRelay relay copy peer) :
    Sendable recipient peer senderKey copy.payload (copy.message.content.getD "") := by
  obtain ⟨target, groupId, about, keyKnown, prepared⟩ := made
  obtain ⟨key, keyed, built⟩ := prepared.built
  obtain ⟨plaintext, content, now, rowid, decoded, row, verified⟩ := accepted.row
  cases keyed recipientKey keyKnown
  have valid := accepted.valid
  have sameTime : JsonNumber.real copy.message.createdAt = original.createdAt := by rw [row]; exact real
  have sameContent : copy.message.content.getD "" = content := by rw [row]; rfl
  have whole : encodeUtf8 content = plaintext := encodeUtf8_of_decodeUtf8 decoded
  have origin : copy.message.originSignature.getD [] = original.originSignature := by
    rw [row]
    change (if original.originSignature = [] then none else some original.originSignature).getD [] = _
    split
    · rename_i none
      rw [none]
      rfl
    · rfl
  have length : original.originSignature.length = 64 := origin ▸ prepared.origin
  rw [built]
  refine
    { valid := ?_
      recipientId := about.trans addressed
      senders := ⟨fun same => prepared.senders.2 (same.trans (about.trans addressed).symm), fun same =>
        prepared.senders.1 (same.trans authenticated.peerId)⟩
      groups := authenticated.groups
      replies := authenticated.replies
      authentic := ⟨relay.signingPublicKey, authenticated.key, relay.sign_verifies _⟩
      opens := opens _ _
      size := prepared.content
      origin := ⟨prepared.origin, ?_⟩ }
  · simp only [GroupMessagePayload.valid, Bool.and_eq_true, Bool.or_eq_true, decide_eq_true_eq] at valid ⊢
    obtain ⟨⟨⟨⟨⟨⟨⟨⟨messageId, group⟩, sender⟩, -⟩, positive⟩, bounded⟩, -⟩, -⟩, reply⟩ := valid
    have stored : copy.message.messageId = original.messageId ∧ copy.message.senderId = original.senderId ∧
        copy.message.groupId = original.groupId ∧ copy.message.createdAt = original.createdAt.value ∧
        copy.message.replyToMessageId = original.replyToMessageId := by
      rw [row]
      exact ⟨rfl, rfl, rfl, rfl, rfl⟩
    rw [← stored.1] at messageId
    rw [← stored.2.2.1, prepared.group] at group
    rw [← stored.2.1] at sender
    rw [← stored.2.2.2.1] at positive bounded
    rw [← stored.2.2.2.2] at reply
    have addressee : validPeerId target.peerId = true := about.trans addressed ▸ recipient.peerId_valid
    exact ⟨⟨⟨⟨⟨⟨⟨⟨messageId, group⟩, sender⟩, addressee⟩, positive⟩, bounded⟩, relay.sign_length _⟩,
      .inr prepared.origin⟩, reply⟩
  · have bytes : originBytes crypto (relayedPayload relay encryptForRecipient recipientKey target groupId copy.message
        (copy.message.originSignature.getD []) (encodeUtf8 (copy.message.content.getD "")))
        (encodeUtf8 (copy.message.content.getD "")) = originBytes crypto original plaintext := by
      change crypto.canonical (groupOrigin copy.message.messageId groupId copy.message.senderId
        (.real copy.message.createdAt) copy.message.replyToMessageId _) = _
      rw [sameTime, sameContent, whole, ← prepared.group, row]
      rfl
    rw [bytes]
    exact origin.symm ▸ verified length

end Copy

/-! ## What the recipient makes of it -/

/-- The hits of a bucket that still count. -/
def MemberNode.recentHits (node : MemberNode) (bucket key : String) (now : Time) : List Time :=
  ((node.inboundHits.get? (bucket, key)).getD []).filter fun hit => decide (now - hit < groupInboundWindowSeconds)

/-- At each of its checks, the copy finds the recipient with room in its limits,
with its sender and its relay active and not blocked, with the sender's key, and
without the message. -/
def Welcomes (peer : GroupPeer) (payload : GroupMessagePayload) (senderKey : Bytes) :
    MemberPoint → MemberFate → MemberNode → Prop
  | .receive stage other message, fate, node => other = peer → message = payload →
      match stage with
      | .peerRate => (node.recentHits "peer" peer.peerId fate.now).length < groupPeerBurst
      | .relayBlocked => node.db.isPeerBlocked peer.peerId = false
      | .room => node.namesRoom payload.groupId = true
      | .senderActive => node.memberActive payload.groupId payload.senderId = true
      | .relayActive => node.memberActive payload.groupId peer.peerId = true
      | .senderBlocked => node.db.isPeerBlocked payload.senderId = false
      | .rate => (node.recentHits "relayed" payload.senderId fate.now).length < groupRelayInboundBurst
      | .senderKey => node.signingKeyOf payload.senderId = some senderKey
      | .lookUp => node.db.groupMessages.find? payload.messageId = none
      | .save => node.db.groupMessages.holds payload.messageId = false
      | _ => True
  | _, _, _ => True

/-- The recipient has inserted the message with its content. -/
def Stored (payload : GroupMessagePayload) (content : String) (node : MemberNode) : Prop :=
  ∃ now, receivedRow payload content now ∈ node.stored

def delivering (peer : GroupPeer) (payload : GroupMessagePayload) (senderKey : Bytes) (content : String) :
    Contract MemberNode MemberFate MemberPoint where
  invariant := fun node => (peer, payload) ∈ node.ended → Stored payload content node
  rely := fun _ before after => before.stored ⊆ after.stored
  admits := Welcomes peer payload senderKey
  guarantees := fun _ _ _ _ => True

/-- An action that inserts messages at most, and ends no handler. -/
structure Storing (before after : MemberNode) : Prop where
  stored : before.stored ⊆ after.stored
  ended : after.ended = before.ended

theorem Storing.refl {node : MemberNode} : Storing node node := ⟨List.Subset.refl _, rfl⟩

theorem Storing.trans {before middle after : MemberNode} (first : Storing before middle) (second : Storing middle after) :
    Storing before after :=
  ⟨fun _ member => second.stored (first.stored member), second.ended.trans first.ended⟩

section Programs

variable {recipient : Identity crypto} {peer : GroupPeer} {message : GroupMessagePayload} {point : MemberPoint}

theorem memberQuery_storing {read : MemberNode → α} : (memberQuery read).Within Storing :=
  Task.Within.perform fun _ _ => .refl

theorem receiveRead_storing {stage : ReceiveStage} {read : MemberNode → α} :
    (receiveRead stage peer message read).Within Storing :=
  Task.Within.perform fun _ _ => .refl

theorem change_storing {update : MemberFate → MemberNode → MemberNode} (storing : ∀ fate node, Storing node (update fate node)) :
    (Task.perform point fun fate => (Handler.change (update fate) : MemberAction Unit)).Within Storing :=
  Task.Within.perform storing

theorem checkRate_storing {bucket key : String} {burst : Nat} {window now : Time} {node : MemberNode} :
    Storing node (checkRate bucket key burst window now node).2 := by
  have outcome : ∃ hits, (checkRate bucket key burst window now node).2 = { node with inboundHits := hits } := by
    simp only [checkRate, Handler.bind_apply, Handler.read]
    split <;> exact ⟨_, rfl⟩
  obtain ⟨hits, same⟩ := outcome
  rw [same]
  exact ⟨List.Subset.refl _, rfl⟩

theorem saveMessage_storing {content : String} {fate : MemberFate} {node : MemberNode} :
    Storing node (saveMessage message content fate node).2 := by
  refine ⟨?_, rfl⟩
  change node.stored ⊆ if _ then node.stored ++ [_] else node.stored
  split
  · exact List.subset_append_left _ _
  · exact List.Subset.refl _

theorem acknowledge_storing : (acknowledge peer message).Within Storing := by
  refine Task.Within.perform fun fate node => ?_
  cases fails : fate.sendFails with
  | true => simp [Handler.bind_apply, Handler.refuse, Handler.raise, Storing.refl]
  | false => exact ⟨List.Subset.refl _, rfl⟩

theorem storeMessage_storing {content : String} : (storeMessage peer message content).Within Storing := by
  have seen : (receive .markSeen peer message fun fate => markSeen message.messageId fate.now).Within Storing :=
    change_storing fun _ _ => ⟨List.Subset.refl _, rfl⟩
  refine Task.Within.bind receiveRead_storing fun existing => ?_
  cases existing with
  | some row => exact Task.Within.ite acknowledge_storing .pure
  | none =>
      refine Task.Within.bind (Task.Within.perform fun _ _ => saveMessage_storing) fun inserted => ?_
      refine Task.Within.ite (Task.Within.bind seen fun _ => acknowledge_storing) ?_
      refine Task.Within.bind receiveRead_storing fun winner => ?_
      cases winner with
      | none => exact .pure
      | some row => exact Task.Within.ite (Task.Within.bind seen fun _ => acknowledge_storing) .pure

theorem openMessage_storing : (openMessage recipient peer message).Within Storing := by
  have key : (senderKey peer message).Within Storing := Task.Within.ite receiveRead_storing .pure
  unfold openMessage
  split
  · exact .failed
  · refine Task.Within.ite ?_ .failed
    split
    · exact .failed
    · split
      · exact .failed
      · refine Task.Within.ite .failed (Task.Within.bind key fun found => ?_)
        cases found with
        | none => exact .failed
        | some key =>
            exact Task.Within.ite (Task.Within.ite storeMessage_storing .failed)
              (Task.Within.ite .failed storeMessage_storing)

theorem handleMessage_storing : (handleMessage recipient peer message).Within Storing := by
  have relay : (relayAdmitted peer message).Within Storing := Task.Within.ite receiveRead_storing .pure
  have rate : (withinRate peer message).Within Storing := by
    refine Task.Within.perform fun fate node => ?_
    by_cases relayed : message.senderId ≠ peer.peerId
    · rw [if_pos relayed]
      exact checkRate_storing
    · rw [if_neg relayed]
      exact checkRate_storing
  refine Task.Within.ite .failed (Task.Within.ite .failed (Task.Within.ite .failed ?_))
  refine Task.Within.bind (Task.Within.perform fun _ _ => checkRate_storing) fun _ => Task.Within.ite ?_ .pure
  refine Task.Within.bind receiveRead_storing fun _ => Task.Within.ite .pure (Task.Within.ite .failed ?_)
  refine Task.Within.bind receiveRead_storing fun _ => Task.Within.bind receiveRead_storing fun _ => ?_
  refine Task.Within.ite .failed (Task.Within.bind relay fun _ => Task.Within.ite ?_ .failed)
  refine Task.Within.bind receiveRead_storing fun _ => Task.Within.ite .pure ?_
  exact Task.Within.bind rate fun _ => Task.Within.ite openMessage_storing .pure

theorem handleLeave_storing {leave : GroupLeavePayload} : (handleLeave crypto peer leave).Within Storing := by
  have kept : ∀ {point : MemberPoint} {update : MemberFate → MemberNode → MemberNode},
      (∀ fate node, (update fate node).stored = node.stored ∧ (update fate node).ended = node.ended) →
      (Task.perform point fun fate => (Handler.change (update fate) : MemberAction Unit)).Within Storing :=
    fun same => change_storing fun fate node => ⟨(same fate node).1 ▸ List.Subset.refl _, (same fate node).2⟩
  refine Task.Within.ite .failed ?_
  split
  · exact .failed
  · refine Task.Within.bind (Task.Within.perform fun _ _ => .refl) fun _ => Task.Within.ite .pure ?_
    refine Task.Within.bind memberQuery_storing fun _ => Task.Within.ite .pure (Task.Within.ite ?_ .failed)
    refine Task.Within.bind (kept fun _ _ => ⟨rfl, rfl⟩) fun _ => Task.Within.bind (kept fun _ _ => ⟨rfl, rfl⟩) fun _ => ?_
    exact kept fun _ _ => ⟨rfl, rfl⟩

theorem upsertMember_storing {groupId : String} {peerId : PeerId} {insert : MemberProgram Unit}
    (inserts : insert.Within Storing) : (upsertMember groupId peerId insert).Within Storing := by
  refine Task.Within.bind inserts fun _ => Task.Within.bind (change_storing fun _ _ => ⟨List.Subset.refl _, rfl⟩) fun _ => ?_
  exact Task.Within.bind memberQuery_storing fun _ => Task.Within.ite .pure .failed

theorem acceptCard_storing {roomId : String} {card : EndpointCard} {fate : MemberFate} {node : MemberNode} :
    Storing node (acceptCard recipient publicAddress roomId card fate node).2 := by
  have keeps : (acceptCard recipient publicAddress roomId card fate).Keeps (Storing node) := by
    refine Handler.Keeps.read fun seen _ => Handler.Keeps.ite (fun _ => .pure) fun _ => ?_
    cases card.refusal crypto fate.now with
    | some reason => exact .raise
    | none =>
        have changes : ∀ {seenCards : MemberNode → Dict (String × PeerId × String) Time}
            {candidateSeen : MemberNode → Dict PeerId Time},
            (Handler.change fun other => { other with seenCards := seenCards other, candidateSeen := candidateSeen other } :
              MemberAction Unit).Keeps (Storing node) :=
          Handler.Keeps.change fun _ storing => storing.trans ⟨List.Subset.refl _, rfl⟩
        refine Handler.Keeps.ite (fun _ => .pure) fun _ => .bind changes fun _ => .bind .refuse fun _ => ?_
        exact .bind changes fun _ => .bind .refuse fun _ => .bind changes fun _ => .pure
  have kept := keeps node .refl
  rcases run : acceptCard recipient publicAddress roomId card fate node with ⟨outcome, after⟩
  rw [run] at kept
  cases outcome <;> exact kept

theorem handleCard_storing {roomId : String} {card : EndpointCard} :
    (handleCard recipient publicAddress roomId card).Within Storing := by
  refine Task.Within.bind (Task.Within.perform fun fate node => ?_) fun ⟨member, now⟩ => Task.Within.ite ?_ .pure
  · have storing : Storing node (acceptCard recipient publicAddress roomId card fate node).2 := acceptCard_storing
    simp only [Handler.bind_apply]
    rcases run : acceptCard recipient publicAddress roomId card fate node with ⟨outcome, after⟩
    rw [run] at storing
    cases outcome <;> exact storing
  · refine Task.Within.bind ?_ fun joined => Task.Within.ite ?_ .pure
    · refine Task.Within.recover (Task.Within.bind (upsertMember_storing ?_) fun _ => .pure) fun _ => .pure
      exact change_storing fun _ _ => ⟨List.Subset.refl _, rfl⟩
    · exact Task.Within.bind memberQuery_storing fun _ => Task.Within.ite .pure
        (change_storing fun _ _ => ⟨List.Subset.refl _, rfl⟩)

theorem peerConnected_storing {peerId : PeerId} : (peerConnected peerId).Within Storing := by
  refine Task.Within.bind memberQuery_storing fun groups => Task.Within.forEach fun groupId => ?_
  refine Task.Within.bind memberQuery_storing fun active => Task.Within.ite (upsertMember_storing ?_) .pure
  exact change_storing fun _ _ => ⟨List.Subset.refl _, rfl⟩

end Programs

section Delivery

variable {recipient : Identity crypto} {peer other : GroupPeer} {payload message : GroupMessagePayload} {senderKey : Bytes}
  {content : String} {self : Nat} {state : MemberNode}

theorem Storing.step {point : MemberPoint} {fate : MemberFate} {before after : MemberNode}
    (delivered : (delivering peer payload senderKey content).invariant before) (storing : Storing before after) :
    (delivering peer payload senderKey content).Step self point fate before after := by
  refine ⟨fun ended => ?_, trivial, fun _ _ => storing.stored⟩
  obtain ⟨now, member⟩ := delivered (storing.ended ▸ ended)
  exact ⟨now, storing.stored member⟩

theorem idle_stable : (delivering peer payload senderKey content).Stable self fun _ => True :=
  fun _ _ _ _ _ _ => trivial

theorem stored_stable : (delivering peer payload senderKey content).Stable self (Stored payload content) :=
  fun _ _ _ _ grows ⟨now, member⟩ => ⟨now, grows member⟩

/-- Whatever is no handler of the copy. -/
theorem storing_keeps {program : MemberProgram Unit} (storing : program.Within Storing) :
    (delivering peer payload senderKey content).Keeps self program state :=
  Honours.ofWithin (P := fun _ => True) storing trivial idle_stable (fun _ _ _ _ => Storing.step) fun _ _ _ _ => trivial

/-- The end of a handler. -/
theorem ended_keeps (stored : (other, message) = (peer, payload) → Stored payload content state) :
    (delivering peer payload senderKey content).Keeps self
      (receive .ended other message fun _ => Handler.change fun node =>
        { node with ended := node.ended ++ [(other, message)] }) state := by
  refine Honours.perform (P := fun node => (other, message) = (peer, payload) → Stored payload content node) stored
    (fun before after kept still grows held same => stored_stable before after kept still grows (held same))
    fun fate before delivered held _ => ⟨⟨fun ended => ?_, trivial, fun _ _ => List.Subset.refl _⟩, trivial⟩
  rcases List.mem_append.mp ended with earlier | last
  · exact delivered earlier
  · exact held (List.mem_singleton.mp last).symm

theorem reads {stage : ReceiveStage} {read : MemberNode → α} {Q : α → Prop} {failure : MemberError → MemberNode → Prop}
    (expected : ∀ fate before, Welcomes peer payload senderKey (.receive stage peer payload) fate before → Q (read before)) :
    (delivering peer payload senderKey content).Honours self (fun value _ => Q value) failure
      (receiveRead stage peer payload read) state :=
  Honours.perform (P := fun _ => True) trivial idle_stable fun fate before delivered _ admitted =>
    ⟨Storing.step delivered .refl, expected fate before admitted⟩

theorem checkRate_passes {bucket key : String} {burst : Nat} {now : Time} {node : MemberNode}
    (room : (node.recentHits bucket key now).length < burst) :
    (checkRate bucket key burst groupInboundWindowSeconds now node).1 = .ok true := by
  unfold checkRate
  unfold MemberNode.recentHits at room
  simp only [Handler.bind_apply, Handler.read]
  rw [if_neg (Nat.not_le.mpr room)]
  rfl

theorem passes {stage : ReceiveStage} {action : MemberFate → MemberAction Bool}
    {failure : MemberError → MemberNode → Prop} (storing : ∀ fate node, Storing node (action fate node).2)
    (expected : ∀ fate before, Welcomes peer payload senderKey (.receive stage peer payload) fate before →
      (action fate before).1 = .ok true) :
    (delivering peer payload senderKey content).Honours self (fun value _ => value = true) failure
      (receive stage peer payload action) state := by
  refine Honours.perform (P := fun _ => True) trivial idle_stable fun fate before delivered _ admitted =>
    ⟨Storing.step delivered (storing fate before), ?_⟩
  have passed := expected fate before admitted
  rcases run : action fate before with ⟨outcome, after⟩
  rw [run] at passed
  cases passed
  rfl

theorem save_stores {fate : MemberFate} {before : MemberNode}
    (fresh : before.db.groupMessages.holds payload.messageId = false) :
    (saveMessage payload content fate before).1 = .ok true ∧
      Stored payload content (saveMessage payload content fate before).2 := by
  have inserted : (before.db.saveGroupMessage (receivedRow payload content fate.now)).2 = true := by
    unfold Database.saveGroupMessage
    rw [if_neg (by simpa [receivedRow] using fresh)]
  have saved : saveMessage payload content fate before =
      (.ok (before.db.saveGroupMessage (receivedRow payload content fate.now)).2, { before with
        db := (before.db.saveGroupMessage (receivedRow payload content fate.now)).1
        stored := if (before.db.saveGroupMessage (receivedRow payload content fate.now)).2 then
            before.stored ++ [receivedRow payload content fate.now]
          else before.stored }) := rfl
  rw [saved, inserted]
  exact ⟨rfl, fate.now, List.mem_append_right _ List.mem_cons_self⟩

/-- From the look-up on: the message is inserted, and then stays inserted. -/
theorem storeMessage_delivers :
    (delivering peer payload senderKey content).Honours self (fun _ => Stored payload content)
      (fun _ => Stored payload content) (storeMessage peer payload content) state := by
  have after : ∀ {program : MemberProgram Unit} {node : MemberNode}, program.Within Storing →
      Stored payload content node → (delivering peer payload senderKey content).Honours self
        (fun _ => Stored payload content) (fun _ => Stored payload content) program node :=
    fun storing held => Honours.ofWithin storing held stored_stable (fun _ _ _ _ => Storing.step)
      fun _ _ grows ⟨now, member⟩ => ⟨now, grows.stored member⟩
  refine Honours.bind ((reads (Q := (· = none)) fun _ _ admitted => admitted rfl rfl).weaken
    (fun existing node absent => ?_) fun _ _ => id)
  cases absent
  refine Honours.bind (Honours.perform (P := fun _ => True) trivial idle_stable fun fate before delivered _ admitted => ?_)
  refine ⟨Storing.step delivered saveMessage_storing, ?_⟩
  obtain ⟨returned, stored⟩ := @save_stores payload content fate before (admitted rfl rfl)
  rcases run : saveMessage payload content fate before with ⟨outcome, node⟩
  rw [run] at returned stored
  cases returned
  exact after (Task.Within.bind (change_storing fun _ _ => ⟨List.Subset.refl _, rfl⟩) fun _ => acknowledge_storing) stored

/-- A sendable copy is stored by the time its handler ends. -/
theorem handleMessage_delivers (sendable : Sendable recipient peer senderKey payload content) :
    (delivering peer payload senderKey content).Honours self (fun _ => Stored payload content)
      (fun _ => Stored payload content) (handleMessage recipient peer payload) state := by
  have relayed : payload.senderId ≠ peer.peerId := sendable.senders.2
  have own : ¬ (payload.recipientId ≠ recipient.peerId ∨ payload.senderId = recipient.peerId) :=
    not_or.mpr ⟨not_not.mpr sendable.recipientId, sendable.senders.1⟩
  have negotiated : (payload.replyToMessageId.getD "" ≠ "" && !peer.supports capMessageReplies) = false := by
    by_cases reply : payload.replyToMessageId.getD "" = ""
    · simp [reply]
    · simp [sendable.replies reply]
  obtain ⟨key, known, verified⟩ := sendable.authentic
  unfold handleMessage
  rw [if_neg (by simp [sendable.valid]), if_neg (by simp [sendable.groups]), if_neg (by rw [negotiated]; exact Bool.false_ne_true)]
  refine Honours.bind ((passes (fun _ _ => checkRate_storing) fun _ _ admitted =>
    checkRate_passes (admitted rfl rfl)).weaken (fun within node passed => ?_) fun _ _ => id)
  subst passed
  refine Honours.bind ((reads (Q := (· = false)) fun _ _ admitted => admitted rfl rfl).weaken
    (fun blocked node free => ?_) fun _ _ => id)
  cases free
  rw [if_neg (by simp), if_neg own]
  refine Honours.bind ((reads (Q := (· = true)) fun _ _ admitted => admitted rfl rfl).weaken
    (fun named node room => ?_) fun _ _ => id)
  refine Honours.bind ((reads (Q := (· = true)) fun _ _ admitted => admitted rfl rfl).weaken
    (fun active node member => ?_) fun _ _ => id)
  cases room
  cases member
  rw [if_neg (by simp)]
  unfold relayAdmitted
  rw [if_pos relayed]
  refine Honours.bind ((reads (Q := (· = true)) fun _ _ admitted => admitted rfl rfl).weaken
    (fun active node member => ?_) fun _ _ => id)
  cases member
  refine Honours.bind ((reads (Q := (· = false)) fun _ _ admitted => admitted rfl rfl).weaken
    (fun blocked node free => ?_) fun _ _ => id)
  cases free
  rw [if_neg (by simp)]
  refine Honours.bind ((passes (fun fate before => ?_) fun fate before admitted => ?_).weaken
    (fun within node passed => ?_) fun _ _ => id)
  · rw [if_pos relayed]
    exact checkRate_storing
  · rw [if_pos relayed]
    exact checkRate_passes (admitted rfl rfl)
  subst passed
  unfold openMessage
  rw [if_pos rfl, known]
  simp only [verified, if_true, sendable.opens, decodeUtf8_encodeUtf8]
  unfold verifyOrigin
  rw [if_neg (Nat.not_lt.mpr sendable.size)]
  unfold Groups.senderKey
  rw [if_pos relayed]
  refine Honours.bind ((reads (Q := (· = some senderKey)) fun _ _ admitted => admitted rfl rfl).weaken
    (fun found node learnt => ?_) fun _ _ => id)
  cases learnt
  simp only [sendable.origin.1, sendable.origin.2, if_true]
  exact storeMessage_delivers

theorem memberService_delivers (sendable : Sendable recipient peer senderKey payload content) :
    Pool.Fulfils (delivering peer payload senderKey content) (memberService recipient publicAddress) where
  starts := by
    intro request self state _
    cases request with
    | message other message =>
        by_cases same : (other, message) = (peer, payload)
        · cases same
          refine Honours.ensuring ((handleMessage_delivers sendable).weaken (fun _ node stored => ?_)
            fun _ node stored => ?_)
          · exact ended_keeps fun _ => stored
          · exact ended_keeps fun _ => stored
        · refine Honours.ensuring (Honours.weaken (storing_keeps handleMessage_storing) (fun _ node _ => ?_)
            fun _ node _ => ?_)
          · exact ended_keeps fun equal => (same equal).elim
          · exact ended_keeps fun equal => (same equal).elim
    | leave other leave => exact storing_keeps handleLeave_storing
    | card roomId card => exact storing_keeps handleCard_storing
    | connected peerId => exact storing_keeps peerConnected_storing
    | removeGroup groupId => exact storing_keeps (change_storing fun _ _ => ⟨List.Subset.refl _, rfl⟩)
    | settings rooms blockedPeers groups =>
        exact storing_keeps (change_storing fun _ _ => ⟨List.Subset.refl _, rfl⟩)
  reboots := fun _ delivered => delivered

end Delivery

section Runs

variable {relay recipient : Identity crypto} {dumps : Json → Bytes} {encryptForRecipient : Bytes → Bytes → Json → Bytes}
  {recipientKey senderKey : Bytes} {copy : RelayedCopy} {original : GroupMessagePayload} {peer : GroupPeer}

/-- In every run of a relay and every run of a recipient that meet the condition,
a copy reported as sent is stored once its handler has ended, when the relay had
accepted the message with a `created_at` written as a real number. -/
theorem relayed_copy_is_stored {relayStart relayFinal : Pool GroupNode GroupFate GroupPoint GroupError}
    {relayEvents : List (PoolEvent GroupFate GroupRequest)} (relayIdle : relayStart.tasks = [])
    (unsent : relayStart.shared.relays = [])
    (introduced : Meets (Pool.step (groupService relay dumps encryptForRecipient))
      (Pool.Allowed (Introduced recipient.peerId recipientKey)) relayStart relayEvents)
    (relayed : run (Pool.step (groupService relay dumps encryptForRecipient)) relayStart relayEvents = some relayFinal)
    (sent : copy ∈ relayFinal.shared.relays) (addressed : copy.peerId = recipient.peerId)
    (accepted : AcceptedAs crypto original senderKey copy.message) (real : original.createdAt.stored = original.createdAt)
    (opens : ∀ content data, recipient.decryptAsRecipient (encryptForRecipient recipientKey content data) data = some content)
    (authenticated : AuthenticatedRelay relay copy peer)
    {start final : Pool MemberNode MemberFate MemberPoint MemberError}
    {events : List (PoolEvent MemberFate MemberRequest)} (idle : start.tasks = []) (fresh : start.shared.ended = [])
    (welcomed : Meets (Pool.step (memberService recipient publicAddress))
      (Pool.Allowed (Welcomes peer copy.payload senderKey)) start events)
    (completed : run (Pool.step (memberService recipient publicAddress)) start events = some final)
    (ended : (peer, copy.payload) ∈ final.shared.ended) :
    Stored copy.payload (copy.message.content.getD "") final.shared := by
  have made := (Pool.run_sound groupService_copies ⟨fun other member => (by rw [unsent] at member; cases member),
    fun index task found => by rw [relayIdle] at found; cases found⟩ introduced relayed).invariant copy sent addressed
  have sendable := made_sendable made addressed accepted real opens authenticated
  exact (Pool.run_sound (memberService_delivers sendable) ⟨fun member => (by rw [fresh] at member; cases member),
    fun index task found => by rw [idle] at found; cases found⟩ welcomed completed).invariant ended

end Runs

/-! ### One message with a real and one with an integer time -/

/-- Signatures are the first bytes of what they sign, which say whether
`created_at` is a real number. -/
def datedCrypto : FileCrypto where
  canonical := fun json => match json with
    | .object members => match members.lookup "created_at" with
      | some (.real _) => [1]
      | _ => [0]
    | _ => []
  digest := id
  sha256 := fun _ => ""
  verify := fun _ signature message => decide (signature = (message ++ List.replicate 64 0).take 64)

def datedIdentity (peerId : PeerId) (valid : validPeerId peerId = true) : Identity datedCrypto where
  peerId := peerId
  signingPublicKey := []
  sign := fun message => (message ++ List.replicate 64 0).take 64
  decryptAsRecipient := fun content _ => some content
  peerId_valid := valid
  sign_length := fun message => by simp
  sign_verifies := fun _ => decide_eq_true rfl

def relayIdentity : Identity datedCrypto := datedIdentity "self" plainIdentity.peerId_valid

def bobIdentity : Identity datedCrypto := datedIdentity "bob" (by decide)

/-- A message of Carol's to the relay, as she wrote its time. -/
def carolPacket (createdAt : JsonNumber) : GroupMessagePayload :=
  let bare : GroupMessagePayload :=
    { messageId := "m", groupId := teamId, senderId := "carol", recipientId := "self", createdAt
      encryptedContent := encodeUtf8 "hello", signature := [], replyToMessageId := none, originSignature := [] }
  { bare with
    signature := relayIdentity.sign (bare.signedBytes datedCrypto)
    originSignature := relayIdentity.sign (originBytes datedCrypto bare (encodeUtf8 "hello")) }

def connectionTo (peerId : PeerId) : GroupPeer where
  peerId := peerId
  capabilities := [capGroupChat, capGroupRelay]
  signingPublicKey := some []
  encryptionPublicKey := some [1]

def threeMembers : Database :=
  ["self", "carol", "bob"].foldl (fun db peerId => db.insertGroupMember teamId peerId true 1)
    { groups := [teamId], peers := (∅ : Table PeerRecord PeerRecord.peerId).insertOrIgnore
        { peerId := "carol", publicKey := none, signingPublicKey := some [] } }

def memberOfThree : MemberNode := { emptyMemberNode with db := threeMembers }

def relayOfThree : GroupNode := { emptyGroupNode with db := threeMembers }

/-- The relay saves the message it has accepted, and sweeps for Bob. -/
def savedForBob (createdAt : JsonNumber) : List (PoolEvent GroupFate GroupRequest) :=
  [.start (.change (.save (receivedRow (carolPacket createdAt) "hello" 100004))), .start (.sweep (connectionTo "bob"))] ++
    groupTurns 0 1 100005 ++ groupTurns 1 16 100006

def carolCopy (createdAt : JsonNumber) : RelayedCopy :=
  let message := { receivedRow (carolPacket createdAt) "hello" 100004 with rowid := 1 }
  { peerId := "bob"
    message
    payload := relayedPayload relayIdentity (fun _ content _ => content) [1] (connectionTo "bob") teamId message
      (message.originSignature.getD []) (encodeUtf8 "hello")
    memberSince := none }

def handledBy (peer : GroupPeer) (message : GroupMessagePayload) (steps : Nat) (now : Time) :
    List (PoolEvent MemberFate MemberRequest) :=
  .start (.message peer message) :: memberTurns 0 steps now

instance {peer : GroupPeer} {payload : GroupMessagePayload} {senderKey : Bytes} {point : MemberPoint} {fate : MemberFate}
    {node : MemberNode} : Decidable (Welcomes peer payload senderKey point fate node) := by
  induction point using MemberPoint.casesOn with
  | receive stage other message => induction stage using ReceiveStage.casesOn <;> dsimp only [Welcomes] <;> infer_instance
  | _ => dsimp only [Welcomes]; infer_instance

instance {recipientId : PeerId} {recipientKey : Bytes} {point : GroupPoint} {fate : GroupFate} {node : GroupNode} :
    Decidable (Introduced recipientId recipientKey point fate node) := by
  induction point using GroupPoint.casesOn <;> simp only [Introduced] <;> infer_instance

theorem carol_accepted {createdAt : JsonNumber} (valid : (carolPacket createdAt).valid = true)
    (verified : datedCrypto.verify [] (carolPacket createdAt).originSignature
      (originBytes datedCrypto (carolPacket createdAt) (encodeUtf8 "hello")) = true) :
    AcceptedAs datedCrypto (carolPacket createdAt) [] (carolCopy createdAt).message :=
  ⟨valid, encodeUtf8 "hello", "hello", 100004, 1, decodeUtf8_encodeUtf8, rfl, fun _ => verified⟩

theorem bob_stores_real_time :
    ∃ relayed final,
      run (Pool.step (groupService relayIdentity (fun _ => []) fun _ content _ => content)) ⟨relayOfThree, []⟩
        (savedForBob (.real 100003)) = some relayed ∧ carolCopy (.real 100003) ∈ relayed.shared.relays ∧
      run (Pool.step (memberService bobIdentity fun _ => true)) ⟨memberOfThree, []⟩
        (handledBy (connectionTo "self") (carolCopy (.real 100003)).payload 13 100007) = some final ∧
      Stored (carolCopy (.real 100003)).payload "hello" final.shared := by
  have sent : (run (Pool.step (groupService relayIdentity (fun _ => []) fun _ content _ => content)) ⟨relayOfThree, []⟩
      (savedForBob (.real 100003))).any (fun relayed => decide (carolCopy (.real 100003) ∈ relayed.shared.relays)) = true := by
    decide +kernel
  have introduced : Meets (Pool.step (groupService relayIdentity (fun _ => []) fun _ content _ => content))
      (Pool.Allowed (Introduced "bob" [1])) ⟨relayOfThree, []⟩ (savedForBob (.real 100003)) := by
    decide +kernel
  have handled : (run (Pool.step (memberService bobIdentity fun _ => true)) ⟨memberOfThree, []⟩
      (handledBy (connectionTo "self") (carolCopy (.real 100003)).payload 13 100007)).any (fun final =>
        decide ((connectionTo "self", (carolCopy (.real 100003)).payload) ∈ final.shared.ended)) = true := by
    decide +kernel
  have welcomed : Meets (Pool.step (memberService bobIdentity fun _ => true))
      (Pool.Allowed (Welcomes (connectionTo "self") (carolCopy (.real 100003)).payload [])) ⟨memberOfThree, []⟩
      (handledBy (connectionTo "self") (carolCopy (.real 100003)).payload 13 100007) := by
    decide +kernel
  obtain ⟨relayed, run, member⟩ := Option.any_eq_true .. |>.mp sent
  obtain ⟨final, completed, ended⟩ := Option.any_eq_true .. |>.mp handled
  refine ⟨relayed, final, run, of_decide_eq_true member, completed, ?_⟩
  exact relayed_copy_is_stored rfl rfl introduced run (of_decide_eq_true member) rfl
    (carol_accepted (by decide +kernel) (by decide +kernel)) rfl (fun _ _ => rfl) ⟨rfl, rfl, rfl, fun reply => (reply rfl).elim⟩
    rfl rfl welcomed completed (of_decide_eq_true ended)

/-- The relay has accepted and stored the message and sent its copy, and Bob's
checks up to the signature pass. -/
theorem bob_rejects_integer_time :
    ∃ accepted relayed final,
      run (Pool.step (memberService relayIdentity fun _ => true)) ⟨memberOfThree, []⟩
        (handledBy (connectionTo "carol") (carolPacket (.int 100003)) 11 100004) = some accepted ∧
      receivedRow (carolPacket (.int 100003)) "hello" 100004 ∈ accepted.shared.stored ∧
      run (Pool.step (groupService relayIdentity (fun _ => []) fun _ content _ => content)) ⟨relayOfThree, []⟩
        (savedForBob (.int 100003)) = some relayed ∧ carolCopy (.int 100003) ∈ relayed.shared.relays ∧
      run (Pool.step (memberService bobIdentity fun _ => true)) ⟨memberOfThree, []⟩
        (handledBy (connectionTo "self") (carolCopy (.int 100003)).payload 9 100007) = some final ∧
      Meets (Pool.step (memberService bobIdentity fun _ => true))
        (Pool.Allowed (Welcomes (connectionTo "self") (carolCopy (.int 100003)).payload [])) ⟨memberOfThree, []⟩
        (handledBy (connectionTo "self") (carolCopy (.int 100003)).payload 9 100007) ∧
      (connectionTo "self", (carolCopy (.int 100003)).payload) ∈ final.shared.ended ∧
      final.shared.db.groupMessages.holds "m" = false := by
  have stored : (run (Pool.step (memberService relayIdentity fun _ => true)) ⟨memberOfThree, []⟩
      (handledBy (connectionTo "carol") (carolPacket (.int 100003)) 11 100004)).any (fun accepted =>
        decide (receivedRow (carolPacket (.int 100003)) "hello" 100004 ∈ accepted.shared.stored)) = true := by
    decide +kernel
  have sent : (run (Pool.step (groupService relayIdentity (fun _ => []) fun _ content _ => content)) ⟨relayOfThree, []⟩
      (savedForBob (.int 100003))).any (fun relayed => decide (carolCopy (.int 100003) ∈ relayed.shared.relays)) = true := by
    decide +kernel
  have handled : (run (Pool.step (memberService bobIdentity fun _ => true)) ⟨memberOfThree, []⟩
      (handledBy (connectionTo "self") (carolCopy (.int 100003)).payload 9 100007)).any (fun final =>
        decide ((connectionTo "self", (carolCopy (.int 100003)).payload) ∈ final.shared.ended ∧
          final.shared.db.groupMessages.holds "m" = false)) = true := by
    decide +kernel
  obtain ⟨accepted, intake, member⟩ := Option.any_eq_true .. |>.mp stored
  obtain ⟨relayed, swept, copied⟩ := Option.any_eq_true .. |>.mp sent
  obtain ⟨final, completed, rejected⟩ := Option.any_eq_true .. |>.mp handled
  exact ⟨accepted, relayed, final, intake, of_decide_eq_true member, swept, of_decide_eq_true copied, completed,
    by decide +kernel, of_decide_eq_true rejected⟩

end MeshTalk.Groups
