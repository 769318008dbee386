import MeshTalk.Files.Receiver

namespace MeshTalk.Files

open MeshTalk.Library MeshTalk.Protocol MeshTalk.Store

/-! # What each suspension point does

The point a file task is suspended at determines its next action, so a fact
about the state can be checked point by point, whatever program reaches it.
-/

variable {crypto : FileCrypto}

def FilePoint.effect (identity : Identity crypto) : FilePoint → Fate → Receiver → Receiver
  | lockPeer peerId holder, _, receiver => { receiver with packetLocks := receiver.packetLocks.set peerId holder }
  | unlockPeer peerId, _, receiver => { receiver with packetLocks := receiver.packetLocks.erase peerId }
  | lockInbound holder, _, receiver => { receiver with inboundLock := some holder }
  | unlockInbound, _, receiver => { receiver with inboundLock := none }
  | execute statement, fate, receiver => receiver.updateDb (statement.apply fate.now)
  | commit, _, receiver => receiver.commit
  | keepEarly peer chunk, fate, receiver => keepEarlyChunk peer chunk fate receiver
  | dropEarly fileId, _, receiver => receiver.dropEarly fileId
  | forgetRetry fileId, _, receiver => receiver.forgetRetry fileId
  | forgetReservation fileId, _, receiver => (receiver.forgetRetry fileId).dropEarly fileId
  | seenCheck offer holder, _, receiver => (lookUpSeen holder offer receiver).2
  | endAccepting fileId, _, receiver => { receiver with accepting := receiver.accepting.erase fileId }
  | createInbound offer, fate, receiver => (placeFile crypto offer fate receiver).2
  | reclaim transfer, fate, receiver => (unlinkFile transfer fate receiver).2
  | writeChunk transfer chunk, fate, receiver => (Files.writeChunk identity transfer chunk fate receiver).2
  | recreate transfer, fate, receiver => (retryFile transfer fate receiver).2
  | sendAck peer fileId status ranges, _, receiver => (buildAck identity peer fileId status ranges receiver).2
  | transmit peer document, fate, receiver => (Files.transmit peer document fate receiver).2
  | configure configuration, _, receiver => receiver.configure configuration
  | query, _, receiver | checkPacket, _, receiver | offerMigration _, _, receiver | admission _ _, _, receiver
  | checkChunk _ _, _, receiver | verify _, _, receiver | resume _, _, receiver => receiver

/-- Points that neither create the row of a file nor begin or end the acceptance
of an offer of it. -/
def FilePoint.Background (fileId : String) : FilePoint → Prop
  | execute (.save transfer) => transfer.fileId ≠ fileId
  | seenCheck offer _ => offer.fileId ≠ fileId
  | endAccepting accepted => accepted ≠ fileId
  | _ => True

abbrev InBackground (identity : Identity crypto) (fileId : String) (task : Program α) : Prop :=
  task.Follows (FilePoint.effect identity) (FilePoint.Background fileId)

section Programs

open Task

variable {dumps : Json → Bytes} {identity : Identity crypto} {peer : FilePeer} {offer : FileOfferV2Payload}
  {chunk : FileChunkV2Payload} {transfer : FileTransfer} {fileId file : String} {points : FilePoint → Prop}

theorem query_follows {read : Receiver → α} (known : points .query) :
    (query read).Follows (FilePoint.effect identity) points :=
  Follows.perform known fun _ _ => rfl

theorem execute_follows {statement : FileStatement} (known : points (.execute statement)) :
    (execute statement).Follows (FilePoint.effect identity) points :=
  Follows.perform known fun _ _ => rfl

theorem commit_follows (known : points .commit) : commit.Follows (FilePoint.effect identity) points :=
  Follows.perform known fun _ _ => rfl

theorem onlyIf_follows {condition : Bool} {body : Program Unit}
    (follows : body.Follows (FilePoint.effect identity) points) :
    (onlyIf condition body).Follows (FilePoint.effect identity) points :=
  Follows.ite follows Follows.pure

theorem logged_follows {body : Program Unit} (follows : body.Follows (FilePoint.effect identity) points) :
    (body.recover logAndDrop).Follows (FilePoint.effect identity) points :=
  Follows.recover follows fun _ => Follows.pure

/-- A check leaves the state as it was, whether or not it raises. -/
theorem check_follows {point : FilePoint} {handler : Fate → Action α} (known : points point)
    (same : ∀ fate receiver, FilePoint.effect identity point fate receiver = receiver)
    (reads : ∀ fate seen, (handler fate).Keeps (· = seen)) :
    (Task.perform point handler).Follows (FilePoint.effect identity) points :=
  Follows.perform known fun fate receiver => by
    rw [same fate receiver]
    exact (reads fate receiver).finish rfl

theorem sendAck_background {status : AckStatus} {ranges : Option (List (Nat × Nat))} :
    InBackground identity file (sendAck dumps identity peer fileId status ranges) := by
  refine Follows.ite Follows.pure (Follows.bind (Follows.perform trivial fun _ _ => rfl) fun document => ?_)
  refine Follows.recover (Follows.perform trivial fun _ _ => rfl) fun _ => ?_
  exact Follows.bind (execute_follows trivial) fun _ => commit_follows trivial

theorem authorizedInbound_follows {groupId : Option String} (known : points .query) :
    (authorizedInbound identity peer groupId).Follows (FilePoint.effect identity) points := by
  have asks : ∀ {β : Type} {read : Receiver → β}, (query read).Follows (FilePoint.effect identity) points :=
    query_follows known
  refine Follows.bind asks fun _ => Follows.ite Follows.pure (Follows.ite asks (Follows.bind asks fun _ => ?_))
  exact Follows.bind asks fun _ => Follows.ite (Follows.bind asks fun _ => Follows.pure) Follows.pure

theorem completeInboundTransfer_background :
    InBackground identity file (completeInboundTransfer dumps identity peer transfer) := by
  refine Follows.bind (Follows.perform trivial fun _ _ => rfl) fun valid => Follows.ite ?_ ?_
  · refine Follows.bind (Follows.perform trivial fun _ _ => rfl) fun _ => Follows.bind (execute_follows trivial) fun _ => ?_
    exact Follows.bind (execute_follows trivial) fun _ => Follows.bind (commit_follows trivial) fun _ => sendAck_background
  · refine Follows.bind (execute_follows trivial) fun _ => Follows.bind (commit_follows trivial) fun _ => ?_
    refine Follows.bind (Follows.perform trivial fun _ _ => rfl) fun recreated => Follows.ite ?_ Follows.pure
    refine Follows.bind (execute_follows trivial) fun _ => Follows.bind (execute_follows trivial) fun _ => ?_
    refine Follows.bind (execute_follows trivial) fun _ => Follows.bind (commit_follows trivial) fun _ => ?_
    exact Follows.bind (commit_follows trivial) fun _ => sendAck_background

theorem checkChunk_keeps {seen : Receiver} : (checkChunk transfer chunk).Keeps (· = seen) :=
  Handler.Keeps.read fun _ _ => Handler.Keeps.bind Handler.Keeps.refuse fun _ =>
    Handler.Keeps.bind Handler.Keeps.refuse fun _ => Handler.Keeps.refuse

theorem storeChunk_background : InBackground identity file (storeChunk dumps identity peer chunk transfer) := by
  refine Follows.bind (check_follows trivial (fun _ _ => rfl) fun _ _ => checkChunk_keeps) fun _ => ?_
  refine Follows.bind (query_follows trivial) fun received => Follows.ite Follows.pure ?_
  refine Follows.bind (Follows.perform trivial fun _ _ => rfl) fun written => Follows.ite ?_ ?_
  · refine Follows.bind (execute_follows trivial) fun _ => Follows.bind (query_follows trivial) fun count => ?_
    refine Follows.bind (execute_follows trivial) fun _ => ?_
    exact Follows.bind (onlyIf_follows (commit_follows trivial)) fun _ => onlyIf_follows completeInboundTransfer_background
  · exact Follows.bind (execute_follows trivial) fun _ => commit_follows trivial

theorem dropEarly_background : InBackground identity file (dropEarly fileId) := Follows.perform trivial fun _ _ => rfl

theorem replayChunk_background : InBackground identity file (replayChunk dumps identity fileId peer chunk) := by
  refine Follows.bind (query_follows trivial) fun found => ?_
  cases found with
  | none => exact Follows.pure
  | some transfer =>
      refine Follows.ite Follows.pure (Follows.bind (authorizedInbound_follows trivial) fun _ => ?_)
      exact Follows.ite storeChunk_background sendAck_background

theorem replayEarly_background : InBackground identity file (replayEarly dumps identity fileId) :=
  Follows.bind (Follows.perform trivial fun _ _ => rfl) fun _ =>
    Follows.forEach fun _ _ => logged_follows replayChunk_background

theorem expireTransfer_background : InBackground identity file (expireTransfer transfer) := by
  have forgets : InBackground identity file (forgetReservation transfer) := by
    refine Follows.bind (Follows.perform trivial fun _ _ => rfl) fun _ => Follows.bind (execute_follows trivial) fun _ => ?_
    refine Follows.bind (execute_follows trivial) fun _ => Follows.bind (execute_follows trivial) fun _ => ?_
    refine Follows.bind (commit_follows trivial) fun _ => Follows.bind (execute_follows trivial) fun _ => ?_
    exact commit_follows trivial
  refine Follows.bind (Follows.perform trivial fun _ _ => rfl) fun state => ?_
  cases state with
  | none => exact forgets
  | some reclaim =>
      cases reclaim with
      | false => exact Follows.pure
      | true =>
          refine Follows.bind (query_follows trivial) fun _ => Follows.ite Follows.pure ?_
          exact Follows.bind (Follows.perform trivial fun _ _ => rfl) fun _ => onlyIf_follows forgets

theorem expireAbandoned_background : InBackground identity file expireAbandoned :=
  Follows.bind (query_follows trivial) fun _ => Follows.forEach fun _ _ => expireTransfer_background

theorem admitInbound_background : InBackground identity file (admitInbound offer) :=
  Follows.bind expireAbandoned_background fun _ => Follows.bind (query_follows trivial) fun _ =>
    Follows.perform trivial fun _ _ => rfl

theorem createInbound_background : InBackground identity file (createInbound crypto offer) :=
  Follows.perform trivial fun _ _ => rfl

theorem withInboundLock_follows {self : Nat} {body : Program Bool} (locking : points (.lockInbound self))
    (unlocking : points .unlockInbound) (follows : body.Follows (FilePoint.effect identity) points) :
    (withInboundLock self body).Follows (FilePoint.effect identity) points :=
  Follows.bind (Follows.acquire locking fun _ => rfl) fun _ =>
    Follows.ensuring follows (Follows.perform unlocking fun _ _ => rfl)

theorem expireAbandonedInbound_background {self : Nat} : InBackground identity file (expireAbandonedInbound self) := by
  refine Follows.bind (withInboundLock_follows trivial trivial ?_) fun _ => Follows.pure
  refine Follows.bind (query_follows trivial) fun migrating => Follows.ite Follows.pure ?_
  exact Follows.bind expireAbandoned_background fun _ => Follows.pure

theorem acceptOffer_background {self : Nat} (other : offer.fileId ≠ file) :
    InBackground identity file (acceptOffer dumps identity self peer offer) := by
  have reserves : InBackground identity file (reserveOffer dumps identity peer offer) := by
    refine Follows.bind admitInbound_background fun admitted => Follows.ite ?_ ?_
    · refine Follows.bind createInbound_background fun created => ?_
      cases created with
      | none => exact Follows.pure
      | some path => exact Follows.bind (execute_follows other) fun _ => Follows.bind (commit_follows trivial) fun _ => Follows.pure
    · exact Follows.bind dropEarly_background fun _ => Follows.bind sendAck_background fun _ => Follows.pure
  refine Follows.bind (Follows.perform other fun _ _ => rfl) fun seen => Follows.ite Follows.pure ?_
  refine Follows.bind (Follows.ensuring ?_ (Follows.perform other fun _ _ => rfl)) fun accepted =>
    onlyIf_follows replayEarly_background
  refine Follows.bind (withInboundLock_follows trivial trivial reserves) fun accepted => ?_
  refine Follows.bind (onlyIf_follows ?_) fun _ => Follows.pure
  exact Follows.bind (execute_follows trivial) fun _ => commit_follows trivial

theorem checkPacket_follows {action : Action Unit} (known : points .checkPacket)
    (keeps : ∀ seen, action.Keeps (· = seen)) :
    (Task.perform .checkPacket fun _ => action : Program Unit).Follows (FilePoint.effect identity) points :=
  check_follows known (fun _ _ => rfl) fun _ => keeps

theorem checkOffer_keeps {seen : Receiver} : (checkOffer identity peer offer).Keeps (· = seen) :=
  Handler.Keeps.bind Handler.Keeps.refuse fun _ => Handler.Keeps.bind Handler.Keeps.refuse fun _ =>
    Handler.Keeps.bind Handler.Keeps.refuse fun _ => Handler.Keeps.refuse

theorem checkChunkPacket_keeps {seen : Receiver} : (checkChunkPacket identity peer chunk).Keeps (· = seen) :=
  Handler.Keeps.bind Handler.Keeps.refuse fun _ => Handler.Keeps.bind Handler.Keeps.refuse fun _ =>
    Handler.Keeps.bind Handler.Keeps.refuse fun _ => Handler.Keeps.refuse

theorem handleChunk_background : InBackground identity file (handleChunk dumps identity peer chunk) := by
  refine Follows.bind (checkPacket_follows trivial fun _ => checkChunkPacket_keeps) fun _ => ?_
  refine Follows.bind (query_follows trivial) fun found => ?_
  cases found with
  | none => exact Follows.perform trivial fun _ _ => rfl
  | some transfer =>
      refine Follows.ite sendAck_background (Follows.bind (authorizedInbound_follows trivial) fun _ => ?_)
      exact Follows.ite (logged_follows storeChunk_background) sendAck_background

theorem resumeTransfer_background : InBackground identity file (resumeTransfer dumps identity peer transfer) := by
  refine Follows.ite Follows.pure (Follows.bind (authorizedInbound_follows trivial) fun _ => ?_)
  refine Follows.ite (Follows.ite sendAck_background (Follows.ite ?_ Follows.pure)) Follows.pure
  refine Follows.bind (Follows.perform trivial fun _ _ => rfl) fun missing => ?_
  exact Follows.ite completeInboundTransfer_background sendAck_background

theorem resumeForPeer_background : InBackground identity file (resumeForPeer dumps identity peer) := by
  refine Follows.bind (query_follows trivial) fun _ => Follows.ite Follows.pure ?_
  exact Follows.bind (query_follows trivial) fun _ => Follows.forEach fun _ _ => resumeTransfer_background

theorem handleOffer_background {self : Nat} (other : offer.fileId ≠ file) :
    InBackground identity file (handleOffer dumps identity self peer offer) := by
  refine Follows.bind (checkPacket_follows trivial fun _ => checkOffer_keeps) fun _ => ?_
  refine Follows.bind (query_follows trivial) fun found => ?_
  cases found with
  | none =>
      refine Follows.bind (authorizedInbound_follows trivial) fun allowed => Follows.ite ?_ ?_
      · refine Follows.bind (Follows.perform trivial fun _ _ => rfl) fun migrating => Follows.ite ?_ ?_
        · exact Follows.bind dropEarly_background fun _ => sendAck_background
        · exact acceptOffer_background other
      · exact Follows.bind dropEarly_background fun _ => sendAck_background
  | some existing =>
      refine Follows.ite Follows.failed (Follows.bind (onlyIf_follows sendAck_background) fun _ => ?_)
      exact replayEarly_background

end Programs

end MeshTalk.Files
