import MeshTalk.Groups.Intake

namespace MeshTalk.Groups

open MeshTalk.Library MeshTalk.Protocol MeshTalk.Store MeshTalk.Store.Database MeshTalk.Library.Contract

/-! # A member is active as the last leave or card applied has it

Leaves and cards are applied in the order in which their handlers come to it,
whatever they say about their creation.
-/

variable {crypto : FileCrypto} {identity : Identity crypto} {publicAddress : String → Bool}

/-- What has to hold of a leave or a card to be applied. -/
def MembershipEvent.Accepted (crypto : FileCrypto) : MembershipEvent → Prop
  | leave payload key checkedAt =>
      clockDistance checkedAt payload.createdAt.value ≤ leaveMaxAge ∧
        crypto.verify key payload.signature (crypto.canonical payload.unsigned) = true
  | card _ endpointCard checkedAt => endpointCard.refusal crypto checkedAt = none

/-- The leaves and cards of a member that were applied, in this order. -/
def MemberNode.appliedTo (node : MemberNode) (groupId : String) (peerId : PeerId) : List MembershipEvent :=
  node.applied.filter fun event => event.member = (groupId, peerId)

def MemberNode.lastApplied (node : MemberNode) (groupId : String) (peerId : PeerId) : Option MembershipEvent :=
  (node.appliedTo groupId peerId).getLast?

structure Tracked (crypto : FileCrypto) (node : MemberNode) : Prop where
  active : ∀ groupId peerId, node.memberActive groupId peerId = (node.lastApplied groupId peerId).any MembershipEvent.joins
  accepted : ∀ event ∈ node.applied, event.Accepted crypto

/-- A refresh writes only the row of a member that is still active. -/
def StillActive : MemberPoint → MemberFate → MemberNode → Prop
  | .refresh groupId peerId, _, node => node.memberActive groupId peerId = true
  | _, _, _ => True

/-- A program that keeps track of what was applied. -/
abbrev Tracks (crypto : FileCrypto) (exit : α → Prop) (program : MemberProgram α) : Prop :=
  Preserves (Tracked crypto) StillActive exit program

theorem Tracked.same {before after : MemberNode} (tracked : Tracked crypto before)
    (active : ∀ groupId peerId, after.memberActive groupId peerId = before.memberActive groupId peerId)
    (applied : after.applied = before.applied) : Tracked crypto after := by
  refine ⟨fun groupId peerId => ?_, applied ▸ tracked.accepted⟩
  rw [active, MemberNode.lastApplied, MemberNode.appliedTo, applied]
  exact tracked.active groupId peerId

theorem lastApplied_append {node after : MemberNode} {event : MembershipEvent} {groupId : String} {peerId : PeerId}
    (applied : after.applied = node.applied ++ [event]) : after.lastApplied groupId peerId =
      if (groupId, peerId) = event.member then some event else node.lastApplied groupId peerId := by
  unfold MemberNode.lastApplied MemberNode.appliedTo
  rw [applied, List.filter_append]
  by_cases same : event.member = (groupId, peerId)
  · rw [if_pos same.symm, List.filter_singleton, decide_eq_true same, cond_true, List.getLast?_concat]
  · rw [if_neg (Ne.symm same), List.filter_singleton, decide_eq_false same, cond_false, List.append_nil]

/-- An event has been applied, and its member's flag is the event's. -/
theorem Tracked.apply {before after : MemberNode} {event : MembershipEvent} (tracked : Tracked crypto before)
    (accepted : event.Accepted crypto) (applied : after.applied = before.applied ++ [event])
    (active : ∀ groupId peerId, after.memberActive groupId peerId =
      if (groupId, peerId) = event.member then event.joins else before.memberActive groupId peerId) :
    Tracked crypto after := by
  refine ⟨fun groupId peerId => ?_, fun other member => ?_⟩
  · rw [active, lastApplied_append applied]
    split
    · rfl
    · exact tracked.active groupId peerId
  · rw [applied] at member
    rcases List.mem_append.mp member with earlier | last
    · exact tracked.accepted other earlier
    · cases List.mem_singleton.mp last
      exact accepted

/-! ## Actions -/

section Actions

variable {point : MemberPoint} {groupId : String} {peerId : PeerId}

theorem perform_tracks {action : MemberFate → MemberAction α} (keeps : ∀ fate, (action fate).Keeps (Tracked crypto)) :
    Tracks crypto (fun _ => True) (Task.perform point action) :=
  Preserves.perform fun fate => (keeps fate).weaken (fun _ held => held.1) (fun _ _ held => ⟨held, trivial⟩)
    fun _ => id

theorem change_tracks {update : MemberFate → MemberNode → MemberNode}
    (active : ∀ fate node groupId peerId, (update fate node).memberActive groupId peerId = node.memberActive groupId peerId)
    (applied : ∀ fate node, (update fate node).applied = node.applied) :
    Tracks crypto (fun _ => True) (Task.perform point fun fate => Handler.change (update fate)) :=
  perform_tracks fun fate => Handler.Keeps.change fun node tracked =>
    tracked.same (active fate node) (applied fate node)

theorem query_tracks {read : MemberNode → α} : Tracks crypto (fun _ => True) (memberQuery read) :=
  perform_tracks fun _ => Handler.Keeps.read fun _ _ => Handler.Keeps.pure

theorem receiveRead_tracks {stage : ReceiveStage} {peer : GroupPeer} {message : GroupMessagePayload}
    {read : MemberNode → α} : Tracks crypto (fun _ => True) (receiveRead stage peer message read) :=
  perform_tracks fun _ => Handler.Keeps.read fun _ _ => Handler.Keeps.pure

theorem refused_tracks {reason : String} {exit : α → Prop} : Tracks crypto exit (refused reason : MemberProgram α) :=
  Preserves.failed

theorem checkRate_keeps {bucket key : String} {burst : Nat} {window now : Time} :
    (checkRate bucket key burst window now).Keeps (Tracked crypto) := by
  refine Handler.Keeps.read fun _ _ => Handler.Keeps.ite (fun _ => ?_) fun _ => ?_
  · exact Handler.Keeps.bind (Handler.Keeps.change fun _ tracked => tracked.same (fun _ _ => rfl) rfl) fun _ =>
      Handler.Keeps.pure
  · exact Handler.Keeps.bind (Handler.Keeps.change fun _ tracked => tracked.same (fun _ _ => rfl) rfl) fun _ =>
      Handler.Keeps.pure

theorem saveMessage_keeps {message : GroupMessagePayload} {content : String} {fate : MemberFate} :
    (saveMessage message content fate).Keeps (Tracked crypto) := by
  intro node tracked
  exact tracked.same (fun _ _ => isActiveMember_save) rfl

end Actions

/-! ## Programs -/

section Programs

variable {peer : GroupPeer} {message : GroupMessagePayload}

theorem acknowledge_tracks : Tracks crypto (fun _ => True) (acknowledge peer message) :=
  perform_tracks fun _ => Handler.Keeps.bind Handler.Keeps.refuse fun _ => Handler.Keeps.change fun _ tracked =>
    tracked.same (fun _ _ => rfl) rfl

theorem storeMessage_tracks {content : String} : Tracks crypto (fun _ => True) (storeMessage peer message content) := by
  have seen : Tracks crypto (fun _ => True)
      (receive .markSeen peer message fun fate => markSeen message.messageId fate.now) :=
    change_tracks (fun _ _ _ _ => rfl) fun _ _ => rfl
  refine Preserves.bind receiveRead_tracks fun existing _ => ?_
  cases existing with
  | some row => exact Preserves.ite (fun _ => acknowledge_tracks) fun _ => Preserves.pure trivial
  | none =>
      refine Preserves.bind (perform_tracks fun _ => saveMessage_keeps) fun inserted _ => ?_
      refine Preserves.ite (fun _ => Preserves.bind seen fun _ _ => acknowledge_tracks) fun _ => ?_
      refine Preserves.bind receiveRead_tracks fun winner _ => ?_
      cases winner with
      | none => exact Preserves.pure trivial
      | some row =>
          exact Preserves.ite (fun _ => Preserves.bind seen fun _ _ => acknowledge_tracks) fun _ => Preserves.pure trivial

theorem verifyOrigin_tracks {plaintext : Bytes} {content : String} :
    Tracks crypto (fun _ => True) (verifyOrigin crypto peer message plaintext content) := by
  have key : Tracks crypto (fun _ => True) (senderKey peer message) :=
    Preserves.ite (fun _ => receiveRead_tracks) fun _ => Preserves.pure trivial
  refine Preserves.ite (fun _ => refused_tracks) fun _ => Preserves.bind key fun found _ => ?_
  cases found with
  | none => exact refused_tracks
  | some key =>
      refine Preserves.ite (fun _ => ?_) fun _ => ?_
      · exact Preserves.ite (fun _ => storeMessage_tracks) fun _ => refused_tracks
      · exact Preserves.ite (fun _ => refused_tracks) fun _ => storeMessage_tracks

theorem openMessage_tracks : Tracks crypto (fun _ => True) (openMessage identity peer message) := by
  unfold openMessage
  split
  · exact refused_tracks
  · refine Preserves.ite (fun _ => ?_) fun _ => refused_tracks
    split
    · exact refused_tracks
    · split
      · exact refused_tracks
      · exact verifyOrigin_tracks

theorem admitMessage_tracks : Tracks crypto (fun _ => True) (admitMessage identity peer message) := by
  have relay : Tracks crypto (fun _ => True) (relayAdmitted peer message) :=
    Preserves.ite (fun _ => receiveRead_tracks) fun _ => Preserves.pure trivial
  have rate : Tracks crypto (fun _ => True) (withinRate peer message) :=
    perform_tracks fun _ => Handler.Keeps.ite (fun _ => checkRate_keeps) fun _ => checkRate_keeps
  refine Preserves.bind receiveRead_tracks fun _ _ => Preserves.bind receiveRead_tracks fun _ _ => ?_
  refine Preserves.ite (fun _ => refused_tracks) fun _ => Preserves.bind relay fun _ _ => ?_
  refine Preserves.ite (fun _ => ?_) fun _ => refused_tracks
  refine Preserves.bind receiveRead_tracks fun _ _ => Preserves.ite (fun _ => Preserves.pure trivial) fun _ => ?_
  exact Preserves.bind rate fun _ _ => Preserves.ite (fun _ => openMessage_tracks) fun _ => Preserves.pure trivial

theorem handleMessage_tracks : Tracks crypto (fun _ => True) (handleMessage identity peer message) := by
  refine Preserves.ite (fun _ => refused_tracks) fun _ => Preserves.ite (fun _ => refused_tracks) fun _ => ?_
  refine Preserves.ite (fun _ => refused_tracks) fun _ => Preserves.bind (perform_tracks fun _ => checkRate_keeps) fun _ _ => ?_
  refine Preserves.ite (fun _ => ?_) fun _ => Preserves.pure trivial
  refine Preserves.bind receiveRead_tracks fun _ _ => Preserves.ite (fun _ => Preserves.pure trivial) fun _ => ?_
  exact Preserves.ite (fun _ => refused_tracks) fun _ => admitMessage_tracks

theorem handleLeave_tracks {leave : GroupLeavePayload} :
    Tracks crypto (fun _ => True) (handleLeave crypto peer leave) := by
  refine Preserves.ite (fun _ => refused_tracks) fun _ => ?_
  split
  · exact refused_tracks
  · rename_i key _
    refine Preserves.bind (Q := fun _ => True)
      (perform_tracks fun _ => Handler.Keeps.read fun _ _ => Handler.Keeps.pure) fun ⟨active, now⟩ _ => ?_
    refine Preserves.ite (fun _ => Preserves.pure trivial) fun fresh => ?_
    refine Preserves.bind query_tracks fun _ _ => Preserves.ite (fun _ => Preserves.pure trivial) fun _ => ?_
    refine Preserves.ite (fun verified => ?_) fun _ => refused_tracks
    refine Preserves.bind (Q := fun _ => True) (change_tracks (fun _ _ _ _ => rfl) fun _ _ => rfl) fun _ _ => ?_
    refine Preserves.bind (Q := fun _ => True) (perform_tracks fun fate => Handler.Keeps.change fun node tracked => ?_)
      fun _ _ => change_tracks (fun _ _ _ _ => isActiveMember_save) fun _ _ => rfl
    have recent : clockDistance now leave.createdAt.value ≤ leaveMaxAge :=
      Rat.not_lt.mp fun late => fresh (.inr late)
    have accepted : (MembershipEvent.leave leave key now).Accepted crypto := ⟨recent, verified⟩
    exact tracked.apply accepted rfl fun _ _ => isActiveMember_markLeft

/-- The inserts of a card and of a refresh, and the statements after them. -/
theorem upsertMember_tracks {groupId : String} {peerId : PeerId} {insert : MemberProgram Unit}
    (inserts : Tracks crypto (fun _ => True) insert) :
    Tracks crypto (fun _ => True) (upsertMember groupId peerId insert) := by
  refine Preserves.bind inserts fun _ _ => Preserves.bind (Q := fun _ => True)
    (change_tracks (fun _ _ _ _ => isActiveMember_trim) fun _ _ => rfl) fun _ _ => ?_
  exact Preserves.bind query_tracks fun _ _ => Preserves.ite (fun _ => Preserves.pure trivial) fun _ => refused_tracks

theorem joinMember_tracks {event : MembershipEvent} (accepted : event.Accepted crypto) (joins : event.joins = true) :
    Tracks crypto (fun _ => True) (joinMember event) := by
  refine perform_tracks fun fate => Handler.Keeps.change fun node tracked => ?_
  cases admits : node.db.rosterAdmits event.member.1 event.member.2 true with
  | false =>
      refine tracked.same (fun groupId peerId => ?_) (by simp)
      change (node.db.insertGroupMember _ _ true fate.now).isActiveMember groupId peerId = _
      rw [isActiveMember_insert, admits]
      simp [MemberNode.memberActive]
  | true =>
      refine tracked.apply accepted (by simp) fun groupId peerId => ?_
      change (node.db.insertGroupMember _ _ true fate.now).isActiveMember groupId peerId = _
      rw [isActiveMember_insert, admits, joins]
      simp only [and_true]
      rfl

/-- A card whose member goes on to the roster has passed its checks. -/
theorem acceptCard_ensures {roomId : String} {card : EndpointCard} {fate : MemberFate} :
    (acceptCard identity publicAddress roomId card fate).Ensures (Tracked crypto)
      (fun member node => Tracked crypto node ∧ (member = true → card.refusal crypto fate.now = none)) (Tracked crypto) := by
  have same : ∀ {node : MemberNode} {seenCards : Dict (String × PeerId × String) Time} {candidateSeen : Dict PeerId Time},
      Tracked crypto node → Tracked crypto { node with seenCards, candidateSeen } :=
    fun tracked => tracked.same (fun _ _ => rfl) rfl
  refine Handler.Ensures.read fun node tracked => Handler.Ensures.ite (fun _ => ?_) fun _ => ?_
  · exact Handler.Ensures.pure fun _ known => ⟨known ▸ tracked, nofun⟩
  · cases refusal : card.refusal crypto fate.now with
    | some reason => exact Handler.Ensures.raise fun _ known => known ▸ tracked
    | none =>
        refine Handler.Ensures.ite (fun _ => Handler.Ensures.pure fun _ known => ⟨known ▸ tracked, nofun⟩) fun _ => ?_
        refine Handler.Ensures.bind (Q := fun _ => Tracked crypto)
          (Handler.Ensures.change fun _ known => known ▸ same tracked) fun _ => ?_
        refine Handler.Ensures.bind (Q := fun _ => Tracked crypto) Handler.Keeps.refuse fun _ => ?_
        refine Handler.Ensures.bind (Q := fun _ => Tracked crypto) (Handler.Keeps.change fun _ => same) fun _ => ?_
        refine Handler.Ensures.bind (Q := fun _ => Tracked crypto) Handler.Keeps.refuse fun _ => ?_
        refine Handler.Ensures.bind (Q := fun _ => Tracked crypto) (Handler.Keeps.change fun _ => same) fun _ => ?_
        exact Handler.Ensures.pure fun _ tracked => ⟨tracked, fun _ => rfl⟩

theorem handleCard_tracks {roomId : String} {card : EndpointCard} :
    Tracks crypto (fun _ => True) (handleCard identity publicAddress roomId card) := by
  refine Preserves.bind (Q := fun found => found.1 = true → card.refusal crypto found.2 = none)
    (Preserves.perform fun fate => ?_) fun ⟨member, now⟩ accepted => ?_
  · refine Handler.Ensures.bind (acceptCard_ensures.weaken (fun _ held => held.1) (fun _ _ => id) fun _ => id) fun member => ?_
    exact Handler.Ensures.pure fun _ held => held
  · refine Preserves.ite (fun taken => ?_) fun _ => Preserves.pure trivial
    refine Preserves.bind (Q := fun _ => True) ?_ fun joined _ => Preserves.ite (fun _ => ?_) fun _ => Preserves.pure trivial
    · refine Preserves.recover (Preserves.bind (Q := fun _ => True) ?_ fun _ _ => Preserves.pure trivial) fun _ =>
        Preserves.pure trivial
      exact upsertMember_tracks (joinMember_tracks (accepted taken) rfl)
    · refine Preserves.bind query_tracks fun known _ => Preserves.ite (fun _ => Preserves.pure trivial) fun _ => ?_
      refine change_tracks (fun _ node groupId peerId => ?_) fun _ _ => rfl
      exact isActiveMember_signingKey

theorem peerConnected_tracks {peerId : PeerId} : Tracks crypto (fun _ => True) (peerConnected peerId) := by
  refine Preserves.bind query_tracks fun groups _ => Preserves.forEach fun groupId _ => ?_
  refine Preserves.bind query_tracks fun active _ => Preserves.ite (fun _ => upsertMember_tracks ?_) fun _ =>
    Preserves.pure trivial
  refine Preserves.perform fun fate => Handler.Ensures.change fun node held => ⟨?_, trivial⟩
  obtain ⟨tracked, still⟩ := held
  refine tracked.same (fun group peer => ?_) rfl
  change (node.db.insertGroupMember groupId peerId true fate.now).isActiveMember group peer = _
  rw [isActiveMember_insert, rosterAdmits_of_active still]
  by_cases same : (group, peer) = (groupId, peerId)
  · cases same
    rw [if_pos ⟨rfl, rfl⟩]
    exact still.symm
  · rw [if_neg fun both => same both.1]
    rfl

theorem removeGroup_tracked {groupId : String} {node : MemberNode} (tracked : Tracked crypto node) :
    Tracked crypto { node with
      db := node.db.removeGroup groupId
      applied := node.applied.filter fun event => event.member.1 ≠ groupId } := by
  refine ⟨fun group peer => ?_, fun event member => tracked.accepted event (List.mem_filter.mp member).1⟩
  change (node.db.removeGroup groupId).isActiveMember group peer =
    ((node.applied.filter fun event => event.member.1 ≠ groupId).filter fun event => event.member = (group, peer)).getLast?.any _
  rw [isActiveMember_remove, List.filter_filter]
  by_cases gone : group = groupId
  · have none : (node.applied.filter fun event => decide (event.member = (group, peer)) && decide (event.member.1 ≠ groupId)) = [] :=
      List.filter_eq_nil_iff.mpr fun event _ => by
        simp only [Bool.and_eq_true, decide_eq_true_eq, not_and, not_not]
        intro same
        rw [same, gone]
    rw [if_pos gone, none]
    rfl
  · have kept : ∀ event ∈ node.applied, (decide (event.member = (group, peer)) && decide (event.member.1 ≠ groupId)) =
        decide (event.member = (group, peer)) := fun event _ => by
      by_cases same : event.member = (group, peer) <;> simp [same, gone]
    rw [if_neg gone, List.filter_congr kept]
    exact tracked.active group peer

end Programs

theorem memberService_tracks : Pool.Fulfils (ofInvariant (Tracked crypto) StillActive)
    (memberService identity publicAddress) := by
  refine Pool.Fulfils.ofInvariant (fun request _ => ?_) fun node tracked => tracked.same (fun _ _ => rfl) rfl
  cases request with
  | message peer message =>
      exact Preserves.ensuring handleMessage_tracks (change_tracks (fun _ _ _ _ => rfl) fun _ _ => rfl)
  | leave peer leave => exact handleLeave_tracks
  | card roomId card => exact handleCard_tracks
  | connected peerId => exact peerConnected_tracks
  | removeGroup groupId => exact perform_tracks fun _ => Handler.Keeps.change fun _ => removeGroup_tracked
  | settings rooms blockedPeers groups => exact change_tracks (fun _ _ _ _ => rfl) fun _ _ => rfl

/-- In a list ordered by a key the last element is the one with the greatest. -/
theorem getLast?_of_ordered {events : List MembershipEvent} {latest : MembershipEvent}
    (ordered : events.Pairwise fun first second => first.createdAt < second.createdAt) (member : latest ∈ events)
    (newest : ∀ event ∈ events, event.createdAt ≤ latest.createdAt) : events.getLast? = some latest := by
  induction events with
  | nil => cases member
  | cons first rest ih =>
      obtain ⟨before, ordered⟩ := List.pairwise_cons.mp ordered
      rcases List.mem_cons.mp member with rfl | later
      · cases rest with
        | nil => rfl
        | cons second _ =>
            have behind := before second List.mem_cons_self
            exact absurd behind (Rat.not_lt.mpr (newest second (List.mem_cons_of_mem _ List.mem_cons_self)))
      · rw [List.getLast?_cons, ih ordered later fun event among => newest event (List.mem_cons_of_mem _ among)]
        rfl

instance {point : MemberPoint} {fate : MemberFate} {node : MemberNode} : Decidable (StillActive point fate node) := by
  cases point <;> simp only [StillActive] <;> infer_instance

def teamId := "00112233445566778899aabbccddeeff"

def bobKey : Bytes := List.replicate 32 98

def bobId : PeerId := plainCrypto.sha256 bobKey

def bobPeer : GroupPeer where
  peerId := bobId
  capabilities := [capGroupChat]
  signingPublicKey := some bobKey
  encryptionPublicKey := none

def bobCard (createdAt : Int) (nonce : String) : EndpointCard where
  kind := "endpoint"
  peerId := bobId
  signingPublicKey := bobKey
  candidate := none
  candidates := some [.derp]
  createdAt := .int createdAt
  nonce := nonce
  signature := List.replicate 64 0

def bobLeave (createdAt : Rat) : GroupLeavePayload where
  eventId := "leave"
  groupId := teamId
  peerId := bobId
  createdAt := .real createdAt
  signature := List.replicate 64 0

def emptyMemberNode : MemberNode where
  db := { groups := [teamId] }
  rooms := (∅ : Dict String (Option String)).set teamId (some "Team")
  inboundHits := ∅
  seenCards := ∅
  candidateSeen := ∅
  acknowledged := []
  stored := []
  ended := []
  applied := []

def memberTurns (task count : Nat) (now : Time) : List (PoolEvent MemberFate MemberRequest) :=
  List.replicate count (.resume task { now, monotonic := now, newId := "event", sendFails := false })

/-- Bob joins, leaves at 100005 and joins again at 100010. -/
def bobRequests : List (PoolEvent MemberFate MemberRequest) :=
  [.start (.card teamId (bobCard 100000 "first")), .start (.leave bobPeer (bobLeave 100005)),
   .start (.card teamId (bobCard 100010 "second"))]

end MeshTalk.Groups
