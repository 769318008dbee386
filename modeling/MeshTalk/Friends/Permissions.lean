import MeshTalk.Friends.Manager

namespace MeshTalk.Friends

open MeshTalk.Library MeshTalk.Protocol MeshTalk.Store

/-! # Friends are not blocked

Triggers and conditions of single statements keep friends, pending requests and
blocked peers apart, whatever statement follows.
-/

/-- No friend is blocked, and no pending request is with a blocked peer. -/
structure Separated (db : FriendTables) : Prop where
  friends : ∀ friend ∈ db.friends.rows, db.isPeerBlocked friend.peerId = false
  requests : ∀ request ∈ db.friendRequests.rows, request.pending = true →
    db.isPeerBlocked request.senderId = false ∧ db.isPeerBlocked request.recipientId = false

variable {db : FriendTables} {peerId : PeerId} {displayName : String} {now : Time}

namespace FriendTables

theorem isPeerBlocked_addFriend {other : PeerId} : (db.addFriend peerId displayName now).isPeerBlocked other =
    db.isPeerBlocked other := by
  simp only [addFriend]
  split <;> rfl

theorem friendRequests_addFriend : (db.addFriend peerId displayName now).friendRequests = db.friendRequests := by
  simp only [addFriend]
  split <;> rfl

theorem mem_friends_addFriend {friend : Friend} (member : friend ∈ (db.addFriend peerId displayName now).friends.rows) :
    (∃ old ∈ db.friends.rows, old.peerId = friend.peerId) ∨ friend.peerId = peerId ∧ db.isPeerBlocked peerId = false := by
  simp only [addFriend] at member
  split at member
  · exact .inl ⟨friend, member, rfl⟩
  · rename_i unblocked
    simp only at member
    split at member
    · obtain ⟨old, known, rfl⟩ := Table.mem_updateWhere.mp member
      refine .inl ⟨old, known, ?_⟩
      split <;> rfl
    · rcases Table.mem_insertOrIgnore.mp member with known | ⟨rfl, _⟩
      · exact .inl ⟨friend, known, rfl⟩
      · exact .inr ⟨rfl, by simpa using unblocked⟩

theorem isPeerBlocked_grantAll {granted : List FriendRequest} {other : PeerId} :
    (db.grantAll granted now).isPeerBlocked other = db.isPeerBlocked other := by
  induction granted generalizing db with
  | nil => rfl
  | cons request rest ih => exact ih.trans isPeerBlocked_addFriend

theorem friendRequests_grantAll {granted : List FriendRequest} :
    (db.grantAll granted now).friendRequests = db.friendRequests := by
  induction granted generalizing db with
  | nil => rfl
  | cons request rest ih => exact ih.trans friendRequests_addFriend

theorem isPeerBlocked_setRequestStatus {chosen : FriendRequest → Bool} {status : RequestStatus} {other : PeerId} :
    (db.setRequestStatus chosen status now).isPeerBlocked other = db.isPeerBlocked other :=
  isPeerBlocked_grantAll

/-- A row after a status update is one the update passed over or one it moved. -/
theorem mem_setRequestStatus {chosen : FriendRequest → Bool} {status : RequestStatus} {request : FriendRequest}
    (member : request ∈ (db.setRequestStatus chosen status now).friendRequests.rows) :
    request ∈ db.friendRequests.rows ∧ db.moves chosen status request = false ∨
      ∃ old ∈ db.friendRequests.rows, db.moves chosen status old = true ∧
        request = { old with status, respondedAt := some now } := by
  rw [setRequestStatus, friendRequests_grantAll, Table.mem_updateWhere] at member
  obtain ⟨old, known, same⟩ := member
  cases moved : db.moves chosen status old with
  | false =>
      rw [moved] at same
      exact .inl ⟨same ▸ known, same ▸ moved⟩
  | true =>
      rw [moved] at same
      exact .inr ⟨old, known, moved, same⟩

theorem mem_friends_grantAll {granted : List FriendRequest} {friend : Friend}
    (member : friend ∈ (db.grantAll granted now).friends.rows) :
    (∃ old ∈ db.friends.rows, old.peerId = friend.peerId) ∨
      (∃ request ∈ granted, request.otherParty = friend.peerId) ∧ db.isPeerBlocked friend.peerId = false := by
  induction granted generalizing db with
  | nil => exact .inl ⟨friend, member, rfl⟩
  | cons request rest ih =>
      rcases ih member with ⟨old, known, same⟩ | ⟨⟨other, further, same⟩, unblocked⟩
      · rcases mem_friends_addFriend known with before | ⟨named, unblocked⟩
        · exact .inl (same ▸ before)
        · exact .inr ⟨⟨request, List.mem_cons_self .., named.symm.trans same⟩, same ▸ named ▸ unblocked⟩
      · rw [isPeerBlocked_addFriend] at unblocked
        exact .inr ⟨⟨other, List.mem_cons_of_mem _ further, same⟩, unblocked⟩

/-- A status update makes a friend of a peer only by moving a pending request
with it to accepted. -/
theorem mem_friends_setRequestStatus {chosen : FriendRequest → Bool} {status : RequestStatus} {friend : Friend}
    (member : friend ∈ (db.setRequestStatus chosen status now).friends.rows) :
    (∃ old ∈ db.friends.rows, old.peerId = friend.peerId) ∨
      (∃ request ∈ db.friendRequests.rows, request.otherParty = friend.peerId ∧ request.pending = true ∧
        db.moves chosen status request = true ∧ status = .accepted) ∧ db.isPeerBlocked friend.peerId = false := by
  rcases mem_friends_grantAll member with before | ⟨⟨request, granted, same⟩, unblocked⟩
  · exact .inl before
  · obtain ⟨known, moved⟩ := List.mem_filter.mp granted
    simp only [Bool.and_eq_true, decide_eq_true_eq] at moved
    exact .inr ⟨⟨request, known, same, moved.1.2, moved.1.1, moved.2⟩, unblocked⟩

end FriendTables

open FriendTables

theorem Separated.addFriend (separated : Separated db) : Separated (db.addFriend peerId displayName now) := by
  constructor
  · intro friend member
    rw [isPeerBlocked_addFriend]
    rcases mem_friends_addFriend member with ⟨old, known, same⟩ | ⟨same, unblocked⟩
    · exact same ▸ separated.friends old known
    · exact same ▸ unblocked
  · intro request member pending
    rw [friendRequests_addFriend] at member
    rw [isPeerBlocked_addFriend, isPeerBlocked_addFriend]
    exact separated.requests request member pending

theorem Separated.setRequestStatus (separated : Separated db) {chosen : FriendRequest → Bool} {status : RequestStatus}
    (resolves : status ≠ .pending) : Separated (db.setRequestStatus chosen status now) := by
  constructor
  · intro friend member
    rw [isPeerBlocked_setRequestStatus]
    rcases mem_friends_setRequestStatus member with ⟨old, known, same⟩ | ⟨_, unblocked⟩
    · exact same ▸ separated.friends old known
    · exact unblocked
  · intro request member pending
    rw [isPeerBlocked_setRequestStatus, isPeerBlocked_setRequestStatus]
    rcases mem_setRequestStatus member with ⟨known, _⟩ | ⟨old, _, _, rfl⟩
    · exact separated.requests request known pending
    · simp [FriendRequest.pending, resolves] at pending

/-! ## Statements that do not grant -/

theorem Separated.removeFriend (separated : Separated db) : Separated (db.removeFriend peerId) :=
  ⟨fun friend member => separated.friends friend (Table.mem_deleteWhere.mp member).1, separated.requests⟩

theorem Separated.unblockPeer (separated : Separated db) : Separated (db.unblockPeer peerId) := by
  have fewer : ∀ other, db.isPeerBlocked other = false → (db.unblockPeer peerId).isPeerBlocked other = false := by
    intro other unblocked
    apply Bool.eq_false_iff.mpr
    intro blocked
    obtain ⟨row, member, same⟩ := Table.holds_iff.mp blocked
    have still : db.isPeerBlocked other = true := Table.holds_iff.mpr ⟨row, (Table.mem_deleteWhere.mp member).1, same⟩
    simp [unblocked] at still
  constructor
  · intro friend member
    exact fewer _ (separated.friends friend member)
  · intro request member pending
    obtain ⟨sender, recipient⟩ := separated.requests request member pending
    exact ⟨fewer _ sender, fewer _ recipient⟩

theorem Separated.saveFriendRequest (separated : Separated db) {request : FriendRequest} :
    Separated (db.saveFriendRequest request now) := by
  simp only [FriendTables.saveFriendRequest]
  split
  · rename_i admitted
    refine ⟨separated.friends, ?_⟩
    intro other member pending
    rcases Table.mem_insertOrIgnore.mp member with known | ⟨rfl, _⟩
    · exact separated.requests other known pending
    · simp only [admitsRequest, Bool.and_eq_true, Bool.not_eq_true', Bool.or_eq_false_iff] at admitted
      exact admitted.1.1
  · exact separated

theorem Separated.cleanupExpired (separated : Separated db) : Separated (db.cleanupExpired now) :=
  ⟨separated.friends, fun request member => separated.requests request (Table.mem_deleteWhere.mp member).1⟩

/-! ## Blocking -/

theorem isPeerBlocked_inserted {row : BlockedPeer} {other : PeerId} :
    { db with blockedPeers := db.blockedPeers.insertOrIgnore row }.isPeerBlocked other = false ↔
      db.isPeerBlocked other = false ∧ other ≠ row.peerId := by
  have holds : (db.blockedPeers.insertOrIgnore row).holds other = true ↔
      db.blockedPeers.holds other = true ∨ other = row.peerId := Table.holds_insertOrIgnore
  simp only [isPeerBlocked, Bool.eq_false_iff, ne_eq, holds, not_or]

/-- Blocking declines the pending requests with the peer in the same statement. -/
theorem Separated.blockPeer (separated : Separated db) : Separated (db.blockPeer peerId displayName now) := by
  simp only [FriendTables.blockPeer]
  split
  · have same : ∀ other, { db with
        blockedPeers := db.blockedPeers.updateWhere (fun row => row.peerId = peerId)
          (fun row => { row with displayName }) fun _ => rfl }.isPeerBlocked other = db.isPeerBlocked other := by
      intro other
      apply Bool.eq_iff_iff.mpr
      simp only [isPeerBlocked, Table.holds_iff, Table.mem_updateWhere]
      constructor
      · rintro ⟨row, ⟨old, member, rfl⟩, named⟩
        exact ⟨old, member, by split at named <;> exact named⟩
      · rintro ⟨row, member, named⟩
        exact ⟨_, ⟨row, member, rfl⟩, by split <;> exact named⟩
    exact ⟨fun friend member => (same _).trans (separated.friends friend member),
      fun request member pending => ⟨(same _).trans (separated.requests request member pending).1,
        (same _).trans (separated.requests request member pending).2⟩⟩
  · constructor
    · intro friend member
      rw [isPeerBlocked_setRequestStatus]
      rcases mem_friends_setRequestStatus member with ⟨old, remaining, same⟩ | ⟨⟨_, _, _, _, _, declined⟩, _⟩
      · obtain ⟨known, other⟩ := Table.mem_deleteWhere.mp remaining
        rw [← same]
        exact isPeerBlocked_inserted.mpr ⟨separated.friends old known, by simpa using other⟩
      · cases declined
    · intro request member pending
      rw [isPeerBlocked_setRequestStatus, isPeerBlocked_setRequestStatus]
      rcases mem_setRequestStatus member with ⟨known, unmoved⟩ | ⟨old, _, _, rfl⟩
      · obtain ⟨sender, recipient⟩ := separated.requests request known pending
        have apart : request.involves peerId = false := by simpa [moves, pending] using unmoved
        simp only [FriendRequest.involves, Bool.or_eq_false_iff, decide_eq_false_iff_not] at apart
        exact ⟨isPeerBlocked_inserted.mpr ⟨sender, apart.1⟩, isPeerBlocked_inserted.mpr ⟨recipient, apart.2⟩⟩
      · simp [FriendRequest.pending] at pending

/-- What a start repairs is all that keeps the tables from being separated. -/
theorem separated_repaired : Separated (db.repairPermissions now) := by
  constructor
  · intro friend member
    rw [repairPermissions, isPeerBlocked_setRequestStatus]
    rcases mem_friends_setRequestStatus member with ⟨old, remaining, same⟩ | ⟨⟨_, _, _, _, _, declined⟩, _⟩
    · exact same ▸ (Table.mem_deleteWhere.mp remaining).2
    · cases declined
  · intro request member pending
    rw [repairPermissions, isPeerBlocked_setRequestStatus, isPeerBlocked_setRequestStatus]
    rcases mem_setRequestStatus member with ⟨_, unmoved⟩ | ⟨old, _, _, rfl⟩
    · have apart : (db.isPeerBlocked request.senderId || db.isPeerBlocked request.recipientId) = false := by
        simpa [moves, pending] using unmoved
      exact Bool.or_eq_false_iff.mp apart
    · simp [FriendRequest.pending] at pending

/-! ## Runs -/

/-- The statuses a program writes resolve a request. -/
def FriendPoint.Resolving : FriendPoint → Prop
  | .updateStatus _ status | .resolve _ _ _ status => status ≠ .pending
  | _ => True

section

variable {crypto : FileCrypto} {identity : Identity crypto} {ownName : String}

theorem Separated.statement (separated : Separated db) (identity : Identity crypto) (now : Time) {point : FriendPoint} (resolving : point.Resolving) :
    Separated (point.statement identity now db) := by
  cases point with
  | saveRequest request => exact separated.saveFriendRequest
  | updateStatus requestId status => exact separated.setRequestStatus resolving
  | resolve requestId peerId direction status => exact separated.setRequestStatus resolving
  | addFriend peerId displayName => exact separated.addFriend
  | removeFriend peerId => exact separated.removeFriend
  | declinePending peerId => exact separated.setRequestStatus nofun
  | blockPeer peerId displayName => exact separated.blockPeer
  | unblockPeer peerId => exact separated.unblockPeer
  | cleanup => exact separated.cleanupExpired
  | saveMessage message requireFriend =>
      simp only [FriendPoint.statement, FriendTables.saveMessage]
      split
      · exact ⟨separated.friends, separated.requests⟩
      · exact separated
  | markSeen messageId => exact ⟨separated.friends, separated.requests⟩
  | markBlocked messageId peerId => exact ⟨separated.friends, separated.requests⟩
  | enqueue recipientId packet messageId => exact ⟨separated.friends, separated.requests⟩
  | query => exact separated
  | send peerId packet => exact separated
  | commit => exact separated

/-! ### The points of the programs -/

section

open MeshTalk.Library.Task

abbrev InPoints (identity : Identity crypto) (program : FriendProgram α) : Prop :=
  program.Follows (FriendPoint.effect identity) FriendPoint.Resolving

theorem ask_points {answer : FriendFate → FriendNode → α} : InPoints identity (ask answer) :=
  Follows.perform trivial fun _ _ => rfl

theorem query_points {read : FriendTables → α} : InPoints identity (query read) := ask_points

theorem refused_points {reason : String} : InPoints identity (refused reason : FriendProgram α) := trivial

theorem execute_points (point : FriendPoint) (resolving : point.Resolving) : InPoints identity (execute identity point) := by
  apply Follows.bind
  · exact Follows.perform resolving fun _ _ => rfl
  · intro changed
    exact Follows.bind (Follows.perform trivial fun _ _ => rfl) fun _ => Follows.pure

theorem sendPacket_points {peerId : PeerId} {packet : FriendPacket} :
    InPoints identity (sendPacket identity peerId packet) := by
  apply Follows.perform trivial
  intro fate node
  cases fails : fate.sendFails <;>
    simp [Handler.bind_apply, Handler.change, Handler.refuse, Handler.raise, FriendPoint.effect, fails]

theorem runStatement_points {point : FriendPoint} (resolving : point.Resolving) :
    InPoints identity (runStatement identity point) :=
  Follows.bind (execute_points _ resolving) fun _ => Follows.pure

theorem deliver_points {connected : Option FriendPeer} {peerId : PeerId} {packet : FriendPacket} {messageId : String} :
    InPoints identity (deliver identity connected peerId packet messageId) := by
  cases connected with
  | none => exact runStatement_points trivial
  | some peer => exact sendPacket_points

theorem sendFriendRequest_points {peerId : PeerId} {note : String} :
    InPoints identity (sendFriendRequest identity ownName peerId note) := by
  apply Follows.ite refused_points
  apply Follows.ite refused_points
  apply Follows.bind query_points
  intro friend
  apply Follows.ite refused_points
  apply Follows.bind query_points
  intro blocked
  apply Follows.ite refused_points
  apply Follows.bind ask_points
  rintro ⟨pending, fate⟩
  apply Follows.ite refused_points
  apply Follows.ite refused_points
  apply Follows.bind ask_points
  intro stored
  exact Follows.bind (execute_points _ trivial) fun _ => deliver_points

theorem withdrawRequest_points {peerId : PeerId} : InPoints identity (withdrawRequest identity peerId) := by
  apply Follows.bind query_points
  intro found
  cases found with
  | none => exact Follows.pure
  | some outgoing =>
      apply Follows.bind
      · apply execute_points
        exact nofun
      · intro _
        exact Follows.bind ask_points fun _ => deliver_points

theorem respondToFriendRequest_points {requestId : String} {accept : Bool} :
    InPoints identity (respondToFriendRequest identity requestId accept) := by
  apply Follows.bind ask_points
  rintro ⟨found, connected⟩
  cases opened : open? .incoming found with
  | none => simp only [opened]; exact refused_points
  | some request =>
      simp only [opened]
      apply Follows.ite refused_points
      apply Follows.bind
      · apply execute_points
        cases accept <;> exact nofun
      · intro _
        apply Follows.bind
        · exact Follows.ite (Follows.bind (execute_points _ trivial) fun _ => withdrawRequest_points) Follows.pure
        · intro _
          exact deliver_points

theorem cancelFriendRequest_points {requestId : String} : InPoints identity (cancelFriendRequest identity requestId) := by
  apply Follows.bind ask_points
  rintro ⟨found, connected⟩
  cases opened : open? .outgoing found with
  | none => simp only [opened]; exact refused_points
  | some request =>
      simp only [opened]
      apply Follows.ite refused_points
      apply Follows.bind
      · apply execute_points
        exact nofun
      · intro _
        exact deliver_points

theorem blockPeer_points {peerId : PeerId} : InPoints identity (blockPeer identity peerId) := by
  apply Follows.ite refused_points
  apply Follows.bind query_points
  intro blocked
  apply Follows.ite refused_points
  apply Follows.bind ask_points
  intro blockedName
  refine Follows.bind (execute_points (.removeFriend peerId) trivial) fun _ => ?_
  refine Follows.bind (execute_points (.declinePending peerId) trivial) fun _ => ?_
  exact Follows.bind (execute_points (.blockPeer peerId blockedName) trivial) fun _ => Follows.pure

theorem verified_points {peer : FriendPeer} {document : Json} {signature : Bytes} {accepted : FriendProgram Unit}
    (follows : InPoints identity accepted) :
    InPoints identity (verified crypto peer document signature accepted) := by
  simp only [verified]
  split
  · exact refused_points
  · exact Follows.ite follows refused_points

theorem handleFriendRequest_points {peer : FriendPeer} {payload : FriendRequestPayload} :
    InPoints identity (handleFriendRequest identity ownName peer payload) := by
  apply Follows.ite refused_points
  apply Follows.ite refused_points
  apply Follows.ite Follows.pure
  apply verified_points
  apply Follows.bind query_points
  intro blocked
  apply Follows.ite Follows.pure
  apply Follows.bind query_points
  intro known
  apply Follows.ite Follows.pure
  apply Follows.bind query_points
  intro friend
  apply Follows.ite sendPacket_points
  apply Follows.bind query_points
  intro pending
  apply Follows.ite Follows.pure
  exact runStatement_points trivial

theorem handleFriendResponse_points {peer : FriendPeer} {payload : FriendRequestResponsePayload} :
    InPoints identity (handleFriendResponse identity peer payload) := by
  apply Follows.ite refused_points
  apply Follows.ite refused_points
  apply Follows.ite Follows.pure
  apply verified_points
  apply Follows.bind query_points
  intro found
  cases opened : open? .outgoing found with
  | none => exact Follows.pure
  | some request =>
      refine Follows.bind (execute_points _ ?_) fun resolved => ?_
      · cases payload.accept <;> exact nofun
      · exact Follows.ite (Follows.ite (runStatement_points trivial) Follows.pure) Follows.pure

theorem handleFriendCancelled_points {peer : FriendPeer} {payload : FriendRequestCancelledPayload} :
    InPoints identity (handleFriendCancelled identity peer payload) := by
  apply Follows.ite refused_points
  apply Follows.ite refused_points
  apply Follows.ite Follows.pure
  apply verified_points
  apply Follows.bind query_points
  intro found
  cases opened : open? .incoming found with
  | none => exact Follows.pure
  | some request =>
      exact runStatement_points nofun

theorem handleMessageBlocked_points {peer : FriendPeer} {payload : MessageBlockedPayload} :
    InPoints identity (handleMessageBlocked identity peer payload) := by
  apply Follows.ite refused_points
  apply Follows.ite refused_points
  apply Follows.ite Follows.pure
  apply verified_points
  apply Follows.bind (execute_points (.markBlocked payload.messageId peer.peerId) trivial)
  intro marked
  apply Follows.ite
  · apply Follows.bind query_points
    intro friend
    exact Follows.ite (runStatement_points trivial) Follows.pure
  · exact Follows.pure

theorem sendDeliveryReceipt_points {peer : FriendPeer} {messageId : String} :
    InPoints identity (sendDeliveryReceipt identity peer messageId) :=
  Follows.ite sendPacket_points Follows.pure

theorem acceptMessage_points {peer : FriendPeer} {key : Bytes} {message : MessagePayload} :
    InPoints identity (acceptMessage identity peer key message) := by
  apply Follows.ite refused_points
  apply Follows.ite refused_points
  apply Follows.bind ask_points
  rintro ⟨seen, now⟩
  apply Follows.ite sendDeliveryReceipt_points
  cases opened : openContent identity key message with
  | error reason => exact refused_points
  | ok content =>
      apply Follows.ite refused_points
      refine Follows.bind (execute_points _ ?_) fun saved => ?_
      · trivial
      apply Follows.ite
      · exact Follows.bind (execute_points _ trivial) fun _ => sendDeliveryReceipt_points
      · exact Follows.pure

theorem handleMessage_points {peer : FriendPeer} {message : MessagePayload} :
    InPoints identity (handleMessage identity peer message) := by
  apply Follows.ite refused_points
  apply Follows.ite Follows.pure
  split
  · exact refused_points
  · apply Follows.ite refused_points
    apply Follows.bind query_points
    intro friend
    exact Follows.ite acceptMessage_points (Follows.ite sendPacket_points Follows.pure)

theorem friendProgram_points {job : FriendJob} : InPoints identity (friendProgram identity ownName job) := by
  cases job with
  | send peerId note => exact sendFriendRequest_points
  | respond requestId accept => exact respondToFriendRequest_points
  | cancel requestId => exact cancelFriendRequest_points
  | unfriend peerId =>
      apply Follows.bind query_points
      intro friend
      exact Follows.ite (runStatement_points trivial) refused_points
  | block peerId => exact blockPeer_points
  | unblock peerId =>
      apply Follows.bind query_points
      intro blocked
      exact Follows.ite (runStatement_points trivial) refused_points
  | packet peer packet =>
      cases packet with
      | request payload => exact handleFriendRequest_points
      | response payload => exact handleFriendResponse_points
      | cancelled payload => exact handleFriendCancelled_points
      | blocked payload => exact handleMessageBlocked_points
      | receipt messageId => exact Follows.pure
  | message peer message => exact handleMessage_points
  | store message => exact runStatement_points trivial
  | cleanup => exact runStatement_points trivial

end

/-! ### Every reachable state -/

abbrev FriendPool := Pool FriendNode FriendFate FriendPoint FriendError

abbrev FriendEvent := PoolEvent FriendFate FriendJob

def freshPool (tables : FriendTables) (knownNames : Dict PeerId String) (openedAt : Time) : FriendPool :=
  ⟨FriendNode.opened tables knownNames openedAt, []⟩

theorem effect_separated {node : FriendNode} (separated : Separated node.db ∧ Separated node.committed)
    {point : FriendPoint} {fate : FriendFate} (resolving : point.Resolving) :
    Separated (point.effect identity fate node).db ∧ Separated (point.effect identity fate node).committed := by
  cases point with
  | send peerId packet =>
      simp only [FriendPoint.effect]
      split <;> exact separated
  | commit => exact ⟨separated.1, separated.1⟩
  | query => exact separated
  | _ => exact ⟨separated.1.statement identity fate.now resolving, separated.2⟩

theorem saved_message_of_friend (identity : Identity crypto) (now : Time) {message : MessageRow}
    (inserted : ((FriendPoint.saveMessage message true).statement identity now db).messages ≠ db.messages) :
    db.friends.holds message.senderId = true ∧ db.isPeerBlocked message.senderId = false := by
  have admitted : db.admitsMessage message true = true := by
    apply Decidable.byContradiction
    intro refused
    simp [FriendPoint.statement, FriendTables.saveMessage, refused] at inserted
  simp only [admitsMessage, Bool.not_true, Bool.false_or, Bool.and_eq_true, Bool.not_eq_true'] at admitted
  exact admitted.1

theorem freshPool_obeys {tables : FriendTables} {knownNames : Dict PeerId String} {openedAt : Time} :
    Pool.Obeys (FriendPoint.effect identity) FriendPoint.Resolving (freshPool tables knownNames openedAt) :=
  fun task member => by cases member

theorem reachable_separated {tables : FriendTables} {knownNames : Dict PeerId String} {openedAt restartedAt : Time}
    {events : List FriendEvent} {pool : FriendPool}
    (reached : run (Pool.step (friendService identity ownName restartedAt)) (freshPool tables knownNames openedAt)
      events = some pool) :
    Separated pool.shared.db ∧ Pool.Obeys (FriendPoint.effect identity) FriendPoint.Resolving pool := by
  obtain ⟨separated, obeys⟩ := Pool.run_obeys
    (fun node => Separated node.db ∧ Separated node.committed) (fun _ _ => True) (fun _ _ => friendProgram_points)
    (fun _ _ _ _ held _ _ resolving => effect_separated held resolving)
    (fun _ _ => ⟨separated_repaired, separated_repaired⟩)
    ⟨⟨separated_repaired, separated_repaired⟩, freshPool_obeys⟩ (meets_trivial fun _ _ => trivial) reached
  exact ⟨separated.1, obeys⟩

/-- Between any two statements of any operations, no friend is blocked and no
pending request is with a blocked peer; and a message saved under `require_friend`
is of a peer that is a friend and not blocked at that moment. -/
theorem blocked_peers_stay_apart {crypto : FileCrypto} (identity : Identity crypto) (ownName : String)
    (tables : FriendTables) (knownNames : Dict PeerId String) (openedAt restartedAt : Time) (events : List FriendEvent)
    (final : FriendPool)
    (completed : run (Pool.step (friendService identity ownName restartedAt)) (freshPool tables knownNames openedAt)
      events = some final) :
    (∀ peerId, ¬ (final.shared.db.friends.holds peerId = true ∧ final.shared.db.isPeerBlocked peerId = true)) ∧
    (∀ request ∈ final.shared.db.friendRequests.rows, request.status = .pending →
      final.shared.db.isPeerBlocked request.senderId = false ∧
        final.shared.db.isPeerBlocked request.recipientId = false) ∧
    ∀ index fate next message, final.pointAt index = some (.saveMessage message true) →
      final.step (friendService identity ownName restartedAt) (.resume index fate) = some next →
      next.shared.db.messages ≠ final.shared.db.messages →
      final.shared.db.friends.holds message.senderId = true ∧
        final.shared.db.isPeerBlocked message.senderId = false := by
  have programs : ∀ job self, ((friendService identity ownName restartedAt).program job self).Follows
      (FriendPoint.effect identity) FriendPoint.Resolving := fun job _ => friendProgram_points
  obtain ⟨separated, obeys⟩ := reachable_separated completed
  refine ⟨?_, ?_, ?_⟩
  · rintro peerId ⟨befriended, blocked⟩
    obtain ⟨friend, member, rfl⟩ := Table.holds_iff.mp befriended
    simp [separated.friends friend member] at blocked
  · intro request member pending
    exact separated.requests request member (by simp [FriendRequest.pending, pending])
  · intro index fate next message suspended stepped inserted
    obtain ⟨_, point, current, _, shared⟩ := Pool.step_obeys programs obeys stepped
    cases suspended.symm.trans current
    rw [shared] at inserted
    exact saved_message_of_friend identity fate.now inserted

end

/-! ### A run on fixed inputs -/

def bobPeer : FriendPeer where
  peerId := "bob"
  displayName := "Bob"
  capabilities := [capFriendRequests]
  signingPublicKey := some []

def bobRequest : FriendRequestPayload where
  requestId := "r1"
  senderId := "bob"
  note := ""
  createdAt := .int 1
  signature := List.replicate 64 0

def quietFate : FriendFate := ⟨10, "fresh", some bobPeer, false⟩

/-- A task goes on for a number of actions. -/
def resumed (index count : Nat) : List FriendEvent := List.replicate count (.resume index quietFate)

/-- Bob asks, the user's acceptance has read the request, and the user blocks Bob
before the acceptance goes on. -/
def acceptedWhileBlocked : List FriendEvent :=
  [.start (.packet bobPeer (.request bobRequest))] ++ resumed 0 6 ++ [.start (.respond "r1" true)] ++ resumed 1 1 ++
    [.start (.block "bob")] ++ resumed 2 8 ++ resumed 1 6

theorem blocked_bob_is_no_friend :
    ∃ final, run (Pool.step (friendService plainIdentity "me" 0)) (freshPool {} ∅ 0) acceptedWhileBlocked = some final ∧
      final.shared.db.isPeerBlocked "bob" = true ∧
      ¬ (final.shared.db.friends.holds "bob" = true ∧ final.shared.db.isPeerBlocked "bob" = true) := by
  have found : ((run (Pool.step (friendService plainIdentity "me" 0)) (freshPool {} ∅ 0) acceptedWhileBlocked).any
      fun final => final.shared.db.isPeerBlocked "bob") = true := by decide +kernel
  obtain ⟨final, completed, blocked⟩ := (Option.any_eq_true _ _).mp found
  exact ⟨final, completed, blocked, (blocked_peers_stay_apart plainIdentity "me" {} ∅ 0 0 _ final completed).1 "bob"⟩

end MeshTalk.Friends
