import MeshTalk.Library.Alone
import MeshTalk.Friends.Permissions

namespace MeshTalk.Friends

open MeshTalk.Library MeshTalk.Protocol MeshTalk.Store

/-! # What the other side hears

An operation changes the tables first and tells the peer afterwards.  The last
part can raise; only a peer that was not connected has its packet queued.
-/

def QueuedFriendPacket.carries (peerId : PeerId) (packet : FriendPacket) (row : QueuedFriendPacket) : Bool :=
  row.recipientId = peerId && row.packet = packet

/-- The packet has been sent or queued since `start`. -/
def Carried (start final : FriendNode) (peerId : PeerId) (packet : FriendPacket) : Prop :=
  start.sent.count (peerId, packet) < final.sent.count (peerId, packet) ∨
    start.db.outgoingQueue.countP (QueuedFriendPacket.carries peerId packet) <
      final.db.outgoingQueue.countP (QueuedFriendPacket.carries peerId packet)

/-- The friends and the requests are as before. -/
def Unchanged (start final : FriendNode) : Prop :=
  final.db.friends = start.db.friends ∧ final.db.friendRequests = start.db.friendRequests

def withdrawn (start final : FriendNode) (request : FriendRequest) : Prop :=
  request ∈ start.db.friendRequests.rows ∧ request.pending = true ∧
    ∃ row ∈ final.db.friendRequests.rows, row.requestId = request.requestId ∧ row.status = .cancelled

section

variable {crypto : FileCrypto} (identity : Identity crypto)

/-- The packets an operation owes its peer, of the requests it found. -/
def Announced (start final : FriendNode) : FriendJob → Prop
  | .send peerId _ => ∃ payload, Carried start final peerId (.request payload)
  | .respond requestId accept =>
      (∀ request ∈ start.db.getFriendRequest requestId,
        Carried start final request.senderId (response identity requestId accept)) ∧
      ∀ request, withdrawn start final request →
        Carried start final request.recipientId (cancellation identity request.requestId)
  | .cancel requestId =>
      ∀ request ∈ start.db.getFriendRequest requestId,
        Carried start final request.recipientId (cancellation identity requestId)
  | _ => True

/-- Sending, answering and cancelling a request. -/
def FriendJob.Announces : FriendJob → Prop
  | .send _ _ | .respond _ _ | .cancel _ => True
  | _ => False

/-- No `send_packet` of the call raises. -/
def SendReturns (point : FriendPoint) (fate : FriendFate) (_ : FriendNode) : Prop :=
  match point with
  | .send _ _ => fate.sendFails = false
  | _ => True

/-- A request that is saved is stored: its id is new and its ends are not blocked. -/
def RequestStored (point : FriendPoint) (fate : FriendFate) (node : FriendNode) : Prop :=
  match point with
  | .saveRequest request => node.db.admitsRequest request fate.now = true
  | _ => True

instance {point : FriendPoint} {fate : FriendFate} {node : FriendNode} : Decidable (SendReturns point fate node) := by
  cases point <;> simp only [SendReturns] <;> infer_instance

instance {point : FriendPoint} {fate : FriendFate} {node : FriendNode} : Decidable (RequestStored point fate node) := by
  cases point <;> simp only [RequestStored] <;> infer_instance

end

variable {crypto : FileCrypto} {identity : Identity crypto} {ownName : String} {start node : FriendNode}
  {peerId : PeerId} {packet : FriendPacket} {messageId : String}

/-! ## What raises -/

section

open MeshTalk.Library.Task

abbrev Raises (program : FriendProgram α) : Prop := program.Surfaces SendReturns FriendError.sendFailed

theorem ask_raises {answer : FriendFate → FriendNode → α} : Raises (ask answer) :=
  Surfaces.perform (fun _ _ _ => ⟨_, rfl⟩) fun _ _ refused => (refused trivial).elim

theorem refused_raises {reason : String} : Raises (refused reason : FriendProgram α) := nofun

theorem execute_raises (point : FriendPoint) (silent : ∀ fate node, SendReturns point fate node) :
    Raises (execute identity point) := by
  apply Surfaces.bind
  · exact Surfaces.perform (fun _ _ _ => ⟨_, rfl⟩) fun fate node refused => (refused (silent fate node)).elim
  · intro changed
    apply Surfaces.bind
    · exact Surfaces.perform (fun _ _ _ => ⟨_, rfl⟩) fun _ _ refused => (refused trivial).elim
    · intro _
      exact Surfaces.pure

theorem sendPacket_raises : Raises (sendPacket identity peerId packet) := by
  apply Surfaces.perform
  · intro fate node returns
    have succeeds : fate.sendFails = false := returns
    refine ⟨⟨⟩, ?_⟩
    simp [Handler.bind_apply, Handler.change, Handler.refuse, succeeds]
  · intro fate node refused
    have fails : fate.sendFails = true := by
      cases fails : fate.sendFails with
      | true => rfl
      | false => exact (refused fails).elim
    simp [Handler.bind_apply, Handler.change, Handler.refuse, Handler.raise, fails]

theorem deliver_raises {connected : Option FriendPeer} : Raises (deliver identity connected peerId packet messageId) := by
  cases connected with
  | none => exact Surfaces.bind (execute_raises _ fun _ _ => trivial) fun _ => Surfaces.pure
  | some peer => exact sendPacket_raises

theorem sendFriendRequest_raises {note : String} : Raises (sendFriendRequest identity ownName peerId note) := by
  apply Surfaces.ite refused_raises
  apply Surfaces.ite refused_raises
  apply Surfaces.bind ask_raises
  intro friend
  apply Surfaces.ite refused_raises
  apply Surfaces.bind ask_raises
  intro blocked
  apply Surfaces.ite refused_raises
  apply Surfaces.bind ask_raises
  rintro ⟨pending, fate⟩
  apply Surfaces.ite refused_raises
  apply Surfaces.ite refused_raises
  apply Surfaces.bind ask_raises
  intro stored
  exact Surfaces.bind (execute_raises _ fun _ _ => trivial) fun _ => deliver_raises

theorem befriend_raises {request : FriendRequest} : Raises (befriend identity request) := by
  apply Surfaces.bind (execute_raises (.addFriend request.senderId request.senderName) fun _ _ => trivial)
  intro added
  apply Surfaces.bind ask_raises
  intro found
  cases found with
  | none => exact Surfaces.pure
  | some outgoing =>
      apply Surfaces.bind (execute_raises (.updateStatus outgoing.requestId .cancelled) fun _ _ => trivial)
      intro cancelled
      exact Surfaces.bind ask_raises fun _ => deliver_raises

theorem respondToFriendRequest_raises {requestId : String} {accept : Bool} :
    Raises (respondToFriendRequest identity requestId accept) := by
  apply Surfaces.bind ask_raises
  rintro ⟨found, connected⟩
  cases opened : open? .incoming found with
  | none => simp only [opened]; exact refused_raises
  | some request =>
      simp only [opened]
      apply Surfaces.ite refused_raises
      refine Surfaces.bind (execute_raises _ ?_) fun updated => ?_
      · exact fun _ _ => trivial
      apply Surfaces.bind
      · exact Surfaces.ite befriend_raises Surfaces.pure
      · intro _
        exact deliver_raises

theorem cancelFriendRequest_raises {requestId : String} : Raises (cancelFriendRequest identity requestId) := by
  apply Surfaces.bind ask_raises
  rintro ⟨found, connected⟩
  cases opened : open? .outgoing found with
  | none => simp only [opened]; exact refused_raises
  | some request =>
      simp only [opened]
      apply Surfaces.ite refused_raises
      exact Surfaces.bind (execute_raises _ fun _ _ => trivial) fun _ => deliver_raises

end

/-! ## What is left behind -/

section

open MeshTalk.Library.Task

/-- The node after a statement and its commit. -/
def FriendNode.wrote (node : FriendNode) (db : FriendTables) : FriendNode := { node with db, committed := db }

abbrev Leaves (program : FriendProgram α) (node : FriendNode)
    (post : Prop → Except FriendError α → FriendNode → Prop) : Prop :=
  program.Ends RequestStored node post

theorem ask_leaves {answer : FriendFate → FriendNode → α} {following : α → FriendProgram β}
    {post : Prop → Except FriendError β → FriendNode → Prop}
    (continues : ∀ fate, Leaves (following (answer fate node)) node post) :
    Leaves (ask answer >>= following) node post := by
  apply Ends.bind
  apply Ends.perform
  intro fate
  change Leaves (following (answer fate node)) node fun met => post (True ∧ met)
  simp only [true_and]
  exact continues fate

theorem execute_leaves (point : FriendPoint) {following : Bool → FriendProgram α}
    {post : Prop → Except FriendError α → FriendNode → Prop}
    (effect : ∀ fate, point.effect identity fate node = { node with db := point.statement identity fate.now node.db })
    (continues : ∀ fate, Leaves (following (point.rowcount identity fate.now node.db))
      (node.wrote (point.statement identity fate.now node.db)) fun met => post (RequestStored point fate node ∧ met)) :
    Leaves (execute identity point >>= following) node post := by
  apply Ends.bind
  apply Ends.bind
  apply Ends.perform
  intro fate
  apply Ends.bind
  apply Ends.perform
  intro commits
  apply Ends.pure
  change Leaves (following (point.rowcount identity fate.now node.db))
    (FriendPoint.commit.effect identity commits (point.effect identity fate node))
    fun met => post ((RequestStored point fate node ∧ True ∧ True) ∧ met)
  rw [effect fate]
  simp only [and_true]
  exact continues fate

theorem sendPacket_leaves {post : Prop → Except FriendError Unit → FriendNode → Prop}
    (raised : post True (.error .sendFailed) node)
    (returned : post True (.ok ()) { node with sent := node.sent ++ [(peerId, packet)] }) :
    Leaves (sendPacket identity peerId packet) node post := by
  apply Ends.perform
  intro fate
  cases fails : fate.sendFails with
  | true =>
      simpa [Handler.bind_apply, Handler.change, Handler.refuse, Handler.raise, FriendPoint.effect, fails, RequestStored]
        using raised
  | false =>
      simpa [Handler.bind_apply, Handler.change, Handler.refuse, FriendPoint.effect, fails, RequestStored] using returned

def FriendNode.queued (node : FriendNode) (peerId : PeerId) (packet : FriendPacket) (messageId : String) (now : Time) :
    FriendNode :=
  node.wrote (node.db.addToOutqueue peerId packet messageId now)

def FriendNode.posted (node : FriendNode) (peerId : PeerId) (packet : FriendPacket) : FriendNode :=
  { node with sent := node.sent ++ [(peerId, packet)] }

/-- Telling a peer raises, or sends the packet, or queues it. -/
theorem deliver_leaves {connected : Option FriendPeer} {post : Prop → Except FriendError Unit → FriendNode → Prop}
    (raised : post True (.error .sendFailed) node) (returned : post True (.ok ()) (node.posted peerId packet))
    (queued : ∀ now, post True (.ok ()) (node.queued peerId packet messageId now)) :
    Leaves (deliver identity connected peerId packet messageId) node post := by
  cases connected with
  | some peer => exact sendPacket_leaves raised returned
  | none =>
      have enqueued : Leaves (do
          let _ ← execute identity (.enqueue peerId packet messageId)
          pure ()) node post := by
        apply execute_leaves
        · intro fate
          rfl
        · intro fate
          apply Ends.pure
          rw [and_true]
          exact queued fate.now
      exact enqueued

/-- What `deliver` does to the node when it returns. -/
structure Told (before after : FriendNode) (peerId : PeerId) (packet : FriendPacket) : Prop where
  friends : after.db.friends = before.db.friends
  requests : after.db.friendRequests = before.db.friendRequests
  carried : Carried before after peerId packet
  others : ∀ other sent, (other, sent) ≠ (peerId, packet) →
    after.sent.count (other, sent) = before.sent.count (other, sent) ∧
      after.db.outgoingQueue.countP (QueuedFriendPacket.carries other sent) =
        before.db.outgoingQueue.countP (QueuedFriendPacket.carries other sent)

theorem told_posted : Told node (node.posted peerId packet) peerId packet := by
  refine ⟨rfl, rfl, .inl ?_, ?_⟩
  · simp [FriendNode.posted]
  · intro other sent different
    simp [FriendNode.posted, different.symm]

theorem told_queued {now : Time} : Told node (node.queued peerId packet messageId now) peerId packet := by
  refine ⟨rfl, rfl, .inr ?_, ?_⟩
  · simp [FriendNode.queued, FriendNode.wrote, FriendTables.addToOutqueue, QueuedFriendPacket.carries]
  · intro other sent different
    have apart : ¬ (peerId = other ∧ packet = sent) := fun same => different (by rw [same.1, same.2])
    simp only [FriendNode.queued, FriendNode.wrote, FriendTables.addToOutqueue, List.countP_append, List.countP_singleton,
      QueuedFriendPacket.carries, Bool.and_eq_true, decide_eq_true_eq, if_neg apart, Nat.add_zero, and_self]

theorem deliver_tells {connected : Option FriendPeer} {post : Prop → Except FriendError Unit → FriendNode → Prop}
    (raised : post True (.error .sendFailed) node)
    (told : ∀ after, Told node after peerId packet → post True (.ok ()) after) :
    Leaves (deliver identity connected peerId packet messageId) node post :=
  deliver_leaves raised (told _ told_posted) fun _ => told _ told_queued

/-- Nothing has been said to the peer since `start`. -/
def Quiet (start node : FriendNode) (peerId : PeerId) (packet : FriendPacket) : Prop :=
  node.sent.count (peerId, packet) = start.sent.count (peerId, packet) ∧
    node.db.outgoingQueue.countP (QueuedFriendPacket.carries peerId packet) =
      start.db.outgoingQueue.countP (QueuedFriendPacket.carries peerId packet)

theorem quiet_of_same (sent : node.sent = start.sent) (queue : node.db.outgoingQueue = start.db.outgoingQueue) :
    Quiet start node peerId packet :=
  ⟨by rw [sent], by rw [queue]⟩

theorem Quiet.not_carried (quiet : Quiet start node peerId packet) : ¬ Carried start node peerId packet := by
  rw [Carried, quiet.1, quiet.2]
  omega

theorem Told.since {after : FriendNode} (told : Told node after peerId packet) (quiet : Quiet start node peerId packet) :
    Carried start after peerId packet := by
  have carried := told.carried
  rwa [Carried, quiet.1, quiet.2] at carried

theorem Told.quiet {after : FriendNode} {other : PeerId} {sent : FriendPacket} (told : Told node after peerId packet)
    (different : sent ≠ packet) (quiet : Quiet start node other sent) : Quiet start after other sent := by
  obtain ⟨counted, queued⟩ := told.others other sent fun same => different (Prod.mk.inj same).2
  exact ⟨counted.trans quiet.1, queued.trans quiet.2⟩

theorem Told.still {after : FriendNode} {other : PeerId} {sent : FriendPacket} (told : Told node after peerId packet)
    (different : sent ≠ packet) (carried : Carried start node other sent) : Carried start after other sent := by
  obtain ⟨counted, queued⟩ := told.others other sent fun same => different (Prod.mk.inj same).2
  rw [Carried, counted, queued]
  exact carried

/-- How an operation ends: told or unchanged exactly where no send raised, or
nothing was stored. -/
def EndsTold (identity : Identity crypto) (start : FriendNode) (job : FriendJob) (stored : Prop)
    (outcome : Except FriendError Unit) (final : FriendNode) : Prop :=
  Announced identity start final job ∨ Unchanged start final ↔ outcome ≠ .error .sendFailed ∨ ¬ stored

theorem refusing_leaves {job : FriendJob} {reason : String} {condition : Prop} [Decidable condition]
    {program : FriendProgram Unit} (holds : ¬ condition → Leaves program start (EndsTold identity start job)) :
    Leaves (if condition then refused reason else program) start (EndsTold identity start job) :=
  Ends.ite (fun _ => Ends.failed (iff_of_true (.inr ⟨rfl, rfl⟩) (.inl nofun))) holds

/-! ### Sending -/

theorem friends_saveFriendRequest {db : FriendTables} {request : FriendRequest} {now : Time} :
    (db.saveFriendRequest request now).friends = db.friends ∧
      (db.saveFriendRequest request now).outgoingQueue = db.outgoingQueue := by
  simp only [FriendTables.saveFriendRequest]
  split <;> exact ⟨rfl, rfl⟩

theorem saveFriendRequest_unchanged_iff {db : FriendTables} {request : FriendRequest} {now : Time} :
    (db.saveFriendRequest request now).friendRequests = db.friendRequests ↔ ¬ db.admitsRequest request now = true := by
  constructor
  · intro same admitted
    have free : request.requestId ∉ db.friendRequests.rows.map FriendRequest.requestId := by
      simp only [FriendTables.admitsRequest, Bool.and_eq_true, Bool.not_eq_true', Table.holds, decide_eq_false_iff_not]
        at admitted
      exact admitted.2
    have added : { request with admittedAt := now } ∈ (db.saveFriendRequest request now).friendRequests.rows := by
      simp only [FriendTables.saveFriendRequest, if_pos admitted]
      exact Table.mem_insertOrIgnore.mpr (.inr ⟨rfl, free⟩)
    rw [same] at added
    exact free (List.mem_map.mpr ⟨_, added, rfl⟩)
  · intro refused
    simp [FriendTables.saveFriendRequest, refused]

theorem sendFriendRequest_leaves {note : String} :
    Leaves (sendFriendRequest identity ownName peerId note) start (EndsTold identity start (.send peerId note)) := by
  apply refusing_leaves
  intro _
  apply refusing_leaves
  intro _
  apply ask_leaves
  intro _
  apply refusing_leaves
  intro _
  apply ask_leaves
  intro _
  apply refusing_leaves
  intro _
  apply ask_leaves
  intro fate
  apply refusing_leaves
  intro _
  apply refusing_leaves
  intro _
  apply ask_leaves
  intro _
  apply execute_leaves
  · intro _
    rfl
  · intro saved
    generalize outgoingRequest identity ownName peerId _ fate.newId note fate.now = request
    have quiet : ∀ packet, Quiet start
        (start.wrote ((FriendPoint.saveRequest request).statement identity saved.now start.db)) peerId packet :=
      fun _ => quiet_of_same rfl friends_saveFriendRequest.2
    apply deliver_tells
    · rw [and_true]
      have silent : ¬ Announced identity start
          (start.wrote ((FriendPoint.saveRequest request).statement identity saved.now start.db)) (.send peerId note) :=
        fun ⟨payload, carried⟩ => (quiet _).not_carried carried
      have stored : Unchanged start (start.wrote ((FriendPoint.saveRequest request).statement identity saved.now start.db)) ↔
          ¬ RequestStored (.saveRequest request) saved start :=
        (and_iff_right friends_saveFriendRequest.1).trans saveFriendRequest_unchanged_iff
      rw [EndsTold, stored]
      simp only [silent, false_or, ne_eq, not_true_eq_false]
    · intro after told
      exact iff_of_true (.inl ⟨_, told.since (quiet _)⟩) (.inl nofun)

/-! ### Answering and cancelling -/

theorem open?_some {direction : RequestDirection} {found : Option FriendRequest} {request : FriendRequest}
    (opened : open? direction found = some request) :
    found = some request ∧ request.direction = direction ∧ request.pending = true := by
  simpa [open?, Option.filter_eq_some_iff] using opened

/-- No row of the request is pending any more. -/
def Resolved (requestId : String) (node : FriendNode) : Prop :=
  ∀ row ∈ node.db.friendRequests.rows, row.requestId = requestId → row.pending = false

theorem update_resolves {requestId : String} {status : RequestStatus} {now : Time} (separated : Separated start.db)
    (resolves : status ≠ .pending) :
    Resolved requestId (start.wrote (start.db.updateFriendRequestStatus requestId status now)) := by
  intro row member named
  rcases FriendTables.mem_setRequestStatus member with ⟨known, unmoved⟩ | ⟨old, _, _, rfl⟩
  · apply Bool.eq_false_iff.mpr
    intro pending
    obtain ⟨sender, recipient⟩ := separated.requests row known pending
    simp [FriendTables.moves, named, sender, recipient] at unmoved
  · simpa [FriendRequest.pending] using resolves

theorem Resolved.changed {requestId : String} {request : FriendRequest} (resolved : Resolved requestId node)
    (found : start.db.getFriendRequest requestId = some request) (pending : request.pending = true) :
    ¬ Unchanged start node := by
  intro unchanged
  obtain ⟨member, named⟩ := Table.find?_some_iff.mp found
  rw [← unchanged.2] at member
  simp [resolved request member named] at pending

theorem outgoingQueue_addFriend {db : FriendTables} {displayName : String} {now : Time} :
    (db.addFriend peerId displayName now).outgoingQueue = db.outgoingQueue := by
  simp only [FriendTables.addFriend]
  split <;> rfl

theorem outgoingQueue_setRequestStatus {db : FriendTables} {chosen : FriendRequest → Bool} {status : RequestStatus}
    {now : Time} : (db.setRequestStatus chosen status now).outgoingQueue = db.outgoingQueue := by
  have granted : ∀ (requests : List FriendRequest) (tables : FriendTables),
      (tables.grantAll requests now).outgoingQueue = tables.outgoingQueue := by
    intro requests
    induction requests with
    | nil => exact fun _ => rfl
    | cons request rest ih => exact fun tables => (ih _).trans outgoingQueue_addFriend
  exact granted _ _

theorem cancelFriendRequest_leaves {requestId : String} (separated : Separated start.db) :
    Leaves (cancelFriendRequest identity requestId) start (EndsTold identity start (.cancel requestId)) := by
  apply ask_leaves
  intro fate
  cases opened : open? .outgoing (start.db.getFriendRequest requestId) with
  | none =>
      simp only [opened]
      exact Ends.failed (iff_of_true (.inr ⟨rfl, rfl⟩) (.inl nofun))
  | some request =>
      obtain ⟨found, _, pending⟩ := open?_some opened
      simp only [opened]
      apply refusing_leaves
      intro _
      apply execute_leaves
      · intro _
        rfl
      · intro written
        have quiet : ∀ packet, Quiet start
            (start.wrote ((FriendPoint.updateStatus requestId .cancelled).statement identity written.now start.db))
            request.recipientId packet :=
          fun _ => quiet_of_same rfl outgoingQueue_setRequestStatus
        have resolved : Resolved requestId
            (start.wrote ((FriendPoint.updateStatus requestId .cancelled).statement identity written.now start.db)) :=
          update_resolves separated nofun
        apply deliver_tells
        · rw [and_true]
          refine iff_of_false ?_ ?_
          · rintro (announced | unchanged)
            · exact (quiet _).not_carried (announced request found)
            · exact resolved.changed found pending unchanged
          · rintro (other | unstored)
            · exact other rfl
            · exact unstored trivial
        · intro after told
          refine iff_of_true (.inl ?_) (.inl nofun)
          intro other same
          cases found.symm.trans same
          exact told.since (quiet _)

/-- The request is resolved and nothing else has happened since `start`. -/
structure Silent (start node : FriendNode) (requestId : String) : Prop where
  sent : node.sent = start.sent
  queue : node.db.outgoingQueue = start.db.outgoingQueue
  resolved : Resolved requestId node
  kept : ∀ request, ¬ withdrawn start node request
  waiting : ∀ row ∈ node.db.friendRequests.rows, row.pending = true → row ∈ start.db.friendRequests.rows

/-- The node while an answer is on its way: the request is resolved, nothing is
said of it yet, and every own request withdrawn since `start` is cancelled. -/
structure Answering (identity : Identity crypto) (start node : FriendNode) (request : FriendRequest) (accept : Bool) :
    Prop where
  resolved : Resolved request.requestId node
  quiet : Quiet start node request.senderId (response identity request.requestId accept)
  told : ∀ other, withdrawn start node other →
    Carried start node other.recipientId (cancellation identity other.requestId)

theorem Silent.answering {request : FriendRequest} {accept : Bool} (silent : Silent start node request.requestId) :
    Answering identity start node request accept :=
  ⟨silent.resolved, quiet_of_same silent.sent silent.queue, fun other gone => (silent.kept other gone).elim⟩

/-- What the status update of an answer leaves. -/
theorem answered_update {requestId : String} {status : RequestStatus} {now : Time} (separated : Separated start.db)
    (answers : status = .accepted ∨ status = .declined) :
    Silent start (start.wrote (start.db.updateFriendRequestStatus requestId status now)) requestId := by
  have resolves : status ≠ .pending := by rcases answers with rfl | rfl <;> exact nofun
  refine ⟨rfl, outgoingQueue_setRequestStatus, update_resolves separated resolves, ?_, ?_⟩
  · rintro request ⟨known, waiting, row, member, named, cancelled⟩
    rcases FriendTables.mem_setRequestStatus member with ⟨kept, _⟩ | ⟨old, _, _, rfl⟩
    · have same : row = request := List.inj_on_of_nodup_map start.db.friendRequests.unique kept known named
      simp [FriendRequest.pending, ← same, cancelled] at waiting
    · rcases answers with rfl | rfl <;> simp at cancelled
  · intro row member pending
    rcases FriendTables.mem_setRequestStatus member with ⟨kept, _⟩ | ⟨old, _, _, rfl⟩
    · exact kept
    · simp [FriendRequest.pending, resolves] at pending

/-- What `add_friend` of an answer leaves. -/
theorem Silent.befriended {requestId displayName : String} {now : Time} (silent : Silent start node requestId) :
    Silent start (node.wrote (node.db.addFriend peerId displayName now)) requestId := by
  have requests : (node.wrote (node.db.addFriend peerId displayName now)).db.friendRequests = node.db.friendRequests :=
    FriendTables.friendRequests_addFriend
  refine ⟨silent.sent, outgoingQueue_addFriend.trans silent.queue, ?_, ?_, ?_⟩
  · rw [Resolved, requests]
    exact silent.resolved
  · intro request
    rw [withdrawn, requests]
    exact silent.kept request
  · rw [requests]
    exact silent.waiting

/-- What the withdrawal of an own request leaves before its packet goes out. -/
theorem Silent.withdrew {requestId withdrawnId : String} {now : Time} (silent : Silent start node requestId) :
    Resolved requestId (node.wrote (node.db.updateFriendRequestStatus withdrawnId .cancelled now)) ∧
      ∀ other, withdrawn start (node.wrote (node.db.updateFriendRequestStatus withdrawnId .cancelled now)) other →
        other.requestId = withdrawnId := by
  constructor
  · intro row member named
    rcases FriendTables.mem_setRequestStatus member with ⟨kept, _⟩ | ⟨old, _, _, rfl⟩
    · exact silent.resolved row kept named
    · rfl
  · rintro other ⟨known, waiting, row, member, named, cancelled⟩
    rcases FriendTables.mem_setRequestStatus member with ⟨kept, _⟩ | ⟨old, _, moved, rfl⟩
    · exact (silent.kept other ⟨known, waiting, row, kept, named, cancelled⟩).elim
    · have chosen : old.requestId = withdrawnId := by simpa [FriendTables.moves] using moved
      exact named.symm.trans chosen

/-- An own request with the peer, found pending, is withdrawn and its peer told. -/
theorem withdrawRequest_leaves {request : FriendRequest} {accept : Bool} (silent : Silent start node request.requestId) :
    Leaves (withdrawRequest identity request.senderId) node fun met outcome after =>
      met ∧ (outcome = .ok () ∧ Answering identity start after request accept ∨
        outcome = .error .sendFailed ∧ Resolved request.requestId after ∧
          Quiet start after request.senderId (response identity request.requestId accept)) := by
  apply ask_leaves
  intro _
  cases found : node.db.getPendingRequestWith request.senderId .outgoing with
  | none =>
      simp only [found]
      exact Ends.pure ⟨trivial, .inl ⟨rfl, silent.answering⟩⟩
  | some outgoing =>
      simp only [found]
      obtain ⟨⟨pending, direction⟩, party⟩ : (outgoing.pending = true ∧ outgoing.direction = .outgoing) ∧
          outgoing.otherParty = request.senderId := by
        simpa only [Bool.and_eq_true, decide_eq_true_eq] using (List.find?_eq_some_iff_append.mp found).1
      have known : outgoing ∈ start.db.friendRequests.rows :=
        silent.waiting outgoing (List.mem_of_find?_eq_some found) pending
      have recipient : outgoing.recipientId = request.senderId := by
        simpa [FriendRequest.otherParty, direction] using party
      apply execute_leaves
      · intro _
        rfl
      · intro fate
        obtain ⟨resolved, only⟩ : Resolved request.requestId (node.wrote
              ((FriendPoint.updateStatus outgoing.requestId .cancelled).statement identity fate.now node.db)) ∧
            ∀ other, withdrawn start (node.wrote ((FriendPoint.updateStatus outgoing.requestId .cancelled).statement
              identity fate.now node.db)) other → other.requestId = outgoing.requestId := silent.withdrew
        have quiet : ∀ packet, Quiet start (node.wrote ((FriendPoint.updateStatus outgoing.requestId .cancelled).statement
            identity fate.now node.db)) request.senderId packet :=
          fun _ => quiet_of_same silent.sent (outgoingQueue_setRequestStatus.trans silent.queue)
        apply ask_leaves
        intro _
        apply deliver_tells
        · exact ⟨⟨trivial, trivial⟩, .inr ⟨rfl, resolved, quiet _⟩⟩
        · intro after told
          refine ⟨⟨trivial, trivial⟩, .inl ⟨rfl, ?_, told.quiet (by exact nofun) (quiet _), ?_⟩⟩
          · rw [Resolved, told.requests]
            exact resolved
          · intro other gone
            have same := only other (by rwa [withdrawn, ← told.requests])
            have one : other = outgoing := List.inj_on_of_nodup_map start.db.friendRequests.unique gone.1 known same
            rw [one, recipient]
            exact told.since (quiet _)

theorem respondToFriendRequest_leaves {requestId : String} {accept : Bool} (separated : Separated start.db) :
    Leaves (respondToFriendRequest identity requestId accept) start (EndsTold identity start (.respond requestId accept)) := by
  apply ask_leaves
  intro fate
  cases opened : open? .incoming (start.db.getFriendRequest requestId) with
  | none =>
      simp only [opened]
      exact Ends.failed (iff_of_true (.inr ⟨rfl, rfl⟩) (.inl nofun))
  | some request =>
      obtain ⟨found, _, pending⟩ := open?_some opened
      obtain rfl : request.requestId = requestId := (Table.find?_some_iff.mp found).2
      have raised : ∀ {stored : Prop} {after : FriendNode}, stored → Resolved request.requestId after →
          Quiet start after request.senderId (response identity request.requestId accept) →
          EndsTold identity start (.respond request.requestId accept) stored (.error .sendFailed) after := by
        intro stored after met resolved quiet
        refine iff_of_false ?_ ?_
        · rintro (announced | unchanged)
          · exact quiet.not_carried (announced.1 request found)
          · exact resolved.changed found pending unchanged
        · rintro (other | unstored)
          · exact other rfl
          · exact unstored met
      simp only [opened]
      apply refusing_leaves
      intro _
      apply execute_leaves
      · intro _
        rfl
      · intro written
        have silent : Silent start (start.wrote ((FriendPoint.updateStatus request.requestId
            (if accept then .accepted else .declined)).statement identity written.now start.db)) request.requestId :=
          answered_update separated (by cases accept <;> simp)
        have befriending : Leaves (onlyIf accept (befriend identity request)) (start.wrote ((FriendPoint.updateStatus
            request.requestId (if accept then .accepted else .declined)).statement identity written.now start.db))
            fun met outcome after =>
              met ∧ (outcome = .ok () ∧ Answering identity start after request accept ∨
                outcome = .error .sendFailed ∧ Resolved request.requestId after ∧
                  Quiet start after request.senderId (response identity request.requestId accept)) := by
          cases accept with
          | false => exact Ends.pure ⟨trivial, .inl ⟨rfl, silent.answering⟩⟩
          | true =>
              rw [onlyIf, if_pos rfl, befriend]
              apply execute_leaves
              · intro _
                rfl
              · intro added
                exact (withdrawRequest_leaves silent.befriended).weaken fun met outcome after left =>
                  ⟨⟨trivial, left.1⟩, left.2⟩
        apply Ends.bind
        refine befriending.weaken ?_
        rintro met outcome after ⟨stored, ⟨rfl, answering⟩ | ⟨rfl, resolved, quiet⟩⟩
        · apply deliver_tells
          · exact raised ⟨trivial, stored, trivial⟩ answering.resolved answering.quiet
          · intro last told
            refine iff_of_true (.inl ⟨?_, ?_⟩) (.inl nofun)
            · intro other same
              cases found.symm.trans same
              exact told.since answering.quiet
            · intro other gone
              exact told.still nofun (answering.told other (by rwa [withdrawn, ← told.requests]))
        · exact raised ⟨trivial, stored⟩ resolved quiet

end

/-! ## Every local state -/

/-- From every reachable state, an operation of the user ends with its packets
sent or queued, or with the friends and requests as before, exactly where no
direct send of it raises (or it stores no request). -/
theorem operations_tell_or_undo {crypto : FileCrypto} (identity : Identity crypto) (ownName : String)
    (tables : FriendTables) (knownNames : Dict PeerId String) (openedAt restartedAt : Time) (events : List FriendEvent)
    (pool : FriendPool)
    (reached : run (Pool.step (friendService identity ownName restartedAt)) (freshPool tables knownNames openedAt)
      events = some pool)
    (job : FriendJob) (announces : job.Announces) (fates : List FriendFate) (outcome : Except FriendError Unit)
    (final : FriendNode)
    (ended : (friendProgram identity ownName job).alone fates pool.shared = some (outcome, final)) :
    Announced identity pool.shared final job ∨ Unchanged pool.shared final ↔
      (friendProgram identity ownName job).Admitted SendReturns fates pool.shared ∨
        ¬ (friendProgram identity ownName job).Admitted RequestStored fates pool.shared := by
  have separated : Separated pool.shared.db := (reachable_separated reached).1
  have raises : Raises (friendProgram identity ownName job) := by
    cases job with
    | send peerId note => exact sendFriendRequest_raises
    | respond requestId accept => exact respondToFriendRequest_raises
    | cancel requestId => exact cancelFriendRequest_raises
    | _ => exact announces.elim
  have leaves : Leaves (friendProgram identity ownName job) pool.shared (EndsTold identity pool.shared job) := by
    cases job with
    | send peerId note => exact sendFriendRequest_leaves
    | respond requestId accept => exact respondToFriendRequest_leaves separated
    | cancel requestId => exact cancelFriendRequest_leaves separated
    | _ => exact announces.elim
  have told := leaves fates outcome final ended
  rw [EndsTold, ne_eq, raises.raised_iff ended, not_not] at told
  exact told

/-! ### Runs on fixed inputs -/

def offlineFate : FriendFate := ⟨10, "r2", none, false⟩

def brokenFate : FriendFate := ⟨10, "r2", some bobPeer, true⟩

/-- Bob is not connected: the request is stored and its packet queued. -/
theorem offline_request_is_queued :
    ∃ final, (friendProgram plainIdentity "me" (.send "bob" "")).alone (List.replicate 8 offlineFate)
        (FriendNode.opened {} ∅ 0) = some (.ok (), final) ∧
      (Announced plainIdentity (FriendNode.opened {} ∅ 0) final (.send "bob" "") ∨
        Unchanged (FriendNode.opened {} ∅ 0) final) := by
  have found : ((friendProgram plainIdentity "me" (.send "bob" "")).alone (List.replicate 8 offlineFate)
      (FriendNode.opened {} ∅ 0)).any (fun ended => match ended.1 with
        | .ok () => true
        | .error _ => false) = true := by decide +kernel
  obtain ⟨⟨outcome, final⟩, ended, returned⟩ := (Option.any_eq_true _ _).mp found
  have returns : (friendProgram plainIdentity "me" (.send "bob" "")).Admitted SendReturns (List.replicate 8 offlineFate)
      (FriendNode.opened {} ∅ 0) := by decide +kernel
  cases outcome with
  | error error => cases returned
  | ok value =>
      exact ⟨final, ended, (operations_tell_or_undo plainIdentity "me" {} ∅ 0 0 [] ⟨FriendNode.opened {} ∅ 0, []⟩ rfl
        (.send "bob" "") trivial _ _ final ended).mpr (.inl returns)⟩

/-- Bob is connected when he is looked up, and the send fails: the request stays
stored, and nothing is queued. -/
theorem failed_send_leaves_request :
    ∃ final, (friendProgram plainIdentity "me" (.send "bob" "")).alone (List.replicate 7 brokenFate)
        (FriendNode.opened {} ∅ 0) = some (.error .sendFailed, final) ∧
      final.db.friendRequests.rows.map FriendRequest.status = [.pending] ∧
      ¬ (Announced plainIdentity (FriendNode.opened {} ∅ 0) final (.send "bob" "") ∨
        Unchanged (FriendNode.opened {} ∅ 0) final) := by
  have found : ((friendProgram plainIdentity "me" (.send "bob" "")).alone (List.replicate 7 brokenFate)
      (FriendNode.opened {} ∅ 0)).any (fun ended => decide (ended.2.db.outgoingQueue = [] ∧ ended.2.sent = [] ∧
        ended.2.db.friendRequests.rows.map FriendRequest.status = [.pending]) && (match ended.1 with
          | .error .sendFailed => true
          | _ => false)) = true := by decide +kernel
  obtain ⟨⟨outcome, final⟩, ended, left⟩ := (Option.any_eq_true _ _).mp found
  obtain ⟨⟨queue, sent, statuses⟩, raised⟩ :
      (final.db.outgoingQueue = [] ∧ final.sent = [] ∧
        final.db.friendRequests.rows.map FriendRequest.status = [.pending]) ∧ outcome = .error .sendFailed := by
    cases outcome with
    | ok value => simp at left
    | error error => cases error <;> simp_all
  subst raised
  refine ⟨final, ended, statuses, ?_⟩
  rintro (⟨payload, carried⟩ | unchanged)
  · exact (quiet_of_same sent queue).not_carried carried
  · rw [unchanged.2] at statuses
    cases statuses

end MeshTalk.Friends
