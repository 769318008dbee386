import MeshTalk.Friends.Permissions

namespace MeshTalk.Friends

open MeshTalk.Library MeshTalk.Protocol MeshTalk.Store

/-! # Which request makes a friend

The trigger on an acceptance grants a friendship in the statement that accepts
a pending request.  `add_friend` runs as a statement of its own after it.
-/

/-- Each new friend is the peer of a request that was pending before and is
accepted now. -/
def GrantsPending (before after : FriendTables) : Prop :=
  ∀ friend ∈ after.friends.rows, before.friends.holds friend.peerId = true ∨
    ∃ request ∈ before.friendRequests.rows, request.otherParty = friend.peerId ∧ request.pending = true ∧
      ∃ answered ∈ after.friendRequests.rows, answered.requestId = request.requestId ∧ answered.status = .accepted

instance {before after : FriendTables} : Decidable (GrantsPending before after) :=
  inferInstanceAs (Decidable (∀ friend ∈ _, _))

abbrev FriendMachine := Service FriendNode FriendFate FriendPoint FriendError FriendJob

/-- What a step of the process adds to the friends comes from a pending request. -/
def GrantStep (service : FriendMachine) (pool : FriendPool) : FriendEvent → Prop
  | .resume index fate =>
      ∀ next ∈ pool.step service (.resume index fate), GrantsPending pool.shared.db next.shared.db
  | _ => True

instance {service : FriendMachine} {pool : FriendPool} {event : FriendEvent} :
    Decidable (GrantStep service pool event) := by
  cases event <;> simp only [GrantStep] <;> infer_instance

/-- Where `add_friend` runs after an acceptance, the peer is a friend already, or
is blocked. -/
def StillGranted : FriendPoint → FriendNode → Prop
  | .addFriend peerId _, node => node.db.friends.holds peerId = true ∨ node.db.isPeerBlocked peerId = true
  | _, _ => True

instance {point : FriendPoint} {node : FriendNode} : Decidable (StillGranted point node) := by
  induction point using FriendPoint.casesOn <;> dsimp only [StillGranted] <;> infer_instance

/-- `StillGranted` of the point the acting task is at. -/
def GrantKept (pool : FriendPool) (event : FriendEvent) : Prop :=
  Pool.Allowed (fun point (_ : FriendFate) node => StillGranted point node) pool event

instance {pool : FriendPool} {event : FriendEvent} : Decidable (GrantKept pool event) :=
  inferInstanceAs (Decidable (Pool.Allowed _ _ _))

variable {db : FriendTables} {peerId : PeerId} {displayName : String} {now : Time}

/-! ## One statement -/

theorem holds_removed {friend : Friend} (member : friend ∈ db.friends.rows) : db.friends.holds friend.peerId = true :=
  Table.holds_iff.mpr ⟨friend, member, rfl⟩

theorem grantsPending_of_fewer {after : FriendTables} (fewer : ∀ friend ∈ after.friends.rows, friend ∈ db.friends.rows) :
    GrantsPending db after :=
  fun friend member => .inl (holds_removed (fewer friend member))

/-- A status update grants exactly what it accepts. -/
theorem setRequestStatus_grants {chosen : FriendRequest → Bool} {status : RequestStatus} :
    GrantsPending db (db.setRequestStatus chosen status now) := by
  intro friend member
  rcases FriendTables.mem_friends_setRequestStatus member with ⟨old, known, same⟩ | ⟨granted, _⟩
  · exact .inl (same ▸ holds_removed known)
  · obtain ⟨request, known, party, pending, moved, accepted⟩ := granted
    refine .inr ⟨request, known, party, pending, { request with status, respondedAt := some now }, ?_, rfl, accepted⟩
    rw [FriendTables.setRequestStatus, FriendTables.friendRequests_grantAll, Table.mem_updateWhere]
    exact ⟨request, known, by rw [if_pos moved]⟩

theorem holds_addFriend {other : PeerId} (befriended : db.friends.holds other = true) :
    (db.addFriend peerId displayName now).friends.holds other = true := by
  obtain ⟨friend, member, rfl⟩ := Table.holds_iff.mp befriended
  simp only [FriendTables.addFriend]
  split
  · exact befriended
  · simp only
    split
    · refine Table.holds_iff.mpr ⟨_, Table.mem_updateWhere.mpr ⟨friend, member, rfl⟩, ?_⟩
      split <;> rfl
    · exact Table.holds_insertOrIgnore.mpr (.inl befriended)

theorem addFriend_holds (unblocked : db.isPeerBlocked peerId = false) :
    (db.addFriend peerId displayName now).friends.holds peerId = true := by
  cases befriended : db.friends.holds peerId with
  | true => exact holds_addFriend befriended
  | false =>
      simp only [FriendTables.addFriend, unblocked, befriended, Bool.false_eq_true, if_false]
      exact Table.holds_insertOrIgnore.mpr (.inr rfl)

/-- `add_friend` adds no one exactly where its peer is a friend or blocked. -/
theorem addFriend_grants_iff : GrantsPending db (db.addFriend peerId displayName now) ↔
    db.friends.holds peerId = true ∨ db.isPeerBlocked peerId = true := by
  constructor
  · intro grants
    cases blocked : db.isPeerBlocked peerId with
    | true => exact .inr rfl
    | false =>
        have added : (db.addFriend peerId displayName now).friends.holds peerId = true := addFriend_holds blocked
        obtain ⟨friend, member, rfl⟩ := Table.holds_iff.mp added
        rcases grants friend member with known | ⟨request, known, _, pending, answered, kept, same, accepted⟩
        · exact .inl known
        · -- The requests are what they were, so the pending one is not accepted.
          rw [FriendTables.friendRequests_addFriend] at kept
          have one : answered = request := List.inj_on_of_nodup_map db.friendRequests.unique kept known same
          rw [one] at accepted
          simp [FriendRequest.pending, accepted] at pending
  · intro kept friend member
    rcases FriendTables.mem_friends_addFriend member with ⟨old, known, same⟩ | ⟨same, unblocked⟩
    · exact .inl (same ▸ holds_removed known)
    · rcases kept with befriended | blocked
      · exact .inl (same ▸ befriended)
      · simp [unblocked] at blocked

theorem grantAll_holds {granted : List FriendRequest} {request : FriendRequest}
    (unblocked : db.isPeerBlocked request.otherParty = false)
    (given : request ∈ granted ∨ db.friends.holds request.otherParty = true) :
    (db.grantAll granted now).friends.holds request.otherParty = true := by
  induction granted generalizing db with
  | nil => exact given.resolve_left nofun
  | cons first rest ih =>
      apply ih
      · rw [FriendTables.isPeerBlocked_addFriend]
        exact unblocked
      · rcases given with listed | befriended
        · rcases List.mem_cons.mp listed with rfl | further
          · exact .inr (addFriend_holds unblocked)
          · exact .inl further
        · exact .inr (holds_addFriend befriended)

/-- An acceptance of a pending request has made its peer a friend, so that
`add_friend` has nothing to add unless the row is removed in between. -/
theorem accepted_is_granted {chosen : FriendRequest → Bool} {request : FriendRequest}
    (known : request ∈ db.friendRequests.rows) (picked : chosen request = true) (pending : request.pending = true)
    (unblocked : db.isPeerBlocked request.senderId = false ∧ db.isPeerBlocked request.recipientId = false) :
    (db.setRequestStatus chosen .accepted now).friends.holds request.otherParty = true := by
  have moved : db.moves chosen .accepted request = true := by
    simp [FriendTables.moves, picked, unblocked]
  have clear : db.isPeerBlocked request.otherParty = false := by
    cases direction : request.direction <;> simp [FriendRequest.otherParty, direction, unblocked]
  exact grantAll_holds clear (.inl (List.mem_filter.mpr ⟨known, by simp [moved, pending]⟩))

/-! ## Runs -/

section

variable {crypto : FileCrypto} {identity : Identity crypto} {node : FriendNode} {point : FriendPoint} {fate : FriendFate}

/-- Of all statements only `add_friend` can make a friend without a request. -/
theorem effect_grants_iff : GrantsPending node.db (point.effect identity fate node).db ↔ StillGranted point node := by
  have same : ∀ {after : FriendTables}, after.friends = node.db.friends → GrantsPending node.db after :=
    fun same => grantsPending_of_fewer fun friend member => same ▸ member
  have deleted : ∀ {doomed : Friend → Bool} {after : FriendTables}, after.friends = node.db.friends.deleteWhere doomed →
      GrantsPending node.db after := by
    intro doomed after same
    apply grantsPending_of_fewer
    intro friend member
    rw [same] at member
    exact (Table.mem_deleteWhere.mp member).1
  cases point with
  | addFriend peerId displayName => exact addFriend_grants_iff
  | updateStatus requestId status => exact iff_of_true setRequestStatus_grants trivial
  | resolve requestId peerId direction status => exact iff_of_true setRequestStatus_grants trivial
  | declinePending peerId => exact iff_of_true setRequestStatus_grants trivial
  | removeFriend peerId => exact iff_of_true (deleted rfl) trivial
  | blockPeer peerId displayName =>
      refine iff_of_true ?_ trivial
      intro friend member
      simp only [FriendPoint.effect, FriendPoint.statement, FriendTables.blockPeer] at member
      split at member
      · exact .inl (holds_removed member)
      · rcases FriendTables.mem_friends_setRequestStatus member with ⟨old, remaining, named⟩ | ⟨⟨_, _, _, _, _, declined⟩, _⟩
        · exact .inl (named ▸ holds_removed (Table.mem_deleteWhere.mp remaining).1)
        · cases declined
  | unblockPeer peerId => exact iff_of_true (same rfl) trivial
  | cleanup => exact iff_of_true (same rfl) trivial
  | saveRequest request =>
      refine iff_of_true (same ?_) trivial
      simp only [FriendPoint.effect, FriendPoint.statement, FriendTables.saveFriendRequest]
      split <;> rfl
  | saveMessage message requireFriend =>
      refine iff_of_true (same ?_) trivial
      simp only [FriendPoint.effect, FriendPoint.statement, FriendTables.saveMessage]
      split <;> rfl
  | markSeen messageId => exact iff_of_true (same rfl) trivial
  | markBlocked messageId peerId => exact iff_of_true (same rfl) trivial
  | enqueue recipientId packet messageId => exact iff_of_true (same rfl) trivial
  | query => exact iff_of_true (same rfl) trivial
  | commit => exact iff_of_true (same rfl) trivial
  | send peerId packet =>
      refine iff_of_true (same ?_) trivial
      simp only [FriendPoint.effect]
      split <;> rfl

end

/-- In a run, every new friend is granted in the statement that accepts a
pending request if and only if every `add_friend` after an acceptance finds its
peer a friend already, or blocked. -/
theorem friends_are_granted_by_requests {crypto : FileCrypto} (identity : Identity crypto) (ownName : String)
    (tables : FriendTables) (knownNames : Dict PeerId String) (openedAt restartedAt : Time) (events : List FriendEvent)
    (final : FriendPool)
    (completed : run (Pool.step (friendService identity ownName restartedAt)) (freshPool tables knownNames openedAt)
      events = some final) :
    Meets (Pool.step (friendService identity ownName restartedAt))
        (GrantStep (friendService identity ownName restartedAt)) (freshPool tables knownNames openedAt) events ↔
      Meets (Pool.step (friendService identity ownName restartedAt)) GrantKept (freshPool tables knownNames openedAt)
        events := by
  have programs : ∀ job self, ((friendService identity ownName restartedAt).program job self).Follows
      (FriendPoint.effect identity) FriendPoint.Resolving := fun job _ => friendProgram_points
  refine meets_congr (Pool.Obeys (FriendPoint.effect identity) FriendPoint.Resolving)
    (fun pool event next obeys stepped => (Pool.step_obeys programs obeys stepped).1) ?_ freshPool_obeys completed
  intro pool event next obeys stepped
  cases event with
  | start job => exact iff_of_true trivial trivial
  | restart => exact iff_of_true trivial trivial
  | resume index fate =>
      obtain ⟨_, point, suspended, _, shared⟩ := Pool.step_obeys programs obeys stepped
      simp only [GrantStep, GrantKept, Pool.Allowed, stepped, suspended, Option.mem_def, Option.some.injEq, forall_eq']
      rw [shared]
      exact effect_grants_iff

/-! ### Runs on fixed inputs -/

def bobCancels : FriendRequestCancelledPayload := ⟨"r1", "bob", List.replicate 64 0⟩

/-- Bob asks, and the user accepts. -/
def plainAcceptance : List FriendEvent :=
  [.start (.packet bobPeer (.request bobRequest))] ++ resumed 0 6 ++ [.start (.respond "r1" true)] ++ resumed 1 7

theorem plain_acceptance_grants_pending :
    ∃ final, run (Pool.step (friendService plainIdentity "me" 0)) (freshPool {} ∅ 0) plainAcceptance = some final ∧
      final.shared.db.friends.holds "bob" = true ∧
      Meets (Pool.step (friendService plainIdentity "me" 0)) (GrantStep (friendService plainIdentity "me" 0))
        (freshPool {} ∅ 0) plainAcceptance := by
  have found : ((run (Pool.step (friendService plainIdentity "me" 0)) (freshPool {} ∅ 0) plainAcceptance).any
      fun final => final.shared.db.friends.holds "bob") = true := by decide +kernel
  have kept : Meets (Pool.step (friendService plainIdentity "me" 0)) GrantKept (freshPool {} ∅ 0) plainAcceptance := by
    decide +kernel
  obtain ⟨final, completed, befriended⟩ := (Option.any_eq_true _ _).mp found
  exact ⟨final, completed, befriended,
    (friends_are_granted_by_requests plainIdentity "me" {} ∅ 0 0 _ final completed).mpr kept⟩

/-- Bob asks, the user's acceptance has read the request, and Bob cancels it
before the acceptance goes on. -/
def acceptedAfterCancel : List FriendEvent :=
  [.start (.packet bobPeer (.request bobRequest))] ++ resumed 0 6 ++ [.start (.respond "r1" true)] ++ resumed 1 1 ++
    [.start (.packet bobPeer (.cancelled bobCancels))] ++ resumed 2 3

/-- The cancelled request still makes Bob a friend. -/
theorem cancelled_request_makes_friend :
    (∃ cancelled, run (Pool.step (friendService plainIdentity "me" 0)) (freshPool {} ∅ 0) acceptedAfterCancel =
        some cancelled ∧
      (cancelled.shared.db.getFriendRequest "r1").map FriendRequest.status = some .cancelled ∧
      cancelled.shared.db.friends.holds "bob" = false) ∧
    (∃ final, run (Pool.step (friendService plainIdentity "me" 0)) (freshPool {} ∅ 0)
        (acceptedAfterCancel ++ resumed 1 6) = some final ∧
      final.shared.db.friends.holds "bob" = true) ∧
    ¬ Meets (Pool.step (friendService plainIdentity "me" 0)) (GrantStep (friendService plainIdentity "me" 0))
      (freshPool {} ∅ 0) (acceptedAfterCancel ++ resumed 1 6) := by
  refine ⟨?_, ?_, by decide +kernel⟩
  · have found : ((run (Pool.step (friendService plainIdentity "me" 0)) (freshPool {} ∅ 0) acceptedAfterCancel).any
        fun cancelled => decide ((cancelled.shared.db.getFriendRequest "r1").map FriendRequest.status = some .cancelled ∧
          cancelled.shared.db.friends.holds "bob" = false)) = true := by decide +kernel
    obtain ⟨cancelled, completed, known⟩ := (Option.any_eq_true _ _).mp found
    exact ⟨cancelled, completed, of_decide_eq_true known⟩
  · have found : ((run (Pool.step (friendService plainIdentity "me" 0)) (freshPool {} ∅ 0)
        (acceptedAfterCancel ++ resumed 1 6)).any fun final => final.shared.db.friends.holds "bob") = true := by
      decide +kernel
    obtain ⟨final, completed, befriended⟩ := (Option.any_eq_true _ _).mp found
    exact ⟨final, completed, befriended⟩

end MeshTalk.Friends
