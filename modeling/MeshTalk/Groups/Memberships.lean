import MeshTalk.Groups.Sweeps

namespace MeshTalk.Groups

open MeshTalk.Library MeshTalk.Protocol MeshTalk.Store MeshTalk.Store.Database MeshTalk.Library.Contract

/-! # What is relayed to a member was created since it joined

The query of a sweep compares with `joined_at`.  That is the start of the
member's current membership as long as the row of a member that left is not
made active again.
-/

/-- A copy belongs to the membership its receiver had when it was sent. -/
def Timely (copy : RelayedCopy) : Prop :=
  ∃ since, copy.memberSince = some since ∧ since ≤ copy.message.createdAt

structure Joined (node : GroupNode) : Prop where
  started : ∀ row ∈ node.db.groupMembers.rows, row.active = true →
    node.memberships.get? (row.groupId, row.peerId) = some row.joinedAt
  timely : ∀ copy ∈ node.relays, Timely copy

/-- What a sweep relies on: it stays where it is, and no membership of its
receiver starts there. -/
structure StaysMember (task : Nat) (before after : GroupNode) : Prop where
  place : after.sweeps.get? task = before.sweeps.get? task
  membership : ∀ sweep, before.sweeps.get? task = some sweep →
    after.memberships.get? (sweep.groupId, sweep.peerId) = before.memberships.get? (sweep.groupId, sweep.peerId)

/-- A membership starts with a new row, and not while a sweep for the member is
at its group. -/
def StartsAfresh : GroupPoint → GroupFate → GroupNode → Prop
  | .execute statement, _, node => ∀ member ∈ node.startsMembership statement,
      node.db.getGroupMember member.1 member.2 = none ∧
        ∀ sweep ∈ node.sweeps.values, (sweep.groupId, sweep.peerId) ≠ member
  | _, _, _ => True

def joining : Contract GroupNode GroupFate GroupPoint where
  invariant := Joined
  rely := StaysMember
  admits := StartsAfresh
  guarantees := fun _ _ _ _ => True

variable {self : Nat} {node : GroupNode} {point : GroupPoint} {fate : GroupFate}

/-- An action of a sweep that changes no member. -/
theorem member_step {before after : GroupNode} (joined : Joined before)
    (members : after.db.groupMembers = before.db.groupMembers) (memberships : after.memberships = before.memberships)
    (places : ∀ other, other ≠ self → after.sweeps.get? other = before.sweeps.get? other)
    (timely : ∀ copy ∈ after.relays, copy ∈ before.relays ∨ Timely copy) :
    joining.Step self point fate before after := by
  refine ⟨⟨fun row member active => ?_, fun copy member => ?_⟩, trivial, fun other differs =>
    ⟨places other differs, fun _ _ => by rw [memberships]⟩⟩
  · rw [members] at member
    rw [memberships]
    exact joined.started row member active
  · rcases timely copy member with earlier | now
    · exact joined.timely copy earlier
    · exact now

/-- A sweep at a group, whose receiver has been a member since a given time. -/
def AtGroup (holder : Nat) (peerId : PeerId) (groupId : String) (since : Option Time) (node : GroupNode) : Prop :=
  (∃ sweep, node.sweeps.get? holder = some sweep ∧ sweep.peerId = peerId ∧ sweep.groupId = groupId) ∧
    ∀ time ∈ since, node.memberships.get? (groupId, peerId) = some time

theorem AtGroup.stable {peerId : PeerId} {groupId : String} {since : Option Time} :
    joining.Stable self (AtGroup self peerId groupId since) := by
  rintro before after _ _ ⟨place, membership⟩ ⟨⟨sweep, found, rfl, rfl⟩, known⟩
  exact ⟨⟨sweep, place.trans found, rfl, rfl⟩, fun time same => (membership sweep found).trans (known time same)⟩

theorem AtGroup.unmoved {peerId : PeerId} {groupId : String} {since : Option Time} {before after : GroupNode}
    (moved : Unmoved before after) (held : AtGroup self peerId groupId since before) :
    AtGroup self peerId groupId since after := by
  unfold AtGroup
  rw [moved.sweeps, moved.memberships]
  exact held

theorem sendCopy_eq {peer : GroupPeer} {stored : GroupMessage} {payload : GroupMessagePayload}
    (goes : fate.sendFails = false) : sendCopy peer stored payload fate node =
      (.ok true, { node with
        recentRelays := node.recentRelays.set (stored.messageId, peer.peerId) fate.now
        relayBudgets := node.relayBudgets.set peer.peerId ((node.relayBudgets.get? peer.peerId).getD [] ++ [fate.now])
        relays := node.relays ++
          [{ peerId := peer.peerId, message := stored, payload
             memberSince := node.memberships.get? (payload.groupId, peer.peerId) }]
        examined := node.examined ++ [{ peerId := peer.peerId, message := stored, outcome := .sent }] }) := by
  rw [sendCopy, if_neg (Bool.eq_false_iff.mp goes)]
  rfl

section Rules

variable {crypto : FileCrypto} {identity : Identity crypto} {dumps : Json → Bytes}
  {encryptForRecipient : Bytes → Bytes → Json → Bytes}

def joiningRules : SweepRules identity dumps encryptForRecipient joining self where
  arrived := fun peerId groupId target node => AtGroup self peerId groupId
    ((target.filter GroupMember.active).map GroupMember.joinedAt) node
  resumed := fun peerId groupId member _ => AtGroup self peerId groupId (some member.joinedAt)
  relaying := fun peerId groupId rest _ node => ∃ since, AtGroup self peerId groupId (some since) node ∧
    ∀ message ∈ rest, since ≤ message.createdAt
  verdict := fun _ _ _ _ => True
  unmoved := fun _ _ before after joined moved => member_step joined (by rw [moved.db]) moved.memberships
    (fun _ _ => by rw [moved.sweeps]) fun copy member => .inl (moved.relays ▸ member)
  arrivedStable := fun _ _ _ => AtGroup.stable
  arrivedUnmoved := fun _ _ _ _ _ => AtGroup.unmoved
  resumedStable := fun _ _ _ _ => AtGroup.stable
  relayingStable := fun _ _ _ _ before after kept still relied ⟨since, place, timely⟩ =>
    ⟨since, AtGroup.stable before after kept still relied place, timely⟩
  relayingUnmoved := fun _ _ _ _ _ _ moved ⟨since, place, timely⟩ => ⟨since, place.unmoved moved, timely⟩
  verdictStable := fun _ _ _ _ _ _ _ _ _ => trivial
  verdictUnmoved := fun _ _ _ _ _ _ _ => trivial
  ineligible := fun _ _ _ => trivial
  raisedQuery := fun _ _ _ _ _ _ => trivial
  raisedPrepare := fun _ _ _ _ _ _ _ _ => trivial
  suppressed := fun _ _ _ _ _ _ _ _ _ => trivial
  arrives := by
    intro peerId groupId fate before joined
    refine ⟨member_step joined rfl rfl (fun other differs => ?_) fun _ => .inl,
      ⟨{ peerId, groupId, fetched := [] }, ?_, rfl, rfl⟩, fun time known => ?_⟩
    · rw [Dict.get?_set, if_neg differs]
    · rw [Dict.get?_set, if_pos rfl]
    · obtain ⟨row, chosen, rfl⟩ := Option.map_eq_some_iff.mp known
      obtain ⟨found, active⟩ := Option.filter_eq_some_iff.mp chosen
      obtain ⟨member, same⟩ := Table.find?_some_iff.mp found
      cases same
      exact joined.started row member active
  resumes := fun _ _ member before active arrived =>
    ⟨arrived.1, fun time same => arrived.2 time (by simpa [Option.filter, active] using same)⟩
  fetches := by
    intro peerId groupId member limit cursor fate before joined resumed
    let messages := before.db.getGroupMessagesForRelay groupId member.joinedAt limit cursor
    refine ⟨member_step joined rfl rfl (fun other differs => ?_) fun _ => .inl, member.joinedAt,
      ⟨⟨{ peerId, groupId, fetched := messages.map GroupMessage.rowid }, ?_, rfl, rfl⟩, ?_⟩, fun message fetched =>
        (mem_relayCandidates.mp (mem_of_getGroupMessagesForRelay fetched)).2.2.2.1⟩
    · rw [Dict.get?_set, if_neg differs]
    · rw [Dict.get?_set, if_pos rfl]
    · exact resumed.2
  examines := fun _ _ _ _ _ _ _ _ joined ⟨since, place, timely⟩ _ =>
    ⟨member_step joined rfl rfl (fun _ _ => rfl) fun _ => .inl, since, place, fun message later =>
      timely message (List.mem_cons_of_mem _ later)⟩
  sends := by
    rintro peer payload groupId stored rest covered fate before joined ⟨since, place, timely⟩ prepared _ goes
    have about : payload.groupId = groupId := prepared.groupId
    rw [sendCopy_eq goes]
    refine ⟨member_step joined rfl rfl (fun _ _ => rfl) fun copy member => ?_, since, place, fun message later =>
      timely message (List.mem_cons_of_mem _ later)⟩
    rcases List.mem_append.mp member with earlier | added
    · exact .inl earlier
    · cases List.mem_singleton.mp added
      exact .inr ⟨since, about ▸ place.2 since rfl, timely stored (List.mem_cons_self ..)⟩
  advances := fun _ _ _ _ _ _ joined _ => member_step joined rfl rfl (fun _ _ => rfl) fun _ => .inl
  leaves := fun _ _ joined => member_step joined rfl rfl (fun other differs => by rw [Dict.get?_erase, if_neg differs])
    fun _ => .inl

end Rules

/-! ## Everything else -/

/-- A statement that leaves no member active that was not. -/
theorem roster_step {statement : GroupStatement} {before : GroupNode} (joined : Joined before)
    (starts : before.startsMembership statement = none)
    (rows : ∀ row ∈ (statement.apply fate.now before.db).groupMembers.rows, row.active = true →
      ∃ old ∈ before.db.groupMembers.rows, old.active = true ∧ old.groupId = row.groupId ∧ old.peerId = row.peerId ∧
        old.joinedAt = row.joinedAt) :
    joining.Step self (.execute statement) fate before (before.execute statement fate.now) := by
  have memberships : (before.execute statement fate.now).memberships = before.memberships := by
    simp only [GroupNode.execute, starts]
  refine ⟨⟨fun row member active => ?_, joined.timely⟩, trivial, fun _ _ => ⟨rfl, fun _ _ => by rw [memberships]⟩⟩
  obtain ⟨old, present, was, group, peer, time⟩ := rows row member active
  rw [memberships, ← group, ← peer, ← time]
  exact joined.started old present was

/-- The start of a membership that no sweep is concerned with. -/
theorem start_step {groupId : String} {peerId : PeerId} {before : GroupNode} (joined : Joined before)
    (starts : before.startsMembership (.upsertMember groupId peerId true) = some (groupId, peerId))
    (admitted : StartsAfresh (.execute (.upsertMember groupId peerId true)) fate before) :
    joining.Step self (.execute (.upsertMember groupId peerId true)) fate before
      (before.execute (.upsertMember groupId peerId true) fate.now) := by
  obtain ⟨absent, apart⟩ := admitted _ starts
  have memberships : (before.execute (.upsertMember groupId peerId true) fate.now).memberships =
      before.memberships.set (groupId, peerId) fate.now := by
    simp only [GroupNode.execute, starts]
  refine ⟨⟨fun row member active => ?_, joined.timely⟩, trivial, fun other _ => ⟨rfl, fun sweep found => ?_⟩⟩
  · rw [memberships, Dict.get?_set]
    rcases mem_insertGroupMember member with old | ⟨-, group, peer, -, ⟨-, time⟩ | ⟨known, found, -⟩⟩
    · rw [if_neg fun same => Table.find?_none_iff.mp absent row old same]
      exact joined.started row old active
    · rw [if_pos (by rw [group, peer]), time]
    · rw [absent] at found
      cases found
  · rw [memberships, Dict.get?_set, if_neg (apart sweep (Dict.mem_values_iff.mpr ⟨other, found⟩))]

theorem upsert_step {groupId : String} {peerId : PeerId} {active : Bool} {before : GroupNode} (joined : Joined before)
    (admitted : StartsAfresh (.execute (.upsertMember groupId peerId active)) fate before) :
    joining.Step self (.execute (.upsertMember groupId peerId active)) fate before
      (before.execute (.upsertMember groupId peerId active) fate.now) := by
  cases starts : before.startsMembership (.upsertMember groupId peerId active) with
  | some member =>
      have fits : active = true ∧ member = (groupId, peerId) := by
        simp only [GroupNode.startsMembership] at starts
        split at starts
        · rename_i condition
          simp only [Bool.and_eq_true] at condition
          exact ⟨condition.1.1, (Option.some.inj starts).symm⟩
        · cases starts
      obtain ⟨rfl, rfl⟩ := fits
      exact start_step joined starts admitted
  | none =>
      refine roster_step joined starts fun row member now => ?_
      have idle : active = true → before.db.rosterAdmits groupId peerId active = true →
          before.memberActive groupId peerId = true := by
        intro flag admits
        by_contra inactive
        rw [GroupNode.startsMembership, admits, flag, Bool.eq_false_iff.mpr inactive] at starts
        cases starts
      rcases mem_insertGroupMember member with old | ⟨admits, group, peer, flag, absent | ⟨known, found, time⟩⟩
      · exact ⟨row, old, now, rfl, rfl, rfl⟩
      · have was := idle (flag.symm.trans now) admits
        rw [GroupNode.memberActive, absent.1] at was
        cases was
      · have was := idle (flag.symm.trans now) admits
        rw [GroupNode.memberActive, found] at was
        obtain ⟨present, same⟩ := Table.find?_some_iff.mp found
        cases same
        exact ⟨known, present, was, group.symm, peer.symm, time.symm⟩

theorem statement_joins {statement : GroupStatement} {before : GroupNode} (joined : Joined before)
    (admitted : StartsAfresh (.execute statement) fate before) :
    joining.Step self (.execute statement) fate before (before.execute statement fate.now) := by
  have same : ∀ {row : GroupMember}, row ∈ before.db.groupMembers.rows → row.active = true →
      ∃ old ∈ before.db.groupMembers.rows, old.active = true ∧ old.groupId = row.groupId ∧ old.peerId = row.peerId ∧
        old.joinedAt = row.joinedAt := fun member active => ⟨_, member, active, rfl, rfl, rfl⟩
  cases statement with
  | upsertMember groupId peerId active => exact upsert_step joined admitted
  | trimMembers => exact roster_step joined rfl fun row member => same (Table.mem_deleteWhere.mp member).1
  | markLeft groupId peerId =>
      refine roster_step joined rfl fun row member active => ?_
      rcases mem_markGroupMemberLeft member with old | left
      · exact same old active
      · rw [left] at active
        cases active
  | removeGroup groupId => exact roster_step joined rfl fun row member => same (Table.mem_deleteWhere.mp member).1
  | save message =>
      refine roster_step joined rfl fun row member => same ?_
      have members : (GroupStatement.apply fate.now (.save message) before.db).groupMembers = before.db.groupMembers :=
        saveGroupMessage_members
      exact members ▸ member
  | delete messageId groupId => exact roster_step joined rfl fun _ => same
  | setCursor peerId groupId lastRowid => exact roster_step joined rfl fun _ => same
  | renumber rename => exact roster_step joined rfl fun _ => same
  | configure groups blockedPeers peers => exact roster_step joined rfl fun _ => same

theorem execute_keeps {statement : GroupStatement} {state : GroupNode} : joining.Keeps self (execute statement) state :=
  Honours.perform (P := fun _ => True) trivial (fun _ _ _ _ _ _ => trivial) fun _ _ joined _ admitted =>
    ⟨statement_joins joined admitted, trivial⟩

section Runs

variable {crypto : FileCrypto} {identity : Identity crypto} {dumps : Json → Bytes}
  {encryptForRecipient : Bytes → Bytes → Json → Bytes}

theorem groupService_joins : Pool.Fulfils joining (groupService identity dumps encryptForRecipient) where
  starts := by
    intro request self state _
    cases request with
    | sweep peer => exact joiningRules.relayForPeer
    | upsertMember groupId peerId active => exact Honours.bind (execute_keeps.weaken (fun _ _ _ => execute_keeps) fun _ _ => id)
    | change statement =>
        cases statement with
        | setCursor peerId groupId lastRowid => trivial
        | upsertMember groupId peerId active => trivial
        | _ => exact execute_keeps
  reboots := fun _ joined => ⟨joined.started, joined.timely⟩

/-- In every run in which memberships start with a new row, and not under a
sweep for the member, whatever is relayed was created since its receiver joined. -/
theorem relayed_since_joining {start final : Pool GroupNode GroupFate GroupPoint GroupError}
    {events : List (PoolEvent GroupFate GroupRequest)} (idle : start.tasks = []) (joined : Joined start.shared)
    (meets : Meets (Pool.step (groupService identity dumps encryptForRecipient)) (Pool.Allowed StartsAfresh) start events)
    (completed : run (Pool.step (groupService identity dumps encryptForRecipient)) start events = some final) :
    ∀ copy ∈ final.shared.relays, Timely copy :=
  (Pool.run_sound groupService_joins ⟨joined, fun index task found => by rw [idle] at found; cases found⟩ meets
    completed).invariant.timely

/-! ### Bob joins once, and joins twice -/

instance : Decidable (StartsAfresh point fate node) := by
  induction point using GroupPoint.casesOn <;> dsimp only [StartsAfresh] <;> infer_instance

instance {copy : RelayedCopy} : Decidable (Timely copy) :=
  decidable_of_iff (copy.memberSince.any fun since => decide (since ≤ copy.message.createdAt)) (by
    simp [Timely, Option.any_eq_true])

/-- Carol's message reaches this relay and is passed on to Bob. -/
def savedAndSwept : List (PoolEvent GroupFate GroupRequest) :=
  threeJoin ++ [.start (.change (.save (carolMessage "m" 100003))), .start (.sweep bobAsGroupPeer)] ++
    groupTurns 3 1 100005 ++ groupTurns 4 16 100006

theorem bob_receives_what_followed_his_joining :
    ∃ final, run (Pool.step (groupService plainIdentity (fun _ => []) fun _ content _ => content)) ⟨emptyGroupNode, []⟩
        savedAndSwept = some final ∧ final.shared.relays.length = 1 ∧ ∀ copy ∈ final.shared.relays, Timely copy := by
  have reached : (run (Pool.step (groupService plainIdentity (fun _ => []) fun _ content _ => content))
      ⟨emptyGroupNode, []⟩ savedAndSwept).any (fun final => decide (final.shared.relays.length = 1)) = true := by
    decide +kernel
  have meets : Meets (Pool.step (groupService plainIdentity (fun _ => []) fun _ content _ => content))
      (Pool.Allowed StartsAfresh) ⟨emptyGroupNode, []⟩ savedAndSwept := by
    decide +kernel
  obtain ⟨final, completed, one⟩ := Option.any_eq_true .. |>.mp reached
  exact ⟨final, completed, of_decide_eq_true one, relayed_since_joining rfl ⟨fun _ member => (List.not_mem_nil member).elim,
    fun _ member => (List.not_mem_nil member).elim⟩ meets completed⟩

/-- Bob leaves, Carol's message follows, and Bob joins again before the sweep. -/
def leftAndRejoined : List (PoolEvent GroupFate GroupRequest) :=
  threeJoin ++ [.start (.change (.markLeft "team" "bob")), .start (.change (.save (carolMessage "m" 100003))),
    .start (.upsertMember "team" "bob" true), .start (.sweep bobAsGroupPeer)] ++
    groupTurns 3 1 100002 ++ groupTurns 4 1 100003 ++ groupTurns 5 2 100004 ++ groupTurns 6 16 100006

theorem bob_receives_what_he_missed :
    ∃ final, run (Pool.step (groupService plainIdentity (fun _ => []) fun _ content _ => content)) ⟨emptyGroupNode, []⟩
        leftAndRejoined = some final ∧
      ∃ copy ∈ final.shared.relays, copy.peerId = "bob" ∧ copy.memberSince = some 100004 ∧
        copy.message.createdAt = 100003 := by
  have checked : (run (Pool.step (groupService plainIdentity (fun _ => []) fun _ content _ => content))
      ⟨emptyGroupNode, []⟩ leftAndRejoined).any (fun final => final.shared.relays.any fun copy =>
        decide (copy.peerId = "bob" ∧ copy.memberSince = some 100004 ∧ copy.message.createdAt = 100003)) = true := by
    decide +kernel
  obtain ⟨final, completed, found⟩ := Option.any_eq_true .. |>.mp checked
  obtain ⟨copy, member, missed⟩ := List.any_eq_true.mp found
  exact ⟨final, completed, copy, member, of_decide_eq_true missed⟩

end Runs

end MeshTalk.Groups
