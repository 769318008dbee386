import MeshTalk.Store.GroupHistory

namespace MeshTalk.Store.Database

open MeshTalk.Library MeshTalk.Protocol

/-! # Group members and relay cursors

As for the file tables, each definition is one statement.
-/

def maxGroupMembers : Nat := 256
def maxTotalGroupMembers : Nat := 2048
def maxInactiveGroupMembers : Nat := 2048
def maxSigningOnlyPeers : Nat := 512

/-- The `WHERE` of the insert of `upsert_group_member`. -/
def rosterAdmits (db : Database) (groupId : String) (peerId : PeerId) (active : Bool) : Bool :=
  (db.getGroupMember groupId peerId).any (fun row => row.active || !active) ||
    (db.groupMembers.count (fun row => row.groupId = groupId && row.active) < maxGroupMembers &&
      db.groupMembers.count (fun row => row.active) < maxTotalGroupMembers)

def isActiveMember (db : Database) (groupId : String) (peerId : PeerId) : Bool :=
  (db.getGroupMember groupId peerId).any GroupMember.active

/-- The insert of `upsert_group_member`; on a conflict `joined_at` keeps its value. -/
def insertGroupMember (db : Database) (groupId : String) (peerId : PeerId) (active : Bool) (now : Time) : Database :=
  if db.rosterAdmits groupId peerId active then
    match db.getGroupMember groupId peerId with
    | none => { db with
        groupMembers := db.groupMembers.insertOrIgnore
          { groupId, peerId, active, joinedAt := now, lastSeen := now, leftAt := none } }
    | some _ => { db with
        groupMembers := db.groupMembers.updateWhere (fun row => row.groupId = groupId && row.peerId = peerId)
          (fun row => { row with lastSeen := now, active, leftAt := none }) fun _ => rfl }
  else db

/-- Inactive members, the one that left last first. -/
def inactiveMembers (db : Database) : List GroupMember :=
  (db.groupMembers.rows.filter fun row => !row.active).mergeSort fun first second =>
    decide (second.leftAt.getD second.lastSeen ≤ first.leftAt.getD first.lastSeen)

/-- The delete of `upsert_group_member`. -/
def trimInactiveMembers (db : Database) : Database :=
  let trimmed := db.inactiveMembers.drop maxInactiveGroupMembers
  { db with groupMembers := db.groupMembers.deleteWhere fun row => decide (row ∈ trimmed) }

def markGroupMemberLeft (db : Database) (groupId : String) (peerId : PeerId) (now : Time) : Database :=
  { db with
    groupMembers := db.groupMembers.updateWhere (fun row => row.groupId = groupId && row.peerId = peerId)
      (fun row => { row with active := false, leftAt := some now }) fun _ => rfl }

def getRelayCursor (db : Database) (peerId : PeerId) (groupId : String) : Option Nat :=
  (db.groupRelayCursors.find? (peerId, groupId)).map RelayCursor.lastRowid

/-- `set_relay_cursor` only moves forward. -/
def setRelayCursor (db : Database) (peerId : PeerId) (groupId : String) (lastRowid : Nat) (now : Time) : Database :=
  { db with
    groupRelayCursors := db.groupRelayCursors.insertOrReplace
      { peerId, groupId, lastRowid := max ((db.getRelayCursor peerId groupId).getD 0) lastRowid, updatedAt := now } }

/-- The rows `get_group_messages_for_relay` selects from, in insertion order. -/
def relayCandidates (db : Database) (groupId : String) (since : Time) (after : Option Nat) : List GroupMessage :=
  let selected := db.groupMessages.rows.filter fun row =>
    row.groupId = groupId && decide (row.kind = .message) && decide (since ≤ row.createdAt) &&
      after.all fun rowid => decide (rowid < row.rowid)
  selected.mergeSort fun first second => decide (first.rowid ≤ second.rowid)

def getGroupMessagesForRelay (db : Database) (groupId : String) (since : Time) (limit : Nat) (after : Option Nat) :
    List GroupMessage :=
  (db.relayCandidates groupId since after).take limit

/-- What `VACUUM` may do to a table without an integer primary key. -/
def renumberGroupMessages (db : Database) (rename : Nat → Nat) : Database :=
  { db with
    groupMessages := db.groupMessages.updateWhere (fun _ => true)
      (fun row => { row with rowid := rename row.rowid }) fun _ => rfl }

/-- The insert of `upsert_peer_signing_key`. -/
def insertSigningKey (db : Database) (peerId : PeerId) (signingPublicKey : Bytes) : Database :=
  let known := db.peers.find? peerId
  if db.peers.count (fun row => row.publicKey.isNone) < maxSigningOnlyPeers ∨ known.isSome then
    { db with
      peers := db.peers.insertOrReplace
        { peerId, publicKey := known.bind PeerRecord.publicKey, signingPublicKey := some signingPublicKey } }
  else db

/-- What SQLite promises of row ids. -/
def RowidsDistinct (db : Database) : Prop :=
  ∀ first ∈ db.groupMessages.rows, ∀ second ∈ db.groupMessages.rows, first.rowid = second.rowid → first = second

variable {db : Database} {groupId : String} {peerId : PeerId} {active : Bool} {now : Time} {row : GroupMember}

theorem mem_markGroupMemberLeft (member : row ∈ (db.markGroupMemberLeft groupId peerId now).groupMembers.rows) :
    row ∈ db.groupMembers.rows ∨ row.active = false := by
  simp only [markGroupMemberLeft, Table.mem_updateWhere] at member
  obtain ⟨old, present, rfl⟩ := member
  split
  · exact .inr rfl
  · exact .inl present

/-- A row of the roster after an insert is an old one, the new one, or that of a
known member. -/
theorem mem_insertGroupMember (member : row ∈ (db.insertGroupMember groupId peerId active now).groupMembers.rows) :
    row ∈ db.groupMembers.rows ∨
      (db.rosterAdmits groupId peerId active = true ∧ row.groupId = groupId ∧ row.peerId = peerId ∧
        row.active = active ∧
          ((db.getGroupMember groupId peerId = none ∧ row.joinedAt = now) ∨
            ∃ old, db.getGroupMember groupId peerId = some old ∧ row.joinedAt = old.joinedAt)) := by
  unfold insertGroupMember at member
  split at member
  · rename_i admits
    cases stored : db.getGroupMember groupId peerId with
    | none =>
        rw [stored] at member
        rcases Table.mem_insertOrIgnore.mp member with old | ⟨rfl, -⟩
        · exact .inl old
        · exact .inr ⟨admits, rfl, rfl, rfl, .inl ⟨rfl, rfl⟩⟩
    | some known =>
        simp only [stored, Table.mem_updateWhere] at member
        obtain ⟨old, present, rfl⟩ := member
        split
        · rename_i chosen
          simp only [Bool.and_eq_true, decide_eq_true_eq] at chosen
          have located : db.getGroupMember groupId peerId = some old :=
            Table.find?_some_iff.mpr ⟨present, by rw [← chosen.1, ← chosen.2]⟩
          exact .inr ⟨admits, chosen.1, chosen.2, rfl, .inr ⟨old, stored ▸ located, rfl⟩⟩
        · exact .inl present
  · exact .inl member

/-! ## Who is active -/

section Active

variable {group : String} {peer : PeerId}

theorem rosterAdmits_of_active (known : db.isActiveMember groupId peerId = true) :
    db.rosterAdmits groupId peerId true = true := by
  simp only [isActiveMember, Option.any_eq_true] at known
  obtain ⟨row, found, activeRow⟩ := known
  simp [rosterAdmits, found, activeRow]

theorem isActiveMember_insert : (db.insertGroupMember groupId peerId true now).isActiveMember group peer =
    if (group, peer) = (groupId, peerId) ∧ db.rosterAdmits groupId peerId true = true then true
    else db.isActiveMember group peer := by
  unfold insertGroupMember
  cases admits : db.rosterAdmits groupId peerId true with
  | false => simp
  | true =>
      cases found : db.getGroupMember groupId peerId with
      | none =>
          simp only [isActiveMember, getGroupMember, if_true, and_true, Table.find?_insertOrIgnore]
          by_cases same : (group, peer) = (groupId, peerId)
          · cases same
            rw [if_pos rfl, if_pos rfl]
            change ((db.getGroupMember groupId peerId).or _).any _ = _
            rw [found]
            rfl
          · rw [if_neg same, if_neg same, Option.or_none]
      | some row =>
          simp only [isActiveMember, getGroupMember, if_true, and_true, Table.find?_updateWhere]
          by_cases same : (group, peer) = (groupId, peerId)
          · cases same
            rw [if_pos rfl]
            change (Option.map _ (db.getGroupMember groupId peerId)).any _ = _
            obtain ⟨-, key⟩ := Table.find?_some_iff.mp found
            cases key
            rw [found]
            simp
          · rw [if_neg same]
            cases other : db.groupMembers.find? (group, peer) with
            | none => rfl
            | some row =>
                obtain ⟨-, key⟩ := Table.find?_some_iff.mp other
                cases key
                have differs : ¬ (row.groupId = groupId ∧ row.peerId = peerId) := fun both =>
                  same (Prod.ext both.1 both.2)
                simp [differs]

theorem isActiveMember_markLeft : (db.markGroupMemberLeft groupId peerId now).isActiveMember group peer =
    if (group, peer) = (groupId, peerId) then false else db.isActiveMember group peer := by
  simp only [markGroupMemberLeft, isActiveMember, getGroupMember, Table.find?_updateWhere]
  cases found : db.groupMembers.find? (group, peer) with
  | none => simp
  | some row =>
      obtain ⟨-, key⟩ := Table.find?_some_iff.mp found
      cases key
      by_cases same : (row.groupId, row.peerId) = (groupId, peerId)
      · cases same
        simp
      · have differs : ¬ (row.groupId = groupId ∧ row.peerId = peerId) := fun both => same (Prod.ext both.1 both.2)
        rw [if_neg same]
        simp [differs]

theorem isActiveMember_trim : db.trimInactiveMembers.isActiveMember group peer = db.isActiveMember group peer := by
  simp only [trimInactiveMembers, isActiveMember, getGroupMember, Table.find?_deleteWhere]
  cases found : db.groupMembers.find? (group, peer) with
  | none => rfl
  | some row =>
      by_cases doomed : row ∈ db.inactiveMembers.drop maxInactiveGroupMembers
      · have inactive := (List.mem_filter.mp (List.mem_mergeSort.mp (List.mem_of_mem_drop doomed))).2
        simp only [Bool.not_eq_true'] at inactive
        simp [Option.filter, doomed, inactive]
      · simp [Option.filter, doomed]

theorem isActiveMember_remove : (db.removeGroup groupId).isActiveMember group peer =
    if group = groupId then false else db.isActiveMember group peer := by
  simp only [removeGroup, isActiveMember, getGroupMember, Table.find?_deleteWhere]
  cases found : db.groupMembers.find? (group, peer) with
  | none => simp
  | some row =>
      obtain ⟨-, key⟩ := Table.find?_some_iff.mp found
      cases key
      by_cases same : row.groupId = groupId <;> simp [Option.filter, same]

theorem isActiveMember_signingKey {signingPublicKey : Bytes} :
    (db.insertSigningKey peerId signingPublicKey).isActiveMember group peer = db.isActiveMember group peer := by
  simp only [insertSigningKey]
  split <;> rfl

theorem isActiveMember_save {message : GroupMessage} :
    (db.saveGroupMessage message).1.isActiveMember group peer = db.isActiveMember group peer := by
  rw [isActiveMember, isActiveMember, getGroupMember, getGroupMember, saveGroupMessage_members]

end Active

theorem insertGroupMember_messages :
    (db.insertGroupMember groupId peerId active now).groupMessages = db.groupMessages := by
  unfold insertGroupMember
  split
  · split <;> rfl
  · rfl

theorem insertGroupMember_cursors :
    (db.insertGroupMember groupId peerId active now).groupRelayCursors = db.groupRelayCursors := by
  unfold insertGroupMember
  split
  · split <;> rfl
  · rfl

section Relay

variable {since : Time} {limit : Nat} {after : Option Nat} {message last : GroupMessage}

theorem mem_relayCandidates : message ∈ db.relayCandidates groupId since after ↔
    message ∈ db.groupMessages.rows ∧ message.groupId = groupId ∧ message.kind = .message ∧
      since ≤ message.createdAt ∧ ∀ rowid ∈ after, rowid < message.rowid := by
  simp only [relayCandidates, List.mem_mergeSort, List.mem_filter, Bool.and_eq_true, decide_eq_true_eq,
    Option.all_eq_true, Option.mem_def, and_assoc]

/-- Rows come in the order of their ids, each once. -/
theorem relayCandidates_ordered (distinct : db.RowidsDistinct) :
    (db.relayCandidates groupId since after).Pairwise fun first second => first.rowid < second.rowid := by
  have sorted : (db.relayCandidates groupId since after).Pairwise fun first second =>
      decide (first.rowid ≤ second.rowid) = true :=
    List.pairwise_mergeSort (fun _ _ _ first second => by simp only [decide_eq_true_eq] at *; omega)
      (fun _ _ => by simp only [Bool.or_eq_true, decide_eq_true_eq]; omega) _
  have once : (db.relayCandidates groupId since after).Nodup :=
    ((List.mergeSort_perm _ _).nodup_iff).mpr ((List.Nodup.of_map _ db.groupMessages.unique).filter _)
  refine (sorted.and once).imp_of_mem fun {first second} earlier later ⟨ordered, differs⟩ => ?_
  have apart : first.rowid ≠ second.rowid := fun same =>
    differs (distinct first (mem_relayCandidates.mp earlier).1 second (mem_relayCandidates.mp later).1 same)
  have bound : first.rowid ≤ second.rowid := of_decide_eq_true ordered
  omega

theorem getGroupMessagesForRelay_ordered (distinct : db.RowidsDistinct) :
    (db.getGroupMessagesForRelay groupId since limit after).Pairwise fun first second => first.rowid < second.rowid :=
  (relayCandidates_ordered distinct).sublist (List.take_sublist _ _)

theorem mem_of_getGroupMessagesForRelay (fetched : message ∈ db.getGroupMessagesForRelay groupId since limit after) :
    message ∈ db.relayCandidates groupId since after :=
  List.mem_of_mem_take fetched

/-- No candidate before a fetched row is left out. -/
theorem getGroupMessagesForRelay_covers (distinct : db.RowidsDistinct)
    (candidate : message ∈ db.relayCandidates groupId since after)
    (fetched : last ∈ db.getGroupMessagesForRelay groupId since limit after) (before : message.rowid ≤ last.rowid) :
    message ∈ db.getGroupMessagesForRelay groupId since limit after := by
  have ordered := @relayCandidates_ordered db groupId since after distinct
  rw [← List.take_append_drop limit (db.relayCandidates groupId since after)] at candidate ordered
  rcases List.mem_append.mp candidate with taken | dropped
  · exact taken
  · have behind := (List.pairwise_append.mp ordered).2.2 last fetched message dropped
    omega

end Relay

end MeshTalk.Store.Database
