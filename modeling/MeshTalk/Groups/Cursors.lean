import MeshTalk.Groups.Sweeps

namespace MeshTalk.Groups

open MeshTalk.Library MeshTalk.Protocol MeshTalk.Store MeshTalk.Store.Database MeshTalk.Library.Contract

/-! # A relay cursor passes only what a sweep has dealt with

A cursor is a row id, and row ids come back: after the newest row is deleted,
and when the table is rebuilt.  Between such reuses the cursor stands for the
messages examined so far.
-/

/-- The same message, wherever its row is. -/
def SameMessage (first second : GroupMessage) : Prop :=
  { first with rowid := 0 } = { second with rowid := 0 }

theorem SameMessage.refl {message : GroupMessage} : SameMessage message message := rfl

theorem SameMessage.trans {first second third : GroupMessage} (former : SameMessage first second)
    (latter : SameMessage second third) : SameMessage first third :=
  Eq.trans former latter

theorem SameMessage.messageId {first second : GroupMessage} (same : SameMessage first second) :
    first.messageId = second.messageId := by
  simp only [SameMessage, GroupMessage.mk.injEq] at same
  exact same.1

theorem SameMessage.groupId {first second : GroupMessage} (same : SameMessage first second) :
    first.groupId = second.groupId := by
  simp only [SameMessage, GroupMessage.mk.injEq] at same
  exact same.2.1

/-- A sweep has sent the message to the peer. -/
def Sent (examined : List Examination) (peerId : PeerId) (messageId : String) : Prop :=
  ∃ entry ∈ examined, entry.peerId = peerId ∧ entry.message.messageId = messageId ∧ entry.outcome = .sent

/-- What an outcome stands for. -/
def Dealt (examined : List Examination) (peerId : PeerId) (messageId : String) : Outcome → Prop
  | .sent | .ineligible => True
  | .sentBefore => Sent examined peerId messageId
  | .raised => False

/-- A sweep for the peer has examined the message, and has sent it, found it sent
before, or found it ineligible. -/
def Settled (examined : List Examination) (peerId : PeerId) (message : GroupMessage) : Prop :=
  ∃ entry ∈ examined, entry.peerId = peerId ∧ SameMessage entry.message message ∧
    Dealt examined peerId message.messageId entry.outcome

section Settled

variable {examined more : List Examination} {peerId : PeerId} {messageId : String} {message other : GroupMessage}

theorem Sent.mono (grows : examined ⊆ more) (sent : Sent examined peerId messageId) : Sent more peerId messageId := by
  obtain ⟨entry, member, known⟩ := sent
  exact ⟨entry, grows member, known⟩

theorem Dealt.mono {outcome : Outcome} (grows : examined ⊆ more) (dealt : Dealt examined peerId messageId outcome) :
    Dealt more peerId messageId outcome := by
  cases outcome with
  | sentBefore => exact Sent.mono grows dealt
  | sent | ineligible | raised => exact dealt

theorem Settled.mono (grows : examined ⊆ more) (settled : Settled examined peerId message) :
    Settled more peerId message := by
  obtain ⟨entry, member, about, same, dealt⟩ := settled
  exact ⟨entry, grows member, about, same, dealt.mono grows⟩

theorem Settled.same (same : SameMessage message other) (settled : Settled examined peerId message) :
    Settled examined peerId other := by
  obtain ⟨entry, member, about, known, dealt⟩ := settled
  exact ⟨entry, member, about, known.trans same, same.messageId ▸ dealt⟩

end Settled

structure Covered (node : GroupNode) : Prop where
  distinct : node.db.RowidsDistinct
  passed : ∀ cursor ∈ node.db.groupRelayCursors.rows, ∀ message ∈ node.db.groupMessages.rows,
    message.groupId = cursor.groupId → message.rowid ≤ cursor.lastRowid →
      Settled node.examined cursor.peerId message
  recent : ∀ messageId peerId time, node.recentRelays.get? (messageId, peerId) = some time →
    Sent node.examined peerId messageId

/-- No other message has come to lie at or before a row id. -/
def Stays (groupId : String) (rowid : Nat) (before after : Database) : Prop :=
  ∀ message ∈ after.groupMessages.rows, message.groupId = groupId → message.rowid ≤ rowid →
    ∃ old ∈ before.groupMessages.rows, SameMessage old message ∧ old.rowid ≤ rowid

theorem Stays.of_subset {groupId : String} {rowid : Nat} {before after : Database}
    (subset : ∀ message ∈ after.groupMessages.rows, message ∈ before.groupMessages.rows) :
    Stays groupId rowid before after :=
  fun message member _ bound => ⟨message, subset message member, .refl, bound⟩

/-- What a sweep relies on. -/
structure Undisturbed (task : Nat) (before after : GroupNode) : Prop where
  place : after.sweeps.get? task = before.sweeps.get? task
  examined : before.examined ⊆ after.examined
  cursors : ∀ peerId groupId low, before.db.getRelayCursor peerId groupId = some low →
    ∃ high, after.db.getRelayCursor peerId groupId = some high ∧ low ≤ high
  stays : ∀ sweep, before.sweeps.get? task = some sweep → ∀ rowid ∈ sweep.fetched,
    Stays sweep.groupId rowid before.db after.db

/-- The row ids that stand for examined messages of a group, or will. -/
def GroupNode.marks (node : GroupNode) (groupId : String) : List Nat :=
  (node.db.groupRelayCursors.rows.filter fun cursor => cursor.groupId = groupId).map RelayCursor.lastRowid ++
    (node.sweeps.values.filter fun sweep => sweep.groupId = groupId).flatMap Sweep.fetched

/-- No message gets a row id that a mark of its group has passed, and no
examination raises. -/
def KeepsOrder : GroupPoint → GroupFate → GroupNode → Prop
  | .execute (.save message), _, node => node.db.groupMessages.holds message.messageId = false →
      ∀ rowid ∈ node.marks message.groupId,
        rowid < nextId (node.db.groupMessages.rows.map GroupMessage.rowid) 0
  | .execute (.renumber rename), _, node =>
      (∀ first ∈ node.db.groupMessages.rows, ∀ second ∈ node.db.groupMessages.rows,
        rename first.rowid = rename second.rowid → first.rowid = second.rowid) ∧
      ∀ message ∈ node.db.groupMessages.rows, ∀ rowid ∈ node.marks message.groupId,
        rowid < message.rowid → rowid < rename message.rowid
  | .query, fate, _ => fate.raises = false
  | .prepare _ _ now _, fate, _ => fate.raises = false ∧ relayResendSuppressSeconds ≤ now
  | _, _, _ => True

def covering : Contract GroupNode GroupFate GroupPoint where
  invariant := Covered
  rely := Undisturbed
  admits := KeepsOrder
  guarantees := fun _ _ _ _ => True

variable {self : Nat} {node : GroupNode} {point : GroupPoint} {fate : GroupFate}

/-- An action of a sweep that leaves the database alone. -/
theorem examining_step {before after : GroupNode} (covered : Covered before) (db : after.db = before.db)
    (places : ∀ other, other ≠ self → after.sweeps.get? other = before.sweeps.get? other)
    (grows : before.examined ⊆ after.examined)
    (recent : ∀ messageId peerId time, after.recentRelays.get? (messageId, peerId) = some time →
      Sent after.examined peerId messageId) : covering.Step self point fate before after := by
  refine ⟨⟨db ▸ covered.distinct, ?_, recent⟩, trivial, fun other differs =>
    ⟨places other differs, grows, fun _ _ low known => ⟨low, db ▸ known, Nat.le_refl _⟩, fun _ _ _ _ =>
      .of_subset fun _ member => db ▸ member⟩⟩
  rw [db]
  exact fun cursor known message member group bound => (covered.passed cursor known message member group bound).mono grows

/-! ## Sweeps -/

/-- The messages up to a row id are settled, or are among those still to come. -/
def ReadyTo (node : GroupNode) (peerId : PeerId) (groupId : String) (rest : List GroupMessage) (rowid : Nat) : Prop :=
  ∀ message ∈ node.db.groupMessages.rows, message.groupId = groupId → message.rowid ≤ rowid →
    Settled node.examined peerId message ∨ ∃ coming ∈ rest, SameMessage coming message ∧ coming.rowid ≤ rowid

/-- A sweep in the middle of its batch. -/
structure Relaying (holder : Nat) (peerId : PeerId) (groupId : String) (rest : List GroupMessage) (covered : Option Nat)
    (node : GroupNode) : Prop where
  ordered : rest.Pairwise fun first second => first.rowid < second.rowid
  ahead : ∀ rowid ∈ covered, ∀ coming ∈ rest, rowid < coming.rowid
  batch : ∃ sweep, node.sweeps.get? holder = some sweep ∧ sweep.groupId = groupId ∧
    (∀ coming ∈ rest, coming.rowid ∈ sweep.fetched) ∧ (∀ rowid ∈ covered, rowid ∈ sweep.fetched) ∧
      ∀ rowid ∈ sweep.fetched, ReadyTo node peerId groupId rest rowid

section Relaying

variable {peerId : PeerId} {groupId : String} {rest : List GroupMessage} {covered : Option Nat} {stored : GroupMessage}

theorem ReadyTo.later {rowid : Nat} {before after : GroupNode} (grows : before.examined ⊆ after.examined)
    (stays : Stays groupId rowid before.db after.db) (ready : ReadyTo before peerId groupId rest rowid) :
    ReadyTo after peerId groupId rest rowid := by
  intro message member group bound
  obtain ⟨old, present, same, lower⟩ := stays message member group bound
  rcases ready old present (same.groupId.trans group) lower with settled | ⟨coming, later, alike, place⟩
  · exact .inl ((settled.mono grows).same same)
  · exact .inr ⟨coming, later, alike.trans same, place⟩

theorem Relaying.stable : covering.Stable self (Relaying self peerId groupId rest covered) := by
  intro before after _ _ relied held
  obtain ⟨sweep, found, about, coming, passed, ready⟩ := held.batch
  exact ⟨held.ordered, held.ahead, sweep, relied.place.trans found, about, coming, passed, fun rowid mark =>
    (ready rowid mark).later relied.examined (about ▸ relied.stays sweep found rowid mark)⟩

theorem Relaying.unmoved {before after : GroupNode} (moved : Unmoved before after)
    (held : Relaying self peerId groupId rest covered before) : Relaying self peerId groupId rest covered after := by
  obtain ⟨sweep, found, about, coming, passed, ready⟩ := held.batch
  refine ⟨held.ordered, held.ahead, sweep, moved.sweeps ▸ found, about, coming, passed, fun rowid mark => ?_⟩
  unfold ReadyTo
  rw [moved.db, moved.examined]
  exact ready rowid mark

/-- The head of the batch has been dealt with. -/
theorem Relaying.next {before after : GroupNode} (held : Relaying self peerId groupId (stored :: rest) covered before)
    (db : after.db = before.db) (sweeps : after.sweeps = before.sweeps) (grows : before.examined ⊆ after.examined)
    (settled : Settled after.examined peerId stored) :
    Relaying self peerId groupId rest (some (max (covered.getD 0) stored.rowid)) after := by
  obtain ⟨sweep, found, about, coming, passed, ready⟩ := held.batch
  obtain ⟨first, ordered⟩ := List.pairwise_cons.mp held.ordered
  have further : max (covered.getD 0) stored.rowid = stored.rowid := by
    cases covered with
    | none => exact Nat.max_eq_right (Nat.zero_le _)
    | some rowid => exact Nat.max_eq_right (Nat.le_of_lt (held.ahead rowid rfl stored List.mem_cons_self))
  rw [further]
  refine ⟨ordered, fun rowid same => ?_, sweep, sweeps ▸ found, about, fun later member =>
    coming later (List.mem_cons_of_mem _ member), fun rowid same => ?_, fun rowid mark message member group bound => ?_⟩
  · cases same
    exact first
  · cases same
    exact coming stored List.mem_cons_self
  · rcases ready rowid mark message (db ▸ member) group bound with known | ⟨later, among, alike, place⟩
    · exact .inl (known.mono grows)
    · rcases List.mem_cons.mp among with rfl | among
      · exact .inl (settled.same alike)
      · exact .inr ⟨later, among, alike, place⟩

/-- What the query did not return by then is settled. -/
theorem Relaying.fetched {member : GroupMember} {limit : Nat} {cursor : Option Nat} {before : GroupNode}
    (kept : Covered before)
    (resumed : ∀ low ∈ cursor, ∃ high, before.db.getRelayCursor peerId groupId = some high ∧ low ≤ high) :
    let messages := before.db.getGroupMessagesForRelay groupId member.joinedAt limit cursor
    Relaying self peerId groupId messages none { before with
      sweeps := before.sweeps.set self { peerId, groupId, fetched := messages.map GroupMessage.rowid }
      examined := before.examined ++ (passedOver before.db groupId member.joinedAt).map fun message =>
        { peerId, message, outcome := .ineligible } } := by
  intro messages
  refine ⟨getGroupMessagesForRelay_ordered kept.distinct, fun _ none => (nomatch none),
    { peerId, groupId, fetched := messages.map GroupMessage.rowid }, ?_, rfl, fun coming among =>
      List.mem_map_of_mem among, fun _ none => (nomatch none), fun rowid mark message stored group bound => ?_⟩
  · rw [Dict.get?_set, if_pos rfl]
  obtain ⟨last, among, rfl⟩ := List.mem_map.mp mark
  by_cases selected : message.kind = .message ∧ member.joinedAt ≤ message.createdAt
  · by_cases behind : ∃ low ∈ cursor, message.rowid ≤ low
    · obtain ⟨low, known, lower⟩ := behind
      obtain ⟨high, found, order⟩ := resumed low known
      obtain ⟨row, located, rfl⟩ := Option.map_eq_some_iff.mp found
      obtain ⟨present, key⟩ := Table.find?_some_iff.mp located
      cases key
      exact .inl ((kept.passed row present message stored group (Nat.le_trans lower order)).mono
        (List.subset_append_left _ _))
    · have candidate : message ∈ before.db.relayCandidates groupId member.joinedAt cursor :=
        mem_relayCandidates.mpr ⟨stored, group, selected.1, selected.2, fun low known => by
          by_contra reached
          exact behind ⟨low, known, Nat.le_of_not_lt reached⟩⟩
      exact .inr ⟨message, getGroupMessagesForRelay_covers kept.distinct candidate among bound, .refl, bound⟩
  · refine .inl ⟨{ peerId, message, outcome := .ineligible }, List.mem_append_right _ (List.mem_map_of_mem ?_), rfl,
      .refl, trivial⟩
    refine List.mem_filter.mpr ⟨stored, ?_⟩
    rw [← Bool.decide_and, Bool.and_eq_true, Bool.not_eq_true', decide_eq_false_iff_not, decide_eq_true_eq]
    exact ⟨group, selected⟩

end Relaying

/-- Moving the cursor to a row id that is settled throughout. -/
theorem advance_step {peerId : PeerId} {groupId : String} {lastRowid : Nat} {before : GroupNode} (covered : Covered before)
    (settled : ∀ message ∈ before.db.groupMessages.rows, message.groupId = groupId → message.rowid ≤ lastRowid →
      Settled before.examined peerId message) :
    covering.Step self (.execute (.setCursor peerId groupId lastRowid)) fate before
      (before.execute (.setCursor peerId groupId lastRowid) fate.now) := by
  have cursor : ∀ peer group, (before.execute (.setCursor peerId groupId lastRowid) fate.now).db.getRelayCursor peer group =
      if (peer, group) = (peerId, groupId) then
        some (max ((before.db.getRelayCursor peerId groupId).getD 0) lastRowid)
      else before.db.getRelayCursor peer group := by
    intro peer group
    change ((before.db.groupRelayCursors.insertOrReplace _).find? (peer, group)).map RelayCursor.lastRowid = _
    rw [Table.find?_insertOrReplace]
    split <;> rfl
  refine ⟨⟨covered.distinct, fun row member message stored group bound => ?_, covered.recent⟩, trivial, fun other _ =>
    ⟨rfl, List.Subset.refl _, fun peer group low known => ?_, fun _ _ _ _ => .of_subset fun _ => id⟩⟩
  · rcases Table.mem_insertOrReplace.mp member with ⟨old, -⟩ | rfl
    · exact covered.passed row old message stored group bound
    · by_cases within : message.rowid ≤ lastRowid
      · exact settled message stored group within
      · have behind : message.rowid ≤ (before.db.getRelayCursor peerId groupId).getD 0 := by
          change message.rowid ≤ max _ lastRowid at bound
          omega
        cases found : before.db.groupRelayCursors.find? (peerId, groupId) with
        | none =>
            rw [Database.getRelayCursor, found] at behind
            exact settled message stored group (Nat.le_trans behind (Nat.zero_le _))
        | some old =>
            rw [Database.getRelayCursor, found] at behind
            obtain ⟨present, key⟩ := Table.find?_some_iff.mp found
            cases key
            exact covered.passed old present message stored group behind
  · rw [cursor]
    by_cases same : (peer, group) = (peerId, groupId)
    · cases same
      rw [if_pos rfl, known]
      exact ⟨_, rfl, Nat.le_max_left _ _⟩
    · rw [if_neg same]
      exact ⟨low, known, Nat.le_refl _⟩

theorem sendCopy_sent {peer : GroupPeer} {stored : GroupMessage} {payload : GroupMessagePayload} {before : GroupNode}
    (goes : fate.sendFails = false) :
    let after := (sendCopy peer stored payload fate before).2
    after.db = before.db ∧ after.sweeps = before.sweeps ∧
      after.examined = before.examined ++ [{ peerId := peer.peerId, message := stored, outcome := .sent }] ∧
      after.recentRelays = before.recentRelays.set (stored.messageId, peer.peerId) fate.now := by
  intro after
  have run : after = (sendCopy peer stored payload fate before).2 := rfl
  rw [sendCopy, if_neg (Bool.eq_false_iff.mp goes)] at run
  rw [run]
  exact ⟨rfl, rfl, rfl, rfl⟩

section Rules

variable {crypto : FileCrypto} {identity : Identity crypto} {dumps : Json → Bytes}
  {encryptForRecipient : Bytes → Bytes → Json → Bytes}

def coveringRules : SweepRules identity dumps encryptForRecipient covering self where
  arrived := fun _ _ _ _ => True
  resumed := fun peerId groupId _ cursor node => ∀ low ∈ cursor,
    ∃ high, node.db.getRelayCursor peerId groupId = some high ∧ low ≤ high
  relaying := Relaying self
  verdict := fun peerId stored outcome node => Dealt node.examined peerId stored.messageId outcome
  unmoved := fun _ _ before after covered moved => examining_step covered moved.db (fun _ _ => by rw [moved.sweeps])
    (by rw [moved.examined]; exact List.Subset.refl _) fun messageId peerId time known => by
      rw [moved.examined]
      rcases moved.recent (messageId, peerId) with forgotten | kept
      · rw [forgotten] at known
        cases known
      · exact covered.recent messageId peerId time (kept ▸ known)
  arrivedStable := fun _ _ _ _ _ _ _ _ _ => trivial
  arrivedUnmoved := fun _ _ _ _ _ _ _ => trivial
  resumedStable := by
    intro peerId groupId member cursor before after _ _ relied resumed low known
    obtain ⟨high, found, order⟩ := resumed low known
    obtain ⟨higher, now, further⟩ := relied.cursors peerId groupId high found
    exact ⟨higher, now, Nat.le_trans order further⟩
  relayingStable := fun _ _ _ _ => Relaying.stable
  relayingUnmoved := fun _ _ _ _ _ _ => Relaying.unmoved
  verdictStable := fun _ _ _ _ _ _ _ relied dealt => dealt.mono relied.examined
  verdictUnmoved := fun _ _ _ _ _ moved dealt => moved.examined ▸ dealt
  ineligible := fun _ _ _ => trivial
  raisedQuery := fun _ _ _ _ admitted raises => by cases admitted.symm.trans raises
  raisedPrepare := fun _ _ _ _ _ _ admitted raises => by cases admitted.1.symm.trans raises
  suppressed := by
    intro peer groupId now stored fate node covered admitted recent
    cases found : node.recentRelays.get? (stored.messageId, peer.peerId) with
    | none =>
        rw [found] at recent
        have late := admitted.2
        grind
    | some time => exact covered.recent stored.messageId peer.peerId time found
  arrives := fun peerId groupId fate before covered =>
    ⟨examining_step covered rfl (fun other differs => by rw [Dict.get?_set, if_neg differs]) (List.Subset.refl _)
      covered.recent, trivial⟩
  resumes := fun _ _ _ _ _ _ low known => ⟨low, known, Nat.le_refl _⟩
  fetches := fun peerId groupId member limit cursor fate before covered resumed =>
    ⟨examining_step covered rfl (fun other differs => by rw [Dict.get?_set, if_neg differs])
      (List.subset_append_left _ _) fun messageId peer time known =>
        (covered.recent messageId peer time known).mono (List.subset_append_left _ _),
      Relaying.fetched covered resumed⟩
  examines := fun peerId groupId stored rest _ outcome fate before covered held dealt =>
    ⟨examining_step covered rfl (fun _ _ => rfl) (List.subset_append_left _ _) fun messageId peer time known =>
        (covered.recent messageId peer time known).mono (List.subset_append_left _ _),
      held.next rfl rfl (List.subset_append_left _ _)
        ⟨_, List.mem_append_right _ List.mem_cons_self, rfl, .refl, dealt.mono (List.subset_append_left _ _)⟩⟩
  sends := by
    intro peer payload groupId stored rest further fate before covered held _ _ goes after
    obtain ⟨db, sweeps, examined, recent⟩ := @sendCopy_sent fate peer stored payload before goes
    have grows : before.examined ⊆ after.examined := examined ▸ List.subset_append_left _ _
    have noted : { peerId := peer.peerId, message := stored, outcome := .sent } ∈ after.examined :=
      examined ▸ List.mem_append_right _ List.mem_cons_self
    refine ⟨examining_step covered db (fun _ _ => by rw [sweeps]) grows fun messageId peerId time known => ?_,
      held.next db sweeps grows ⟨_, noted, rfl, .refl, trivial⟩⟩
    rw [recent, Dict.get?_set] at known
    split at known
    · rename_i same
      cases same
      exact ⟨_, noted, rfl, rfl, rfl⟩
    · exact (covered.recent messageId peerId time known).mono grows
  advances := by
    intro peerId groupId rest lastRowid fate before covered held
    obtain ⟨sweep, -, -, -, passed, ready⟩ := held.batch
    refine advance_step covered fun message stored group bound => ?_
    rcases ready lastRowid (passed lastRowid rfl) message stored group bound with settled | ⟨coming, later, -, place⟩
    · exact settled
    · have beyond := held.ahead lastRowid rfl coming later
      omega
  leaves := fun fate before covered => examining_step covered rfl
    (fun other differs => by rw [Dict.get?_erase, if_neg differs]) (List.Subset.refl _) covered.recent

end Rules

/-! ## Everything else -/

theorem statement_distinct {statement : GroupStatement} {before : GroupNode} (distinct : before.db.RowidsDistinct)
    (admitted : KeepsOrder (.execute statement) fate before) :
    (statement.apply fate.now before.db).RowidsDistinct := by
  cases statement with
  | save message =>
      have fresh : ∀ old ∈ before.db.groupMessages.rows,
          old.rowid ≠ nextId (before.db.groupMessages.rows.map GroupMessage.rowid) 0 := fun old present =>
        Nat.ne_of_lt (lt_nextId (List.mem_map_of_mem present))
      intro first former second latter same
      rcases mem_saveGroupMessage former with old | ⟨-, rfl⟩ <;>
        rcases mem_saveGroupMessage latter with old' | ⟨-, rfl⟩
      · exact distinct first old second old' same
      · exact (fresh first old same).elim
      · exact (fresh second old' same.symm).elim
      · rfl
  | delete messageId groupId =>
      exact fun first former second latter => distinct first (Table.mem_deleteWhere.mp former).1 second
        (Table.mem_deleteWhere.mp latter).1
  | renumber rename =>
      intro first former second latter same
      simp only [GroupStatement.apply, renumberGroupMessages, Table.mem_updateWhere, if_true] at former latter
      obtain ⟨old, present, rfl⟩ := former
      obtain ⟨old', present', rfl⟩ := latter
      rw [distinct old present old' present' (admitted.1 old present old' present' same)]
  | upsertMember groupId peerId active =>
      intro first former second latter same
      have rows : (before.db.insertGroupMember groupId peerId active fate.now).groupMessages = before.db.groupMessages :=
        insertGroupMember_messages
      exact distinct first (rows ▸ former) second (rows ▸ latter) same
  | _ => exact distinct

/-- No statement puts a message at or before a mark of its group. -/
theorem statement_stays {statement : GroupStatement} {before : GroupNode} {groupId : String} {rowid : Nat}
    (admitted : KeepsOrder (.execute statement) fate before) (mark : rowid ∈ before.marks groupId) :
    Stays groupId rowid before.db (statement.apply fate.now before.db) := by
  cases statement with
  | save message =>
      intro stored member group bound
      rcases mem_saveGroupMessage member with old | ⟨fresh, rfl⟩
      · exact ⟨stored, old, .refl, bound⟩
      · cases group
        have beyond := admitted fresh rowid mark
        change nextId _ _ ≤ rowid at bound
        omega
  | delete messageId group => exact .of_subset fun message member => (Table.mem_deleteWhere.mp member).1
  | renumber rename =>
      intro message member group bound
      simp only [GroupStatement.apply, renumberGroupMessages, Table.mem_updateWhere, if_true] at member
      obtain ⟨old, present, rfl⟩ := member
      refine ⟨old, present, rfl, ?_⟩
      by_contra reached
      have beyond := admitted.2 old present rowid (by cases group; exact mark) (Nat.lt_of_not_le reached)
      change rename old.rowid ≤ rowid at bound
      omega
  | upsertMember group peerId active =>
      have rows : (before.db.insertGroupMember group peerId active fate.now).groupMessages = before.db.groupMessages :=
        insertGroupMember_messages
      exact .of_subset fun message member => rows ▸ member
  | _ => exact .of_subset fun _ => id

theorem statement_cursors {statement : GroupStatement} {now : Time} {db : Database}
    (other : ∀ peerId groupId lastRowid, statement ≠ .setCursor peerId groupId lastRowid) :
    (statement.apply now db).groupRelayCursors = db.groupRelayCursors := by
  cases statement with
  | save message => exact saveGroupMessage_cursors
  | upsertMember groupId peerId active => exact insertGroupMember_cursors
  | setCursor peerId groupId lastRowid => exact (other _ _ _ rfl).elim
  | _ => rfl

theorem statement_covers {statement : GroupStatement} {before : GroupNode} (covered : Covered before)
    (other : ∀ peerId groupId lastRowid, statement ≠ .setCursor peerId groupId lastRowid)
    (admitted : KeepsOrder (.execute statement) fate before) :
    covering.Step self (.execute statement) fate before (before.execute statement fate.now) := by
  have cursors : (before.execute statement fate.now).db.groupRelayCursors = before.db.groupRelayCursors :=
    statement_cursors other
  refine ⟨⟨statement_distinct covered.distinct admitted, fun cursor known message member group bound => ?_,
    covered.recent⟩, trivial, fun task _ => ⟨rfl, List.Subset.refl _, fun peerId groupId low known => ?_,
      fun sweep found rowid fetched => statement_stays admitted ?_⟩⟩
  · rw [cursors] at known
    have mark : cursor.lastRowid ∈ before.marks cursor.groupId :=
      List.mem_append_left _ (List.mem_map_of_mem (List.mem_filter.mpr ⟨known, decide_eq_true rfl⟩))
    obtain ⟨old, present, same, lower⟩ := statement_stays admitted mark message member group bound
    exact (covered.passed cursor known old present (same.groupId.trans group) lower).same same
  · refine ⟨low, ?_, Nat.le_refl _⟩
    rw [Database.getRelayCursor, cursors]
    exact known
  · refine List.mem_append_right _ (List.mem_flatMap.mpr ⟨sweep, List.mem_filter.mpr ⟨?_, decide_eq_true rfl⟩, fetched⟩)
    exact Dict.mem_values_iff.mpr ⟨task, found⟩

theorem execute_covers {statement : GroupStatement} {state : GroupNode}
    (other : ∀ peerId groupId lastRowid, statement ≠ .setCursor peerId groupId lastRowid) :
    covering.Keeps self (execute statement) state :=
  Honours.perform (P := fun _ => True) trivial (fun _ _ _ _ _ _ => trivial) fun _ _ covered _ admitted =>
    ⟨statement_covers covered other admitted, trivial⟩

section Runs

variable {crypto : FileCrypto} {identity : Identity crypto} {dumps : Json → Bytes}
  {encryptForRecipient : Bytes → Bytes → Json → Bytes}

theorem groupService_covers : Pool.Fulfils covering (groupService identity dumps encryptForRecipient) where
  starts := by
    intro request self state _
    cases request with
    | sweep peer => exact coveringRules.relayForPeer
    | upsertMember groupId peerId active =>
        refine Honours.bind ((execute_covers ?_).weaken (fun _ _ _ => execute_covers ?_) fun _ _ => id)
        all_goals exact fun _ _ _ same => nomatch same
    | change statement =>
        cases statement with
        | setCursor peerId groupId lastRowid => trivial
        | upsertMember groupId peerId active => trivial
        | _ => exact execute_covers fun _ _ _ same => nomatch same
  reboots := fun _ covered => ⟨covered.distinct, covered.passed, fun _ _ _ known => by cases known⟩

/-- In every run in which no message gets a row id that a mark of its group has
passed, a cursor is at or past a stored message only if a sweep for the peer has
dealt with that message. -/
theorem no_message_passed_over {start final : Pool GroupNode GroupFate GroupPoint GroupError}
    {events : List (PoolEvent GroupFate GroupRequest)} (idle : start.tasks = []) (covered : Covered start.shared)
    (meets : Meets (Pool.step (groupService identity dumps encryptForRecipient)) (Pool.Allowed KeepsOrder) start events)
    (completed : run (Pool.step (groupService identity dumps encryptForRecipient)) start events = some final) :
    ∀ cursor ∈ final.shared.db.groupRelayCursors.rows, ∀ message ∈ final.shared.db.groupMessages.rows,
      message.groupId = cursor.groupId → message.rowid ≤ cursor.lastRowid →
        Settled final.shared.examined cursor.peerId message :=
  (Pool.run_sound groupService_covers ⟨covered, fun index task found => by rw [idle] at found; cases found⟩ meets
    completed).invariant.passed

/-! ### Two messages in turn, and one in the place of the other -/

instance : Decidable (KeepsOrder point fate node) := by
  induction point using GroupPoint.casesOn with
  | execute statement => induction statement using GroupStatement.casesOn <;> dsimp only [KeepsOrder] <;> infer_instance
  | _ => dsimp only [KeepsOrder]; infer_instance

instance {first second : GroupMessage} : Decidable (SameMessage first second) := by
  unfold SameMessage
  infer_instance

instance {examined : List Examination} {peerId : PeerId} {messageId : String} :
    Decidable (Sent examined peerId messageId) := by
  unfold Sent
  infer_instance

instance {examined : List Examination} {peerId : PeerId} {messageId : String} {outcome : Outcome} :
    Decidable (Dealt examined peerId messageId outcome) := by
  cases outcome <;> simp only [Dealt] <;> infer_instance

instance {examined : List Examination} {peerId : PeerId} {message : GroupMessage} :
    Decidable (Settled examined peerId message) := by
  unfold Settled
  infer_instance

/-- A sweep for Bob after each of two messages. -/
def sweptTwice : List (PoolEvent GroupFate GroupRequest) :=
  threeJoin ++ [.start (.change (.save (carolMessage "first" 100003))), .start (.sweep bobAsGroupPeer),
    .start (.change (.save (carolMessage "second" 100007))), .start (.sweep bobAsGroupPeer)] ++
    groupTurns 3 1 100003 ++ groupTurns 4 16 100006 ++ groupTurns 5 1 100007 ++ groupTurns 6 16 100008

theorem bob_is_sent_both :
    ∃ final, run (Pool.step (groupService plainIdentity (fun _ => []) fun _ content _ => content)) ⟨emptyGroupNode, []⟩
        sweptTwice = some final ∧ final.shared.db.getRelayCursor "bob" "team" = some 2 ∧
      ∀ cursor ∈ final.shared.db.groupRelayCursors.rows, ∀ message ∈ final.shared.db.groupMessages.rows,
        message.groupId = cursor.groupId → message.rowid ≤ cursor.lastRowid →
          Settled final.shared.examined cursor.peerId message := by
  have reached : (run (Pool.step (groupService plainIdentity (fun _ => []) fun _ content _ => content))
      ⟨emptyGroupNode, []⟩ sweptTwice).any (fun final =>
        decide (final.shared.db.getRelayCursor "bob" "team" = some 2)) = true := by
    decide +kernel
  have meets : Meets (Pool.step (groupService plainIdentity (fun _ => []) fun _ content _ => content))
      (Pool.Allowed KeepsOrder) ⟨emptyGroupNode, []⟩ sweptTwice := by
    decide +kernel
  obtain ⟨final, completed, cursor⟩ := Option.any_eq_true .. |>.mp reached
  exact ⟨final, completed, of_decide_eq_true cursor, no_message_passed_over rfl
    ⟨fun _ member => (List.not_mem_nil member).elim, fun _ member => (List.not_mem_nil member).elim,
      fun _ _ _ known => by cases known⟩ meets completed⟩

/-- The first message is sent to Bob and deleted here; the second gets its row id. -/
def deletedBetween : List (PoolEvent GroupFate GroupRequest) :=
  threeJoin ++ [.start (.change (.save (carolMessage "first" 100003))), .start (.sweep bobAsGroupPeer),
    .start (.change (.delete "first" "team")), .start (.change (.save (carolMessage "second" 100007))),
    .start (.sweep bobAsGroupPeer)] ++
    groupTurns 3 1 100003 ++ groupTurns 4 16 100006 ++ groupTurns 5 1 100006 ++ groupTurns 6 1 100007 ++
    groupTurns 7 10 100008

theorem bob_never_gets_the_second :
    ∃ final, run (Pool.step (groupService plainIdentity (fun _ => []) fun _ content _ => content)) ⟨emptyGroupNode, []⟩
        deletedBetween = some final ∧
      ∃ cursor ∈ final.shared.db.groupRelayCursors.rows, ∃ message ∈ final.shared.db.groupMessages.rows,
        message.groupId = cursor.groupId ∧ message.rowid ≤ cursor.lastRowid ∧
          ¬ Settled final.shared.examined cursor.peerId message := by
  have checked : (run (Pool.step (groupService plainIdentity (fun _ => []) fun _ content _ => content))
      ⟨emptyGroupNode, []⟩ deletedBetween).any (fun final => decide (
        ∃ cursor ∈ final.shared.db.groupRelayCursors.rows, ∃ message ∈ final.shared.db.groupMessages.rows,
          message.groupId = cursor.groupId ∧ message.rowid ≤ cursor.lastRowid ∧
            ¬ Settled final.shared.examined cursor.peerId message)) = true := by
    decide +kernel
  obtain ⟨final, completed, found⟩ := Option.any_eq_true .. |>.mp checked
  exact ⟨final, completed, of_decide_eq_true found⟩

end Runs

end MeshTalk.Groups
