import MeshTalk.Library.Dict
import MeshTalk.Library.Task
import MeshTalk.Protocol.GroupPayloads
import MeshTalk.Store.Roster

namespace MeshTalk.Groups

open MeshTalk.Library MeshTalk.Protocol MeshTalk.Store

/-! # `GroupRouter.relay_for_peer`

A sweep for a peer runs next to other sweeps and to everything that changes the
roster and the history.  A statement of the database is one action, together
with the commit that follows it.
-/

def relayResendSuppressSeconds : Time := 86400
def maxRelayPerSweep : Nat := 50
def maxRecentRelays : Nat := 5000
def groupRelaySendsPerMinute : Nat := 100
def maxRelayBudgets : Nat := 4096

/-- What the group router reads of a connection. -/
structure GroupPeer where
  peerId : PeerId
  capabilities : List String
  signingPublicKey : Option Bytes
  encryptionPublicKey : Option Bytes
deriving DecidableEq, Repr

def GroupPeer.supports (peer : GroupPeer) (capability : String) : Bool := capability ∈ peer.capabilities

/-- What became of a stored message a sweep looked at. -/
inductive Outcome where
  | sent | sentBefore | ineligible | raised
deriving DecidableEq, Repr

structure Examination where
  peerId : PeerId
  message : GroupMessage
  outcome : Outcome
deriving DecidableEq, Repr

/-- A copy that `send_packet` reported as sent, with the start of the membership
the receiver had then. -/
structure RelayedCopy where
  peerId : PeerId
  message : GroupMessage
  payload : GroupMessagePayload
  memberSince : Option Time
deriving DecidableEq, Repr

/-- The group a sweep is at, and the row ids it has fetched there. -/
structure Sweep where
  peerId : PeerId
  groupId : String
  fetched : List Nat
deriving DecidableEq, Repr

structure GroupNode where
  db : Database
  recentRelays : Dict (String × PeerId) Time
  relayBudgets : Dict PeerId (List Time)
  relays : List RelayedCopy
  /-- Auxiliary, read by no action: where the sweeps under way are, when the
  membership of each member last started, and what the sweeps have examined. -/
  sweeps : Dict Nat Sweep
  memberships : Dict (String × PeerId) Time
  examined : List Examination

/-- What the environment decides about a step. -/
structure GroupFate where
  now : Time
  raises : Bool
  sendFails : Bool
deriving DecidableEq, Repr

/-- The statements that change the roster, the history or the cursors. -/
inductive GroupStatement where
  | upsertMember (groupId : String) (peerId : PeerId) (active : Bool)
  | trimMembers
  | markLeft (groupId : String) (peerId : PeerId)
  | removeGroup (groupId : String)
  | save (message : GroupMessage)
  | delete (messageId groupId : String)
  | setCursor (peerId : PeerId) (groupId : String) (lastRowid : Nat)
  | renumber (rename : Nat → Nat)
  | configure (groups blockedPeers : List String) (peers : Table PeerRecord PeerRecord.peerId)

def GroupStatement.apply (now : Time) : GroupStatement → Database → Database
  | upsertMember groupId peerId active, db => db.insertGroupMember groupId peerId active now
  | trimMembers, db => db.trimInactiveMembers
  | markLeft groupId peerId, db => db.markGroupMemberLeft groupId peerId now
  | removeGroup groupId, db => db.removeGroup groupId
  | save message, db => (db.saveGroupMessage message).1
  | delete messageId groupId, db => db.deleteMessageLocally messageId (some groupId)
  | setCursor peerId groupId lastRowid, db => db.setRelayCursor peerId groupId lastRowid now
  | renumber rename, db => db.renumberGroupMessages rename
  | configure groups blockedPeers peers, db => { db with groups, blockedPeers, peers }

inductive GroupPoint where
  | query
  | execute (statement : GroupStatement)
  | beginSweep (peerId : PeerId)
  | checkBudget (peerId : PeerId)
  | readTarget (holder : Nat) (peerId : PeerId) (groupId : String)
  | fetch (holder : Nat) (peerId : PeerId) (groupId : String) (since : Time) (limit : Nat) (after : Option Nat)
  | prepare (peer : GroupPeer) (groupId : String) (now : Time) (stored : GroupMessage)
  | examined (peerId : PeerId) (stored : GroupMessage) (outcome : Outcome)
  | send (peer : GroupPeer) (stored : GroupMessage) (payload : GroupMessagePayload)
  | leaveGroup (holder : Nat)

inductive GroupError where
  | raised
deriving DecidableEq, Repr

abbrev Program := Task GroupNode GroupFate GroupPoint GroupError

abbrev Action := Handler GroupNode GroupError

namespace GroupNode

variable (node : GroupNode)

def memberActive (groupId : String) (peerId : PeerId) : Bool :=
  (node.db.getGroupMember groupId peerId).any GroupMember.active

/-- The membership that a statement starts, if any. -/
def startsMembership : GroupStatement → Option (String × PeerId)
  | .upsertMember groupId peerId active =>
      if active && !node.memberActive groupId peerId && node.db.rosterAdmits groupId peerId active then
        some (groupId, peerId)
      else none
  | _ => none

def execute (statement : GroupStatement) (now : Time) : GroupNode :=
  { node with
    db := statement.apply now node.db
    memberships := match node.startsMembership statement with
      | some member => node.memberships.set member now
      | none => node.memberships }

end GroupNode

/-- `del` of the oldest keys beyond a bound. -/
def dropOldest [DecidableEq κ] (dict : Dict κ ν) (bound : Nat) : Dict κ ν :=
  let doomed := dict.keys.take (dict.size - bound)
  dict.filter fun key _ => key ∉ doomed

def query (read : GroupNode → α) : Program α := Task.perform .query fun _ => do
  let node ← Handler.read
  pure (read node)

/-- A query inside the `try` of the sweep. -/
def guardedQuery (read : GroupNode → α) : Program α := Task.perform .query fun fate => do
  Handler.refuse (fate.raises = true) .raised
  let node ← Handler.read
  pure (read node)

def execute (statement : GroupStatement) : Program Unit :=
  Task.perform (.execute statement) fun fate => Handler.change fun node => node.execute statement fate.now

section

variable {crypto : FileCrypto} (identity : Identity crypto) (dumps : Json → Bytes)
  (encryptForRecipient : Bytes → Bytes → Json → Bytes)

/-- `_relay_budget_left`. -/
def relayBudgetLeft (peerId : PeerId) (now : Time) : Action Nat := do
  let node ← Handler.read
  let hits := ((node.relayBudgets.get? peerId).getD []).filter fun hit => decide (now - hit < 60)
  Handler.change fun node =>
    { node with relayBudgets := dropOldest (node.relayBudgets.set peerId hits) maxRelayBudgets }
  pure (groupRelaySendsPerMinute - hits.length)

def forgetOldRelays (now : Time) : Action Unit :=
  Handler.change fun node =>
    { node with
      recentRelays := dropOldest (node.recentRelays.filter fun _ sentAt =>
        decide (now - sentAt < relayResendSuppressSeconds)) maxRecentRelays }

/-- The clock reading of a sweep, `none` where no budget is left. -/
def beginSweep (peerId : PeerId) (fate : GroupFate) : Action (Option Time) := do
  let left ← relayBudgetLeft peerId fate.now
  if left = 0 then pure none
  else do
    forgetOldRelays fate.now
    pure (some fate.now)

def hasBudget (peerId : PeerId) : Program Bool :=
  Task.perform (.checkBudget peerId) fun fate => do
    let left ← relayBudgetLeft peerId fate.now
    pure (decide (0 < left))

/-- The target's row, read as the sweep arrives at the group. -/
def readTarget (self : Nat) (peerId : PeerId) (groupId : String) : Action (Option GroupMember) := do
  let node ← Handler.read
  Handler.change fun node => { node with sweeps := node.sweeps.set self { peerId, groupId, fetched := [] } }
  pure (node.db.getGroupMember groupId peerId)

/-- The rows of the group that the query passes over. -/
def passedOver (db : Database) (groupId : String) (since : Time) : List GroupMessage :=
  db.groupMessages.rows.filter fun row =>
    row.groupId = groupId && !(decide (row.kind = .message) && decide (since ≤ row.createdAt))

def fetchMessages (self : Nat) (peerId : PeerId) (groupId : String) (since : Time) (limit : Nat) (after : Option Nat)
    (fate : GroupFate) : Action (Option (List GroupMessage)) := do
  let node ← Handler.read
  if fate.raises then pure none
  else do
    let messages := node.db.getGroupMessagesForRelay groupId since limit after
    Handler.change fun node =>
      { node with
        sweeps := node.sweeps.set self { peerId, groupId, fetched := messages.map GroupMessage.rowid }
        examined := node.examined ++ (passedOver node.db groupId since).map fun message =>
          { peerId, message, outcome := .ineligible } }
    pure (some messages)

/-- The copy of a stored message for a peer. -/
def relayedPayload (key : Bytes) (peer : GroupPeer) (groupId : String) (stored : GroupMessage) (origin content : Bytes) :
    GroupMessagePayload :=
  let bare : GroupMessagePayload :=
    { messageId := stored.messageId
      groupId
      senderId := stored.senderId
      recipientId := peer.peerId
      createdAt := .real stored.createdAt
      encryptedContent := []
      signature := []
      replyToMessageId := stored.replyToMessageId
      originSignature := origin }
  let sealedPayload := { bare with encryptedContent := encryptForRecipient key content bare.associatedData }
  { sealedPayload with signature := identity.sign (sealedPayload.signedBytes crypto) }

/-- The checks of a sweep that need no query, and the copy they let through. -/
def prepareCopy (key : Bytes) (peer : GroupPeer) (groupId : String) (now : Time) (stored : GroupMessage)
    (fate : GroupFate) : Action (Outcome ⊕ GroupMessagePayload) := do
  let node ← Handler.read
  Handler.refuse (fate.raises = true) .raised
  let origin := stored.originSignature.getD []
  let content := encodeUtf8 (stored.content.getD "")
  let payload := relayedPayload identity encryptForRecipient key peer groupId stored origin content
  if origin.length ≠ 64 then pure (.inl .ineligible)
  else if (stored.replyToMessageId.getD "" ≠ "" && !peer.supports capMessageReplies) = true then pure (.inl .ineligible)
  else if now - (node.recentRelays.get? (stored.messageId, peer.peerId)).getD 0 < relayResendSuppressSeconds then
    pure (.inl .sentBefore)
  else if content.length > maxGroupMessageContentSize ∨ (dumps payload.json).length > maxPacketSize then
    pure (.inl .ineligible)
  else pure (.inr payload)

def examineMessage (key : Bytes) (peer : GroupPeer) (groupId : String) (now : Time) (stored : GroupMessage) :
    Program (Outcome ⊕ GroupMessagePayload) := do
  if stored.senderId = identity.peerId ∨ stored.senderId = peer.peerId then pure (.inl .ineligible)
  else if ← guardedQuery fun node => node.db.isPeerBlocked stored.senderId then pure (.inl .ineligible)
  else if ← guardedQuery fun node => node.memberActive groupId stored.senderId then
    Task.perform (.prepare peer groupId now stored) fun fate =>
      prepareCopy identity dumps encryptForRecipient key peer groupId now stored fate
  else pure (.inl .ineligible)

/-- Send a copy; whether that went through. -/
def sendCopy (peer : GroupPeer) (stored : GroupMessage) (payload : GroupMessagePayload) (fate : GroupFate) :
    Action Bool := do
  if fate.sendFails then pure false
  else do
    Handler.change fun node =>
      { node with
        recentRelays := node.recentRelays.set (stored.messageId, peer.peerId) fate.now
        relayBudgets := node.relayBudgets.set peer.peerId ((node.relayBudgets.get? peer.peerId).getD [] ++ [fate.now])
        relays := node.relays ++
          [{ peerId := peer.peerId, message := stored, payload
             memberSince := node.memberships.get? (payload.groupId, peer.peerId) }]
        examined := node.examined ++ [{ peerId := peer.peerId, message := stored, outcome := .sent }] }
    pure true

/-- The loop over the fetched messages: how many copies have been sent in the
sweep, and the row id up to which messages are covered. -/
def relayMessages (key : Bytes) (peer : GroupPeer) (groupId : String) (now : Time) :
    List GroupMessage → Nat → Option Nat → Program (Nat × Option Nat)
  | [], count, covered => pure (count, covered)
  | stored :: rest, count, covered => do
      if count ≥ maxRelayPerSweep then pure (count, covered)
      else if ← hasBudget peer.peerId then
        let verdict ← (examineMessage identity dumps encryptForRecipient key peer groupId now stored).recover
          fun _ => pure (.inl .raised)
        let further := some (max (covered.getD 0) stored.rowid)
        match verdict with
        | .inl outcome =>
            Task.perform (.examined peer.peerId stored outcome) fun _ => Handler.change fun node =>
              { node with examined := node.examined ++ [{ peerId := peer.peerId, message := stored, outcome }] }
            relayMessages key peer groupId now rest count further
        | .inr payload =>
            if ← Task.perform (.send peer stored payload) fun fate => sendCopy peer stored payload fate then
              relayMessages key peer groupId now rest (count + 1) further
            else pure (count, covered)
      else pure (count, covered)

/-- `set_relay_cursor` within the `try` of the sweep. -/
def advanceCursor (peerId : PeerId) (groupId : String) (lastRowid : Nat) : Program Unit :=
  Task.perform (.execute (.setCursor peerId groupId lastRowid)) fun fate => Handler.change fun node =>
    if fate.raises then node else node.execute (.setCursor peerId groupId lastRowid) fate.now

/-- One group of a sweep. -/
def relayGroup (self : Nat) (key : Bytes) (peer : GroupPeer) (now : Time) (groupId : String) (count : Nat) :
    Program Nat := do
  let selfActive ← query fun node => node.memberActive groupId identity.peerId
  let target ← Task.perform (.readTarget self peer.peerId groupId) fun _ => readTarget self peer.peerId groupId
  match target.filter fun member => selfActive && member.active with
  | none => pure count
  | some member => do
      let cursor ← query fun node => node.db.getRelayCursor peer.peerId groupId
      let limit := maxRelayPerSweep - count
      match ← Task.perform (.fetch self peer.peerId groupId member.joinedAt limit cursor) fun fate =>
          fetchMessages self peer.peerId groupId member.joinedAt limit cursor fate with
      | none => pure count
      | some messages => do
          let (sent, covered) ←
            relayMessages identity dumps encryptForRecipient key peer groupId now messages count none
          match covered with
          | none => pure sent
          | some lastRowid => do
              advanceCursor peer.peerId groupId lastRowid
              pure sent

def leaveGroup (self : Nat) : Program Unit :=
  Task.perform (.leaveGroup self) fun _ => Handler.change fun node => { node with sweeps := node.sweeps.erase self }

def relayGroups (self : Nat) (key : Bytes) (peer : GroupPeer) (now : Time) : List String → Nat → Program Unit
  | [], _ => pure ()
  | groupId :: rest, count => do
      if count ≥ maxRelayPerSweep then pure ()
      else if ← hasBudget peer.peerId then
        let sent ← (relayGroup identity dumps encryptForRecipient self key peer now groupId count).ensuring
          (leaveGroup self)
        relayGroups self key peer now rest sent
      else pure ()

def relayForPeer (self : Nat) (peer : GroupPeer) : Program Unit := do
  if !peer.supports capGroupChat || !peer.supports capGroupRelay then pure ()
  else if ← query fun node => node.db.isPeerBlocked peer.peerId then pure ()
  else
    let known ← query fun node => (node.db.peers.find? peer.peerId).bind PeerRecord.publicKey
    match peer.encryptionPublicKey.or known with
    | none => pure ()
    | some key => do
        match ← Task.perform (.beginSweep peer.peerId) fun fate => beginSweep peer.peerId fate with
        | none => pure ()
        | some now => do
            let groups ← query fun node => node.db.groups
            relayGroups identity dumps encryptForRecipient self key peer now groups 0

/-! ## The service -/

/-- Everything else that changes the roster and the history: handlers of
packets and cards, the user's deletions, a switch of the storage location. -/
inductive GroupRequest where
  | sweep (peer : GroupPeer)
  | upsertMember (groupId : String) (peerId : PeerId) (active : Bool)
  | change (statement : GroupStatement)

/-- Requests issue every statement but the cursor's, which only a sweep sets. -/
def groupProgram (self : Nat) : GroupRequest → Program Unit
  | .sweep peer => relayForPeer identity dumps encryptForRecipient self peer
  | .upsertMember groupId peerId active => do
      execute (.upsertMember groupId peerId active)
      execute .trimMembers
  | .change (.setCursor _ _ _) | .change (.upsertMember _ _ _) => pure ()
  | .change statement => execute statement

def groupService : Service GroupNode GroupFate GroupPoint GroupError GroupRequest where
  program := fun request self => groupProgram identity dumps encryptForRecipient self request
  reboot := fun node => { node with recentRelays := ∅, relayBudgets := ∅, sweeps := ∅ }

end

/-! ### A group of three, for runs on fixed inputs -/

def emptyGroupNode : GroupNode where
  db := { groups := ["team"] }
  recentRelays := ∅
  relayBudgets := ∅
  relays := []
  sweeps := ∅
  memberships := ∅
  examined := []

def bobAsGroupPeer : GroupPeer where
  peerId := "bob"
  capabilities := [capGroupChat, capGroupRelay]
  signingPublicKey := none
  encryptionPublicKey := some [1]

def carolMessage (messageId : String) (createdAt : Time) : GroupMessage where
  messageId := messageId
  groupId := "team"
  senderId := "carol"
  content := some "hello"
  createdAt := createdAt
  receivedAt := some createdAt
  kind := .message
  replyToMessageId := none
  originSignature := some (List.replicate 64 0)
  rowid := 0

def groupTurns (task count : Nat) (now : Time) : List (PoolEvent GroupFate GroupRequest) :=
  List.replicate count (.resume task { now, raises := false, sendFails := false })

def threeJoin : List (PoolEvent GroupFate GroupRequest) :=
  [.start (.upsertMember "team" "self" true), .start (.upsertMember "team" "carol" true),
   .start (.upsertMember "team" "bob" true)] ++ groupTurns 0 2 100000 ++ groupTurns 1 2 100000 ++ groupTurns 2 2 100001

end MeshTalk.Groups
