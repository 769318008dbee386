import MeshTalk.Deliveries.Rules

namespace MeshTalk.Deliveries

open MeshTalk.Library MeshTalk.Protocol MeshTalk.Store MeshTalk.Library.Contract

/-! # What the actions make of the recorded statuses

The status of a delivery is kept in one of two tables, and the row of a group
transfer holds no status of a delivery at all.  An operation that knows the row
of its file knows which.
-/

section Routes

variable {transfer : FileTransfer} {peerId : PeerId}

theorem addressee_direct (direct : transfer.group? = none) : addressee transfer peerId = transfer.recipientId := by
  unfold addressee
  rw [direct]

theorem addressee_group (group : transfer.group? ≠ none) : addressee transfer peerId = peerId := by
  unfold addressee
  cases known : transfer.group? with
  | none => exact absurd known group
  | some groupId => rfl

theorem directRecipient_direct (direct : transfer.group? = none) :
    directRecipient transfer = some transfer.recipientId := by
  unfold directRecipient
  rw [direct]

theorem directRecipient_group (group : transfer.group? ≠ none) : directRecipient transfer = none := by
  unfold directRecipient
  cases known : transfer.group? with
  | none => exact absurd known group
  | some groupId => rfl

end Routes

namespace Sender

variable {sender before after : Sender} {transfer other : FileTransfer} {task : Nat} {recipientId : PeerId}
  {status : FileStatus} {now : Time} {fileId : String}

/-- The row of the transfer is there, with its route. -/
def Knows (sender : Sender) (transfer : FileTransfer) : Prop :=
  ∃ row, sender.db.getFileTransfer transfer.fileId = some row ∧ row.SameRoute transfer

theorem knows_of_found (found : sender.db.getFileTransfer fileId = some transfer) : sender.Knows transfer := by
  have key := Database.fileId_of_getFileTransfer found
  subst key
  exact ⟨transfer, found, .refl⟩

theorem Knows.kept (knows : before.Knows transfer) (routes : Database.KeepsRoutes before.db after.db) :
    after.Knows transfer := by
  obtain ⟨row, found, route⟩ := knows
  obtain ⟨kept, located, same⟩ := routes _ row found
  exact ⟨kept, located, same.trans route⟩

theorem Knows.reroute (knows : sender.Knows other) (same : other.SameRoute transfer) : sender.Knows transfer := by
  obtain ⟨row, found, route⟩ := knows
  rw [same.fileId] at found
  exact ⟨row, found, route.trans same⟩

theorem Knows.reread (knows : sender.Knows transfer) : ∃ row, sender.db.getFileTransfer transfer.fileId = some row ∧
    sender.Knows row ∧ row.SameRoute transfer := by
  obtain ⟨row, found, route⟩ := knows
  exact ⟨row, found, knows_of_found found, route⟩

theorem writes_setDelivery (knows : sender.Knows transfer) (group : transfer.group? ≠ none) :
    Database.WritesDelivery sender.db (sender.execute task (.setDelivery transfer.fileId recipientId status) now).db
      transfer.fileId recipientId status := by
  obtain ⟨row, found, route⟩ := knows
  exact Database.setFileDelivery_writesDelivery found (by rw [route.group?]; exact group)

theorem writes_setDirect (knows : sender.Knows transfer) (direct : transfer.group? = none) :
    Database.WritesDelivery sender.db
      (sender.execute task (.setDirect transfer.fileId transfer.recipientId status) now).db
      transfer.fileId transfer.recipientId status := by
  obtain ⟨row, found, route⟩ := knows
  rw [← route.recipientId]
  exact Database.setFileStatusAwaiting_writes.writesDelivery found (route.group?.trans direct)

theorem writes_setStatus (knows : sender.Knows transfer) (direct : transfer.group? = none) :
    Database.WritesDelivery sender.db
      (sender.execute task (.setStatus transfer.fileId (some transfer.recipientId) status) now).db
      transfer.fileId transfer.recipientId status := by
  obtain ⟨row, found, route⟩ := knows
  rw [← route.recipientId]
  exact Database.setFileStatus_writes.writesDelivery found (route.group?.trans direct)

theorem keeps_setStatus (knows : sender.Knows transfer) (group : transfer.group? ≠ none) :
    Database.KeepsDeliveries sender.db (sender.execute task (.setStatus transfer.fileId none status) now).db := by
  obtain ⟨row, found, route⟩ := knows
  exact Database.setFileStatus_writes.keepsDeliveries found (by rw [route.group?]; exact group)

/-- No delivery of a file that has none is found. -/
theorem unsent_delivery (unsent : ∀ row ∈ sender.db.fileDeliveries.rows, row.fileId ≠ fileId) (peerId : PeerId) :
    sender.db.getFileDelivery fileId peerId = none := by
  cases found : sender.db.getFileDelivery fileId peerId with
  | none => rfl
  | some row =>
      obtain ⟨member, key⟩ := Table.find?_some_iff.mp found
      exact absurd (congrArg Prod.fst key) (unsent row member)

/-- A statement changes the store alone, apart from the auxiliary fields. -/
theorem execute_frame {statement : SendStatement} :
    (sender.execute task statement now).db = statement.apply now sender.db ∧
      (sender.execute task statement now).committed = sender.committed ∧
      (sender.execute task statement now).packetLocks = sender.packetLocks := by
  cases statement with
  | save transfer =>
      simp only [execute, note]
      split <;> exact ⟨rfl, rfl, rfl⟩
  | setStatus fileId direct status => cases direct <;> exact ⟨rfl, rfl, rfl⟩
  | _ => exact ⟨rfl, rfl, rfl⟩

end Sender

/-- An action that changes no status of a delivery and no books about them. -/
structure Aside (before after : Sender) : Prop where
  deliveries : Database.KeepsDeliveries before.db after.db
  committed : after.committed = before.committed
  packetLocks : after.packetLocks = before.packetLocks
  windows : after.windows = before.windows

theorem Unmoved.aside {before after : Sender} (unmoved : Unmoved before after) : Aside before after :=
  ⟨.of_eq unmoved.transfers unmoved.deliveries, unmoved.committed, unmoved.packetLocks, unmoved.windows⟩

/-- The aggregate of a transfer is no status of a delivery. -/
theorem recomputeAggregate_aside {contract : Contract Sender SendFate SendPoint} {task : Nat} {P : Sender → Prop}
    {R : SendError → Sender → Prop} {transfer : FileTransfer} (stable : contract.Stable task P)
    (knows : ∀ sender, P sender → sender.Knows transfer)
    (acts : ∀ point fate before after, contract.invariant before → Aside before after →
      contract.Step task point fate before after)
    (kept : ∀ before after, Aside before after → P before → P after)
    (commits : ∀ fate before, contract.invariant before → P before →
      contract.Step task (.commit task) fate before (before.commit task) ∧ P (before.commit task)) :
    contract.Triple task P (recomputeAggregate task transfer.fileId) (fun _ => P) R := by
  refine Triple.bind (Q := fun found sender => P sender ∧ ∀ row, found = some row → row.SameRoute transfer) ?_
    fun found => ?_
  · refine Triple.perform stable fun fate before invariant held _ => ?_
    refine ⟨acts _ _ _ _ invariant Unmoved.refl.aside, held, fun row found => ?_⟩
    obtain ⟨known, located, route⟩ := knows before held
    cases located.symm.trans found
    exact route
  cases found with
  | none => exact Triple.pure fun _ held => held.1
  | some row =>
      refine Triple.ite (fun _ => Triple.pure fun _ held => held.1) fun group => ?_
      intro state held
      have route : transfer.group? ≠ none := by
        rw [← (held.2 row rfl).group?]
        exact group
      refine Triple.bind (P := P) (Q := fun _ => P) ?_ (fun states => ?_) state held.1
      · refine Triple.perform stable fun fate before invariant held _ => ?_
        have aside : Aside before (before.noteRecompute task transfer.fileId (.seen (before.db.deliveryStates transfer.fileId))) :=
          ⟨.of_eq rfl rfl, rfl, rfl, rfl⟩
        exact ⟨acts _ _ _ _ invariant aside, kept _ _ aside held⟩
      · refine Triple.bind (Q := fun _ => P) ?_ fun _ => Triple.perform stable fun fate before invariant held _ => ?_
        · refine Triple.perform stable fun fate before invariant held _ => ?_
          obtain ⟨known, located, same⟩ := knows before held
          have aside : Aside before ((before.updateDb fun db =>
              db.setFileAggregate transfer.fileId (aggregateStatus states) fate.now).noteRecompute task transfer.fileId .written) :=
            ⟨Database.setFileAggregate_writes.keepsDeliveries located (by rw [same.group?]; exact route), rfl, rfl, rfl⟩
          exact ⟨acts _ _ _ _ invariant aside, kept _ _ aside held⟩
        · exact commits fate before invariant held

/-- A process that starts with what a store holds. -/
def processStart (sender : Sender) : Pool Sender SendFate SendPoint SendError := { shared := sender.reboot, tasks := [] }

/-! ## A node for runs on fixed inputs

The node sends 64 bytes to Bob, its friend.
-/

def documentId : String := "00000000000040008000000000000001"

def emptySender : Sender where
  db := {}
  committed := {}
  capabilities := ∅
  connections := ∅
  rooms := none
  files := ∅
  filesBase := ["files"]
  migrationInProgress := false
  packetLocks := ∅
  flushLocks := ∅
  awaitingAckSince := ∅
  resendUsage := ∅
  resendTotal := (0, 0, 0)
  sent := []
  windows := []
  recomputes := []

def connectedPeer (peerId : PeerId) : RecipientPeer where
  peerId
  capabilities := [capFileTransferV2]
  signingPublicKey := some [1]
  encryptionPublicKey := some [2]

def bobConnected : Surroundings where
  friends := ["bob"]
  blockedPeers := []
  groups := []
  groupMembers := ∅
  peers := ∅
  capabilities := ∅
  connections := Dict.set ∅ "bob" (connectedPeer "bob")
  rooms := none
  files := Dict.set ∅ ["document"] { content := List.replicate 64 97, mtime := 0 }
  migrationInProgress := false

/-- Ciphertexts are 60 bytes longer than what they seal. -/
abbrev plainSender : Service Sender SendFate SendPoint SendError SendRequest :=
  sendService plainIdentity (fun _ => []) fun _ content _ => List.replicate 60 0 ++ content

/-- Some actions of one task in a row. -/
def senderTurns (task count : Nat) : List (PoolEvent SendFate SendRequest) :=
  List.replicate count (.resume task
    { now := 100000, monotonic := 10, uuid := documentId, sendFails := false, readFails := false, order := [] })

/-- Bob is connected, and the sending of the document to him has begun. -/
def sendToBob (count : Nat) : List (PoolEvent SendFate SendRequest) :=
  [.start (.surround bobConnected)] ++ senderTurns 0 1 ++
    [.start (.send (.direct "bob") ["document"] "")] ++ senderTurns 1 count

/-- A recipient acknowledges the document. -/
def ackFrom (peerId : PeerId) (status : AckStatus) : SendRequest :=
  .acknowledge (connectedPeer peerId)
    { fileId := documentId, recipientId := peerId, status, signature := List.replicate 64 0, missingRanges := none }

end MeshTalk.Deliveries
