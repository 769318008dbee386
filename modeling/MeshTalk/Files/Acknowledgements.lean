import MeshTalk.Files.Receiver

namespace MeshTalk.Files

open MeshTalk.Library MeshTalk.Protocol MeshTalk.Store MeshTalk.Library.Contract

/-! # Every acknowledgement can be sent and read

The validation of an acknowledgement relates its status to its ranges, and the
receiver builds it in many places.  `AckFits` is what each of them has to
establish.
-/

variable {crypto : FileCrypto} {dumps : Json → Bytes} {identity : Identity crypto}

/-- Ranges in increasing order that the validation accepts. -/
def RangesFit (ranges : List (Nat × Nat)) : Prop := ranges ≠ [] ∧ Database.Ordered maxFileChunks ranges

def AckFits (fileId : String) (status : AckStatus) (ranges : Option (List (Nat × Nat))) : Prop :=
  validFileV2CommonId fileId = true ∧
    match status, ranges with
    | .missing, some ranges => RangesFit ranges
    | .missing, none => False
    | _, some _ => False
    | _, none => True

/-- The document of a record decodes to what was to be sent, under a signature
that verifies. -/
def Answered (identity : Identity crypto) (record : AckRecord) : Prop :=
  ∃ document ack unsigned, record.document = some document ∧ FileAckV2Payload.decode document = some ack ∧
    ack.valid true = true ∧ ack.fileId = record.fileId ∧ ack.recipientId = identity.peerId ∧
    ack.status = record.status ∧
    ack.missingRanges = record.ranges.map (·.map fun range => ((range.1 : Int), (range.2 : Int))) ∧
    ack.signedDocument = some unsigned ∧
    crypto.verify identity.signingPublicKey ack.signature (crypto.canonical unsigned) = true

/-! ## Building one -/

theorem rangesFrom_of_ordered {ranges : List (Nat × Nat)} {previousEnd : Int}
    (ordered : Database.Ordered maxFileChunks ranges) (after : ∀ range ∈ ranges, previousEnd < (range.1 : Int)) :
    FileAckV2Payload.rangesFrom previousEnd (ranges.map fun range => ((range.1 : Int), (range.2 : Int))) = true := by
  induction ranges generalizing previousEnd with
  | nil => rfl
  | cons range rest ih =>
      obtain ⟨within, sorted⟩ := ordered
      obtain ⟨separate, remaining⟩ := List.pairwise_cons.mp sorted
      have first := within range (List.mem_cons_self ..)
      have later := ih ⟨fun other member => within other (List.mem_cons_of_mem _ member), remaining⟩
        fun other member => Int.ofNat_lt.mpr (separate other member)
      have previous := after range (List.mem_cons_self ..)
      simp only [List.map_cons, FileAckV2Payload.rangesFrom, later, Bool.and_true, Bool.and_eq_true, decide_eq_true_eq]
      omega

theorem validRanges_of_fit {ranges : List (Nat × Nat)} (fit : RangesFit ranges) :
    FileAckV2Payload.validRanges (some (ranges.map fun range => ((range.1 : Int), (range.2 : Int)))) = true := by
  obtain ⟨nonempty, ordered⟩ := fit
  have checked := rangesFrom_of_ordered ordered fun range _ => show (-1 : Int) < (range.1 : Int) by omega
  simp [FileAckV2Payload.validRanges, nonempty, checked]

/-- What fits passes the validation, before and after signing. -/
theorem valid_of_fits {fileId : String} {status : AckStatus} {ranges : Option (List (Nat × Nat))} {signature : Bytes}
    {requireSignature : Bool} (fits : AckFits fileId status ranges)
    (signed : requireSignature = true → signature.length = 64) :
    (ackPayload identity fileId status ranges signature).valid requireSignature = true := by
  obtain ⟨known, agreed⟩ := fits
  have ending : requireSignature = false ∨ decide (signature.length = 64) = true := by
    cases requireSignature with
    | false => exact .inl rfl
    | true => exact .inr (decide_eq_true (signed rfl))
  cases status with
  | missing =>
      cases ranges with
      | none => exact agreed.elim
      | some ranges =>
          simp [FileAckV2Payload.valid, ackPayload, known, identity.peerId_valid, validRanges_of_fit agreed]
          exact ending
  | completed =>
      cases ranges with
      | none =>
          simp [FileAckV2Payload.valid, ackPayload, known, identity.peerId_valid, FileAckV2Payload.validRanges]
          exact ending
      | some ranges => exact agreed.elim
  | blocked =>
      cases ranges with
      | none =>
          simp [FileAckV2Payload.valid, ackPayload, known, identity.peerId_valid, FileAckV2Payload.validRanges]
          exact ending
      | some ranges => exact agreed.elim

theorem ackDocument_answers {peer : FilePeer} {fileId : String} {status : AckStatus}
    {ranges : Option (List (Nat × Nat))} (fits : AckFits fileId status ranges) :
    ∃ document, ackDocument identity fileId status ranges = some document ∧
      Answered identity { peer, fileId, status, ranges, document := some document } := by
  have unsigned : (ackPayload identity fileId status ranges []).signedDocument =
      some (.object (ackPayload identity fileId status ranges []).unsignedMembers) :=
    if_pos (valid_of_fits fits (by simp))
  obtain ⟨signature, signs⟩ : ∃ signature, signature =
      identity.sign (crypto.canonical (.object (ackPayload identity fileId status ranges []).unsignedMembers)) := ⟨_, rfl⟩
  have length : signature.length = 64 := signs ▸ identity.sign_length _
  have valid : (ackPayload identity fileId status ranges signature).valid true = true :=
    valid_of_fits fits fun _ => length
  have resigned : (ackPayload identity fileId status ranges signature).signedDocument =
      some (.object (ackPayload identity fileId status ranges []).unsignedMembers) :=
    if_pos (valid_of_fits fits (by simp))
  obtain ⟨document, encoded⟩ : ∃ document, (ackPayload identity fileId status ranges signature).encode =
      some document := ⟨_, if_pos valid⟩
  refine ⟨document, ?_, document, _, _, rfl, FileAckV2Payload.decode_encode encoded, valid, rfl, rfl, rfl, rfl, resigned, ?_⟩
  · rw [ackDocument, unsigned, Option.bind_eq_bind, Option.bind_some, ← signs, encoded]
  · exact signs ▸ identity.sign_verifies _

/-! ## What the tasks keep -/

structure RowFits (row : FileTransfer) : Prop where
  known : validFileV2CommonId row.fileId = true
  nonempty : 1 ≤ row.totalChunks
  bounded : row.totalChunks ≤ maxFileChunks

/-- What an offer's validation leaves behind in the rows it creates. -/
def OfferedRow (row : FileTransfer) : Prop := row.direction = .inbound → row.fileSha256 ≠ "" → RowFits row

def WellFormed (db : Database) : Prop := ∀ row ∈ db.fileTransfers.rows, OfferedRow row

structure Answering (identity : Identity crypto) (receiver : Receiver) : Prop where
  rows : WellFormed receiver.db
  stored : WellFormed receiver.committed
  answered : ∀ record ∈ receiver.acks, Answered identity record

/-- No offer is deferred: none is decided while a storage switch is under way,
and each admission finds the limits kept. -/
def Undeferred : FilePoint → Fate → Receiver → Prop
  | .offerMigration _, _, receiver => receiver.migrationInProgress = false
  | .admission offer rows, fate, _ => withinLimits offer rows fate.freeBytes = true
  | _, _, _ => True

abbrev Safe (identity : Identity crypto) (exit : α → Prop) (task : Program α) : Prop :=
  Preserves (Answering identity) Undeferred exit task

theorem whole_fits {total : Nat} (nonempty : 1 ≤ total) (bounded : total ≤ maxFileChunks) :
    RangesFit [(0, total - 1)] := by
  refine ⟨List.cons_ne_nil _ _, fun range member => ?_, List.pairwise_singleton _ _⟩
  cases List.mem_singleton.mp member
  exact ⟨Nat.zero_le _, by omega⟩

theorem WellFormed.update {db : Database} {chosen : FileTransfer → Bool} {change : FileTransfer → FileTransfer}
    {keeps : ∀ row, (change row).fileId = row.fileId} (formed : WellFormed db)
    (same : ∀ row, OfferedRow row → OfferedRow (change row)) :
    WellFormed { db with fileTransfers := db.fileTransfers.updateWhere chosen change keeps } := by
  intro row member
  have updated : row ∈ (db.fileTransfers.updateWhere chosen change keeps).rows := member
  rw [Table.mem_updateWhere] at updated
  obtain ⟨old, present, rfl⟩ := updated
  split
  · exact same old (formed old present)
  · exact formed old present

theorem WellFormed.save {db : Database} {transfer : FileTransfer} (formed : WellFormed db) (offered : OfferedRow transfer) :
    WellFormed (db.saveFileTransfer transfer) := by
  intro row member
  rcases Table.mem_insertOrReplace.mp member with ⟨present, -⟩ | rfl
  · exact formed row present
  · exact offered

/-- Every statement but a save leaves the offered columns of each row alone. -/
theorem WellFormed.apply {db : Database} {statement : FileStatement} {now : Time} (formed : WellFormed db)
    (offered : ∀ transfer, statement = .save transfer → OfferedRow transfer) : WellFormed (statement.apply now db) := by
  have same : ∀ {row other : FileTransfer}, other.direction = row.direction → other.fileSha256 = row.fileSha256 →
      other.fileId = row.fileId → other.totalChunks = row.totalChunks → OfferedRow row → OfferedRow other := by
    intro row other direction hash id total offered inbound hashed
    obtain ⟨known, nonempty, bounded⟩ := offered (direction ▸ inbound) (hash ▸ hashed)
    exact ⟨id ▸ known, total ▸ nonempty, total ▸ bounded⟩
  cases statement with
  | save transfer => exact formed.save (offered transfer rfl)
  | setStatus fileId status => exact formed.update fun _ => same rfl rfl rfl rfl
  | setCompleted fileId => exact formed.update fun _ => same rfl rfl rfl rfl
  | abandon fileId => exact formed.update fun _ => same rfl rfl rfl rfl
  | setReceivedChunks fileId count => exact formed.update fun _ => same rfl rfl rfl rfl
  | insertReceivedChunk fileId chunkIndex => exact formed
  | deleteReceivedChunks fileId => exact formed
  | removeFromQueue fileId => exact formed
  | markSeen fileId => exact formed
  | queueAck recipientId fileId payload => exact formed

theorem WellFormed.find {db : Database} {fileId : String} {transfer : FileTransfer} (formed : WellFormed db)
    (found : db.getFileTransfer fileId = some transfer) : OfferedRow transfer ∧ transfer.fileId = fileId := by
  obtain ⟨member, same⟩ := Table.find?_some_iff.mp found
  exact ⟨formed transfer member, same⟩

theorem Answering.updateDb {receiver : Receiver} {update : Database → Database} (answering : Answering identity receiver)
    (kept : WellFormed receiver.db → WellFormed (update receiver.db)) : Answering identity (receiver.updateDb update) :=
  ⟨kept answering.rows, answering.stored, answering.answered⟩

section Programs

variable {exit : α → Prop} {peer : FilePeer} {offer : FileOfferV2Payload} {chunk : FileChunkV2Payload}
  {transfer : FileTransfer} {fileId : String}

theorem query_safe {read : Receiver → α} (known : ∀ receiver, Answering identity receiver → exit (read receiver)) :
    Safe identity exit (query read) :=
  Preserves.perform fun _ => Handler.Ensures.read fun seen held =>
    Handler.Ensures.pure fun state same => by rw [same]; exact ⟨held.1, known seen held.1⟩

theorem execute_safe {statement : FileStatement}
    (offered : ∀ transfer, statement = .save transfer → OfferedRow transfer) :
    Safe identity (fun _ => True) (execute statement) :=
  Preserves.perform fun _ => Handler.Ensures.change fun _ held =>
    ⟨held.1.updateDb fun formed => formed.apply offered, trivial⟩

theorem statement_safe {statement : FileStatement} (other : ∀ transfer, statement ≠ .save transfer) :
    Safe identity (fun _ => True) (execute statement) :=
  execute_safe fun transfer same => absurd same (other transfer)

theorem commit_safe : Safe identity (fun _ => True) commit :=
  Preserves.perform fun _ => Handler.Ensures.change fun _ held =>
    ⟨⟨held.1.rows, held.1.rows, held.1.answered⟩, trivial⟩

/-- An action on the memory of the process or on the disk. -/
theorem local_safe {point : FilePoint} {update : Fate → Receiver → Receiver}
    (kept : ∀ fate receiver, (update fate receiver).db = receiver.db ∧
      (update fate receiver).committed = receiver.committed ∧ (update fate receiver).acks = receiver.acks) :
    Safe identity (fun _ => True) (Task.perform point fun fate => Handler.change (update fate)) :=
  Preserves.perform fun fate => Handler.Ensures.change fun receiver held => by
    obtain ⟨rows, stored, acks⟩ := kept fate receiver
    exact ⟨⟨rows ▸ held.1.rows, stored ▸ held.1.stored, acks ▸ held.1.answered⟩, trivial⟩

theorem onlyIf_safe {condition : Bool} {body : Program Unit} (safe : condition = true → Safe identity (fun _ => True) body) :
    Safe identity (fun _ => True) (onlyIf condition body) :=
  Preserves.ite safe fun _ => Preserves.pure trivial

theorem logged_safe {body : Program Unit} (safe : Safe identity (fun _ => True) body) :
    Safe identity (fun _ => True) (body.recover logAndDrop) :=
  Preserves.recover safe fun _ => Preserves.pure trivial

theorem sendAck_safe {status : AckStatus} {ranges : Option (List (Nat × Nat))} (fits : AckFits fileId status ranges) :
    Safe identity (fun _ => True) (sendAck dumps identity peer fileId status ranges) := by
  refine Preserves.ite (fun _ => Preserves.pure trivial) fun _ => ?_
  obtain ⟨document, built, answers⟩ := @ackDocument_answers crypto identity peer fileId status ranges fits
  refine Preserves.bind (Q := fun _ => True) (Preserves.perform fun _ => ?_) fun sent _ => ?_
  · refine Handler.Ensures.bind (Q := fun _ => Answering identity) (Handler.Ensures.change fun receiver held => ?_)
      fun _ => Handler.Ensures.orRaise (fun _ held _ => held) fun _ _ held _ => ⟨held, trivial⟩
    refine ⟨held.1.rows, held.1.stored, fun record member => ?_⟩
    rcases List.mem_append.mp member with earlier | added
    · exact held.1.answered record earlier
    · cases List.mem_singleton.mp added
      rw [built]
      exact answers
  · refine Preserves.recover (Preserves.perform fun fate => ?_) fun _ =>
      Preserves.bind (statement_safe (by simp)) fun _ _ => commit_safe
    refine Handler.Ensures.bind (Handler.Ensures.refuse (Q := fun _ => Answering identity)
      (fun _ held _ => held.1) fun _ held _ => held.1) fun _ => Handler.Ensures.change fun receiver held =>
        ⟨⟨held.rows, held.stored, held.answered⟩, trivial⟩

theorem authorizedInbound_safe {groupId : Option String} :
    Safe identity (fun _ => True) (authorizedInbound identity peer groupId) := by
  have asks : ∀ {β : Type} {read : Receiver → β}, Safe identity (fun _ => True) (query read) :=
    query_safe fun _ _ => trivial
  refine Preserves.bind asks fun _ _ => Preserves.ite (fun _ => Preserves.pure trivial) fun _ =>
    Preserves.ite (fun _ => asks) fun _ => Preserves.bind asks fun _ _ => Preserves.bind asks fun _ _ =>
      Preserves.ite (fun _ => Preserves.bind asks fun _ _ => Preserves.pure trivial) fun _ => Preserves.pure trivial

theorem read_safe {point : FilePoint} {read : Fate → Receiver → α}
    (known : ∀ fate receiver, Answering identity receiver → Undeferred point fate receiver → exit (read fate receiver)) :
    Safe identity exit (Task.perform point fun fate => do
      let receiver ← Handler.read
      pure (read fate receiver)) :=
  Preserves.perform fun fate => Handler.Ensures.read fun seen held =>
    Handler.Ensures.pure fun state same => by rw [same]; exact ⟨held.1, known fate seen held.1 held.2⟩

theorem recreateFile_keeps {fate : Fate} : (recreateFile transfer fate).Ensures (Answering identity)
    (fun _ receiver => Answering identity receiver) (Answering identity) := by
  have stored : ∀ {receiver : Receiver} {path : Path} {content : Bytes} {mtime : Time}, Answering identity receiver →
      Answering identity (receiver.storeFile path content mtime) := fun held => ⟨held.rows, held.stored, held.answered⟩
  refine Handler.Keeps.bind Handler.Keeps.refuse fun _ => Handler.Keeps.bind
    (Handler.Keeps.change fun _ held => ⟨held.rows, held.stored, held.answered⟩) fun _ => ?_
  cases fate.disk with
  | none => exact Handler.Keeps.bind (Handler.Keeps.change fun _ => stored) fun _ => Handler.Keeps.pure
  | atUnlink => exact Handler.Keeps.bind (Handler.Keeps.change fun _ => stored) fun _ => Handler.Keeps.pure
  | atOpen => exact Handler.Keeps.pure
  | afterWriting bytes => exact Handler.Keeps.bind (Handler.Keeps.change fun _ => stored) fun _ => Handler.Keeps.pure

theorem retryFile_safe {point : FilePoint} :
    Safe identity (fun _ => True) (Task.perform point fun fate => retryFile transfer fate) := by
  refine Preserves.perform fun fate => Handler.Ensures.read fun seen held => Handler.Ensures.ite
    (fun _ => Handler.Ensures.pure fun _ same => same ▸ ⟨held.1, trivial⟩) fun _ => ?_
  refine Handler.Ensures.bind (Q := fun _ => Answering identity) (Handler.Ensures.change fun receiver same => ?_)
    fun _ => recreateFile_keeps.weaken (fun _ => id) (fun _ _ kept => ⟨kept, trivial⟩) fun _ => id
  rw [same]
  exact ⟨held.1.rows, held.1.stored, held.1.answered⟩

theorem completeInboundTransfer_safe (fits : RowFits transfer) :
    Safe identity (fun _ => True) (completeInboundTransfer dumps identity peer transfer) := by
  refine Preserves.bind (Q := fun _ => True) (read_safe fun _ _ _ _ => trivial) fun valid _ =>
    Preserves.ite (fun _ => ?_) fun _ => ?_
  · refine Preserves.bind (local_safe fun _ _ => ⟨rfl, rfl, rfl⟩) fun _ _ => ?_
    refine Preserves.bind (statement_safe (by simp)) fun _ _ => Preserves.bind (statement_safe (by simp)) fun _ _ => ?_
    exact Preserves.bind commit_safe fun _ _ => sendAck_safe ⟨fits.known, trivial⟩
  · refine Preserves.bind (statement_safe (by simp)) fun _ _ => Preserves.bind commit_safe fun _ _ => ?_
    refine Preserves.bind (Q := fun _ => True) retryFile_safe fun recreated _ =>
      Preserves.ite (fun _ => ?_) fun _ => Preserves.pure trivial
    refine Preserves.bind (statement_safe (by simp)) fun _ _ => Preserves.bind (statement_safe (by simp)) fun _ _ => ?_
    refine Preserves.bind (statement_safe (by simp)) fun _ _ => Preserves.bind commit_safe fun _ _ => ?_
    exact Preserves.bind commit_safe fun _ _ => sendAck_safe ⟨fits.known, whole_fits fits.nonempty fits.bounded⟩

theorem checkChunk_safe (offered : OfferedRow transfer) :
    Safe identity (fun _ => RowFits transfer) (Task.perform (.checkChunk transfer chunk) fun _ => checkChunk transfer chunk) := by
  refine Preserves.perform fun _ => Handler.Ensures.read fun seen held => ?_
  refine Handler.Ensures.bind (Q := fun _ state => state = seen) (Handler.Ensures.refuse
    (fun _ same _ => same ▸ held.1) fun _ same _ => same) fun _ => ?_
  refine Handler.Ensures.bind (Q := fun _ state => state = seen ∧ RowFits transfer) (Handler.Ensures.refuse
    (fun _ same _ => same ▸ held.1) fun _ same passed => ⟨same, ?_⟩) fun _ => ?_
  · have hashed : transfer.fileSha256 ≠ "" := fun empty => passed (.inl empty)
    have inbound : transfer.direction = .inbound := by
      by_contra outbound
      exact passed (.inr (.inl outbound))
    exact offered inbound hashed
  · exact Handler.Ensures.refuse (fun _ same _ => same.1 ▸ held.1) fun _ same _ => ⟨same.1 ▸ held.1, same.2⟩

theorem writeChunk_safe {point : FilePoint} :
    Safe identity (fun _ => True) (Task.perform point fun fate => writeChunk identity transfer chunk fate) := by
  have stored : ∀ {receiver : Receiver} {path : Path} {content : Bytes} {mtime : Time}, Answering identity receiver →
      Answering identity (receiver.storeFile path content mtime) := fun held => ⟨held.rows, held.stored, held.answered⟩
  have kept : ∀ fate, (writeChunk identity transfer chunk fate).Keeps (Answering identity) := ?_
  · exact Preserves.perform fun fate => (kept fate).weaken (fun _ held => held.1) (fun _ _ kept => ⟨kept, trivial⟩) fun _ => id
  intro fate
  refine Handler.Keeps.bind Handler.Keeps.orRaise fun plaintext => Handler.Keeps.bind Handler.Keeps.refuse fun _ =>
    Handler.Keeps.read fun seen _ => ?_
  split
  · exact Handler.Keeps.bind (Handler.Keeps.change fun _ => stored) fun _ => Handler.Keeps.pure
  · exact Handler.Keeps.bind (Handler.Keeps.change fun _ => stored) fun _ => Handler.Keeps.pure
  · exact Handler.Keeps.pure

theorem storeChunk_safe (offered : OfferedRow transfer) :
    Safe identity (fun _ => True) (storeChunk dumps identity peer chunk transfer) := by
  refine Preserves.bind (checkChunk_safe offered) fun _ fits => ?_
  refine Preserves.bind (Q := fun _ => True) (query_safe fun _ _ => trivial) fun received _ =>
    Preserves.ite (fun _ => Preserves.pure trivial) fun _ => Preserves.bind writeChunk_safe fun written _ => Preserves.ite (fun _ => ?_) fun _ => ?_
  · refine Preserves.bind (statement_safe (by simp)) fun _ _ =>
      Preserves.bind (Q := fun _ => True) (query_safe fun _ _ => trivial) fun count _ => ?_
    refine Preserves.bind (statement_safe (by simp)) fun _ _ => Preserves.bind (onlyIf_safe fun _ => commit_safe) fun _ _ => ?_
    exact onlyIf_safe fun _ => completeInboundTransfer_safe fits
  · exact Preserves.bind (statement_safe (by simp)) fun _ _ => commit_safe

theorem replayChunk_safe (known : validFileV2CommonId fileId = true) :
    Safe identity (fun _ => True) (replayChunk dumps identity fileId peer chunk) := by
  refine Preserves.bind (Q := fun found => ∀ transfer, found = some transfer → OfferedRow transfer)
    (query_safe fun receiver held transfer found => (held.rows.find found).1) fun found offered => ?_
  cases found with
  | none => exact Preserves.pure trivial
  | some transfer =>
      refine Preserves.ite (fun _ => Preserves.pure trivial) fun _ => Preserves.bind authorizedInbound_safe fun allowed _ => ?_
      exact Preserves.ite (fun _ => storeChunk_safe (offered transfer rfl)) fun _ => sendAck_safe ⟨known, trivial⟩

theorem popEarlyChunks_safe : Safe identity (fun _ => True) (popEarlyChunks fileId) :=
  Preserves.perform fun _ => Handler.Ensures.read fun seen held =>
    Handler.Ensures.bind (Q := fun _ => Answering identity)
      (Handler.Ensures.change fun _ same => by rw [same]; exact ⟨held.1.rows, held.1.stored, held.1.answered⟩)
      fun _ => Handler.Ensures.pure fun _ kept => ⟨kept, trivial⟩

theorem replayEarly_safe (known : validFileV2CommonId fileId = true) :
    Safe identity (fun _ => True) (replayEarly dumps identity fileId) :=
  Preserves.bind popEarlyChunks_safe fun _ _ => Preserves.forEach fun _ _ => logged_safe (replayChunk_safe known)

theorem forgetReservation_safe : Safe identity (fun _ => True) (forgetReservation transfer) := by
  refine Preserves.bind (local_safe fun _ _ => ⟨rfl, rfl, rfl⟩) fun _ _ => ?_
  refine Preserves.bind (statement_safe (by simp)) fun _ _ => Preserves.bind (statement_safe (by simp)) fun _ _ => ?_
  refine Preserves.bind (statement_safe (by simp)) fun _ _ => Preserves.bind commit_safe fun _ _ => ?_
  exact Preserves.bind (statement_safe (by simp)) fun _ _ => commit_safe

theorem unlinkFile_safe {point : FilePoint} :
    Safe identity (fun _ => True) (Task.perform point fun fate => unlinkFile transfer fate) := by
  refine Preserves.perform fun fate => Handler.Ensures.bind (Q := fun _ => Answering identity)
    (Handler.Ensures.change fun receiver held => ?_) fun _ => Handler.Ensures.pure fun _ kept => ⟨kept, trivial⟩
  split
  · exact ⟨held.1.rows, held.1.stored, held.1.answered⟩
  · exact held.1

theorem expireTransfer_safe : Safe identity (fun _ => True) (expireTransfer transfer) := by
  refine Preserves.bind (Q := fun _ => True) (read_safe fun _ _ _ _ => trivial) fun state _ => ?_
  cases state with
  | none => exact forgetReservation_safe
  | some reclaim =>
      cases reclaim with
      | false => exact Preserves.pure trivial
      | true =>
          refine Preserves.bind (Q := fun _ => True) (query_safe fun _ _ => trivial) fun references _ =>
            Preserves.ite (fun _ => Preserves.pure trivial) fun _ => ?_
          exact Preserves.bind unlinkFile_safe fun unlinked _ => onlyIf_safe fun _ => forgetReservation_safe

theorem expireAbandoned_safe : Safe identity (fun _ => True) expireAbandoned :=
  Preserves.bind (Q := fun _ => True) (query_safe fun _ _ => trivial) fun _ _ =>
    Preserves.forEach fun _ _ => expireTransfer_safe

/-- In the runs considered an offer that gets as far as the limits is admitted. -/
theorem admitInbound_safe : Safe identity (fun admitted => admitted = true) (admitInbound offer) :=
  Preserves.bind expireAbandoned_safe fun _ _ => Preserves.bind (Q := fun _ => True) (query_safe fun _ _ => trivial)
    fun _ _ => Preserves.perform fun _ => Handler.Ensures.pure fun _ held => ⟨held.1, held.2⟩

theorem createInbound_safe : Safe identity (fun _ => True) (createInbound crypto offer) := by
  have stored : ∀ {receiver : Receiver} {path : Path} {content : Bytes} {mtime : Time}, Answering identity receiver →
      Answering identity (receiver.storeFile path content mtime) := fun held => ⟨held.rows, held.stored, held.answered⟩
  have kept : ∀ fate, (placeFile crypto offer fate).Keeps (Answering identity) := ?_
  · exact Preserves.perform fun fate => (kept fate).weaken (fun _ held => held.1) (fun _ _ kept => ⟨kept, trivial⟩) fun _ => id
  refine fun fate => Handler.Keeps.read fun seen _ => ?_
  split
  · exact Handler.Keeps.bind (Handler.Keeps.change fun _ => stored) fun _ => Handler.Keeps.pure
  · exact Handler.Keeps.bind (Handler.Keeps.change fun _ => stored) fun _ => Handler.Keeps.pure
  · exact Handler.Keeps.pure

theorem inboundTransfer_fits (valid : offer.valid = true) {path : Path} : RowFits (inboundTransfer offer path) := by
  simp only [FileOfferV2Payload.valid, Bool.and_eq_true, decide_eq_true_eq] at valid
  obtain ⟨⟨⟨⟨⟨⟨⟨⟨⟨⟨⟨⟨⟨⟨⟨⟨⟨⟨known, -⟩, -⟩, -⟩, sized⟩, -⟩, chunked⟩, -⟩, total⟩, bounded⟩, -⟩, -⟩, -⟩, -⟩, -⟩, -⟩, -⟩, -⟩, -⟩ := valid
  refine ⟨known, ?_, bounded⟩
  rw [inboundTransfer, total]
  exact (Nat.one_le_div_iff chunked).mpr (by omega)

theorem withInboundLock_safe {self : Nat} {body : Program Bool} (safe : Safe identity (fun _ => True) body) :
    Safe identity (fun _ => True) (withInboundLock self body) :=
  Preserves.bind (Preserves.acquire fun _ held => ⟨held.rows, held.stored, held.answered⟩) fun _ _ =>
    Preserves.ensuring safe (local_safe fun _ _ => ⟨rfl, rfl, rfl⟩)

theorem dropEarly_safe : Safe identity (fun _ => True) (dropEarly fileId) := local_safe fun _ _ => ⟨rfl, rfl, rfl⟩

theorem reserveOffer_safe (valid : offer.valid = true) :
    Safe identity (fun _ => True) (reserveOffer dumps identity peer offer) := by
  refine Preserves.bind admitInbound_safe fun admitted granted => Preserves.ite (fun _ => ?_) fun refused =>
    absurd granted refused
  refine Preserves.bind createInbound_safe fun created _ => ?_
  cases created with
  | none => exact Preserves.pure trivial
  | some path =>
      refine Preserves.bind (execute_safe fun transfer same => ?_) fun _ _ =>
        Preserves.bind commit_safe fun _ _ => Preserves.pure trivial
      cases same
      exact fun _ _ => inboundTransfer_fits valid

theorem recordOffer_safe {self : Nat} (valid : offer.valid = true) :
    Safe identity (fun _ => True) (recordOffer dumps identity self peer offer) :=
  Preserves.bind (withInboundLock_safe (reserveOffer_safe valid)) fun _ _ =>
    Preserves.bind (onlyIf_safe fun _ => Preserves.bind (statement_safe (by simp)) fun _ _ => commit_safe) fun _ _ =>
      Preserves.pure trivial

theorem lookUpSeen_safe {self : Nat} {point : FilePoint} :
    Safe identity (fun _ => True) (Task.perform point fun _ => lookUpSeen self offer) := by
  refine Preserves.perform fun _ => Handler.Ensures.read fun seen held => Handler.Ensures.bind
    (Q := fun _ => Answering identity) (Handler.Ensures.change fun receiver same => ?_) fun _ =>
      Handler.Ensures.pure fun _ kept => ⟨kept, trivial⟩
  split
  · exact same ▸ held.1
  · exact same ▸ ⟨held.1.rows, held.1.stored, held.1.answered⟩

theorem acceptOffer_safe {self : Nat} (valid : offer.valid = true) (known : validFileV2CommonId offer.fileId = true) :
    Safe identity (fun _ => True) (acceptOffer dumps identity self peer offer) := by
  refine Preserves.bind lookUpSeen_safe fun seen _ => Preserves.ite (fun _ => Preserves.pure trivial) fun _ => ?_
  refine Preserves.bind (Preserves.ensuring (recordOffer_safe valid) (local_safe fun _ _ => ⟨rfl, rfl, rfl⟩)) fun _ _ => ?_
  exact onlyIf_safe fun _ => replayEarly_safe known

theorem handleNewOffer_safe {self : Nat} (valid : offer.valid = true) (known : validFileV2CommonId offer.fileId = true) :
    Safe identity (fun _ => True) (handleNewOffer dumps identity self peer offer) := by
  refine Preserves.bind authorizedInbound_safe fun allowed _ => Preserves.ite (fun _ => ?_) fun _ =>
    Preserves.bind dropEarly_safe fun _ _ => sendAck_safe ⟨known, trivial⟩
  refine Preserves.bind (Q := fun migrating => migrating = false) (read_safe fun _ _ _ idle => idle) fun migrating idle => ?_
  exact Preserves.ite (fun busy => absurd (idle.symm.trans busy) Bool.false_ne_true) fun _ =>
    acceptOffer_safe valid known

theorem checkOffer_safe : Safe identity (fun _ => offer.valid = true)
    (Task.perform .checkPacket fun _ => checkOffer identity peer offer) := by
  have checked : (checkOffer identity peer offer).Ensures (Answering identity)
      (fun _ receiver => Answering identity receiver ∧ offer.valid = true) (Answering identity) := ?_
  · exact Preserves.perform fun _ => checked.weaken (fun _ held => held.1) (fun _ _ => id) fun _ => id
  refine Handler.Ensures.bind Handler.Keeps.refuse fun _ => ?_
  refine Handler.Ensures.bind (Q := fun _ state => Answering identity state ∧ offer.valid = true)
    (Handler.Ensures.refuse (fun _ held _ => held) fun _ held passed => ⟨held, by simpa using passed⟩) fun _ => ?_
  refine Handler.Ensures.bind (Q := fun _ state => Answering identity state ∧ offer.valid = true)
    (Handler.Ensures.refuse (fun _ held _ => held.1) fun _ held _ => held) fun _ => ?_
  exact Handler.Ensures.refuse (fun _ held _ => held.1) fun _ held _ => held

theorem FileOfferV2Payload.known_of_valid (valid : offer.valid = true) : validFileV2CommonId offer.fileId = true :=
  (@inboundTransfer_fits offer valid []).known

theorem handleOffer_safe {self : Nat} : Safe identity (fun _ => True) (handleOffer dumps identity self peer offer) := by
  refine Preserves.bind checkOffer_safe fun _ valid => ?_
  have known : validFileV2CommonId offer.fileId = true := FileOfferV2Payload.known_of_valid valid
  refine Preserves.bind (Q := fun _ => True) (query_safe fun _ _ => trivial) fun found _ => ?_
  cases found with
  | none => exact handleNewOffer_safe valid known
  | some existing =>
      refine Preserves.ite (fun _ => Preserves.failed) fun _ => ?_
      exact Preserves.bind (onlyIf_safe fun _ => sendAck_safe ⟨known, trivial⟩) fun _ _ => replayEarly_safe known

theorem checkChunkPacket_safe : Safe identity (fun _ => chunk.valid = true)
    (Task.perform .checkPacket fun _ => checkChunkPacket identity peer chunk) := by
  have checked : (checkChunkPacket identity peer chunk).Ensures (Answering identity)
      (fun _ receiver => Answering identity receiver ∧ chunk.valid = true) (Answering identity) := ?_
  · exact Preserves.perform fun _ => checked.weaken (fun _ held => held.1) (fun _ _ => id) fun _ => id
  refine Handler.Ensures.bind Handler.Keeps.refuse fun _ => ?_
  refine Handler.Ensures.bind (Q := fun _ state => Answering identity state ∧ chunk.valid = true)
    (Handler.Ensures.refuse (fun _ held _ => held) fun _ held passed => ⟨held, by simpa using passed⟩) fun _ => ?_
  refine Handler.Ensures.bind (Q := fun _ state => Answering identity state ∧ chunk.valid = true)
    (Handler.Ensures.refuse (fun _ held _ => held.1) fun _ held _ => held) fun _ => ?_
  exact Handler.Ensures.refuse (fun _ held _ => held.1) fun _ held _ => held

theorem handleChunk_safe : Safe identity (fun _ => True) (handleChunk dumps identity peer chunk) := by
  refine Preserves.bind checkChunkPacket_safe fun _ valid => ?_
  have known : validFileV2CommonId chunk.fileId = true := by
    simp only [FileChunkV2Payload.valid, Bool.and_eq_true] at valid
    exact valid.1.1.1.1.1.1.1.1
  refine Preserves.bind (Q := fun found => ∀ transfer, found = some transfer → OfferedRow transfer)
    (query_safe fun receiver held transfer found => (held.rows.find found).1) fun found offered => ?_
  cases found with
  | none =>
      refine local_safe fun fate receiver => ?_
      unfold keepEarlyChunk
      dsimp only
      split <;> exact ⟨rfl, rfl, rfl⟩
  | some transfer =>
      refine Preserves.ite (fun _ => sendAck_safe ⟨known, trivial⟩) fun _ =>
        Preserves.bind authorizedInbound_safe fun allowed _ => Preserves.ite (fun _ => ?_) fun _ =>
          sendAck_safe ⟨known, trivial⟩
      exact logged_safe (storeChunk_safe (offered transfer rfl))

/-- A resume asks for ranges the validation accepts, whatever has been received. -/
theorem resumeRanges_fit {received : Nat → Bool} (fits : RowFits transfer)
    (asked : resumeRanges transfer (Database.missingRanges received transfer.totalChunks) ≠ []) :
    RangesFit (resumeRanges transfer (Database.missingRanges received transfer.totalChunks)) := by
  unfold resumeRanges at asked ⊢
  split at asked
  · rename_i whole
    rw [if_pos whole]
    exact whole_fits fits.nonempty fits.bounded
  · rename_i partly
    rw [if_neg partly]
    exact ⟨asked, Database.missingRanges_ordered.widen fits.bounded⟩

theorem resumeTransfer_safe (fits : RowFits transfer) :
    Safe identity (fun _ => True) (resumeTransfer dumps identity peer transfer) := by
  refine Preserves.ite (fun _ => Preserves.pure trivial) fun _ => Preserves.bind authorizedInbound_safe fun allowed _ =>
    Preserves.ite (fun _ => ?_) fun _ => Preserves.pure trivial
  refine Preserves.ite (fun _ => sendAck_safe ⟨fits.known, trivial⟩) fun _ => Preserves.ite (fun _ => ?_) fun _ =>
    Preserves.pure trivial
  refine Preserves.bind (Q := fun missing => ∃ received, missing = Database.missingRanges received transfer.totalChunks)
    (read_safe fun _ _ _ _ => ⟨_, rfl⟩) fun missing ⟨received, computed⟩ => ?_
  subst computed
  exact Preserves.ite (fun _ => completeInboundTransfer_safe fits) fun asked =>
    sendAck_safe ⟨fits.known, resumeRanges_fit fits asked⟩

theorem resumeForPeer_safe : Safe identity (fun _ => True) (resumeForPeer dumps identity peer) := by
  refine Preserves.bind (Q := fun _ => True) (query_safe fun _ _ => trivial) fun blocked _ =>
    Preserves.ite (fun _ => Preserves.pure trivial) fun _ => ?_
  refine Preserves.bind (Q := fun rows => ∀ row ∈ rows, RowFits row) (query_safe fun receiver held row member => ?_)
    fun rows fit => Preserves.forEach fun row member => resumeTransfer_safe (fit row member)
  obtain ⟨stored, chosen⟩ := List.mem_filter.mp (List.mem_mergeSort.mp member)
  simp only [decide_eq_true_eq] at chosen
  exact held.rows row stored chosen.1 chosen.2.2

theorem handlePacket_safe {self : Nat} {packet : FilePacket} :
    Safe identity (fun _ => True) (handlePacket dumps identity self peer packet) := by
  refine Preserves.bind (Preserves.acquire fun _ held => ⟨held.rows, held.stored, held.answered⟩) fun _ _ => ?_
  refine Preserves.ensuring (logged_safe ?_) (local_safe fun _ _ => ⟨rfl, rfl, rfl⟩)
  cases packet with
  | offer offer => exact handleOffer_safe
  | chunk chunk => exact handleChunk_safe

theorem expireAbandonedInbound_safe {self : Nat} : Safe identity (fun _ => True) (expireAbandonedInbound self) := by
  refine Preserves.bind (withInboundLock_safe ?_) fun _ _ => Preserves.pure trivial
  refine Preserves.bind (Q := fun _ => True) (query_safe fun _ _ => trivial) fun migrating _ =>
    Preserves.ite (fun _ => Preserves.pure trivial) fun _ => ?_
  exact Preserves.bind expireAbandoned_safe fun _ _ => Preserves.pure trivial

end Programs

theorem fileService_fulfils : Pool.Fulfils (Contract.ofInvariant (Answering identity) Undeferred)
    (fileService dumps identity) := by
  refine Pool.Fulfils.ofInvariant (fun request _ => ?_) fun receiver held => ⟨held.stored, held.stored, held.answered⟩
  cases request with
  | packet peer packet => exact handlePacket_safe
  | resumeFor peer => exact resumeForPeer_safe
  | sweep => exact expireAbandonedInbound_safe
  | flushProgress => exact commit_safe
  | configure configuration =>
      exact Preserves.perform fun _ => Handler.Ensures.change fun _ held =>
        ⟨⟨held.1.rows, held.1.stored, held.1.answered⟩, trivial⟩

/-! ## Runs -/

instance : Decidable (Undeferred point fate receiver) := by
  cases point <;> simp only [Undeferred] <;> infer_instance

/-- The step does not defer an offer. -/
def DefersNothing (pool : Pool Receiver Fate FilePoint FileError) : PoolEvent Fate FileRequest → Prop
  | .resume index fate => ∀ point ∈ pool.pointAt index, Undeferred point fate pool.shared
  | _ => True

instance {pool : Pool Receiver Fate FilePoint FileError} {event : PoolEvent Fate FileRequest} :
    Decidable (DefersNothing pool event) := by
  cases event <;> simp only [DefersNothing] <;> infer_instance

/-- Within two actions, whatever runs between them, the document is handed to
the peer manager or is in the outgoing queue. -/
def SentOrQueued (dumps : Json → Bytes) (peer : FilePeer) (document : Json) (task : Program Unit) : Prop :=
  ∀ fate before, ∃ rest after, task.resume fate before = some (rest, after) ∧
    ((rest = .done () ∧ (peer.peerId, document) ∈ after.sent) ∨
      ∀ later interim, ∃ last stored, rest.resume later interim = some (last, stored) ∧
        ∃ row ∈ stored.db.outgoingQueue.rows, row.recipientId = peer.peerId ∧
          row.packetType = PacketType.fileAckV2.value ∧ row.encryptedPayload = dumps document)

/-- The rest of `_send_ack` once the document has been built. -/
def dispatchAck (dumps : Json → Bytes) (peer : FilePeer) (fileId : String) (document : Json) : Program Unit :=
  (sendPacket peer document).recover fun _ => queueAck dumps peer fileId document

theorem transmit_eq {peer : FilePeer} {document : Json} {fate : Fate} {receiver : Receiver} :
    transmit peer document fate receiver = if fate.sendFails then (.error .sendError, receiver)
      else (.ok (), { receiver with sent := receiver.sent ++ [(peer.peerId, document)] }) := by
  rw [transmit, Handler.bind_apply, Handler.refuse]
  cases fate.sendFails <;> rfl

theorem dispatchAck_sentOrQueued {peer : FilePeer} {fileId : String} {document : Json} :
    SentOrQueued dumps peer document (dispatchAck dumps peer fileId document) := by
  intro fate before
  have resumed : (dispatchAck dumps peer fileId document).resume fate before =
      some ((Task.ofOutcome (transmit peer document fate before).1).recover fun _ => queueAck dumps peer fileId document,
        (transmit peer document fate before).2) := rfl
  refine ⟨_, _, resumed, ?_⟩
  rw [transmit_eq]
  cases fate.sendFails with
  | false => exact .inl ⟨rfl, List.mem_append.mpr (.inr (List.mem_singleton.mpr rfl))⟩
  | true =>
      refine .inr fun later interim => ⟨_, _, rfl, ?_⟩
      obtain ⟨row, member, -, -, -, recipient, type, payload⟩ := @Database.addToOutqueue_adds
        peer.peerId PacketType.fileAckV2.value (dumps document) (some fileId) none later.now interim.db
      exact ⟨row, member, recipient, type, payload⟩

theorem allowed_of_defersNothing {pool : Pool Receiver Fate FilePoint FileError} {event : PoolEvent Fate FileRequest}
    (none : DefersNothing pool event) : Pool.Allowed Undeferred pool event := by
  cases event with
  | resume index fate => exact none
  | start request => trivial
  | restart => trivial

/-- A deferral never produces a document: it carries no ranges. -/
theorem deferral_raises {fileId : String} : ackDocument identity fileId .missing none = none := by
  simp [ackDocument, FileAckV2Payload.signedDocument, ackPayload, FileAckV2Payload.valid, FileAckV2Payload.validRanges]

def alice : FilePeer where
  peerId := "alice"
  capabilities := [capFileTransferV2, capBlockReports]
  signingPublicKey := some []

def aliceFileId := "0123456789ab4def8123456789abcdef"

def aliceTransfer : FileTransfer where
  fileId := aliceFileId
  filename := "notes.txt"
  fileSize := 3
  chunkSize := 2
  totalChunks := 2
  senderId := "alice"
  recipientId := "self"
  groupId := none
  direction := .inbound
  status := .transferring
  filePath := some ["files", "alice", "notes_1.txt"]
  createdAt := 1
  completedAt := none
  receivedChunks := 1
  fileSha256 := "abc"
  caption := ""
  batchId := none
  batchIndex := none
  batchCount := none
  awaitingAckAt := none

def receiverWith (db : Database) (migrationInProgress : Bool) : Receiver where
  db
  committed := db
  rooms := none
  files := ∅
  filesBase := ["files"]
  packetLocks := ∅
  inboundLock := none
  earlyChunks := ∅
  integrityRetries := []
  migrationInProgress
  acks := []
  sent := []
  accepting := ∅

def calm : Fate where
  now := 2
  monotonic := 2
  freeBytes := none
  disk := .none
  sendFails := false

def resumed (count : Nat) : List (PoolEvent Fate FileRequest) := List.replicate count (.resume 0 calm)

def halfReceived : Database :=
  { friends := ["alice"]
    fileTransfers := Table.insertOrIgnore ∅ aliceTransfer
    fileReceivedChunks := Table.insertOrIgnore ∅ { fileId := aliceFileId, chunkIndex := 0 } }

theorem halfReceived_formed : WellFormed halfReceived := by
  intro row member _ _
  rcases Table.mem_insertOrIgnore.mp member with impossible | ⟨rfl, -⟩
  · cases impossible
  · exact ⟨by decide +kernel, by decide, by decide⟩

def aliceOffer : FileOfferV2Payload where
  fileId := aliceFileId
  filename := "notes.txt"
  fileSize := 3
  chunkSize := 2
  totalChunks := 2
  fileSha256 := "ba7816bf8f01cfea414140de5dae2223b00361a396177a9cb410ff61f20015ad"
  senderId := "alice"
  recipientId := "self"
  createdAt := 1
  signature := List.replicate 64 0
  groupId := none
  caption := ""
  batchId := none
  batchIndex := none
  batchCount := none

end MeshTalk.Files
