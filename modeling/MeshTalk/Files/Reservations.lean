import MeshTalk.Files.Acknowledgements
import MeshTalk.Files.Actions

namespace MeshTalk.Files

open MeshTalk.Library MeshTalk.Protocol MeshTalk.Store

/-! # One row for each offered file

The look-up of the row, the look-up of the seen ids and the insert of an offer
are separate steps.  What makes them one is that no other offer of the same id
passes the second look-up before the first one has recorded its id.
-/

variable {crypto : FileCrypto} {fileId : String}

namespace Receiver

variable (receiver : Receiver)

/-- What the first accepted offer of a file has fixed: sender, size, hash, number
of chunks and local path. -/
def recordedOffer (fileId : String) : Option (PeerId × Nat × String × Nat × Option Path) :=
  (receiver.db.getFileTransfer fileId).map fun row =>
    (row.senderId, row.fileSize, row.fileSha256, row.totalChunks, row.filePath)

/-- A handler that finds the id unseen and unclaimed may still create the row. -/
def Settled (fileId : String) : Prop :=
  receiver.recordedOffer fileId = none ∨ receiver.db.isMessageSeen fileId = true ∨
    receiver.accepting.get? fileId ≠ none

end Receiver

/-- What actions that neither create the row of the file nor accept an offer of
it leave as it was. -/
structure Undisturbed (fileId : String) (before after : Receiver) : Prop where
  row : after.recordedOffer fileId = before.recordedOffer fileId
  seen : before.db.isMessageSeen fileId = true → after.db.isMessageSeen fileId = true
  accepting : after.accepting.get? fileId = before.accepting.get? fileId

/-- What a task that is accepting an offer of the file relies on. -/
structure Respects (fileId : String) (task : Nat) (before after : Receiver) : Prop where
  owned : before.accepting.get? fileId = some task → after.accepting.get? fileId = some task
  vacant : before.accepting.get? fileId = some task → before.recordedOffer fileId = none →
    after.recordedOffer fileId = none
  seen : before.db.isMessageSeen fileId = true → after.db.isMessageSeen fileId = true
  settled : before.Settled fileId → after.Settled fileId

/-- No offer of the file passes the look-up of its id while another one is being
accepted, and the reservation of the file is not abandoned. -/
def Uncontended (fileId : String) : FilePoint → Fate → Receiver → Prop
  | .seenCheck offer _, _, receiver => offer.fileId = fileId →
      receiver.db.isMessageSeen fileId = true ∨ receiver.accepting.get? fileId = none
  | .execute (.abandon abandoned), _, _ => abandoned ≠ fileId
  | _, _, _ => True

/-- The recorded offer of the file stays, and its row is saved only where there
is none. -/
structure CreatesOnce (fileId : String) (point : FilePoint) (before after : Receiver) : Prop where
  kept : before.recordedOffer fileId ≠ none → after.recordedOffer fileId = before.recordedOffer fileId
  created : ∀ transfer, point = .execute (.save transfer) → transfer.fileId = fileId →
    before.recordedOffer fileId = none ∧ after.recordedOffer fileId ≠ none

def reserving (fileId : String) : Contract Receiver Fate FilePoint where
  invariant := fun _ => True
  rely := Respects fileId
  admits := Uncontended fileId
  guarantees := fun point _ => CreatesOnce fileId point

/-! ## Actions in the background -/

theorem Undisturbed.of_db {before after : Receiver} (db : after.db = before.db)
    (accepting : after.accepting = before.accepting) : Undisturbed fileId before after := by
  refine ⟨?_, fun seen => db ▸ seen, by rw [accepting]⟩
  rw [Receiver.recordedOffer, Receiver.recordedOffer, db]

theorem recordedOffer_update {receiver : Receiver} {chosen : FileTransfer → Bool}
    {change : FileTransfer → FileTransfer} {keeps : ∀ row, (change row).fileId = row.fileId}
    (same : ∀ row, row.fileId = fileId → chosen row = true → (change row).senderId = row.senderId ∧
      (change row).fileSize = row.fileSize ∧ (change row).fileSha256 = row.fileSha256 ∧
      (change row).totalChunks = row.totalChunks ∧ (change row).filePath = row.filePath) :
    (receiver.updateDb fun db => { db with fileTransfers := db.fileTransfers.updateWhere chosen change keeps }).recordedOffer
      fileId = receiver.recordedOffer fileId := by
  change ((receiver.db.fileTransfers.updateWhere chosen change keeps).find? fileId).map _ =
    (receiver.db.fileTransfers.find? fileId).map _
  rw [Table.find?_updateWhere, Option.map_map]
  refine Option.map_congr fun row found => ?_
  simp only [Function.comp_apply]
  split
  · rename_i selected
    obtain ⟨sender, size, hash, total, path⟩ := same row (Table.find?_some_iff.mp found).2 selected
    rw [sender, size, hash, total, path]
  · rfl

theorem recordedOffer_save {receiver : Receiver} {transfer : FileTransfer} (other : fileId ≠ transfer.fileId) :
    (receiver.updateDb fun db => db.saveFileTransfer transfer).recordedOffer fileId = receiver.recordedOffer fileId := by
  change ((receiver.db.fileTransfers.insertOrReplace transfer).find? fileId).map _ = _
  rw [Table.find?_insertOrReplace, if_neg other]
  rfl

theorem recordedOffer_saved {receiver : Receiver} {transfer : FileTransfer} :
    (receiver.updateDb fun db => db.saveFileTransfer transfer).recordedOffer transfer.fileId ≠ none := by
  change ((receiver.db.fileTransfers.insertOrReplace transfer).find? transfer.fileId).map _ ≠ none
  rw [Table.find?_insertOrReplace, if_pos rfl]
  exact Option.some_ne_none _

theorem statement_undisturbed {statement : FileStatement} {now : Time} {receiver : Receiver}
    (creates : ∀ transfer, statement = .save transfer → transfer.fileId ≠ fileId)
    (abandons : statement ≠ .abandon fileId) :
    Undisturbed fileId receiver (receiver.updateDb (statement.apply now)) := by
  have sameRows : ∀ {update : Database → Database}, (∀ db, (update db).fileTransfers = db.fileTransfers) →
      (receiver.updateDb update).recordedOffer fileId = receiver.recordedOffer fileId := by
    intro update same
    simp only [Receiver.recordedOffer, Receiver.updateDb, Database.getFileTransfer, same]
  cases statement with
  | save transfer => exact ⟨recordedOffer_save (creates transfer rfl).symm, id, rfl⟩
  | abandon abandoned =>
      refine ⟨recordedOffer_update fun row same chosen => ?_, id, rfl⟩
      exact absurd (congrArg FileStatement.abandon ((of_decide_eq_true chosen).symm.trans same)) abandons
  | setStatus other status => exact ⟨recordedOffer_update fun _ _ _ => ⟨rfl, rfl, rfl, rfl, rfl⟩, id, rfl⟩
  | setCompleted other => exact ⟨recordedOffer_update fun _ _ _ => ⟨rfl, rfl, rfl, rfl, rfl⟩, id, rfl⟩
  | setReceivedChunks other count => exact ⟨recordedOffer_update fun _ _ _ => ⟨rfl, rfl, rfl, rfl, rfl⟩, id, rfl⟩
  | insertReceivedChunk other chunkIndex => exact ⟨sameRows fun _ => rfl, id, rfl⟩
  | deleteReceivedChunks other => exact ⟨sameRows fun _ => rfl, id, rfl⟩
  | removeFromQueue other => exact ⟨sameRows fun _ => rfl, id, rfl⟩
  | queueAck recipientId other payload => exact ⟨sameRows fun _ => rfl, id, rfl⟩
  | markSeen other => exact ⟨sameRows fun _ => rfl, fun seen => Table.holds_insertOrIgnore.mpr (.inl seen), rfl⟩

/-- Handlers that touch neither the database nor the acceptances. -/
abbrev Handler.Local (handler : Action α) (seen : Receiver) : Prop :=
  handler.Keeps fun receiver => receiver.db = seen.db ∧ receiver.accepting = seen.accepting

theorem recreateFile_local {transfer : FileTransfer} {fate : Fate} {seen : Receiver} :
    Handler.Local (recreateFile transfer fate) seen := by
  refine Handler.Keeps.bind Handler.Keeps.refuse fun _ => Handler.Keeps.bind
    (Handler.Keeps.change fun _ => id) fun _ => ?_
  cases fate.disk with
  | none => exact Handler.Keeps.bind (Handler.Keeps.change fun _ => id) fun _ => Handler.Keeps.pure
  | atUnlink => exact Handler.Keeps.bind (Handler.Keeps.change fun _ => id) fun _ => Handler.Keeps.pure
  | atOpen => exact Handler.Keeps.pure
  | afterWriting bytes => exact Handler.Keeps.bind (Handler.Keeps.change fun _ => id) fun _ => Handler.Keeps.pure

theorem retryFile_local {transfer : FileTransfer} {fate : Fate} {seen : Receiver} :
    Handler.Local (retryFile transfer fate) seen :=
  Handler.Keeps.read fun _ _ => Handler.Keeps.ite (fun _ => Handler.Keeps.pure) fun _ =>
    Handler.Keeps.bind (Handler.Keeps.change fun _ => id) fun _ => recreateFile_local

theorem writeChunk_local {identity : Identity crypto} {transfer : FileTransfer} {chunk : FileChunkV2Payload}
    {fate : Fate} {seen : Receiver} : Handler.Local (writeChunk identity transfer chunk fate) seen := by
  refine Handler.Keeps.bind Handler.Keeps.orRaise fun plaintext => Handler.Keeps.bind Handler.Keeps.refuse fun _ =>
    Handler.Keeps.read fun _ _ => ?_
  split
  · exact Handler.Keeps.bind (Handler.Keeps.change fun _ => id) fun _ => Handler.Keeps.pure
  · exact Handler.Keeps.bind (Handler.Keeps.change fun _ => id) fun _ => Handler.Keeps.pure
  · exact Handler.Keeps.pure

theorem placeFile_local {offer : FileOfferV2Payload} {fate : Fate} {seen : Receiver} :
    Handler.Local (placeFile crypto offer fate) seen := by
  refine Handler.Keeps.read fun _ _ => ?_
  split
  · exact Handler.Keeps.bind (Handler.Keeps.change fun _ => id) fun _ => Handler.Keeps.pure
  · exact Handler.Keeps.bind (Handler.Keeps.change fun _ => id) fun _ => Handler.Keeps.pure
  · exact Handler.Keeps.pure

theorem unlinkFile_local {transfer : FileTransfer} {fate : Fate} {seen : Receiver} :
    Handler.Local (unlinkFile transfer fate) seen := by
  refine Handler.Keeps.bind (Handler.Keeps.change fun receiver held => ?_) fun _ => Handler.Keeps.pure
  split
  · exact held
  · exact held

theorem buildAck_local {identity : Identity crypto} {peer : FilePeer} {fileId : String} {status : AckStatus}
    {ranges : Option (List (Nat × Nat))} {seen : Receiver} :
    Handler.Local (buildAck identity peer fileId status ranges) seen :=
  Handler.Keeps.bind (Handler.Keeps.change fun _ => id) fun _ => Handler.Keeps.orRaise

theorem transmit_local {peer : FilePeer} {document : Json} {fate : Fate} {seen : Receiver} :
    Handler.Local (transmit peer document fate) seen :=
  Handler.Keeps.bind Handler.Keeps.refuse fun _ => Handler.Keeps.change fun _ => id

theorem keepEarlyChunk_local {peer : FilePeer} {chunk : FileChunkV2Payload} {fate : Fate} {receiver : Receiver} :
    (keepEarlyChunk peer chunk fate receiver).db = receiver.db ∧
      (keepEarlyChunk peer chunk fate receiver).accepting = receiver.accepting := by
  unfold keepEarlyChunk
  dsimp only
  split <;> exact ⟨rfl, rfl⟩

theorem lookUpSeen_eq {offer : FileOfferV2Payload} {holder : Nat} {receiver : Receiver} :
    lookUpSeen holder offer receiver =
      (.ok (receiver.db.isMessageSeen offer.fileId), if receiver.db.isMessageSeen offer.fileId then receiver
        else { receiver with accepting := receiver.accepting.set offer.fileId holder }) := rfl

theorem background_undisturbed {identity : Identity crypto} {point : FilePoint} {fate : Fate} {receiver : Receiver}
    (background : point.Background fileId) (admitted : Uncontended fileId point fate receiver) :
    Undisturbed fileId receiver (point.effect identity fate receiver) := by
  have local_undisturbed : ∀ {α : Type} {handler : Action α}, Handler.Local handler receiver →
      Undisturbed fileId receiver (handler receiver).2 := by
    intro α handler keeps
    have kept : (handler receiver).2.db = receiver.db ∧ (handler receiver).2.accepting = receiver.accepting :=
      Handler.Keeps.finish keeps ⟨rfl, rfl⟩
    exact .of_db kept.1 kept.2
  cases point with
  | execute statement =>
      refine statement_undisturbed (fun transfer same => ?_) fun same => ?_
      · subst same; exact background
      · subst same; exact admitted rfl
  | seenCheck offer holder =>
      change Undisturbed fileId receiver (lookUpSeen holder offer receiver).2
      rw [lookUpSeen_eq]
      dsimp only
      split
      · exact .of_db rfl rfl
      · exact ⟨rfl, id, by rw [Dict.get?_set, if_neg (Ne.symm background)]⟩
  | endAccepting accepted =>
      refine ⟨rfl, id, ?_⟩
      change (receiver.accepting.erase accepted).get? fileId = receiver.accepting.get? fileId
      rw [Dict.get?_erase, if_neg (Ne.symm background)]
  | keepEarly peer chunk => exact .of_db keepEarlyChunk_local.1 keepEarlyChunk_local.2
  | createInbound offer => exact local_undisturbed placeFile_local
  | reclaim transfer => exact local_undisturbed unlinkFile_local
  | writeChunk transfer chunk => exact local_undisturbed writeChunk_local
  | recreate transfer => exact local_undisturbed retryFile_local
  | sendAck peer fileId status ranges => exact local_undisturbed buildAck_local
  | transmit peer document => exact local_undisturbed transmit_local
  | _ => exact ⟨rfl, id, rfl⟩

/-! ## The programs -/

section Programs

open Contract

variable {dumps : Json → Bytes} {identity : Identity crypto} {peer : FilePeer} {offer : FileOfferV2Payload}
  {self : Nat} {state : Receiver} {P : Receiver → Prop}

theorem Undisturbed.respects {before after : Receiver} (undisturbed : Undisturbed fileId before after) (other : Nat) :
    Respects fileId other before after := by
  obtain ⟨row, seen, accepting⟩ := undisturbed
  refine ⟨accepting.trans, fun _ vacant => row.trans vacant, seen, ?_⟩
  rintro (vacant | known | claimed)
  · exact .inl (row.trans vacant)
  · exact .inr (.inl (seen known))
  · exact .inr (.inr (accepting ▸ claimed))

/-- A step that leaves the row alone owes nothing else. -/
theorem Undisturbed.step {point : FilePoint} {fate : Fate} {before after : Receiver}
    (undisturbed : Undisturbed fileId before after)
    (creates : ∀ transfer, point = .execute (.save transfer) → transfer.fileId ≠ fileId) :
    (reserving fileId).Step self point fate before after :=
  ⟨trivial, ⟨fun _ => undisturbed.row, fun transfer same about => absurd about (creates transfer same)⟩,
    fun other _ => undisturbed.respects other⟩

/-- The row of the file may still be created by the task, and by no other. -/
structure Claimed (fileId : String) (task : Nat) (receiver : Receiver) : Prop where
  owned : receiver.accepting.get? fileId = some task
  vacant : receiver.recordedOffer fileId = none

theorem Claimed.stable : (reserving fileId).Stable self (Claimed fileId self) :=
  fun _ _ _ _ respects held => ⟨respects.owned held.owned, respects.vacant held.owned held.vacant⟩

theorem Claimed.undisturbed {before after : Receiver} (held : Claimed fileId self before)
    (undisturbed : Undisturbed fileId before after) : Claimed fileId self after :=
  ⟨undisturbed.accepting.trans held.owned, undisturbed.row.trans held.vacant⟩

theorem Receiver.Settled.stable : (reserving fileId).Stable self (Receiver.Settled · fileId) :=
  fun _ _ _ _ respects => respects.settled

theorem Receiver.Settled.undisturbed {before after : Receiver} (held : before.Settled fileId)
    (undisturbed : Undisturbed fileId before after) : after.Settled fileId :=
  (undisturbed.respects 0).settled held

/-- The row of the file may have been created, by no other task. -/
def Owns (fileId : String) (task : Nat) (receiver : Receiver) : Prop := receiver.accepting.get? fileId = some task

theorem Owns.stable : (reserving fileId).Stable self (Owns fileId self) :=
  fun _ _ _ _ respects owned => respects.owned owned

theorem Owns.undisturbed {before after : Receiver} (owned : Owns fileId self before)
    (undisturbed : Undisturbed fileId before after) : Owns fileId self after :=
  undisturbed.accepting.trans owned

/-- The claim has served its purpose. -/
structure Served (fileId : String) (task : Nat) (receiver : Receiver) : Prop where
  owned : receiver.accepting.get? fileId = some task
  settled : receiver.db.isMessageSeen fileId = true ∨ receiver.recordedOffer fileId = none

theorem Served.stable : (reserving fileId).Stable self (Served fileId self) :=
  fun _ _ _ _ respects held =>
    ⟨respects.owned held.owned, held.settled.imp respects.seen (respects.vacant held.owned)⟩

theorem Served.undisturbed {before after : Receiver} (held : Served fileId self before)
    (undisturbed : Undisturbed fileId before after) : Served fileId self after :=
  ⟨undisturbed.accepting.trans held.owned, held.settled.imp undisturbed.seen undisturbed.row.trans⟩

theorem Claimed.served {receiver : Receiver} (held : Claimed fileId self receiver) : Served fileId self receiver :=
  ⟨held.owned, .inr held.vacant⟩

theorem background_honours {task : Program α} (background : InBackground identity fileId task) (held : P state)
    (stable : (reserving fileId).Stable self P)
    (kept : ∀ before after, Undisturbed fileId before after → P before → P after) :
    (reserving fileId).Honours self (fun _ => P) (fun _ => P) task state :=
  Honours.ofFollows background held stable fun point fate before known _ held admitted => by
    have undisturbed : Undisturbed fileId before (point.effect identity fate before) :=
      background_undisturbed known admitted
    exact ⟨undisturbed.step fun transfer same => by subst same; exact known, kept before _ undisturbed held⟩

theorem background_keeps (identity : Identity crypto) {task : Program α} (background : InBackground identity fileId task) :
    (reserving fileId).Keeps self task state :=
  background_honours (P := fun _ => True) background trivial (fun _ _ _ _ _ _ => trivial) fun _ _ _ _ => trivial

/-- The insert of the task that has claimed the id is the first one. -/
theorem save_step {transfer : FileTransfer} {before : Receiver} {fate : Fate}
    (claimed : Claimed transfer.fileId self before) :
    (reserving transfer.fileId).Step self (.execute (.save transfer)) fate before
      (before.updateDb fun db => db.saveFileTransfer transfer) := by
  refine ⟨trivial, ⟨fun present => absurd claimed.vacant present, fun saved same _ => ?_⟩, fun other differs => ?_⟩
  · cases same
    exact ⟨claimed.vacant, recordedOffer_saved⟩
  · refine ⟨id, fun owned _ => ?_, id, fun _ => ?_⟩
    · exact absurd (Option.some.inj (owned.symm.trans claimed.owned)) differs
    · exact .inr (.inr fun absent => nomatch absent.symm.trans claimed.owned)

/-- An action that cannot raise. -/
theorem change_honours {point : FilePoint} {update : Fate → Receiver → Receiver} {exit : Receiver → Prop}
    {failure : FileError → Receiver → Prop} (held : P state) (stable : (reserving fileId).Stable self P)
    (acts : ∀ fate before, P before → Uncontended fileId point fate before →
      (reserving fileId).Step self point fate before (update fate before) ∧ exit (update fate before)) :
    (reserving fileId).Honours self (fun _ => exit) failure
      (Task.perform point fun fate => Handler.change (update fate)) state :=
  Honours.perform held stable fun fate before _ held admitted => acts fate before held admitted

theorem commit_honours {failure : FileError → Receiver → Prop} (held : P state)
    (stable : (reserving fileId).Stable self P)
    (kept : ∀ before after, Undisturbed fileId before after → P before → P after) :
    (reserving fileId).Honours self (fun _ => P) failure commit state :=
  change_honours held stable fun _ before held _ =>
    have undisturbed : Undisturbed fileId before before.commit := .of_db rfl rfl
    ⟨undisturbed.step fun _ => nofun, kept _ _ undisturbed held⟩

theorem reserveOffer_honours (claimed : Claimed offer.fileId self state) :
    (reserving offer.fileId).Honours self
      (fun accepted receiver => Owns offer.fileId self receiver ∧ (accepted = false → Claimed offer.fileId self receiver))
      (fun _ => Claimed offer.fileId self) (reserveOffer dumps identity peer offer) state := by
  have inClaim : ∀ {α : Type} {task : Program α} {state : Receiver}, InBackground identity offer.fileId task →
      Claimed offer.fileId self state → (reserving offer.fileId).Honours self (fun _ => Claimed offer.fileId self)
        (fun _ => Claimed offer.fileId self) task state :=
    fun background held => background_honours background held Claimed.stable fun _ _ undisturbed held =>
      held.undisturbed undisturbed
  refine Honours.bind ((inClaim admitInbound_background claimed).weaken (fun admitted state held => ?_) fun _ _ => id)
  cases admitted with
  | false =>
      refine Honours.bind ((inClaim dropEarly_background held).weaken (fun _ state held => ?_) fun _ _ => id)
      exact Honours.bind ((inClaim sendAck_background held).weaken (fun _ _ held => ⟨held.owned, fun _ => held⟩)
        fun _ _ => id)
  | true =>
      refine Honours.bind ((inClaim createInbound_background held).weaken (fun path state held => ?_) fun _ _ => id)
      cases path with
      | none => exact ⟨held.owned, fun _ => held⟩
      | some path =>
          refine Honours.bind (Honours.perform held Claimed.stable fun fate before _ held _ =>
            ⟨@save_step self (inboundTransfer offer path) before fate held, ?_⟩)
          refine Honours.bind ((commit_honours held.owned Owns.stable fun _ _ undisturbed owned =>
            owned.undisturbed undisturbed).weaken (fun _ _ owned => ?_) fun _ _ => id)
          exact ⟨owned, fun impossible => nomatch impossible⟩

theorem recordOffer_honours (claimed : Claimed offer.fileId self state) :
    (reserving offer.fileId).Honours self (fun _ => Served offer.fileId self) (fun _ => Claimed offer.fileId self)
      (recordOffer dumps identity self peer offer) state := by
  have unlocks : ∀ {P exit : Receiver → Prop} {failure : FileError → Receiver → Prop} {state : Receiver},
      P state → (reserving offer.fileId).Stable self P →
      (∀ before after, Undisturbed offer.fileId before after → P before → exit after) →
      (reserving offer.fileId).Honours self (fun _ : Unit => exit) failure (Task.perform .unlockInbound fun _ =>
        Handler.change fun receiver => { receiver with inboundLock := none }) state :=
    fun held stable kept => change_honours held stable fun _ before held _ =>
      have undisturbed : Undisturbed offer.fileId before { before with inboundLock := none } := .of_db rfl rfl
      ⟨undisturbed.step fun _ => nofun, kept _ _ undisturbed held⟩
  refine Honours.bind (Honours.bind (Honours.acquire claimed Claimed.stable fun _ before _ held _ _ => ?_))
  have undisturbed : Undisturbed offer.fileId before { before with inboundLock := some self } := .of_db rfl rfl
  refine ⟨undisturbed.step fun _ => nofun, Honours.ensuring ((reserveOffer_honours (held.undisturbed undisturbed)).weaken
    (fun accepted state reserved => ?_) fun error state held => ?_)⟩
  · cases accepted with
    | false =>
        exact unlocks (reserved.2 rfl) Claimed.stable fun before after undisturbed held =>
          (held.undisturbed undisturbed).served
    | true =>
        refine unlocks reserved.1 Owns.stable fun before after undisturbed owned => Honours.bind (Honours.bind ?_)
        refine change_honours (owned.undisturbed undisturbed) Owns.stable fun fate before owned _ => ?_
        have marked : Undisturbed offer.fileId before
            (before.updateDb ((FileStatement.markSeen offer.fileId).apply fate.now)) :=
          statement_undisturbed (fun _ => nofun) nofun
        refine ⟨marked.step fun _ => nofun, commit_honours (P := Served offer.fileId self) ?_ Served.stable
          fun _ _ undisturbed held => held.undisturbed undisturbed⟩
        exact ⟨owned.undisturbed marked, .inl (Table.holds_insertOrIgnore.mpr (.inr rfl))⟩
  · exact unlocks held Claimed.stable fun _ _ undisturbed held => held.undisturbed undisturbed

/-- Claiming an id that nobody has claimed. -/
theorem claim_step {before : Receiver} {fate : Fate} (settled : before.Settled offer.fileId)
    (unseen : before.db.isMessageSeen offer.fileId = false)
    (admitted : Uncontended offer.fileId (.seenCheck offer self) fate before) :
    (reserving offer.fileId).Step self (.seenCheck offer self) fate before
        { before with accepting := before.accepting.set offer.fileId self } ∧
      Claimed offer.fileId self { before with accepting := before.accepting.set offer.fileId self } := by
  have unclaimed : before.accepting.get? offer.fileId = none := by
    rcases admitted rfl with seen | unclaimed
    · exact absurd (seen.symm.trans unseen) (by decide)
    · exact unclaimed
  have vacant : before.recordedOffer offer.fileId = none := by
    rcases settled with vacant | seen | claimed
    · exact vacant
    · exact absurd (seen.symm.trans unseen) (by decide)
    · exact absurd unclaimed claimed
  have owned : (before.accepting.set offer.fileId self).get? offer.fileId = some self := by
    rw [Dict.get?_set, if_pos rfl]
  refine ⟨⟨trivial, ⟨fun _ => rfl, fun _ => nofun⟩, fun other _ => ⟨fun held => ?_, fun _ => id, id, fun _ => ?_⟩⟩,
    owned, vacant⟩
  · exact nomatch unclaimed.symm.trans held
  · exact .inr (.inr fun absent => nomatch absent.symm.trans owned)

/-- Giving up a claim that has served its purpose. -/
theorem release_step {before : Receiver} {fate : Fate} (served : Served fileId self before) :
    (reserving fileId).Step self (.endAccepting fileId) fate before
      { before with accepting := before.accepting.erase fileId } := by
  refine ⟨trivial, ⟨fun _ => rfl, fun _ => nofun⟩, fun other differs => ⟨fun held => ?_, fun _ => id, id, fun _ => ?_⟩⟩
  · exact absurd (Option.some.inj (held.symm.trans served.owned)) differs
  · rcases served.settled with seen | vacant
    · exact .inr (.inl seen)
    · exact .inl vacant

theorem acceptOffer_keeps (settled : state.Settled offer.fileId) :
    (reserving offer.fileId).Keeps self (acceptOffer dumps identity self peer offer) state := by
  refine Honours.bind (Honours.perform settled Receiver.Settled.stable fun fate before _ settled admitted => ?_)
  rw [lookUpSeen_eq]
  cases seen : before.db.isMessageSeen offer.fileId with
  | true => exact ⟨(Undisturbed.of_db rfl rfl).step fun _ => nofun, trivial⟩
  | false =>
      obtain ⟨claims, claimed⟩ := claim_step settled seen admitted
      refine ⟨claims, Honours.bind (Honours.ensuring ((recordOffer_honours claimed).weaken
        (fun accepted state served => ?_) fun error state held => ?_))⟩
      · exact change_honours served Served.stable fun fate before held _ => ⟨release_step held,
          background_keeps identity (onlyIf_follows replayEarly_background)⟩
      · exact change_honours held.served Served.stable fun fate before held _ => ⟨release_step held, trivial⟩

theorem handleNewOffer_keeps (settled : state.Settled offer.fileId) :
    (reserving offer.fileId).Keeps self (handleNewOffer dumps identity self peer offer) state := by
  have meanwhile : ∀ {α : Type} {task : Program α} {state : Receiver}, InBackground identity offer.fileId task →
      state.Settled offer.fileId → (reserving offer.fileId).Honours self
        (fun _ receiver => receiver.Settled offer.fileId) (fun _ receiver => receiver.Settled offer.fileId) task state :=
    fun background held => background_honours (P := fun receiver => receiver.Settled offer.fileId) background held
      Receiver.Settled.stable fun _ _ undisturbed held => held.undisturbed undisturbed
  refine Honours.bind ((meanwhile (authorizedInbound_follows trivial) settled).weaken (fun allowed state settled => ?_)
    fun _ _ _ => trivial)
  cases allowed with
  | false => exact background_keeps identity (Task.Follows.bind dropEarly_background fun _ => sendAck_background)
  | true =>
      have asks : InBackground identity offer.fileId (Task.perform (.offerMigration offer) fun _ => do
          let receiver ← Handler.read
          pure receiver.migrationInProgress : Program Bool) := Task.Follows.perform trivial fun _ _ => rfl
      refine Honours.bind ((meanwhile asks settled).weaken (fun migrating state settled => ?_) fun _ _ _ => trivial)
      cases migrating with
      | true => exact background_keeps identity (Task.Follows.bind dropEarly_background fun _ => sendAck_background)
      | false => exact acceptOffer_keeps settled

theorem handleOffer_keeps :
    (reserving offer.fileId).Keeps self (handleOffer dumps identity self peer offer) state := by
  refine Honours.bind ((background_keeps identity (checkPacket_follows trivial fun _ => checkOffer_keeps)).weaken
    (fun _ state _ => ?_) fun _ _ => id)
  refine Honours.bind (Honours.perform (P := fun _ => True) trivial (fun _ _ _ _ _ _ => trivial)
    fun fate before _ _ _ => ⟨(Undisturbed.of_db rfl rfl).step (by rintro _ ⟨⟩), ?_⟩)
  rw [Handler.read_bind, Handler.pure_apply]
  dsimp only
  cases found : before.db.getFileTransfer offer.fileId with
  | none => exact handleNewOffer_keeps (.inl (by rw [Receiver.recordedOffer, found]; rfl))
  | some existing =>
      have background : InBackground identity offer.fileId (if conflicts existing offer then
          Task.failed (.valueError "Conflicting file offer")
        else do
          onlyIf (existing.status = .completed) (sendAck dumps identity peer offer.fileId .completed none)
          replayEarly dumps identity offer.fileId) :=
        Task.Follows.ite Task.Follows.failed
          (Task.Follows.bind (onlyIf_follows sendAck_background) fun _ => replayEarly_background)
      exact background_keeps identity background

theorem handled_keeps {packet : FilePacket} : (reserving fileId).Keeps self (match packet with
    | .offer offer => handleOffer dumps identity self peer offer
    | .chunk chunk => handleChunk dumps identity peer chunk) state := by
  cases packet with
  | offer offer =>
      by_cases about : offer.fileId = fileId
      · subst about
        exact handleOffer_keeps
      · exact background_keeps identity (handleOffer_background about)
  | chunk chunk => exact background_keeps identity handleChunk_background

theorem handlePacket_keeps {packet : FilePacket} :
    (reserving fileId).Keeps self (handlePacket dumps identity self peer packet) state := by
  refine Honours.bind (Honours.acquire (P := fun _ => True) trivial (fun _ _ _ _ _ _ => trivial)
    fun fate before _ _ _ _ => ?_)
  have undisturbed : Undisturbed fileId before { before with packetLocks := before.packetLocks.set peer.peerId self } :=
    .of_db rfl rfl
  refine ⟨undisturbed.step (by rintro _ ⟨⟩), ?_⟩
  have unlocked : ∀ {state : Receiver}, (reserving fileId).Keeps self (Task.perform (.unlockPeer peer.peerId) fun _ =>
      Handler.change fun receiver => { receiver with packetLocks := receiver.packetLocks.erase peer.peerId } : Program Unit)
      state := background_keeps identity (Task.Follows.perform trivial fun _ _ => rfl)
  refine Honours.ensuring (Honours.recover (handled_keeps.weaken (fun _ _ _ => ?_) fun _ _ _ => ?_))
  · exact unlocked
  · exact unlocked

end Programs

theorem fileService_reserves {dumps : Json → Bytes} {identity : Identity crypto} :
    Pool.Fulfils (reserving fileId) (fileService dumps identity) where
  starts := by
    intro request self state _
    cases request with
    | packet peer packet => exact handlePacket_keeps
    | resumeFor peer => exact background_keeps identity resumeForPeer_background
    | sweep => exact background_keeps identity expireAbandonedInbound_background
    | flushProgress => exact background_keeps identity (commit_follows trivial)
    | configure configuration => exact background_keeps identity (Task.Follows.perform trivial fun _ _ => rfl)
  reboots := fun _ _ => trivial

/-! ## Runs -/

instance : Decidable (Uncontended fileId point fate receiver) := by
  induction point using FilePoint.casesOn with
  | execute statement => induction statement using FileStatement.casesOn <;> dsimp only [Uncontended] <;> infer_instance
  | _ => dsimp only [Uncontended]; infer_instance

/-- The step inserts a row for the file. -/
def creates (fileId : String) (pool : Pool Receiver Fate FilePoint FileError) : PoolEvent Fate FileRequest → Bool
  | .resume index _ =>
      match pool.pointAt index with
      | some (.execute (.save transfer)) => decide (transfer.fileId = fileId)
      | _ => false
  | _ => false

section Runs

variable {dumps : Json → Bytes} {identity : Identity crypto} {pool next : Pool Receiver Fate FilePoint FileError}
  {event : PoolEvent Fate FileRequest}

theorem creates_iff : creates fileId pool event = true ↔ ∃ index fate transfer, event = .resume index fate ∧
    pool.pointAt index = some (.execute (.save transfer)) ∧ transfer.fileId = fileId := by
  constructor
  · intro created
    cases event with
    | resume index fate =>
        simp only [creates] at created
        split at created
        · rename_i transfer located
          exact ⟨index, fate, transfer, rfl, located, of_decide_eq_true created⟩
        · cases created
    | start request => cases created
    | restart => cases created
  · rintro ⟨index, fate, transfer, rfl, located, same⟩
    simp [creates, located, same]

/-- One step of a pool whose acceptances do not overlap. -/
theorem step_creates (sound : Pool.Sound (reserving fileId) pool)
    (allowed : Pool.Allowed (Uncontended fileId) pool event ∧ event.Running)
    (stepped : pool.step (fileService dumps identity) event = some next) :
    Pool.Sound (reserving fileId) next ∧
      (∀ offered, pool.shared.recordedOffer fileId = some offered → next.shared.recordedOffer fileId = some offered) ∧
      (creates fileId pool event = true →
        pool.shared.recordedOffer fileId = none ∧ next.shared.recordedOffer fileId ≠ none) := by
  obtain ⟨after, guaranteed⟩ := Pool.step_sound fileService_reserves sound allowed.1 stepped
  refine ⟨after, fun offered recorded => ?_, fun created => ?_⟩
  · cases event with
    | start request => cases stepped; exact recorded
    | restart => exact allowed.2.elim
    | resume index fate =>
        obtain ⟨point, ready, act, further, found, -⟩ := Pool.step_resume stepped
        have located : pool.pointAt index = some point := by rw [Pool.pointAt, found]; rfl
        have kept := (guaranteed index fate rfl point located).kept
          (fun absent => Option.some_ne_none offered (recorded.symm.trans absent))
        exact kept.trans recorded
  · obtain ⟨index, fate, transfer, rfl, located, rfl⟩ := creates_iff.mp created
    exact (guaranteed index fate rfl _ located).created transfer rfl rfl

/-- In every run in which no offer of a file passes the look-up of its id while
another one is being accepted, what the first offer of the file recorded stays,
and no second row is created for it while the process runs. -/
theorem one_row_for_each_file {start middle final : Pool Receiver Fate FilePoint FileError}
    {earlier later : List (PoolEvent Fate FileRequest)} (idle : start.tasks = [])
    (meets : Meets (Pool.step (fileService dumps identity)) (Pool.Allowed (Uncontended fileId)) start earlier)
    (reached : run (Pool.step (fileService dumps identity)) start earlier = some middle)
    (running : Meets (Pool.step (fileService dumps identity))
      (fun pool event => Pool.Allowed (Uncontended fileId) pool event ∧ event.Running) middle later)
    (completed : run (Pool.step (fileService dumps identity)) middle later = some final) :
    (∀ offered, middle.shared.recordedOffer fileId = some offered →
      final.shared.recordedOffer fileId = some offered ∧
        countSteps (Pool.step (fileService dumps identity)) (creates fileId) middle later = 0) ∧
      countSteps (Pool.step (fileService dumps identity)) (creates fileId) middle later ≤ 1 := by
  have initial : Pool.Sound (reserving fileId) start := ⟨trivial, fun index task found => by rw [idle] at found; cases found⟩
  have sound : Pool.Sound (reserving fileId) middle := Pool.run_sound fileService_reserves initial meets reached
  have preserved : ∀ pool event next, Pool.Sound (reserving fileId) pool →
      (Pool.Allowed (Uncontended fileId) pool event ∧ event.Running) → pool.step (fileService dumps identity) event = some next →
      Pool.Sound (reserving fileId) next ∧
        (pool.shared.recordedOffer fileId ≠ none → next.shared.recordedOffer fileId ≠ none) ∧
        (creates fileId pool event = true →
          ¬ pool.shared.recordedOffer fileId ≠ none ∧ next.shared.recordedOffer fileId ≠ none) := by
    intro pool event next sound allowed stepped
    obtain ⟨after, kept, created⟩ := step_creates sound allowed stepped
    refine ⟨after, fun present => ?_, fun creation => ⟨fun present => present (created creation).1, (created creation).2⟩⟩
    obtain ⟨offered, recorded⟩ := Option.ne_none_iff_exists'.mp present
    exact fun absent => nomatch absent.symm.trans (kept offered recorded)
  obtain ⟨once, spent⟩ := countSteps_once preserved sound running
  refine ⟨fun offered recorded => ⟨?_, spent fun absent => nomatch absent.symm.trans recorded⟩, once⟩
  refine (run_invariant (fun pool => Pool.Sound (reserving fileId) pool ∧ pool.shared.recordedOffer fileId = some offered)
    (fun pool event next held allowed stepped => ?_) ⟨sound, recorded⟩ running completed).2
  obtain ⟨after, kept, -⟩ := step_creates held.1 allowed stepped
  exact ⟨after, kept offered held.2⟩

/-! ### Two offers of one file, one after the other and interleaved -/

def roomy : Fate := { calm with freeBytes := some (2 ^ 40) }

def bob : FilePeer := { alice with peerId := "bob" }

/-- Another file under the id of Alice's. -/
def bobOffer : FileOfferV2Payload := { aliceOffer with senderId := "bob", fileSize := 4 }

def twoFriends : Pool Receiver Fate FilePoint FileError := ⟨receiverWith { friends := ["alice", "bob"] } false, []⟩

def turns (task count : Nat) : List (PoolEvent Fate FileRequest) := List.replicate count (.resume task roomy)

/-- Alice's offer is accepted before Bob's is looked at. -/
def aliceThenBob : List (PoolEvent Fate FileRequest) :=
  [.start (.packet alice (.offer aliceOffer)), .start (.packet bob (.offer bobOffer))] ++ turns 0 20 ++ turns 1 3

theorem alice_row_survives_bob :
    ∃ middle final, run (Pool.step (fileService (fun _ => []) plainIdentity)) twoFriends aliceThenBob = some middle ∧
      run (Pool.step (fileService (fun _ => []) plainIdentity)) middle (turns 1 1) = some final ∧
      ∃ offered, middle.shared.recordedOffer aliceFileId = some offered ∧
        final.shared.recordedOffer aliceFileId = some offered := by
  have checked : (run (Pool.step (fileService (fun _ => []) plainIdentity)) twoFriends aliceThenBob).any (fun middle =>
      (run (Pool.step (fileService (fun _ => []) plainIdentity)) middle (turns 1 1)).isSome &&
        (middle.shared.recordedOffer aliceFileId).isSome &&
        decide (Meets (Pool.step (fileService (fun _ => []) plainIdentity))
          (fun pool event => Pool.Allowed (Uncontended aliceFileId) pool event ∧ event.Running) middle (turns 1 1))) = true := by
    decide +kernel
  obtain ⟨middle, reached, found⟩ := Option.any_eq_true .. |>.mp checked
  simp only [Bool.and_eq_true, Option.isSome_iff_exists, decide_eq_true_eq] at found
  obtain ⟨⟨⟨final, completed⟩, offered, recorded⟩, running⟩ := found
  exact ⟨middle, final, reached, completed, offered, recorded,
    ((one_row_for_each_file rfl (by decide +kernel) reached running completed).1 offered recorded).1⟩

/-- Both offers have passed the look-up of the id when Alice's row is created;
Bob's replaces it. -/
def aliceAndBob : List (PoolEvent Fate FileRequest) :=
  [.start (.packet alice (.offer aliceOffer)), .start (.packet bob (.offer bobOffer))] ++ turns 0 7 ++ turns 1 7 ++ turns 0 8

theorem bob_replaces_alice_row :
    ∃ middle final, run (Pool.step (fileService (fun _ => []) plainIdentity)) twoFriends aliceAndBob = some middle ∧
      run (Pool.step (fileService (fun _ => []) plainIdentity)) middle (turns 1 7) = some final ∧
      (middle.shared.recordedOffer aliceFileId).map Prod.fst = some "alice" ∧
      (final.shared.recordedOffer aliceFileId).map Prod.fst = some "bob" ∧
      countSteps (Pool.step (fileService (fun _ => []) plainIdentity)) (creates aliceFileId) twoFriends
        (aliceAndBob ++ turns 1 7) = 2 := by
  have checked : (run (Pool.step (fileService (fun _ => []) plainIdentity)) twoFriends aliceAndBob).any (fun middle =>
      decide ((middle.shared.recordedOffer aliceFileId).map Prod.fst = some "alice") &&
        (run (Pool.step (fileService (fun _ => []) plainIdentity)) middle (turns 1 7)).any fun final =>
          decide ((final.shared.recordedOffer aliceFileId).map Prod.fst = some "bob")) = true := by
    decide +kernel
  obtain ⟨middle, reached, found⟩ := Option.any_eq_true .. |>.mp checked
  simp only [Bool.and_eq_true, Option.any_eq_true, decide_eq_true_eq] at found
  obtain ⟨first, final, completed, second⟩ := found
  exact ⟨middle, final, reached, completed, first, second, by decide +kernel⟩

end Runs

end MeshTalk.Files
