import MeshTalk.Deliveries.Statuses

namespace MeshTalk.Deliveries

open MeshTalk.Library MeshTalk.Protocol MeshTalk.Store MeshTalk.Files MeshTalk.Library.Contract

/-! # Completed deliveries

The handler of a recipient's acknowledgement looks at the delivery and writes
its status under the lock of that recipient's packets, so nobody can complete the
delivery in between.  Every other operation writes without that lock.
-/

namespace Completion

/-- No write undoes what is recorded as completed. -/
def Keeps (before after : Database) : Prop :=
  ∀ fileId recipientId, before.deliveryStatus fileId recipientId = some .completed →
    after.deliveryStatus fileId recipientId = some .completed

/-- What another task may do in the eyes of a task that holds packet locks. -/
structure Relied (holder : Nat) (before after : Sender) : Prop where
  locks : ∀ peerId, after.packetLocks.get? peerId = some holder ↔ before.packetLocks.get? peerId = some holder
  routes : Database.KeepsRoutes before.db after.db
  held : ∀ fileId peerId, before.packetLocks.get? peerId = some holder →
    before.db.deliveryStatus fileId peerId ≠ some .completed → after.db.deliveryStatus fileId peerId ≠ some .completed

/-- A status other than `completed` is written under the recipient's packet lock
or while the delivery is not completed. -/
def MayWrite (sender : Sender) (task : Nat) (fileId : String) (recipientId : PeerId) (status : FileStatus) : Prop :=
  status ≠ .completed → sender.packetLocks.get? recipientId ≠ some task →
    sender.db.deliveryStatus fileId recipientId ≠ some .completed

/-- The ids of new files are new, and no operation without the packet lock of the
recipient writes over a completed delivery. -/
def Guarded : SendPoint → SendFate → Sender → Prop
  | .execute _ (.save transfer), _, sender =>
      sender.db.getFileTransfer transfer.fileId = none ∧
        ∀ row ∈ sender.db.fileDeliveries.rows, row.fileId ≠ transfer.fileId
  | .execute task (.setDelivery fileId recipientId status), _, sender => MayWrite sender task fileId recipientId status
  | .execute task (.setDirect fileId recipientId status), _, sender => MayWrite sender task fileId recipientId status
  | .execute task (.setStatus fileId (some recipientId) status), _, sender =>
      MayWrite sender task fileId recipientId status
  | _, _, _ => True

instance {point : SendPoint} {fate : SendFate} {sender : Sender} : Decidable (Guarded point fate sender) := by
  induction point using SendPoint.casesOn with
  | execute task statement =>
      induction statement using SendStatement.casesOn with
      | setStatus fileId direct status => induction direct using Option.casesOn <;> dsimp only [Guarded, MayWrite] <;> infer_instance
      | _ => dsimp only [Guarded, MayWrite]; infer_instance
  | _ => dsimp only [Guarded]; infer_instance

/-- What is committed as completed is completed. -/
def contract : Contract Sender SendFate SendPoint where
  invariant := fun sender => Keeps sender.committed sender.db
  rely := Relied
  admits := Guarded
  guarantees := fun _ _ before after => Keeps before.db after.db ∧ Keeps before.committed after.committed

/-- The task holds the packet lock of this peer and no other. -/
def Locked (task : Nat) (lock : Option PeerId) (sender : Sender) : Prop :=
  ∀ peerId, sender.packetLocks.get? peerId = some task ↔ lock = some peerId

/-- The deliveries of the file whose recipients the task has locked are open. -/
def Open (task : Nat) (fileId : String) (sender : Sender) : Prop :=
  ∀ peerId, sender.packetLocks.get? peerId = some task → sender.db.deliveryStatus fileId peerId ≠ some .completed

def holds (task : Nat) (lock : Option PeerId) : Phase → Sender → Prop
  | .idle, sender => Locked task lock sender
  | .recognised transfer, sender => Locked task lock sender ∧ sender.Knows transfer
  | .drafting transfer _, sender | .ready transfer _, sender =>
      Locked task lock sender ∧ sender.Knows transfer ∧ Open task transfer.fileId sender

variable {task : Nat} {lock : Option PeerId} {phase : Phase} {before after sender : Sender} {transfer : FileTransfer}
  {unfinished : List PeerId} {recipientId : PeerId} {status : FileStatus} {point : SendPoint} {fate : SendFate}

theorem stable (lock : Option PeerId) (phase : Phase) : contract.Stable task (holds task lock phase) := by
  intro before after _ _ (relied : Relied task before after) held
  have locked : Locked task lock before → Locked task lock after := fun locked peerId =>
    (relied.locks peerId).trans (locked peerId)
  have opened : ∀ fileId, Open task fileId before → Open task fileId after := fun fileId opened peerId mine =>
    have ours := (relied.locks peerId).mp mine
    relied.held fileId peerId ours (opened peerId ours)
  cases phase with
  | idle => exact locked held
  | recognised transfer => exact ⟨locked held.1, held.2.kept relied.routes⟩
  | drafting transfer unfinished => exact ⟨locked held.1, held.2.1.kept relied.routes, opened _ held.2.2⟩
  | ready transfer unfinished => exact ⟨locked held.1, held.2.1.kept relied.routes, opened _ held.2.2⟩

/-- An action that writes no status leaves every phase and owes nothing. -/
structure Beside (before after : Sender) : Prop where
  deliveries : Database.KeepsDeliveries before.db after.db
  committed : after.committed = before.committed
  packetLocks : after.packetLocks = before.packetLocks

theorem beside_of_aside (aside : Aside before after) : Beside before after :=
  ⟨aside.deliveries, aside.committed, aside.packetLocks⟩

theorem Beside.step (beside : Beside before after) (invariant : contract.invariant before) :
    contract.Step task point fate before after := by
  refine ⟨?_, ⟨?_, ?_⟩, fun other _ => ⟨?_, beside.deliveries.routes, ?_⟩⟩
  · intro fileId recipientId committed
    rw [beside.committed] at committed
    rw [beside.deliveries.statuses]
    exact invariant fileId recipientId committed
  · intro fileId recipientId completed
    rw [beside.deliveries.statuses]
    exact completed
  · intro fileId recipientId committed
    rw [beside.committed]
    exact committed
  · intro peerId
    rw [beside.packetLocks]
  · intro fileId peerId _ opened
    rw [beside.deliveries.statuses]
    exact opened

theorem Beside.kept (phase : Phase) (beside : Beside before after) (held : holds task lock phase before) : holds task lock phase after := by
  have locked : Locked task lock before → Locked task lock after := fun locked peerId => by
    rw [beside.packetLocks]
    exact locked peerId
  have opened : ∀ fileId, Open task fileId before → Open task fileId after := fun fileId opened peerId mine => by
    rw [beside.packetLocks] at mine
    rw [beside.deliveries.statuses]
    exact opened peerId mine
  cases phase with
  | idle => exact locked held
  | recognised transfer => exact ⟨locked held.1, held.2.kept beside.deliveries.routes⟩
  | drafting transfer unfinished => exact ⟨locked held.1, held.2.1.kept beside.deliveries.routes, opened _ held.2.2⟩
  | ready transfer unfinished => exact ⟨locked held.1, held.2.1.kept beside.deliveries.routes, opened _ held.2.2⟩

/-- A commit makes the completed deliveries of the store those of the restart. -/
theorem commits (invariant : contract.invariant before) (held : holds task lock phase before) :
    contract.Step task (.commit task) fate before (before.commit task) ∧ holds task lock phase (before.commit task) := by
  refine ⟨⟨fun _ _ => id, ⟨fun _ _ => id, invariant⟩, fun other _ => ⟨fun _ => .rfl, .of_eq rfl, fun _ _ _ => id⟩⟩, ?_⟩
  cases phase <;> exact held

/-- A write over a delivery that is not completed. -/
theorem writes_step (writes : Database.WritesDelivery before.db after.db transfer.fileId recipientId status)
    (committed : after.committed = before.committed) (packetLocks : after.packetLocks = before.packetLocks)
    (invariant : contract.invariant before)
    (opened : before.db.deliveryStatus transfer.fileId recipientId ≠ some .completed)
    (owned : ∀ other, other ≠ task → status = .completed → before.packetLocks.get? recipientId ≠ some other) :
    contract.Step task point fate before after := by
  have kept : Keeps before.db after.db := fun other peerId completed => by
    rw [writes.others other peerId fun same => ?_]
    · exact completed
    · rw [same.1, same.2] at completed
      exact opened completed
  refine ⟨?_, ⟨kept, ?_⟩, fun other foreign => ⟨?_, writes.routes, ?_⟩⟩
  · intro other peerId completed
    rw [committed] at completed
    exact kept other peerId (invariant other peerId completed)
  · intro other peerId completed
    rw [committed]
    exact completed
  · intro peerId
    rw [packetLocks]
  · intro fileId peerId theirs unfinished completed
    by_cases same : fileId = transfer.fileId ∧ peerId = recipientId
    · rw [same.1, same.2] at completed
      have value := writes.written _ completed
      exact owned other foreign value.symm (same.2 ▸ theirs)
    · rw [writes.others fileId peerId same] at completed
      exact unfinished completed

/-- The delivery a task may write to is not completed. -/
theorem open_of_mayWrite (opened : Open task transfer.fileId sender) (other : status ≠ .completed)
    (granted : MayWrite sender task transfer.fileId recipientId status) :
    sender.db.deliveryStatus transfer.fileId recipientId ≠ some .completed := by
  by_cases mine : sender.packetLocks.get? recipientId = some task
  · exact opened recipientId mine
  · exact granted other mine

/-- A status other than `completed` is written, and the file stays open. -/
theorem writes_open (writes : Database.WritesDelivery before.db after.db transfer.fileId recipientId status)
    (committed : after.committed = before.committed) (packetLocks : after.packetLocks = before.packetLocks)
    (invariant : contract.invariant before) (other : status ≠ .completed)
    (granted : MayWrite before task transfer.fileId recipientId status)
    (held : Locked task lock before ∧ before.Knows transfer ∧ Open task transfer.fileId before) :
    contract.Step task point fate before after ∧
      Locked task lock after ∧ after.Knows transfer ∧ Open task transfer.fileId after := by
  refine ⟨?_, ?_, held.2.1.kept writes.routes, ?_⟩
  · exact writes_step writes committed packetLocks invariant (open_of_mayWrite held.2.2 other granted)
      fun _ _ same => absurd same other
  · intro peerId
    rw [packetLocks]
    exact held.1 peerId
  · intro peerId mine completed
    rw [packetLocks] at mine
    by_cases same : peerId = recipientId
    · subst same
      exact other (writes.written _ completed).symm
    · rw [writes.others transfer.fileId peerId fun both => same both.2] at completed
      exact held.2.2 peerId mine completed

def phases : Phases contract task where
  holds := holds task
  stable := stable
  unmoved := fun _ _ _ _ invariant unmoved => (beside_of_aside unmoved.aside).step invariant
  keeps := fun _ phase _ _ unmoved held => (beside_of_aside unmoved.aside).kept phase held
  commits := fun _ _ _ _ invariant held => commits invariant held

theorem recomputes (lock : Option PeerId) (phase : Phase) {R : SendError → Sender → Prop}
    (knows : ∀ sender, holds task lock phase sender → sender.Knows transfer) :
    contract.Triple task (holds task lock phase) (recomputeAggregate task transfer.fileId)
      (fun _ => holds task lock phase) R :=
  recomputeAggregate_aside (stable lock phase) knows (fun _ _ _ _ invariant aside => (beside_of_aside aside).step invariant)
    (fun _ _ aside held => (beside_of_aside aside).kept phase held) fun _ _ invariant held => commits invariant held

theorem delivery_open {peerId : PeerId} (found : sender.db.getFileTransfer transfer.fileId = some transfer)
    (outbound : transfer.direction = .outbound) (direct : transfer.group? = none) (same : transfer.recipientId = peerId)
    (other : transfer.status ≠ .completed) : sender.db.deliveryStatus transfer.fileId peerId ≠ some .completed := by
  rw [Database.deliveryStatus_of_row found, if_pos outbound, direct]
  simpa [same] using other

theorem groupDelivery_open {peerId : PeerId} {groupId : String} {delivery : FileDelivery} (knows : sender.Knows transfer)
    (group : transfer.group? = some groupId) (found : sender.db.getFileDelivery transfer.fileId peerId = some delivery)
    (other : delivery.status ≠ .completed) : sender.db.deliveryStatus transfer.fileId peerId ≠ some .completed := by
  obtain ⟨row, located, route⟩ := knows
  rw [Database.deliveryStatus_of_row located, route.group?, group, found]
  intro completed
  dsimp only at completed
  split at completed
  · exact other (Option.some.inj completed)
  · cases completed

theorem only_lock {P : PeerId → Prop} {peerId : PeerId} (locked : Locked task (some peerId) sender) (known : P peerId)
    (other : PeerId) (mine : sender.packetLocks.get? other = some task) : P other := by
  cases (locked other).mp mine
  exact known

/-- The deliveries of a row that is not there yet are open. -/
theorem saves_step (fresh : before.db.getFileTransfer transfer.fileId = none)
    (unsent : ∀ row ∈ before.db.fileDeliveries.rows, row.fileId ≠ transfer.fileId) (pending : transfer.status = .pending)
    (invariant : contract.invariant before) (now : Time) :
    contract.Step task (.execute task (.save transfer)) fate before (before.execute task (.save transfer) now) := by
  have saved : (before.execute task (.save transfer) now).db = before.db.saveFileTransfer transfer :=
    Sender.execute_frame.1
  have committed : (before.execute task (.save transfer) now).committed = before.committed := Sender.execute_frame.2.1
  have packetLocks : (before.execute task (.save transfer) now).packetLocks = before.packetLocks :=
    Sender.execute_frame.2.2
  cases known : transfer.group? with
  | none =>
      have writes := Database.saveFileTransfer_writesDelivery fresh known
      rw [← saved, pending] at writes
      refine writes_step writes committed packetLocks invariant ?_ fun _ _ same => by cases same
      rw [Database.deliveryStatus_none fresh]
      exact fun impossible => nomatch impossible
  | some groupId =>
      have keeps := Database.saveFileTransfer_keepsDeliveries fresh (Sender.unsent_delivery unsent)
        (by rw [known]; exact fun none => nomatch none)
      rw [← saved] at keeps
      exact Beside.step ⟨keeps, committed, packetLocks⟩ invariant

theorem locks_step {peerId : PeerId} (invariant : contract.invariant before)
    (free : before.packetLocks.contains peerId = false) (locked : Locked task none before) :
    let after := { before with packetLocks := before.packetLocks.set peerId task }
    contract.Step task point fate before after ∧ Locked task (some peerId) after := by
  have unheld : before.packetLocks.get? peerId = none := by
    unfold Dict.contains at free
    simpa using free
  refine ⟨⟨invariant, ⟨fun _ _ => id, fun _ _ => id⟩, fun other foreign => ⟨fun wanted => ?_, .of_eq rfl, fun _ _ _ => id⟩⟩,
    fun wanted => ?_⟩
  · change (before.packetLocks.set peerId task).get? wanted = some other ↔ _
    rw [Dict.get?_set]
    split
    · rename_i same
      subst same
      rw [unheld]
      exact ⟨fun mine => absurd (Option.some.inj mine).symm foreign, fun impossible => nomatch impossible⟩
    · exact .rfl
  · change (before.packetLocks.set peerId task).get? wanted = some task ↔ _
    rw [Dict.get?_set]
    split
    · rename_i same
      subst same
      exact ⟨fun _ => rfl, fun _ => rfl⟩
    · rename_i apart
      refine ⟨(fun mine => nomatch (locked wanted).mp mine), fun same => ?_⟩
      cases same
      exact absurd rfl apart

theorem unlocks_step {peerId : PeerId} (invariant : contract.invariant before)
    (locked : Locked task (some peerId) before) :
    let after := { before with packetLocks := before.packetLocks.erase peerId }
    contract.Step task point fate before after ∧ Locked task none after := by
  have mine : before.packetLocks.get? peerId = some task := (locked peerId).mpr rfl
  refine ⟨⟨invariant, ⟨fun _ _ => id, fun _ _ => id⟩, fun other foreign => ⟨fun wanted => ?_, .of_eq rfl, fun _ _ _ => id⟩⟩,
    fun wanted => ?_⟩
  · change (before.packetLocks.erase peerId).get? wanted = some other ↔ _
    rw [Dict.get?_erase]
    split
    · rename_i same
      subst same
      rw [mine]
      exact ⟨(fun impossible => nomatch impossible), fun same => absurd (Option.some.inj same).symm foreign⟩
    · exact .rfl
  · change (before.packetLocks.erase peerId).get? wanted = some task ↔ _
    rw [Dict.get?_erase]
    split
    · exact ⟨(fun impossible => nomatch impossible), fun impossible => nomatch impossible⟩
    · rename_i apart
      refine ⟨fun owned => ?_, fun impossible => nomatch impossible⟩
      exact absurd (Option.some.inj ((locked wanted).mp owned)).symm apart

theorem delivers_group (lock : Option PeerId) (unfinished next : List PeerId) {R : SendError → Sender → Prop} (group : transfer.group? ≠ none)
    (other : status ≠ .completed) :
    contract.Triple task (holds task lock (.drafting transfer unfinished))
      (store task (.setDelivery transfer.fileId recipientId status)) (fun _ => holds task lock (.drafting transfer next)) R :=
  phases.stores lock (.drafting transfer unfinished) (.drafting transfer next)
    fun _ _ invariant held admitted =>
      writes_open (Sender.writes_setDelivery held.2.1 group) Sender.execute_frame.2.1 Sender.execute_frame.2.2 invariant other
        admitted held

theorem delivers (lock : Option PeerId) (unfinished next : List PeerId) {R : SendError → Sender → Prop} (other : status ≠ .completed) :
    contract.Triple task (holds task lock (.drafting transfer unfinished)) (setDelivery task transfer recipientId status)
      (fun _ => holds task lock (.ready transfer next)) R := by
  refine phases.setsDelivery lock (.drafting transfer unfinished) (.drafting transfer next) (.ready transfer next)
    (fun group => delivers_group lock unfinished next group other)
    (fun _ => recomputes lock (.drafting transfer next) fun _ held => held.2.1) fun direct => ?_
  refine phases.stores lock (.drafting transfer unfinished) (.ready transfer next) fun _ _ invariant held admitted => ?_
  exact writes_open (Sender.writes_setDirect held.2.1 direct) Sender.execute_frame.2.1 Sender.execute_frame.2.2 invariant other
    admitted held

/-- The handler of the acknowledgement completes the delivery under the packet lock. -/
theorem completes {R : SendError → Sender → Prop} {peerId : PeerId} (route : addressee transfer peerId = peerId) :
    contract.Triple task (holds task (some peerId) (.ready transfer [])) (setDelivery task transfer peerId .completed)
      (fun _ => holds task (some peerId) .idle) R := by
  have owned : ∀ before, Locked task (some peerId) before → ∀ other, other ≠ task →
      before.packetLocks.get? peerId ≠ some other := fun before locked other foreign theirs => by
    rw [(locked peerId).mpr rfl] at theirs
    exact foreign (Option.some.inj theirs).symm
  refine (phases.setsDelivery (some peerId) (.ready transfer []) (.recognised transfer) (.recognised transfer)
    (fun group => ?_) (fun _ => recomputes (some peerId) (.recognised transfer) fun _ held => held.2) fun direct => ?_).weaken (fun _ => id) (fun _ _ held => held.1) fun _ _ => id
  · refine phases.stores (some peerId) (.ready transfer []) (.recognised transfer) fun fate before invariant held _ => ?_
    have writes : Database.WritesDelivery before.db
        (before.execute task (.setDelivery transfer.fileId peerId .completed) fate.now).db transfer.fileId peerId .completed :=
      Sender.writes_setDelivery held.2.1 group
    refine ⟨writes_step writes Sender.execute_frame.2.1 Sender.execute_frame.2.2 invariant
      (held.2.2 peerId ((held.1 peerId).mpr rfl)) fun other foreign _ => owned before held.1 other foreign, ?_, held.2.1.kept writes.routes⟩
    exact held.1
  · refine phases.stores (some peerId) (.ready transfer []) (.recognised transfer) fun fate before invariant held _ => ?_
    have same : transfer.recipientId = peerId := (addressee_direct direct).symm.trans route
    have writes : Database.WritesDelivery before.db
        (before.execute task (.setDirect transfer.fileId transfer.recipientId .completed) fate.now).db transfer.fileId
        transfer.recipientId .completed := Sender.writes_setDirect held.2.1 direct
    rw [same] at writes ⊢
    refine ⟨writes_step writes Sender.execute_frame.2.1 Sender.execute_frame.2.2 invariant
      (held.2.2 peerId ((held.1 peerId).mpr rfl)) fun other foreign _ => owned before held.1 other foreign, ?_, held.2.1.kept writes.routes⟩
    exact held.1

/-- The row of a direct transfer is written, or the aggregate of a group. -/
theorem sets (lock : Option PeerId) {R : SendError → Sender → Prop} (other : status ≠ .completed) :
    contract.Triple task (holds task lock (.ready transfer []))
      (store task (.setStatus transfer.fileId (directRecipient transfer) status))
      (fun _ => holds task lock (.ready transfer [])) R := by
  by_cases known : transfer.group? = none
  · rw [directRecipient_direct known]
    refine phases.stores lock (.ready transfer []) (.ready transfer []) fun _ _ invariant held admitted => ?_
    exact writes_open (Sender.writes_setStatus held.2.1 known) Sender.execute_frame.2.1 Sender.execute_frame.2.2 invariant
      other admitted held
  · rw [directRecipient_group known]
    refine phases.stores lock (.ready transfer []) (.ready transfer []) fun fate before invariant held _ => ?_
    have beside : Beside before (before.execute task (.setStatus transfer.fileId none status) fate.now) :=
      ⟨Sender.keeps_setStatus held.2.1 known, Sender.execute_frame.2.1, Sender.execute_frame.2.2⟩
    exact ⟨beside.step invariant, beside.kept (.ready transfer []) held⟩

theorem beside_closeWindow {fileId : String} : Beside before (before.closeWindow task fileId recipientId) :=
  ⟨.of_eq rfl rfl, rfl, rfl⟩

def rules {crypto : FileCrypto} (identity : Identity crypto) : Rules identity contract task where
  toPhases := phases
  finds := fun _ _ _ held found =>
    ⟨held, Sender.knows_of_found found, fun peerId mine => nomatch (held peerId).mp mine⟩
  recognises := fun _ _ _ _ held found => ⟨held, Sender.knows_of_found found⟩
  forgets := fun _ _ _ held => held.1
  acceptsDirect := fun peerId fileId transfer before held found outbound direct same other => by
    have key := Database.fileId_of_getFileTransfer found
    subst key
    exact ⟨held, Sender.knows_of_found found, only_lock held (delivery_open found outbound direct same other)⟩
  acceptsGroup := fun _ _ _ _ _ held _ group found other =>
    ⟨held.1, held.2, only_lock held.1 (groupDelivery_open held.2 group found other)⟩
  releases := fun _ _ _ held => held.1
  drafts := fun _ _ _ _ held => held
  rereads := fun _ _ _ _ held => by
    obtain ⟨row, found, known, route⟩ := held.2.1.reread
    exact ⟨row, found, ⟨held.1, known, by rw [route.fileId]; exact held.2.2⟩, route⟩
  reroutes := fun _ _ _ _ _ route held => ⟨held.1, held.2.1.reroute route, by rw [← route.fileId]; exact held.2.2⟩
  delivers := fun lock transfer unfinished recipientId status _ other =>
    delivers lock unfinished (settle unfinished (addressee transfer recipientId) status) other
  completes := fun _ _ _ route => completes route
  recomputes := fun lock transfer unfinished _ => recomputes lock (.drafting transfer unfinished) fun _ held => held.2.1
  saves := fun transfer _ pending _ => phases.stores none .idle (.drafting transfer _)
    fun fate before invariant held admitted => by
      refine ⟨saves_step admitted.1 admitted.2 pending invariant fate.now, ?_, ?_, ?_⟩
      · intro peerId
        rw [Sender.execute_frame.2.2]
        exact held peerId
      · refine ⟨transfer, ?_, .refl⟩
        rw [Sender.execute_frame.1]
        exact Database.getFileTransfer_saveFileTransfer
      · intro peerId mine
        rw [Sender.execute_frame.2.2] at mine
        exact nomatch (held peerId).mp mine
  marks := fun _ unfinished recipientId status _ group other =>
    delivers_group none unfinished (settle unfinished recipientId status) group other
  widens := fun _ _ _ _ _ _ held => held
  passesOver := fun transfer unfinished recipientId _ _ =>
    Triple.perform (stable none (.drafting transfer unfinished)) fun _ _ invariant held _ =>
      ⟨beside_closeWindow.step invariant, beside_closeWindow.kept (.drafting transfer unfinished) held⟩
  sees := fun lock transfer unfinished recipientId _ => Triple.perform
      (stable lock (.ready transfer unfinished)) fun fate before invariant held _ => by
    have beside : Beside before (if decide (statusOf before transfer recipientId = some .completed) = true then
        before.closeWindow task transfer.fileId (addressee transfer recipientId) else before) := by
      split
      · exact beside_closeWindow
      · exact ⟨.of_eq rfl rfl, rfl, rfl⟩
    exact ⟨beside.step invariant, beside.kept (.ready transfer unfinished) held⟩
  sets := fun lock transfer status _ listed => sets lock fun completed => by
    subst completed
    simp at listed
  raises := fun _ _ _ _ _ _ _ _ held => held.1
  locks := fun _ _ _ invariant held free => locks_step invariant free held
  unlocks := fun _ _ _ invariant held => unlocks_step invariant held

/-- Every operation starts and ends without a packet lock. -/
theorem finishes {crypto : FileCrypto} {identity : Identity crypto} {dumps : Json → Bytes}
    {encryptForRecipient : Bytes → Bytes → Json → Bytes} :
    Pool.Completes contract (fun task => holds task none .idle) (sendService identity dumps encryptForRecipient) := by
  refine ⟨fun task => stable none .idle, fun request task state _ left => ?_⟩
  refine (rules identity).sendProgram (fun surroundings fate before invariant held => ?_) state left
  have beside : Beside before (before.surround surroundings) := ⟨.of_eq rfl rfl, rfl, rfl⟩
  exact ⟨beside.step invariant, beside.kept .idle held⟩

end Completion

section

variable {crypto : FileCrypto} {identity : Identity crypto} {dumps : Json → Bytes}
  {encryptForRecipient : Bytes → Bytes → Json → Bytes} {pool next middle final : Pool Sender SendFate SendPoint SendError}
  {event : PoolEvent SendFate SendRequest} {earlier later : List (PoolEvent SendFate SendRequest)} {fileId : String}
  {recipientId : PeerId}

/-- No operation holds a packet lock that it was not given. -/
abbrev Completion.Settled (pool : Pool Sender SendFate SendPoint SendError) : Prop :=
  Pool.Settled Completion.contract (fun task => Completion.holds task none .idle) pool

theorem Completion.settled_of_run (settled : Completion.Settled pool)
    (meets : Meets (Pool.step (sendService identity dumps encryptForRecipient)) (Pool.Allowed Completion.Guarded) pool earlier)
    (reached : run (Pool.step (sendService identity dumps encryptForRecipient)) pool earlier = some middle) :
    Completion.Settled middle := by
  have anywhere : Meets (Pool.step (sendService identity dumps encryptForRecipient))
      (Pool.StoppingAt Completion.Guarded fun _ => True) pool earlier :=
    meets.mono fun _ _ allowed => ⟨allowed, fun _ => trivial⟩
  refine Pool.run_settled Completion.finishes (fun pool _ _ => ⟨fun _ _ => id, ?_⟩) settled anywhere reached
  exact fun _ _ => ⟨(fun impossible => nomatch impossible), fun impossible => nomatch impossible⟩

theorem Completion.settled_start (sender : Sender) : Completion.Settled (processStart sender) :=
  ⟨fun _ _ => id, (fun _ _ found => nomatch found), fun _ _ _ =>
    ⟨(fun impossible => nomatch impossible), fun impossible => nomatch impossible⟩⟩

/-- The step rule: a restart forgets what was not committed, and nothing else does. -/
theorem Completion.step_keeps (settled : Completion.Settled pool) (allowed : Pool.Allowed Completion.Guarded pool event)
    (stepped : pool.step (sendService identity dumps encryptForRecipient) event = some next) :
    Completion.Keeps pool.shared.committed next.shared.committed ∧
      (event.Running → Completion.Keeps pool.shared.db next.shared.db) := by
  cases event with
  | restart =>
      cases stepped
      exact ⟨fun _ _ => id, fun running => running.elim⟩
  | start request =>
      cases stepped
      exact ⟨fun _ _ => id, fun _ _ _ => id⟩
  | resume index fate =>
      obtain ⟨-, guaranteed⟩ := Pool.step_settled Completion.finishes settled allowed trivial stepped
      obtain ⟨point, ready, act, further, found, -⟩ := Pool.step_resume stepped
      have current : pool.pointAt index = some point := by rw [Pool.pointAt, found]; rfl
      obtain ⟨kept, committed⟩ := guaranteed index fate rfl point current
      exact ⟨committed, fun _ => kept⟩

theorem Completion.run_keeps (settled : Completion.Settled middle)
    (meets : Meets (Pool.step (sendService identity dumps encryptForRecipient)) (Pool.Allowed Completion.Guarded) middle later)
    (completed : run (Pool.step (sendService identity dumps encryptForRecipient)) middle later = some final) :
    Completion.Keeps middle.shared.committed final.shared.committed ∧
      ((∀ event ∈ later, event.Running) → Completion.Keeps middle.shared.db final.shared.db) := by
  induction later generalizing middle with
  | nil =>
      cases completed
      exact ⟨fun _ _ => id, fun _ _ _ => id⟩
  | cons event rest ih =>
      obtain ⟨next, stepped, remaining⟩ := run_cons_some completed
      have first := Completion.step_keeps settled meets.1 stepped
      have alone : Meets (Pool.step (sendService identity dumps encryptForRecipient)) (Pool.Allowed Completion.Guarded)
          middle [event] := ⟨meets.1, fun _ _ => trivial⟩
      have single : run (Pool.step (sendService identity dumps encryptForRecipient)) middle [event] = some next := by
        simp only [run, stepped, Option.bind_some]
      have still := Completion.settled_of_run settled alone single
      obtain ⟨committed, running⟩ := ih still (meets.2 next stepped) remaining
      refine ⟨fun fileId recipientId held => committed fileId recipientId (first.1 fileId recipientId held), fun all => ?_⟩
      intro fileId recipientId held
      have here := first.2 (all event (List.mem_cons_self ..)) fileId recipientId held
      exact running (fun later member => all later (List.mem_cons_of_mem _ member)) fileId recipientId here

end

end MeshTalk.Deliveries
