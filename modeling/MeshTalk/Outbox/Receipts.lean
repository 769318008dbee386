import MeshTalk.Outbox.Contracts

namespace MeshTalk.Outbox

open MeshTalk.Library MeshTalk.Protocol MeshTalk.Store MeshTalk.Groups

/-! # Delivered group messages

A delivery is recorded on an acknowledgement that its recipient signed, and no
other writer of the status takes it back.
-/

/-- The recipient's key has signed an acknowledgement of the message, which names
the group under which a message of that id has been stored. -/
def Receipted (crypto : FileCrypto) (stored : List GroupMessage) (messageId : String) (recipientId : PeerId) : Prop :=
  ∃ key acknowledgement, acknowledgement.messageId = messageId ∧ acknowledgement.recipientId = recipientId ∧
    Acknowledged crypto key acknowledgement stored

/-- Every recorded delivery has its acknowledgement, in the tables and in what a crash leaves of them. -/
structure Vouched (crypto : FileCrypto) (node : OutboxNode) : Prop where
  current : ∀ messageId recipientId, node.tables.db.groupDeliveryStatus messageId recipientId = some .delivered →
    Receipted crypto node.stored messageId recipientId
  committed : ∀ messageId recipientId, node.committed.db.groupDeliveryStatus messageId recipientId = some .delivered →
    Receipted crypto node.stored messageId recipientId

/-- The tables a step goes on from. -/
def goesOnFrom (pool : OutboxPool) : OutboxEvent crypto → OutboxTables
  | .restart => pool.shared.committed
  | _ => pool.shared.tables

/-- A delivery that is recorded is recorded after the step, unless its row is deleted. -/
def KeepsDelivered {crypto : FileCrypto} (service : Service OutboxNode OutboxFate OutboxPoint OutboxError (OutboxJob crypto))
    (pool : OutboxPool) (event : OutboxEvent crypto) : Prop :=
  ∀ next, pool.step service event = some next → ∀ messageId recipientId,
    (goesOnFrom pool event).db.groupDeliveryStatus messageId recipientId = some .delivered →
    next.shared.tables.db.groupDeliveryStatus messageId recipientId = some .delivered ∨
      next.shared.tables.db.groupDeliveryStatus messageId recipientId = none

section

variable {crypto : FileCrypto} {writer : PacketWriter} {node : OutboxNode} {point : OutboxPoint} {fate : OutboxFate}
  {stored longer : List GroupMessage} {messageId : String} {recipientId : PeerId}

theorem Receipted.mono (receipted : Receipted crypto stored messageId recipientId)
    (grows : ∀ message ∈ stored, message ∈ longer) : Receipted crypto longer messageId recipientId := by
  obtain ⟨key, acknowledgement, named, addressed, owner, signed, message, listed, same⟩ := receipted
  exact ⟨key, acknowledgement, named, addressed, owner, signed, message, grows message listed, same⟩

theorem committed_effect : (point.effect fate node).committed = node.committed ∨
    (point.effect fate node).committed = (point.effect fate node).tables := by
  cases point with
  | commit => exact .inr rfl
  | send peerId packet =>
      simp only [OutboxPoint.effect]
      split <;> exact .inl rfl
  | sendCopy task messageId peerId packet =>
      simp only [OutboxPoint.effect]
      split <;> exact .inl rfl
  | sendQueued task row peerId packet =>
      simp only [OutboxPoint.effect]
      split <;> exact .inl rfl
  | _ => exact .inl rfl

/-- The only point that records a delivery has the acknowledgement at hand. -/
theorem receipted_effect (vouched : Vouched crypto node) (regular : Regular crypto writer point node)
    (recorded : (point.effect fate node).tables.db.groupDeliveryStatus messageId recipientId = some .delivered) :
    Receipted crypto node.stored messageId recipientId := by
  cases sets : point.sets? with
  | none =>
      rcases status_of_none sets with kept | dropped
      · exact vouched.current messageId recipientId (kept.symm.trans recorded)
      · rw [dropped] at recorded
        cases recorded
  | some written =>
      obtain ⟨writtenId, writtenTo, status⟩ := written
      rw [status_of_sets sets] at recorded
      split at recorded
      · rename_i aimed
        obtain ⟨rfl, rfl⟩ := aimed
        split at recorded
        · rename_i already
          exact vouched.current messageId recipientId already
        · cases recorded
          cases point with
          | confirm key acknowledgement =>
              cases sets
              exact ⟨key, acknowledgement, rfl, rfl, regular⟩
          | setDelivery writtenId writtenTo status =>
              cases sets
              rcases regular with same | same <;> cases same
          | endAttempt task writtenId writtenTo status =>
              cases sets
              rcases regular with same | same <;> cases same
          | _ => cases sets
      · exact vouched.current messageId recipientId recorded

theorem Vouched.effect (vouched : Vouched crypto node) (regular : Regular crypto writer point node) :
    Vouched crypto (point.effect fate node) := by
  have current : ∀ messageId recipientId,
      (point.effect fate node).tables.db.groupDeliveryStatus messageId recipientId = some .delivered →
      Receipted crypto (point.effect fate node).stored messageId recipientId :=
    fun messageId recipientId recorded => (receipted_effect vouched regular recorded).mono fun _ => stored_effect
  refine ⟨current, ?_⟩
  intro messageId recipientId recorded
  rcases @committed_effect node point fate with same | same
  · rw [same] at recorded
    exact (vouched.committed messageId recipientId recorded).mono fun _ => stored_effect
  · rw [same] at recorded
    exact current messageId recipientId recorded

theorem opened_status {tables : OutboxTables} {now : Time} :
    (node.opened tables now).tables.db.groupDeliveryStatus messageId recipientId = some .delivered ↔
      tables.db.groupDeliveryStatus messageId recipientId = some .delivered := by
  change (tables.db.failPendingDeliveries now).groupDeliveryStatus messageId recipientId = some .delivered ↔ _
  rw [Database.groupDeliveryStatus_failPendingDeliveries]
  cases tables.db.groupDeliveryStatus messageId recipientId with
  | none => simp
  | some status => cases status <;> simp

theorem Vouched.opened (vouched : Vouched crypto node) {now : Time} :
    Vouched crypto (node.opened node.committed now) := by
  have current : ∀ messageId recipientId,
      (node.opened node.committed now).tables.db.groupDeliveryStatus messageId recipientId = some .delivered →
      Receipted crypto node.stored messageId recipientId :=
    fun messageId recipientId recorded => vouched.committed messageId recipientId (opened_status.mp recorded)
  exact ⟨current, current⟩

end

/-- In every run a group delivery is `delivered` only if the key of its recipient
signed an acknowledgement that names the message and its group, and once
`delivered` its status does not change. -/
theorem group_deliveries_are_acknowledged {crypto : FileCrypto} (identity : Identity crypto) (writer : PacketWriter)
    (restartedAt : Time) (events : List (OutboxEvent crypto)) (final : OutboxPool)
    (completed : run (Pool.step (outboxService identity writer restartedAt)) freshOutbox events = some final) :
    (∀ messageId recipientId, final.shared.tables.db.groupDeliveryStatus messageId recipientId = some .delivered →
      Receipted crypto final.shared.stored messageId recipientId) ∧
    Meets (Pool.step (outboxService identity writer restartedAt))
      (KeepsDelivered (outboxService identity writer restartedAt)) freshOutbox events := by
  have trivially : Meets (Pool.step (outboxService identity writer restartedAt)) (fun _ _ => True) freshOutbox events :=
    meets_trivial fun _ _ => trivial
  constructor
  · have kept := @outbox_invariant crypto writer identity freshOutbox final restartedAt events (Vouched crypto)
      (fun _ _ => True) (fun pool index fate point _ vouched _ _ regular => vouched.effect regular)
      (fun pool vouched _ => vouched.opened) ⟨freshOutbox_settled, nofun, nofun⟩ trivially completed
    exact kept.2.current
  · refine (meets_congr (Settled crypto writer)
      (fun pool event next settled stepped => (step_settles settled stepped).1) ?_ freshOutbox_settled completed).mp trivially
    intro pool event next settled stepped
    refine iff_of_true trivial ?_
    intro other same messageId recipientId recorded
    cases stepped.symm.trans same
    obtain ⟨-, does⟩ := step_settles settled stepped
    cases event with
    | start job =>
        rw [show next.shared = pool.shared from does]
        exact .inl recorded
    | restart =>
        rw [show next.shared = _ from does]
        exact .inl (opened_status.mpr recorded)
    | resume index fate =>
        obtain ⟨point, -, -, shared⟩ := does
        rw [shared]
        exact delivered_effect recorded

/-- A message to the team, and Bob's acknowledgement. -/
def bobAcknowledges : List (OutboxEvent plainCrypto) :=
  teamSet ++ [.start (.sendGroupMessage team [104, 105] none)] ++ turns 1 19 calm ++
    [.start (.groupAck bobConnected ⟨"m1", team, "bob", List.replicate 64 0⟩)] ++ turns 2 5 calm

theorem bobs_acknowledgement_is_recorded : ∃ final,
    run (Pool.step (outboxService plainIdentity plainWriter 0)) freshOutbox bobAcknowledges = some final ∧
      final.shared.tables.db.groupDeliveryStatus "m1" "bob" = some .delivered ∧
      Receipted plainCrypto final.shared.stored "m1" "bob" := by
  have found : ((run (Pool.step (outboxService plainIdentity plainWriter 0)) freshOutbox bobAcknowledges).any fun final =>
      decide (final.shared.tables.db.groupDeliveryStatus "m1" "bob" = some .delivered)) = true := by decide +kernel
  obtain ⟨final, completed, recorded⟩ := (Option.any_eq_true _ _).mp found
  have delivered := of_decide_eq_true recorded
  exact ⟨final, completed, delivered,
    (group_deliveries_are_acknowledged plainIdentity plainWriter 0 _ final completed).1 "m1" "bob" delivered⟩

end MeshTalk.Outbox
