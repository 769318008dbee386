import MeshTalk.Outbox.Steps

namespace MeshTalk.Outbox

open MeshTalk.Library MeshTalk.Protocol MeshTalk.Store MeshTalk.Groups

/-! # The programs keep the books

Every program comes to its points in the way `Regular` says and leaves no entry
behind in the auxiliary lists.
-/

/-- The program keeps the entries of its task within bounds and returns values
satisfying `exit`. -/
def Tidy (crypto : FileCrypto) (writer : PacketWriter) (self : Nat) (held : Nat → Prop)
    (attempted : String → PeerId → Prop) (program : OutboxProgram α) (exit : α → Prop) : Prop :=
  (bookkeeping crypto writer).Triple self (Entries held attempted self) program
    (fun value node => Entries held attempted self node ∧ exit value) fun _ => Entries held attempted self

section

variable {crypto : FileCrypto} {writer : PacketWriter} {self : Nat} {held : Nat → Prop}
  {attempted : String → PeerId → Prop} {point : OutboxPoint} {P Q : OutboxNode → Prop}
  {R : OutboxError → OutboxNode → Prop}

/-! ## Actions -/

theorem act_triple (stable : (bookkeeping crypto writer).Stable self P) (own : ∀ task ∈ point.task?, task = self)
    (regular : ∀ node, Wellkept crypto writer node → P node → Regular crypto writer point node)
    (leads : ∀ fate node, P node → Q (point.effect fate node)) :
    (bookkeeping crypto writer).Triple self P (act point) (fun _ => Q) R := by
  apply Contract.Triple.perform stable
  intro fate node kept entered _
  exact ⟨effect_step kept (regular node kept entered) own, leads fate node entered⟩

theorem transmit_triple {Q : Bool → OutboxNode → Prop} (stable : (bookkeeping crypto writer).Stable self P)
    (own : ∀ task ∈ point.task?, task = self)
    (regular : ∀ node, Wellkept crypto writer node → P node → Regular crypto writer point node)
    (leads : ∀ (fate : OutboxFate) node, P node → Q (!fate.sendFails) (point.effect fate node)) :
    (bookkeeping crypto writer).Triple self P (transmit point) Q R := by
  apply Contract.Triple.perform stable
  intro fate node kept entered _
  exact ⟨effect_step kept (regular node kept entered) own, leads fate node entered⟩

/-- A read and its answer. -/
theorem ask_triple {answer : OutboxFate → OutboxNode → α} {Q : α → OutboxNode → Prop}
    (stable : (bookkeeping crypto writer).Stable self P)
    (leads : ∀ fate node, Wellkept crypto writer node → P node → Q (answer fate node) node) :
    (bookkeeping crypto writer).Triple self P (ask answer) Q R := by
  apply Contract.Triple.perform stable
  intro fate node kept entered _
  exact ⟨@effect_step crypto writer node .query fate self kept trivial (by simp [OutboxPoint.task?]), leads fate node kept entered⟩

theorem entries_kept {fate : OutboxFate} {node : OutboxNode} (plain : point.task? = none)
    (entries : Entries held attempted self node) : Entries held attempted self (point.effect fate node) :=
  entries.of_within (entries_effect (by rw [plain]; simp))

theorem act_keeps (plain : point.task? = none) (regular : ∀ node, Regular crypto writer point node) :
    (bookkeeping crypto writer).Triple self (Entries held attempted self) (act point)
      (fun _ => Entries held attempted self) R :=
  act_triple entries_stable (by rw [plain]; simp) (fun node _ _ => regular node) fun _ _ => entries_kept plain

/-- A statement between two others of a task, whose entries it does not touch. -/
theorem execute_keeps (plain : point.task? = none) (regular : ∀ node, Regular crypto writer point node) :
    (bookkeeping crypto writer).Triple self (Entries held attempted self) (execute point)
      (fun _ => Entries held attempted self) R :=
  Contract.Triple.bind (act_keeps plain regular) fun _ => act_keeps rfl fun _ => trivial

/-! ## Rules -/

namespace Tidy

variable {program first : OutboxProgram α} {exit : α → Prop} {following : α → OutboxProgram β} {final : β → Prop}

theorem pure {value : α} (ends : exit value) : Tidy crypto writer self held attempted (Pure.pure value) exit :=
  Contract.Triple.pure fun _ entries => ⟨entries, ends⟩

theorem refused {reason : String} : Tidy crypto writer self held attempted (Outbox.refused reason) exit :=
  Contract.Triple.failed fun _ entries => entries

theorem bind {middle : α → Prop} (leading : Tidy crypto writer self held attempted first middle)
    (continues : ∀ value, middle value → Tidy crypto writer self held attempted (following value) final) :
    Tidy crypto writer self held attempted (first >>= following) final :=
  Contract.Triple.bind leading fun value node entered => continues value entered.2 node entered.1

/-- A tidy part before one that is not. -/
theorem andThen {middle : α → Prop} {Q : β → OutboxNode → Prop}
    (leading : Tidy crypto writer self held attempted first middle)
    (continues : ∀ value, middle value → (bookkeeping crypto writer).Triple self (Entries held attempted self)
      (following value) Q fun _ => Entries held attempted self) :
    (bookkeeping crypto writer).Triple self (Entries held attempted self) (first >>= following) Q
      fun _ => Entries held attempted self :=
  Contract.Triple.bind leading fun value node entered => continues value entered.2 node entered.1

theorem ite {condition : Prop} [Decidable condition] {accepted rejected : OutboxProgram α}
    (whenTrue : condition → Tidy crypto writer self held attempted accepted exit)
    (whenFalse : ¬ condition → Tidy crypto writer self held attempted rejected exit) :
    Tidy crypto writer self held attempted (if condition then accepted else rejected) exit :=
  Contract.Triple.ite whenTrue whenFalse

theorem recover {handler : OutboxError → OutboxProgram α} (tried : Tidy crypto writer self held attempted program exit)
    (caught : ∀ error, Tidy crypto writer self held attempted (handler error) exit) :
    Tidy crypto writer self held attempted (program.recover handler) exit :=
  Contract.Triple.recover tried caught

theorem forEach {items : List β} {body : β → OutboxProgram Unit}
    (each : ∀ item ∈ items, Tidy crypto writer self held attempted (body item) fun _ => True) :
    Tidy crypto writer self held attempted (Task.forEach items body) fun _ => True := by
  refine Contract.Triple.weaken (Contract.Triple.forEach fun item member => ?_) (fun _ => id)
    (fun _ _ entries => ⟨entries, trivial⟩) fun _ _ => id
  exact (each item member).weaken (fun _ => id) (fun _ _ => And.left) fun _ _ => id

theorem ask {answer : OutboxFate → OutboxNode → α} (answers : ∀ fate node, Wellkept crypto writer node → exit (answer fate node)) :
    Tidy crypto writer self held attempted (Outbox.ask answer) exit :=
  ask_triple entries_stable fun fate node kept entries => ⟨entries, answers fate node kept⟩

theorem asked {answer : OutboxFate → OutboxNode → α} :
    Tidy crypto writer self held attempted (Outbox.ask answer) fun _ => True :=
  ask fun _ _ _ => trivial

theorem query {read : OutboxNode → α} : Tidy crypto writer self held attempted (Outbox.query read) fun _ => True :=
  ask fun _ _ _ => trivial

theorem mayRaise : Tidy crypto writer self held attempted Outbox.mayRaise fun _ => True := by
  apply Contract.Triple.perform entries_stable
  intro fate node kept entries _
  refine ⟨?_, ?_⟩
  · have same : (Handler.refuse (fate.raises = true) OutboxError.raised node).2 = OutboxPoint.query.effect fate node := by
      unfold Handler.refuse
      split <;> rfl
    rw [same]
    exact effect_step kept trivial (by simp [OutboxPoint.task?])
  · unfold Handler.refuse
    by_cases raised : fate.raises = true
    · rw [if_pos raised]
      exact entries
    · rw [if_neg raised]
      exact ⟨entries, trivial⟩

theorem act (plain : point.task? = none) (regular : ∀ node, Regular crypto writer point node) :
    Tidy crypto writer self held attempted (Outbox.act point) fun _ => True :=
  act_triple entries_stable (by rw [plain]; simp) (fun node _ _ => regular node)
    fun _ _ entries => ⟨entries_kept plain entries, trivial⟩

theorem transmit (plain : point.task? = none) (regular : ∀ node, Regular crypto writer point node) :
    Tidy crypto writer self held attempted (Outbox.transmit point) fun _ => True :=
  transmit_triple entries_stable (by rw [plain]; simp) (fun node _ _ => regular node)
    fun _ _ entries => ⟨entries_kept plain entries, trivial⟩

theorem execute (plain : point.task? = none) (regular : ∀ node, Regular crypto writer point node) :
    Tidy crypto writer self held attempted (Outbox.execute point) fun _ => True :=
  (act plain regular).bind fun _ _ => act rfl fun _ => trivial

theorem onlyIf {condition : Bool} {body : OutboxProgram Unit}
    (tidy : condition = true → Tidy crypto writer self held attempted body fun _ => True) :
    Tidy crypto writer self held attempted (Outbox.onlyIf condition body) fun _ => True :=
  ite tidy fun _ => pure trivial

end Tidy

/-! ## Direct messages -/

variable {identity : Identity crypto} {peer : Option GroupPeer} {recipientId : PeerId} {messageId groupId : String}
  {replyToMessageId : Option String} {encoded plaintext : Bytes}

/-- A packet type other than that of group messages asks nothing of its row. -/
theorem enqueue_regular {packetType : Nat} {payload : Bytes} {named group : Option String} {node : OutboxNode}
    (other : packetType ≠ PacketType.groupMessage.value) :
    Regular crypto writer (.enqueue recipientId packetType payload named group) node :=
  fun same => absurd same other

theorem supportsReply_tidy :
    Tidy crypto writer self held attempted (supportsReply peer recipientId replyToMessageId) fun _ => True := by
  apply Tidy.ite
  · intro _
    cases peer with
    | none => exact .query
    | some peer => exact .pure trivial
  · exact fun _ => .pure trivial

theorem deliverMessage_tidy :
    Tidy crypto writer self held attempted (deliverMessage peer recipientId messageId encoded) fun _ => True := by
  have queued : Tidy crypto writer self held attempted (queueMessage recipientId messageId encoded) fun _ => True :=
    .execute rfl fun _ => enqueue_regular (by decide)
  cases peer with
  | none => exact queued
  | some peer =>
      refine Tidy.bind (.transmit rfl fun _ => trivial) fun returned _ => ?_
      apply Tidy.ite
      · exact fun _ => .pure trivial
      · intro _
        refine queued.bind fun _ _ => ?_
        exact .execute rfl fun _ => trivial

theorem sendMessage_tidy : Tidy crypto writer self held attempted
    (sendMessage identity writer recipientId plaintext replyToMessageId) fun _ => True := by
  apply Tidy.ite (fun _ => .refused)
  intro _
  refine Tidy.asked.bind fun peer _ => ?_
  apply Tidy.ite (fun _ => .refused)
  intro _
  refine supportsReply_tidy.bind fun supported _ => ?_
  apply Tidy.ite _ fun _ => .refused
  intro _
  refine Tidy.query.bind fun known _ => ?_
  split
  · exact .refused
  · refine Tidy.asked.bind fun chosen _ => ?_
    apply Tidy.ite (fun _ => .refused)
    intro _
    split
    · exact .refused
    · refine Tidy.bind (.execute rfl fun _ => rfl) fun _ _ => ?_
      exact Tidy.bind (.execute rfl fun _ => trivial) fun _ _ => deliverMessage_tidy

/-! ## Group messages -/

theorem pruneGroupHistory_tidy :
    Tidy crypto writer self held attempted (pruneGroupHistory groupId) fun _ => True := by
  refine Tidy.bind (.act rfl fun _ => trivial) fun _ _ => ?_
  refine Tidy.bind (.act rfl fun _ => trivial) fun _ _ => ?_
  refine Tidy.bind (.act rfl fun _ => trivial) fun _ _ => ?_
  exact .execute rfl fun _ => trivial

theorem saveGroupMessage_tidy {message : GroupMessage} :
    Tidy crypto writer self held attempted (saveGroupMessage message) fun _ => True := by
  have saved : Tidy crypto writer self held attempted (Task.perform (.saveGroupMessage message) fun fate => do
      let node ← Handler.read
      Handler.change ((OutboxPoint.saveGroupMessage message).effect fate)
      pure !node.tables.db.groupMessages.holds message.messageId) fun _ => True := by
    apply Contract.Triple.perform entries_stable
    intro fate node kept entries _
    exact ⟨effect_step kept trivial (by simp [OutboxPoint.task?]), entries_kept rfl entries, trivial⟩
  refine saved.bind fun inserted _ => ?_
  refine Tidy.bind (.act rfl fun _ => trivial) fun _ _ => ?_
  exact .onlyIf fun _ => pruneGroupHistory_tidy

/-- The attempt at one delivery. -/
def One (messageId : String) (recipientId : PeerId) (otherMessage : String) (otherRecipient : PeerId) : Prop :=
  otherMessage = messageId ∧ otherRecipient = recipientId

theorem clear_of_spared {node next : OutboxNode} (entries : Entries held (One messageId recipientId) self node)
    (holding : next.holding = node.holding) (sending : next.sending = node.otherAttempts self messageId recipientId) :
    Entries held (fun _ _ => False) self next where
  rows := by
    rw [holding]
    exact entries.rows
  attempts := by
    intro attempt member own
    rw [sending] at member
    obtain ⟨listed, spared⟩ := mem_otherAttempts.mp member
    obtain ⟨named, addressed⟩ := entries.attempts attempt listed own
    simp [Attempt.isAt, own, named, addressed] at spared

theorem endAttempt_triple {status : GroupDeliveryStatus} (settles : status = .unavailable ∨ status = .queued) :
    (bookkeeping crypto writer).Triple self (Entries held (One messageId recipientId) self)
      (execute (.endAttempt self messageId recipientId status)) (fun _ => Entries held (fun _ _ => False) self) R := by
  apply Contract.Triple.bind
  · exact act_triple (Q := Entries held (fun _ _ => False) self) entries_stable (by simp [OutboxPoint.task?])
      (fun _ _ _ => settles) fun fate node entries => clear_of_spared entries rfl rfl
  · exact fun _ => act_keeps rfl fun _ => trivial

theorem queueCopy_triple (copy : CopyOf writer messageId recipientId encoded) :
    (bookkeeping crypto writer).Triple self (Entries held (One messageId recipientId) self)
      (queueCopy self messageId groupId recipientId encoded) (fun _ => Entries held (fun _ _ => False) self)
      fun _ => Entries held (One messageId recipientId) self := by
  refine Tidy.mayRaise.andThen fun _ _ => ?_
  refine Tidy.query.andThen fun waiting _ => ?_
  apply Contract.Triple.ite
  · exact fun _ => endAttempt_triple (.inl rfl)
  · intro _
    refine Tidy.mayRaise.andThen fun _ _ => ?_
    have queued : Tidy crypto writer self held (One messageId recipientId) (execute (.enqueue recipientId
        PacketType.groupMessage.value encoded (some messageId) (some groupId))) fun _ => True :=
      .execute rfl fun _ _ => ⟨messageId, rfl, copy⟩
    refine queued.andThen fun _ _ => ?_
    refine Tidy.mayRaise.andThen fun _ _ => ?_
    exact endAttempt_triple (.inr rfl)

/-- A copy that goes to the queue or nowhere: no attempt at it is left. -/
theorem queueing_triple (copy : CopyOf writer messageId recipientId encoded) :
    (bookkeeping crypto writer).Triple self (Entries held (One messageId recipientId) self)
      ((queueCopy self messageId groupId recipientId encoded).recover fun _ =>
        execute (.endAttempt self messageId recipientId .unavailable))
      (fun _ => Entries held (fun _ _ => False) self) R :=
  Contract.Triple.recover (queueCopy_triple copy) fun _ => endAttempt_triple (.inl rfl)

theorem one_of_clear {node : OutboxNode} (entries : Entries held (fun _ _ => False) self node) :
    Entries held (One messageId recipientId) self node where
  rows := entries.rows
  attempts := fun attempt member own => (entries.attempts attempt member own).elim

/-- An attempt of the task is under way. -/
def Attempting (owner : Nat) (messageId : String) (recipientId : PeerId) (node : OutboxNode) : Prop :=
  ∃ attempt ∈ node.sending, attempt.isAt owner messageId recipientId = true

theorem attempting_stable : (bookkeeping crypto writer).Stable self
    fun node => Entries held attempted self node ∧ Attempting self messageId recipientId node := by
  rintro before after - - ⟨within, -⟩ ⟨entries, attempt, member, aimed⟩
  refine ⟨entries.of_within within, attempt, (within.sending attempt ?_).mpr member, aimed⟩
  simp only [Attempt.isAt, Bool.and_eq_true, decide_eq_true_eq] at aimed
  exact aimed.1.1

theorem beginAttempt_triple :
    (bookkeeping crypto writer).Triple self (Entries held (fun _ _ => False) self)
      (execute (.beginAttempt self messageId recipientId))
      (fun _ node => Entries held (One messageId recipientId) self node ∧ Attempting self messageId recipientId node)
      R := by
  apply Contract.Triple.bind
  · apply act_triple (Q := fun node => Entries held (One messageId recipientId) self node ∧
      Attempting self messageId recipientId node) entries_stable
    · simp [OutboxPoint.task?]
    · exact fun _ _ _ => trivial
    · intro fate node entries
      refine ⟨⟨entries.rows, ?_⟩, _, List.mem_append_right _ (List.mem_singleton_self _), by simp [Attempt.isAt]⟩
      intro attempt member own
      rcases List.mem_append.mp member with old | added
      · exact (entries.attempts attempt old own).elim
      · rw [List.mem_singleton.mp added]
        exact ⟨rfl, rfl⟩
  · intro _
    apply act_triple attempting_stable
    · simp [OutboxPoint.task?]
    · exact fun _ _ _ => trivial
    · exact fun fate node entered => ⟨entries_kept rfl entered.1, entered.2⟩

theorem deliverCopy_tidy (copy : CopyOf writer messageId recipientId encoded)
    (aimed : ∀ chosen ∈ peer, chosen.peerId = recipientId) :
    Tidy crypto writer self held (fun _ _ => False) (deliverCopy self peer messageId groupId recipientId encoded)
      fun _ => True := by
  have queueing : ∀ {P : OutboxNode → Prop}, (∀ node, P node → Entries held (One messageId recipientId) self node) →
      (bookkeeping crypto writer).Triple self P
        ((queueCopy self messageId groupId recipientId encoded).recover fun _ =>
          execute (.endAttempt self messageId recipientId .unavailable))
        (fun _ node => Entries held (fun _ _ => False) self node ∧ True)
        fun _ => Entries held (fun _ _ => False) self := by
    intro P enters
    exact (queueing_triple copy).weaken enters (fun _ _ entries => ⟨entries, trivial⟩) fun _ _ => id
  cases peer with
  | none => exact queueing fun _ => one_of_clear
  | some chosen =>
      cases aimed chosen rfl
      have announced : (bookkeeping crypto writer).Triple self (Entries held (fun _ _ => False) self)
          (execute (.beginAttempt self messageId chosen.peerId))
          (fun _ => Entries held (One messageId chosen.peerId) self) fun _ => Entries held (fun _ _ => False) self :=
        beginAttempt_triple.weaken (fun _ => id) (fun _ _ => And.left) fun _ _ => id
      refine Contract.Triple.bind announced fun _ => ?_
      apply Contract.Triple.bind
        (Q := fun returned node => if returned = true then Entries held (fun _ _ => False) self node
          else Entries held (One messageId chosen.peerId) self node)
      · apply transmit_triple entries_stable
        · simp [OutboxPoint.task?]
        · exact fun _ _ _ => ⟨encoded, rfl, copy⟩
        · intro fate node entries
          cases failed : fate.sendFails with
          | true => simpa [OutboxPoint.effect, failed] using entries
          | false =>
              simp only [OutboxPoint.effect, failed, Bool.not_false, if_true, Bool.false_eq_true, if_false]
              exact clear_of_spared entries rfl rfl
      · intro returned
        cases returned with
        | true => exact Contract.Triple.pure fun node entries => ⟨by simpa using entries, trivial⟩
        | false => exact queueing fun node entries => by simpa using entries

/-- A peer found under an id has it. -/
theorem connectedTo_aimed {fate : OutboxFate} {peerId : PeerId} : ∀ chosen ∈ fate.connectedTo peerId, chosen.peerId = peerId := by
  intro chosen found
  simpa using (Option.filter_eq_some_iff.mp found).2

theorem sendCopyTo_tidy {key : Bytes} {content : String} {now : Time} (aimed : ∀ chosen ∈ peer, chosen.peerId = recipientId) :
    Tidy crypto writer self held (fun _ _ => False)
      (sendCopyTo identity writer self peer key messageId groupId recipientId content replyToMessageId now)
      fun _ => True := by
  have text : Tidy crypto writer self held (fun _ _ => False) (outgoingText writer peer recipientId content)
      fun _ => True := by
    cases peer with
    | none => exact Tidy.query.bind fun _ _ => .pure trivial
    | some chosen => exact .pure trivial
  refine text.bind fun outgoing _ => ?_
  apply Tidy.ite
  · exact fun _ => .execute rfl fun _ => .inl rfl
  · exact fun _ => deliverCopy_tidy ⟨_, rfl, rfl, rfl⟩ aimed

theorem sendToMember_tidy {content : String} {now : Time} {member : PeerId × Bool} :
    Tidy crypto writer self held (fun _ _ => False)
      (sendToMember identity writer self messageId groupId content replyToMessageId now member) fun _ => True := by
  have asked : Tidy crypto writer self held (fun _ _ => False)
      (ask fun fate node => (node.tables.db.isPeerBlocked member.1, fate.connectedTo member.1))
      fun answer => ∀ chosen ∈ answer.2, chosen.peerId = member.1 :=
    .ask fun fate node _ => connectedTo_aimed
  refine asked.bind ?_
  rintro ⟨blocked, chosen⟩ aimed
  apply Tidy.ite (fun _ => .pure trivial)
  intro _
  refine Tidy.query.bind fun known _ => ?_
  have unavailable : Tidy crypto writer self held (fun _ _ => False)
      (execute (.setDelivery messageId member.1 .unavailable)) fun _ => True :=
    .execute rfl fun _ => .inl rfl
  apply Tidy.ite (fun _ => unavailable)
  intro _
  refine supportsReply_tidy.bind fun supported _ => ?_
  exact Tidy.ite (fun _ => sendCopyTo_tidy aimed) fun _ => unavailable

theorem sendGroupMessage_tidy : Tidy crypto writer self held (fun _ _ => False)
    (sendGroupMessage identity writer self groupId plaintext replyToMessageId) fun _ => True := by
  apply Tidy.ite (fun _ => .refused)
  intro _
  refine Tidy.asked.bind fun answered _ => ?_
  apply Tidy.ite _ fun _ => .refused
  intro _
  split
  · exact .refused
  · refine saveGroupMessage_tidy.bind fun _ _ => ?_
    refine Tidy.bind (.execute rfl fun _ => trivial) fun _ _ => ?_
    refine Tidy.query.bind fun members _ => ?_
    refine Tidy.bind (.forEach fun member _ => ?_) fun _ _ => .forEach fun member _ => sendToMember_tidy
    refine Tidy.query.bind fun blocked _ => ?_
    apply Tidy.execute rfl
    intro node
    cases blocked
    · exact .inr rfl
    · exact .inl rfl

/-! ## Acknowledgements -/

section

variable {sender : GroupPeer} {acknowledgement : GroupAckPayload} {key : Bytes}

theorem forwardAck_tidy {message : GroupMessage} :
    Tidy crypto writer self held attempted (forwardAck identity writer sender acknowledgement message) fun _ => True := by
  have waiting : ∀ {targetId : PeerId}, Tidy crypto writer self held attempted
      (queueAck targetId message.groupId (writer.dumps acknowledgement.json)) fun _ => True := by
    intro targetId
    refine Tidy.mayRaise.bind fun _ _ => ?_
    refine Tidy.query.bind fun already _ => ?_
    apply Tidy.ite (fun _ => .pure trivial)
    intro _
    refine Tidy.query.bind fun count _ => ?_
    apply Tidy.ite (fun _ => .pure trivial)
    exact fun _ => .execute rfl fun _ => enqueue_regular (by decide)
  have queueing : Tidy crypto writer self held attempted (do
      if ← query fun node => node.peerSupports message.senderId capGroupRelay then
        (queueAck message.senderId message.groupId (writer.dumps acknowledgement.json)).recover fun _ => pure ()
      else pure ()) fun _ => True := by
    refine Tidy.query.bind fun supported _ => ?_
    exact Tidy.ite (fun _ => waiting.recover fun _ => .pure trivial) fun _ => .pure trivial
  apply Tidy.ite (fun _ => .pure trivial)
  intro _
  refine Tidy.query.bind fun active _ => ?_
  apply Tidy.ite _ fun _ => .pure trivial
  intro _
  refine Tidy.asked.bind fun answered _ => ?_
  apply Tidy.ite (fun _ => .pure trivial)
  intro _
  split
  · exact queueing
  · apply Tidy.ite _ fun _ => .pure trivial
    intro _
    refine Tidy.bind (.transmit rfl fun _ => trivial) fun returned _ => ?_
    exact Tidy.ite (fun _ => .pure trivial) fun _ => queueing

/-- The key under which an acknowledgement is accepted. -/
def SignedBy (crypto : FileCrypto) (acknowledgement : GroupAckPayload) (key : Bytes) : Prop :=
  crypto.sha256 key = acknowledgement.recipientId ∧
    crypto.verify key acknowledgement.signature (crypto.canonical acknowledgement.unsigned) = true

theorem signingKeyOf_certified {node : OutboxNode} {peerId : PeerId} (kept : Wellkept crypto writer node)
    (found : node.signingKeyOf peerId = some key) : crypto.sha256 key = peerId := by
  obtain ⟨record, located, signing⟩ := Option.bind_eq_some_iff.mp found
  obtain ⟨member, rfl⟩ := Table.find?_some_iff.mp located
  exact kept.current.certified record member key signing

theorem acknowledgementKey_tidy (certified : ∀ key, sender.signingPublicKey = some key → crypto.sha256 key = sender.peerId) :
    Tidy crypto writer self held attempted (acknowledgementKey crypto sender acknowledgement)
      fun found => ∀ key ∈ found, SignedBy crypto acknowledgement key := by
  apply Tidy.ite
  · intro direct
    cases signing : sender.signingPublicKey with
    | none => exact .refused
    | some key =>
        apply Tidy.ite _ fun _ => .refused
        intro verified
        apply Tidy.pure
        rintro found ⟨⟩
        exact ⟨(certified key signing).trans direct.symm, verified⟩
  · intro _
    refine Tidy.query.bind fun blocked _ => ?_
    apply Tidy.ite (fun _ => .pure nofun)
    intro _
    have looked : Tidy crypto writer self held attempted (query fun node => node.signingKeyOf acknowledgement.recipientId)
        fun found => ∀ key ∈ found, crypto.sha256 key = acknowledgement.recipientId :=
      .ask fun _ node kept key found => signingKeyOf_certified kept found
    refine looked.bind fun found owned => ?_
    cases found with
    | none => exact .refused
    | some key =>
        apply Tidy.ite _ fun _ => .refused
        intro verified
        refine Tidy.query.bind fun active _ => ?_
        apply Tidy.ite _ fun _ => .refused
        intro _
        apply Tidy.pure
        rintro found ⟨⟩
        exact ⟨owned key rfl, verified⟩

/-- A group message of the id and the group of an acknowledgement has been stored. -/
def Known (acknowledgement : GroupAckPayload) (stored : List GroupMessage) : Prop :=
  ∃ message ∈ stored, message.messageId = acknowledgement.messageId ∧ message.groupId = acknowledgement.groupId

theorem Known.stable : (bookkeeping crypto writer).Stable self
    fun node => Entries held attempted self node ∧ Known acknowledgement node.stored := by
  apply known_stable
  rintro shorter longer grows ⟨message, listed, same⟩
  exact ⟨message, grows message listed, same⟩

/-- The status goes to `delivered` with the message known since it was looked up. -/
theorem confirm_triple (signed : SignedBy crypto acknowledgement key) :
    (bookkeeping crypto writer).Triple self
      (fun node => Entries held attempted self node ∧ Known acknowledgement node.stored)
      (execute (.confirm key acknowledgement)) (fun _ node => Entries held attempted self node ∧ True)
      fun _ => Entries held attempted self := by
  apply Contract.Triple.bind
  · apply act_triple (Q := Entries held attempted self) Known.stable
    · simp [OutboxPoint.task?]
    · exact fun node _ entered => ⟨signed.1, signed.2, entered.2⟩
    · exact fun fate node entered => entries_kept rfl entered.1
  · exact fun _ => Tidy.act rfl fun _ => trivial

theorem applyAck_tidy (signed : SignedBy crypto acknowledgement key) :
    Tidy crypto writer self held attempted (applyAck identity writer sender key acknowledgement) fun _ => True := by
  apply Contract.Triple.bind
    (Q := fun found node => Entries held attempted self node ∧ ∀ message ∈ found,
      ∃ stored ∈ node.stored, stored.messageId = acknowledgement.messageId ∧ stored.groupId = message.groupId)
  · refine ask_triple entries_stable fun fate node kept entries => ⟨entries, ?_⟩
    intro message found
    obtain ⟨member, named⟩ := Table.find?_some_iff.mp found
    obtain ⟨stored, listed, same, group⟩ := kept.current.known message member
    exact ⟨stored, listed, same.trans named, group⟩
  · intro found
    cases found with
    | none => exact Tidy.refused.weaken (fun _ => And.left) (fun _ _ => id) fun _ _ => id
    | some message =>
        apply Contract.Triple.ite
        · exact fun _ => Tidy.refused.weaken (fun _ => And.left) (fun _ _ => id) fun _ _ => id
        · intro agreed
          have named : message.groupId = acknowledgement.groupId := by simpa using agreed
          apply Contract.Triple.ite
          · intro _
            exact Contract.Triple.weaken (Tidy.onlyIf fun _ => forwardAck_tidy) (fun _ => And.left) (fun _ _ => id)
              fun _ _ => id
          · intro _
            apply Contract.Triple.weaken
              (P := fun node => Entries held attempted self node ∧ Known acknowledgement node.stored) _
              (fun node entered => ⟨entered.1, ?_⟩) (fun _ _ => id) fun _ _ => id
            · refine Contract.Triple.bind (Q := fun _ node => Entries held attempted self node ∧
                Known acknowledgement node.stored) (ask_triple Known.stable fun _ _ _ entered => entered) fun listed => ?_
              apply Contract.Triple.ite (fun _ => confirm_triple signed)
              exact fun _ => Tidy.refused.weaken (fun _ => And.left) (fun _ _ => id) fun _ _ => id
            · obtain ⟨stored, known, same, group⟩ := entered.2 message rfl
              exact ⟨stored, known, same, group.trans named⟩

theorem handleAck_tidy (certified : ∀ key, sender.signingPublicKey = some key → crypto.sha256 key = sender.peerId) :
    Tidy crypto writer self held attempted (handleAck identity writer sender acknowledgement) fun _ => True := by
  apply Tidy.ite (fun _ => .refused)
  intro _
  refine Tidy.asked.bind fun within _ => ?_
  apply Tidy.ite _ fun _ => .pure trivial
  intro _
  refine (acknowledgementKey_tidy certified).bind fun found signed => ?_
  cases found with
  | none => exact .pure trivial
  | some key => exact applyAck_tidy (signed key rfl)

end

/-! ## The flush -/

section

variable {sender : GroupPeer} {row : OutgoingRow} {items : List OutgoingRow}

/-- The rows a flush still has to deal with. -/
def Rest (items : List OutgoingRow) (queueId : Nat) : Prop :=
  ∃ row ∈ items, isFilePacket row.packetType = false ∧ row.id = queueId

theorem query_keeps {read : OutboxNode → α} :
    (bookkeeping crypto writer).Triple self (Entries held attempted self) (query read)
      (fun _ => Entries held attempted self) R :=
  ask_triple entries_stable fun _ _ _ entries => entries

theorem canFlush_triple : (bookkeeping crypto writer).Triple self (Entries held attempted self) (canFlush sender row)
    (fun _ => Entries held attempted self) R := by
  have answers : ∀ {value : Bool}, (bookkeeping crypto writer).Triple self (Entries held attempted self)
      (Pure.pure value : OutboxProgram Bool) (fun _ => Entries held attempted self) R :=
    Contract.Triple.pure fun _ => id
  apply Contract.Triple.ite (fun _ => answers)
  intro _
  apply Contract.Triple.ite (fun _ => answers)
  intro _
  apply Contract.Triple.ite (fun _ => answers)
  intro _
  apply Contract.Triple.ite (fun _ => answers)
  intro _
  refine Contract.Triple.bind query_keeps fun named => ?_
  refine Contract.Triple.bind query_keeps fun active => ?_
  apply Contract.Triple.ite _ fun _ => answers
  exact fun _ => Contract.Triple.bind query_keeps fun blocked => answers

/-- A row that goes is no more held. -/
theorem remove_triple : (bookkeeping crypto writer).Triple self (Entries (Rest (row :: items)) attempted self)
    (execute (.remove self row.id)) (fun _ => Entries (Rest items) attempted self) R := by
  apply Contract.Triple.bind
  · apply act_triple (Q := Entries (Rest items) attempted self) entries_stable
    · simp [OutboxPoint.task?]
    · exact fun _ _ _ => trivial
    · intro fate node entries
      refine ⟨?_, entries.attempts⟩
      intro entry member own
      obtain ⟨listed, spared⟩ := List.mem_filter.mp member
      obtain ⟨kept, among, plain, same⟩ := entries.rows entry listed own
      rcases List.mem_cons.mp among with rfl | later
      · exact absurd (Prod.ext own same.symm) (of_decide_eq_true spared)
      · exact ⟨kept, later, plain, same⟩
  · exact fun _ => act_keeps rfl fun _ => trivial

theorem refuseRow_triple {fails : Bool} :
    (bookkeeping crypto writer).Triple self (Entries (Rest (row :: items)) attempted self)
      (refuseRow self recipientId row fails) (fun _ => Entries (Rest items) attempted self) R := by
  apply Contract.Triple.bind
  · exact Contract.Triple.ite (fun _ => execute_keeps rfl fun _ => .inl rfl) fun _ => Contract.Triple.pure fun _ => id
  · intro _
    refine Contract.Triple.bind (Contract.Triple.ite ?_ fun _ => Contract.Triple.pure fun _ => id) fun _ => remove_triple
    exact fun _ => execute_keeps rfl fun _ => trivial

/-- What a flush has written down when it sends a row. -/
def Announced (owner : Nat) (row : OutgoingRow) (items : List OutgoingRow) (peerId : PeerId) (node : OutboxNode) : Prop :=
  if isGroupCopy row then
    Entries (Rest (row :: items)) (One (row.messageId.getD "") peerId) owner node ∧
      Attempting owner (row.messageId.getD "") peerId node
  else Entries (Rest (row :: items)) (fun _ _ => False) owner node

theorem announced_stable {peerId : PeerId} :
    (bookkeeping crypto writer).Stable self (Announced self row items peerId) := by
  unfold Announced
  split
  · exact attempting_stable
  · exact entries_stable

/-- How a row's send ends: what it announced is over, and a failed one is not held. -/
theorem sendQueued_triple {type : PacketType} (carries : RowCarries writer row) (aimed : row.recipientId = sender.peerId)
    (typed : type.value = row.packetType) :
    (bookkeeping crypto writer).Triple self (Announced self row items sender.peerId)
      (transmit (.sendQueued self row sender.peerId ⟨.live type, row.encryptedPayload⟩))
      (fun returned => if returned = true then Entries (Rest (row :: items)) (fun _ _ => False) self
        else Entries (Rest items) (fun _ _ => False) self) R := by
  apply transmit_triple announced_stable
  · simp [OutboxPoint.task?]
  · intro node _ announced
    refine ⟨carries, aimed, ⟨type, rfl, typed⟩, fun copied => ?_⟩
    rw [Announced, if_pos copied] at announced
    exact announced.2
  · intro fate node announced
    have finished : Entries (Rest (row :: items)) (fun _ _ => False) self { node with
        sending := if isGroupCopy row then node.otherAttempts self (row.messageId.getD "") sender.peerId
          else node.sending } := by
      unfold Announced at announced
      split at announced
      · rename_i copied
        exact clear_of_spared announced.1 rfl (if_pos copied)
      · rename_i other
        rw [if_neg other]
        exact ⟨announced.rows, announced.attempts⟩
    cases failed : fate.sendFails with
    | false =>
        simp only [OutboxPoint.effect, failed, Bool.not_false, if_true, Bool.false_eq_true, if_false]
        exact ⟨finished.rows, finished.attempts⟩
    | true =>
        simp only [OutboxPoint.effect, failed, Bool.not_true, Bool.false_eq_true, if_false, if_true]
        refine ⟨?_, finished.attempts⟩
        intro entry member own
        obtain ⟨listed, spared⟩ := List.mem_filter.mp member
        obtain ⟨kept, among, plain, same⟩ := finished.rows entry listed own
        rcases List.mem_cons.mp among with rfl | later
        · exact absurd (Prod.ext own same.symm) (of_decide_eq_true spared)
        · exact ⟨kept, later, plain, same⟩

theorem flushRow_triple {type : PacketType} (carries : RowCarries writer row) (aimed : row.recipientId = sender.peerId)
    (typed : type.value = row.packetType) :
    (bookkeeping crypto writer).Triple self (Entries (Rest (row :: items)) (fun _ _ => False) self)
      (flushRow self sender row type) (fun _ => Entries (Rest items) (fun _ _ => False) self) R := by
  apply Contract.Triple.bind (Q := fun _ => Announced self row items sender.peerId)
  · unfold Announced
    apply Contract.Triple.ite
    · intro copied
      simp only [if_pos copied]
      exact beginAttempt_triple
    · intro other
      simp only [if_neg other]
      exact Contract.Triple.pure fun _ => id
  · intro _
    refine Contract.Triple.bind (sendQueued_triple carries aimed typed) fun returned => ?_
    cases returned with
    | true =>
        simp only [if_true]
        refine Contract.Triple.bind (Contract.Triple.ite ?_ fun _ => Contract.Triple.pure fun _ => id) fun _ => remove_triple
        exact fun _ => execute_keeps rfl fun _ => trivial
    | false =>
        simp only [Bool.false_eq_true, if_false]
        exact execute_keeps rfl fun _ => trivial

theorem rest_of_cons {node : OutboxNode} (skipped : isFilePacket row.packetType = true)
    (entries : Entries (Rest (row :: items)) attempted self node) : Entries (Rest items) attempted self node where
  rows := by
    intro entry member own
    obtain ⟨kept, among, plain, same⟩ := entries.rows entry member own
    rcases List.mem_cons.mp among with rfl | later
    · rw [skipped] at plain
      cases plain
    · exact ⟨kept, later, plain, same⟩
  attempts := entries.attempts

theorem isFilePacket_iff {type : PacketType} (typed : type.value = row.packetType) :
    isFilePacket row.packetType = true ↔ type ∈ filePacketTypes := by
  constructor
  · intro found
    obtain ⟨known, member, same⟩ := List.any_eq_true.mp found
    rw [PacketType.value_injective (typed.trans (of_decide_eq_true same).symm)]
    exact member
  · exact fun member => List.any_eq_true.mpr ⟨type, member, decide_eq_true typed⟩

theorem value_of_ofValue? {value : Nat} {type : PacketType} (found : PacketType.ofValue? value = some type) :
    type.value = value := by
  unfold PacketType.ofValue? at found
  have same := List.find?_some found
  exact of_decide_eq_true same

/-- One row of a flush, whatever becomes of it. -/
theorem flushItem_triple (carries : RowCarries writer row) (aimed : row.recipientId = sender.peerId) :
    (bookkeeping crypto writer).Triple self (Entries (Rest (row :: items)) (fun _ _ => False) self)
      (flushItem self sender row) (fun _ => Entries (Rest items) (fun _ _ => False) self) R := by
  unfold flushItem
  cases found : PacketType.ofValue? row.packetType with
  | none => exact remove_triple
  | some type =>
      have typed : type.value = row.packetType := value_of_ofValue? found
      apply Contract.Triple.ite
      · exact fun skipped => Contract.Triple.pure fun _ => rest_of_cons ((isFilePacket_iff typed).mpr skipped)
      · intro _
        apply Contract.Triple.ite (fun _ => refuseRow_triple)
        intro _
        refine Contract.Triple.bind canFlush_triple fun flushes => ?_
        exact Contract.Triple.ite (fun _ => flushRow_triple carries aimed typed) fun _ => refuseRow_triple

theorem flushItems_triple (fitting : ∀ row ∈ items, RowCarries writer row ∧ row.recipientId = sender.peerId) :
    (bookkeeping crypto writer).Triple self (Entries (Rest items) (fun _ _ => False) self)
      (Task.forEach items (flushItem self sender)) (fun _ => Clear self) R := by
  induction items with
  | nil =>
      apply Contract.Triple.pure
      intro node entries
      refine ⟨?_, entries.attempts⟩
      intro entry member own
      obtain ⟨row, none, -⟩ := entries.rows entry member own
      cases none
  | cons row rest ih =>
      obtain ⟨carries, aimed⟩ := fitting row (List.mem_cons_self ..)
      refine Contract.Triple.bind (flushItem_triple carries aimed) fun _ => ?_
      exact ih fun other member => fitting other (List.mem_cons_of_mem _ member)

theorem flushOutgoing_tidy {peerId : PeerId} :
    Tidy crypto writer self (fun _ => False) (fun _ _ => False) (flushOutgoing self peerId) fun _ => True := by
  have asked : Tidy crypto writer self (fun _ => False) (fun _ _ => False) (ask fun fate _ => fate.connectedTo peerId)
      fun found => ∀ chosen ∈ found, chosen.peerId = peerId :=
    .ask fun fate node _ => connectedTo_aimed
  refine asked.bind fun found aimed => ?_
  cases found with
  | none => exact .pure trivial
  | some chosen =>
      have named : chosen.peerId = peerId := aimed chosen rfl
      apply Contract.Triple.bind (Q := fun items node => Entries (Rest items) (fun _ _ => False) self node ∧
        ∀ row ∈ items, RowCarries writer row ∧ row.recipientId = chosen.peerId)
      · apply Contract.Triple.perform entries_stable
        intro fate node kept entries _
        refine ⟨effect_step kept trivial (by simp [OutboxPoint.task?]), ⟨?_, entries.attempts⟩, ?_⟩
        · intro entry member own
          rcases List.mem_append.mp member with old | added
          · exact (entries.rows entry old own).elim
          · obtain ⟨row, chosenRow, rfl⟩ := List.mem_map.mp added
            obtain ⟨pending, plain⟩ := List.mem_filter.mp chosenRow
            exact ⟨row, pending, by simpa using plain, rfl⟩
        · intro row member
          obtain ⟨queued, selected⟩ := List.mem_filter.mp member
          exact ⟨kept.current.carries row queued, (of_decide_eq_true selected).1.trans named.symm⟩
      · intro items node entered
        refine (flushItems_triple entered.2 node entered.1).weaken ?_ fun _ _ => id
        exact fun _ _ clear => ⟨clear, trivial⟩

end

/-! ## The service -/

theorem deleteMessageLocally_tidy {group : Option String} :
    Tidy crypto writer self held attempted (deleteMessageLocally messageId group) fun _ => True := by
  refine Tidy.bind (.act rfl fun _ => trivial) fun _ _ => ?_
  cases group with
  | none => exact .execute rfl fun _ => trivial
  | some groupId => exact Tidy.bind (.act rfl fun _ => trivial) fun _ _ => .execute rfl fun _ => trivial

theorem announceLeave_tidy {member : PeerId × Bool} :
    Tidy crypto writer self held attempted (announceLeave groupId encoded member) fun _ => True := by
  have queueing : Tidy crypto writer self held attempted (onlyIf member.2
      (execute (.enqueue member.1 PacketType.groupLeave.value encoded none (some groupId)))) fun _ => True :=
    .onlyIf fun _ => .execute rfl fun _ => enqueue_regular (by decide)
  refine Tidy.asked.bind fun found _ => ?_
  split
  · exact queueing
  · refine Tidy.bind (.transmit rfl fun _ => trivial) fun returned _ => ?_
    exact Tidy.ite (fun _ => .pure trivial) fun _ => queueing

theorem leaveGroup_tidy :
    Tidy crypto writer self held attempted (leaveGroup identity writer groupId) fun _ => True := by
  refine Tidy.query.bind fun named _ => ?_
  apply Tidy.ite _ fun _ => .refused
  intro _
  refine Tidy.query.bind fun members _ => ?_
  refine Tidy.asked.bind fun announced _ => ?_
  refine Tidy.asked.bind fun saved _ => ?_
  refine saveGroupMessage_tidy.bind fun _ _ => ?_
  refine Tidy.bind (.execute rfl fun _ => trivial) fun _ _ => ?_
  exact .forEach fun member _ => announceLeave_tidy

theorem outboxProgram_tidy {job : OutboxJob crypto} :
    Tidy crypto writer self (fun _ => False) (fun _ _ => False) (outboxProgram identity writer self job) fun _ => True := by
  cases job with
  | sendMessage recipientId plaintext reply => exact sendMessage_tidy
  | receipt peer messageId => exact .execute rfl fun _ => trivial
  | blockedNotice peer messageId => exact .execute rfl fun _ => trivial
  | incoming message => exact .execute rfl fun _ => rfl
  | sendGroupMessage groupId plaintext reply => exact sendGroupMessage_tidy
  | groupAck peer acknowledgement => exact handleAck_tidy peer.certified
  | incomingGroup message => exact saveGroupMessage_tidy
  | leaveGroup groupId => exact leaveGroup_tidy
  | flush peerId => exact flushOutgoing_tidy
  | delete messageId groupId => exact deleteMessageLocally_tidy
  | cleanup => exact .execute rfl fun _ => trivial
  | enqueue recipientId type payload messageId groupId =>
      apply Tidy.ite (fun _ => .pure trivial)
      intro other
      refine .execute rfl fun _ => enqueue_regular ?_
      exact fun same => other (.inr (PacketType.value_injective same))
  | removeFile fileId recipientId => exact .execute rfl fun _ => trivial
  | meet peer => exact .execute rfl fun _ => peer.certified
  | learnKey peerId key =>
      apply Tidy.onlyIf
      intro hashed
      have certified : crypto.sha256 key = peerId := of_decide_eq_true hashed
      exact .execute rfl fun _ => certified
  | configure surroundings => exact .execute rfl fun _ => trivial

/-- Every run of the service keeps the books. -/
theorem outbox_completes {restartedAt : Time} :
    Pool.Completes (bookkeeping crypto writer) Clear (outboxService identity writer restartedAt) where
  stable := fun _ => entries_stable
  starts := fun _ _ node _ clear =>
    (outboxProgram_tidy node clear).weaken (fun _ _ => And.left) fun _ _ => id

/-! ## Runs -/

variable {node : OutboxNode} {pool next start final : OutboxPool} {now restartedAt : Time} {events : List (OutboxEvent crypto)}

theorem opened_kept (kept : Wellkept crypto writer node) : Wellkept crypto writer (node.opened node.committed now) where
  current := kept.committed.same rfl rfl rfl
  committed := kept.committed.same rfl rfl rfl

theorem opened_clear {tables : OutboxTables} : Clear self (node.opened tables now) where
  rows := nofun
  attempts := nofun

abbrev Settled (crypto : FileCrypto) (writer : PacketWriter) (pool : OutboxPool) : Prop :=
  Pool.Settled (bookkeeping crypto writer) Clear pool

theorem freshOutbox_settled : Settled crypto writer freshOutbox where
  invariant := ⟨⟨nofun, nofun, nofun⟩, nofun, nofun, nofun⟩
  tasks := by
    intro index task found
    cases found
  unstarted := fun _ _ => ⟨nofun, nofun⟩

/-- What a step of the service does to the node. -/
def Steps (crypto : FileCrypto) (writer : PacketWriter) (restartedAt : Time) (pool next : OutboxPool) :
    OutboxEvent crypto → Prop
  | .start _ => next.shared = pool.shared
  | .restart => next.shared = pool.shared.opened pool.shared.committed restartedAt
  | .resume index fate => ∃ point, pool.pointAt index = some point ∧ Regular crypto writer point pool.shared ∧
      next.shared = point.effect fate pool.shared

theorem step_settles {event : OutboxEvent crypto} (settled : Settled crypto writer pool)
    (stepped : pool.step (outboxService identity writer restartedAt) event = some next) :
    Settled crypto writer next ∧ Steps crypto writer restartedAt pool next event := by
  have allowed : Pool.Allowed (bookkeeping crypto writer).admits pool event := by
    cases event <;> simp [Pool.Allowed, bookkeeping]
  cases event with
  | restart =>
      cases stepped
      refine ⟨⟨opened_kept settled.invariant, fun index task found => ?_, fun _ _ => opened_clear⟩, rfl⟩
      cases found
  | start job =>
      obtain ⟨kept, -⟩ := Pool.step_settled outbox_completes settled allowed trivial stepped
      cases stepped
      exact ⟨kept, rfl⟩
  | resume index fate =>
      obtain ⟨point, ready, act, further, found, -⟩ := Pool.step_resume stepped
      have current : pool.pointAt index = some point := by
        rw [Pool.pointAt, found]
        rfl
      obtain ⟨kept, guaranteed⟩ := Pool.step_settled outbox_completes settled allowed trivial stepped
      exact ⟨kept, point, current, guaranteed index fate rfl point current⟩

/-- The run rule: what every action keeps under the conditions of the run, and
every start, holds along the run. -/
theorem outbox_invariant {invariant : OutboxNode → Prop} {allowed : OutboxPool → OutboxEvent crypto → Prop}
    (acts : ∀ pool index fate point, Wellkept crypto writer pool.shared → invariant pool.shared →
      allowed pool (.resume index fate) → pool.pointAt index = some point → Regular crypto writer point pool.shared →
      invariant (point.effect fate pool.shared))
    (reboots : ∀ pool, invariant pool.shared → allowed pool .restart →
      invariant (pool.shared.opened pool.shared.committed restartedAt))
    (initial : Settled crypto writer start ∧ invariant start.shared)
    (meets : Meets (Pool.step (outboxService identity writer restartedAt)) allowed start events)
    (completed : run (Pool.step (outboxService identity writer restartedAt)) start events = some final) :
    Settled crypto writer final ∧ invariant final.shared := by
  refine run_invariant (fun pool => Settled crypto writer pool ∧ invariant pool.shared) ?_ initial meets completed
  rintro pool event next ⟨settled, held⟩ admitted stepped
  obtain ⟨kept, does⟩ := step_settles settled stepped
  refine ⟨kept, ?_⟩
  cases event with
  | start job =>
      rw [show next.shared = pool.shared from does]
      exact held
  | restart =>
      rw [show next.shared = _ from does]
      exact reboots pool held admitted
  | resume index fate =>
      obtain ⟨point, current, regular, shared⟩ := does
      rw [shared]
      exact acts pool index fate point settled.invariant held admitted current regular

/-- An attempt belongs to a task that has not ended. -/
theorem attempt_running {attempt : Attempt} (settled : Settled crypto writer pool) (member : attempt ∈ pool.shared.sending) :
    (pool.pointAt attempt.task).isSome = true := by
  rw [Pool.pointAt]
  cases found : pool.tasks[attempt.task]? with
  | none => exact ((settled.unstarted _ (List.getElem?_eq_none_iff.mp found)).attempts attempt member rfl).elim
  | some task =>
      have honours := settled.tasks _ task found
      cases task with
      | done value => exact (Entries.attempts honours attempt member rfl).elim
      | failed error => exact (Entries.attempts honours attempt member rfl).elim
      | suspended point ready act further => rfl

end

end MeshTalk.Outbox
