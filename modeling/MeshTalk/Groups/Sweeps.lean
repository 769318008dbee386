import MeshTalk.Groups.Relay

namespace MeshTalk.Groups

open MeshTalk.Library MeshTalk.Protocol MeshTalk.Store MeshTalk.Store.Database

/-! # Proving a contract of the sweeps

A sweep arrives at a group, fetches a batch and walks through it.  What a proof
about sweeps has to supply is an assertion for each of these phases and one
fact for each of the few actions that matter to it.
-/

/-- An action that only reads, or only keeps the books of the limits. -/
structure Unmoved (before after : GroupNode) : Prop where
  db : after.db = before.db
  memberships : after.memberships = before.memberships
  sweeps : after.sweeps = before.sweeps
  relays : after.relays = before.relays
  examined : after.examined = before.examined
  recent : ∀ key, after.recentRelays.get? key = none ∨ after.recentRelays.get? key = before.recentRelays.get? key

theorem Unmoved.refl {node : GroupNode} : Unmoved node node :=
  ⟨rfl, rfl, rfl, rfl, rfl, fun _ => .inr rfl⟩

theorem Unmoved.trans {before middle after : GroupNode} (first : Unmoved before middle) (second : Unmoved middle after) :
    Unmoved before after where
  db := second.db.trans first.db
  memberships := second.memberships.trans first.memberships
  sweeps := second.sweeps.trans first.sweeps
  relays := second.relays.trans first.relays
  examined := second.examined.trans first.examined
  recent := fun key => by
    rcases second.recent key with forgotten | kept
    · exact .inl forgotten
    · rw [kept]
      exact first.recent key

theorem get?_dropOldest [DecidableEq κ] (dict : Dict κ ν) (bound : Nat) (key : κ) :
    (dropOldest dict bound).get? key = none ∨ (dropOldest dict bound).get? key = dict.get? key := by
  rw [dropOldest, Dict.get?_filter]
  by_cases doomed : key ∈ dict.keys.take (dict.size - bound)
  · left
    cases dict.get? key <;> simp [Option.filter, doomed]
  · right
    cases dict.get? key <;> simp [Option.filter, doomed]

/-- A handler that moves nothing and does not raise. -/
abbrev Keeping (handler : Action α) : Prop :=
  ∀ seen, handler.Ensures (Unmoved seen) (fun _ => Unmoved seen) fun _ => False

theorem forgetOldRelays_keeping {now : Time} : Keeping (forgetOldRelays now) := by
  refine fun seen => Handler.Ensures.change fun node moved => moved.trans ⟨rfl, rfl, rfl, rfl, rfl, fun key => ?_⟩
  rcases get?_dropOldest (node.recentRelays.filter fun _ sentAt =>
    decide (now - sentAt < relayResendSuppressSeconds)) maxRecentRelays key with forgotten | kept
  · exact .inl forgotten
  · rw [Dict.get?_filter] at kept
    cases found : node.recentRelays.get? key with
    | none => exact .inl (kept.trans (by rw [found]; rfl))
    | some sentAt =>
        rw [found] at kept
        by_cases recent : now - sentAt < relayResendSuppressSeconds
        · exact .inr (kept.trans (by simp [Option.filter, recent]))
        · exact .inl (kept.trans (by simp [Option.filter, recent]))

theorem relayBudgetLeft_keeping {peerId : PeerId} {now : Time} : Keeping (relayBudgetLeft peerId now) :=
  fun _ => Handler.Ensures.read fun _ moved => Handler.Ensures.bind (Handler.Ensures.change fun _ same =>
    moved.trans (same ▸ ⟨rfl, rfl, rfl, rfl, rfl, fun _ => .inr rfl⟩)) fun _ => Handler.Ensures.pure fun _ => id

theorem beginSweep_keeping {peerId : PeerId} {fate : GroupFate} : Keeping (beginSweep peerId fate) :=
  fun seen => Handler.Ensures.bind (relayBudgetLeft_keeping seen) fun _ => Handler.Ensures.ite
    (fun _ => Handler.Ensures.pure fun _ => id) fun _ => Handler.Ensures.bind (forgetOldRelays_keeping seen) fun _ =>
      Handler.Ensures.pure fun _ => id

theorem readTarget_eq {self : Nat} {peerId : PeerId} {groupId : String} {node : GroupNode} :
    readTarget self peerId groupId node = (.ok (node.db.getGroupMember groupId peerId),
      { node with sweeps := node.sweeps.set self { peerId, groupId, fetched := [] } }) := rfl

theorem fetchMessages_eq {holder : Nat} {peerId : PeerId} {groupId : String} {since : Time} {limit : Nat}
    {after : Option Nat} {fate : GroupFate} {node : GroupNode} :
    fetchMessages holder peerId groupId since limit after fate node =
      if fate.raises then (.ok none, node)
      else
        let messages := node.db.getGroupMessagesForRelay groupId since limit after
        (.ok (some messages), { node with
          sweeps := node.sweeps.set holder { peerId, groupId, fetched := messages.map GroupMessage.rowid }
          examined := node.examined ++ (passedOver node.db groupId since).map fun message =>
            { peerId, message, outcome := .ineligible } }) := by
  rw [fetchMessages, Handler.bind_apply]
  cases fate.raises <;> rfl

/-- What the checks of a sweep let through. -/
structure Prepared {crypto : FileCrypto} (identity : Identity crypto) (dumps : Json → Bytes)
    (encryptForRecipient : Bytes → Bytes → Json → Bytes) (peer : GroupPeer) (groupId : String) (stored : GroupMessage)
    (payload : GroupMessagePayload) : Prop where
  built : ∃ key, (∀ known, peer.encryptionPublicKey = some known → key = known) ∧
    payload = relayedPayload identity encryptForRecipient key peer groupId stored (stored.originSignature.getD [])
      (encodeUtf8 (stored.content.getD ""))
  group : stored.groupId = groupId
  senders : stored.senderId ≠ identity.peerId ∧ stored.senderId ≠ peer.peerId
  origin : (stored.originSignature.getD []).length = 64
  replies : stored.replyToMessageId.getD "" ≠ "" → peer.supports capMessageReplies = true
  content : (encodeUtf8 (stored.content.getD "")).length ≤ maxGroupMessageContentSize
  size : (dumps payload.json).length ≤ maxPacketSize

theorem Prepared.groupId {crypto : FileCrypto} {identity : Identity crypto} {dumps : Json → Bytes}
    {encryptForRecipient : Bytes → Bytes → Json → Bytes} {peer : GroupPeer} {groupId : String} {stored : GroupMessage}
    {payload : GroupMessagePayload} (prepared : Prepared identity dumps encryptForRecipient peer groupId stored payload) :
    payload.groupId = groupId := by
  obtain ⟨key, -, rfl⟩ := prepared.built
  rfl

/-- The assertions of a sweep and what its actions make of them. -/
structure SweepRules {crypto : FileCrypto} (identity : Identity crypto) (dumps : Json → Bytes)
    (encryptForRecipient : Bytes → Bytes → Json → Bytes) (contract : Contract GroupNode GroupFate GroupPoint)
    (holder : Nat) where
  arrived : PeerId → String → Option GroupMember → GroupNode → Prop
  resumed : PeerId → String → GroupMember → Option Nat → GroupNode → Prop
  relaying : PeerId → String → List GroupMessage → Option Nat → GroupNode → Prop
  verdict : PeerId → GroupMessage → Outcome → GroupNode → Prop
  unmoved : ∀ point fate before after, contract.invariant before → Unmoved before after →
    contract.Step holder point fate before after
  arrivedStable : ∀ peerId groupId target, contract.Stable holder (arrived peerId groupId target)
  arrivedUnmoved : ∀ peerId groupId target before after, Unmoved before after → arrived peerId groupId target before →
    arrived peerId groupId target after
  resumedStable : ∀ peerId groupId member cursor, contract.Stable holder (resumed peerId groupId member cursor)
  relayingStable : ∀ peerId groupId rest covered, contract.Stable holder (relaying peerId groupId rest covered)
  relayingUnmoved : ∀ peerId groupId rest covered before after, Unmoved before after →
    relaying peerId groupId rest covered before → relaying peerId groupId rest covered after
  verdictStable : ∀ peerId stored outcome, contract.Stable holder (verdict peerId stored outcome)
  verdictUnmoved : ∀ peerId stored outcome before after, Unmoved before after → verdict peerId stored outcome before →
    verdict peerId stored outcome after
  ineligible : ∀ peerId stored node, verdict peerId stored .ineligible node
  raisedQuery : ∀ peerId stored fate node, contract.admits .query fate node → fate.raises = true →
    verdict peerId stored .raised node
  raisedPrepare : ∀ peer groupId now stored fate node, contract.admits (.prepare peer groupId now stored) fate node →
    fate.raises = true → verdict peer.peerId stored .raised node
  suppressed : ∀ peer groupId now stored fate node, contract.invariant node →
    contract.admits (.prepare peer groupId now stored) fate node →
    now - (node.recentRelays.get? (stored.messageId, peer.peerId)).getD 0 < relayResendSuppressSeconds →
    verdict peer.peerId stored .sentBefore node
  arrives : ∀ peerId groupId fate before, contract.invariant before →
    let after := { before with sweeps := before.sweeps.set holder { peerId, groupId, fetched := [] } }
    contract.Step holder (.readTarget holder peerId groupId) fate before after ∧
      arrived peerId groupId (before.db.getGroupMember groupId peerId) after
  resumes : ∀ peerId groupId member before, member.active = true → arrived peerId groupId (some member) before →
    resumed peerId groupId member (before.db.getRelayCursor peerId groupId) before
  fetches : ∀ peerId groupId member limit cursor fate before, contract.invariant before →
    resumed peerId groupId member cursor before →
    let messages := before.db.getGroupMessagesForRelay groupId member.joinedAt limit cursor
    let after := { before with
      sweeps := before.sweeps.set holder { peerId, groupId, fetched := messages.map GroupMessage.rowid }
      examined := before.examined ++ (passedOver before.db groupId member.joinedAt).map fun message =>
        { peerId, message, outcome := .ineligible } }
    contract.Step holder (.fetch holder peerId groupId member.joinedAt limit cursor) fate before after ∧
      relaying peerId groupId messages none after
  examines : ∀ peerId groupId stored rest covered outcome fate before, contract.invariant before →
    relaying peerId groupId (stored :: rest) covered before → verdict peerId stored outcome before →
    let after := { before with examined := before.examined ++ [{ peerId, message := stored, outcome }] }
    contract.Step holder (.examined peerId stored outcome) fate before after ∧
      relaying peerId groupId rest (some (max (covered.getD 0) stored.rowid)) after
  sends : ∀ (peer : GroupPeer) (payload : GroupMessagePayload) groupId stored rest covered fate before,
    contract.invariant before →
    relaying peer.peerId groupId (stored :: rest) covered before →
    Prepared identity dumps encryptForRecipient peer groupId stored payload →
    contract.admits (.send peer stored payload) fate before → fate.sendFails = false →
    let after := (sendCopy peer stored payload fate before).2
    contract.Step holder (.send peer stored payload) fate before after ∧
      relaying peer.peerId groupId rest (some (max (covered.getD 0) stored.rowid)) after
  advances : ∀ peerId groupId rest lastRowid fate before, contract.invariant before →
    relaying peerId groupId rest (some lastRowid) before →
    contract.Step holder (.execute (.setCursor peerId groupId lastRowid)) fate before
      (before.execute (.setCursor peerId groupId lastRowid) fate.now)
  leaves : ∀ fate before, contract.invariant before →
    contract.Step holder (.leaveGroup holder) fate before { before with sweeps := before.sweeps.erase holder }

section Walk

open Contract

variable {contract : Contract GroupNode GroupFate GroupPoint} {self : Nat} {crypto : FileCrypto}
  {identity : Identity crypto} {dumps : Json → Bytes} {encryptForRecipient : Bytes → Bytes → Json → Bytes}
  {peer : GroupPeer} {groupId : String} {key : Bytes} {now : Time} {stored : GroupMessage}
  {state : GroupNode} {P : GroupNode → Prop} (rules : SweepRules identity dumps encryptForRecipient contract self)

include rules

/-- An action that moves nothing, under an assertion it cannot disturb. -/
theorem SweepRules.perform {point : GroupPoint} {handler : GroupFate → Action α}
    {failure : GroupError → GroupNode → Prop} (held : P state) (stable : contract.Stable self P)
    (kept : ∀ before after, Unmoved before after → P before → P after) (keeping : ∀ fate, Keeping (handler fate)) :
    contract.Honours self (fun _ => P) failure (Task.perform point handler) state := by
  refine Honours.perform held stable fun fate before invariant held _ => ?_
  have acted := keeping fate before before .refl
  rcases run : handler fate before with ⟨outcome, after⟩
  rw [run] at acted
  cases outcome with
  | ok value => exact ⟨rules.unmoved point fate before after invariant acted, kept before after acted held⟩
  | error error => exact acted.elim

theorem SweepRules.query {read : GroupNode → α} {failure : GroupError → GroupNode → Prop}
    (held : P state) (stable : contract.Stable self P) (kept : ∀ before after, Unmoved before after → P before → P after) :
    contract.Honours self (fun _ => P) failure (query read) state :=
  rules.perform held stable kept fun _ _ => Handler.Ensures.read fun _ moved => Handler.Ensures.pure fun _ same =>
    same ▸ moved

theorem SweepRules.hasBudget {peerId : PeerId}
    {failure : GroupError → GroupNode → Prop} (held : P state) (stable : contract.Stable self P)
    (kept : ∀ before after, Unmoved before after → P before → P after) :
    contract.Honours self (fun _ => P) failure (hasBudget peerId) state :=
  rules.perform held stable kept fun _ seen => Handler.Ensures.bind (relayBudgetLeft_keeping seen) fun _ =>
    Handler.Ensures.pure fun _ => id

theorem SweepRules.guardedQuery {read : GroupNode → α} (held : P state)
    (stable : contract.Stable self P) :
    contract.Honours self (fun _ => P) (fun _ node => P node ∧ rules.verdict peer.peerId stored .raised node)
      (guardedQuery read) state := by
  refine Honours.perform held stable fun fate before invariant held admitted => ?_
  cases raises : fate.raises with
  | true =>
      exact ⟨rules.unmoved _ fate before before invariant .refl, held,
        rules.raisedQuery peer.peerId stored fate before admitted raises⟩
  | false => exact ⟨rules.unmoved _ fate before before invariant .refl, held⟩

/-- What is known of a message once it has been looked at. -/
def SweepRules.Judged (peer : GroupPeer) (groupId : String) (stored : GroupMessage)
    (verdict : Outcome ⊕ GroupMessagePayload) (node : GroupNode) : Prop :=
  match verdict with
  | .inl outcome => rules.verdict peer.peerId stored outcome node
  | .inr payload => Prepared identity dumps encryptForRecipient peer groupId stored payload

theorem SweepRules.prepare {covered : Option Nat} {rest : List GroupMessage}
    (keyed : ∀ known, peer.encryptionPublicKey = some known → key = known)
    (group : stored.groupId = groupId) (senders : stored.senderId ≠ identity.peerId ∧ stored.senderId ≠ peer.peerId)
    (held : rules.relaying peer.peerId groupId rest covered state) :
    contract.Honours self
      (fun verdict node => rules.relaying peer.peerId groupId rest covered node ∧ rules.Judged peer groupId stored verdict node)
      (fun _ node => rules.relaying peer.peerId groupId rest covered node ∧ rules.verdict peer.peerId stored .raised node)
      (Task.perform (.prepare peer groupId now stored) fun fate =>
        prepareCopy identity dumps encryptForRecipient key peer groupId now stored fate) state := by
  refine Honours.perform held (rules.relayingStable _ _ _ _) fun fate before invariant held admitted => ?_
  have still := rules.unmoved (.prepare peer groupId now stored) fate before before invariant .refl
  cases raises : fate.raises with
  | true =>
      have run : prepareCopy identity dumps encryptForRecipient key peer groupId now stored fate before =
          (.error .raised, before) := by
        rw [prepareCopy, raises]
        rfl
      rw [run]
      exact ⟨still, held, rules.raisedPrepare peer groupId now stored fate before admitted raises⟩
  | false =>
      have run : ∃ verdict, prepareCopy identity dumps encryptForRecipient key peer groupId now stored fate before =
          (.ok verdict, before) ∧ rules.Judged peer groupId stored verdict before := by
        rw [prepareCopy, raises]
        simp only [Handler.bind_apply, Handler.read, Handler.refuse, Bool.false_eq_true, if_false, Handler.pure_apply]
        split
        · exact ⟨_, rfl, rules.ineligible _ _ _⟩
        · rename_i origin
          split
          · exact ⟨_, rfl, rules.ineligible _ _ _⟩
          · rename_i replies
            split
            · rename_i recent
              exact ⟨_, rfl, rules.suppressed peer groupId now stored fate before invariant admitted recent⟩
            · split
              · exact ⟨_, rfl, rules.ineligible _ _ _⟩
              · rename_i fits
                refine ⟨_, rfl, ⟨key, keyed, rfl⟩, group, senders, Decidable.not_not.mp origin, fun reply => ?_,
                  Nat.le_of_not_lt fun large => fits (.inl large), Nat.le_of_not_lt fun large => fits (.inr large)⟩
                simpa [reply] using replies
      obtain ⟨verdict, run, judged⟩ := run
      rw [run]
      exact ⟨still, held, judged⟩

theorem SweepRules.examine {covered : Option Nat} {rest : List GroupMessage}
    (keyed : ∀ known, peer.encryptionPublicKey = some known → key = known) (group : stored.groupId = groupId)
    (held : rules.relaying peer.peerId groupId rest covered state) :
    contract.Honours self
      (fun verdict node => rules.relaying peer.peerId groupId rest covered node ∧ rules.Judged peer groupId stored verdict node)
      (fun _ node => rules.relaying peer.peerId groupId rest covered node ∧ rules.verdict peer.peerId stored .raised node)
      (examineMessage identity dumps encryptForRecipient key peer groupId now stored) state := by
  have reads : ∀ {read : GroupNode → Bool} {state : GroupNode}, rules.relaying peer.peerId groupId rest covered state →
      contract.Honours self (fun _ => rules.relaying peer.peerId groupId rest covered)
        (fun _ node => rules.relaying peer.peerId groupId rest covered node ∧ rules.verdict peer.peerId stored .raised node)
        (Groups.guardedQuery read) state :=
    fun held => rules.guardedQuery held (rules.relayingStable _ _ _ _)
  unfold examineMessage
  split
  · exact ⟨held, rules.ineligible _ _ _⟩
  · rename_i senders
    refine Honours.bind ((reads held).weaken (fun blocked state held => ?_) fun _ _ => id)
    cases blocked with
    | true => exact ⟨held, rules.ineligible _ _ _⟩
    | false =>
        refine Honours.bind ((reads held).weaken (fun active state held => ?_) fun _ _ => id)
        cases active with
        | true => exact rules.prepare keyed group (not_or.mp senders) held
        | false => exact ⟨held, rules.ineligible _ _ _⟩

theorem SweepRules.note {rest : List GroupMessage} {covered : Option Nat}
    {outcome : Outcome} {failure : GroupError → GroupNode → Prop}
    (held : rules.relaying peer.peerId groupId (stored :: rest) covered state ∧
      rules.verdict peer.peerId stored outcome state) :
    contract.Honours self
      (fun _ => rules.relaying peer.peerId groupId rest (some (max (covered.getD 0) stored.rowid))) failure
      (Task.perform (.examined peer.peerId stored outcome) fun _ => Handler.change fun node =>
        { node with examined := node.examined ++ [{ peerId := peer.peerId, message := stored, outcome }] }) state := by
  refine Honours.perform (P := fun node => rules.relaying peer.peerId groupId (stored :: rest) covered node ∧
    rules.verdict peer.peerId stored outcome node) held ?_ fun fate before invariant held _ =>
      rules.examines _ _ _ _ _ _ fate before invariant held.1 held.2
  exact fun before after kept still relied held => ⟨rules.relayingStable _ _ _ _ before after kept still relied held.1,
    rules.verdictStable _ _ _ before after kept still relied held.2⟩

theorem SweepRules.send {rest : List GroupMessage} {covered : Option Nat}
    {payload : GroupMessagePayload} {failure : GroupError → GroupNode → Prop}
    (held : rules.relaying peer.peerId groupId (stored :: rest) covered state)
    (prepared : Prepared identity dumps encryptForRecipient peer groupId stored payload) :
    contract.Honours self
      (fun went node => if went then
          rules.relaying peer.peerId groupId rest (some (max (covered.getD 0) stored.rowid)) node
        else rules.relaying peer.peerId groupId (stored :: rest) covered node) failure
      (Task.perform (.send peer stored payload) fun fate => sendCopy peer stored payload fate) state := by
  refine Honours.perform held (rules.relayingStable _ _ _ _) fun fate before invariant held admitted => ?_
  cases fails : fate.sendFails with
  | true =>
      have run : sendCopy peer stored payload fate before = (.ok false, before) := by rw [sendCopy, if_pos fails]; rfl
      rw [run]
      exact ⟨rules.unmoved _ fate before before invariant .refl, held⟩
  | false =>
      have sends := rules.sends peer payload groupId stored rest covered fate before invariant held prepared
        admitted fails
      have run : (sendCopy peer stored payload fate before).1 = .ok true := by
        rw [sendCopy, if_neg (Bool.eq_false_iff.mp fails)]
        rfl
      rcases copy : sendCopy peer stored payload fate before with ⟨outcome, after⟩
      rw [copy] at run sends
      cases run
      exact sends

/-- The loop over the fetched messages. -/
theorem SweepRules.relayMessages {rest : List GroupMessage} {count : Nat}
    {covered : Option Nat} {failure : GroupError → GroupNode → Prop}
    (keyed : ∀ known, peer.encryptionPublicKey = some known → key = known)
    (group : ∀ message ∈ rest, message.groupId = groupId)
    (held : rules.relaying peer.peerId groupId rest covered state) :
    contract.Honours self
      (fun result node => ∃ remaining, rules.relaying peer.peerId groupId remaining result.2 node) failure
      (relayMessages identity dumps encryptForRecipient key peer groupId now rest count covered) state := by
  induction rest generalizing state count covered with
  | nil => exact ⟨[], held⟩
  | cons stored rest ih =>
      have later : ∀ message ∈ rest, message.groupId = groupId := fun message member =>
        group message (List.mem_cons_of_mem _ member)
      unfold Groups.relayMessages
      split
      · exact ⟨_, held⟩
      · refine Honours.bind ((rules.hasBudget held (rules.relayingStable _ _ _ _) (rules.relayingUnmoved _ _ _ _)).weaken
          (fun within state held => ?_) fun _ _ => id)
        cases within with
        | false => exact ⟨_, held⟩
        | true =>
            refine Honours.bind (Honours.recover ((rules.examine keyed (group stored List.mem_cons_self) held).weaken (fun verdict state judged => ?_)
              fun _ state judged => ?_))
            · cases verdict with
              | inl outcome => exact Honours.bind ((rules.note judged).weaken (fun _ _ held => ih later held) fun _ _ => id)
              | inr payload =>
                  refine Honours.bind ((rules.send judged.1 judged.2).weaken (fun went state held => ?_) fun _ _ => id)
                  cases went with
                  | true => exact ih later held
                  | false => exact ⟨_, held⟩
            · exact Honours.bind ((rules.note judged).weaken (fun _ _ held => ih later held) fun _ _ => id)

theorem SweepRules.advance {lastRowid : Nat} {failure : GroupError → GroupNode → Prop}
    (held : ∃ remaining, rules.relaying peer.peerId groupId remaining (some lastRowid) state) :
    contract.Honours self (fun _ _ => True) failure (advanceCursor peer.peerId groupId lastRowid) state := by
  obtain ⟨remaining, held⟩ := held
  refine Honours.perform held (rules.relayingStable _ _ _ _) fun fate before invariant held _ => ⟨?_, trivial⟩
  change contract.Step self _ fate before (if fate.raises then before else _)
  cases fate.raises with
  | true => exact rules.unmoved _ fate before before invariant .refl
  | false => exact rules.advances peer.peerId groupId remaining lastRowid fate before invariant held

theorem SweepRules.resume {member : GroupMember}
    {failure : GroupError → GroupNode → Prop} (active : member.active = true)
    (arrived : rules.arrived peer.peerId groupId (some member) state) :
    contract.Honours self (fun cursor => rules.resumed peer.peerId groupId member cursor) failure
      (Groups.query fun node => node.db.getRelayCursor peer.peerId groupId) state :=
  Honours.perform arrived (rules.arrivedStable _ _ _) fun fate before invariant arrived _ =>
    ⟨rules.unmoved _ fate before before invariant .refl, rules.resumes _ _ member before active arrived⟩

theorem SweepRules.relayGroup {count : Nat} {failure : GroupError → GroupNode → Prop}
    (keyed : ∀ known, peer.encryptionPublicKey = some known → key = known) :
    contract.Honours self (fun _ _ => True) failure
      (relayGroup identity dumps encryptForRecipient self key peer now groupId count) state := by
  have idle : contract.Stable self fun _ => True := fun _ _ _ _ _ _ => trivial
  refine Honours.bind ((rules.query trivial idle fun _ _ _ => id).weaken (fun selfActive state _ => ?_) fun _ _ => id)
  refine Honours.bind (Honours.perform (P := fun _ => True) trivial idle fun fate before invariant _ _ => ?_)
  obtain ⟨step, arrived⟩ := rules.arrives peer.peerId groupId fate before invariant
  refine ⟨step, ?_⟩
  rw [readTarget_eq]
  dsimp only
  cases target : before.db.getGroupMember groupId peer.peerId with
  | none => trivial
  | some member =>
      rw [target] at arrived
      cases condition : selfActive && member.active with
      | false =>
          simp only [Option.filter, condition]
          trivial
      | true =>
          simp only [Option.filter, condition, if_true]
          have active : member.active = true := (Bool.and_eq_true_iff.mp condition).2
          refine Honours.bind ((rules.resume active arrived).weaken (fun cursor state resumed => ?_) fun _ _ => id)
          refine Honours.bind (Honours.perform resumed (rules.resumedStable _ _ _ _) fun fate before invariant resumed _ => ?_)
          cases raises : fate.raises with
          | true =>
              rw [fetchMessages_eq, if_pos raises]
              exact ⟨rules.unmoved _ fate before before invariant .refl, trivial⟩
          | false =>
              obtain ⟨step, relaying⟩ := rules.fetches peer.peerId groupId member (maxRelayPerSweep - count) cursor fate
                before invariant resumed
              rw [fetchMessages_eq, if_neg (Bool.eq_false_iff.mp raises)]
              refine ⟨step, Honours.bind ((rules.relayMessages keyed (fun message fetched =>
                (mem_relayCandidates.mp (mem_of_getGroupMessagesForRelay fetched)).2.1) relaying).weaken (fun result state relaying => ?_)
                fun _ _ => id)⟩
              obtain ⟨sent, covered⟩ := result
              cases covered with
              | none => trivial
              | some lastRowid => exact Honours.bind (rules.advance relaying)

/-- A sweep keeps the contract. -/
theorem SweepRules.relayForPeer :
    contract.Keeps self (relayForPeer identity dumps encryptForRecipient self peer) state := by
  have idle : contract.Stable self fun _ => True := fun _ _ _ _ _ _ => trivial
  have reads : ∀ {β : Type} {read : GroupNode → β} {state : GroupNode},
      contract.Honours self (fun _ _ => True) (fun _ _ => True) (Groups.query read) state :=
    rules.query trivial idle fun _ _ _ => id
  have groups : ∀ {key : Bytes} {now : Time} {groups : List String} {count : Nat} {state : GroupNode},
      (∀ known, peer.encryptionPublicKey = some known → key = known) → contract.Keeps self (relayGroups identity dumps encryptForRecipient self key peer now groups count) state := by
    intro key now groups
    induction groups with
    | nil => exact fun {_ _} _ => trivial
    | cons groupId rest ih =>
        intro count state keyed
        unfold relayGroups
        split
        · trivial
        · refine Honours.bind ((rules.hasBudget trivial idle fun _ _ _ => id).weaken (fun within state _ => ?_) fun _ _ => id)
          cases within with
          | false => trivial
          | true =>
              have leaves : ∀ {exit : GroupNode → Prop} {state : GroupNode}, (∀ node, exit node) →
                  contract.Honours self (fun _ : Unit => exit) (fun _ _ => True) (leaveGroup self) state :=
                fun all => Honours.perform (P := fun _ => True) trivial idle fun fate before invariant _ _ =>
                  ⟨rules.leaves fate before invariant, all _⟩
              refine Honours.bind (Honours.ensuring ((rules.relayGroup keyed).weaken (fun sent state _ => ?_) fun _ _ => id))
              exact leaves fun _ => ih keyed
  unfold Groups.relayForPeer
  split
  · trivial
  · refine Honours.bind (reads.weaken (fun blocked state _ => ?_) fun _ _ => id)
    cases blocked with
    | true => trivial
    | false =>
        refine Honours.bind (reads.weaken (fun known state _ => ?_) fun _ _ => id)
        cases chosen : peer.encryptionPublicKey.or known with
        | none => trivial
        | some key =>
            have keyed : ∀ known, peer.encryptionPublicKey = some known → key = known := fun own same => by
              rw [same] at chosen
              exact (Option.some.inj chosen).symm
            refine Honours.bind ((rules.perform trivial idle (fun _ _ _ => id) fun fate => beginSweep_keeping).weaken
              (fun now state _ => ?_) fun _ _ => id)
            cases now with
            | none => trivial
            | some now => exact Honours.bind (reads.weaken (fun _ _ _ => groups keyed) fun _ _ => id)

end Walk

end MeshTalk.Groups
