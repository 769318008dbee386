import MeshTalk.Control.Acts
import MeshTalk.Control.Consistent

namespace MeshTalk.Control

open MeshTalk.Library ControlState WorkerState

/-! # What one event comes to

An event of either server is a walk along the updates, and a relay frame can only
be its last step.
-/

section

variable {context : Context} {grounds : Grounds} {control : ControlState} {socket : Socket} {message : ControlMessage}

theorem confirmRegistration_acts {peerId : PeerId} (granted : grounds.grants peerId) :
    Handler.Moves (Acts context grounds) (confirmRegistration context socket peerId) control :=
  .change (Act.ensures peerId granted).acts (send_acts rfl rfl rfl)

theorem openClient_acts {ip : Address} {challengeId challenge : Text} (new : control.sockets.get? socket = none) :
    Handler.Moves (Acts context grounds) (openClient context socket ip challengeId challenge) control :=
  .change (Act.opens socket ip challengeId challenge new).acts (send_acts rfl rfl rfl)

theorem takeIdentity_acts {signed : SignedRegistration} (asked : grounds.asks socket message)
    (named : message.type = .deviceRegister ∧ message.registration? = some signed)
    (proves : signed.Proves context.crypto (control.data socket)) (granted : grounds.grants signed.registration.peerId) :
    Handler.Moves (Acts context grounds) (takeIdentity socket signed.registration.peerId) control :=
  .read (.change (Act.registers socket message signed asked named proves granted).acts .pure)

theorem sendError_acts {text : String} (touched : grounds.Touches socket) :
    Handler.Moves (Acts context grounds) (send context socket (.error text)) control :=
  Speaks.acts (.send (fair_error touched))

/-- The device of the client that is replaced is registered anew. -/
theorem takeIdentity_previous {peerId : PeerId} {previous : Option Socket} {after : ControlState} {other : Socket}
    (taken : takeIdentity socket peerId control = (.ok previous, after)) (replaced : previous = some other) :
    control.socketsByPeerId.get? peerId = some other := by
  cases taken
  exact (Option.filter_eq_some_iff.mp replaced).1

/-- The handler leaves the tables alone. -/
theorem acts_unchanged {handler : ControlHandler α} (unchanged : (handler control).2 = control) :
    Handler.Moves (Acts context grounds) handler control :=
  .of_state unchanged .refl

end

/-! ## The Bun server -/

namespace Bun

variable {context : Context} {grounds : Grounds} {control : ControlState} {socket : Socket} {message : ControlMessage}

theorem closeClient_acts (touched : grounds.Touches socket) : Handler.Moves (Acts context grounds) (closeClient context socket) control := by
  refine .read ?_
  split
  · exact .pure
  · exact .change (Act.shuts socket touched).acts (detach_acts touched)

theorem putClosed_acts {code : Nat} (touched : grounds.Touches socket) : Handler.Moves (Acts context grounds)
    (Handler.change fun control => control.put (.closed socket code) : ControlHandler PUnit) control := by
  have told : Acts context grounds control (control.putAll [.closed socket code]) := (Act.tells _ (fair_closed touched)).acts
  exact told

theorem replacePrevious_acts {previous : Option Socket} (touched : ∀ other, previous = some other → grounds.Touches other) :
    Handler.Moves (Acts context grounds) (replacePrevious context previous) control := by
  cases previous with
  | none => exact .pure
  | some previous =>
      have ends := touched previous rfl
      exact (closeClient_acts ends).bind fun _ _ _ => putClosed_acts ends

theorem rejectClient_acts {text : String} (touched : grounds.Touches socket) :
    Handler.Moves (Acts context grounds) (rejectClient context socket text) control :=
  .ensuring (sendError_acts touched) fun _ => (closeClient_acts touched).bind fun _ _ _ => putClosed_acts touched

/-- The registration that is committed has been checked against the tables as they are. -/
theorem registerDevice_acts (asked : grounds.asks socket message) (type : message.type = .deviceRegister)
    (grants : ∀ signed, message.registration? = some signed → grounds.grants signed.registration.peerId ∧
      ∀ previous, control.socketsByPeerId.get? signed.registration.peerId = some previous → grounds.ends previous) :
    Handler.Moves (Acts context grounds) (registerDevice context socket message) control := by
  refine Handler.Moves.bind (acts_unchanged readRegistration_state) fun signed middle read => ?_
  have same : middle = control := by
    rw [← @readRegistration_state context control socket message, read]
  subst same
  obtain ⟨claimed, fits, -⟩ := readRegistration_ok read
  refine Handler.Moves.bind (acts_unchanged checkDigest_state) fun _ later digest => ?_
  have unchanged : later = middle := by
    rw [← @checkDigest_state context middle signed, digest]
  subst unchanged
  refine Handler.Moves.bind (acts_unchanged checkSignature_state) fun _ last signature => ?_
  have still : last = later := by
    rw [← @checkSignature_state context later signed, signature]
  subst still
  have proves : signed.Proves context.crypto (last.data socket) :=
    ⟨fits.1, fits.2.1, checkDigest_ok digest, checkSignature_ok signature⟩
  obtain ⟨granted, ends⟩ := grants signed claimed
  refine (takeIdentity_acts asked ⟨type, claimed⟩ proves granted).bind fun previous _ taken => ?_
  have touched : ∀ other, previous = some other → grounds.Touches other := fun other replaced =>
    .inl (ends other (takeIdentity_previous taken replaced))
  exact (replacePrevious_acts touched).bind fun _ _ _ => confirmRegistration_acts granted

theorem handleMessage_closes (asked : grounds.asks socket message) (live : control.Live socket)
    (grants : ∀ signed, message.type = .deviceRegister → message.registration? = some signed →
      grounds.grants signed.registration.peerId ∧
        ∀ previous, control.socketsByPeerId.get? signed.registration.peerId = some previous → grounds.ends previous) :
    Handler.Closes (Acts context grounds) (Ends context grounds) (handleMessage context socket message) control := by
  have quietly : ∀ {handler : ControlHandler PUnit} {state : ControlState}, Handler.Moves (Acts context grounds) handler state →
      Handler.Closes (Acts context grounds) (Ends context grounds) handler state := fun moves => .of_moves moves fun _ => Acts.ends
  unfold handleMessage
  split
  · rename_i type
    refine quietly (checkRateLimit_acts.bind fun _ middle charged => registerDevice_acts asked type fun signed claimed => ?_)
    have tallied : Tallied control middle := by
      have counts := @checkRateLimit_counts context control socket message.type
      rwa [Counts, charged] at counts
    rw [tallied.socketsByPeerId]
    exact grants signed type claimed
  · refine .read (.refuse fun _ => ?_)
    cases relayed : message.relayed? with
    | none => exact quietly (checkRateLimit_acts.bind fun _ _ _ => handleRoomMessage_acts asked)
    | some target =>
        refine .after checkRelayRateLimit_acts fun _ middle charged => relayDatagram_closes asked ?_ relayed
        have tallied : Tallied control middle := by
          have counts := @checkRelayRateLimit_counts context control socket
          rwa [Counts, charged] at counts
        rwa [Live, tallied.closed]

/-- What a client sends is taken up while the client is there. -/
theorem message_ends {content : Parsed} (asked : grounds.asks socket (readMessage content))
    (grants : ∀ signed, (readMessage content).type = .deviceRegister → (readMessage content).registration? = some signed →
      grounds.grants signed.registration.peerId ∧
        ∀ previous, control.socketsByPeerId.get? signed.registration.peerId = some previous → grounds.ends previous) :
    Ends context grounds control ((Bun.message context socket content).finish control) := by
  by_cases live : control.Live socket
  · have flag : (control.data socket).closed = false := live
    have reached : Bun.message context socket content control =
        (handleParsed context socket content).recover (rejectClient context socket) control := by
      rw [Bun.message, Handler.read_bind, flag]
      rfl
    have closes : Handler.Closes (Acts context grounds) (Ends context grounds) (handleParsed context socket content) control := by
      cases content with
      | malformed => exact Relation.ReflTransGen.refl
      | null => exact Relation.ReflTransGen.refl
      | bare => exact handleMessage_closes asked live grants
      | object message => exact handleMessage_closes asked live grants
    rw [Handler.finish, reached]
    exact closes.recover (fun _ _ => Acts.ends) fun _ _ _ => rejectClient_acts (.inr ⟨_, asked⟩)
  · rw [message_ignored live]
    exact Acts.ends .refl

/-- One event of the Bun server. -/
theorem step_ends {deployment : Deployment} {turn : Turn} {next : ControlState}
    (asks : ∀ socket raw, turn.event = .message socket raw → grounds.asks socket (readMessage raw.content))
    (grants : ∀ socket raw signed, turn.event = .message socket raw → (readMessage raw.content).type = .deviceRegister →
      (readMessage raw.content).registration? = some signed → grounds.grants signed.registration.peerId ∧
        ∀ previous, control.socketsByPeerId.get? signed.registration.peerId = some previous → grounds.ends previous)
    (ends : ∀ socket, turn.event = .close socket → grounds.ends socket)
    (stepped : step deployment control turn = some next) : Ends (Bun.context deployment turn.now) grounds control.quiet next := by
  obtain ⟨now, event⟩ := turn
  unfold step at stepped
  cases event with
  | connect socket ip challengeId challenge =>
      dsimp only at stepped
      split at stepped
      · cases stepped
      · rename_i unknown
        have new : control.sockets.get? socket = none := by simpa [Dict.contains] using unknown
        split at stepped
        · cases stepped
          exact Acts.ends (openClient_acts new)
        · cases stepped
          exact Acts.ends .refl
  | message socket raw =>
      dsimp only at stepped
      split at stepped
      · cases stepped
        exact message_ends (asks socket raw rfl) fun signed => grants socket raw signed rfl
      · cases stepped
  | close socket =>
      dsimp only at stepped
      split at stepped
      · cases stepped
        exact Acts.ends (closeClient_acts (.inl (ends socket rfl)))
      · cases stepped

end Bun

/-! ## The Worker

What is queued or waits in the loop has been asked for.
-/

/-- The clients have sent what is queued and what the loop handles. -/
structure WorkerState.Attended (grounds : Grounds) (worker : WorkerState) : Prop where
  queued : ∀ entry ∈ worker.queue, grounds.asks entry.socket entry.message
  waits : ∀ stage, worker.stage = some stage → grounds.asks stage.entry.socket stage.entry.message

namespace Worker

/-- Updates of the tables, from a state whose messages have all been sent. -/
def Goes (context : Context) (grounds : Grounds) (worker after : WorkerState) : Prop :=
  worker.Attended grounds → Acts context grounds worker.control after.control ∧ after.Attended grounds

/-- The same, and then perhaps a relay frame. -/
def Turns (context : Context) (grounds : Grounds) (worker after : WorkerState) : Prop :=
  worker.Attended grounds → Ends context grounds worker.control after.control ∧ after.Attended grounds

section

variable {context : Context} {grounds : Grounds} {worker : WorkerState} {socket : Socket} {entry : Pending}

instance : IsPreorder WorkerState (Goes context grounds) where
  refl _ := fun attended => ⟨.refl, attended⟩
  trans _ _ _ first second := fun attended => by
    obtain ⟨acts, kept⟩ := first attended
    obtain ⟨more, left⟩ := second kept
    exact ⟨acts.trans more, left⟩

instance : Trans (Goes context grounds) (Turns context grounds) (Turns context grounds) where
  trans first later := fun attended => by
    obtain ⟨acts, kept⟩ := first attended
    obtain ⟨ends, left⟩ := later kept
    exact ⟨Trans.trans acts ends, left⟩

theorem Goes.turns {after : WorkerState} (goes : Goes context grounds worker after) : Turns context grounds worker after :=
  fun attended => ⟨(goes attended).1.ends, (goes attended).2⟩

/-- The loop's own tables change, and no message appears in them. -/
theorem goes_loop {after : WorkerState} (control : after.control = worker.control)
    (queue : ∀ entry ∈ after.queue, entry ∈ worker.queue) (stage : after.stage = worker.stage) : Goes context grounds worker after := by
  intro attended
  rw [control]
  refine ⟨.refl, fun entry listed => attended.queued entry (queue entry listed), fun stage waits => ?_⟩
  exact attended.waits stage (by simpa only [← ‹after.stage = worker.stage›] using waits)

theorem onControl_goes {handler : ControlHandler α} (acts : Handler.Moves (Acts context grounds) handler worker.control) :
    Handler.Moves (Goes context grounds) (onControl handler) worker :=
  fun attended => ⟨acts, attended.queued, attended.waits⟩

theorem onControl_turns {handler : ControlHandler α}
    (closes : Handler.Closes (Acts context grounds) (Ends context grounds) handler worker.control) :
    Handler.Closes (Goes context grounds) (Turns context grounds) (onControl handler) worker := by
  cases ran : handler worker.control with
  | mk outcome control =>
      simp only [Handler.Closes, ran] at closes
      simp only [Handler.Closes, onControl, ran]
      cases outcome with
      | error text => exact fun attended => ⟨closes, attended.queued, attended.waits⟩
      | ok value => exact fun attended => ⟨closes, attended.queued, attended.waits⟩

theorem releasePending_goes : Handler.Moves (Goes context grounds) (releasePending entry) worker := by
  refine .change (goes_loop rfl (fun _ listed => listed) rfl) (.read (.orRaise fun totals _ => ?_))
  exact goes_loop rfl (fun _ listed => listed) rfl

theorem putClosed_goes {code : Nat} (touched : grounds.Touches socket) : Handler.Moves (Goes context grounds) (putClosed socket code) worker := by
  have told : Acts context grounds worker.control (worker.control.putAll [.closed socket code]) :=
    (Act.tells _ (fair_closed touched)).acts
  exact fun attended => ⟨told, attended.queued, attended.waits⟩

theorem handleClose_goes (touched : grounds.Touches socket) : Handler.Moves (Goes context grounds) (handleClose context socket) worker := by
  refine .read ?_
  split
  · exact .pure
  · have shuts : Goes context grounds worker { worker with control := worker.control.markClosed socket } :=
      fun attended => ⟨(Act.shuts socket touched).acts, attended.queued, attended.waits⟩
    refine .change shuts (.bind (.forEach fun _ _ _ => releasePending_goes) fun _ middle _ => ?_)
    have dropped : Goes context grounds middle (middle.dropQueued socket) :=
      goes_loop rfl (fun _ listed => (List.mem_filter.mp listed).1) rfl
    exact .change dropped (onControl_goes (detach_acts touched))

theorem rejectClient_goes {text : String} (touched : grounds.Touches socket) :
    Handler.Moves (Goes context grounds) (rejectClient context socket text) worker := by
  refine (handleClose_goes touched).bind fun _ _ _ => .bind (.recover (onControl_goes (sendError_acts touched)) fun _ _ _ => .pure) ?_
  exact fun _ _ _ => putClosed_goes touched

theorem replacePrevious_goes {previous : Option Socket} (touched : ∀ other, previous = some other → grounds.Touches other) :
    Handler.Moves (Goes context grounds) (replacePrevious context previous) worker := by
  cases previous with
  | none => exact .pure
  | some previous =>
      have ends := touched previous rfl
      exact (handleClose_goes ends).bind fun _ _ _ => putClosed_goes ends

theorem commitRegistration_goes {message : ControlMessage} {signed : SignedRegistration} (asked : grounds.asks socket message)
    (named : message.type = .deviceRegister ∧ message.registration? = some signed)
    (proves : signed.Proves context.crypto (worker.data socket)) (granted : grounds.grants signed.registration.peerId)
    (ends : ∀ previous, worker.control.socketsByPeerId.get? signed.registration.peerId = some previous → grounds.ends previous) :
    Handler.Moves (Goes context grounds) (commitRegistration context socket signed.registration.peerId) worker := by
  refine .read ?_
  split
  · exact .pure
  · refine (onControl_goes (takeIdentity_acts asked named proves granted)).bind fun previous _ taken => ?_
    have touched : ∀ other, previous = some other → grounds.Touches other := by
      intro other replaced
      cases identified : takeIdentity socket signed.registration.peerId worker.control with
      | mk outcome control =>
          simp only [onControl, identified, Prod.mk.injEq] at taken
          obtain ⟨found, -⟩ := taken
          subst found
          exact .inl (ends other (takeIdentity_previous identified replaced))
    exact (replacePrevious_goes touched).bind fun _ _ _ => onControl_goes (confirmRegistration_acts granted)

/-! ### The loop -/

theorem setStage_turns {after : WorkerState} {stage : Option Stage} (turns : Turns context grounds worker after)
    (asked : ∀ waiting, stage = some waiting → grounds.asks waiting.entry.socket waiting.entry.message) :
    Turns context grounds worker (after.setStage stage) := fun attended =>
  ⟨(turns attended).1, (turns attended).2.queued, asked⟩

/-- Whatever a part of `handleMessage` raises is caught, and the loop waits for its message. -/
theorem handling_turns {body : WorkerHandler Stage} (asked : grounds.asks entry.socket entry.message)
    (closes : Handler.Closes (Goes context grounds) (Turns context grounds) body worker)
    (same : ∀ stage after, body worker = (.ok stage, after) → stage.entry = entry) :
    Turns context grounds worker (handling context entry body worker).2 := by
  have quiet : ∀ {stage : Stage}, stage.entry = entry → ∀ waiting, some stage = some waiting →
      grounds.asks waiting.entry.socket waiting.entry.message := by
    intro stage own waiting waits
    cases waits
    rwa [own]
  unfold handling Handler.recover
  cases ran : body worker with
  | mk outcome middle =>
      simp only [Handler.Closes, ran] at closes
      cases outcome with
      | ok stage => exact setStage_turns closes (quiet (same stage middle ran))
      | error text =>
          have rejected : Goes context grounds middle (rejectClient context entry.socket text middle).2 :=
            rejectClient_goes (.inr ⟨_, asked⟩)
          have turns := Goes.turns (trans_of (Goes context grounds) closes rejected)
          dsimp only
          rw [Handler.bind_apply]
          cases closing : rejectClient context entry.socket text middle with
          | mk result final =>
              simp only [closing] at turns
              cases result <;> exact setStage_turns turns (quiet rfl)

theorem handling_ok {body : WorkerHandler Stage} : (handling context entry body worker).1 = .ok ⟨⟩ := by
  unfold handling
  split <;> rfl

/-- A handler that cannot raise. -/
theorem closes_of_ok {handler : WorkerHandler PUnit} (returns : (handler worker).1 = .ok ⟨⟩)
    (turns : Turns context grounds worker (handler worker).2) : Handler.Closes (Goes context grounds) (Turns context grounds) handler worker := by
  cases ran : handler worker with
  | mk outcome final =>
      simp only [ran] at returns turns
      subst returns
      simpa only [Handler.Closes, ran] using turns

theorem handleRegistered_closes {control : ControlState} {message : ControlMessage} (asked : grounds.asks socket message)
    (live : control.Live socket) :
    Handler.Closes (Acts context grounds) (Ends context grounds) (handleRegistered context socket message) control := by
  refine .read (.refuse fun _ => ?_)
  cases relayed : message.relayed? with
  | none => exact .of_moves (handleRoomMessage_acts asked) fun _ => Acts.ends
  | some target => exact relayDatagram_closes asked live relayed

theorem beginMessage_turns (asked : grounds.asks entry.socket entry.message) :
    Turns context grounds worker (beginMessage context entry worker).2 := by
  have quietly : ∀ {handler : WorkerHandler Stage}, Handler.Moves (Goes context grounds) handler worker →
      Handler.Closes (Goes context grounds) (Turns context grounds) handler worker := fun moves => .of_moves moves fun _ => Goes.turns
  apply handling_turns asked
  · refine .read ?_
    split
    · exact quietly .pure
    · rename_i present
      have live : worker.control.Live entry.socket := by simpa [Live, WorkerState.data] using present
      split
      · exact quietly (.bind (onControl_goes (acts_unchanged readRegistration_state)) fun _ _ _ => .pure)
      · exact .value (onControl_turns (handleRegistered_closes asked live))
  · intro stage after ran
    rw [Handler.read_bind] at ran
    split at ran
    · cases ran
      rfl
    · split at ran
      · rw [Handler.bind_apply] at ran
        split at ran <;> cases ran
        rfl
      · rw [Handler.bind_apply] at ran
        split at ran <;> cases ran
        rfl

theorem nextMessage_turns : Turns context grounds worker (nextMessage context worker).2 := by
  intro attended
  rw [nextMessage, Handler.read_bind]
  cases queued : worker.queue with
  | nil => exact ⟨Acts.ends .refl, attended.queued, fun _ waits => by cases waits⟩
  | cons entry rest =>
      dsimp only
      rw [Handler.change_bind]
      have asked := attended.queued entry (by simp [queued])
      have kept : WorkerState.Attended grounds { worker with queue := rest, begun := worker.begun ++ [entry] } :=
        ⟨fun other listed => attended.queued other (by simp [queued, listed]), attended.waits⟩
      exact beginMessage_turns asked kept

theorem nextMessage_returns : (nextMessage context worker).1 = .ok ⟨⟩ := by
  rw [nextMessage, Handler.read_bind]
  cases worker.queue with
  | nil => rfl
  | cons entry rest => exact handling_ok

theorem drainQueue_closes : Handler.Closes (Goes context grounds) (Turns context grounds) (drainQueue context) worker := by
  refine .read ?_
  split
  · exact .of_moves .pure fun _ => Goes.turns
  · exact closes_of_ok nextMessage_returns nextMessage_turns

theorem finishMessage_closes {failure : Option String} (touched : grounds.Touches entry.socket) :
    Handler.Closes (Goes context grounds) (Turns context grounds) (finishMessage context entry failure) worker := by
  unfold finishMessage
  refine .after (.ensuring ?_ fun _ => releasePending_goes) fun _ _ _ => closes_of_ok nextMessage_returns nextMessage_turns
  cases failure with
  | some text => exact rejectClient_goes touched
  | none => exact .pure

/-- The loop goes on; a registration is committed with what has been checked before its waits. -/
theorem resume_turns {stage : Stage} (waits : worker.stage = some stage) (claims : stage.Claims context.crypto worker)
    (granted : ∀ entry signed, stage = .verifying entry signed → grounds.grants signed.registration.peerId ∧
      ∀ previous, worker.control.socketsByPeerId.get? signed.registration.peerId = some previous → grounds.ends previous) :
    Turns context grounds worker ((resume context stage).finish worker) := by
  intro attended
  have asked := attended.waits stage waits
  have quietly : ∀ {handler : WorkerHandler Stage} {state : WorkerState}, Handler.Moves (Goes context grounds) handler state →
      Handler.Closes (Goes context grounds) (Turns context grounds) handler state := fun moves => .of_moves moves fun _ => Goes.turns
  cases stage with
  | handled entry failure =>
      have closes := @finishMessage_closes context grounds worker entry failure (.inr ⟨_, asked⟩)
      rw [Handler.finish, resume, Handler.onRaise]
      cases ran : finishMessage context entry failure worker with
      | mk outcome final =>
          simp only [Handler.Closes, ran] at closes
          cases outcome with
          | ok value => exact closes attended
          | error text => exact setStage_turns (Goes.turns closes) (fun _ waiting => by cases waiting) attended
  | hashing entry signed =>
      refine handling_turns asked (quietly ?_) ?_ attended
      · exact .bind (onControl_goes (acts_unchanged checkDigest_state)) fun _ _ _ => .pure
      · intro stage after ran
        rw [Handler.bind_apply] at ran
        split at ran <;> cases ran
        rfl
  | verifying entry signed =>
      obtain ⟨asks, digest⟩ := claims
      refine handling_turns asked (quietly ?_) ?_ attended
      · refine .bind (onControl_goes (acts_unchanged checkSignature_state)) fun _ middle checked => ?_
        have unchanged := @checkSignature_state context worker.control signed
        cases verified : checkSignature context signed worker.control with
        | mk outcome control =>
            simp only [onControl, verified, Prod.mk.injEq] at checked unchanged
            obtain ⟨passed, rfl⟩ := checked
            subst passed
            subst unchanged
            have proves : signed.Proves context.crypto (worker.data entry.socket) :=
              ⟨asks.challengeId, asks.nonce, digest, checkSignature_ok verified⟩
            obtain ⟨grants, ends⟩ := granted entry signed rfl
            exact .bind (commitRegistration_goes asked asks.asked proves grants ends) fun _ _ _ => .pure
      · intro stage after ran
        rw [Handler.bind_apply] at ran
        split at ran
        · rw [Handler.bind_apply] at ran
          split at ran <;> cases ran
          rfl
        · cases ran

/-! ### Events -/

theorem admitParsed_closes {raw : Raw} (asked : ∀ message, raw.content = .object message → grounds.asks socket message) :
    Handler.Closes (Goes context grounds) (Turns context grounds) (admitParsed context socket raw) worker := by
  have quietly : ∀ {handler : WorkerHandler PUnit}, Handler.Moves (Goes context grounds) handler worker →
      Handler.Closes (Goes context grounds) (Turns context grounds) handler worker := fun moves => .of_moves moves fun _ => Goes.turns
  unfold admitParsed
  cases content : raw.content with
  | malformed => exact quietly .raise
  | null => exact quietly .raise
  | bare => exact quietly .raise
  | object message =>
      refine .after (onControl_goes ?_) fun _ middle _ => ?_
      · cases message.relayed? with
        | some target => exact checkRelayRateLimit_acts
        | none => exact checkRateLimit_acts
      · have queues : Handler.Moves (Goes context grounds)
            (Handler.change fun worker => worker.enqueue ⟨socket, message, raw.bytes⟩ : WorkerHandler PUnit) middle := by
          refine fun attended => ⟨.refl, fun entry listed => ?_, attended.waits⟩
          rcases List.mem_append.mp listed with earlier | new
          · exact attended.queued entry earlier
          · rw [List.mem_singleton.mp new]
            exact asked message content
        exact .after queues fun _ _ _ => drainQueue_closes

theorem admitMessage_turns {raw : Raw} (asked : ∀ message, raw.content = .object message → grounds.asks socket message)
    (touched : grounds.Touches socket) :
    Turns context grounds worker ((admitMessage context socket raw).finish worker) := by
  rw [Handler.finish, admitMessage, Handler.read_bind]
  split
  · exact fun attended => ⟨Acts.ends .refl, attended⟩
  · have closes : Handler.Closes (Goes context grounds) (Turns context grounds) (admitChecked context socket raw) worker :=
      .refuse fun _ => .refuse fun _ => .read (.refuse fun _ => admitParsed_closes asked)
    exact closes.recover (fun _ _ => Goes.turns) fun _ _ _ => rejectClient_goes touched

/-- One event of the Worker, whichever of its sends raise. -/
theorem step_turns {deployment : Deployment} {turn : WorkerTurn} {next : WorkerState} (kept : worker.Kept deployment.crypto)
    (asks : ∀ socket raw, turn.event = .client (.message socket raw) → grounds.asks socket (Bun.readMessage raw.content))
    (grants : ∀ entry signed, turn.event = .resume → worker.stage = some (.verifying entry signed) →
      grounds.grants signed.registration.peerId ∧
        ∀ previous, worker.control.socketsByPeerId.get? signed.registration.peerId = some previous → grounds.ends previous)
    (ends : ∀ socket, turn.event = .client (.close socket) ∨ turn.event = .error socket → grounds.ends socket)
    (stepped : step deployment worker turn = some next) :
    Turns (Worker.context deployment turn.now turn.failing) grounds { worker with control := worker.control.quiet } next := by
  obtain ⟨now, failing, event⟩ := turn
  unfold step at stepped
  cases event with
  | resume =>
      obtain ⟨stage, waits, ran⟩ := Option.map_eq_some_iff.mp stepped
      have quiet : WorkerState.stage { worker with control := worker.control.quiet } = some stage := waits
      rw [← ran]
      refine resume_turns quiet ((quiet_kept kept).claims stage waits) fun entry signed verifying => ?_
      rw [verifying] at waits
      exact grants entry signed rfl waits
  | error socket =>
      dsimp only at stepped
      split at stepped
      · cases stepped
        exact Goes.turns (rejectClient_goes (.inl (ends socket (.inr rfl))))
      · cases stepped
  | client event =>
      cases event with
      | connect socket ip challengeId challenge =>
          dsimp only at stepped
          split at stepped
          · cases stepped
          · rename_i unknown
            have new : worker.control.sockets.get? socket = none := by simpa [Dict.contains] using unknown
            split at stepped
            · cases stepped
              exact Goes.turns (onControl_goes (openClient_acts new))
            · cases stepped
              exact Goes.turns (refl_of (Goes _ grounds) _)
      | message socket raw =>
          dsimp only at stepped
          split at stepped
          · cases stepped
            have asked := asks socket raw rfl
            refine admitMessage_turns (fun message content => ?_) (.inr ⟨_, asked⟩)
            rwa [content] at asked
          · cases stepped
      | close socket =>
          dsimp only at stepped
          split at stepped
          · cases stepped
            have touched : grounds.Touches socket := .inl (ends socket (.inl rfl))
            have closes : Handler.Moves (Goes (Worker.context deployment now failing) grounds)
                (closed (Worker.context deployment now failing) socket) { worker with control := worker.control.quiet } :=
              (handleClose_goes touched).bind fun _ _ _ => putClosed_goes touched
            exact Goes.turns closes
          · cases stepped

end

end Worker

end MeshTalk.Control
