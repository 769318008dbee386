import MeshTalk.Control.Consistent

namespace MeshTalk.Control

open MeshTalk.Library ControlState WorkerState

/-! # The messages of the Worker

A message is pending from the moment it is queued until the loop has finished with
it.  When its client goes, what is queued is dropped, and a registration that waits
for the signature is not committed.
-/

def Output.receiver : Output → Socket
  | .sent socket _ => socket
  | .closed socket _ => socket

namespace WorkerState

/-- The message in the loop, if there is one, and those that wait for it. -/
def outstanding (worker : WorkerState) : List Pending := (worker.stage.map Stage.entry).toList ++ worker.queue

structure WithinLimits (worker : WorkerState) : Prop where
  total : worker.pending.Within maxPendingMessages maxPendingMessageBytes
  client : ∀ socket, (worker.clientTotals socket).Within maxPendingMessagesPerClient maxPendingMessageBytesPerClient
  address : ∀ ip, (worker.addressTotals ip).Within maxPendingMessagesPerIp maxPendingMessageBytesPerIp

/-- The registration of a client that waits for the digest or for the signature. -/
def Registers (worker : WorkerState) (socket : Socket) : Prop :=
  (∃ entry signed, worker.stage = some (.hashing entry signed) ∧ entry.socket = socket) ∨
    ∃ entry signed, worker.stage = some (.verifying entry signed) ∧ entry.socket = socket

/-- The tables are as they were, and only one client has been sent anything. -/
def OnlyTells (control : ControlState) (socket : Socket) (worker : WorkerState) : Prop :=
  ∃ outputs, (∀ output ∈ outputs, output.receiver = socket) ∧ worker.control = control.putAll outputs

variable {crypto : Crypto} {worker : WorkerState}

theorem Kept.withinLimits (kept : worker.Kept crypto) : worker.WithinLimits where
  total := by
    rw [kept.steady.accounted.total]
    exact kept.steady.fits.total
  client := by
    intro socket
    rw [kept.steady.accounted.client socket]
    exact kept.steady.fits.client socket
  address := by
    intro ip
    rw [kept.steady.accounted.addressTotals ip]
    exact kept.steady.fits.address ip

theorem Kept.inOrder (kept : worker.Kept crypto) (socket : Socket) :
    sentBy socket worker.begun <+: sentBy socket worker.admitted :=
  (List.prefix_append _ _).trans (kept.steady.ordered socket).begun

/-- No message is begun for a client that is gone. -/
theorem Takes.nothing {start after : WorkerState} {socket : Socket} (takes : start.Takes after)
    (gone : start.control.Gone socket) : sentBy socket after.begun = sentBy socket start.begun := by
  rcases takes.begun with same | ⟨entry, longer, present⟩
  · rw [same]
  · have another : entry.socket ≠ socket := by
      rintro rfl
      exact present gone
    rw [longer, sentBy_append, sentBy_cons, if_neg another]
    exact List.append_nil _

end WorkerState

/-- A client that joins behind its registration, and goes while that is being checked. -/
def Sample.interrupted : List WorkerTurn :=
  drained (connect 1) 0 ++ drained (tells 1 (registering 97)) 1 ++ drained (tells 1 joining) 0 ++ drained (.close 1) 0

namespace Worker

variable {context : Context} {control : ControlState} {worker : WorkerState} {socket : Socket} {entry : Pending}

theorem OnlyTells.stays (told : OnlyTells control socket worker) (gone : ¬ control.Live socket) :
    ¬ worker.control.Live socket := by
  obtain ⟨outputs, -, same⟩ := told
  rw [same]
  exact gone

theorem OnlyTells.put (told : OnlyTells control socket worker) (output : Output) (own : output.receiver = socket) :
    OnlyTells control socket { worker with control := worker.control.put output } := by
  obtain ⟨outputs, others, same⟩ := told
  refine ⟨outputs ++ [output], fun other member => ?_, ?_⟩
  · rcases List.mem_append.mp member with earlier | last
    · exact others other earlier
    · rw [List.mem_singleton.mp last]
      exact own
  · change worker.control.put output = _
    rw [same, put_eq, putAll_putAll]

/-- Rejecting a client that is gone only says so to it. -/
theorem rejectClient_tells {text : String} (gone : ¬ control.Live socket) :
    Handler.Keeps (OnlyTells control socket) (rejectClient context socket text) := by
  have ignored : Handler.Keeps (OnlyTells control socket) (handleClose context socket) := by
    intro worker told
    rw [handleClose_ignored (OnlyTells.stays told gone)]
    exact told
  have sends : Handler.Keeps (OnlyTells control socket) (onControl (send context socket (.error text))) := by
    intro worker told
    rw [onControl_apply, send]
    by_cases raises : context.failing socket = true
    · rw [if_pos raises]
      exact told
    · rw [if_neg raises]
      exact OnlyTells.put told (.sent socket (.error text)) rfl
  refine ignored.bind fun _ => Handler.Keeps.bind ?_ fun _ => ?_
  · exact Handler.Ensures.recover sends fun _ => Handler.Keeps.pure
  · exact Handler.Keeps.change fun worker told => OnlyTells.put told (.closed socket 1008) rfl

theorem handling_tells {body : WorkerHandler Stage} (gone : ¬ control.Live entry.socket)
    (kept : Handler.Keeps (OnlyTells control entry.socket) body) :
    Handler.Keeps (OnlyTells control entry.socket) (handling context entry body) := by
  intro worker told
  have rescued : Handler.Keeps (OnlyTells control entry.socket) (body.recover (fun text => do
      rejectClient context entry.socket text
      pure (.handled entry none))) :=
    Handler.Ensures.recover kept fun text => (rejectClient_tells gone).bind fun _ => Handler.Keeps.pure
  have result := rescued worker told
  rw [handling]
  rcases ran : (body.recover (fun text => do
      rejectClient context entry.socket text
      pure (.handled entry none))) worker with ⟨outcome, next⟩
  rw [ran] at result
  cases outcome <;> exact result

theorem commitRegistration_ignored {peerId : PeerId} (gone : ¬ worker.control.Live socket) :
    commitRegistration context socket peerId worker = (.ok ⟨⟩, worker) := by
  have flag : (worker.control.data socket).closed = true := by simpa [Live] using gone
  rw [commitRegistration, Handler.bind_apply]
  change (if (worker.data socket).closed then (pure ⟨⟩ : WorkerHandler PUnit) else _) worker = _
  rw [WorkerState.data, flag, if_pos rfl]
  rfl

/-- Whatever its digest and its signature are, a registration does nothing when its
client has gone in the meantime. -/
theorem resume_tells {stage : Stage} (waits : worker.stage = some stage) (registers : worker.Registers socket)
    (gone : ¬ worker.control.Live socket) : OnlyTells worker.control socket ((resume context stage).finish worker) := by
  have start : OnlyTells worker.control socket worker := ⟨[], fun _ member => absurd member List.not_mem_nil, putAll_nil.symm⟩
  have checks : ∀ {handler : ControlHandler PUnit}, (∀ control, (handler control).2 = control) →
      Handler.Keeps (OnlyTells worker.control socket) (onControl handler) := by
    intro handler unchanged other told
    rw [onControl_apply, unchanged]
    cases (handler other.control).1 <;> exact told
  rcases registers with ⟨entry, signed, hashing, rfl⟩ | ⟨entry, signed, verifying, rfl⟩
  · obtain rfl := Option.some.inj (waits.symm.trans hashing)
    have body := checks fun control => @checkDigest_state context control signed
    exact (handling_tells gone (body.bind fun _ => Handler.Keeps.pure)).finish start
  · obtain rfl := Option.some.inj (waits.symm.trans verifying)
    have body := checks fun control => @checkSignature_state context control signed
    refine (handling_tells gone (body.bind fun _ => Handler.Keeps.bind ?_ fun _ => Handler.Keeps.pure)).finish start
    intro other told
    rw [commitRegistration_ignored (OnlyTells.stays told gone)]
    exact told

/-- A client whose close has been processed is gone. -/
theorem closed_gone {current : List Pending} (steady : worker.Steady current)
    (known : worker.control.sockets.contains socket = true) :
    ((closed context socket).finish worker).control.Gone socket := by
  have ends : Handler.Ensures (· = worker) (handleClose context socket) (fun _ next => next.control.Gone socket)
      (fun next => next.control.Gone socket) := by
    rintro state rfl
    by_cases live : state.control.Live socket
    · obtain ⟨after, ran, control, -, -⟩ := @handleClose_steady context state socket current steady.toOrderly live detach_kin
        (detach_sound ⟨steady.sound.toLinked.same sameRooms_retire, steady.sound.toRegistered.retire live⟩)
      have gone : after.control.Gone socket := by
        rw [control]
        exact ⟨detach_kin.known socket known, fun alive => (detach_live.mp alive).2 rfl⟩
      rw [ran]
      cases (detach context socket (state.control.markClosed socket)).1 <;> exact gone
    · rw [handleClose_ignored live]
      exact ⟨known, live⟩
  exact (ends.bind fun _ => Handler.Ensures.change fun _ gone => gone).finish rfl

theorem run_nothing {deployment : Deployment} {turns : List WorkerTurn} {final : WorkerState}
    (kept : worker.Kept deployment.crypto) (gone : worker.control.Gone socket)
    (ran : run (step deployment) worker turns = some final) :
    sentBy socket final.begun = sentBy socket worker.begun := by
  induction turns generalizing worker with
  | nil =>
      cases ran
      rfl
  | cons turn rest ih =>
      obtain ⟨next, stepped, ran⟩ := Option.bind_eq_some_iff.mp ran
      have advanced := step_advances kept stepped
      rw [ih advanced.kept (advanced.takes.gone socket gone) ran, advanced.takes.nothing gone]

end Worker

/-- The counters of the Worker are those of the messages it has not finished with,
and stay within the limits.  The messages of a client are handled in the order they
came, none of them once its close has been processed, when a registration that still
waits is not committed. -/
theorem worker_accounts_for_messages (deployment : Deployment) (turns : List WorkerTurn) (worker : WorkerState)
    (ran : run (Worker.step deployment) .empty turns = some worker) :
    worker.Accounted worker.outstanding ∧ worker.WithinLimits ∧
      (∀ socket, sentBy socket worker.begun <+: sentBy socket worker.admitted) ∧
      (∀ now failing socket next, Worker.step deployment worker ⟨now, failing, .client (.close socket)⟩ = some next →
        next.control.Gone socket) ∧
      ∀ socket, worker.control.Gone socket →
        (∀ later final, run (Worker.step deployment) worker later = some final →
          sentBy socket final.begun = sentBy socket worker.begun) ∧
        (worker.Registers socket → ∀ now failing next, Worker.step deployment worker ⟨now, failing, .resume⟩ = some next →
          OnlyTells worker.control.quiet socket next) := by
  have kept := Worker.run_kept ran
  refine ⟨kept.steady.accounted, kept.withinLimits, kept.inOrder, fun now failing socket next stepped => ?_, fun socket gone =>
    ⟨fun later final ran => Worker.run_nothing kept gone ran, fun registers now failing next stepped => ?_⟩⟩
  · have known : worker.control.sockets.contains socket = true := by
      by_contra unknown
      rw [Worker.step] at stepped
      simp [unknown] at stepped
    unfold Worker.step at stepped
    dsimp only at stepped
    rw [if_pos known] at stepped
    obtain rfl := Option.some.inj stepped
    exact Worker.closed_gone (Worker.quiet_kept kept).steady known
  · obtain ⟨stage, waits, resumed⟩ := Option.map_eq_some_iff.mp stepped
    rw [← resumed]
    have start : ({ worker with control := worker.control.quiet } : WorkerState).stage = some stage := waits
    exact Worker.resume_tells start registers gone.2

/-- A client that goes while the signature of its registration is being checked, with
another message in the queue. -/
theorem worker_accounts_for_interrupted_client :
    ∃ worker, run (Worker.step Sample.deployment) .empty Sample.interrupted = some worker ∧
      worker.begun.length = 1 ∧ worker.admitted.length = 2 ∧ worker.outstanding.length = 1 ∧
      worker.Accounted worker.outstanding ∧ worker.WithinLimits := by
  have reached : ((run (Worker.step Sample.deployment) .empty Sample.interrupted).map fun worker =>
      (worker.begun.length, worker.admitted.length, worker.outstanding.length)) = some (1, 2, 1) := by
    decide +kernel
  obtain ⟨worker, ran, counts⟩ := Option.map_eq_some_iff.mp reached
  have accounted := worker_accounts_for_messages Sample.deployment Sample.interrupted worker ran
  simp only [Prod.mk.injEq] at counts
  exact ⟨worker, ran, counts.1, counts.2.1, counts.2.2, accounted.1, accounted.2.1⟩

end MeshTalk.Control
