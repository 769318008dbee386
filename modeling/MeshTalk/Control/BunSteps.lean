import MeshTalk.Control.Reactions

namespace MeshTalk.Control

open MeshTalk.Library ControlState

/-! # What one event does to the Bun server -/

namespace Bun

variable {context : Context} {control : ControlState} {socket : Socket}

theorem closeClient_apply (live : control.Live socket)
    (delivers : ∀ roomId ∈ (control.data socket).rooms, ∀ member ∈ control.membersOf roomId,
      member ≠ socket → context.failing member = false) :
    closeClient context socket control = (.ok ⟨⟩, (control.withdraw socket).putAll (partings control socket)) := by
  have flag : (control.data socket).closed = false := live
  rw [closeClient, Handler.read_bind, flag]
  exact detach_apply delivers

theorem registerDevice_answers {message : ControlMessage} (kept : Wellkept control) (reliable : Reliable context control)
    (live : control.Live socket) (asked : message.type = .deviceRegister) :
    Answers context.crypto socket message (registerDevice context socket message) control := by
  refine ⟨control, .refl, ?_⟩
  rcases ran : readRegistration context socket message control with ⟨outcome, first⟩
  have same : first = control := by
    rw [← @readRegistration_state context control socket message, ran]
  subst same
  cases outcome with
  | error text => exact .inl ⟨text, by rw [registerDevice, Handler.bind_apply, ran]⟩
  | ok signed =>
      obtain ⟨claimed, fits, own⟩ := readRegistration_ok ran
      rcases digest : checkDigest context signed first with ⟨outcome, second⟩
      have same : second = first := by
        rw [← @checkDigest_state context first signed, digest]
      subst same
      cases outcome with
      | error text =>
          refine .inl ⟨text, ?_⟩
          rw [registerDevice, Handler.bind_apply, ran]
          dsimp only
          rw [Handler.bind_apply, digest]
      | ok passed =>
          rcases signature : checkSignature context signed second with ⟨outcome, third⟩
          have same : third = second := by
            rw [← @checkSignature_state context second signed, signature]
          subst same
          cases outcome with
          | error text =>
              refine .inl ⟨text, ?_⟩
              rw [registerDevice, Handler.bind_apply, ran]
              dsimp only
              rw [Handler.bind_apply, digest]
              dsimp only
              rw [Handler.bind_apply, signature]
          | ok passed =>
              have proves : signed.Proves context.crypto (third.data socket) :=
                ⟨fits.1, fits.2.1, checkDigest_ok digest, checkSignature_ok signature⟩
              refine .inr ⟨_, ?_, takeOver_reaction ⟨asked, claimed⟩ own proves⟩
              have reached : registerDevice context socket message third = (do
                  replacePrevious context (third.previousOf socket signed.registration.peerId)
                  confirmRegistration context socket signed.registration.peerId : ControlHandler PUnit)
                    (third.setRegistered socket signed.registration.peerId) := by
                rw [registerDevice, Handler.bind_apply, ran]
                dsimp only
                rw [Handler.bind_apply, digest]
                dsimp only
                rw [Handler.bind_apply, signature]
                rfl
              rw [reached, Handler.bind_apply, takeOverOutputs, takeOver]
              cases taken : third.previousOf socket signed.registration.peerId with
              | none =>
                  have confirmed := @confirmRegistration_apply context (third.setRegistered socket signed.registration.peerId)
                    socket [] signed.registration.peerId (reliable socket live)
                  rw [putAll_nil] at confirmed
                  exact confirmed
              | some previous =>
                  obtain ⟨alive, another, -⟩ := previousOf_some kept taken
                  have closing := @closeClient_apply context (third.setRegistered socket signed.registration.peerId) previous
                    (live_setRegistered.mpr alive) (fun _ _ member inside _ => member_reached kept reliable inside)
                  have confirmed := @confirmRegistration_apply context
                    ((third.setRegistered socket signed.registration.peerId).withdraw previous) socket
                    (partings (third.setRegistered socket signed.registration.peerId) previous ++ [.closed previous 4000])
                    signed.registration.peerId (reliable socket live)
                  dsimp only
                  rw [replacePrevious, Handler.bind_apply, closing]
                  dsimp only [Handler.change]
                  rw [put_eq, putAll_putAll]
                  exact confirmed

/-- The message as it is looked at; what is no object has no fields. -/
def readMessage : Parsed → ControlMessage
  | .object message => message
  | _ => { type := .other }

theorem handleMessage_answers {message : ControlMessage} (kept : Wellkept control) (reliable : Reliable context control)
    (live : control.Live socket) : Answers context.crypto socket message (handleMessage context socket message) control := by
  have lives : ∀ middle, Tallied control middle → middle.Live socket := by
    intro middle tallied
    rwa [Live, tallied.closed]
  unfold handleMessage
  split
  · rename_i registering
    exact checkRateLimit_counts.answers fun middle tallied =>
      registerDevice_answers (tallied.wellkept kept) (tallied.reliable reliable) (lives middle tallied) registering
  · by_cases unknown : (control.data socket).peerId = none
    · exact ⟨control, .refl, .inl ⟨_, by rw [Handler.read_bind, Handler.bind_apply, Handler.refuse_of unknown]⟩⟩
    · have passed : ∀ next : ControlHandler PUnit, Answers context.crypto socket message next control →
          Answers context.crypto socket message (do
            let control ← Handler.read
            Handler.refuse ((control.data socket).peerId = none) "Device registration required"
            next) control := by
        rintro next ⟨middle, tallied, result⟩
        refine ⟨middle, tallied, ?_⟩
        rw [Handler.read_bind, Handler.bind_apply, Handler.refuse_of_not unknown]
        exact result
      cases relayed : message.relayed? with
      | some target =>
          refine passed _ (checkRelayRateLimit_counts.answers fun middle tallied => ?_)
          exact relayDatagram_answers (tallied.wellkept kept) (tallied.reliable reliable) (lives middle tallied) relayed
      | none =>
          refine passed _ (checkRateLimit_counts.answers fun middle tallied => ?_)
          exact handleRoomMessage_answers (tallied.wellkept kept) (tallied.reliable reliable) (lives middle tallied)
            (by rwa [tallied.peerId])

theorem rejectClient_apply {text : String} (kept : Wellkept control) (reliable : Reliable context control)
    (live : control.Live socket) : rejectClient context socket text control = (.ok ⟨⟩, (control.withdraw socket).putAll
      (.sent socket (.error text) :: partings control socket ++ [.closed socket 1008])) := by
  have closing := @closeClient_apply context (control.putAll [.sent socket (.error text)]) socket live
    fun _ _ member listed _ => member_reached kept reliable listed
  rw [putAll_withdraw, putAll_putAll] at closing
  have same : partings (control.putAll [.sent socket (.error text)]) socket = partings control socket := by
    rw [partings, putAll_retire, putAll_farewells, putAll_data, partings]
  rw [same] at closing
  rw [rejectClient, Handler.ensuring, send_apply (reliable socket live)]
  dsimp only
  rw [Handler.bind_apply, closing]
  dsimp only [Handler.change]
  rw [put_eq, putAll_putAll]
  rfl

theorem message_reacts {content : Parsed} (kept : Wellkept control) (reliable : Reliable context control)
    (live : control.Live socket) : ∃ middle, Tallied control middle ∧
      Reaction context.crypto socket (readMessage content) middle ((message context socket content).finish control) := by
  have answered : Answers context.crypto socket (readMessage content) (handleParsed context socket content) control := by
    cases content with
    | malformed => exact ⟨control, .refl, .inl ⟨_, rfl⟩⟩
    | null => exact ⟨control, .refl, .inl ⟨_, rfl⟩⟩
    | bare => exact handleMessage_answers kept reliable live
    | object message => exact handleMessage_answers kept reliable live
  obtain ⟨middle, tallied, result⟩ := answered
  refine ⟨middle, tallied, ?_⟩
  have flag : (control.data socket).closed = false := live
  have reached : message context socket content control =
      (handleParsed context socket content).recover (rejectClient context socket) control := by
    rw [message, Handler.read_bind, flag]
    rfl
  rw [Handler.finish, reached, Handler.recover]
  rcases result with ⟨text, raised⟩ | ⟨next, returned, reaction⟩
  · rw [raised]
    dsimp only
    rw [rejectClient_apply (tallied.wellkept kept) (tallied.reliable reliable) (by rwa [Live, tallied.closed])]
    refine .rejected _ ?_
    intro output member
    rcases List.mem_append.mp member with early | late
    · rcases List.mem_cons.mp early with said | parting
      · exact .inr (.inl ⟨text, said⟩)
      · exact .inl (mem_partings parting)
    · exact .inr (.inr ⟨1008, List.mem_singleton.mp late⟩)
  · rw [returned]
    exact reaction

theorem reliable {deployment : Deployment} {now : Int} : Reliable (Bun.context deployment now) control := fun _ _ => rfl

/-- What the event asks for, where a client is handled. -/
def Asked (turn : Turn) (socket : Socket) (message : ControlMessage) : Prop :=
  (∃ raw, turn.event = .message socket raw ∧ readMessage raw.content = message) ∨
    (turn.event = .close socket ∧ message = { type := .other })

theorem connect_moves {deployment : Deployment} {now : Int} {ip : Address} {challengeId challenge : Text} {next : ControlState}
    (stepped : step deployment control ⟨now, .connect socket ip challengeId challenge⟩ = some next) :
    Move deployment.crypto control.quiet next none := by
  have shape : step deployment control ⟨now, .connect socket ip challengeId challenge⟩ =
      if control.sockets.contains socket then none
      else if control.admits ip then
        some ((control.quiet.addClient socket (openedClient ip now challengeId challenge)).putAll
          [.sent socket (challengeOf (openedClient ip now challengeId challenge))])
      else some control.quiet := rfl
  rw [shape] at stepped
  split at stepped
  · cases stepped
  · rename_i unknown
    have new : control.sockets.get? socket = none := by simpa [Dict.contains] using unknown
    split at stepped
    · obtain rfl := Option.some.inj stepped
      exact .opened socket (openedClient ip now challengeId challenge) new rfl rfl rfl rfl rfl
    · obtain rfl := Option.some.inj stepped
      exact .idle .refl

theorem message_ignored {content : Parsed} (gone : ¬ control.Live socket) :
    (message context socket content).finish control = control := by
  have flag : (control.data socket).closed = true := by simpa [Live] using gone
  rw [Handler.finish, message, Handler.read_bind, flag]
  rfl

theorem closeClient_ignored (gone : ¬ control.Live socket) : (closeClient context socket).finish control = control := by
  have flag : (control.data socket).closed = true := by simpa [Live] using gone
  rw [Handler.finish, closeClient, Handler.read_bind, flag]
  rfl

theorem message_moves {deployment : Deployment} {now : Int} {raw : Raw} {next : ControlState} (kept : Wellkept control)
    (stepped : step deployment control ⟨now, .message socket raw⟩ = some next) :
    Move deployment.crypto control.quiet next none ∨ Move deployment.crypto control.quiet next (some (socket, readMessage raw.content)) := by
  have shape : step deployment control ⟨now, .message socket raw⟩ = if control.sockets.contains socket then
      some ((message (Bun.context deployment now) socket raw.content).finish control.quiet) else none := rfl
  rw [shape] at stepped
  split at stepped
  · have ran := Option.some.inj stepped
    by_cases live : control.quiet.Live socket
    · obtain ⟨middle, tallied, reaction⟩ := @message_reacts (Bun.context deployment now) control.quiet socket
        raw.content (kept.aside quiet_aside) reliable live
      rw [ran] at reaction
      exact .inr (.reacted socket _ middle tallied live reaction)
    · rw [message_ignored live] at ran
      exact .inl (ran ▸ .idle .refl)
  · cases stepped

theorem close_moves {deployment : Deployment} {now : Int} {next : ControlState}
    (stepped : step deployment control ⟨now, .close socket⟩ = some next) :
    Move deployment.crypto control.quiet next none ∨ Move deployment.crypto control.quiet next (some (socket, { type := .other })) := by
  have shape : step deployment control ⟨now, .close socket⟩ = if control.sockets.contains socket then
      some ((closeClient (Bun.context deployment now) socket).finish control.quiet) else none := rfl
  rw [shape] at stepped
  split at stepped
  · have ran := Option.some.inj stepped
    by_cases live : control.quiet.Live socket
    · have closing := @closeClient_apply (Bun.context deployment now) control.quiet socket live fun _ _ _ _ _ => rfl
      rw [Handler.finish, closing] at ran
      rw [← ran]
      exact .inr (.reacted socket _ control.quiet .refl live (.rejected _ fun output member => .inl (mem_partings member)))
    · rw [closeClient_ignored live] at ran
      exact .inl (ran ▸ .idle .refl)
  · cases stepped

/-- What one event comes to. -/
theorem step_moves {deployment : Deployment} {turn : Turn} {next : ControlState} (kept : Wellkept control)
    (stepped : step deployment control turn = some next) :
    ∃ label, Move deployment.crypto control.quiet next label ∧ ∀ socket message, label = some (socket, message) → Asked turn socket message := by
  obtain ⟨now, event⟩ := turn
  cases event with
  | connect socket ip challengeId challenge => exact ⟨none, connect_moves stepped, fun _ _ same => absurd same (Option.some_ne_none _).symm⟩
  | message socket raw =>
      rcases message_moves kept stepped with idle | reacts
      · exact ⟨none, idle, fun _ _ same => absurd same (Option.some_ne_none _).symm⟩
      · refine ⟨_, reacts, ?_⟩
        intro client asked same
        obtain ⟨itself, read⟩ := Prod.mk.inj (Option.some.inj same)
        exact .inl ⟨raw, itself ▸ rfl, read⟩
  | close socket =>
      rcases close_moves stepped with idle | reacts
      · exact ⟨none, idle, fun _ _ same => absurd same (Option.some_ne_none _).symm⟩
      · refine ⟨_, reacts, ?_⟩
        intro client asked same
        obtain ⟨itself, read⟩ := Prod.mk.inj (Option.some.inj same)
        exact .inr ⟨itself ▸ rfl, read.symm⟩

theorem step_wellkept {deployment : Deployment} {turn : Turn} {next : ControlState} (kept : Wellkept control)
    (stepped : step deployment control turn = some next) : Wellkept next := by
  obtain ⟨label, move, -⟩ := step_moves kept stepped
  exact move.wellkept (kept.aside quiet_aside)

end Bun

end MeshTalk.Control
