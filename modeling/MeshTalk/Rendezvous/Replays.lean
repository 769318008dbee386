import MeshTalk.Library.Machine
import MeshTalk.Groups.Presence
import MeshTalk.Rendezvous.Cards

namespace MeshTalk.Rendezvous

open MeshTalk.Library MeshTalk.Protocol

/-! # How often a card is accepted

The replay cache forgets a card `CARD_MAX_AGE` after it was seen, and only when
it takes another one.  The card itself is valid for that long before and after
the time it is dated.
-/

/-- The age check of `decrypt_endpoint_card`. -/
def StillValid (card : EndpointCard) (now : Time) : Prop := clockDistance now card.createdAt.value ≤ cardMaxAge

/-- The same peer and nonce. -/
def SameCard (first second : EndpointCard) : Prop := first.peerId = second.peerId ∧ first.nonce = second.nonce

instance : Decidable (StillValid card now) := inferInstanceAs (Decidable (_ ≤ _))

instance : Decidable (SameCard first second) := inferInstanceAs (Decidable (_ ∧ _))

namespace RendezvousService

variable (service : RendezvousService)

/-- No card is accepted again while its timestamp is valid. -/
def AtMostOnce : Prop :=
  service.accepted.Pairwise fun earlier later => SameCard earlier.card later.card →
    ¬ StillValid earlier.card later.acceptedAt

/-- The card an event has examined, with its room. -/
def arriving : RendezvousEvent → Option (String × EndpointCard)
  | .handle =>
      match service.work with
      | some ⟨roomId, _, card :: _, none⟩ => some (roomId, card)
      | _ => none
  | _ => none

/-- No card has been accepted `CARD_MAX_AGE` or more after this one. -/
def Recent (earlier : Acceptance) : Prop := ∀ later ∈ service.accepted, later.seenAt - earlier.seenAt < cardMaxAge

/-- What the tables of the replay check hold, with the clocks. -/
def replayTable : Time × Time × Dict (String × PeerId × String) Time × List Acceptance :=
  (service.wall, service.monotonic, service.seenCards, service.accepted)

end RendezvousService

open RendezvousService

/-- A card that was accepted before and is still valid arrives in the room it
was accepted in, and the cache has had no reason to forget it. -/
def ReplayCovered (crypto : FileCrypto) (service : RendezvousService) (event : RendezvousEvent) : Prop :=
  ∀ arrived ∈ service.arriving event, arrived.2.refusal crypto service.wall = none →
    ∀ earlier ∈ service.accepted, SameCard earlier.card arrived.2 → StillValid earlier.card service.wall →
      earlier.roomId = arrived.1 ∧ service.Recent earlier

/-- What the replay cache knows of the cards accepted so far. -/
structure Remembered (service : RendezvousService) : Prop where
  past : ∀ earlier ∈ service.accepted, earlier.seenAt ≤ service.monotonic
  clocks : ∀ earlier ∈ service.accepted, earlier.acceptedAt - earlier.seenAt = service.wall - service.monotonic
  cached : ∀ earlier ∈ service.accepted, service.Recent earlier →
    ∃ seenAt, service.seenCards.get? (earlier.roomId, earlier.card.peerId, earlier.card.nonce) = some seenAt ∧
      earlier.seenAt ≤ seenAt

variable {addressOf : String → Option IpAddress} {crypto : FileCrypto} {identity : Identity crypto}
  {service next final start : RendezvousService} {roomId : String} {card : EndpointCard} {event : RendezvousEvent}
  {events : List RendezvousEvent}

/-! ## What a segment of the handler does to the cache -/

section

variable {table : Time × Time × Dict (String × PeerId × String) Time × List Acceptance}

theorem call_keepsTable {made : CardCall} : (call made).Keeps fun service => service.replayTable = table :=
  Handler.Keeps.change fun _ held => held

theorem countChange_keepsTable {peerId : PeerId} {endpoint : Endpoint} {now : Time} :
    (countChange peerId endpoint now).Keeps fun service => service.replayTable = table := by
  apply Handler.Keeps.read
  intro seen _
  apply Handler.Keeps.ite
  · intro _
    exact Handler.Keeps.pure
  · intro _
    exact Handler.Keeps.bind Handler.Keeps.refuse fun _ => Handler.Keeps.pure

theorem trackCard_keepsTable {announceJoin : Bool} {before : RendezvousService} :
    (trackCard addressOf roomId announceJoin card before).Keeps fun service => service.replayTable = table := by
  simp only [trackCard]
  split
  · exact Handler.Keeps.raise
  · apply Handler.Keeps.bind
    · exact Handler.Keeps.change fun _ held => held
    · intro _
      apply Handler.Keeps.read
      intro _ _
      apply Handler.Keeps.bind Handler.Keeps.refuse
      intro _
      apply Handler.Keeps.bind
      · exact Handler.Keeps.change fun _ held => held
      · intro _
        exact Handler.Keeps.bind call_keepsTable fun _ => Handler.Keeps.pure

theorem moveEndpoint_keepsTable {peerId : PeerId} {now : Time} {expectRaises : Bool} {endpoint : Option Endpoint} :
    (moveEndpoint peerId now expectRaises endpoint).Keeps fun service => service.replayTable = table := by
  cases endpoint with
  | none => exact Handler.Keeps.bind (Handler.Keeps.change fun _ held => held) fun _ => call_keepsTable
  | some endpoint =>
      apply Handler.Keeps.bind countChange_keepsTable
      intro changes
      apply Handler.Keeps.bind call_keepsTable
      intro _
      apply Handler.Keeps.bind Handler.Keeps.refuse
      intro _
      cases changes with
      | none => exact Handler.Keeps.pure
      | some changes => exact Handler.Keeps.change fun _ held => held

theorem introduceCard_keepsTable {checked : CheckedCard} {expectRaises : Bool} :
    (introduceCard checked expectRaises).Keeps fun service => service.replayTable = table := by
  apply Handler.Keeps.ite
  · intro _
    exact Handler.Keeps.pure
  · intro _
    apply Handler.Keeps.bind moveEndpoint_keepsTable
    intro _
    apply Handler.Keeps.bind
    · exact Handler.Keeps.change fun _ held => held
    · intro _
      exact Handler.Keeps.bind call_keepsTable fun _ => Handler.Keeps.pure

end

/-- A card is remembered only if it passes its checks and is not in the cache. -/
theorem handleCard_table {announceJoin : Bool} :
    ((handleCard addressOf identity roomId announceJoin card).finish service).replayTable = service.replayTable ∨
      card.refusal crypto service.wall = none ∧
        service.seenCards.get? (roomId, card.peerId, card.nonce) = none ∧
        ((handleCard addressOf identity roomId announceJoin card).finish service).replayTable =
          (rememberCard roomId card service).replayTable := by
  cases refusal : card.refusal crypto service.wall with
  | some reason =>
      left
      simp [handleCard, Handler.finish, Handler.read, Handler.raise, Handler.bind_apply, refusal]
  | none =>
      by_cases known : card.peerId = identity.peerId ∨
          service.seenCards.contains (roomId, card.peerId, card.nonce) = true
      · left
        simp only [handleCard, Handler.finish, Handler.read, Handler.bind_apply, refusal, if_pos known, Handler.pure_apply]
      · right
        have absent : service.seenCards.get? (roomId, card.peerId, card.nonce) = none := by
          cases found : service.seenCards.get? (roomId, card.peerId, card.nonce) with
          | none => rfl
          | some seenAt => exact (known (.inr (by simp [Dict.contains, found]))).elim
        refine ⟨rfl, absent, ?_⟩
        have keeps : (some <$> trackCard addressOf roomId announceJoin card service).Keeps
            fun state => state.replayTable = (rememberCard roomId card service).replayTable :=
          Handler.Keeps.bind trackCard_keepsTable fun _ => Handler.Keeps.pure
        simpa only [handleCard, Handler.finish, Handler.read, Handler.bind_apply, refusal, if_neg known, Handler.change]
          using keeps.finish (rfl : (rememberCard roomId card service).replayTable = _)

/-- A step keeps the cache, lets time pass or remembers the card that arrived. -/
theorem rendezvousStep_table (stepped : rendezvousStep addressOf identity service event = some next) :
    (∃ seconds, 0 ≤ seconds ∧
      next.replayTable = (service.wall + seconds, service.monotonic + seconds, service.seenCards, service.accepted)) ∨
    ∃ arrived ∈ service.arriving event, arrived.2.refusal crypto service.wall = none ∧
      service.seenCards.get? (arrived.1, arrived.2.peerId, arrived.2.nonce) = none ∧
      next.replayTable = (rememberCard arrived.1 arrived.2 service).replayTable := by
  have still : ∀ {state : RendezvousService}, state.replayTable = service.replayTable →
      ∃ seconds : Time, 0 ≤ seconds ∧
        state.replayTable = (service.wall + seconds, service.monotonic + seconds, service.seenCards, service.accepted) := by
    intro state same
    exact ⟨0, by decide, by rw [same, Rat.add_zero, Rat.add_zero]; rfl⟩
  cases event with
  | advance seconds =>
      by_cases forward : 0 ≤ seconds
      · simp only [rendezvousStep, if_pos forward, Option.some.injEq] at stepped
        exact .inl ⟨seconds, forward, stepped ▸ rfl⟩
      · simp [rendezvousStep, forward] at stepped
  | connect =>
      simp only [rendezvousStep] at stepped
      split at stepped
      · cases stepped
      · cases stepped
        exact .inl (still rfl)
  | disconnect =>
      cases stepped
      exact .inl (still rfl)
  | receive message =>
      simp only [rendezvousStep] at stepped
      split at stepped
      · cases stepped
        apply Or.inl
        apply still
        cases message <;> simp only [receiveMessage] <;> split <;> rfl
      · cases stepped
  | handle =>
      simp only [rendezvousStep] at stepped
      split at stepped
      · rename_i roomId announceJoin card rest working
        cases stepped
        rcases @handleCard_table addressOf crypto identity service roomId card announceJoin with same | ⟨passed, absent, remembered⟩
        · exact .inl (still same)
        · exact .inr ⟨(roomId, card), by simp [RendezvousService.arriving, working], passed, absent, remembered⟩
      · cases stepped
        exact .inl (still rfl)
      · cases stepped
  | resume callbackRaises expectRaises =>
      simp only [rendezvousStep] at stepped
      split at stepped
      · split at stepped
        · cases stepped
          exact .inl (still rfl)
        · cases stepped
          exact .inl (still (introduceCard_keepsTable.finish (rfl : service.replayTable = _)))
      · cases stepped
        exact .inl (still rfl)
      · cases stepped

/-! ## What the cache remembers -/

theorem initial_remembered (empty : start.accepted = []) : Remembered start :=
  ⟨by simp [empty], by simp [empty], by simp [empty]⟩

theorem Remembered.advance (remembered : Remembered service) {seconds : Time} (forward : 0 ≤ seconds)
    (table : next.replayTable =
      (service.wall + seconds, service.monotonic + seconds, service.seenCards, service.accepted)) :
    Remembered next := by
  obtain ⟨wall, monotonic, seenCards, accepted⟩ :
      next.wall = service.wall + seconds ∧ next.monotonic = service.monotonic + seconds ∧
        next.seenCards = service.seenCards ∧ next.accepted = service.accepted := by
    simpa [replayTable] using table
  constructor
  · intro earlier member
    have before := remembered.past earlier (accepted ▸ member)
    rw [monotonic]
    grind
  · intro earlier member
    have before := remembered.clocks earlier (accepted ▸ member)
    rw [wall, monotonic]
    grind
  · intro earlier member recent
    rw [seenCards]
    exact remembered.cached earlier (accepted ▸ member) fun later known => recent later (accepted ▸ known)

theorem Remembered.remember (remembered : Remembered service) {arrived : String × EndpointCard}
    (table : next.replayTable = (rememberCard arrived.1 arrived.2 service).replayTable) : Remembered next := by
  obtain ⟨wall, monotonic, seenCards, accepted⟩ :
      next.wall = service.wall ∧ next.monotonic = service.monotonic ∧
        next.seenCards = (rememberCard arrived.1 arrived.2 service).seenCards ∧
        next.accepted = service.accepted ++ [⟨arrived.1, arrived.2, service.wall, service.monotonic⟩] := by
    simpa [replayTable, rememberCard] using table
  constructor
  · intro earlier member
    rw [accepted, List.mem_append, List.mem_singleton] at member
    rw [monotonic]
    rcases member with known | rfl
    · exact remembered.past earlier known
    · exact Rat.le_refl
  · intro earlier member
    rw [accepted, List.mem_append, List.mem_singleton] at member
    rw [wall, monotonic]
    rcases member with known | rfl
    · exact remembered.clocks earlier known
    · rfl
  · intro earlier member recent
    have present : ∀ later ∈ service.accepted, later ∈ next.accepted := by
      intro later known
      rw [accepted]
      exact List.mem_append_left _ known
    -- The cache drops entries by the age they have now, which is the age at the newest acceptance.
    have young : service.monotonic - earlier.seenAt < cardMaxAge :=
      recent ⟨arrived.1, arrived.2, service.wall, service.monotonic⟩ (by simp [accepted])
    have fresh : decide (service.monotonic - service.monotonic < cardMaxAge) = true := by
      rw [decide_eq_true_eq, cardMaxAge]
      grind
    rw [accepted, List.mem_append, List.mem_singleton] at member
    rw [seenCards]
    simp only [rememberCard, Dict.get?_filter, Dict.get?_set]
    rcases member with known | rfl
    · obtain ⟨seenAt, found, later⟩ := remembered.cached earlier known fun later known => recent later (present later known)
      have before := remembered.past earlier known
      split
      · exact ⟨service.monotonic, by rw [Option.filter_some, if_pos fresh], before⟩
      · refine ⟨seenAt, ?_, later⟩
        rw [found]
        have kept : service.monotonic - seenAt < cardMaxAge := by grind
        simp [kept]
    · exact ⟨service.monotonic, by rw [if_pos rfl, Option.filter_some, if_pos fresh], Rat.le_refl⟩

theorem rendezvousStep_remembers (remembered : Remembered service)
    (stepped : rendezvousStep addressOf identity service event = some next) : Remembered next := by
  rcases rendezvousStep_table stepped with ⟨seconds, forward, table⟩ | ⟨arrived, _, _, _, table⟩
  · exact remembered.advance forward table
  · exact remembered.remember table

/-! ## One acceptance while a card is valid -/

theorem rendezvousStep_once (remembered : Remembered service) (once : service.AtMostOnce)
    (covered : ReplayCovered crypto service event)
    (stepped : rendezvousStep addressOf identity service event = some next) : next.AtMostOnce := by
  rcases rendezvousStep_table stepped with ⟨seconds, _, table⟩ | ⟨arrived, member, passed, absent, table⟩
  · have accepted : next.accepted = service.accepted := congrArg (fun table => table.2.2.2) table
    rw [AtMostOnce, accepted]
    exact once
  · have accepted : next.accepted = service.accepted ++ [⟨arrived.1, arrived.2, service.wall, service.monotonic⟩] :=
      congrArg (fun table => table.2.2.2) table
    rw [AtMostOnce, accepted, List.pairwise_append]
    refine ⟨once, List.pairwise_singleton _ _, ?_⟩
    intro earlier known later newest same valid
    rw [List.mem_singleton] at newest
    subst newest
    obtain ⟨home, recent⟩ := covered arrived member passed earlier known same valid
    obtain ⟨seenAt, found, _⟩ := remembered.cached earlier known recent
    rw [home, same.1, same.2, absent] at found
    cases found

/-- In a run in which every valid card that comes again comes in the room it was
accepted in, and before another card has been accepted `CARD_MAX_AGE` or more
after it, no card is accepted twice while it is valid. -/
theorem covered_cards_accepted_once (addressOf : String → Option IpAddress) {crypto : FileCrypto}
    (identity : Identity crypto) {start final : RendezvousService} {events : List RendezvousEvent}
    (initial : start.accepted = [])
    (covered : Meets (rendezvousStep addressOf identity) (ReplayCovered crypto) start events)
    (completed : run (rendezvousStep addressOf identity) start events = some final) : final.AtMostOnce := by
  have kept := run_invariant (fun service => Remembered service ∧ service.AtMostOnce)
    (fun service event next held admitted stepped =>
      ⟨rendezvousStep_remembers held.1 stepped, rendezvousStep_once held.1 held.2 admitted stepped⟩)
    ⟨initial_remembered initial, by simp [AtMostOnce, initial]⟩ covered completed
  exact kept.2

/-! ### Runs on fixed inputs -/

open MeshTalk.Groups (teamId bobId bobCard)

instance : Decidable (service.Recent earlier) := inferInstanceAs (Decidable (∀ later ∈ _, _))

instance : Decidable service.AtMostOnce := inferInstanceAs (Decidable (List.Pairwise _ _))

instance : Decidable (ReplayCovered crypto service event) := by
  unfold ReplayCovered
  infer_instance

/-- A service in one room, with the clock of the wall at zero. -/
def teamService : RendezvousService where
  rooms := [teamId]
  allowLoopback := false
  wall := 0
  monotonic := 0
  connected := true
  initializingRooms := []
  seenCards := ∅
  lastCandidates := ∅
  candidateChanges := ∅
  candidateSeen := ∅
  work := none
  calls := []
  accepted := []

/-- A card that comes as a signal, with its callbacks. -/
def signalled (card : EndpointCard) : List RendezvousEvent :=
  [.receive (.signal teamId card), .handle, .resume false false, .resume false false, .handle]

/-- Two cards, and a replay of the first that the cache still knows. -/
def knownReplay : List RendezvousEvent :=
  signalled (bobCard 100 "a") ++ [.advance 60] ++ signalled (bobCard 100 "b") ++
    [.receive (.signal teamId (bobCard 100 "a")), .handle]

theorem known_replay_is_dropped :
    ∃ final, run (rendezvousStep (fun _ => none) plainIdentity) teamService knownReplay = some final ∧
      final.AtMostOnce ∧ final.accepted.length = 2 := by
  have found : ((run (rendezvousStep (fun _ => none) plainIdentity) teamService knownReplay).any fun final =>
      decide (final.accepted.length = 2)) = true := by decide +kernel
  obtain ⟨final, completed, twice⟩ := (Option.any_eq_true _ _).mp found
  have covered : Meets (rendezvousStep (fun _ => none) plainIdentity) (ReplayCovered plainCrypto) teamService
      knownReplay := by decide +kernel
  exact ⟨final, completed, covered_cards_accepted_once _ plainIdentity rfl covered completed, of_decide_eq_true twice⟩

/-- A card dated 100 seconds ahead is acted on twice: the second time when the
cache has forgotten it and its timestamp is 80 seconds old. -/
theorem future_card_accepted_twice :
    ∃ final, run (rendezvousStep (fun _ => none) plainIdentity) teamService
        (signalled (bobCard 100 "a") ++ [.advance 180] ++ signalled (bobCard 180 "b") ++
          signalled (bobCard 100 "a")) = some final ∧ ¬ final.AtMostOnce ∧
      final.calls.count (.roomMember teamId bobId true Groups.bobKey) = 3 := by
  have found : ((run (rendezvousStep (fun _ => none) plainIdentity) teamService
      (signalled (bobCard 100 "a") ++ [.advance 180] ++ signalled (bobCard 180 "b") ++
        signalled (bobCard 100 "a"))).any fun final => decide (¬ final.AtMostOnce ∧
      final.calls.count (.roomMember teamId bobId true Groups.bobKey) = 3)) = true := by
    decide +kernel
  obtain ⟨final, completed, twice⟩ := (Option.any_eq_true _ _).mp found
  exact ⟨final, completed, of_decide_eq_true twice⟩

/-! ### Cards that are not dated ahead -/

/-- A card dated before the moment it was accepted is forgotten only when it is
no longer valid. -/
theorem Remembered.recent_of_dated (remembered : Remembered service) {earlier : Acceptance}
    (known : earlier ∈ service.accepted) (dated : earlier.card.createdAt.value < earlier.acceptedAt)
    (valid : StillValid earlier.card service.wall) : service.Recent earlier := by
  intro later member
  have before := remembered.past later member
  have offset := remembered.clocks earlier known
  have age : service.wall - earlier.card.createdAt.value ≤ cardMaxAge := by
    have bounded : clockDistance service.wall earlier.card.createdAt.value ≤ cardMaxAge := valid
    unfold clockDistance at bounded
    grind
  grind

/-- The cards that arrive are dated before they do, and of one room. -/
def DatedArrival (crypto : FileCrypto) (roomId : String) (service : RendezvousService) (event : RendezvousEvent) : Prop :=
  ∀ arrived ∈ service.arriving event, arrived.2.refusal crypto service.wall = none →
    arrived.2.createdAt.value < service.wall ∧ arrived.1 = roomId

theorem rendezvousStep_dated
    (dated : ∀ earlier ∈ service.accepted, earlier.card.createdAt.value < earlier.acceptedAt ∧ earlier.roomId = roomId)
    (arrival : DatedArrival crypto roomId service event)
    (stepped : rendezvousStep addressOf identity service event = some next) :
    ∀ earlier ∈ next.accepted, earlier.card.createdAt.value < earlier.acceptedAt ∧ earlier.roomId = roomId := by
  rcases rendezvousStep_table stepped with ⟨seconds, _, table⟩ | ⟨arrived, member, passed, _, table⟩
  · have accepted : next.accepted = service.accepted := congrArg (fun table => table.2.2.2) table
    rwa [accepted]
  · have accepted : next.accepted = service.accepted ++ [⟨arrived.1, arrived.2, service.wall, service.monotonic⟩] :=
      congrArg (fun table => table.2.2.2) table
    intro earlier known
    rw [accepted, List.mem_append, List.mem_singleton] at known
    rcases known with before | rfl
    · exact dated earlier before
    · exact arrival arrived member passed

/-- Within one room, cards that are not dated in the future are accepted at most
once while they are valid, whatever arrives in between. -/
theorem dated_cards_accepted_once (initial : start.accepted = [])
    (arrivals : Meets (rendezvousStep addressOf identity) (DatedArrival crypto roomId) start events)
    (completed : run (rendezvousStep addressOf identity) start events = some final) : final.AtMostOnce := by
  have kept := run_invariant (fun service => (Remembered service ∧ service.AtMostOnce) ∧
      ∀ earlier ∈ service.accepted, earlier.card.createdAt.value < earlier.acceptedAt ∧ earlier.roomId = roomId)
    (fun service event next held arrival stepped => by
      obtain ⟨⟨remembered, once⟩, dated⟩ := held
      have covered : ReplayCovered crypto service event := by
        intro arrived member passed earlier known same valid
        obtain ⟨past, home⟩ := dated earlier known
        exact ⟨home.trans (arrival arrived member passed).2.symm, remembered.recent_of_dated known past valid⟩
      exact ⟨⟨rendezvousStep_remembers remembered stepped, rendezvousStep_once remembered once covered stepped⟩,
        rendezvousStep_dated dated arrival stepped⟩)
    ⟨⟨initial_remembered initial, by simp [AtMostOnce, initial]⟩, by simp [initial]⟩ arrivals completed
  exact kept.1.2

end MeshTalk.Rendezvous
