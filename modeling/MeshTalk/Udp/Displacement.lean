import MeshTalk.Udp.Calls
import MeshTalk.Udp.Packets

namespace MeshTalk.Udp

open MeshTalk.Library MeshTalk.Protocol Handler

/-! # A confirmed active session is never displaced

Each attempt of this node leads to at most one session at a time, so two
sessions have one id only where two handshakes do.
-/

namespace SessionTables

variable {tables first second : SessionTables} {session other : Session} {peerId : PeerId} {route : Route}

def Established (tables : SessionTables) (peerId : PeerId) : Prop :=
  ∃ active, tables.sessions.get? peerId = some active ∧ tables.confirmed active = true

/-- Where a new session is put, and which sessions it takes the place of. -/
structure Installed (session : Session) (first second : SessionTables) : Prop where
  established : first.Established session.peerId → (∀ peerId, second.sessions.get? peerId = first.sessions.get? peerId) ∧
    second.HeldPending session ∧
    ∀ stale, (first.pendingOf session.peerId).get? session.route = some stale → stale ≠ session → ¬ second.Known stale
  vacant : ¬ first.Established session.peerId → second.HeldActive session ∧
    ∀ peerId route, (second.pendingOf peerId).get? route = (first.pendingOf peerId).get? route
  elsewhere : ∀ {peerId}, peerId ≠ session.peerId → second.sessions.get? peerId = first.sessions.get? peerId ∧
    ∀ route, (second.pendingOf peerId).get? route = (first.pendingOf peerId).get? route
  listed : ∀ {sessionId other}, first.sessionsById.get? sessionId = some other → session.sessionId ≠ sessionId →
    (∀ stale, (first.pendingOf session.peerId).get? session.route = some stale → stale.sessionId ≠ sessionId) →
      second.sessionsById.get? sessionId = some other

theorem installed (filed : Filed tables) (numbered : session.serial = tables.nextSession) :
    Installed session tables (tables.add session) := by
  have older : ∀ {peerId active}, tables.sessions.get? peerId = some active → active.serial ≠ session.serial := by
    intro peerId active found
    have known := filed.serial_known (.inr (.inl (filed.heldActive found)))
    omega
  have created : (tables.create session).Established session.peerId ↔ tables.Established session.peerId := by
    simp only [Established]
    refine exists_congr fun active => and_congr_right fun found => ?_
    have apart := older found
    grind
  have pending_key := @filed.pending_key
  have disjoint := @filed.active_not_pending
  simp only [HeldActive, HeldPending] at disjoint
  simp only [add]
  split
  · rename_i established
    have established := created.mp (confirmedActive_isSome.mp established)
    unfold replacePending
    split
    · rename_i stale found
      obtain ⟨owner, onRoute⟩ := pending_key found
      refine ⟨fun _ => ⟨fun peer => ?_, ?_, fun other pending new => ?_⟩, fun vacant => absurd established vacant,
        fun {peer} elsewhere => ⟨?_, fun path => ?_⟩, fun {sessionId other} listed apart untouched => ?_⟩
      · grind
      · simp only [HeldPending]; grind
      · simp only [Known, Listed, HeldActive, HeldPending, HeldRetiring]; grind
      · grind
      · grind
      · grind
    · rename_i free
      refine ⟨fun _ => ⟨fun peer => ?_, ?_, fun other pending new => ?_⟩, fun vacant => absurd established vacant,
        fun {peer} elsewhere => ⟨?_, fun path => ?_⟩, fun {sessionId other} listed apart untouched => ?_⟩
      · grind
      · simp only [HeldPending]; grind
      · grind
      · grind
      · grind
      · grind
  · rename_i unestablished
    rw [confirmedActive_isSome] at unestablished
    have unestablished : ¬ tables.Established session.peerId := fun held => unestablished (created.mpr held)
    refine ⟨fun established => absurd established unestablished, fun _ => ⟨?_, fun peer path => ?_⟩,
      fun {peer} elsewhere => ⟨?_, fun path => ?_⟩, fun {sessionId other} listed apart untouched => ?_⟩
    · simp only [HeldActive]; grind
    · grind
    · grind
    · grind
    · grind

end SessionTables

namespace UdpTransport

open SessionTables

variable {settings : Settings} {now : Time} {transport start next final : UdpTransport} {session one other : Session}
  {peerId : PeerId} {route : Route} {heard : Hello → Prop} {origins : Nat → Opening}

/-! ## One session for each attempt -/

/-- The attempt that led to the session. -/
def attemptSerial (origins : Nat → Opening) (session : Session) : Nat := (origins session.serial).attempt.serial

/-- An attempt leads to one session at a time.  While it is held for the peer, the
session is the active or pending one on its route, and no other session is
pending beside an unconfirmed active one. -/
structure Homed (settings : Settings) (heard : Hello → Prop) (origins : Nat → Opening) (transport : UdpTransport) : Prop
    extends Sourced settings heard origins transport where
  single : ∀ {one other}, transport.Known one → transport.Known other →
    attemptSerial origins one = attemptSerial origins other → one = other
  seated : ∀ {session stored}, transport.Known session → transport.attempts.get? session.peerId = some stored →
    stored.serial = attemptSerial origins session → (stored.endpoint, stored.viaRelay) = session.route ∧
      (transport.HeldActive session ∨ transport.HeldPending session)
  alone : ∀ {active}, transport.HeldActive active → transport.confirmed active = false →
    (transport.pendingOf active.peerId).get? active.route = none

/-- An attempt held after a step under the number of a session known before it was
held before. -/
theorem Sourced.held (sourced : Sourced settings heard origins transport) (renews : Renews settings transport next)
    (known : transport.Known session) {stored : Attempt} (found : next.attempts.get? session.peerId = some stored)
    (same : stored.serial = attemptSerial origins session) : transport.attempts.get? session.peerId = some stored := by
  rcases renews.older found with kept | new
  · exact kept
  · obtain ⟨-, -, leads, -⟩ := sourced.origin known
    have newer : transport.nextAttempt ≤ attemptSerial origins session := same ▸ new
    exact absurd leads.numbered (Nat.not_lt.mpr newer)

theorem Sourced.unconfirmed (sourced : Sourced settings heard origins transport) (known : transport.Known session)
    {stored : Attempt} (found : transport.attempts.get? session.peerId = some stored)
    (same : stored.serial = attemptSerial origins session) : transport.confirmed session = false := by
  obtain ⟨-, -, -, spent⟩ := sourced.origin known
  by_cases confirmed : transport.confirmed session = true
  · exact absurd same (spent confirmed stored found)
  · exact Bool.of_not_eq_true confirmed

theorem Homed.sheds {ends : Session → Prop} {later : Nat → Opening} (homed : Homed settings heard origins transport)
    (sheds : Sheds ends transport next) (renews : Renews settings transport next)
    (sourced : Sourced settings heard later next)
    (same : ∀ session, transport.Known session → attemptSerial later session = attemptSerial origins session) :
    Homed settings heard later next where
  toSourced := sourced
  single known other equal := by
    have known := sheds.within.known known
    have other := sheds.within.known other
    rw [same _ known, same _ other] at equal
    exact homed.single known other equal
  seated known found equal := by
    have older := sheds.within.known known
    rw [same _ older] at equal
    obtain ⟨onRoute, held⟩ := homed.seated older (homed.held renews older found equal) equal
    exact ⟨onRoute, held.imp (sheds.seated · known) (sheds.queued · known)⟩
  alone active unconfirmed := by
    refine Option.eq_none_iff_forall_ne_some.mpr fun pending found => ?_
    have free := homed.alone (sheds.within.active active) ((sheds.within.confirmed _).symm.trans unconfirmed)
    rw [sheds.within.pending found] at free
    contradiction

theorem Homed.confirms {middle : SessionTables} {later : Nat → Opening} (homed : Homed settings heard origins transport)
    (filed : transport.Filed) (listed : transport.Listed other) (confirms : Confirms other transport.toSessionTables middle)
    (loses : Loses (fun _ => False) middle next.toSessionTables) (popped : next.attempts.get? other.peerId = none)
    (renews : Renews settings transport next) (sourced : Sourced settings heard later next)
    (same : ∀ session, transport.Known session → attemptSerial later session = attemptSerial origins session) :
    Homed settings heard later next := by
  have older : ∀ {session}, next.Known session → transport.Known session :=
    fun known => confirms.promoted.known filed listed (loses.within.known known)
  refine ⟨sourced, fun known another equal => ?_, fun {session stored} known found equal => ?_,
    fun {active} held unconfirmed => ?_⟩
  · rw [same _ (older known), same _ (older another)] at equal
    exact homed.single (older known) (older another) equal
  · rw [same _ (older known)] at equal
    obtain ⟨onRoute, held⟩ := homed.seated (older known) (homed.held renews (older known) found equal) equal
    have elsewhere : session.peerId ≠ other.peerId := by
      intro samePeer
      rw [samePeer, popped] at found
      contradiction
    refine ⟨onRoute, held.imp (fun active => ?_) fun pending => ?_⟩
    · exact loses.seated (confirms.elsewhere elsewhere active) known
    · exact loses.queued ((confirms.queued elsewhere).trans pending) known
  · have unconfirmed := (loses.within.confirmed active).symm.trans unconfirmed
    rw [confirms.promoted.confirmed] at unconfirmed
    split at unconfirmed
    · contradiction
    · rename_i apart
      refine Option.eq_none_iff_forall_ne_some.mpr fun pending found => ?_
      have found := (confirms.promoted.pending (loses.within.pending found)).1
      rcases confirms.promoted.active (loses.within.active held) with ⟨-, rfl⟩ | ⟨-, active⟩
      · exact absurd rfl apart
      · rw [homed.alone active unconfirmed] at found
        contradiction

/-- What a HELLO that adds a session does to the maps. -/
structure Adds (settings : Settings) (transport next : UdpTransport) (session : Session) (opening : Opening)
    (cleared : SessionTables) : Prop where
  peer : session.peerId = opening.hello.peerId
  onRoute : session.route = opening.route
  numbered : session.serial = cleared.nextSession
  derived : Derived settings transport opening.hello opening.route opening next
  loses : Loses transport.Unconfirmed transport.toSessionTables cleared
  gone : ∀ stale, transport.sessionForRoute session.peerId session.route = some stale →
    transport.confirmed stale = false → ¬ cleared.Known stale
  agrees : Agrees (cleared.add session) next.toSessionTables

variable {opening : Opening} {cleared : SessionTables}

theorem Adds.added (adds : Adds settings transport next session opening cleared) (filed : transport.Filed) :
    Added session cleared (cleared.add session) :=
  SessionTables.added (adds.loses.within.filed filed) adds.numbered

theorem Adds.installed (adds : Adds settings transport next session opening cleared) (filed : transport.Filed) :
    Installed session cleared (cleared.add session) :=
  SessionTables.installed (adds.loses.within.filed filed) adds.numbered

theorem Adds.older (adds : Adds settings transport next session opening cleared) (filed : transport.Filed)
    (known : next.Known other) (new : other ≠ session) : cleared.Known other :=
  ((adds.added filed).known (adds.agrees.known.mp known)).resolve_left new

theorem Established.kept (established : transport.Established peerId)
    (loses : Loses transport.Unconfirmed transport.toSessionTables cleared) : cleared.Established peerId := by
  obtain ⟨active, found, confirmed⟩ := established
  refine ⟨active, loses.active found fun ended => ?_, (loses.within.confirmed active).trans confirmed⟩
  rw [ended.2] at confirmed
  contradiction

/-- A session pending on the route of the new one makes way for it: beside an
established session it is replaced, else it is the one on the route. -/
theorem Adds.pending_gone (adds : Adds settings transport next session opening cleared) (filed : transport.Filed)
    (homed : Homed settings heard origins transport) (known : next.Known other) (new : other ≠ session)
    (pending : (transport.pendingOf session.peerId).get? session.route = some other) : False := by
  have older := adds.older filed known new
  obtain ⟨owner, onRoute⟩ := filed.pending_key pending
  have held : transport.HeldPending other := by
    rw [HeldPending, owner, onRoute]
    exact pending
  by_cases established : transport.Established session.peerId
  · have queued := adds.loses.queued pending older
    exact ((adds.installed filed).established (Established.kept established adds.loses)).2.2 other queued new
      (adds.agrees.known.mp known)
  · refine adds.gone other ?_ (filed.pending_unconfirmed held) older
    have inactive : (transport.sessions.get? session.peerId).filter (fun active => active.route = session.route) = none := by
      refine Option.eq_none_iff_forall_ne_some.mpr fun active found => ?_
      obtain ⟨found, same⟩ := Option.filter_eq_some_iff.mp found
      have keyed := filed.active_key found
      have unconfirmed : transport.confirmed active = false :=
        Bool.of_not_eq_true fun confirmed => established ⟨active, found, confirmed⟩
      have free := homed.alone (filed.heldActive found) unconfirmed
      rw [keyed, of_decide_eq_true same, pending] at free
      contradiction
    rw [sessionForRoute, inactive, pending]
    rfl

/-- The session that the attempt of a new one led to before is gone. -/
theorem Adds.single (adds : Adds settings transport next session opening cleared) (filed : transport.Filed)
    (homed : Homed settings heard origins transport) (known : next.Known other) (new : other ≠ session)
    (same : opening.attempt.serial = attemptSerial origins other) : False := by
  have older := adds.older filed known new
  have before := adds.loses.within.known older
  obtain ⟨-, -, leads, -⟩ := homed.origin before
  rcases adds.derived.picks with found | ⟨fresh, -⟩
  · obtain ⟨owner, -⟩ := leads.only found same
    rw [owner] at found
    obtain ⟨routed, held⟩ := homed.seated before found same
    have unconfirmed := homed.unconfirmed before found same
    have onRoute : other.route = session.route := by
      rw [← routed, adds.derived.routed, adds.onRoute]
    have owner : other.peerId = session.peerId := owner.symm.trans adds.peer.symm
    rcases held with active | pending
    · rw [HeldActive, owner] at active
      exact adds.gone other (sessionForRoute_active active onRoute) unconfirmed older
    · rw [HeldPending, owner, onRoute] at pending
      exact adds.pending_gone filed homed known new pending
  · have newer : transport.nextAttempt ≤ attemptSerial origins other := same ▸ fresh
    exact absurd leads.numbered (Nat.not_lt.mpr newer)

theorem Adds.seated (adds : Adds settings transport next session opening cleared) (filed : transport.Filed)
    (homed : Homed settings heard origins transport) (renews : Renews settings transport next) {stored : Attempt}
    (known : next.Known other) (new : other ≠ session) (found : next.attempts.get? other.peerId = some stored)
    (same : stored.serial = attemptSerial origins other) :
    (stored.endpoint, stored.viaRelay) = other.route ∧ (next.HeldActive other ∨ next.HeldPending other) := by
  have older := adds.older filed known new
  have before := adds.loses.within.known older
  have found' := homed.held renews before found same
  obtain ⟨onRoute, held⟩ := homed.seated before found' same
  have elsewhere : other.peerId ≠ session.peerId := by
    intro owner
    have owner := owner.trans adds.peer
    rcases adds.derived.picks with kept | ⟨-, fresh⟩
    · rw [owner] at found'
      cases kept.symm.trans found'
      exact adds.single filed homed known new same
    · obtain ⟨-, -, leads, -⟩ := homed.origin before
      have newer : transport.nextAttempt ≤ attemptSerial origins other := same ▸ fresh (owner ▸ found)
      exact absurd leads.numbered (Nat.not_lt.mpr newer)
  obtain ⟨sessions, pendings⟩ := (adds.installed filed).elsewhere elsewhere
  refine ⟨onRoute, held.imp (fun active => ?_) fun pending => ?_⟩
  · rw [HeldActive, adds.agrees.sessions, sessions]
    exact adds.loses.seated active older
  · rw [HeldPending, adds.agrees.pendingOf, pendings]
    exact adds.loses.queued pending older

theorem Homed.adds {later : Nat → Opening} (homed : Homed settings heard origins transport) (filed : transport.Filed)
    (adds : Adds settings transport next session opening cleared) (renews : Renews settings transport next)
    (sourced : Sourced settings heard later next) (own : later session.serial = opening)
    (same : ∀ session, transport.Known session → attemptSerial later session = attemptSerial origins session) :
    Homed settings heard later next := by
  have new : attemptSerial later session = opening.attempt.serial := by rw [attemptSerial, own]
  have old : ∀ {other}, next.Known other → other ≠ session → attemptSerial later other = attemptSerial origins other :=
    fun known apart => same _ (adds.loses.within.known (adds.older filed known apart))
  have installed := adds.installed filed
  refine ⟨sourced, fun {one other} known another equal => ?_, fun {other stored} known found equal => ?_,
    fun {active} held unconfirmed => ?_⟩
  · by_cases first : one = session <;> by_cases second : other = session
    · rw [first, second]
    · subst first
      rw [new, old another second] at equal
      exact (adds.single filed homed another second equal).elim
    · subst second
      rw [new, old known first] at equal
      exact (adds.single filed homed known first equal.symm).elim
    · rw [old known first, old another second] at equal
      exact homed.single (adds.loses.within.known (adds.older filed known first))
        (adds.loses.within.known (adds.older filed another second)) equal
  · by_cases added : other = session
    · subst added
      rw [new] at equal
      rw [adds.peer] at found
      obtain ⟨-, rfl⟩ := adds.derived.leads.only found equal
      refine ⟨adds.derived.routed.trans adds.onRoute.symm, ?_⟩
      simp only [HeldActive, HeldPending, adds.agrees.sessions, adds.agrees.pendingOf]
      by_cases established : cleared.Established other.peerId
      · exact .inr (installed.established established).2.1
      · exact .inl (installed.vacant established).1
    · rw [old known added] at equal
      exact adds.seated filed homed renews known added found equal
  · refine Option.eq_none_iff_forall_ne_some.mpr fun pending found => ?_
    rw [adds.agrees.pendingOf] at found
    rw [HeldActive, adds.agrees.sessions] at held
    by_cases owner : active.peerId = session.peerId
    · have vacant : ¬ cleared.Established session.peerId := by
        intro established
        obtain ⟨sessions, -, -⟩ := installed.established established
        obtain ⟨_, occupied, confirmed⟩ := established
        rw [owner, sessions] at held
        cases occupied.symm.trans held
        have apart : active.serial ≠ session.serial := adds.numbered ▸ Nat.ne_of_lt
          ((adds.loses.within.filed filed).serial_known
            (.inr (.inl ((adds.loses.within.filed filed).heldActive occupied))))
        rw [adds.agrees.confirmed, (adds.added filed).confirmed, if_neg apart, confirmed] at unconfirmed
        contradiction
      obtain ⟨own, pendings⟩ := installed.vacant vacant
      rw [owner, own] at held
      cases held
      rw [pendings] at found
      obtain ⟨peer, onRoute⟩ := (adds.loses.within.filed filed).pending_key found
      have queued : cleared.HeldPending pending := by rwa [HeldPending, peer, onRoute]
      have apart : pending ≠ session := by
        rintro rfl
        have before := (adds.loses.within.filed filed).serial_known (.inr (.inr (.inl queued)))
        rw [adds.numbered] at before
        exact Nat.lt_irrefl _ before
      refine adds.pending_gone filed homed (.inr (.inr (.inl ?_))) apart (adds.loses.within.pending found)
      rw [HeldPending, adds.agrees.pendingOf, pendings]
      exact queued
    · obtain ⟨sessions, pendings⟩ := installed.elsewhere owner
      rw [sessions] at held
      rw [pendings] at found
      have apart : active.serial ≠ session.serial := adds.numbered ▸ Nat.ne_of_lt
        ((adds.loses.within.filed filed).serial_known (.inr (.inl held)))
      rw [adds.agrees.confirmed, (adds.added filed).confirmed, if_neg apart, adds.loses.within.confirmed] at unconfirmed
      have free := homed.alone (adds.loses.within.active held) unconfirmed
      rw [adds.loses.within.pending found] at free
      contradiction

/-- A HELLO that adds a session, with the session it adds. -/
theorem AddsSession.adds {event : Time × TransportEvent} (drawn : AttemptsDrawn settings transport)
    (shape : AddsSession settings transport next event) (stepped : step settings transport event = some next) :
    ∃ session opening cleared, Adds settings transport next session opening cleared ∧
      recordOpening settings transport origins event session.serial = opening := by
  obtain ⟨now, event⟩ := event
  unfold AddsSession at shape
  split at shape
  · rename_i clock received route same
    obtain ⟨rfl, rfl⟩ := Prod.mk.inj same
    obtain ⟨heardRoute, opening, middle, name, cleared, admitted, loses, gone, agrees⟩ := shape
    have derived := admitted_derived drawn heardRoute admitted stepped
    have answers := derived.answers
    have onRoute := derived.onRoute
    subst answers
    subst onRoute
    refine ⟨_, opening, cleared, ⟨rfl, rfl, rfl, derived, loses, gone, agrees⟩, ?_⟩
    simp only [recordOpening, admitted, newSession, loses.within.nextSession, Function.update_self]
  · contradiction

theorem step_homed {event : Time × TransportEvent} (filed : transport.Filed)
    (homed : Homed settings heard origins transport) (hearing : Hears heard event)
    (stepped : step settings transport event = some next) :
    Homed settings heard (recordOpening settings transport origins event) next := by
  have renews := step_renews stepped
  have sourced := step_sourced filed homed.toSourced hearing stepped
  have same : ∀ session, transport.Known session →
      attemptSerial (recordOpening settings transport origins event) session = attemptSerial origins session :=
    fun session known => by rw [attemptSerial, recordOpening_older (Nat.ne_of_lt (filed.serial_known known)), attemptSerial]
  rcases step_shape filed stepped with sheds | adds | confirms
  · exact homed.sheds sheds renews sourced same
  · obtain ⟨session, opening, cleared, adds, recorded⟩ := adds.adds homed.attempts stepped
    exact homed.adds filed adds renews sourced recorded same
  · unfold ConfirmsSession at confirms
    split at confirms
    · obtain ⟨-, -, promotedSession, middle, authentic, -, confirms, loses, popped⟩ := confirms
      have found := (authenticates_some.mp authentic).1
      have listed : transport.Listed promotedSession := by
        rw [Listed, filed.listed_key found]
        exact found
      exact homed.confirms filed listed confirms loses popped renews sourced same
    · contradiction

deriving instance Inhabited for Hello, Attempt, Opening

theorem initial_homed : Homed settings heard origins initial where
  toSourced := initial_sourced
  single known := absurd known initial_unknown
  seated known := absurd known initial_unknown
  alone held := absurd (.inr (.inl held)) initial_unknown

/-- In every run each session has a handshake, and each attempt led to at most one
of the sessions that are left. -/
theorem run_homed {events : List (Time × TransportEvent)}
    (meets : Meets (step settings) (fun _ => Hears heard) initial events)
    (completed : run (step settings) initial events = some final) :
    Tracked False final ∧ ∃ origins, Homed settings heard origins final :=
  run_invariant (fun state => Tracked False state ∧ ∃ origins, Homed settings heard origins state)
    (fun _ _ _ ⟨tracked, _, homed⟩ hearing stepped => ⟨step_tracked tracked (fun impossible => impossible.elim) stepped,
      _, step_homed tracked.filed homed hearing stepped⟩)
    ⟨initial_tracked, fun _ => default, initial_homed⟩ meets completed

/-! ## The established session -/

/-- The event is no READY for another session of the peer, no GOODBYE of the
session, and no timeout of a session with its id. -/
def Undisturbed (settings : Settings) (session : Session) (transport : UdpTransport) : Time × TransportEvent → Prop
  | (_, .datagramReceived (.authenticated header tag) route) =>
      hears settings route = true → ∀ other ∈ authenticates settings transport header tag route,
        (header.type = .ready → other.peerId = session.peerId → other = session) ∧
          (header.type = .goodbye → other ≠ session)
  | (_, .maintenance _) =>
      match transport.maintenance with
      | .active at_ (visited :: _) => transport.Expires at_ visited → visited.sessionId ≠ session.sessionId
      | .retiring at_ ((visited, expiresAt) :: _) => at_ ≥ expiresAt → visited.sessionId ≠ session.sessionId
      | _ => True
  | _ => True

instance Undisturbed.decidable (settings : Settings) (session : Session) (transport : UdpTransport) (event : Time × TransportEvent) :
    Decidable (Undisturbed settings session transport event) := by
  unfold Undisturbed
  split
  · exact inferInstance
  · split <;> exact inferInstance
  · exact inferInstance

theorem Undisturbed.timesOut {event : Time × TransportEvent} (undisturbed : Undisturbed settings session transport event)
    (out : TimesOut transport event other) : other.sessionId ≠ session.sessionId := by
  cases out with
  | active visited expired =>
      simp only [Undisturbed, visited] at undisturbed
      exact undisturbed expired
  | retiring visited expired =>
      simp only [Undisturbed, visited] at undisturbed
      exact undisturbed expired

/-- The session is the active one of its peer and has proved key possession. -/
def ConfirmedActive (transport : UdpTransport) (session : Session) : Prop :=
  transport.HeldActive session ∧ transport.confirmed session = true

theorem ConfirmedActive.stays {event : Time × TransportEvent} (held : transport.ConfirmedActive session)
    (undisturbed : Undisturbed settings session transport event) : ¬ Ends settings transport event session := by
  intro ended
  cases ended with
  | unconfirmed unconfirmed => exact nomatch held.2.symm.trans unconfirmed.2
  | goodbye heard typed authentic => exact (undisturbed heard _ authentic).2 typed rfl
  | timedOut out => exact undisturbed.timesOut out rfl

theorem step_confirmedActive {event : Time × TransportEvent} (filed : transport.Filed)
    (held : transport.ConfirmedActive session) (undisturbed : Undisturbed settings session transport event)
    (stepped : step settings transport event = some next) : next.ConfirmedActive session := by
  obtain ⟨active, confirmed⟩ := held
  rcases step_shape filed stepped with sheds | adds | confirms
  · exact ⟨sheds.active active (ConfirmedActive.stays ⟨active, confirmed⟩ undisturbed),
      (sheds.within.confirmed session).trans confirmed⟩
  · obtain ⟨now, event⟩ := event
    unfold AddsSession at adds
    split at adds
    · rename_i clock received route same
      obtain ⟨rfl, rfl⟩ := Prod.mk.inj same
      obtain ⟨-, opening, middle, name, cleared, -, loses, -, agrees⟩ := adds
      have filed := loses.within.filed filed
      have kept : cleared.sessions.get? session.peerId = some session := loses.active active fun ended =>
        nomatch confirmed.symm.trans ended.2
      have still : cleared.confirmed session = true := (loses.within.confirmed session).trans confirmed
      have installed : Installed (newSession settings now cleared.nextSession opening name) cleared _ :=
        SessionTables.installed filed rfl
      have added : Added (newSession settings now cleared.nextSession opening name) cleared _ :=
        SessionTables.added filed rfl
      have apart : session.serial ≠ (newSession settings now cleared.nextSession opening name).serial :=
        Nat.ne_of_lt (filed.serial_known (.inr (.inl kept)))
      constructor
      · rw [HeldActive, agrees.sessions]
        by_cases peer : session.peerId = (newSession settings now cleared.nextSession opening name).peerId
        · rw [(installed.established (peer ▸ ⟨session, kept, still⟩)).1]
          exact kept
        · rw [(installed.elsewhere peer).1]
          exact kept
      · rw [agrees.confirmed, added.confirmed, if_neg apart]
        exact still
    · contradiction
  · obtain ⟨now, event⟩ := event
    unfold ConfirmsSession at confirms
    split at confirms
    · rename_i clock header tag route same
      obtain ⟨rfl, rfl⟩ := Prod.mk.inj same
      obtain ⟨heard, ready, promotedSession, middle, authentic, unconfirmed, confirms, loses, -⟩ := confirms
      have elsewhere : session.peerId ≠ promotedSession.peerId := by
        intro peer
        have same := (undisturbed heard _ authentic).1 ready peer.symm
        rw [same, confirmed] at unconfirmed
        contradiction
      refine ⟨loses.active (confirms.elsewhere elsewhere active) id, ?_⟩
      rw [loses.within.confirmed, confirms.promoted.confirmed]
      split
      · rfl
      · exact confirmed
    · contradiction

/-- Two handshakes of this node have one session id only where they are of one
attempt. -/
def DistinctIds (settings : Settings) (heard : Hello → Prop) (drawn : Nat) : Prop :=
  ∀ {one other : Attempt} {first second : Hello} {material again : Bytes}, Drawn settings one → Drawn settings other →
    one.serial < drawn → other.serial < drawn → heard first → heard second →
    materialOf settings one first = some material → materialOf settings other second = some again →
    sessionIdOf settings material = sessionIdOf settings again → one.serial = other.serial

theorem Homed.same_of_id {drawn : Nat} (homed : Homed settings heard origins transport)
    (distinct : DistinctIds settings heard drawn) (bounded : transport.nextAttempt ≤ drawn) (known : transport.Known one)
    (another : transport.Known other) (same : one.sessionId = other.sessionId) : one = other := by
  obtain ⟨first, heardFirst, leadsFirst, -⟩ := homed.origin known
  obtain ⟨second, heardSecond, leadsSecond, -⟩ := homed.origin another
  obtain ⟨_, _, built⟩ := first.built
  obtain ⟨_, _, rebuilt⟩ := second.built
  rw [built, rebuilt] at same
  refine homed.single known another (distinct first.drawn second.drawn (Nat.lt_of_lt_of_le leadsFirst.numbered bounded)
    (Nat.lt_of_lt_of_le leadsSecond.numbered bounded) heardFirst heardSecond first.material second.material ?_)
  rw [← first.sessionId, ← second.sessionId]
  exact same

theorem step_listed {drawn : Nat} {event : Time × TransportEvent} {later : Nat → Opening} (filed : transport.Filed)
    (homed : Homed settings heard origins transport) (homedNext : Homed settings heard later next)
    (distinct : DistinctIds settings heard drawn) (bounded : next.nextAttempt ≤ drawn)
    (held : transport.ConfirmedActive session) (heldNext : next.ConfirmedActive session)
    (undisturbed : Undisturbed settings session transport event)
    (listed : transport.Listed session) (stepped : step settings transport event = some next) : next.Listed session := by
  have before : transport.nextAttempt ≤ drawn := Nat.le_trans (step_renews stepped).nextAttempt bounded
  have known : transport.Known session := .inl listed
  have alone : ∀ other, transport.Unconfirmed other → other.sessionId ≠ session.sessionId := by
    intro other unconfirmed same
    obtain rfl := homed.same_of_id distinct before unconfirmed.1 known same
    exact nomatch held.2.symm.trans unconfirmed.2
  rcases step_shape filed stepped with sheds | adds | confirms
  · refine sheds.listed listed fun ended ends => ?_
    cases ends with
    | unconfirmed unconfirmed => exact alone ended unconfirmed
    | goodbye heard typed authentic =>
        intro same
        have found := (authenticates_some.mp authentic).1
        rw [← filed.listed_key found, same] at found
        cases found.symm.trans listed
        exact (undisturbed heard _ authentic).2 typed rfl
    | timedOut out => exact undisturbed.timesOut out
  · obtain ⟨added, opening, cleared, adds, -⟩ := @AddsSession.adds settings transport next origins event homed.attempts adds stepped
    have kept : cleared.sessionsById.get? session.sessionId = some session := adds.loses.listed listed alone
    have installed := adds.installed filed
    have fresh : added.sessionId ≠ session.sessionId := by
      intro same
      have new : next.Known added := by
        refine adds.agrees.known.mpr ?_
        by_cases established : cleared.Established added.peerId
        · exact .inr (.inr (.inl (installed.established established).2.1))
        · exact .inr (.inl (installed.vacant established).1)
      obtain rfl := homedNext.same_of_id distinct bounded new (.inr (.inl heldNext.1)) same
      have older := (adds.loses.within.filed filed).serial_known (.inl kept)
      rw [adds.numbered] at older
      exact Nat.lt_irrefl _ older
    rw [Listed, adds.agrees.sessionsById]
    refine installed.listed kept fresh fun stale pending => alone stale ⟨?_, ?_⟩
    · obtain ⟨peer, onRoute⟩ := filed.pending_key (adds.loses.within.pending pending)
      refine .inr (.inr (.inl ?_))
      rw [HeldPending, peer, onRoute]
      exact adds.loses.within.pending pending
    · obtain ⟨peer, onRoute⟩ := filed.pending_key (adds.loses.within.pending pending)
      refine filed.pending_unconfirmed ?_
      rw [HeldPending, peer, onRoute]
      exact adds.loses.within.pending pending
  · obtain ⟨now, event⟩ := event
    unfold ConfirmsSession at confirms
    split at confirms
    · obtain ⟨-, -, promotedSession, middle, -, -, confirms, loses, -⟩ := confirms
      exact loses.listed (confirms.listed listed alone) fun _ impossible => impossible.elim
    · contradiction

theorem run_displacement {events : List (Time × TransportEvent)} (tracked : Tracked False start)
    (homed : Homed settings heard origins start) (hearing : ∀ event ∈ events, Hears heard event)
    (held : start.ConfirmedActive session)
    (undisturbed : Meets (step settings) (Undisturbed settings session) start events)
    (completed : run (step settings) start events = some final) :
    start.nextAttempt ≤ final.nextAttempt ∧ final.ConfirmedActive session ∧
      (DistinctIds settings heard final.nextAttempt → start.Listed session → final.Listed session) := by
  induction events generalizing start origins with
  | nil =>
      cases completed
      exact ⟨Nat.le_refl _, held, fun _ => id⟩
  | cons event rest ih =>
      obtain ⟨next, stepped, remaining⟩ := run_cons_some completed
      have homedNext := step_homed tracked.filed homed (hearing event (List.mem_cons_self ..)) stepped
      have heldNext := step_confirmedActive tracked.filed held undisturbed.1 stepped
      obtain ⟨later, stays, listed⟩ := ih (step_tracked tracked (fun impossible => impossible.elim) stepped) homedNext
        (fun other member => hearing other (List.mem_cons_of_mem _ member)) heldNext (undisturbed.2 next stepped) remaining
      refine ⟨Nat.le_trans (step_renews stepped).nextAttempt later, stays, fun distinct before => listed distinct ?_⟩
      exact step_listed tracked.filed homed homedNext distinct later held heldNext undisturbed.1 before stepped

/-- The HELLOs among the events. -/
def HeardIn (events : List (Time × TransportEvent)) (hello : Hello) : Prop :=
  ∃ now route, (now, .datagramReceived (.hello hello) route) ∈ events

theorem heardIn (events : List (Time × TransportEvent)) : ∀ event ∈ events, Hears (HeardIn events) event := by
  intro event member
  unfold Hears
  split
  · exact ⟨_, _, member⟩
  · trivial

def established : List (Time × TransportEvent) :=
  [(0, .datagramReceived (.hello sampleHello) homeRoute), (0, control .ready),
    (1, .sendPacket 7 "b0" longPacket 5 fun _ => [])]

/-- A replacement handshake, the old HELLO again, a READY that does not verify,
and the ticks that drop the replacement. -/
def besieged : List (Time × TransportEvent) :=
  [(2, .datagramReceived (.hello { sampleHello with nonce := List.replicate 32 9 }) homeRoute),
    (3, .datagramReceived (.hello sampleHello) homeRoute),
    (4, .datagramReceived (.authenticated { type := .ready, sessionId := List.replicate 8 1, token := 0 } [1]) homeRoute),
    (9, control .pong), (13, .maintenance 0), (13, .maintenance 0), (13, .maintenance 0), (13, .maintenance 0)]

end UdpTransport

end MeshTalk.Udp
