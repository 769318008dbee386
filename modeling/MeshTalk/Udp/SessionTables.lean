import MeshTalk.Udp.Maintenance

namespace MeshTalk.Udp

open MeshTalk.Library MeshTalk.Protocol

/-! # The session maps and what keeps them consistent -/

namespace SessionTables

variable {tables first second : SessionTables} {session other active : Session} {peerId peer : PeerId}
  {route path : Route} {sessionId : SessionId} {now : Time}

/-! ## The maps after each primitive operation -/

@[simp, grind =] theorem popPending_sessions : (tables.popPending peerId route).sessions = tables.sessions := by
  unfold popPending; split <;> rfl

@[simp, grind =] theorem popPending_retiringSessions :
    (tables.popPending peerId route).retiringSessions = tables.retiringSessions := by
  unfold popPending; split <;> rfl

@[simp, grind =] theorem popPending_sessionsById :
    (tables.popPending peerId route).sessionsById = tables.sessionsById := by
  unfold popPending; split <;> rfl

@[simp, grind =] theorem popPending_status : (tables.popPending peerId route).status = tables.status := by
  unfold popPending; split <;> rfl

@[simp, grind =] theorem popPending_nextSession :
    (tables.popPending peerId route).nextSession = tables.nextSession := by
  unfold popPending; split <;> rfl

@[simp, grind =] theorem popPending_pendingOf :
    ((tables.popPending peerId route).pendingOf peer).get? path =
      if peer = peerId ∧ path = route then none else (tables.pendingOf peer).get? path := by
  unfold popPending
  split
  · simp only [pendingOf]
    grind
  · rename_i pending held
    simp only [pendingOf]
    by_cases emptied : (pending.erase route).size = 0
    · have gone := Dict.size_eq_zero_iff.mp emptied path
      grind
    · grind

theorem pendingOf_congr (same : second.pendingSessions = first.pendingSessions) :
    second.pendingOf peer = first.pendingOf peer := by
  simp only [pendingOf, same]

@[simp, grind =] theorem remove_sessions :
    (tables.remove session).sessions.get? peer =
      if peer = session.peerId ∧ tables.sessions.get? peer = some session then none
      else tables.sessions.get? peer := by
  simp only [remove, unretire, unpend]
  split <;> simp only [popPending_sessions, unlist, deactivate] <;> grind

@[simp, grind =] theorem remove_sessionsById :
    (tables.remove session).sessionsById = tables.sessionsById.erase session.sessionId := by
  simp only [remove, unretire, unpend]
  split
  · rw [popPending_sessionsById]; rfl
  · rfl

@[simp, grind =] theorem remove_retiringSessions :
    (tables.remove session).retiringSessions = tables.retiringSessions.erase session.sessionId := by
  simp only [remove, unretire, unpend]
  split
  · rw [popPending_retiringSessions]; rfl
  · rfl

@[simp, grind =] theorem remove_status : (tables.remove session).status = tables.status := by
  simp only [remove, unretire, unpend]
  split
  · rw [popPending_status]; rfl
  · rfl

@[simp, grind =] theorem remove_nextSession : (tables.remove session).nextSession = tables.nextSession := by
  simp only [remove, unretire, unpend]
  split
  · rw [popPending_nextSession]; rfl
  · rfl

@[simp, grind =] theorem remove_statusOf : (tables.remove session).statusOf other = tables.statusOf other := by
  simp only [statusOf, remove_status]

@[simp, grind =] theorem remove_pendingOf :
    ((tables.remove session).pendingOf peer).get? path =
      if peer = session.peerId ∧ path = session.route ∧ (tables.pendingOf peer).get? path = some session then none
      else (tables.pendingOf peer).get? path := by
  have unlisted : ∀ peer, ((tables.deactivate session).unlist session).pendingOf peer = tables.pendingOf peer :=
    fun peer => pendingOf_congr rfl
  have unretired : (tables.remove session).pendingOf peer =
      (((tables.deactivate session).unlist session).unpend session).pendingOf peer := pendingOf_congr rfl
  rw [unretired, unpend]
  split
  · rename_i held
    rw [unlisted] at held
    rw [popPending_pendingOf, unlisted]
    grind
  · rename_i held
    rw [unlisted] at held ⊢
    grind

@[simp, grind =] theorem addPending_pendingOf :
    ((tables.addPending session).pendingOf peer).get? path =
      if peer = session.peerId ∧ path = session.route then some session
      else (tables.pendingOf peer).get? path := by
  simp only [addPending, pendingOf]
  grind

@[grind =] theorem confirmed_eq : tables.confirmed session = (tables.statusOf session).confirmed := rfl

/-! ## The invariants -/

/-- Where a session is held for its peer. -/
def HeldActive (tables : SessionTables) (session : Session) : Prop :=
  tables.sessions.get? session.peerId = some session

def HeldPending (tables : SessionTables) (session : Session) : Prop :=
  (tables.pendingOf session.peerId).get? session.route = some session

def HeldRetiring (tables : SessionTables) (session : Session) : Prop :=
  ∃ expiresAt, tables.retiringSessions.get? session.sessionId = some (session, expiresAt)

def Listed (tables : SessionTables) (session : Session) : Prop :=
  tables.sessionsById.get? session.sessionId = some session

def Known (tables : SessionTables) (session : Session) : Prop :=
  tables.Listed session ∨ tables.HeldActive session ∨ tables.HeldPending session ∨ tables.HeldRetiring session

/-- What holds of the maps in every state: each files a session under its own
key, the active map is disjoint from the other two, and of these only
unconfirmed sessions are pending and only confirmed ones retire. -/
structure Filed (tables : SessionTables) : Prop where
  listed_key : ∀ {sessionId session}, tables.sessionsById.get? sessionId = some session →
    session.sessionId = sessionId
  active_key : ∀ {peerId session}, tables.sessions.get? peerId = some session → session.peerId = peerId
  pending_key : ∀ {peerId route session}, (tables.pendingOf peerId).get? route = some session →
    session.peerId = peerId ∧ session.route = route
  retiring_key : ∀ {sessionId session expiresAt},
    tables.retiringSessions.get? sessionId = some (session, expiresAt) → session.sessionId = sessionId
  active_not_pending : ∀ {session}, tables.HeldActive session → ¬ tables.HeldPending session
  active_not_retiring : ∀ {session}, tables.HeldActive session → ¬ tables.HeldRetiring session
  pending_unconfirmed : ∀ {session}, tables.HeldPending session → tables.confirmed session = false
  retiring_confirmed : ∀ {session}, tables.HeldRetiring session → tables.confirmed session = true
  serial_unique : ∀ {session other}, tables.Known session → tables.Known other →
    session.serial = other.serial → session = other
  serial_known : ∀ {session}, tables.Known session → session.serial < tables.nextSession

/-- The id map lists exactly the sessions that are held. -/
structure Indexed (tables : SessionTables) : Prop where
  held : ∀ {session}, tables.Listed session →
    tables.HeldActive session ∨ tables.HeldPending session ∨ tables.HeldRetiring session
  active_listed : ∀ {session}, tables.HeldActive session → tables.Listed session
  pending_listed : ∀ {session}, tables.HeldPending session → tables.Listed session
  retiring_listed : ∀ {session}, tables.HeldRetiring session → tables.Listed session

/-- Everything the invariant looks at is the same, up to new session objects. -/
structure Agrees (first second : SessionTables) : Prop where
  sessions : second.sessions = first.sessions
  pendingSessions : second.pendingSessions = first.pendingSessions
  retiringSessions : second.retiringSessions = first.retiringSessions
  sessionsById : second.sessionsById = first.sessionsById
  confirmed : ∀ session, second.confirmed session = first.confirmed session
  connectedNotified : ∀ session, (second.statusOf session).connectedNotified = (first.statusOf session).connectedNotified
  nextSession : second.nextSession = first.nextSession

theorem Agrees.refl : Agrees tables tables := ⟨rfl, rfl, rfl, rfl, fun _ => rfl, fun _ => rfl, rfl⟩

theorem Agrees.trans {third : SessionTables} (left : Agrees first second) (right : Agrees second third) :
    Agrees first third where
  sessions := right.sessions.trans left.sessions
  pendingSessions := right.pendingSessions.trans left.pendingSessions
  retiringSessions := right.retiringSessions.trans left.retiringSessions
  sessionsById := right.sessionsById.trans left.sessionsById
  confirmed session := (right.confirmed session).trans (left.confirmed session)
  connectedNotified session := (right.connectedNotified session).trans (left.connectedNotified session)
  nextSession := right.nextSession.trans left.nextSession

theorem Agrees.pendingOf (agrees : Agrees first second) : second.pendingOf peer = first.pendingOf peer :=
  pendingOf_congr agrees.pendingSessions

theorem Agrees.indexed (agrees : Agrees first second) (indexed : Indexed first) : Indexed second := by
  have pendingOf : second.pendingOf = first.pendingOf := funext fun _ => agrees.pendingOf
  obtain ⟨sessions, -, retiringSessions, sessionsById, -, -, -⟩ := agrees
  constructor <;> simp only [HeldActive, HeldPending, HeldRetiring, Listed, sessions, pendingOf,
    retiringSessions, sessionsById]
  · exact indexed.held
  · exact indexed.active_listed
  · exact indexed.pending_listed
  · exact indexed.retiring_listed

theorem Filed.heldActive (filed : Filed tables) (active : tables.sessions.get? peerId = some session) :
    tables.HeldActive session := by
  unfold HeldActive
  rwa [filed.active_key active]

/-- A session may be removed unless another object is listed under its id. -/
def Unaliased (tables : SessionTables) (session : Session) : Prop :=
  ∀ listed, tables.sessionsById.get? session.sessionId = some listed → listed = session

/-- Every entry of `second` is one of `first`. -/
structure Within (second first : SessionTables) : Prop where
  listed : ∀ {sessionId session}, second.sessionsById.get? sessionId = some session →
    first.sessionsById.get? sessionId = some session
  active : ∀ {peerId session}, second.sessions.get? peerId = some session →
    first.sessions.get? peerId = some session
  pending : ∀ {peerId route session}, (second.pendingOf peerId).get? route = some session →
    (first.pendingOf peerId).get? route = some session
  retiring : ∀ {sessionId entry}, second.retiringSessions.get? sessionId = some entry →
    first.retiringSessions.get? sessionId = some entry
  confirmed : ∀ session, second.confirmed session = first.confirmed session
  nextSession : second.nextSession = first.nextSession

theorem Within.known (within : Within second first) (known : second.Known session) : first.Known session := by
  rcases known with listed | active | pending | ⟨expiresAt, retiring⟩
  · exact .inl (within.listed listed)
  · exact .inr (.inl (within.active active))
  · exact .inr (.inr (.inl (within.pending pending)))
  · exact .inr (.inr (.inr ⟨expiresAt, within.retiring retiring⟩))

theorem Within.filed (within : Within second first) (filed : Filed first) : Filed second where
  listed_key listed := filed.listed_key (within.listed listed)
  active_key active := filed.active_key (within.active active)
  pending_key pending := filed.pending_key (within.pending pending)
  retiring_key retiring := filed.retiring_key (within.retiring retiring)
  active_not_pending active pending := filed.active_not_pending (within.active active) (within.pending pending)
  active_not_retiring active retiring :=
    filed.active_not_retiring (within.active active) (retiring.imp fun _ => within.retiring)
  pending_unconfirmed pending := (within.confirmed _).trans (filed.pending_unconfirmed (within.pending pending))
  retiring_confirmed retiring :=
    (within.confirmed _).trans (filed.retiring_confirmed (retiring.imp fun _ => within.retiring))
  serial_unique known other := filed.serial_unique (within.known known) (within.known other)
  serial_known known := within.nextSession ▸ filed.serial_known (within.known known)

theorem Agrees.within (agrees : Agrees first second) : Within second first where
  listed listed := agrees.sessionsById ▸ listed
  active active := agrees.sessions ▸ active
  pending pending := by rwa [pendingOf_congr agrees.pendingSessions] at pending
  retiring retiring := agrees.retiringSessions ▸ retiring
  confirmed := agrees.confirmed
  nextSession := agrees.nextSession

theorem remove_within : Within (tables.remove session) tables where
  listed := by grind
  active := by grind
  pending := by grind
  retiring := by grind
  confirmed other := by simp only [confirmed, remove_statusOf]
  nextSession := remove_nextSession

theorem Indexed.remove (filed : Filed tables) (indexed : Indexed tables) (unaliased : tables.Unaliased session) :
    Indexed (tables.remove session) := by
  obtain ⟨listed_key, active_key, pending_key, retiring_key, -, -, -, -, -, -⟩ := filed
  obtain ⟨held, active_listed, pending_listed, retiring_listed⟩ := indexed
  unfold Unaliased at unaliased
  constructor <;> simp only [HeldActive, HeldPending, HeldRetiring, Listed] at *
  all_goals grind

@[simp, grind =] theorem activate_pendingOf :
    ((tables.activate session).pendingOf peer).get? path =
      if peer = session.peerId ∧ path = session.route then none else (tables.pendingOf peer).get? path := by
  rw [activate, popPending_pendingOf]
  rfl

@[simp, grind =] theorem activate_sessions :
    (tables.activate session).sessions = tables.sessions.set session.peerId session := popPending_sessions

@[simp, grind =] theorem activate_retiringSessions :
    (tables.activate session).retiringSessions = tables.retiringSessions := popPending_retiringSessions

@[simp, grind =] theorem activate_sessionsById :
    (tables.activate session).sessionsById = tables.sessionsById := popPending_sessionsById

@[simp, grind =] theorem activate_status : (tables.activate session).status = tables.status := popPending_status

@[simp, grind =] theorem activate_nextSession : (tables.activate session).nextSession = tables.nextSession :=
  popPending_nextSession

@[simp, grind =] theorem activate_statusOf : (tables.activate session).statusOf other = tables.statusOf other := by
  simp only [statusOf, activate_status]

@[grind =] theorem setStatus_statusOf {status : SessionStatus} :
    (tables.setStatus session status).statusOf other =
      if other.serial = session.serial then status else tables.statusOf other := by
  simp only [setStatus, statusOf, Function.update_apply]

@[grind =] theorem setStatus_sessions {status : SessionStatus} :
    (tables.setStatus session status).sessions = tables.sessions := rfl
@[grind =] theorem setStatus_pendingOf {status : SessionStatus} :
    (tables.setStatus session status).pendingOf peer = tables.pendingOf peer := rfl
@[grind =] theorem setStatus_retiringSessions {status : SessionStatus} :
    (tables.setStatus session status).retiringSessions = tables.retiringSessions := rfl
@[grind =] theorem setStatus_sessionsById {status : SessionStatus} :
    (tables.setStatus session status).sessionsById = tables.sessionsById := rfl
@[grind =] theorem setStatus_nextSession {status : SessionStatus} :
    (tables.setStatus session status).nextSession = tables.nextSession := rfl

@[grind =] theorem retire_sessions : (tables.retire active now).sessions = tables.sessions := rfl
@[grind =] theorem retire_pendingOf : (tables.retire active now).pendingOf peer = tables.pendingOf peer := rfl
@[grind =] theorem retire_retiringSessions : (tables.retire active now).retiringSessions =
    tables.retiringSessions.set active.sessionId (active, now + sessionTimeout) := rfl
@[grind =] theorem retire_sessionsById : (tables.retire active now).sessionsById = tables.sessionsById := rfl
@[grind =] theorem retire_nextSession : (tables.retire active now).nextSession = tables.nextSession := rfl
@[grind =] theorem retire_statusOf : (tables.retire active now).statusOf other = tables.statusOf other := rfl

/-- What the first READY of a listed session leaves in the maps. -/
structure Promoted (session : Session) (first second : SessionTables) : Prop where
  listed : ∀ {sessionId other}, second.sessionsById.get? sessionId = some other →
    first.sessionsById.get? sessionId = some other
  active : ∀ {peerId other}, second.sessions.get? peerId = some other →
    (peerId = session.peerId ∧ other = session) ∨
      (peerId ≠ session.peerId ∧ first.sessions.get? peerId = some other)
  pending : ∀ {peerId route other}, (second.pendingOf peerId).get? route = some other →
    (first.pendingOf peerId).get? route = some other ∧ other ≠ session
  retiring : ∀ {sessionId other expiresAt}, second.retiringSessions.get? sessionId = some (other, expiresAt) →
    first.retiringSessions.get? sessionId = some (other, expiresAt) ∨
      (sessionId = other.sessionId ∧ other ≠ session ∧ first.confirmed other = true ∧
        first.sessions.get? session.peerId = some other)
  confirmed : ∀ other, second.confirmed other =
    if other.serial = session.serial then true else first.confirmed other
  nextSession : second.nextSession = first.nextSession

theorem promoted {status : SessionStatus} (filed : Filed tables) (listed : tables.Listed session)
    (confirming : status.confirmed = true) :
    Promoted session tables ((tables.setStatus session status).promote session now) := by
  have pending_key := @filed.pending_key
  have own := @filed.active_not_pending session
  simp only [HeldActive, HeldPending] at own
  unfold SessionTables.promote
  split
  · constructor
    all_goals grind
  · unfold vacate
    split
    · constructor
      all_goals grind
    · rename_i active occupied
      have apart : active.serial = session.serial → active = session :=
        filed.serial_unique (.inr (.inl (filed.heldActive occupied))) (.inl listed)
      split
      · constructor
        all_goals grind
      · constructor
        all_goals grind

theorem Promoted.known (promoted : Promoted session first second) (filed : Filed first)
    (listed : first.Listed session) (known : second.Known other) : first.Known other := by
  rcases known with found | active | pending | ⟨expiresAt, retiring⟩
  · exact .inl (promoted.listed found)
  · rcases promoted.active active with ⟨-, rfl⟩ | ⟨-, active⟩
    · exact .inl listed
    · exact .inr (.inl active)
  · exact .inr (.inr (.inl (promoted.pending pending).1))
  · rcases promoted.retiring retiring with retiring | ⟨-, -, -, active⟩
    · exact .inr (.inr (.inr ⟨expiresAt, retiring⟩))
    · exact .inr (.inl (filed.heldActive active))

theorem Promoted.filed (promoted : Promoted session first second) (filed : Filed first)
    (listed : first.Listed session) (unconfirmed : first.confirmed session = false) : Filed second := by
  have known : ∀ {other}, second.Known other → first.Known other := promoted.known filed listed
  have serial : ∀ {other}, first.Known other → other ≠ session → other.serial ≠ session.serial :=
    fun known different same => different (filed.serial_unique known (.inl listed) same)
  constructor
  · exact fun found => filed.listed_key (promoted.listed found)
  · intro peerId other active
    rcases promoted.active active with ⟨rfl, rfl⟩ | ⟨-, active⟩
    · rfl
    · exact filed.active_key active
  · exact fun pending => filed.pending_key (promoted.pending pending).1
  · intro sessionId other expiresAt retiring
    rcases promoted.retiring retiring with retiring | ⟨rfl, -⟩
    · exact filed.retiring_key retiring
    · rfl
  · intro other active pending
    obtain ⟨pending, different⟩ := promoted.pending pending
    rcases promoted.active active with ⟨-, rfl⟩ | ⟨-, active⟩
    · exact different rfl
    · exact filed.active_not_pending active pending
  · rintro other active ⟨expiresAt, retiring⟩
    rcases promoted.retiring retiring with retiring | ⟨-, different, -, replaced⟩
    · rcases promoted.active active with ⟨-, rfl⟩ | ⟨-, active⟩
      · have confirmed := filed.retiring_confirmed ⟨expiresAt, retiring⟩
        rw [unconfirmed] at confirmed
        contradiction
      · exact filed.active_not_retiring active ⟨expiresAt, retiring⟩
    · rcases promoted.active active with ⟨-, rfl⟩ | ⟨elsewhere, -⟩
      · exact different rfl
      · exact elsewhere (filed.active_key replaced)
  · intro other pending
    obtain ⟨pending, different⟩ := promoted.pending pending
    rw [promoted.confirmed, if_neg (serial (.inr (.inr (.inl pending))) different)]
    exact filed.pending_unconfirmed pending
  · rintro other ⟨expiresAt, retiring⟩
    rw [promoted.confirmed]
    split
    · rfl
    · rcases promoted.retiring retiring with retiring | ⟨-, -, confirmed, -⟩
      · exact filed.retiring_confirmed ⟨expiresAt, retiring⟩
      · exact confirmed
  · exact fun first second => filed.serial_unique (known first) (known second)
  · exact fun found => promoted.nextSession ▸ filed.serial_known (known found)

theorem Indexed.promote {status : SessionStatus} (filed : Filed tables) (indexed : Indexed tables)
    (listed : tables.Listed session) (unconfirmed : tables.confirmed session = false) :
    Indexed ((tables.setStatus session status).promote session now) := by
  have here := indexed.held listed
  obtain ⟨listed_key, active_key, pending_key, retiring_key, active_not_pending, active_not_retiring,
    -, retiring_confirmed, -, -⟩ := filed
  obtain ⟨held, active_listed, pending_listed, retiring_listed⟩ := indexed
  unfold SessionTables.promote
  split
  · constructor <;> simp only [HeldActive, HeldPending, HeldRetiring, Listed, confirmed] at *
    all_goals grind
  · unfold vacate
    split
    · constructor <;> simp only [HeldActive, HeldPending, HeldRetiring, Listed, confirmed] at *
      all_goals grind
    · rename_i active occupied
      have replaced : active ≠ session := by grind
      split
      · have retired : (((tables.setStatus session status).retire active now).activate session).retiringSessions.get?
            active.sessionId = some (active, now + sessionTimeout) := by grind
        constructor <;> simp only [HeldActive, HeldPending, HeldRetiring, Listed, confirmed] at *
        all_goals grind
      · constructor <;> simp only [HeldActive, HeldPending, HeldRetiring, Listed, confirmed] at *
        all_goals grind

@[grind =] theorem create_sessions : (tables.create session).sessions = tables.sessions := rfl
@[grind =] theorem create_pendingOf : (tables.create session).pendingOf peer = tables.pendingOf peer := rfl
@[grind =] theorem create_retiringSessions : (tables.create session).retiringSessions = tables.retiringSessions := rfl
@[grind =] theorem create_sessionsById : (tables.create session).sessionsById = tables.sessionsById := rfl
@[grind =] theorem create_nextSession : (tables.create session).nextSession = tables.nextSession + 1 := rfl
@[grind =] theorem create_statusOf : (tables.create session).statusOf other =
    if other.serial = session.serial then .fresh session.createdAt else tables.statusOf other := by
  simp only [create, statusOf, Function.update_apply]

@[grind =] theorem list_sessions : (tables.list session).sessions = tables.sessions := rfl
@[grind =] theorem list_pendingOf : (tables.list session).pendingOf peer = tables.pendingOf peer := rfl
@[grind =] theorem list_retiringSessions : (tables.list session).retiringSessions = tables.retiringSessions := rfl
@[grind =] theorem list_sessionsById : (tables.list session).sessionsById =
    tables.sessionsById.set session.sessionId session := rfl
@[grind =] theorem list_nextSession : (tables.list session).nextSession = tables.nextSession := rfl
@[grind =] theorem list_statusOf : (tables.list session).statusOf other = tables.statusOf other := rfl

@[grind =] theorem addActive_sessions : (tables.addActive session).sessions =
    tables.sessions.set session.peerId session := rfl
@[grind =] theorem addActive_pendingOf : (tables.addActive session).pendingOf peer = tables.pendingOf peer := rfl
@[grind =] theorem addActive_retiringSessions :
    (tables.addActive session).retiringSessions = tables.retiringSessions := rfl
@[grind =] theorem addActive_sessionsById : (tables.addActive session).sessionsById = tables.sessionsById := rfl
@[grind =] theorem addActive_nextSession : (tables.addActive session).nextSession = tables.nextSession := rfl
@[grind =] theorem addActive_statusOf : (tables.addActive session).statusOf other = tables.statusOf other := rfl

@[grind =] theorem addPending_sessions : (tables.addPending session).sessions = tables.sessions := rfl
@[grind =] theorem addPending_retiringSessions :
    (tables.addPending session).retiringSessions = tables.retiringSessions := rfl
@[grind =] theorem addPending_sessionsById : (tables.addPending session).sessionsById = tables.sessionsById := rfl
@[grind =] theorem addPending_nextSession : (tables.addPending session).nextSession = tables.nextSession := rfl
@[grind =] theorem addPending_statusOf : (tables.addPending session).statusOf other = tables.statusOf other := rfl

theorem confirmedActive_isSome : (tables.confirmedActive peerId).isSome ↔
    ∃ active, tables.sessions.get? peerId = some active ∧ tables.confirmed active = true := by
  unfold confirmedActive
  cases tables.sessions.get? peerId with
  | none => simp
  | some active => simp [Option.filter]

/-- What a new session leaves in the maps. -/
structure Added (session : Session) (first second : SessionTables) : Prop where
  listed : ∀ {sessionId other}, second.sessionsById.get? sessionId = some other →
    (sessionId = session.sessionId ∧ other = session) ∨ first.sessionsById.get? sessionId = some other
  active : ∀ {peerId other}, second.sessions.get? peerId = some other →
    (peerId = session.peerId ∧ other = session ∧
      ∀ replaced, first.sessions.get? peerId = some replaced → first.confirmed replaced = false) ∨
      first.sessions.get? peerId = some other
  pending : ∀ {peerId route other}, (second.pendingOf peerId).get? route = some other →
    (peerId = session.peerId ∧ route = session.route ∧ other = session ∧
      ∃ established, first.sessions.get? peerId = some established ∧ first.confirmed established = true) ∨
      (first.pendingOf peerId).get? route = some other
  retiring : ∀ {sessionId entry}, second.retiringSessions.get? sessionId = some entry →
    first.retiringSessions.get? sessionId = some entry
  confirmed : ∀ other, second.confirmed other =
    if other.serial = session.serial then false else first.confirmed other
  nextSession : second.nextSession = first.nextSession + 1

theorem added (filed : Filed tables) (numbered : session.serial = tables.nextSession) :
    Added session tables (tables.add session) := by
  have older : ∀ {peerId active}, tables.sessions.get? peerId = some active → active.serial ≠ session.serial := by
    intro peerId active found
    have known := filed.serial_known (.inr (.inl (filed.heldActive found)))
    omega
  have active_key := @filed.active_key
  simp only [add]
  split
  · rename_i established
    obtain ⟨active, found, confirmed⟩ := confirmedActive_isSome.mp established
    have older := @older session.peerId active
    unfold replacePending
    split
    · have unconfirmed : tables.confirmed active = true := by grind
      constructor
      all_goals grind [SessionStatus.fresh]
    · constructor
      all_goals grind [SessionStatus.fresh]
  · rename_i unestablished
    rw [confirmedActive_isSome] at unestablished
    constructor
    all_goals grind [SessionStatus.fresh]

theorem Added.known (added : Added session first second) (known : second.Known other) :
    other = session ∨ first.Known other := by
  rcases known with found | active | pending | ⟨expiresAt, retiring⟩
  · exact (added.listed found).imp (·.2) .inl
  · exact (added.active active).imp (·.2.1) fun active => .inr (.inl active)
  · exact (added.pending pending).imp (·.2.2.1) fun pending => .inr (.inr (.inl pending))
  · exact .inr (.inr (.inr (.inr ⟨expiresAt, added.retiring retiring⟩)))

theorem Added.filed (added : Added session first second) (filed : Filed first)
    (numbered : session.serial = first.nextSession) : Filed second := by
  have known : ∀ {other}, second.Known other → other = session ∨ first.Known other := added.known
  have older : ∀ {other}, first.Known other → other.serial ≠ session.serial := by
    intro other known
    have := filed.serial_known known
    omega
  constructor
  · intro sessionId other found
    rcases added.listed found with ⟨rfl, rfl⟩ | found
    · rfl
    · exact filed.listed_key found
  · intro peerId other active
    rcases added.active active with ⟨rfl, rfl, -⟩ | active
    · rfl
    · exact filed.active_key active
  · intro peerId route other pending
    rcases added.pending pending with ⟨rfl, rfl, rfl, -⟩ | pending
    · exact ⟨rfl, rfl⟩
    · exact filed.pending_key pending
  · exact fun retiring => filed.retiring_key (added.retiring retiring)
  · intro other active pending
    rcases added.active active with ⟨-, rfl, replaced⟩ | active
    · rcases added.pending pending with ⟨-, -, -, established, found, confirmed⟩ | pending
      · have unconfirmed := replaced established found
        rw [confirmed] at unconfirmed
        contradiction
      · exact older (.inr (.inr (.inl pending))) rfl
    · rcases added.pending pending with ⟨-, -, rfl, -⟩ | pending
      · exact older (.inr (.inl active)) rfl
      · exact filed.active_not_pending active pending
  · rintro other active ⟨expiresAt, retiring⟩
    have retiring := added.retiring retiring
    rcases added.active active with ⟨-, rfl, -⟩ | active
    · exact older (.inr (.inr (.inr ⟨expiresAt, retiring⟩))) rfl
    · exact filed.active_not_retiring active ⟨expiresAt, retiring⟩
  · intro other pending
    rw [added.confirmed]
    split
    · rfl
    · rename_i different
      rcases added.pending pending with ⟨-, -, rfl, -⟩ | pending
      · exact absurd rfl different
      · exact filed.pending_unconfirmed pending
  · rintro other ⟨expiresAt, retiring⟩
    have retiring : first.HeldRetiring other := ⟨expiresAt, added.retiring retiring⟩
    rw [added.confirmed, if_neg (older (.inr (.inr (.inr retiring))))]
    exact filed.retiring_confirmed retiring
  · intro left right leftKnown rightKnown same
    rcases known leftKnown with rfl | leftKnown <;> rcases known rightKnown with rfl | rightKnown
    · rfl
    · exact absurd same.symm (older rightKnown)
    · exact absurd same (older leftKnown)
    · exact filed.serial_unique leftKnown rightKnown same
  · intro other found
    rw [added.nextSession]
    rcases known found with rfl | found
    · omega
    · have := filed.serial_known found
      omega

/-- Nothing but a session that makes way is listed under the id of the new one. -/
def Unclaimed (tables : SessionTables) (peerId : PeerId) (route : Route) (sessionId : SessionId) : Prop :=
  ∀ holder, tables.sessionsById.get? sessionId = some holder →
    (tables.pendingOf peerId).get? route = some holder ∧ (tables.confirmedActive peerId).isSome

theorem Indexed.add (filed : Filed tables) (indexed : Indexed tables)
    (numbered : session.serial = tables.nextSession)
    (established : ∀ active, tables.sessions.get? session.peerId = some active → tables.confirmed active = true)
    (unclaimed : tables.Unclaimed session.peerId session.route session.sessionId) :
    Indexed (tables.add session) := by
  have older : ∀ {peerId active}, tables.sessions.get? peerId = some active → active.serial ≠ session.serial := by
    intro peerId active found
    have known := filed.serial_known (.inr (.inl (filed.heldActive found)))
    omega
  simp only [Unclaimed, confirmedActive_isSome] at unclaimed
  obtain ⟨listed_key, active_key, pending_key, retiring_key, active_not_pending, -, -, -, -, -⟩ := filed
  obtain ⟨held, active_listed, pending_listed, retiring_listed⟩ := indexed
  simp only [SessionTables.add]
  split
  · unfold replacePending
    split
    · constructor <;> simp only [HeldActive, HeldPending, HeldRetiring, Listed] at *
      all_goals grind
    · constructor <;> simp only [HeldActive, HeldPending, HeldRetiring, Listed] at *
      all_goals grind
  · rename_i unestablished
    rw [confirmedActive_isSome] at unestablished
    have vacant : tables.sessions.get? session.peerId = none := by
      cases found : tables.sessions.get? session.peerId with
      | none => rfl
      | some active => exact absurd ⟨active, found, by grind⟩ unestablished
    have unlisted : tables.sessionsById.get? session.sessionId = none := by
      cases found : tables.sessionsById.get? session.sessionId with
      | none => rfl
      | some holder =>
          obtain ⟨-, active, occupied, -⟩ := unclaimed holder found
          simp [vacant] at occupied
    constructor <;> simp only [HeldActive, HeldPending, HeldRetiring, Listed] at *
    all_goals grind

end SessionTables

end MeshTalk.Udp
