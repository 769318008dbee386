import Mathlib.Algebra.Order.Group.Int
import MeshTalk.Control.RateLimits
import MeshTalk.Library.Windows

namespace MeshTalk.Control

open MeshTalk.Library ControlState

/-! # Rate limits over every interval

A client's messages are counted in windows that begin with a message, once for its
connection and once for its address.  A window ends when a message comes a minute after
it began, whatever was accepted just before.
-/

/-! ## Accepted messages -/

inductive MessageKind where
  | control
  | signal
  | peerFetch
deriving Repr, DecidableEq

def MessageType.kind : MessageType → MessageKind
  | .signal => .signal
  | .getPeers => .peerFetch
  | _ => .control

namespace MessageKind

def limit : MessageKind → Nat
  | .control => maxControlMessagesPerMinute
  | .signal => maxSignalsPerMinute
  | .peerFetch => maxPeerFetchesPerMinute

end MessageKind

/-- How many messages of a kind a window holds. -/
def RateLimit.counted (limit : RateLimit) : MessageKind → Nat
  | .control => limit.controlMessagesInWindow
  | .signal => limit.signalsInWindow
  | .peerFetch => limit.peerFetchesInWindow

/-- A message that the limits have let pass. -/
structure Accepted where
  socket : Socket
  ip : Address
  type : MessageType
  now : Int
deriving Repr, DecidableEq

def Accepted.weight (kind : MessageKind) (message : Accepted) : Nat := if message.type.kind = kind then 1 else 0

/-- The message that is charged for, if `checkRateLimit` does not raise. -/
def ControlState.accepts (context : Context) (control : ControlState) (charge : Charge) : Option Accepted :=
  match (checkRateLimit context charge.socket charge.type control).1 with
  | .ok _ => some ⟨charge.socket, (control.data charge.socket).ip, charge.type, context.now⟩
  | .error _ => none

/-- The window of milliseconds that the limits are about. -/
def rateWindow : Int := 60000

/-- A runtime as the limits see it. -/
structure Meter (σ ε : Type) where
  step : Step σ ε
  control : σ → ControlState
  context : ε → Context
  charge : σ → ε → Option Charge

/-- `accepted` and `clock` are auxiliary: the messages accepted so far, and the time of the last event. -/
structure Metered (σ : Type) where
  service : σ
  accepted : List Accepted
  clock : Int

namespace Metered

variable {σ ε : Type}

def start (service : σ) (clock : Int) : Metered σ := ⟨service, [], clock⟩

/-- An event is handled; the clock does not go back. -/
def step (meter : Meter σ ε) : Step (Metered σ) ε := fun state event =>
  if state.clock ≤ (meter.context event).now then
    (meter.step state.service event).map fun next =>
      { service := next
        accepted := state.accepted ++
          ((meter.charge state.service event).bind ((meter.control state.service).accepts (meter.context event))).toList
        clock := (meter.context event).now }
  else none

variable (state : Metered σ)

def acceptedFrom (socket : Socket) : List Accepted := state.accepted.filter fun message => message.socket = socket

def acceptedAt (ip : Address) : List Accepted := state.accepted.filter fun message => message.ip = ip

/-- How many messages of a kind a log has in the minute that begins at `start`. -/
def within (kind : MessageKind) (start : Int) (log : List Accepted) : Nat :=
  windowTotal Accepted.now (Accepted.weight kind) rateWindow start log

/-- The log has nothing younger than a minute. -/
def Paused (now : Int) (log : List Accepted) : Prop := ∀ earlier ∈ log, rateWindow ≤ now - earlier.now

instance {now : Int} {log : List Accepted} : Decidable (Paused now log) := inferInstanceAs (Decidable (∀ _ ∈ log, _))

/-- A charge that begins a new window of its connection, or of its address, has no accepted
message of that connection or address less than a minute before it. -/
def BeginsAfterPause (meter : Meter σ ε) (event : ε) : Prop :=
  ∀ charge ∈ meter.charge state.service event,
    let control := meter.control state.service
    let now := (meter.context event).now
    (¬ (control.data charge.socket).expired now ∨ Paused now (state.acceptedFrom charge.socket)) ∧
      ((∃ limit ∈ control.rateLimitsByIp.get? (control.data charge.socket).ip, ¬ limit.expired now) ∨
        Paused now (state.acceptedAt (control.data charge.socket).ip))

instance {meter : Meter σ ε} {event : ε} : Decidable (state.BeginsAfterPause meter event) :=
  inferInstanceAs (Decidable (∀ charge ∈ meter.charge state.service event, _))

end Metered

/-! ## One window -/

section

variable {limit : RateLimit} {type : MessageType} {kind : MessageKind} {now clock : Int} {log : List Accepted} {message : Accepted}

theorem counted_count : (limit.count type).counted kind = limit.counted kind + if type.kind = kind then 1 else 0 := by
  cases type <;> cases kind <;> rfl

theorem counted_le_limit (fits : ¬ limit.exceeded) : limit.counted kind ≤ kind.limit := by
  rw [RateLimit.exceeded, not_or, not_or, Nat.not_lt, Nat.not_lt, Nat.not_lt] at fits
  cases kind with
  | control => exact fits.2.1
  | signal => exact fits.1
  | peerFetch => exact fits.2.2

/-- A window's books: the messages accepted since it began are counted, and those before
it were at least a minute before it. -/
def Books (limit : RateLimit) (clock : Int) (log : List Accepted) : Prop :=
  ∃ earlier counted, log = earlier ++ counted ∧
    (∀ message ∈ earlier, rateWindow ≤ limit.windowStartedAt - message.now ∧ limit.windowStartedAt ≤ clock) ∧
    ∀ kind, (counted.map (Accepted.weight kind)).sum ≤ limit.counted kind

theorem books_nil : Books limit clock [] :=
  ⟨[], [], rfl, fun _ member => absurd member List.not_mem_nil, fun _ => Nat.zero_le _⟩

theorem Books.later (books : Books limit clock log) (passed : clock ≤ now) : Books limit now log := by
  obtain ⟨earlier, counted, split, old, few⟩ := books
  exact ⟨earlier, counted, split, fun message member => ⟨(old message member).1, (old message member).2.trans passed⟩, few⟩

/-- The window a message is counted in, when a new one begins only after a pause. -/
theorem Books.current (books : Books limit clock log) (passed : clock ≤ now)
    (paused : ¬ limit.expired now ∨ Metered.Paused now log) : Books (limit.current now) now log := by
  unfold RateLimit.current
  by_cases lapsed : limit.expired now
  · rw [if_pos lapsed]
    have all := paused.resolve_left (not_not_intro lapsed)
    exact ⟨log, [], (List.append_nil log).symm, fun message member => ⟨all message member, le_refl _⟩, fun _ => Nat.zero_le _⟩
  · rw [if_neg lapsed]
    exact books.later passed

theorem Books.fresh (paused : Metered.Paused now log) : Books ⟨now, 0, 0, 0⟩ now log :=
  ⟨log, [], (List.append_nil log).symm, fun message member => ⟨paused message member, le_refl _⟩, fun _ => Nat.zero_le _⟩

theorem Books.count (books : Books limit now log) : Books (limit.count type) now log := by
  obtain ⟨earlier, counted, split, old, few⟩ := books
  have begun : (limit.count type).windowStartedAt = limit.windowStartedAt := by cases type <;> rfl
  refine ⟨earlier, counted, split, ?_, fun kind => ?_⟩
  · rw [begun]
    exact old
  · rw [counted_count]
    exact Nat.le_add_right_of_le (few kind)

theorem Books.append (books : Books limit now log) : Books (limit.count message.type) now (log ++ [message]) := by
  obtain ⟨earlier, counted, rfl, old, few⟩ := books
  have begun : (limit.count message.type).windowStartedAt = limit.windowStartedAt := by cases message.type <;> rfl
  refine ⟨earlier, counted ++ [message], List.append_assoc .., ?_, fun kind => ?_⟩
  · rw [begun]
    exact old
  · rw [List.map_append, List.sum_append, List.map_singleton, List.sum_singleton, counted_count]
    exact Nat.add_le_add_right (few kind) _

/-- A message that does not exceed the limits keeps to them together with the recent ones. -/
theorem Books.recentTotal_le (books : Books limit now log) (fits : ¬ (limit.count message.type).exceeded) :
    recentTotal Accepted.now (Accepted.weight kind) rateWindow now log + message.weight kind ≤ kind.limit := by
  obtain ⟨earlier, counted, rfl, old, few⟩ := books
  have older : ∀ message ∈ earlier, rateWindow ≤ now - message.now := fun message member =>
    (old message member).1.trans (sub_le_sub_right (old message member).2 message.now)
  have recent : recentTotal Accepted.now (Accepted.weight kind) rateWindow now (earlier ++ counted) ≤ limit.counted kind := by
    rw [recentTotal_append, recentTotal_of_old older, Nat.zero_add]
    exact recentTotal_le_total.trans (few kind)
  have bound := @counted_le_limit (limit.count message.type) kind fits
  rw [counted_count] at bound
  exact (Nat.add_le_add_right recent _).trans bound

end

/-! ## One event -/

/-- What is known of a runtime: its events change the counters by their charges, for clients it knows. -/
structure Meter.Sound {σ ε : Type} (meter : Meter σ ε) : Prop where
  known : ∀ state event charge, meter.charge state event = some charge →
    (meter.control state).sockets.contains charge.socket = true
  untouched : ∀ state event next, meter.step state event = some next →
    Untouched ((meter.control state).quiet.charged (meter.context event) (meter.charge state event)) (meter.control next)

section

variable {context : Context} {control : ControlState} {charge : Charge}

/-- The window of a connection with the message in it. -/
def Charge.connectionLimit (charge : Charge) (control : ControlState) (now : Int) : RateLimit :=
  ((control.data charge.socket).toRateLimit.current now).count charge.type

/-- The window of an address with the message in it. -/
def Charge.addressLimit (charge : Charge) (control : ControlState) (now : Int) : RateLimit :=
  (control.addressLimit (control.data charge.socket).ip now).count charge.type

theorem checkRateLimit_apply : checkRateLimit context charge.socket charge.type control =
    let counted := control.countMessage charge.socket context.now charge.type
    if (charge.connectionLimit control context.now).exceeded then (.error "Message rate limit exceeded", counted)
    else if (charge.addressLimit control context.now).exceeded then
      (.error "IP message rate limit exceeded", counted.countAddress (control.data charge.socket).ip context.now charge.type)
    else (.ok ⟨⟩, counted.countAddress (control.data charge.socket).ip context.now charge.type) := by
  have own : ((control.countMessage charge.socket context.now charge.type).data charge.socket) =
      { control.data charge.socket with toRateLimit := charge.connectionLimit control context.now } := by
    rw [countMessage, data_modify, if_pos rfl]
    rfl
  rw [checkRateLimit, Handler.change_bind, Handler.read_bind, own]
  dsimp only
  by_cases first : (charge.connectionLimit control context.now).exceeded
  · rw [Handler.bind_refuse_of first, if_pos first]
  · rw [Handler.bind_refuse_of_not first, if_neg first, Handler.change_bind]
    change Handler.refuse (charge.addressLimit control context.now).exceeded _ _ = _
    by_cases second : (charge.addressLimit control context.now).exceeded
    · rw [Handler.refuse_of second, if_pos second, own]
    · rw [Handler.refuse_of_not second, if_neg second, own]

theorem accepts_eq : control.accepts context charge =
    if (charge.connectionLimit control context.now).exceeded ∨ (charge.addressLimit control context.now).exceeded then none
    else some ⟨charge.socket, (control.data charge.socket).ip, charge.type, context.now⟩ := by
  rw [ControlState.accepts, checkRateLimit_apply]
  dsimp only
  by_cases first : (charge.connectionLimit control context.now).exceeded
  · rw [if_pos first, if_pos (.inl first)]
  · rw [if_neg first]
    by_cases second : (charge.addressLimit control context.now).exceeded
    · rw [if_pos second, if_pos (.inr second)]
    · rw [if_neg second, if_neg (not_or.mpr ⟨first, second⟩)]

/-- What a charge does to the counters. -/
structure Charge.Effect (charge : Charge) (control after : ControlState) (now : Int) (accepted : Option Accepted) : Prop where
  own : (after.data charge.socket).toRateLimit = charge.connectionLimit control now
  others : ∀ other, other ≠ charge.socket → (after.data other).toRateLimit = (control.data other).toRateLimit
  known : ∀ other, control.sockets.contains other = true → after.sockets.contains other = true
  outcome : (accepted = none ∧ (after.rateLimitsByIp = control.rateLimitsByIp ∨ after.rateLimitsByIp =
      control.rateLimitsByIp.set (control.data charge.socket).ip (charge.addressLimit control now))) ∨
    (accepted = some ⟨charge.socket, (control.data charge.socket).ip, charge.type, now⟩ ∧
      ¬ (charge.connectionLimit control now).exceeded ∧ ¬ (charge.addressLimit control now).exceeded ∧
      after.rateLimitsByIp = control.rateLimitsByIp.set (control.data charge.socket).ip (charge.addressLimit control now))

theorem charged_effect : charge.Effect control (control.charged context (some charge)) context.now (control.accepts context charge) := by
  have own : (((control.countMessage charge.socket context.now charge.type)).data charge.socket).toRateLimit =
      charge.connectionLimit control context.now := by
    rw [countMessage, data_modify, if_pos rfl]
    rfl
  have others : ∀ other, other ≠ charge.socket →
      ((control.countMessage charge.socket context.now charge.type).data other).toRateLimit = (control.data other).toRateLimit := by
    intro other another
    rw [countMessage, data_modify, if_neg another]
  have known : ∀ other, control.sockets.contains other = true →
      (control.countMessage charge.socket context.now charge.type).sockets.contains other = true := fun _ => modify_known
  have ran := @checkRateLimit_apply context control charge
  dsimp only at ran
  rw [ControlState.charged, Handler.finish, ControlState.accepts, ran]
  by_cases first : (charge.connectionLimit control context.now).exceeded
  · rw [if_pos first]
    exact ⟨own, others, known, .inl ⟨rfl, .inl rfl⟩⟩
  · rw [if_neg first]
    by_cases second : (charge.addressLimit control context.now).exceeded
    · rw [if_pos second]
      exact ⟨own, others, known, .inl ⟨rfl, .inr rfl⟩⟩
    · rw [if_neg second]
      exact ⟨own, others, known, .inr ⟨rfl, first, second, rfl⟩⟩

end

/-! ## Runs -/

namespace Metered

variable {σ ε : Type} {meter : Meter σ ε} {state next : Metered σ} {event : ε} {message : Accepted}

structure Limited (meter : Meter σ ε) (state : Metered σ) : Prop where
  known : ∀ message ∈ state.accepted, (meter.control state.service).sockets.contains message.socket = true
  connections : ∀ socket, Books ((meter.control state.service).data socket).toRateLimit state.clock (state.acceptedFrom socket)
  addresses : ∀ ip limit, (meter.control state.service).rateLimitsByIp.get? ip = some limit →
    Books limit state.clock (state.acceptedAt ip)
  connectionPaced : ∀ socket kind, Paced Accepted.now (Accepted.weight kind) rateWindow kind.limit (state.acceptedFrom socket)
  addressPaced : ∀ ip kind, Paced Accepted.now (Accepted.weight kind) rateWindow kind.limit (state.acceptedAt ip)

theorem step_cases (stepped : step meter state event = some next) : state.clock ≤ (meter.context event).now ∧
    meter.step state.service event = some next.service ∧ next.clock = (meter.context event).now ∧
    next.accepted = state.accepted ++
      ((meter.charge state.service event).bind ((meter.control state.service).accepts (meter.context event))).toList := by
  unfold step at stepped
  split at stepped
  · rename_i passed
    obtain ⟨service, ran, rfl⟩ := Option.map_eq_some_iff.mp stepped
    exact ⟨passed, ran, rfl, rfl⟩
  · cases stepped

theorem Limited.acceptedFrom_unknown (limited : Limited meter state) {socket : Socket}
    (unknown : (meter.control state.service).sockets.contains socket = false) : state.acceptedFrom socket = [] := by
  refine List.filter_eq_nil_iff.mpr fun message member own => ?_
  have present := limited.known message member
  rw [of_decide_eq_true own, unknown] at present
  cases present

theorem filter_append_one {log : List Accepted} {keeps : Accepted → Bool} :
    (log ++ [message]).filter keeps = if keeps message = true then log.filter keeps ++ [message] else log.filter keeps := by
  rw [List.filter_append, List.filter_singleton]
  split
  · rename_i kept
    rw [kept]
    rfl
  · rename_i dropped
    rw [Bool.eq_false_iff.mpr dropped]
    exact List.append_nil _

/-- The window of the address that a message is counted in. -/
theorem Limited.addressBooks (limited : Limited meter state) {charge : Charge} (passed : state.clock ≤ (meter.context event).now)
    (paused : state.BeginsAfterPause meter event) (charges : meter.charge state.service event = some charge) :
    Books ((meter.control state.service).addressLimit ((meter.control state.service).data charge.socket).ip (meter.context event).now)
      (meter.context event).now (state.acceptedAt ((meter.control state.service).data charge.socket).ip) := by
  obtain ⟨-, pause⟩ := paused charge charges
  unfold ControlState.addressLimit
  cases found : (meter.control state.service).rateLimitsByIp.get? ((meter.control state.service).data charge.socket).ip with
  | none =>
      refine Books.fresh (pause.resolve_left ?_)
      rintro ⟨limit, listed, -⟩
      rw [found] at listed
      cases listed
  | some limit =>
      refine (limited.addresses _ limit found).current passed (pause.imp_left ?_)
      rintro ⟨other, listed, running⟩
      rw [found] at listed
      cases listed
      exact running

/-- A step without a charge. -/
theorem Limited.idle (limited : Limited meter state) (passed : state.clock ≤ next.clock) (same : next.accepted = state.accepted)
    (untouched : Untouched (meter.control state.service) (meter.control next.service)) : Limited meter next := by
  have logs : ∀ socket, next.acceptedFrom socket = state.acceptedFrom socket := fun socket => by
    rw [acceptedFrom, same, acceptedFrom]
  have addressLogs : ∀ ip, next.acceptedAt ip = state.acceptedAt ip := fun ip => by
    rw [acceptedAt, same, acceptedAt]
  refine ⟨fun message member => ?_, fun socket => ?_, fun ip limit found => ?_, fun socket kind => ?_, fun ip kind => ?_⟩
  · rw [same] at member
    exact untouched.known _ (limited.known message member)
  · rw [logs]
    cases present : (meter.control state.service).sockets.contains socket with
    | false =>
        rw [limited.acceptedFrom_unknown present]
        exact books_nil
    | true =>
        rw [untouched.limits socket present]
        exact (limited.connections socket).later passed
  · rw [addressLogs]
    rw [untouched.addresses] at found
    exact (limited.addresses ip limit found).later passed
  · rw [logs]
    exact limited.connectionPaced socket kind
  · rw [addressLogs]
    exact limited.addressPaced ip kind

theorem acceptedFrom_append {log : List Accepted} (grown : next.accepted = state.accepted ++ log) {socket : Socket} :
    next.acceptedFrom socket = state.acceptedFrom socket ++ log.filter fun message => message.socket = socket := by
  rw [acceptedFrom, grown, List.filter_append]
  rfl

theorem acceptedAt_append {log : List Accepted} (grown : next.accepted = state.accepted ++ log) {ip : Address} :
    next.acceptedAt ip = state.acceptedAt ip ++ log.filter fun message => message.ip = ip := by
  rw [acceptedAt, grown, List.filter_append]
  rfl

/-- The books of a connection, or of an address, that a charge is about. -/
structure Booked (charge : Charge) (now : Int) (limit : RateLimit) (log : List Accepted) (accepted : Option Accepted) : Prop where
  books : Books (limit.count charge.type) now (log ++ accepted.toList)
  paced : (∀ kind, Paced Accepted.now (Accepted.weight kind) rateWindow kind.limit log) →
    ∀ kind, Paced Accepted.now (Accepted.weight kind) rateWindow kind.limit (log ++ accepted.toList)

theorem booked_of_books {charge : Charge} {now : Int} {limit : RateLimit} {log : List Accepted} {accepted : Option Accepted}
    (books : Books limit now log) (typed : ∀ message ∈ accepted, message.type = charge.type ∧ message.now = now)
    (fits : accepted ≠ none → ¬ (limit.count charge.type).exceeded) : Booked charge now limit log accepted := by
  cases accepted with
  | none =>
      refine ⟨?_, fun paced => ?_⟩
      · rw [Option.toList_none, List.append_nil]
        exact books.count
      · rw [Option.toList_none, List.append_nil]
        exact paced
  | some message =>
      obtain ⟨type, stamped⟩ := typed message rfl
      have within := fits (Option.some_ne_none message)
      rw [← type] at within
      refine ⟨?_, fun paced kind => (paced kind).append ?_⟩
      · rw [← type]
        exact books.append
      · rw [stamped]
        exact books.recentTotal_le within

/-- A step with a charge. -/
theorem Limited.charged (limited : Limited meter state) {charge : Charge} {after : ControlState} {accepted : Option Accepted}
    {now : Int} (passed : state.clock ≤ now) (clock : next.clock = now) (grown : next.accepted = state.accepted ++ accepted.toList)
    (present : (meter.control state.service).sockets.contains charge.socket = true)
    (effect : charge.Effect (meter.control state.service) after now accepted)
    (untouched : Untouched after (meter.control next.service))
    (connection : Books (((meter.control state.service).data charge.socket).toRateLimit.current now) now
      (state.acceptedFrom charge.socket))
    (address : Books ((meter.control state.service).addressLimit ((meter.control state.service).data charge.socket).ip now) now
      (state.acceptedAt ((meter.control state.service).data charge.socket).ip)) : Limited meter next := by
  have shape : ∀ message ∈ accepted, message.socket = charge.socket ∧
      message.ip = ((meter.control state.service).data charge.socket).ip ∧ message.type = charge.type ∧ message.now = now := by
    intro message found
    rcases effect.outcome with ⟨refused, -⟩ | ⟨taken, -⟩
    · rw [refused] at found
      cases found
    · rw [taken] at found
      cases found
      exact ⟨rfl, rfl, rfl, rfl⟩
  have fits : accepted ≠ none → ¬ (charge.connectionLimit (meter.control state.service) now).exceeded ∧
      ¬ (charge.addressLimit (meter.control state.service) now).exceeded := by
    intro taken
    rcases effect.outcome with ⟨refused, -⟩ | ⟨-, first, second, -⟩
    · exact absurd refused taken
    · exact ⟨first, second⟩
  have stamped : ∀ message ∈ accepted, message.type = charge.type ∧ message.now = now := fun message found => (shape message found).2.2
  have connectionBooked := booked_of_books connection stamped fun taken => (fits taken).1
  have addressBooked := booked_of_books address stamped fun taken => (fits taken).2
  have ownLog : next.acceptedFrom charge.socket = state.acceptedFrom charge.socket ++ accepted.toList := by
    rw [acceptedFrom_append grown, List.filter_eq_self.mpr]
    exact fun message member => decide_eq_true (shape message (Option.mem_toList.mp member)).1
  have otherLog : ∀ socket, socket ≠ charge.socket → next.acceptedFrom socket = state.acceptedFrom socket := by
    intro socket another
    rw [acceptedFrom_append grown, List.filter_eq_nil_iff.mpr, List.append_nil]
    intro message member own
    exact another ((of_decide_eq_true own).symm.trans (shape message (Option.mem_toList.mp member)).1)
  have addressLog : next.acceptedAt ((meter.control state.service).data charge.socket).ip =
      state.acceptedAt ((meter.control state.service).data charge.socket).ip ++ accepted.toList := by
    rw [acceptedAt_append grown, List.filter_eq_self.mpr]
    exact fun message member => decide_eq_true (shape message (Option.mem_toList.mp member)).2.1
  have otherAddressLog : ∀ ip, ip ≠ ((meter.control state.service).data charge.socket).ip →
      next.acceptedAt ip = state.acceptedAt ip := by
    intro ip another
    rw [acceptedAt_append grown, List.filter_eq_nil_iff.mpr, List.append_nil]
    intro message member own
    exact another ((of_decide_eq_true own).symm.trans (shape message (Option.mem_toList.mp member)).2.1)
  refine ⟨fun message member => ?_, fun socket => ?_, fun ip limit found => ?_, fun socket kind => ?_, fun ip kind => ?_⟩
  · rw [grown] at member
    refine untouched.known _ (effect.known _ ((List.mem_append.mp member).elim (limited.known message) fun later => ?_))
    rw [(shape message (Option.mem_toList.mp later)).1]
    exact present
  · rw [clock]
    by_cases own : socket = charge.socket
    · rw [own, untouched.limits _ (effect.known _ present), effect.own, ownLog]
      exact connectionBooked.books
    · rw [otherLog socket own]
      cases known : (meter.control state.service).sockets.contains socket with
      | false =>
          rw [limited.acceptedFrom_unknown known]
          exact books_nil
      | true =>
          rw [untouched.limits _ (effect.known _ known), effect.others socket own]
          exact (limited.connections socket).later passed
  · rw [clock]
    rw [untouched.addresses] at found
    by_cases own : ip = ((meter.control state.service).data charge.socket).ip
    · rw [own, addressLog]
      rw [own] at found
      rcases effect.outcome with ⟨refused, kept | counted⟩ | ⟨-, -, -, counted⟩
      · rw [kept] at found
        rw [refused, Option.toList_none, List.append_nil]
        exact (limited.addresses _ limit found).later passed
      · rw [counted, Dict.get?_set, if_pos rfl] at found
        cases found
        exact addressBooked.books
      · rw [counted, Dict.get?_set, if_pos rfl] at found
        cases found
        exact addressBooked.books
    · rw [otherAddressLog ip own]
      refine (limited.addresses ip limit ?_).later passed
      rcases effect.outcome with ⟨-, kept | counted⟩ | ⟨-, -, -, counted⟩
      · rwa [kept] at found
      · rwa [counted, Dict.get?_set, if_neg own] at found
      · rwa [counted, Dict.get?_set, if_neg own] at found
  · by_cases own : socket = charge.socket
    · rw [own, ownLog]
      exact connectionBooked.paced (limited.connectionPaced charge.socket) kind
    · rw [otherLog socket own]
      exact limited.connectionPaced socket kind
  · by_cases own : ip = ((meter.control state.service).data charge.socket).ip
    · rw [own, addressLog]
      exact addressBooked.paced (limited.addressPaced _) kind
    · rw [otherAddressLog ip own]
      exact limited.addressPaced ip kind

theorem step_limited (sound : meter.Sound) (limited : Limited meter state) (paused : state.BeginsAfterPause meter event)
    (stepped : step meter state event = some next) : Limited meter next := by
  obtain ⟨passed, ran, clock, log⟩ := step_cases stepped
  have untouched := sound.untouched _ _ _ ran
  cases charges : meter.charge state.service event with
  | none =>
      rw [charges] at untouched log
      refine limited.idle (by rw [clock]; exact passed) (by rw [log]; exact List.append_nil _) ?_
      have quiet : Untouched (meter.control state.service) (meter.control state.service).quiet := .of rfl rfl
      exact quiet.trans untouched
  | some charge =>
      rw [charges] at untouched log
      have effect := @charged_effect (meter.context event) (meter.control state.service).quiet charge
      have connection := (limited.connections charge.socket).current passed (paused charge charges).1
      have silent : (meter.control state.service).quiet.accepts (meter.context event) charge =
          (meter.control state.service).accepts (meter.context event) charge := by
        rw [accepts_eq, accepts_eq]
        rfl
      rw [silent] at effect
      exact limited.charged passed clock log (sound.known _ _ _ charges) ⟨effect.own, effect.others, effect.known, effect.outcome⟩
        untouched connection (limited.addressBooks passed paused charges)

theorem start_limited {service : σ} {clock : Int} (empty : (meter.control service).rateLimitsByIp = ∅) :
    Limited meter (start service clock) where
  known := fun _ member => absurd member List.not_mem_nil
  connections := fun _ => books_nil
  addresses := fun ip limit found => by
    rw [start, empty] at found
    cases found
  connectionPaced := fun _ _ => paced_nil
  addressPaced := fun _ _ => paced_nil

/-- What is accepted in any minute, of a connection and of an address. -/
theorem Limited.within_le (limited : Limited meter state) (kind : MessageKind) (minute : Int) :
    (∀ socket, within kind minute (state.acceptedFrom socket) ≤ kind.limit) ∧
      ∀ ip, within kind minute (state.acceptedAt ip) ≤ kind.limit :=
  ⟨fun socket => (limited.connectionPaced socket kind).windowTotal_le, fun ip => (limited.addressPaced ip kind).windowTotal_le⟩

end Metered

/-! ## The two runtimes -/

def bunMeter (deployment : Deployment) : Meter ControlState Turn where
  step := Bun.step deployment
  control := id
  context := fun turn => Bun.context deployment turn.now
  charge := Bun.charge

def workerMeter (deployment : Deployment) : Meter WorkerState WorkerTurn where
  step := Worker.step deployment
  control := WorkerState.control
  context := fun turn => Worker.context deployment turn.now turn.failing
  charge := Worker.charge

theorem bunMeter_sound {deployment : Deployment} : (bunMeter deployment).Sound where
  known := by
    intro control turn charge charges
    change Bun.charge control turn = some charge at charges
    have own : ∀ socket message, Bun.chargeFor control socket message = some charge → charge.socket = socket := by
      intro socket message found
      unfold Bun.chargeFor at found
      split at found
      · cases found
        rfl
      · split at found
        · cases found
        · split at found
          · cases found
          · cases found
            rfl
    unfold Bun.charge at charges
    split at charges
    · rename_i socket raw _
      split at charges
      · cases charges
      · rename_i live
        have present := @Worker.live_known socket control (Bool.eq_false_iff.mpr live)
        split at charges
        · cases charges
        · cases charges
        · rwa [own socket _ charges]
        · rwa [own socket _ charges]
    · cases charges
  untouched := fun _ _ _ stepped => Bun.step_charged stepped

theorem workerMeter_sound {deployment : Deployment} : (workerMeter deployment).Sound where
  known := by
    intro worker turn charge charges
    change Worker.charge worker turn = some charge at charges
    unfold Worker.charge at charges
    split at charges
    · rename_i socket raw _
      split at charges
      · cases charges
      · rename_i taken
        have present := @Worker.live_known socket worker.control (Bool.eq_false_iff.mpr fun closed => taken (.inl closed))
        split at charges
        · split at charges
          · cases charges
          · cases charges
            exact present
        · cases charges
    · cases charges
  untouched := fun _ _ _ stepped => Worker.step_charged stepped

/-- Where every window that a message begins comes after a pause of a minute, neither a
connection nor an address gets more messages of a kind accepted in a minute than its limit. -/
theorem accepted_messages_are_limited (deployment : Deployment) (clock : Int) :
    (∀ turns final, Meets (Metered.step (bunMeter deployment)) (fun state turn => state.BeginsAfterPause (bunMeter deployment) turn)
        (.start .empty clock) turns →
      run (Metered.step (bunMeter deployment)) (.start .empty clock) turns = some final → ∀ kind minute,
        (∀ socket, Metered.within kind minute (final.acceptedFrom socket) ≤ kind.limit) ∧
          ∀ ip, Metered.within kind minute (final.acceptedAt ip) ≤ kind.limit) ∧
    ∀ turns final, Meets (Metered.step (workerMeter deployment)) (fun state turn => state.BeginsAfterPause (workerMeter deployment) turn)
        (.start .empty clock) turns →
      run (Metered.step (workerMeter deployment)) (.start .empty clock) turns = some final → ∀ kind minute,
        (∀ socket, Metered.within kind minute (final.acceptedFrom socket) ≤ kind.limit) ∧
          ∀ ip, Metered.within kind minute (final.acceptedAt ip) ≤ kind.limit := by
  refine ⟨fun turns final meets completed kind minute => ?_, fun turns final meets completed kind minute => ?_⟩
  · have limited : Metered.Limited (bunMeter deployment) final := run_invariant (Metered.Limited (bunMeter deployment))
      (fun _ _ _ limited paused stepped => Metered.step_limited bunMeter_sound limited paused stepped)
      (Metered.start_limited rfl) meets completed
    exact limited.within_le kind minute
  · have limited : Metered.Limited (workerMeter deployment) final := run_invariant (Metered.Limited (workerMeter deployment))
      (fun _ _ _ limited paused stepped => Metered.step_limited workerMeter_sound limited paused stepped)
      (Metered.start_limited rfl) meets completed
    exact limited.within_le kind minute

namespace Sample

def fetching : ControlMessage := { type := .getPeers, roomId := some room }

/-- A client that arrives and asks for the peers at the given times. -/
def fetchesAt (times : List Int) : List Turn :=
  turns (arrives 1 97) ++ times.map fun now => ⟨now, tells 1 fetching⟩

def workerFetchesAt (times : List Int) : List WorkerTurn :=
  workerArrives 1 97 ++ times.map fun now => ⟨now, fun _ => false, .client (tells 1 fetching)⟩

end Sample

/-- A client that asks again a minute later keeps to the limits in both runtimes. -/
theorem patient_client_is_limited :
    (∃ final, run (Metered.step (bunMeter Sample.deployment)) (.start .empty 0) (Sample.fetchesAt [0, 60000]) = some final ∧
      ∀ kind minute socket, Metered.within kind minute (final.acceptedFrom socket) ≤ kind.limit) ∧
    ∃ final, run (Metered.step (workerMeter Sample.deployment)) (.start .empty 0) (Sample.workerFetchesAt [0, 60000]) = some final ∧
      ∀ kind minute socket, Metered.within kind minute (final.acceptedFrom socket) ≤ kind.limit := by
  have first : (run (Metered.step (bunMeter Sample.deployment)) (.start .empty 0) (Sample.fetchesAt [0, 60000])).isSome = true := by
    decide +kernel
  have second : (run (Metered.step (workerMeter Sample.deployment)) (.start .empty 0)
      (Sample.workerFetchesAt [0, 60000])).isSome = true := by
    decide +kernel
  have firstMeets : Meets (Metered.step (bunMeter Sample.deployment))
      (fun state turn => state.BeginsAfterPause (bunMeter Sample.deployment) turn) (.start .empty 0) (Sample.fetchesAt [0, 60000]) := by
    decide +kernel
  have secondMeets : Meets (Metered.step (workerMeter Sample.deployment))
      (fun state turn => state.BeginsAfterPause (workerMeter Sample.deployment) turn) (.start .empty 0)
      (Sample.workerFetchesAt [0, 60000]) := by
    decide +kernel
  obtain ⟨final, completed⟩ := Option.isSome_iff_exists.mp first
  obtain ⟨last, finished⟩ := Option.isSome_iff_exists.mp second
  exact ⟨⟨final, completed, fun kind minute =>
      ((accepted_messages_are_limited Sample.deployment 0).1 _ final firstMeets completed kind minute).1⟩,
    last, finished, fun kind minute =>
      ((accepted_messages_are_limited Sample.deployment 0).2 _ last secondMeets finished kind minute).1⟩

/-- A client that asks for the peers thirty times just before its window ends gets the
next one accepted a millisecond later. -/
theorem impatient_client_exceeds_limit : ¬ ∀ (deployment : Deployment) (turns : List Turn) (final : Metered ControlState),
    run (Metered.step (bunMeter deployment)) (.start .empty 0) turns = some final → ∀ kind minute socket,
      Metered.within kind minute (final.acceptedFrom socket) ≤ kind.limit := by
  intro limited
  have checked : (run (Metered.step (bunMeter Sample.deployment)) (.start .empty 0)
      (Sample.fetchesAt (List.replicate 30 59999 ++ [60000]))).any (fun final =>
        decide (maxPeerFetchesPerMinute < Metered.within .peerFetch 1 (final.acceptedFrom 1))) = true := by
    decide +kernel
  obtain ⟨final, completed, found⟩ := Option.any_eq_true .. |>.mp checked
  exact absurd (limited Sample.deployment _ final completed .peerFetch 1 1) (Nat.not_le.mpr (of_decide_eq_true found))

end MeshTalk.Control
