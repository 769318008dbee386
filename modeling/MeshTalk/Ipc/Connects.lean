import MeshTalk.Ipc.Promises

namespace MeshTalk.Ipc

open MeshTalk.Library Client

/-! # What completes a call of `connect`

Node calls the listener of `close` directly after that of `error`.  So the Unix socket
of a call closes before the socket that replaces it can be authenticated, and `onClose`
rejects the call.
-/

variable {runtime : Runtime} {client next : Client} {socket call : Nat}

/-- A socket that has failed closes before anything else happens. -/
def Prompt (client : Client) (event : Event) : Prop :=
  ∀ socket connection, client.connections.get? socket = some connection → connection.phase = .failed → event = .ended socket

instance {client : Client} {event : Event} : Decidable (Prompt client event) :=
  decidable_of_iff (∀ entry ∈ client.connections.entries, entry.2.phase = .failed → event = .ended entry.1) (by
    simp only [Prompt, Prod.forall, Dict.mem_entries_iff])

/-- The socket was made when the Unix socket of the call under way had failed. -/
def Client.Replaces (client : Client) (connection : Connection) : Prop :=
  connection.route = .fallback ∧ client.connecting = some connection.call

def Client.Unreplaced (client : Client) : Prop :=
  ∀ socket connection, client.connections.get? socket = some connection → ¬ client.Replaces connection

def Client.Failing (client : Client) : Prop :=
  ∃ socket connection, client.connections.get? socket = some connection ∧ connection.phase = .failed

/-- Where the calls and the sockets stand between two events. -/
structure Client.Stands (client : Client) : Prop where
  created : ∀ socket connection, client.connections.get? socket = some connection → socket < client.created
  calls : ∀ socket connection, client.connections.get? socket = some connection → connection.call < client.calls
  closed : client.closed = true → client.connecting = none

theorem new_stands : new.Stands where
  created := fun _ _ found => nomatch found
  calls := fun _ _ found => nomatch found
  closed := fun flag => nomatch flag

/-- The parts of the client that sockets and calls stand on. -/
structure SameStanding (client next : Client) : Prop where
  connections : next.connections = client.connections
  created : next.created = client.created
  calls : next.calls = client.calls
  closed : next.closed = client.closed
  connecting : next.connecting = client.connecting ∨ next.connecting = none

theorem SameStanding.refl : SameStanding client client := ⟨rfl, rfl, rfl, rfl, .inl rfl⟩

theorem SameStanding.trans {last : Client} (first : SameStanding client next) (second : SameStanding next last) :
    SameStanding client last where
  connections := second.connections.trans first.connections
  created := second.created.trans first.created
  calls := second.calls.trans first.calls
  closed := second.closed.trans first.closed
  connecting := by
    rcases second.connecting with same | gone
    · rw [same]
      exact first.connecting
    · exact .inr gone

theorem Client.Stands.same (stands : client.Stands) (same : SameStanding client next) : next.Stands where
  created := by
    rw [same.connections, same.created]
    exact stands.created
  calls := by
    rw [same.connections, same.calls]
    exact stands.calls
  closed := by
    intro flag
    rw [same.closed] at flag
    rcases same.connecting with kept | gone
    · rw [kept]
      exact stands.closed flag
    · exact gone

theorem Client.Unreplaced.same (unreplaced : client.Unreplaced) (same : SameStanding client next) : next.Unreplaced := by
  intro socket connection found replaces
  rw [same.connections] at found
  rcases same.connecting with kept | gone
  · exact unreplaced socket connection found ⟨replaces.1, by rw [← kept]; exact replaces.2⟩
  · have under := replaces.2
    rw [gone] at under
    cases under

theorem sameStanding_settle {outcome : Outcome} : SameStanding client (client.settle call outcome) := by
  unfold settle
  split
  · exact .refl
  · exact ⟨rfl, rfl, rfl, rfl, .inl rfl⟩

theorem sameStanding_write {request : Written} : SameStanding client (client.write request) := by
  unfold write
  split
  · exact .refl
  · exact ⟨rfl, rfl, rfl, rfl, .inl rfl⟩

theorem sameStanding_authenticate {token : Bool} : SameStanding client (client.authenticate call token) := by
  unfold authenticate
  split
  · exact sameStanding_write
  · exact sameStanding_settle

theorem sameStanding_receive {response : Response} : SameStanding client (client.receive response) := by
  unfold receive
  split
  · have settled := @sameStanding_settle client ‹Nat› .connected
    exact ⟨settled.connections, settled.created, settled.calls, settled.closed, .inr rfl⟩
  · split
    · exact ⟨rfl, rfl, rfl, rfl, .inl rfl⟩
    · split
      · unfold resolve
        split
        · exact ⟨rfl, rfl, rfl, rfl, .inl rfl⟩
        · exact .refl
      · exact .refl

theorem sameStanding_readLine {line : Text} : SameStanding client (client.readLine runtime line) := by
  unfold readLine
  split
  · exact .refl
  · split
    · exact sameStanding_receive
    · exact .refl

theorem sameStanding_readLines {lines : List Text} : SameStanding client (lines.foldl (readLine runtime) client) := by
  induction lines generalizing client with
  | nil => exact .refl
  | cons line rest ih => exact sameStanding_readLine.trans ih

theorem sameStanding_onData {data : Text} : SameStanding client (client.onData runtime data) := by
  have start : SameStanding client { client with buffer := (cut lineFeed (client.buffer ++ data)).2 } := ⟨rfl, rfl, rfl, rfl, .inl rfl⟩
  exact start.trans sameStanding_readLines

theorem sameStanding_send : SameStanding client client.send := by
  unfold send
  split
  · exact ⟨rfl, rfl, rfl, rfl, .inl rfl⟩
  · have sent : SameStanding client { client with id := client.id + 1, pending := client.pending ++ [client.id] } :=
      ⟨rfl, rfl, rfl, rfl, .inl rfl⟩
    exact sent.trans sameStanding_write

/-! ## Sockets -/

theorem get?_setPhase {phase : Phase} {other : Nat} : (client.setPhase socket phase).connections.get? other =
    if other = socket then (client.connections.get? socket).map fun connection => { connection with phase := phase }
    else client.connections.get? other := by
  unfold setPhase
  cases found : client.connections.get? socket with
  | none =>
      dsimp only
      split
      · rename_i same
        rw [same, found]
        rfl
      · rfl
  | some connection => exact Dict.get?_set

theorem setPhase_rest {phase : Phase} : (client.setPhase socket phase).created = client.created ∧
    (client.setPhase socket phase).calls = client.calls ∧ (client.setPhase socket phase).closed = client.closed ∧
    (client.setPhase socket phase).connecting = client.connecting := by
  unfold setPhase
  split <;> exact ⟨rfl, rfl, rfl, rfl⟩

/-- A socket in another phase is otherwise the same. -/
theorem setPhase_found {phase : Phase} {other : Nat} {connection : Connection}
    (found : (client.setPhase socket phase).connections.get? other = some connection) :
    ∃ before, client.connections.get? other = some before ∧ before.route = connection.route ∧ before.call = connection.call := by
  rw [get?_setPhase] at found
  split at found
  · rename_i same
    obtain ⟨before, present, rfl⟩ := Option.map_eq_some_iff.mp found
    exact ⟨before, by rw [same, present], rfl, rfl⟩
  · exact ⟨connection, found, rfl, rfl⟩

theorem Client.Stands.setPhase {phase : Phase} (stands : client.Stands) : (client.setPhase socket phase).Stands where
  created := by
    intro other connection found
    obtain ⟨before, present, -, -⟩ := setPhase_found found
    rw [setPhase_rest.1]
    exact stands.created other before present
  calls := by
    intro other connection found
    obtain ⟨before, present, -, same⟩ := setPhase_found found
    rw [setPhase_rest.2.1, ← same]
    exact stands.calls other before present
  closed := by
    rw [setPhase_rest.2.2.1, setPhase_rest.2.2.2]
    exact stands.closed

theorem Client.Unreplaced.setPhase {phase : Phase} (unreplaced : client.Unreplaced) : (client.setPhase socket phase).Unreplaced := by
  intro other connection found replaces
  obtain ⟨before, present, route, named⟩ := setPhase_found found
  have connecting := replaces.2
  rw [setPhase_rest.2.2.2, ← named] at connecting
  exact unreplaced other before present ⟨route.trans replaces.1, connecting⟩

theorem Client.Stands.createConnection {route : Route} (stands : client.Stands) (made : call < client.calls) :
    (client.createConnection route call).Stands where
  created := by
    intro other connection found
    rw [Client.createConnection, Dict.get?_set] at found
    change other < client.created + 1
    split at found
    · rename_i same
      omega
    · have before := stands.created other connection found
      omega
  calls := by
    intro other connection found
    rw [Client.createConnection, Dict.get?_set] at found
    split at found
    · cases found
      exact made
    · exact stands.calls other connection found
  closed := stands.closed

theorem Client.Unreplaced.createConnection {route : Route} (unreplaced : client.Unreplaced)
    (direct : route ≠ .fallback) : (client.createConnection route call).Unreplaced := by
  intro other connection found replaces
  rw [Client.createConnection, Dict.get?_set] at found
  split at found
  · cases found
    exact direct replaces.1
  · exact unreplaced other connection found replaces

/-- A socket that has failed stays so until it closes. -/
theorem Client.Failing.createConnection {route : Route} {other : Nat} {connection : Connection} (stands : client.Stands)
    (found : client.connections.get? other = some connection) (failed : connection.phase = .failed) :
    (client.createConnection route call).Failing := by
  refine ⟨other, connection, ?_, failed⟩
  have before := stands.created other connection found
  rw [Client.createConnection, Dict.get?_set, if_neg (by omega)]
  exact found

theorem destroy_failed {other : Nat} {connection : Connection} (found : client.connections.get? other = some connection)
    (failed : connection.phase = .failed) : client.destroy.connections.get? other = some connection := by
  unfold destroy
  split
  · exact found
  · split
    · exact found
    · rename_i current held present
      split
      · exact found
      · rename_i open'
        rw [get?_setPhase]
        split
        · rename_i same
          rw [same, present] at found
          cases found
          exact absurd (.inl failed) open'
        · exact found

theorem Client.Stands.destroy (stands : client.Stands) : client.destroy.Stands := by
  unfold Client.destroy
  split
  · exact stands
  · split
    · exact stands
    · split
      · exact stands
      · exact stands.setPhase

theorem Client.Unreplaced.destroy (unreplaced : client.Unreplaced) : client.destroy.Unreplaced := by
  unfold Client.destroy
  split
  · exact unreplaced
  · split
    · exact unreplaced
    · split
      · exact unreplaced
      · exact unreplaced.setPhase

theorem destroy_calls : client.destroy.calls = client.calls := by
  unfold destroy
  split
  · rfl
  · split
    · rfl
    · split
      · rfl
      · exact setPhase_rest.2.1

/-! ## Steps -/

theorem Client.Stands.begin (stands : client.Stands) : client.begin.Stands where
  created := stands.created
  calls := fun other connection found => Nat.lt_succ_of_lt (stands.calls other connection found)
  closed := fun flag => nomatch flag

/-- No socket has been made for the call that begins. -/
theorem Client.Stands.unreplaced_begin (stands : client.Stands) : client.begin.Unreplaced := by
  intro other connection found replaces
  have before := stands.calls other connection found
  have same : client.calls = connection.call := Option.some.inj replaces.2
  omega

theorem Client.Stands.connectTcp {route : Route} {ready : Bool} (stands : client.Stands) (made : call < client.calls) :
    (client.connectTcp route call ready).Stands := by
  unfold Client.connectTcp
  split
  · exact stands.createConnection made
  · exact stands.same sameStanding_settle

theorem Client.Stands.connect {toPort ready : Bool} (stands : client.Stands) :
    (client.connect toPort ready).Stands ∧ (client.connect toPort ready).Unreplaced := by
  have made : client.calls < client.begin.calls := Nat.lt_succ_self _
  unfold Client.connect
  split
  · refine ⟨stands.begin.connectTcp made, ?_⟩
    unfold Client.connectTcp
    split
    · exact stands.unreplaced_begin.createConnection nofun
    · exact stands.unreplaced_begin.same sameStanding_settle
  · exact ⟨stands.begin.createConnection made, stands.unreplaced_begin.createConnection nofun⟩

theorem Client.Stands.fail {connection : Connection} {ready : Bool} (stands : client.Stands)
    (made : connection.call < client.calls) : (client.fail connection ready).Stands := by
  unfold Client.fail
  split
  · exact stands.destroy.connectTcp (by rwa [destroy_calls])
  · exact stands.same sameStanding_settle

/-- The socket itself has failed, whatever takes its place. -/
theorem failing_fail {connection marked : Connection} {ready : Bool} (stands : client.Stands)
    (found : client.connections.get? socket = some marked) (failed : marked.phase = .failed) :
    (client.fail connection ready).Failing := by
  have settled : ∀ (state : Client) (outcome : Outcome), state.connections.get? socket = some marked →
      (state.settle connection.call outcome).Failing := fun state outcome held =>
    ⟨socket, marked, by rw [sameStanding_settle.connections, held], failed⟩
  unfold Client.fail
  split
  · have held := destroy_failed found failed
    unfold connectTcp
    split
    · exact Client.Failing.createConnection stands.destroy held failed
    · exact settled _ _ held
  · exact settled _ _ found

/-- A close leaves no call under way. -/
theorem onClose_standing (stands : client.Stands) : client.onClose.Stands ∧ client.onClose.Unreplaced := by
  have clears : ∀ state : Client, state.Stands → state.connecting = none → state.Unreplaced := by
    intro state _ gone socket connection _ replaces
    have under := replaces.2
    rw [gone] at under
    cases under
  unfold Client.onClose
  cases flag : client.closed with
  | true => exact ⟨stands, clears client stands (stands.closed flag)⟩
  | false =>
      have told : ∀ state : Client, state.tellDisconnected.connections = state.connections ∧
          state.tellDisconnected.created = state.created ∧ state.tellDisconnected.calls = state.calls ∧
          state.tellDisconnected.connecting = state.connecting := by
        intro state
        unfold tellDisconnected
        split <;> exact ⟨rfl, rfl, rfl, rfl⟩
      have abandoned : ∀ state : Client, state.abandon.connections = state.connections ∧
          state.abandon.created = state.created ∧ state.abandon.calls = state.calls ∧ state.abandon.connecting = none := by
        intro state
        unfold abandon
        cases under : state.connecting with
        | none => exact ⟨rfl, rfl, rfl, under⟩
        | some call =>
            have settled := @sameStanding_settle state call
              (if state.intentionallyClosed then .connected else .refused "Connection closed during authentication")
            exact ⟨settled.connections, settled.created, settled.calls, rfl⟩
      have ends : ({ client with closed := true } : Client).abandon.answerAll.tellDisconnected.Stands := by
        obtain ⟨connections, created, calls, connecting⟩ := told ({ client with closed := true } : Client).abandon.answerAll
        obtain ⟨kept, made, begun, gone⟩ := abandoned { client with closed := true }
        refine ⟨?_, ?_, fun _ => connecting.trans gone⟩
        · rw [connections, created]
          change ∀ socket connection, ({ client with closed := true } : Client).abandon.connections.get? socket = _ →
            socket < ({ client with closed := true } : Client).abandon.created
          rw [kept, made]
          exact stands.created
        · rw [connections, calls]
          change ∀ socket (connection : Connection), ({ client with closed := true } : Client).abandon.connections.get? socket = _ →
            connection.call < ({ client with closed := true } : Client).abandon.calls
          rw [kept, begun]
          exact stands.calls
      exact ⟨ends, clears _ ends ((told _).2.2.2.trans (abandoned _).2.2.2)⟩

theorem step_stands {event : Event} (stands : client.Stands) (stepped : step runtime client event = some next) : next.Stands := by
  cases event with
  | connect toPort ready =>
      cases stepped
      exact stands.connect.1
  | opened socket token =>
      obtain ⟨connection, -, -, rfl⟩ := onSocket_some stepped
      exact stands.setPhase.same sameStanding_authenticate
  | failed socket ready =>
      obtain ⟨connection, found, -, rfl⟩ := onSocket_some stepped
      refine stands.setPhase.fail ?_
      rw [setPhase_rest.2.1]
      exact stands.calls socket connection found
  | data socket chunk =>
      obtain ⟨connection, -, -, rfl⟩ := onSocket_some stepped
      exact stands.same sameStanding_onData
  | ended socket =>
      obtain ⟨connection, -, -, rfl⟩ := onSocket_some stepped
      exact (onClose_standing stands.setPhase).1
  | close =>
      cases stepped
      exact Client.Stands.destroy ⟨stands.created, stands.calls, stands.closed⟩
  | send =>
      cases stepped
      exact stands.same sameStanding_send

theorem step_unreplaced {event : Event} (stands : client.Stands) (prompt : Prompt client event)
    (invariant : client.Failing ∨ client.Unreplaced) (stepped : step runtime client event = some next) :
    next.Failing ∨ next.Unreplaced := by
  have calm : (∀ socket, event ≠ .ended socket) → client.Unreplaced := by
    intro other
    rcases invariant with ⟨socket, connection, found, failed⟩ | unreplaced
    · exact absurd (prompt socket connection found failed) (other socket)
    · exact unreplaced
  cases event with
  | connect toPort ready =>
      cases stepped
      exact .inr stands.connect.2
  | opened socket token =>
      obtain ⟨connection, -, -, rfl⟩ := onSocket_some stepped
      exact .inr ((calm nofun).setPhase.same sameStanding_authenticate)
  | failed socket ready =>
      obtain ⟨connection, found, -, rfl⟩ := onSocket_some stepped
      have marked : (client.setPhase socket .failed).connections.get? socket = some { connection with phase := .failed } := by
        rw [get?_setPhase, if_pos rfl, found]
        rfl
      exact .inl (failing_fail stands.setPhase marked rfl)
  | data socket chunk =>
      obtain ⟨connection, -, -, rfl⟩ := onSocket_some stepped
      exact .inr ((calm nofun).same sameStanding_onData)
  | ended socket =>
      obtain ⟨connection, -, -, rfl⟩ := onSocket_some stepped
      exact .inr (onClose_standing stands.setPhase).2
  | close =>
      cases stepped
      exact .inr (Client.Unreplaced.destroy fun socket connection found => calm nofun socket connection found)
  | send =>
      cases stepped
      exact .inr ((calm nofun).same sameStanding_send)

/-! ## Completed calls -/

/-- The event completes the call: a line over a socket that does not replace another of
the call, or a close that was asked for. -/
def Client.Completes (client : Client) (event : Event) (call : Nat) : Prop :=
  client.connecting = some call ∧ client.settled.get? call = none ∧
    ((∃ socket chunk connection, event = .data socket chunk ∧ client.connections.get? socket = some connection ∧
        ¬ (connection.route = .fallback ∧ connection.call = call)) ∨
      ∃ socket, event = .ended socket ∧ client.intentionallyClosed = true)

/-- What a client with one more settled promise has been told. -/
theorem settle_settled {outcome last : Outcome} {other : Nat} (settled : (client.settle other outcome).settled.get? call = some last) :
    client.settled.get? call = some last ∨ (other = call ∧ outcome = last ∧ client.settled.get? call = none) := by
  unfold settle at settled
  split at settled
  · exact .inl settled
  · rename_i unsettled
    simp only [Dict.contains, Bool.not_eq_true, Option.isSome_eq_false_iff, Option.isNone_iff_eq_none] at unsettled
    simp only [Dict.get?_set] at settled
    split at settled
    · rename_i same
      subst same
      exact .inr ⟨rfl, Option.some.inj settled, unsettled⟩
    · exact .inl settled

/-- A refusal completes no call. -/
theorem settle_refused {error : String} {other : Nat}
    (settled : (client.settle other (.refused error)).settled.get? call = some .connected) :
    client.settled.get? call = some .connected := by
  rcases settle_settled settled with before | ⟨-, refused, -⟩
  · exact before
  · cases refused

theorem settled_setPhase {phase : Phase} : (client.setPhase socket phase).settled = client.settled := by
  unfold setPhase
  split <;> rfl

theorem settled_destroy : client.destroy.settled = client.settled := by
  unfold destroy
  split
  · rfl
  · split
    · rfl
    · split
      · rfl
      · exact settled_setPhase

theorem settled_write {request : Written} : (client.write request).settled = client.settled := by
  unfold write
  split <;> rfl

theorem connectTcp_refused {route : Route} {ready : Bool} {other : Nat}
    (settled : (client.connectTcp route other ready).settled.get? call = some .connected) :
    client.settled.get? call = some .connected := by
  unfold connectTcp at settled
  split at settled
  · exact settled
  · exact settle_refused settled

theorem readLine_settled {line : Text} (settled : (client.readLine runtime line).settled.get? call = some .connected) :
    client.settled.get? call = some .connected ∨ (client.connecting = some call ∧ client.settled.get? call = none) := by
  unfold readLine at settled
  split at settled
  · exact .inl settled
  · split at settled
    · unfold receive at settled
      split at settled
      · rename_i under
        rcases settle_settled settled with before | ⟨rfl, -, none⟩
        · exact .inl before
        · exact .inr ⟨under, none⟩
      · split at settled
        · exact .inl settled
        · split at settled
          · unfold resolve at settled
            split at settled <;> exact .inl settled
          · exact .inl settled
    · exact .inl settled

theorem settle_keeps {outcome last : Outcome} {other : Nat} (settled : client.settled.get? call = some last) :
    (client.settle other outcome).settled.get? call = some last := by
  unfold settle
  split
  · exact settled
  · rename_i unsettled
    rw [Dict.get?_set]
    split
    · rename_i same
      subst same
      simp [Dict.contains, settled] at unsettled
    · exact settled

theorem readLine_keeps {line : Text} {last : Outcome} (settled : client.settled.get? call = some last) :
    (client.readLine runtime line).settled.get? call = some last := by
  unfold readLine
  split
  · exact settled
  · split
    · unfold receive
      split
      · exact settle_keeps settled
      · split
        · exact settled
        · split
          · unfold resolve
            split <;> exact settled
          · exact settled
    · exact settled

theorem readLines_settled {lines : List Text}
    (settled : (lines.foldl (readLine runtime) client).settled.get? call = some .connected) :
    client.settled.get? call = some .connected ∨ (client.connecting = some call ∧ client.settled.get? call = none) := by
  induction lines generalizing client with
  | nil => exact .inl settled
  | cons line rest ih =>
      rcases ih settled with first | ⟨under, none⟩
      · exact readLine_settled first
      · refine .inr ⟨?_, ?_⟩
        · rcases (@sameStanding_readLine runtime client line).connecting with same | gone
          · rw [← same]
            exact under
          · rw [gone] at under
            cases under
        · cases before : client.settled.get? call with
          | none => rfl
          | some last =>
              rw [readLine_keeps before] at none
              cases none

theorem onClose_settled (settled : client.onClose.settled.get? call = some .connected) :
    client.settled.get? call = some .connected ∨
      (client.connecting = some call ∧ client.settled.get? call = none ∧ client.intentionallyClosed = true) := by
  unfold onClose at settled
  split at settled
  · exact .inl settled
  · have told : ∀ state : Client, state.tellDisconnected.settled = state.settled := by
      intro state
      unfold tellDisconnected
      split <;> rfl
    rw [told] at settled
    change ({ client with closed := true } : Client).abandon.settled.get? call = _ at settled
    unfold abandon at settled
    cases under : client.connecting with
    | none =>
        simp only [under] at settled
        exact .inl settled
    | some other =>
        simp only [under] at settled
        rcases settle_settled settled with before | ⟨rfl, outcome, none⟩
        · exact .inl before
        · cases asked : client.intentionallyClosed with
          | true => exact .inr ⟨rfl, none, rfl⟩
          | false =>
              rw [asked] at outcome
              cases outcome

theorem setPhase_intentionallyClosed {phase : Phase} :
    (client.setPhase socket phase).intentionallyClosed = client.intentionallyClosed := by
  unfold setPhase
  split <;> rfl

theorem step_completes {event : Event} (prompt : Prompt client event) (invariant : client.Failing ∨ client.Unreplaced)
    (stepped : step runtime client event = some next) (unsettled : client.settled.get? call ≠ some .connected)
    (settled : next.settled.get? call = some .connected) : client.Completes event call := by
  cases event with
  | connect toPort ready =>
      cases stepped
      refine absurd ?_ unsettled
      unfold Client.connect at settled
      split at settled
      · have before := connectTcp_refused settled
        exact before
      · exact settled
  | opened socket token =>
      obtain ⟨connection, -, -, rfl⟩ := onSocket_some stepped
      refine absurd ?_ unsettled
      unfold authenticate at settled
      split at settled
      · rwa [settled_write, settled_setPhase] at settled
      · have before := settle_refused settled
        rwa [settled_setPhase] at before
  | failed socket ready =>
      obtain ⟨connection, -, -, rfl⟩ := onSocket_some stepped
      refine absurd ?_ unsettled
      unfold fail at settled
      split at settled
      · have before := connectTcp_refused settled
        rwa [settled_destroy, settled_setPhase] at before
      · have before := settle_refused settled
        rwa [settled_setPhase] at before
  | data socket chunk =>
      obtain ⟨connection, found, -, rfl⟩ := onSocket_some stepped
      have start : ({ client with buffer := (cut lineFeed (client.buffer ++ runtime.decode chunk)).2 } : Client).settled.get? call =
          some .connected ∨ client.connecting = some call ∧ client.settled.get? call = none := readLines_settled settled
      rcases start with before | ⟨under, none⟩
      · exact absurd before unsettled
      · refine ⟨under, none, .inl ⟨socket, chunk, connection, rfl, found, fun replaced => ?_⟩⟩
        rcases invariant with ⟨other, failing, present, failed⟩ | unreplaced
        · cases prompt other failing present failed
        · exact unreplaced socket connection found ⟨replaced.1, by rw [under, replaced.2]⟩
  | ended socket =>
      obtain ⟨connection, -, -, rfl⟩ := onSocket_some stepped
      rcases onClose_settled settled with before | ⟨under, none, asked⟩
      · rw [settled_setPhase] at before
        exact absurd before unsettled
      · rw [setPhase_rest.2.2.2] at under
        rw [settled_setPhase] at none
        rw [setPhase_intentionallyClosed] at asked
        exact ⟨under, none, .inr ⟨socket, rfl, asked⟩⟩
  | close =>
      cases stepped
      refine absurd ?_ unsettled
      rw [close, settled_destroy] at settled
      exact settled
  | send =>
      cases stepped
      refine absurd ?_ unsettled
      unfold send at settled
      split at settled
      · exact settled
      · rwa [settled_write] at settled

namespace Sample

/-- The Unix socket fails, the one that replaces it is authenticated, and then the client connects to a port. -/
def fallenBack : List Event :=
  [.connect false true, .failed 0 true, .ended 0, .opened 1 true, .data 1 (acceptance ++ [10]), .connect true true,
    .opened 2 true, .data 2 (acceptance ++ [10])]

end Sample

end MeshTalk.Ipc
