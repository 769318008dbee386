import Mathlib.Order.Nat
import MeshTalk.Ipc.Client

namespace MeshTalk.Ipc

open MeshTalk.Library Client

/-! # The promises of the client

Requests are answered once, and none outlives the close of a connection.  A call of
`connect` is completed by the socket it was made for, but never by the one that is
tried when the Unix socket has failed.
-/

variable {runtime : Runtime} {client next : Client} {socket call id : Nat}

/-! ## Requests -/

/-- The part of the client that has to do with requests. -/
def Client.ledger (client : Client) : List Nat × List (Nat × Answer) × Nat := (client.pending, client.answers, client.id)

/-- Every request ever sent either waits or has been answered, by what bears its id or
by the close of a connection. -/
structure Client.Accounts (runtime : Runtime) (client : Client) : Prop where
  issued : ∀ id, id < client.id ↔ id ∈ client.pending ∨ id ∈ client.answers.map Prod.fst
  once : (client.pending ++ client.answers.map Prod.fst).Nodup
  own : ∀ id response, (id, .response response) ∈ client.answers → response.id = some id ∧ ∃ line, runtime.parse line = some response

@[simp] theorem ledger_settle {outcome : Outcome} : (client.settle call outcome).ledger = client.ledger := by
  unfold settle
  split <;> rfl

@[simp] theorem ledger_setPhase {phase : Phase} : (client.setPhase socket phase).ledger = client.ledger := by
  unfold setPhase
  split <;> rfl

@[simp] theorem ledger_createConnection {route : Route} : (client.createConnection route call).ledger = client.ledger := rfl

@[simp] theorem ledger_destroy : client.destroy.ledger = client.ledger := by
  unfold destroy
  split
  · rfl
  · split
    · rfl
    · split
      · rfl
      · exact ledger_setPhase

@[simp] theorem ledger_write {request : Written} : (client.write request).ledger = client.ledger := by
  unfold write
  split <;> rfl

@[simp] theorem ledger_connectTcp {route : Route} {ready : Bool} : (client.connectTcp route call ready).ledger = client.ledger := by
  unfold connectTcp
  split <;> simp

@[simp] theorem ledger_connect {toPort ready : Bool} : (client.connect toPort ready).ledger = client.ledger := by
  unfold connect
  split
  · exact ledger_connectTcp
  · rfl

@[simp] theorem ledger_authenticate {token : Bool} : (client.authenticate call token).ledger = client.ledger := by
  unfold authenticate
  split <;> simp

@[simp] theorem ledger_fail {connection : Connection} {ready : Bool} : (client.fail connection ready).ledger = client.ledger := by
  unfold fail
  split <;> simp

@[simp] theorem ledger_abandon : client.abandon.ledger = client.ledger := by
  unfold abandon
  cases client.connecting with
  | none => rfl
  | some call => exact ledger_settle

@[simp] theorem ledger_tellDisconnected : client.tellDisconnected.ledger = client.ledger := by
  unfold tellDisconnected
  split <;> rfl

theorem Client.Accounts.of_ledger (accounts : client.Accounts runtime) (same : next.ledger = client.ledger) :
    next.Accounts runtime := by
  simp only [ledger, Prod.mk.injEq] at same
  obtain ⟨pending, answers, id⟩ := same
  constructor
  · rw [pending, answers, id]
    exact accounts.issued
  · rw [pending, answers]
    exact accounts.once
  · rw [answers]
    exact accounts.own

theorem new_accounts : new.Accounts runtime where
  issued := by simp [new]
  once := List.nodup_nil
  own := fun _ _ listed => nomatch listed

theorem Client.Accounts.resolve {response : Response} {line : Text} (accounts : client.Accounts runtime)
    (own : response.id = some id) (parsed : runtime.parse line = some response) :
    (client.resolve id response).Accounts runtime := by
  unfold Client.resolve
  split
  · rename_i waits
    have apart := List.nodup_append.mp accounts.once
    have kept : (client.pending.erase id ++ (client.answers ++ [(id, Answer.response response)]).map Prod.fst).Perm
        (client.pending ++ client.answers.map Prod.fst) := by
      rw [List.map_append, ← List.append_assoc]
      refine (List.perm_append_singleton id (client.pending.erase id ++ client.answers.map Prod.fst)).trans ?_
      rw [← List.cons_append]
      exact (List.perm_cons_erase waits).symm.append_right _
    refine ⟨fun other => ?_, kept.nodup_iff.mpr accounts.once, fun other answer listed => ?_⟩
    · rw [← List.mem_append, kept.mem_iff, List.mem_append]
      exact accounts.issued other
    · rcases List.mem_append.mp listed with earlier | last
      · exact accounts.own other answer earlier
      · cases List.mem_singleton.mp last
        exact ⟨own, line, parsed⟩
  · exact accounts

theorem Client.Accounts.receive {response : Response} {line : Text} (accounts : client.Accounts runtime)
    (parsed : runtime.parse line = some response) : (client.receive response).Accounts runtime := by
  unfold Client.receive
  split
  · exact accounts.of_ledger ledger_settle
  · split
    · exact accounts.of_ledger rfl
    · cases own : response.id with
      | none => exact accounts
      | some id => exact accounts.resolve own parsed

theorem Client.Accounts.readLine {line : Text} (accounts : client.Accounts runtime) : (client.readLine runtime line).Accounts runtime := by
  unfold Client.readLine
  split
  · exact accounts
  · cases parsed : runtime.parse line with
    | none => exact accounts
    | some response => exact accounts.receive parsed

theorem Client.Accounts.readLines {lines : List Text} (accounts : client.Accounts runtime) :
    (lines.foldl (Client.readLine runtime) client).Accounts runtime := by
  induction lines generalizing client with
  | nil => exact accounts
  | cons line rest ih => exact ih accounts.readLine

theorem Client.Accounts.onData {data : Text} (accounts : client.Accounts runtime) : (client.onData runtime data).Accounts runtime := by
  have same : ({ client with buffer := (cut lineFeed (client.buffer ++ data)).2 } : Client).ledger = client.ledger := rfl
  exact (accounts.of_ledger same).readLines

theorem Client.Accounts.answerAll (accounts : client.Accounts runtime) : client.answerAll.Accounts runtime := by
  have names : (client.answers ++ client.pending.map fun id => (id, Answer.closed)).map Prod.fst =
      client.answers.map Prod.fst ++ client.pending := by
    simp [Function.comp_def]
  have kept : (client.answers.map Prod.fst ++ client.pending).Perm (client.pending ++ client.answers.map Prod.fst) :=
    List.perm_append_comm
  refine ⟨fun id => ?_, ?_, fun id response listed => ?_⟩
  · change id < client.id ↔ id ∈ ([] : List Nat) ∨ id ∈ (client.answers ++ _).map Prod.fst
    rw [names, kept.mem_iff, List.mem_append, accounts.issued id]
    simp
  · change ([] ++ (client.answers ++ _).map Prod.fst).Nodup
    rw [names, List.nil_append]
    exact kept.nodup_iff.mpr accounts.once
  · rcases List.mem_append.mp listed with earlier | last
    · exact accounts.own id response earlier
    · obtain ⟨other, -, same⟩ := List.mem_map.mp last
      cases same

theorem Client.Accounts.onClose (accounts : client.Accounts runtime) : client.onClose.Accounts runtime := by
  unfold Client.onClose
  split
  · exact accounts
  · have marked : ({ client with closed := true } : Client).abandon.Accounts runtime := accounts.of_ledger ledger_abandon
    exact marked.answerAll.of_ledger ledger_tellDisconnected

theorem Client.Accounts.send (accounts : client.Accounts runtime) : client.send.Accounts runtime := by
  unfold Client.send
  cases client.socket with
  | none => exact accounts.of_ledger rfl
  | some current =>
      refine Client.Accounts.of_ledger ?_ ledger_write
      have new : client.id ∉ client.pending ++ client.answers.map Prod.fst := by
        rw [List.mem_append, ← accounts.issued]
        exact Nat.lt_irrefl _
      have kept : (client.pending ++ [client.id] ++ client.answers.map Prod.fst).Perm
          (client.id :: (client.pending ++ client.answers.map Prod.fst)) := by
        rw [List.append_assoc]
        exact List.perm_middle
      refine ⟨fun id => ?_, kept.nodup_iff.mpr (List.nodup_cons.mpr ⟨new, accounts.once⟩), accounts.own⟩
      have issued := accounts.issued id
      simp only [List.mem_append, List.mem_singleton]
      rw [or_right_comm, ← issued]
      exact Nat.lt_succ_iff_lt_or_eq

theorem onSocket_some {phases : List Phase} {handle : Connection → Client}
    (handled : onSocket client socket phases handle = some next) :
    ∃ connection, client.connections.get? socket = some connection ∧ connection.phase ∈ phases ∧ next = handle connection := by
  unfold onSocket at handled
  cases found : client.connections.get? socket with
  | none =>
      rw [found] at handled
      cases handled
  | some connection =>
      rw [found] at handled
      dsimp only at handled
      split at handled
      · rename_i possible
        exact ⟨connection, rfl, possible, (Option.some.inj handled).symm⟩
      · cases handled

theorem step_accounts {event : Event} (accounts : client.Accounts runtime) (stepped : step runtime client event = some next) :
    next.Accounts runtime := by
  cases event with
  | connect toPort ready =>
      cases stepped
      exact accounts.of_ledger ledger_connect
  | opened socket token =>
      obtain ⟨connection, -, -, rfl⟩ := onSocket_some stepped
      exact accounts.of_ledger (by simp)
  | failed socket ready =>
      obtain ⟨connection, -, -, rfl⟩ := onSocket_some stepped
      exact accounts.of_ledger (by simp)
  | data socket chunk =>
      obtain ⟨connection, -, -, rfl⟩ := onSocket_some stepped
      exact accounts.onData
  | ended socket =>
      obtain ⟨connection, -, -, rfl⟩ := onSocket_some stepped
      exact (accounts.of_ledger ledger_setPhase).onClose
  | close =>
      cases stepped
      exact accounts.of_ledger ledger_destroy
  | send =>
      cases stepped
      exact accounts.send

/-- Requests are only added with new ids. -/
structure Client.Later (client next : Client) : Prop where
  id : client.id ≤ next.id
  pending : ∀ id ∈ next.pending, id ∈ client.pending ∨ client.id ≤ id

theorem Client.Later.trans {last : Client} (first : client.Later next) (second : next.Later last) : client.Later last where
  id := first.id.trans second.id
  pending := by
    intro id waits
    rcases second.pending id waits with before | new
    · exact first.pending id before
    · exact .inr (first.id.trans new)

theorem Client.Later.of_ledger (same : next.ledger = client.ledger) : client.Later next := by
  simp only [ledger, Prod.mk.injEq] at same
  exact ⟨same.2.2.ge, fun id waits => .inl (by rwa [← same.1])⟩

theorem later_resolve {response : Response} : client.Later (client.resolve id response) := by
  unfold resolve
  split
  · exact ⟨Nat.le_refl _, fun other waits => .inl (List.mem_of_mem_erase waits)⟩
  · exact .of_ledger rfl

theorem later_receive {response : Response} : client.Later (client.receive response) := by
  unfold receive
  split
  · exact .of_ledger ledger_settle
  · split
    · exact .of_ledger rfl
    · cases response.id with
      | none => exact .of_ledger rfl
      | some named => exact later_resolve

theorem later_readLine {line : Text} : client.Later (client.readLine runtime line) := by
  unfold readLine
  split
  · exact .of_ledger rfl
  · cases runtime.parse line with
    | none => exact .of_ledger rfl
    | some response => exact later_receive

theorem later_readLines {lines : List Text} : client.Later (lines.foldl (readLine runtime) client) := by
  induction lines generalizing client with
  | nil => exact .of_ledger rfl
  | cons line rest ih => exact later_readLine.trans ih

theorem later_onClose : client.Later client.onClose := by
  unfold onClose
  split
  · exact .of_ledger rfl
  · have marked : client.Later ({ client with closed := true } : Client).abandon := .of_ledger ledger_abandon
    refine (marked.trans ?_).trans (.of_ledger ledger_tellDisconnected)
    exact ⟨Nat.le_refl _, fun id waits => nomatch waits⟩

theorem later_send : client.Later client.send := by
  unfold send
  cases client.socket with
  | none => exact .of_ledger rfl
  | some current =>
      refine Client.Later.trans ⟨Nat.le_succ _, fun id waits => ?_⟩ (.of_ledger ledger_write)
      rcases List.mem_append.mp waits with before | new
      · exact .inl before
      · exact .inr (List.mem_singleton.mp new).ge

theorem step_later {event : Event} (stepped : step runtime client event = some next) : client.Later next := by
  cases event with
  | connect toPort ready =>
      cases stepped
      exact .of_ledger ledger_connect
  | opened socket token =>
      obtain ⟨connection, -, -, rfl⟩ := onSocket_some stepped
      exact .of_ledger (by simp)
  | failed socket ready =>
      obtain ⟨connection, -, -, rfl⟩ := onSocket_some stepped
      exact .of_ledger (by simp)
  | data socket chunk =>
      obtain ⟨connection, -, -, rfl⟩ := onSocket_some stepped
      have same : ({ client with buffer := (cut lineFeed (client.buffer ++ runtime.decode chunk)).2 } : Client).ledger =
          client.ledger := rfl
      exact (Client.Later.of_ledger same).trans later_readLines
  | ended socket =>
      obtain ⟨connection, -, -, rfl⟩ := onSocket_some stepped
      exact (Client.Later.of_ledger ledger_setPhase).trans later_onClose
  | close =>
      cases stepped
      exact .of_ledger ledger_destroy
  | send =>
      cases stepped
      exact later_send

theorem run_later {events : List Event} (ran : run (step runtime) client events = some next) : client.Later next := by
  have everything : Meets (step runtime) (fun _ _ => True) client events := meets_trivial fun _ _ => trivial
  exact run_invariant (fun state => client.Later state) (fun _ _ _ before _ stepped => before.trans (step_later stepped))
    (.of_ledger rfl) everything ran

theorem setPhase_closed {phase : Phase} : (client.setPhase socket phase).closed = client.closed := by
  unfold setPhase
  split <;> rfl

/-- The close of a connection leaves no request waiting, unless another socket has closed before. -/
theorem ended_pending (stepped : step runtime client (.ended socket) = some next) :
    next.ledger = client.ledger ∧ client.closed = true ∨ next.pending = [] ∧ client.closed = false := by
  obtain ⟨connection, -, -, rfl⟩ := onSocket_some stepped
  cases flag : client.closed with
  | true =>
      refine .inl ⟨?_, rfl⟩
      rw [onClose, setPhase_closed, flag, if_pos rfl, ledger_setPhase]
  | false =>
      refine .inr ⟨?_, rfl⟩
      rw [onClose, setPhase_closed, flag, if_neg Bool.false_ne_true]
      exact congrArg Prod.fst ledger_tellDisconnected

end MeshTalk.Ipc
