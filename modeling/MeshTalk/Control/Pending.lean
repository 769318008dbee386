import MeshTalk.Control.Reactions
import Mathlib.Algebra.BigOperators.Group.List.Basic

namespace MeshTalk.Control

open MeshTalk.Library ControlState

/-! # The pending messages of the Worker

The three counters follow the messages that are queued or in the loop, so that a
message can be released exactly once.
-/

def PendingTotals.of (entries : List Pending) : PendingTotals :=
  ⟨entries.length, (entries.map fun entry => (entry.bytes : Int)).sum⟩

namespace PendingTotals

variable {entries others : List Pending} {entry : Pending}

theorem of_cons : of (entry :: entries) = (of entries).add entry.bytes := by
  simp only [of, add, List.length_cons, List.map_cons, List.sum_cons, PendingTotals.mk.injEq]
  omega

theorem add_sub {totals : PendingTotals} {bytes : Nat} : (totals.add bytes).sub bytes = totals := by
  cases totals
  simp [add, sub]

theorem of_perm (perm : entries.Perm others) : of entries = of others := by
  rw [of, of, perm.length_eq, (perm.map _).sum_eq]

/-- Fewer entries count for less. -/
theorem of_sublist (fewer : others.Sublist entries) :
    (of others).messages ≤ (of entries).messages ∧ (of others).bytes ≤ (of entries).bytes := by
  induction fewer with
  | slnil => exact ⟨le_refl _, le_refl _⟩
  | cons entry fewer ih =>
      simp only [of_cons, add]
      omega
  | cons_cons entry fewer ih =>
      simp only [of_cons, add]
      omega

theorem of_subperm (fewer : others.Subperm entries) :
    (of others).messages ≤ (of entries).messages ∧ (of others).bytes ≤ (of entries).bytes := by
  obtain ⟨sublist, perm, inside⟩ := fewer
  rw [← of_perm perm]
  exact of_sublist inside

theorem of_messages : (of entries).messages = 0 ↔ entries = [] := by
  simp [of, List.length_eq_zero_iff]

end PendingTotals

/-- At most so many messages and bytes. -/
structure PendingTotals.Within (totals : PendingTotals) (messages bytes : Nat) : Prop where
  messages : totals.messages ≤ messages
  bytes : totals.bytes ≤ bytes

theorem PendingTotals.Within.subperm {entries others : List Pending} {messages bytes : Nat}
    (within : (of entries).Within messages bytes) (fewer : others.Subperm entries) : (of others).Within messages bytes where
  messages := (of_subperm fewer).1.trans within.messages
  bytes := (of_subperm fewer).2.trans within.bytes

def sentBy (socket : Socket) (entries : List Pending) : List Pending := entries.filter fun entry => entry.socket = socket

theorem sentBy_cons {socket : Socket} {entry : Pending} {entries : List Pending} : sentBy socket (entry :: entries) =
    if entry.socket = socket then entry :: sentBy socket entries else sentBy socket entries := by
  rw [sentBy, List.filter_cons]
  by_cases own : entry.socket = socket <;> simp [own, sentBy]

theorem sentBy_append {socket : Socket} {first second : List Pending} :
    sentBy socket (first ++ second) = sentBy socket first ++ sentBy socket second := List.filter_append ..

namespace WorkerState

/-- The entries of one address. -/
def entriesAt (worker : WorkerState) (ip : Address) (entries : List Pending) : List Pending :=
  entries.filter fun entry => (worker.data entry.socket).ip = ip

/-- The counters agree with the entries they account for. -/
structure Accounted (worker : WorkerState) (entries : List Pending) : Prop where
  total : worker.pending = .of entries
  client : ∀ socket, worker.clientTotals socket = .of (sentBy socket entries)
  address : ∀ ip, worker.pendingByIp.get? ip =
    if worker.entriesAt ip entries = [] then none else some (.of (worker.entriesAt ip entries))

/-- The entries stay within the limits. -/
structure Fits (worker : WorkerState) (entries : List Pending) : Prop where
  total : (PendingTotals.of entries).Within maxPendingMessages maxPendingMessageBytes
  client : ∀ socket, (PendingTotals.of (sentBy socket entries)).Within maxPendingMessagesPerClient maxPendingMessageBytesPerClient
  address : ∀ ip, (PendingTotals.of (worker.entriesAt ip entries)).Within maxPendingMessagesPerIp maxPendingMessageBytesPerIp

/-- The counters without an entry. -/
def release (worker : WorkerState) (entry : Pending) : WorkerState :=
  (worker.discount entry).setTotals (worker.data entry.socket).ip
    ((worker.addressTotals (worker.data entry.socket).ip).sub entry.bytes)

variable {worker : WorkerState} {entries others own : List Pending} {entry : Pending} {ip : Address}

theorem empty_accounted : Accounted empty [] := ⟨rfl, fun _ => rfl, fun _ => rfl⟩

theorem Fits.fewer {after : WorkerState} (fits : Fits worker entries) (fewer : others.Subperm entries)
    (same : ∀ entry ∈ others, (after.data entry.socket).ip = (worker.data entry.socket).ip) : Fits after others where
  total := fits.total.subperm fewer
  client := fun socket => (fits.client socket).subperm (fewer.filter _)
  address := by
    intro ip
    have unchanged : after.entriesAt ip others = worker.entriesAt ip others :=
      List.filter_congr fun entry member => by rw [same entry member]
    rw [unchanged]
    exact (fits.address ip).subperm (fewer.filter _)

theorem entriesAt_perm (perm : entries.Perm others) : (worker.entriesAt ip entries).Perm (worker.entriesAt ip others) :=
  perm.filter _

theorem Accounted.perm (accounted : Accounted worker entries) (perm : entries.Perm others) : Accounted worker others := by
  refine ⟨accounted.total.trans (PendingTotals.of_perm perm), ?_, ?_⟩
  · intro socket
    exact (accounted.client socket).trans (PendingTotals.of_perm (perm.filter _))
  · intro ip
    have same : (worker.entriesAt ip entries).Perm (worker.entriesAt ip others) := entriesAt_perm perm
    rw [accounted.address ip, PendingTotals.of_perm same]
    by_cases none : worker.entriesAt ip entries = []
    · rw [none] at same
      rw [if_pos none, if_pos same.nil_eq.symm]
    · rw [if_neg none, if_neg fun absent => none (by rw [absent] at same; exact same.eq_nil)]

/-- The counters of one address only depend on the addresses of the entries. -/
theorem Accounted.control {after : WorkerState} (accounted : Accounted worker entries) (pending : after.pending = worker.pending)
    (bySocket : after.pendingBySocket = worker.pendingBySocket) (byIp : after.pendingByIp = worker.pendingByIp)
    (same : ∀ entry ∈ entries, (after.data entry.socket).ip = (worker.data entry.socket).ip) : Accounted after entries := by
  refine ⟨pending.trans accounted.total, ?_, ?_⟩
  · intro socket
    rw [clientTotals, bySocket]
    exact accounted.client socket
  · intro ip
    have unchanged : after.entriesAt ip entries = worker.entriesAt ip entries :=
      List.filter_congr fun entry member => by rw [same entry member]
    rw [byIp, unchanged]
    exact accounted.address ip

theorem clientTotals_set {totals : PendingTotals} {socket other : Socket} :
    (match (worker.pendingBySocket.set socket totals).get? other with
      | some totals => totals
      | none => ⟨0, 0⟩) = if other = socket then totals else worker.clientTotals other := by
  rw [Dict.get?_set]
  by_cases same : other = socket
  · simp only [if_pos same]
  · simp only [if_neg same]
    rfl

theorem Accounted.addressTotals (accounted : Accounted worker entries) (ip : Address) :
    worker.addressTotals ip = .of (worker.entriesAt ip entries) := by
  rw [WorkerState.addressTotals, accounted.address ip]
  by_cases nobody : worker.entriesAt ip entries = []
  · rw [if_pos nobody, nobody]
    rfl
  · rw [if_neg nobody]

theorem Accounted.enqueue (accounted : Accounted worker entries) : Accounted (worker.enqueue entry) (entry :: entries) := by
  refine ⟨?_, ?_, ?_⟩
  · rw [PendingTotals.of_cons, ← accounted.total]
    rfl
  · intro socket
    have before := accounted.client socket
    change (match (worker.pendingBySocket.set entry.socket ((worker.clientTotals entry.socket).add entry.bytes)).get? socket with
      | some totals => totals
      | none => ⟨0, 0⟩) = _
    rw [clientTotals_set, sentBy_cons]
    by_cases own : entry.socket = socket
    · subst own
      rw [if_pos rfl, if_pos rfl, before, PendingTotals.of_cons]
    · rw [if_neg (Ne.symm own), if_neg own, before]
  · intro ip
    have before := accounted.address ip
    have counted := accounted.addressTotals ip
    have unchanged : ∀ others, (worker.enqueue entry).entriesAt ip others = worker.entriesAt ip others := fun _ => rfl
    change (worker.pendingByIp.set (worker.data entry.socket).ip
      ((worker.addressTotals (worker.data entry.socket).ip).add entry.bytes)).get? ip = _
    rw [Dict.get?_set, unchanged]
    by_cases own : (worker.data entry.socket).ip = ip
    · subst own
      have joined : worker.entriesAt (worker.data entry.socket).ip (entry :: entries) =
          entry :: worker.entriesAt (worker.data entry.socket).ip entries := by
        simp [entriesAt]
      rw [if_pos rfl, joined, if_neg (List.cons_ne_nil _ _), PendingTotals.of_cons, counted]
    · have apart : worker.entriesAt ip (entry :: entries) = worker.entriesAt ip entries := by
        simp [entriesAt, own]
      rw [if_neg (Ne.symm own), apart, before]

/-- A message that there is room for. -/
theorem Fits.enqueue (fits : Fits worker entries) (accounted : Accounted worker entries)
    (room : ¬ worker.full entry.socket entry.bytes) : Fits (worker.enqueue entry) (entry :: entries) := by
  simp only [full, not_or, not_le, not_lt, accounted.total, accounted.client, accounted.addressTotals] at room
  obtain ⟨messages, bytes, clientMessages, clientBytes, addressMessages, addressBytes⟩ := room
  refine ⟨?_, fun socket => ?_, fun ip => ?_⟩
  · rw [PendingTotals.of_cons]
    exact ⟨Int.add_one_le_of_lt messages, bytes⟩
  · rw [sentBy_cons]
    split
    · rename_i own
      subst own
      rw [PendingTotals.of_cons]
      exact ⟨Int.add_one_le_of_lt clientMessages, clientBytes⟩
    · exact fits.client socket
  · have unchanged : (worker.enqueue entry).entriesAt ip (entry :: entries) = worker.entriesAt ip (entry :: entries) := rfl
    rw [unchanged, entriesAt, List.filter_cons]
    by_cases own : (worker.data entry.socket).ip = ip
    · subst own
      rw [if_pos (decide_eq_true rfl), PendingTotals.of_cons]
      exact ⟨Int.add_one_le_of_lt addressMessages, addressBytes⟩
    · rw [if_neg (by simpa using own)]
      exact fits.address ip

/-- An entry that is accounted for can be released. -/
theorem Accounted.release (accounted : Accounted worker (entry :: entries)) :
    Worker.releasePending entry worker = (.ok ⟨⟩, worker.release entry) ∧ Accounted (worker.release entry) entries := by
  have joined : worker.entriesAt (worker.data entry.socket).ip (entry :: entries) =
      entry :: worker.entriesAt (worker.data entry.socket).ip entries := by
    simp [entriesAt]
  have found := accounted.address (worker.data entry.socket).ip
  rw [joined, if_neg (List.cons_ne_nil _ _), PendingTotals.of_cons] at found
  have held : worker.addressTotals (worker.data entry.socket).ip =
      (PendingTotals.of (worker.entriesAt (worker.data entry.socket).ip entries)).add entry.bytes := by
    rw [accounted.addressTotals, joined, PendingTotals.of_cons]
  refine ⟨?_, ?_, ?_, ?_⟩
  · have kept : (worker.discount entry).pendingByIp.get? ((worker.discount entry).data entry.socket).ip =
        some ((PendingTotals.of (worker.entriesAt (worker.data entry.socket).ip entries)).add entry.bytes) := found
    rw [Worker.releasePending]
    change (Handler.orRaise ((worker.discount entry).pendingByIp.get? ((worker.discount entry).data entry.socket).ip) _ >>= _ :
      WorkerHandler PUnit) (worker.discount entry) = _
    rw [kept, WorkerState.release, held]
    rfl
  · have total := accounted.total
    change worker.pending.sub entry.bytes = _
    rw [total, PendingTotals.of_cons, PendingTotals.add_sub]
  · intro socket
    have before := accounted.client socket
    change (match (worker.pendingBySocket.set entry.socket ((worker.clientTotals entry.socket).sub entry.bytes)).get? socket with
      | some totals => totals
      | none => ⟨0, 0⟩) = _
    rw [clientTotals_set]
    rw [sentBy_cons] at before
    by_cases own : entry.socket = socket
    · subst own
      rw [if_pos rfl, PendingTotals.of_cons] at before
      rw [if_pos rfl, before, PendingTotals.add_sub]
    · rw [if_neg own] at before
      rw [if_neg (Ne.symm own), before]
  · intro ip
    have before := accounted.address ip
    have unchanged : ∀ others, (worker.release entry).entriesAt ip others = worker.entriesAt ip others := fun _ => rfl
    rw [unchanged]
    have table : (worker.release entry).pendingByIp = if ((worker.addressTotals (worker.data entry.socket).ip).sub entry.bytes).messages = 0
        then worker.pendingByIp.erase (worker.data entry.socket).ip
        else worker.pendingByIp.set (worker.data entry.socket).ip
          ((worker.addressTotals (worker.data entry.socket).ip).sub entry.bytes) := rfl
    rw [table, held, PendingTotals.add_sub]
    by_cases own : (worker.data entry.socket).ip = ip
    · rw [own]
      by_cases nobody : worker.entriesAt ip entries = []
      · rw [if_pos (PendingTotals.of_messages.mpr nobody), Dict.get?_erase, if_pos rfl, if_pos nobody]
      · rw [if_neg fun zero => nobody (PendingTotals.of_messages.mp zero), Dict.get?_set, if_pos rfl, if_neg nobody]
    · have apart : worker.entriesAt ip (entry :: entries) = worker.entriesAt ip entries := by
        simp [entriesAt, own]
      rw [apart] at before
      rw [← before]
      split
      · rw [Dict.get?_erase, if_neg (Ne.symm own)]
      · rw [Dict.get?_set, if_neg (Ne.symm own)]

/-- Only the counters differ. -/
structure SameLoop (after before : WorkerState) : Prop where
  control : after.control = before.control
  queue : after.queue = before.queue
  admitted : after.admitted = before.admitted
  begun : after.begun = before.begun
  stage : after.stage = before.stage

/-- The entries of a client are released one after the other. -/
theorem Accounted.releaseAll (accounted : Accounted worker (own ++ others)) :
    ∃ after, Handler.forEach own Worker.releasePending worker = (.ok ⟨⟩, after) ∧ Accounted after others ∧
      after.SameLoop worker := by
  induction own generalizing worker with
  | nil => exact ⟨worker, rfl, accounted, rfl, rfl, rfl, rfl, rfl⟩
  | cons entry rest ih =>
      obtain ⟨released, remaining⟩ := accounted.release
      obtain ⟨after, ran, left, same⟩ := ih remaining
      refine ⟨after, ?_, left, same.control, same.queue, same.admitted, same.begun, same.stage⟩
      rw [Handler.forEach, Handler.bind_apply, released]
      exact ran

end WorkerState

end MeshTalk.Control
