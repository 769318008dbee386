import Mathlib.Algebra.Order.Ring.Rat
import MeshTalk.Deliveries.Statuses
import MeshTalk.Library.Windows

namespace MeshTalk.Deliveries

open MeshTalk.Library MeshTalk.Protocol MeshTalk.Store MeshTalk.Files

/-! # Resend requests over every interval

`_reserve_resend` counts the requests of a peer and their bytes from the first
request on, and begins again with the first request a minute later.
-/

/-- The file bytes of a chunk: the last one may be shorter. -/
def chunkLength (transfer : FileTransfer) (index : Nat) : Nat :=
  min transfer.chunkSize (transfer.fileSize - index * transfer.chunkSize)

/-- The file bytes of the chunks that are sent again for some ranges. -/
def resentBytes (transfer : FileTransfer) (ranges : List (Nat × Nat)) : Nat :=
  ((rangeIndices ranges).map (chunkLength transfer)).sum

/-- A request that has passed the checks before `_reserve_resend`. -/
structure ResendRequest where
  peerId : PeerId
  transfer : FileTransfer
  ranges : List (Nat × Nat)
  chunked : transfer.totalChunks = (transfer.fileSize + transfer.chunkSize - 1) / transfer.chunkSize
  ordered : ∀ range ∈ ranges, range.1 ≤ range.2
  within : ∀ range ∈ ranges, range.2 < transfer.totalChunks

namespace ResendRequest

def bytes (request : ResendRequest) : Nat := resentBytes request.transfer request.ranges

def reserve (request : ResendRequest) : Program Bool := reserveResend request.peerId request.transfer request.ranges

end ResendRequest

structure ResendCall where
  request : ResendRequest
  fate : SendFate

namespace ResendCall

def peerId (call : ResendCall) : PeerId := call.request.peerId

def now (call : ResendCall) : Time := call.fate.monotonic

def bytes (call : ResendCall) : Nat := call.request.bytes

end ResendCall

/-- `honoured` and `clock` are auxiliary: the calls honoured so far, and the time of
the last one. -/
structure ResendRun where
  sender : Sender
  honoured : List ResendCall
  clock : Time

namespace ResendRun

/-- A request arrives; the clock does not go back. -/
def step (state : ResendRun) (call : ResendCall) : Option ResendRun :=
  if state.clock ≤ call.now then
    match call.request.reserve.resume call.fate state.sender with
    | some (.done true, sender) => some { sender, honoured := state.honoured ++ [call], clock := call.now }
    | some (.done false, sender) => some { sender, honoured := state.honoured, clock := call.now }
    | _ => none
  else none

variable (state : ResendRun)

def honouredOf (peerId : PeerId) : List ResendCall := state.honoured.filter fun call => call.peerId = peerId

/-- How many requests of a peer were honoured in the minute that begins at `start`. -/
def honouredWithin (peerId : PeerId) (start : Time) : Nat :=
  windowTotal ResendCall.now (fun _ => 1) resendWindow start (state.honouredOf peerId)

/-- The file bytes they made the sender send again. -/
def resentWithin (peerId : PeerId) (start : Time) : Nat :=
  windowTotal ResendCall.now ResendCall.bytes resendWindow start (state.honouredOf peerId)

/-- The minute that began with an honoured request of the peer is not over. -/
def Counting (call : ResendCall) : Prop :=
  ∃ usage, state.sender.resendUsage.get? call.peerId = some usage ∧ call.now - usage.1 < resendWindow

/-- A request that begins a new minute has no honoured one of its peer less than a minute before it. -/
def BeginsAfterPause (call : ResendCall) : Prop :=
  state.Counting call ∨ ∀ earlier ∈ state.honouredOf call.peerId, resendWindow ≤ call.now - earlier.now

instance : Decidable (state.Counting call) :=
  decidable_of_iff (∃ usage ∈ state.sender.resendUsage.get? call.peerId, call.now - usage.1 < resendWindow) Iff.rfl

instance : Decidable (state.BeginsAfterPause call) := inferInstanceAs (Decidable (_ ∨ _))

def begin (sender : Sender) (clock : Time) : ResendRun := { sender, honoured := [], clock }

end ResendRun

/-! ## Bytes -/

theorem chunkLength_range {transfer : FileTransfer} {start count : Nat} :
    ((List.range' start count).map (chunkLength transfer)).sum =
      min transfer.fileSize ((start + count) * transfer.chunkSize) - start * transfer.chunkSize := by
  induction count with
  | zero => simp
  | succ count ih =>
      have next : (start + (count + 1)) * transfer.chunkSize = (start + count) * transfer.chunkSize + transfer.chunkSize := by
        rw [← Nat.add_assoc, Nat.succ_mul]
      have later : start * transfer.chunkSize ≤ (start + count) * transfer.chunkSize :=
        Nat.mul_le_mul_right _ (Nat.le_add_right start count)
      rw [List.range'_concat, List.map_append, List.sum_append, ih, List.map_singleton, List.sum_singleton, Nat.one_mul,
        chunkLength, next]
      omega

/-- What `_reserve_resend` adds up is what the chunks of the ranges hold. -/
theorem requestedBytes_eq {transfer : FileTransfer} {ranges : List (Nat × Nat)}
    (ordered : ∀ range ∈ ranges, range.1 ≤ range.2) : requestedBytes transfer ranges = resentBytes transfer ranges := by
  induction ranges with
  | nil => rfl
  | cons range rest ih =>
      have ends : range.1 + (range.2 + 1 - range.1) = range.2 + 1 := by
        have := ordered range (List.mem_cons_self ..)
        omega
      have others := ih fun other member => ordered other (List.mem_cons_of_mem _ member)
      rw [requestedBytes] at others ⊢
      rw [resentBytes, rangeIndices] at others ⊢
      rw [List.map_cons, List.sum_cons, others, List.flatMap_cons, List.map_append, List.sum_append, chunkLength_range, ends]

/-! ## One request -/

variable {state next : ResendRun} {call : ResendCall} {sender : Sender} {peerId : PeerId}

/-- What is counted against a peer when a request arrives. -/
def usageAt (sender : Sender) (call : ResendCall) : Time × Nat × Nat :=
  ((pruneResendUsage sender call.now).resendUsage.get? call.peerId).getD (call.now, 0, 0)

theorem reserve_cases : ∃ granted after, call.request.reserve.resume call.fate sender = some (.done granted, after) ∧
    ((granted = false ∧ after.resendUsage = (pruneResendUsage sender call.now).resendUsage) ∨
      (granted = true ∧ (usageAt sender call).2.1 < maxResendRequestsPerPeer ∧
        (usageAt sender call).2.2 + call.bytes ≤ maxResendBytesPerPeer ∧
        after.resendUsage = (pruneResendUsage sender call.now).resendUsage.set call.peerId
          ((usageAt sender call).1, (usageAt sender call).2.1 + 1, (usageAt sender call).2.2 + call.bytes))) := by
  have bytes : requestedBytes call.request.transfer call.request.ranges = call.bytes := requestedBytes_eq call.request.ordered
  simp only [ResendRequest.reserve, reserveResend, Task.perform, Task.resume, if_true, Handler.bind_apply, Handler.change,
    Handler.read, bytes]
  split
  · exact ⟨false, _, rfl, .inl ⟨rfl, rfl⟩⟩
  · rename_i free
    simp only [not_or, not_le, not_lt] at free
    exact ⟨true, _, rfl, .inr ⟨rfl, free.2.2.1, free.2.2.2.1, rfl⟩⟩

/-- What a request does. -/
theorem step_cases (stepped : state.step call = some next) :
    state.clock ≤ call.now ∧ next.clock = call.now ∧
      ((next.honoured = state.honoured ∧
          next.sender.resendUsage = (pruneResendUsage state.sender call.now).resendUsage) ∨
        (next.honoured = state.honoured ++ [call] ∧
          (usageAt state.sender call).2.1 < maxResendRequestsPerPeer ∧
          (usageAt state.sender call).2.2 + call.bytes ≤ maxResendBytesPerPeer ∧
          next.sender.resendUsage = (pruneResendUsage state.sender call.now).resendUsage.set call.peerId
            ((usageAt state.sender call).1, (usageAt state.sender call).2.1 + 1,
              (usageAt state.sender call).2.2 + call.bytes))) := by
  obtain ⟨granted, after, resumed, outcome⟩ := @reserve_cases call state.sender
  unfold ResendRun.step at stepped
  rw [resumed] at stepped
  split at stepped
  · rename_i later
    rcases outcome with ⟨rfl, usage⟩ | ⟨rfl, few, small, usage⟩
    · cases stepped
      exact ⟨later, rfl, .inl ⟨rfl, usage⟩⟩
    · cases stepped
      exact ⟨later, rfl, .inr ⟨rfl, few, small, usage⟩⟩
  · cases stepped

theorem get?_pruned {now : Time} : (pruneResendUsage sender now).resendUsage.get? peerId =
    (sender.resendUsage.get? peerId).filter fun usage => decide (now - usage.1 < resendWindow) := by
  change (sender.resendUsage.filter _).get? peerId = _
  rw [Dict.get?_filter]
  congr 1
  funext usage
  rw [← decide_not, decide_eq_decide, not_le]

/-! ## Runs -/

/-- A peer's books: the honoured requests since the minute began are counted, and
those before it were at least a minute before it. -/
def Counts (usage : Time × Nat × Nat) (honoured : List ResendCall) : Prop :=
  ∃ earlier counted, honoured = earlier ++ counted ∧ (∀ call ∈ earlier, resendWindow ≤ usage.1 - call.now) ∧
    counted.length = usage.2.1 ∧ (counted.map ResendCall.bytes).sum = usage.2.2

structure Limited (state : ResendRun) : Prop where
  counts : ∀ peerId usage, state.sender.resendUsage.get? peerId = some usage →
    usage.1 ≤ state.clock ∧ Counts usage (state.honouredOf peerId)
  requests : ∀ peerId, Paced ResendCall.now (fun _ => 1) resendWindow maxResendRequestsPerPeer (state.honouredOf peerId)
  bytes : ∀ peerId, Paced ResendCall.now ResendCall.bytes resendWindow maxResendBytesPerPeer (state.honouredOf peerId)

theorem honouredOf_append (changed : next.honoured = state.honoured ++ [call]) :
    next.honouredOf peerId = if peerId = call.peerId then state.honouredOf peerId ++ [call] else state.honouredOf peerId := by
  rw [ResendRun.honouredOf, changed, List.filter_append]
  by_cases own : peerId = call.peerId
  · rw [if_pos own, List.filter_singleton, decide_eq_true own.symm]
    rfl
  · rw [if_neg own, List.filter_singleton, decide_eq_false (Ne.symm own)]
    exact List.append_nil _

/-- What is counted against a peer when a request arrives. -/
theorem Limited.usageAt (limited : Limited state) (later : state.clock ≤ call.now) (paused : state.BeginsAfterPause call) :
    Counts (usageAt state.sender call) (state.honouredOf call.peerId) ∧ (Deliveries.usageAt state.sender call).1 ≤ call.now := by
  rcases paused with ⟨usage, known, running⟩ | paused
  · have kept : Deliveries.usageAt state.sender call = usage := by
      rw [Deliveries.usageAt, get?_pruned, known, Option.filter_some, decide_eq_true running]
      rfl
    obtain ⟨begun, counts⟩ := limited.counts call.peerId usage known
    rw [kept]
    exact ⟨counts, begun.trans later⟩
  · cases kept : (pruneResendUsage state.sender call.now).resendUsage.get? call.peerId with
    | none =>
        rw [Deliveries.usageAt, kept]
        exact ⟨⟨state.honouredOf call.peerId, [], (List.append_nil _).symm, paused, rfl, rfl⟩, le_refl _⟩
    | some usage =>
        have known := kept
        rw [get?_pruned] at known
        obtain ⟨begun, counts⟩ := limited.counts call.peerId usage (Option.filter_eq_some_iff.mp known).1
        rw [Deliveries.usageAt, kept]
        exact ⟨counts, begun.trans later⟩

/-- The requests before the minute that is counted weigh nothing any more. -/
theorem Counts.recentTotal_le {usage : Time × Nat × Nat} {honoured : List ResendCall} {now : Time}
    (counts : Counts usage honoured) (later : usage.1 ≤ now) :
    recentTotal ResendCall.now (fun _ => 1) resendWindow now honoured ≤ usage.2.1 ∧
      recentTotal ResendCall.now ResendCall.bytes resendWindow now honoured ≤ usage.2.2 := by
  obtain ⟨earlier, counted, rfl, old, count, size⟩ := counts
  have older : ∀ call ∈ earlier, resendWindow ≤ now - call.now := fun call member =>
    (old call member).trans (sub_le_sub_right later call.now)
  refine ⟨?_, ?_⟩
  · have total := @recentTotal_le_total _ _ _ _ ResendCall.now (fun _ => 1) resendWindow now counted
    rw [List.map_const', List.sum_replicate_nat, Nat.mul_one, count] at total
    rw [recentTotal_append, recentTotal_of_old older, Nat.zero_add]
    exact total
  · have total := @recentTotal_le_total _ _ _ _ ResendCall.now ResendCall.bytes resendWindow now counted
    rw [recentTotal_append, recentTotal_of_old older, Nat.zero_add, ← size]
    exact total

theorem Counts.append {usage : Time × Nat × Nat} {honoured : List ResendCall} (counts : Counts usage honoured) :
    Counts (usage.1, usage.2.1 + 1, usage.2.2 + call.bytes) (honoured ++ [call]) := by
  obtain ⟨earlier, counted, rfl, old, count, size⟩ := counts
  refine ⟨earlier, counted ++ [call], List.append_assoc .., old, ?_, ?_⟩
  · rw [List.length_append, count, List.length_singleton]
  · rw [List.map_append, List.sum_append, size, List.map_singleton, List.sum_singleton]

theorem step_limited (limited : Limited state) (paused : state.BeginsAfterPause call) (stepped : state.step call = some next) :
    Limited next := by
  obtain ⟨later, clock, ⟨same, usage⟩ | ⟨grown, few, small, usage⟩⟩ := step_cases stepped
  · have log : ∀ peerId, next.honouredOf peerId = state.honouredOf peerId := fun peerId => by
      rw [ResendRun.honouredOf, same]
      rfl
    refine ⟨fun peerId found known => ?_, fun peerId => ?_, fun peerId => ?_⟩
    · rw [usage, get?_pruned] at known
      obtain ⟨begun, counts⟩ := limited.counts peerId found (Option.filter_eq_some_iff.mp known).1
      rw [log, clock]
      exact ⟨begun.trans later, counts⟩
    · rw [log]
      exact limited.requests peerId
    · rw [log]
      exact limited.bytes peerId
  · obtain ⟨counts, begun⟩ := limited.usageAt later paused
    obtain ⟨recentCount, recentBytes⟩ := counts.recentTotal_le begun
    refine ⟨fun peerId found known => ?_, fun peerId => ?_, fun peerId => ?_⟩
    · rw [usage, Dict.get?_set] at known
      rw [honouredOf_append grown, clock]
      split at known
      · rename_i own
        subst own
        cases known
        rw [if_pos rfl]
        exact ⟨begun, counts.append⟩
      · rename_i other
        rw [get?_pruned] at known
        obtain ⟨earlier, counted⟩ := limited.counts peerId found (Option.filter_eq_some_iff.mp known).1
        rw [if_neg other]
        exact ⟨earlier.trans later, counted⟩
    · rw [honouredOf_append grown]
      split
      · rename_i own
        subst own
        exact (limited.requests call.peerId).append (Nat.succ_le_of_lt (Nat.lt_of_le_of_lt recentCount few))
      · exact limited.requests peerId
    · rw [honouredOf_append grown]
      split
      · rename_i own
        subst own
        exact (limited.bytes call.peerId).append ((Nat.add_le_add_right recentBytes _).trans small)
      · exact limited.bytes peerId

theorem begin_limited {clock : Time} (empty : sender.resendUsage = ∅) : Limited (.begin sender clock) where
  counts := fun peerId usage known => by
    rw [ResendRun.begin, empty] at known
    cases known
  requests := fun _ => paced_nil
  bytes := fun _ => paced_nil

/-- Where no request that begins a new minute of its peer comes less than a minute
after an honoured one, the requests that are honoured in any minute and the file
bytes they make the sender send again stay within the limits of a peer. -/
theorem resends_are_limited {clock : Time} {calls : List ResendCall} {final : ResendRun} (empty : sender.resendUsage = ∅)
    (meets : Meets ResendRun.step ResendRun.BeginsAfterPause (.begin sender clock) calls)
    (completed : run ResendRun.step (.begin sender clock) calls = some final) (peerId : PeerId) (start : Time) :
    final.honouredWithin peerId start ≤ maxResendRequestsPerPeer ∧
      final.resentWithin peerId start ≤ maxResendBytesPerPeer := by
  have limited : Limited final := run_invariant Limited
    (fun _ _ _ limited paused stepped => step_limited limited paused stepped) (begin_limited empty) meets completed
  exact ⟨(limited.requests peerId).windowTotal_le, (limited.bytes peerId).windowTotal_le⟩

/-- Bob asks for the only chunk of a file. -/
def bobRequest : ResendRequest where
  peerId := "bob"
  transfer :=
    { fileId := documentId, filename := "document", fileSize := 64, chunkSize := maxFileChunkSize, totalChunks := 1,
      senderId := "alice", recipientId := "bob", groupId := none, direction := .outbound, status := .sent,
      filePath := some ["document"], createdAt := 100000, completedAt := none, receivedChunks := 0, fileSha256 := "00",
      caption := "", batchId := none, batchIndex := none, batchCount := none, awaitingAckAt := none }
  ranges := [(0, 0)]
  chunked := by decide
  ordered := by decide
  within := by decide

def bobCall (monotonic : Time) : ResendCall where
  request := bobRequest
  fate := { now := 100000, monotonic, uuid := documentId, sendFails := false, readFails := false, order := [] }

theorem bob_is_limited : ∃ final, run ResendRun.step (.begin emptySender 0) ([0, 60].map bobCall) = some final ∧
    ∀ start, final.honouredWithin "bob" start ≤ maxResendRequestsPerPeer ∧
      final.resentWithin "bob" start ≤ maxResendBytesPerPeer := by
  have completed : (run ResendRun.step (.begin emptySender 0) ([0, 60].map bobCall)).isSome = true := by decide +kernel
  have meets : Meets ResendRun.step ResendRun.BeginsAfterPause (.begin emptySender 0) ([0, 60].map bobCall) := by
    decide +kernel
  obtain ⟨final, completed⟩ := Option.isSome_iff_exists.mp completed
  exact ⟨final, completed, resends_are_limited rfl meets completed "bob"⟩

/-- A request, 63 of them 59 seconds later and 64 another second later: the minute
that begins at the first second holds 127. -/
theorem bob_straddles_minutes :
    ∃ final, run ResendRun.step (.begin emptySender 0)
        ([bobCall 0] ++ List.replicate 63 (bobCall 59) ++ List.replicate 64 (bobCall 60)) = some final ∧
      maxResendRequestsPerPeer < final.honouredWithin "bob" 1 := by
  have checked : (run ResendRun.step (.begin emptySender 0)
      ([bobCall 0] ++ List.replicate 63 (bobCall 59) ++ List.replicate 64 (bobCall 60))).any (fun final =>
        decide (maxResendRequestsPerPeer < final.honouredWithin "bob" 1)) = true := by
    decide +kernel
  obtain ⟨final, completed, found⟩ := Option.any_eq_true .. |>.mp checked
  exact ⟨final, completed, of_decide_eq_true found⟩

end MeshTalk.Deliveries
