import MeshTalk.Control.Bun

namespace MeshTalk.Control

open MeshTalk.Library

/-! # The Worker

Messages are admitted to one queue, and a single loop handles them one by one.
It waits at three places: twice in a registration, for the digest and for the
signature, and after every message.  Events of the clients run in between.
-/

structure Pending where
  socket : Socket
  message : ControlMessage
  bytes : Nat
deriving Repr, DecidableEq

/-- Where the loop waits. -/
inductive Stage where
  | hashing (entry : Pending) (signed : SignedRegistration)
  | verifying (entry : Pending) (signed : SignedRegistration)
  /-- The message has been handled; `failure` is what escaped from its handler. -/
  | handled (entry : Pending) (failure : Option String)

def Stage.entry : Stage → Pending
  | .hashing entry _ => entry
  | .verifying entry _ => entry
  | .handled entry _ => entry

structure PendingTotals where
  messages : Int
  bytes : Int
deriving Repr, DecidableEq

def PendingTotals.add (totals : PendingTotals) (bytes : Nat) : PendingTotals := ⟨totals.messages + 1, totals.bytes + bytes⟩

def PendingTotals.sub (totals : PendingTotals) (bytes : Nat) : PendingTotals := ⟨totals.messages - 1, totals.bytes - bytes⟩

/-- `stage` is absent when nothing is draining the queue.  The two pending counters
of a client's data are kept here, by socket.  `admitted` and `begun` record every
message that was queued and every one that was taken from the queue. -/
structure WorkerState where
  control : ControlState
  queue : List Pending
  admitted : List Pending
  begun : List Pending
  stage : Option Stage
  pending : PendingTotals
  pendingBySocket : Dict Socket PendingTotals
  pendingByIp : Dict Address PendingTotals

abbrev WorkerHandler := Handler WorkerState String

/-- A handler of the tables that both runtimes have. -/
def onControl (handler : ControlHandler α) : WorkerHandler α := fun worker =>
  match handler worker.control with
  | (outcome, control) => (outcome, { worker with control := control })

/-- What clients do, a transport error, and the end of what the loop waits for. -/
inductive WorkerEvent where
  | client (event : ClientEvent)
  | error (socket : Socket)
  | resume

/-- An event with the clock and with the sockets whose `send` raises. -/
structure WorkerTurn where
  now : Int
  failing : Socket → Bool
  event : WorkerEvent

namespace WorkerState

def empty : WorkerState where
  control := .empty
  queue := []
  admitted := []
  begun := []
  stage := none
  pending := ⟨0, 0⟩
  pendingBySocket := ∅
  pendingByIp := ∅

def data (worker : WorkerState) (socket : Socket) : ClientData := worker.control.data socket

def clientTotals (worker : WorkerState) (socket : Socket) : PendingTotals :=
  match worker.pendingBySocket.get? socket with
  | some totals => totals
  | none => ⟨0, 0⟩

def addressTotals (worker : WorkerState) (ip : Address) : PendingTotals :=
  match worker.pendingByIp.get? ip with
  | some totals => totals
  | none => ⟨0, 0⟩

def enqueue (worker : WorkerState) (entry : Pending) : WorkerState :=
  let ip := (worker.data entry.socket).ip
  { worker with
    queue := worker.queue ++ [entry]
    admitted := worker.admitted ++ [entry]
    pending := worker.pending.add entry.bytes
    pendingBySocket := worker.pendingBySocket.set entry.socket ((worker.clientTotals entry.socket).add entry.bytes)
    pendingByIp := worker.pendingByIp.set ip ((worker.addressTotals ip).add entry.bytes) }

/-- No room in the queue for a message of so many bytes. -/
def full (worker : WorkerState) (socket : Socket) (bytes : Nat) : Prop :=
  let client := worker.clientTotals socket
  let address := worker.addressTotals (worker.data socket).ip
  maxPendingMessages ≤ worker.pending.messages ∨ maxPendingMessageBytes < worker.pending.bytes + bytes ∨
    maxPendingMessagesPerClient ≤ client.messages ∨ maxPendingMessageBytesPerClient < client.bytes + bytes ∨
    maxPendingMessagesPerIp ≤ address.messages ∨ maxPendingMessageBytesPerIp < address.bytes + bytes

instance {worker : WorkerState} {socket : Socket} {bytes : Nat} : Decidable (worker.full socket bytes) :=
  inferInstanceAs (Decidable (_ ∨ _))

/-- The counters of the client and of the service without the entry. -/
def discount (worker : WorkerState) (entry : Pending) : WorkerState :=
  { worker with
    pending := worker.pending.sub entry.bytes
    pendingBySocket := worker.pendingBySocket.set entry.socket ((worker.clientTotals entry.socket).sub entry.bytes) }

/-- An address without pending messages is forgotten. -/
def setTotals (worker : WorkerState) (ip : Address) (totals : PendingTotals) : WorkerState :=
  { worker with
    pendingByIp := if totals.messages = 0 then worker.pendingByIp.erase ip else worker.pendingByIp.set ip totals }

def setStage (worker : WorkerState) (stage : Option Stage) : WorkerState := { worker with stage := stage }

def dropQueued (worker : WorkerState) (socket : Socket) : WorkerState :=
  { worker with queue := worker.queue.filter fun entry => entry.socket ≠ socket }

end WorkerState

namespace Worker

section

variable (context : Context)

def releasePending (entry : Pending) : WorkerHandler PUnit := do
  Handler.change fun worker => worker.discount entry
  let worker ← Handler.read
  let ip := (worker.data entry.socket).ip
  let totals ← Handler.orRaise (worker.pendingByIp.get? ip) "undefined is not an object"
  Handler.change fun worker => worker.setTotals ip (totals.sub entry.bytes)

/-- The client and what it has queued go at once, even while its registration waits. -/
def handleClose (socket : Socket) : WorkerHandler PUnit := do
  let worker ← Handler.read
  if (worker.data socket).closed then pure ⟨⟩
  else do
    Handler.change fun worker => { worker with control := worker.control.markClosed socket }
    Handler.forEach (worker.queue.filter fun entry => entry.socket = socket) releasePending
    Handler.change fun worker => worker.dropQueued socket
    onControl (detach context socket)

def putClosed (socket : Socket) (code : Nat) : WorkerHandler PUnit :=
  Handler.change fun worker => { worker with control := worker.control.put (.closed socket code) }

def rejectClient (socket : Socket) (text : String) : WorkerHandler PUnit := do
  handleClose context socket
  (onControl (send context socket (.error text))).recover fun _ => pure ⟨⟩
  putClosed socket 1008

/-! ## The loop -/

def replacePrevious (previous : Option Socket) : WorkerHandler PUnit :=
  match previous with
  | none => pure ⟨⟩
  | some previous => do
      handleClose context previous
      putClosed previous 4000

/-- The end of `registerDevice`, after both of its waits. -/
def commitRegistration (socket : Socket) (peerId : PeerId) : WorkerHandler PUnit := do
  let worker ← Handler.read
  if (worker.data socket).closed then pure ⟨⟩
  else do
    let previous ← onControl (takeIdentity socket peerId)
    replacePrevious context previous
    onControl (confirmRegistration context socket peerId)

/-- A message that needs no registration of its own. -/
def handleRegistered (socket : Socket) (message : ControlMessage) : ControlHandler PUnit := do
  let control ← Handler.read
  Handler.refuse ((control.data socket).peerId = none) "Device registration required"
  match message.relayed? with
  | some (recipientId, payload) => relayDatagram context socket recipientId payload
  | none => handleRoomMessage context socket message

/-- A part of `handleMessage` between two waits, with its `catch`; where the
handling goes on is its value. -/
def handling (entry : Pending) (body : WorkerHandler Stage) : WorkerHandler PUnit := fun worker =>
  match body.recover (fun text => do
      rejectClient context entry.socket text
      pure (.handled entry none)) worker with
  | (.ok stage, next) => (.ok ⟨⟩, next.setStage (some stage))
  | (.error text, next) => (.ok ⟨⟩, next.setStage (some (.handled entry (some text))))

/-- `handleMessage` up to its first wait. -/
def beginMessage (entry : Pending) : WorkerHandler PUnit :=
  handling context entry do
    let worker ← Handler.read
    if (worker.data entry.socket).closed then pure (.handled entry none)
    else if entry.message.type = .deviceRegister then do
      let signed ← onControl (readRegistration context entry.socket entry.message)
      pure (.hashing entry signed)
    else do
      onControl (handleRegistered context entry.socket entry.message)
      pure (.handled entry none)

/-- The head of the loop. -/
def nextMessage : WorkerHandler PUnit := do
  let worker ← Handler.read
  match worker.queue with
  | [] => Handler.change fun worker => worker.setStage none
  | entry :: rest => do
      Handler.change fun worker => { worker with queue := rest, begun := worker.begun ++ [entry] }
      beginMessage context entry

def drainQueue : WorkerHandler PUnit := do
  let worker ← Handler.read
  if worker.stage.isSome then pure ⟨⟩ else nextMessage context

/-- After the wait for the handler: its `catch`, and `finally`. -/
def finishMessage (entry : Pending) (failure : Option String) : WorkerHandler PUnit := do
  (match failure with
    | some text => rejectClient context entry.socket text
    | none => pure ⟨⟩).ensuring (releasePending entry)
  nextMessage context

/-- The loop goes on from where it waits. -/
def resume (stage : Stage) : WorkerHandler PUnit :=
  match stage with
  | .hashing entry signed =>
      handling context entry do
        onControl (checkDigest context signed)
        pure (.verifying entry signed)
  | .verifying entry signed =>
      handling context entry do
        onControl (checkSignature context signed)
        commitRegistration context entry.socket signed.registration.peerId
        pure (.handled entry none)
  | .handled entry failure => (finishMessage context entry failure).onRaise fun worker => worker.setStage none

/-! ## Events -/

/-- The rate limits are charged before the message is queued. -/
def admitParsed (socket : Socket) (raw : Raw) : WorkerHandler PUnit :=
  match raw.content with
  | .malformed => Handler.raise "Unexpected token"
  | .null => Handler.raise "Invalid control message"
  | .bare => Handler.raise "Invalid control message"
  | .object message => do
      onControl (match message.relayed? with
        | some _ => checkRelayRateLimit context socket
        | none => checkRateLimit context socket message.type)
      Handler.change fun worker => worker.enqueue ⟨socket, message, raw.bytes⟩
      drainQueue context

def admitChecked (socket : Socket) (raw : Raw) : WorkerHandler PUnit := do
  Handler.refuse (maxControlMessageBytes < raw.length) "Control message is too large"
  Handler.refuse (maxControlMessageBytes < raw.bytes) "Control message is too large"
  let worker ← Handler.read
  Handler.refuse (worker.full socket raw.bytes) "Control message queue is full"
  admitParsed context socket raw

def admitMessage (socket : Socket) (raw : Raw) : WorkerHandler PUnit := do
  let worker ← Handler.read
  if (worker.data socket).closed then pure ⟨⟩
  else (admitChecked context socket raw).recover (rejectClient context socket)

/-- The listener of `close`, which answers with a close of its own. -/
def closed (socket : Socket) : WorkerHandler PUnit := do
  handleClose context socket
  putClosed socket 1000

end

def context (deployment : Deployment) (now : Int) (failing : Socket → Bool) : Context where
  runtime := .worker
  relayEnabled := deployment.relayEnabled
  crypto := deployment.crypto
  now := now
  failing := failing

def step (deployment : Deployment) (worker : WorkerState) (turn : WorkerTurn) : Option WorkerState :=
  let start := { worker with control := worker.control.quiet }
  let context := context deployment turn.now turn.failing
  let known (socket : Socket) : Bool := worker.control.sockets.contains socket
  match turn.event with
  | .client (.connect socket ip challengeId challenge) =>
      if known socket then none
      else if worker.control.admits ip then
        some ((onControl (openClient context socket ip challengeId challenge)).finish start)
      else some start
  | .client (.message socket raw) => if known socket then some ((admitMessage context socket raw).finish start) else none
  | .client (.close socket) => if known socket then some ((closed context socket).finish start) else none
  | .error socket => if known socket then some ((rejectClient context socket "WebSocket error").finish start) else none
  | .resume => worker.stage.map fun stage => (resume context stage).finish start

end Worker

end MeshTalk.Control
