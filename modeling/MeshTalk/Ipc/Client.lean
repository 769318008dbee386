import MeshTalk.Library.BigEndian
import MeshTalk.Library.Dict
import MeshTalk.Library.Lines
import MeshTalk.Library.Machine
import MeshTalk.Mentions.Segments

namespace MeshTalk.Ipc

open MeshTalk.Library

/-! # The client of the backend's socket

`IPCClient` of the terminal and of the command line.  All sockets it ever makes feed
the same buffer, flags and map of pending requests.  Sockets, calls of `connect` and
requests are numbered in the order they are made.
-/

abbrev Text := List UInt16

/-- What is looked at of a parsed line; `id` where it can be that of a request. -/
structure Response where
  authenticated : Bool
  event : Bool
  id : Option Nat
  body : Text
deriving Repr, DecidableEq

/-- `Buffer.toString`, and `JSON.parse` where it gives a value that has properties. -/
structure Runtime where
  decode : Bytes → Text
  parse : Text → Option Response

/-- How a socket came about: to a port, to the Unix socket, or to a port after that failed. -/
inductive Route where
  | port
  | unix
  | fallback
deriving Repr, DecidableEq

/-- After an error or `destroy` a socket only closes. -/
inductive Phase where
  | opening
  | open
  | failed
  | destroyed
  | ended
deriving Repr, DecidableEq

structure Connection where
  route : Route
  call : Nat
  phase : Phase
deriving Repr, DecidableEq

/-- How the promise of a call of `connect` has settled. -/
inductive Outcome where
  | connected
  | refused (error : String)
deriving Repr, DecidableEq

/-- What a request has been resolved with; `closed` is the error of `onClose`. -/
inductive Answer where
  | response (response : Response)
  | closed
deriving Repr, DecidableEq

/-- What the handlers have been called with. -/
inductive Notice where
  | event (response : Response)
  | disconnected
deriving Repr, DecidableEq

inductive Written where
  | authenticate
  | request (id : Nat)
deriving Repr, DecidableEq

/-- `connecting` is the call that `connectResolve` and `connectReject` belong to.
`settled`, `answers` and `notices` record what promises and handlers were given, and
`refusals` counts the requests that were rejected for want of a socket. -/
structure Client where
  socket : Option Nat
  buffer : Text
  pending : List Nat
  id : Nat
  intentionallyClosed : Bool
  closed : Bool
  connecting : Option Nat
  connections : Dict Nat Connection
  created : Nat
  calls : Nat
  settled : Dict Nat Outcome
  answers : List (Nat × Answer)
  notices : List Notice
  written : List (Nat × Written)
  refusals : Nat

namespace Client

def new : Client where
  socket := none
  buffer := []
  pending := []
  id := 0
  intentionallyClosed := false
  closed := false
  connecting := none
  connections := ∅
  created := 0
  calls := 0
  settled := ∅
  answers := []
  notices := []
  written := []
  refusals := 0

/-- A promise keeps what it settled with first. -/
def settle (client : Client) (call : Nat) (outcome : Outcome) : Client :=
  if client.settled.contains call then client else { client with settled := client.settled.set call outcome }

def setPhase (client : Client) (socket : Nat) (phase : Phase) : Client :=
  match client.connections.get? socket with
  | some connection => { client with connections := client.connections.set socket { connection with phase := phase } }
  | none => client

/-- `createConnection`, whose socket becomes the client's. -/
def createConnection (client : Client) (route : Route) (call : Nat) : Client :=
  { client with
    socket := some client.created
    connections := client.connections.set client.created ⟨route, call, .opening⟩
    created := client.created + 1 }

/-- `this.socket?.destroy()`. -/
def destroy (client : Client) : Client :=
  match client.socket with
  | none => client
  | some socket =>
      match client.connections.get? socket with
      | none => client
      | some connection =>
          if connection.phase = .failed ∨ connection.phase = .ended then client else client.setPhase socket .destroyed

/-- `this.socket?.write(...)`. -/
def write (client : Client) (request : Written) : Client :=
  match client.socket with
  | none => client
  | some socket => { client with written := client.written ++ [(socket, request)] }

/-! ## Connecting -/

/-- `ready` tells whether the port can be read and is one that can be connected to. -/
def connectTcp (client : Client) (route : Route) (call : Nat) (ready : Bool) : Client :=
  if ready then client.createConnection route call
  else client.settle call (.refused "Cannot connect to MeshTalk backend")

def begin (client : Client) : Client :=
  { client with
    intentionallyClosed := false
    closed := false
    connecting := some client.calls
    calls := client.calls + 1 }

/-- A forced port that cannot be connected to raises in the executor, which rejects the call as well. -/
def connect (client : Client) (toPort ready : Bool) : Client :=
  if toPort then client.begin.connectTcp .port client.calls ready else client.begin.createConnection .unix client.calls

/-- `token` tells whether the token can be read. -/
def authenticate (client : Client) (call : Nat) (token : Bool) : Client :=
  if token then client.write .authenticate
  else client.settle call (.refused "Cannot authenticate with MeshTalk backend")

/-- The listener of `error`. -/
def fail (client : Client) (connection : Connection) (ready : Bool) : Client :=
  match connection.route with
  | .unix => client.destroy.connectTcp .fallback connection.call ready
  | _ => client.settle connection.call (.refused "error of the socket")

/-! ## Data -/

/-- The connection has been authenticated, as far as the client is concerned. -/
def accept (client : Client) (call : Nat) : Client := { client.settle call .connected with connecting := none }

/-- An answer to a request that still waits for it. -/
def resolve (client : Client) (id : Nat) (response : Response) : Client :=
  if id ∈ client.pending then
    { client with pending := client.pending.erase id, answers := client.answers ++ [(id, .response response)] }
  else client

def receive (client : Client) (response : Response) : Client :=
  match response.authenticated, client.connecting with
  | true, some call => client.accept call
  | _, _ =>
      if response.event then { client with notices := client.notices ++ [.event response] }
      else match response.id with
        | some id => client.resolve id response
        | none => client

/-- A line that is blank or that cannot be parsed is passed over. -/
def readLine (runtime : Runtime) (client : Client) (line : Text) : Client :=
  if line.all Mentions.isWhitespace then client
  else match runtime.parse line with
    | some response => client.receive response
    | none => client

def lineFeed : UInt16 := 10

def onData (runtime : Runtime) (client : Client) (data : Text) : Client :=
  let lines := cut lineFeed (client.buffer ++ data)
  lines.1.foldl (readLine runtime) { client with buffer := lines.2 }

/-! ## The end of a connection -/

/-- The call of `connect` that is under way, when a socket closes. -/
def abandon (client : Client) : Client :=
  match client.connecting with
  | none => client
  | some call =>
      { client.settle call (if client.intentionallyClosed then .connected else .refused "Connection closed during authentication") with
        connecting := none }

/-- Every request that waits is answered. -/
def answerAll (client : Client) : Client :=
  { client with pending := [], answers := client.answers ++ client.pending.map fun id => (id, .closed) }

def tellDisconnected (client : Client) : Client :=
  if client.intentionallyClosed then client else { client with notices := client.notices ++ [.disconnected] }

def onClose (client : Client) : Client :=
  if client.closed then client else ({ client with closed := true } : Client).abandon.answerAll.tellDisconnected

/-! ## Calls -/

def close (client : Client) : Client := { client with intentionallyClosed := true }.destroy

def send (client : Client) : Client :=
  match client.socket with
  | none => { client with refusals := client.refusals + 1 }
  | some _ => ({ client with id := client.id + 1, pending := client.pending ++ [client.id] } : Client).write (.request client.id)

end Client

/-! ## Events -/

inductive Event where
  | connect (toPort ready : Bool)
  | opened (socket : Nat) (token : Bool)
  | failed (socket : Nat) (ready : Bool)
  | data (socket : Nat) (chunk : Bytes)
  | ended (socket : Nat)
  | close
  | send
deriving Repr, DecidableEq

/-- An event of a socket, where the socket can still have it. -/
def onSocket (client : Client) (socket : Nat) (phases : List Phase) (handle : Connection → Client) : Option Client :=
  match client.connections.get? socket with
  | some connection => if connection.phase ∈ phases then some (handle connection) else none
  | none => none

def step (runtime : Runtime) (client : Client) : Event → Option Client
  | .connect toPort ready => some (client.connect toPort ready)
  | .opened socket token => onSocket client socket [.opening] fun connection =>
      (client.setPhase socket .open).authenticate connection.call token
  | .failed socket ready => onSocket client socket [.opening, .open] fun connection =>
      (client.setPhase socket .failed).fail connection ready
  | .data socket chunk => onSocket client socket [.open] fun _ => client.onData runtime (runtime.decode chunk)
  | .ended socket => onSocket client socket [.opening, .open, .failed, .destroyed] fun _ => (client.setPhase socket .ended).onClose
  | .close => some client.close
  | .send => some client.send

/-! ## Lines for examples -/

namespace Sample

/-- The line that tells that the client is authenticated. -/
def acceptance : Bytes := [123, 34, 97, 117, 116, 104, 101, 110, 116, 105, 99, 97, 116, 101, 100, 34, 58, 116, 114, 117, 101, 125]

/-- An answer with nothing but the id of the first request. -/
def answer : Bytes := [123, 34, 105, 100, 34, 58, 48, 125]

def runtime : Runtime where
  decode bytes := bytes.map UInt8.toUInt16
  parse line :=
    if line = acceptance.map UInt8.toUInt16 then some ⟨true, false, none, line⟩
    else if line = answer.map UInt8.toUInt16 then some ⟨false, false, some 0, line⟩
    else none

end Sample

end MeshTalk.Ipc
