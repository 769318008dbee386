import MeshTalk.Library.Dict
import MeshTalk.Library.Machine

namespace MeshTalk.Ipc

open MeshTalk.Library

/-! # The server of the backend's socket

`IPCServer` keeps the authenticated clients in a list, to which the handlers of the
connections add and from which they remove while broadcasts go through it.  A broadcast
waits for every client it writes to; everything between two waits is one step.
-/

abbrev Writer := Nat

/-- A line of a client.  `other` is JSON that is no object, for which looking for an id may raise. -/
inductive Line where
  | malformed
  | other (raises : Bool)
  | request (action : String) (token : Option String)
deriving Repr, DecidableEq

/-- A broadcast that waits.  `index` is where its loop goes on in the list, and `tried`
records the clients it has written to or failed to write to. -/
structure Broadcast where
  index : Nat
  waiting : Option Writer
  dead : List Writer
  tried : List Writer
deriving Repr, DecidableEq

/-- The end of a broadcast: the list of clients as its loop ended, and whether the
removal of dead clients raised. -/
structure Finished where
  clients : List Writer
  dead : List Writer
  tried : List Writer
  raised : Bool
deriving Repr, DecidableEq

/-- `accepted` are all connections there have ever been, `connected` those whose handler
runs, and `authenticated` those whose handler has seen the token. -/
structure Server where
  token : String
  accepted : List Writer
  connected : List Writer
  authenticated : List Writer
  clients : List Writer
  broadcasts : Dict Nat Broadcast
  started : Nat
  finished : List Finished
  dispatched : List (Writer × String)

/-- `failing` are the clients for which `write` raises, and `drained` tells whether the
wait for the last one ended well. -/
inductive ServerEvent where
  | accept (writer : Writer)
  | line (writer : Writer) (line : Line)
  | leave (writer : Writer)
  | broadcast (failing : List Writer)
  | resume (broadcast : Nat) (drained : Bool) (failing : List Writer)
deriving Repr, DecidableEq

namespace Server

def new (token : String) : Server where
  token := token
  accepted := []
  connected := []
  authenticated := []
  clients := []
  broadcasts := ∅
  started := 0
  finished := []
  dispatched := []

def accept (server : Server) (writer : Writer) : Server :=
  { server with accepted := server.accepted ++ [writer], connected := server.connected ++ [writer] }

/-- The end of a handler. -/
def leave (server : Server) (writer : Writer) : Server :=
  { server with connected := server.connected.erase writer, clients := server.clients.erase writer }

def authenticate (server : Server) (writer : Writer) : Server :=
  { server with authenticated := server.authenticated ++ [writer], clients := server.clients ++ [writer] }

def dispatch (server : Server) (writer : Writer) (action : String) : Server :=
  { server with dispatched := server.dispatched ++ [(writer, action)] }

/-- What a handler does with a line; an answer changes none of the tables. -/
def readLine (server : Server) (writer : Writer) : Line → Server
  | .malformed => server
  | .other raises => if raises then server.leave writer else server
  | .request action token =>
      if writer ∈ server.authenticated then server.dispatch writer action
      else if action = "authenticate" ∧ token.getD "" = server.token then server.authenticate writer
      else server.leave writer

/-! ## Broadcasts -/

/-- The loop over the rest of the list, up to the first client that is written to. -/
def visit (failing : List Writer) : List Writer → Broadcast → Broadcast
  | [], broadcast => { broadcast with waiting := none }
  | writer :: rest, broadcast =>
      let tried := { broadcast with index := broadcast.index + 1, tried := broadcast.tried ++ [writer] }
      if writer ∈ failing then visit failing rest { tried with dead := broadcast.dead ++ [writer] }
      else { tried with waiting := some writer }

/-- `self._clients.remove(w)` for each dead client, which raises for one that is not in the list. -/
def removeDead : List Writer → List Writer → List Writer × Bool
  | clients, [] => (clients, false)
  | clients, writer :: rest => if writer ∈ clients then removeDead (clients.erase writer) rest else (clients, true)

/-- The loop of a broadcast up to its next wait or its end. -/
def proceed (server : Server) (id : Nat) (broadcast : Broadcast) (failing : List Writer) : Server :=
  let visited := visit failing (server.clients.drop broadcast.index) broadcast
  if visited.waiting.isSome then { server with broadcasts := server.broadcasts.set id visited }
  else { server with
    broadcasts := server.broadcasts.erase id
    clients := (removeDead server.clients visited.dead).1
    finished := server.finished ++ [⟨server.clients, visited.dead, visited.tried, (removeDead server.clients visited.dead).2⟩] }

def broadcast (server : Server) (failing : List Writer) : Server :=
  { server with started := server.started + 1 }.proceed server.started ⟨0, none, [], []⟩ failing

/-- The wait for a client is over; one for which it raised is dead. -/
def drain (broadcast : Broadcast) (drained : Bool) : Broadcast :=
  if drained then broadcast else { broadcast with dead := broadcast.dead ++ broadcast.waiting.toList }

end Server

namespace Server

def step (server : Server) : ServerEvent → Option Server
  | .accept writer => if writer ∈ server.accepted then none else some (server.accept writer)
  | .line writer line => if writer ∈ server.connected then some (server.readLine writer line) else none
  | .leave writer => if writer ∈ server.connected then some (server.leave writer) else none
  | .broadcast failing => some (server.broadcast failing)
  | .resume id drained failing => (server.broadcasts.get? id).map fun broadcast => server.proceed id (drain broadcast drained) failing

end Server

end MeshTalk.Ipc
