import Mathlib.Logic.Relation
import MeshTalk.Ipc.Promises

namespace MeshTalk.Ipc

open MeshTalk.Library Client

/-! # How the backend's lines arrive

The backend writes lines of ASCII, and the sockets deliver them in chunks of any size.
Each chunk is decoded on its own, so that this would not do for other characters.
-/

def Ascii (bytes : Bytes) : Prop := ∀ byte ∈ bytes, byte < 128

/-- `Buffer.toString` gives the characters of ASCII bytes. -/
def Runtime.Plain (runtime : Runtime) : Prop := ∀ bytes, Ascii bytes → runtime.decode bytes = bytes.map UInt8.toUInt16

/-- Two chunks of a socket that arrive one after the other are taken for one. -/
inductive Recut : List Event → List Event → Prop
  | joined (before after : List Event) (socket : Nat) (first second : Bytes) (ascii : Ascii first ∧ Ascii second) :
      Recut (before ++ .data socket first :: .data socket second :: after) (before ++ .data socket (first ++ second) :: after)

variable {runtime : Runtime} {client next : Client} {socket : Nat} {first second : Bytes}

theorem decode_append (plain : runtime.Plain) (ascii : Ascii first ∧ Ascii second) :
    runtime.decode (first ++ second) = runtime.decode first ++ runtime.decode second := by
  have both : Ascii (first ++ second) := fun byte listed => (List.mem_append.mp listed).elim (ascii.1 byte) (ascii.2 byte)
  rw [plain _ both, plain _ ascii.1, plain _ ascii.2, List.map_append]

/-! ## The buffer -/

def Client.buffering (client : Client) (buffer : Text) : Client := { client with buffer := buffer }

theorem buffering_settle {buffer : Text} {call : Nat} {outcome : Outcome} :
    (client.buffering buffer).settle call outcome = (client.settle call outcome).buffering buffer := by
  unfold settle
  change (if client.settled.contains call then _ else _) = _
  split <;> rfl

theorem buffering_receive {buffer : Text} {response : Response} :
    (client.buffering buffer).receive response = (client.receive response).buffering buffer := by
  have connecting : (client.buffering buffer).connecting = client.connecting := rfl
  unfold receive
  rw [connecting]
  split
  · unfold accept
    rw [buffering_settle]
    rfl
  · split
    · rfl
    · split
      · unfold resolve
        change (if _ ∈ client.pending then _ else _) = _
        split <;> rfl
      · rfl

theorem buffering_readLine {buffer line : Text} :
    (client.buffering buffer).readLine runtime line = (client.readLine runtime line).buffering buffer := by
  unfold readLine
  split
  · rfl
  · split
    · exact buffering_receive
    · rfl

theorem buffering_readLines {buffer : Text} {lines : List Text} :
    lines.foldl (readLine runtime) (client.buffering buffer) = (lines.foldl (readLine runtime) client).buffering buffer := by
  induction lines generalizing client with
  | nil => rfl
  | cons line rest ih => rw [List.foldl_cons, List.foldl_cons, buffering_readLine, ih]

/-- `onData` is a reader of lines whose buffer is a field of the client. -/
theorem onData_feed {data : Text} : client.onData runtime data =
    (feed lineFeed (readLine runtime) (client.buffer, client) data).2.buffering
      (feed lineFeed (readLine runtime) (client.buffer, client) data).1 := buffering_readLines

theorem readLines_buffering {reader : Text × Client} {buffer piece : Text} :
    feed lineFeed (readLine runtime) (reader.1, reader.2.buffering buffer) piece =
      ((feed lineFeed (readLine runtime) reader piece).1, (feed lineFeed (readLine runtime) reader piece).2.buffering buffer) := by
  simp only [feed, buffering_readLines]

theorem onData_append {data more : Text} :
    (client.onData runtime data).onData runtime more = client.onData runtime (data ++ more) := by
  have joined := @feed_append _ _ _ lineFeed (readLine runtime) (client.buffer, client) data more
  rw [@onData_feed runtime (client.onData runtime data), onData_feed, onData_feed, ← joined]
  change (feed lineFeed (readLine runtime) ((feed lineFeed (readLine runtime) (client.buffer, client) data).1,
    (feed lineFeed (readLine runtime) (client.buffer, client) data).2.buffering _) more).2.buffering _ = _
  rw [readLines_buffering]
  rfl

/-! ## Chunks -/

theorem connections_settle {call : Nat} {outcome : Outcome} : (client.settle call outcome).connections = client.connections := by
  unfold settle
  split <;> rfl

theorem connections_readLine {line : Text} : (client.readLine runtime line).connections = client.connections := by
  unfold readLine
  split
  · rfl
  · split
    · unfold receive
      split
      · exact connections_settle
      · split
        · rfl
        · split
          · unfold resolve
            split <;> rfl
          · rfl
    · rfl

theorem connections_readLines {lines : List Text} : (lines.foldl (readLine runtime) client).connections = client.connections := by
  induction lines generalizing client with
  | nil => rfl
  | cons line rest ih => exact ih.trans connections_readLine

theorem connections_onData {data : Text} : (client.onData runtime data).connections = client.connections :=
  connections_readLines

theorem step_data (plain : runtime.Plain) (ascii : Ascii first ∧ Ascii second) :
    ((step runtime client (.data socket first)).bind fun next => step runtime next (.data socket second)) =
      step runtime client (.data socket (first ++ second)) := by
  simp only [step, onSocket]
  cases found : client.connections.get? socket with
  | none => rfl
  | some connection =>
      dsimp only
      split
      · rename_i possible
        simp only [Option.bind_some, connections_onData, found, if_pos possible, onData_append, decode_append plain ascii]
      · rfl

theorem run_recut (plain : runtime.Plain) {one two : List Event} (recut : Recut one two) :
    run (step runtime) client one = run (step runtime) client two := by
  obtain ⟨before, after, socket, first, second, ascii⟩ := recut
  rw [run_append, run_append]
  congr 1
  funext middle
  rw [run, run, ← step_data plain ascii]
  cases step runtime middle (.data _ _) with
  | none => rfl
  | some next => rfl

end MeshTalk.Ipc
