import MeshTalk.Groups.Intake

namespace MeshTalk.Rendezvous

open MeshTalk.Library MeshTalk.Protocol
open MeshTalk.Groups (maxTrackedCandidates candidateTrackingAge)

/-! # Endpoint cards from the control service

The receive loop of one control connection handles one card after the other and
waits for the callbacks it calls.  The wall clock dates cards, the monotonic
clock ages the replay cache; both advance together.
-/

def maxCandidateChangesPerMinute : Nat := 12

/-- What `ipaddress` says of an address. -/
structure IpAddress where
  text : String
  version4 : Bool
  isGlobal : Bool
  isMulticast : Bool
  isUnspecified : Bool
  isReserved : Bool
  isLinkLocal : Bool
  isLoopback : Bool
deriving DecidableEq, Repr

abbrev Endpoint := String × Int

/-- A parsed candidate; a relay has no address. -/
inductive ParsedCandidate where
  | direct (endpoint : Endpoint)
  | derp
deriving DecidableEq, Repr

/-- The calls into the transport and the callbacks. -/
inductive CardCall where
  | forgetCandidate (peerId : PeerId)
  | roomMember (roomId : String) (peerId : PeerId) (announceJoin : Bool) (signingKey : Bytes)
  | expectPeer (peerId : PeerId) (endpoint : Endpoint)
  | clearDirectCandidate (peerId : PeerId)
  | expectDerpPeer (peerId : PeerId)
  | candidate (peerId : PeerId) (endpoint : Option Endpoint)
deriving DecidableEq, Repr

/-- A card taken into the replay cache, with both clocks at that moment. -/
structure Acceptance where
  roomId : String
  card : EndpointCard
  acceptedAt : Time
  seenAt : Time
deriving DecidableEq, Repr

/-- A card whose handler is past its checks. -/
structure CheckedCard where
  card : EndpointCard
  parsed : List ParsedCandidate
  now : Time
deriving DecidableEq, Repr

inductive Awaited where
  | roomMember (checked : CheckedCard)
  | candidate
deriving DecidableEq, Repr

/-- What the receive loop still has to do for the message it is at. -/
structure ReceiveWork where
  roomId : String
  announceJoin : Bool
  payloads : List EndpointCard
  awaited : Option Awaited
deriving DecidableEq, Repr

structure RendezvousService where
  rooms : List String
  allowLoopback : Bool
  wall : Time
  monotonic : Time
  connected : Bool
  initializingRooms : List String
  seenCards : Dict (String × PeerId × String) Time
  lastCandidates : Dict PeerId Endpoint
  candidateChanges : Dict PeerId (List Time)
  candidateSeen : Dict PeerId Time
  work : Option ReceiveWork
  calls : List CardCall
  /-- Auxiliary, read by no action: the cards that were no replays. -/
  accepted : List Acceptance

inductive ControlMessage where
  | joined (roomId : String)
  | signal (roomId : String) (card : EndpointCard)
  | peers (roomId : String) (cards : List EndpointCard)
deriving DecidableEq, Repr

inductive RendezvousEvent where
  | advance (seconds : Time)
  | connect
  | disconnect
  | receive (message : ControlMessage)
  | handle
  | resume (callbackRaises expectRaises : Bool)
deriving DecidableEq, Repr

abbrev CardAction := Handler RendezvousService String

def call (made : CardCall) : CardAction Unit :=
  Handler.change fun service => { service with calls := service.calls ++ [made] }

section

variable (addressOf : String → Option IpAddress) {crypto : FileCrypto} (identity : Identity crypto)

/-- `valid_address`, with the check of the port. -/
def publicEndpoint (allowLoopback : Bool) (address : IpAddress) (port : Int) : Bool :=
  decide (1 ≤ port ∧ port ≤ 65535) &&
    ((address.version4 && address.isGlobal &&
        !(address.isMulticast || address.isUnspecified || address.isReserved || address.isLinkLocal)) ||
      (allowLoopback && address.isLoopback))

def parseCandidate (allowLoopback : Bool) : CardCandidate → Except String ParsedCandidate
  | .derp => .ok .derp
  | .direct host port =>
      match addressOf host with
      | none => .error "does not appear to be an IPv4 or IPv6 address"
      | some address =>
          if publicEndpoint allowLoopback address port then .ok (.direct (address.text, port))
          else .error "Endpoint card is not a public address"

/-- The first direct endpoint. -/
def directEndpoint : List ParsedCandidate → Option Endpoint
  | [] => none
  | .direct endpoint :: _ => some endpoint
  | .derp :: rest => directEndpoint rest

/-- The peers whose cards are too old, forgotten by the tables and the transport. -/
def forgetExpired (now : Time) : CardAction Unit :=
  Handler.change fun service =>
    let tracked := service.candidateSeen.filter fun _ seenAt => decide (now - seenAt < candidateTrackingAge)
    let expired := service.candidateSeen.keys.filter fun peerId => !tracked.contains peerId
    { service with
      candidateSeen := tracked
      calls := service.calls ++ expired.map CardCall.forgetCandidate
      lastCandidates := service.lastCandidates.filter fun peerId _ => tracked.contains peerId
      candidateChanges := service.candidateChanges.filter fun peerId _ => tracked.contains peerId }

/-- The replay cache takes the card and drops what is older than `CARD_MAX_AGE`. -/
def rememberCard (roomId : String) (card : EndpointCard) (service : RendezvousService) : RendezvousService :=
  { service with
    seenCards := (service.seenCards.set (roomId, card.peerId, card.nonce) service.monotonic).filter fun _ seenAt =>
      decide (service.monotonic - seenAt < cardMaxAge)
    accepted := service.accepted ++ [⟨roomId, card, service.wall, service.monotonic⟩] }

/-- `_handle_card` after the replay check and up to the callback for the roster. -/
def trackCard (roomId : String) (announceJoin : Bool) (card : EndpointCard) (service : RendezvousService) :
    CardAction CheckedCard := do
  let now := service.monotonic
  match card.offered.mapM (parseCandidate addressOf service.allowLoopback) with
  | .error reason => Handler.raise reason
  | .ok parsed => do
      forgetExpired now
      let tracked ← Handler.read
      Handler.refuse (tracked.candidateSeen.contains card.peerId = false ∧
        maxTrackedCandidates ≤ tracked.candidateSeen.size) "Too many room candidates"
      Handler.change fun service => { service with candidateSeen := service.candidateSeen.set card.peerId now }
      call (.roomMember roomId card.peerId announceJoin card.signingPublicKey)
      pure ⟨card, parsed, now⟩

/-- `_handle_card` up to its first callback; `none` where it returns before. -/
def handleCard (roomId : String) (announceJoin : Bool) (card : EndpointCard) : CardAction (Option CheckedCard) := do
  let service ← Handler.read
  match card.refusal crypto service.wall with
  | some reason => Handler.raise reason
  | none =>
      if card.peerId = identity.peerId ∨ service.seenCards.contains (roomId, card.peerId, card.nonce) = true then
        pure none
      else do
        Handler.change (rememberCard roomId card)
        some <$> trackCard addressOf roomId announceJoin card service

/-- The changes of a peer's endpoint in the last minute; the limit is checked
only where the endpoint is a new one. -/
def countChange (peerId : PeerId) (endpoint : Endpoint) (now : Time) : CardAction (Option (List Time)) := do
  let service ← Handler.read
  if service.lastCandidates.get? peerId = some endpoint then pure none
  else do
    let changes := ((service.candidateChanges.get? peerId).getD []).filter fun changed => decide (now - changed < 60)
    Handler.refuse (maxCandidateChangesPerMinute ≤ changes.length) "Endpoint card changed too frequently"
    pure (some (changes ++ [now]))

def recordChange (peerId : PeerId) (endpoint : Endpoint) : Option (List Time) → CardAction Unit
  | none => pure ()
  | some changes => Handler.change fun service =>
      { service with
        candidateChanges := service.candidateChanges.set peerId changes
        lastCandidates := service.lastCandidates.set peerId endpoint }

/-- The direct endpoint of a card, or the end of the one its peer had. -/
def moveEndpoint (peerId : PeerId) (now : Time) (expectRaises : Bool) : Option Endpoint → CardAction Unit
  | some endpoint => do
      let changes ← countChange peerId endpoint now
      call (.expectPeer peerId endpoint)
      Handler.refuse (expectRaises = true) "Too many expected UDP peers"
      recordChange peerId endpoint changes
  | none => do
      Handler.change fun service => { service with lastCandidates := service.lastCandidates.erase peerId }
      call (.clearDirectCandidate peerId)

/-- `_handle_card` from the callback for the roster on; whether it waits for `on_candidate`. -/
def introduceCard (checked : CheckedCard) (expectRaises : Bool) : CardAction Bool :=
  let peerId := checked.card.peerId
  if checked.parsed = [] then pure false
  else do
    moveEndpoint peerId checked.now expectRaises (directEndpoint checked.parsed)
    let relayed := if ParsedCandidate.derp ∈ checked.parsed then [CardCall.expectDerpPeer peerId] else []
    Handler.change fun service =>
      { service with
        candidateSeen := service.candidateSeen.set peerId checked.now
        calls := service.calls ++ relayed }
    call (.candidate peerId (directEndpoint checked.parsed))
    pure true

/-- `_receive_loop` with a message; one for an unknown room is skipped. -/
def receiveMessage (service : RendezvousService) : ControlMessage → RendezvousService
  | .joined roomId =>
      if roomId ∈ service.rooms then { service with initializingRooms := service.initializingRooms.erase roomId }
      else service
  | .signal roomId card =>
      if roomId ∈ service.rooms then
        { service with work := some ⟨roomId, decide (roomId ∉ service.initializingRooms), [card], none⟩ }
      else service
  | .peers roomId cards =>
      if roomId ∈ service.rooms then { service with work := some ⟨roomId, false, cards, none⟩ } else service

/-- The loop after a segment of the handler: at the next card, or at the callback it waits for. -/
def proceed (work : ReceiveWork) (rest : List EndpointCard) (awaited : Option Awaited) (service : RendezvousService) :
    RendezvousService :=
  { service with work := some { work with payloads := rest, awaited } }

def rendezvousStep (service : RendezvousService) : RendezvousEvent → Option RendezvousService
  | .advance seconds =>
      if 0 ≤ seconds then
        some { service with wall := service.wall + seconds, monotonic := service.monotonic + seconds }
      else none
  | .connect =>
      if service.connected then none
      else some { service with connected := true, initializingRooms := service.rooms }
  | .disconnect => some { service with connected := false, initializingRooms := [], work := none }
  | .receive message =>
      match service.connected, service.work with
      | true, none => some (receiveMessage service message)
      | _, _ => none
  | .handle =>
      match service.work with
      | some ⟨roomId, announceJoin, card :: rest, none⟩ =>
          let (outcome, final) := handleCard addressOf identity roomId announceJoin card service
          let awaited := match outcome with
            | .ok (some checked) => some (Awaited.roomMember checked)
            | .ok none | .error _ => none
          some (proceed ⟨roomId, announceJoin, card :: rest, none⟩ rest awaited final)
      | some ⟨_, _, [], none⟩ => some { service with work := none }
      | _ => none
  | .resume callbackRaises expectRaises =>
      match service.work with
      | some ⟨roomId, announceJoin, rest, some (.roomMember checked)⟩ =>
          if callbackRaises then some (proceed ⟨roomId, announceJoin, rest, none⟩ rest none service)
          else
            let (outcome, final) := introduceCard checked expectRaises service
            let awaited := match outcome with
              | .ok true => some Awaited.candidate
              | .ok false | .error _ => none
            some (proceed ⟨roomId, announceJoin, rest, none⟩ rest awaited final)
      | some ⟨roomId, announceJoin, rest, some .candidate⟩ =>
          some (proceed ⟨roomId, announceJoin, rest, none⟩ rest none service)
      | _ => none

end

end MeshTalk.Rendezvous
