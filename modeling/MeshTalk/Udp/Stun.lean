import Mathlib.Data.List.Chain
import MeshTalk.Library.BigEndian
import MeshTalk.Protocol.Handshake

namespace MeshTalk.Udp

open MeshTalk.Library MeshTalk.Protocol

/-! # STUN binding responses

A response declares the length of its attributes, and the datagram that carries
it may be longer.  Python slices past the end of a string are short, so a
`struct.unpack` or an index of one can raise; each such failure is a result of
its own here.
-/

def stunCookie : Nat := 0x2112A442
def stunHeaderSize : Nat := 20

inductive StunError where
  | valueError (message : String)
  | structError
  | indexError
deriving DecidableEq, Repr

inductive IpAddress where
  | ipv4 (octets : Bytes)
  | ipv6 (octets : Bytes)
deriving DecidableEq, Repr

/-- `data[start:stop]`. -/
def slice (data : Bytes) (start stop : Nat) : Bytes := (data.take stop).drop start

def unpackHHI (data : Bytes) : Except StunError (Nat × Nat × Nat) :=
  if data.length = 8 then
    .ok (BigEndian.ofBytes (slice data 0 2), BigEndian.ofBytes (slice data 2 4), BigEndian.ofBytes (slice data 4 8))
  else .error .structError

def unpackHH (data : Bytes) : Except StunError (Nat × Nat) :=
  if data.length = 4 then .ok (BigEndian.ofBytes (slice data 0 2), BigEndian.ofBytes (slice data 2 4))
  else .error .structError

def unpackH (data : Bytes) : Except StunError Nat :=
  if data.length = 2 then .ok (BigEndian.ofBytes data) else .error .structError

/-- `bytes(byte ^ mask[index] for index, byte in enumerate(address))`. -/
def unmask : Bytes → Bytes → Except StunError Bytes
  | [], _ => .ok []
  | _ :: _, [] => .error .indexError
  | byte :: address, key :: mask =>
      match unmask address mask with
      | .ok rest => .ok ((byte ^^^ key) :: rest)
      | .error error => .error error

def stunMask (transactionId : Bytes) : Bytes := BigEndian.toBytes 4 stunCookie ++ transactionId

def isMappedType (attributeType : Nat) : Bool := attributeType = 0x0020 || attributeType = 0x0001

/-- The body of the `if` for a mapped address: nothing when the family and the
length of the address disagree. -/
def mappedAddress (ipText : IpAddress → String) (transactionId : Bytes) (attributeType : Nat) (value : Bytes) :
    Except StunError (Option Endpoint) := do
  let family ← match value[1]? with
    | some family => .ok family.toNat
    | none => .error .indexError
  let port ← unpackH (slice value 2 4)
  let address := value.drop 4
  let (port, address) ←
    if attributeType = 0x0020 then do
      let address ← unmask address (stunMask transactionId)
      .ok (port ^^^ (stunCookie >>> 16), address)
    else .ok (port, address)
  if family = 0x01 ∧ address.length = 4 then .ok (some (ipText (.ipv4 address), port))
  else if family = 0x02 ∧ address.length = 16 then .ok (some (ipText (.ipv6 address), port))
  else .ok none

/-- What the parser returns or raises, with the offset and the length of every
attribute value it took from the datagram on the way. -/
structure StunWalk where
  reads : List (Nat × Nat) := []
  outcome : Except StunError Endpoint
deriving DecidableEq, Repr

def StunWalk.refuse (message : String) : StunWalk := { outcome := .error (.valueError message) }

def StunWalk.after (read : Nat × Nat) (walk : StunWalk) : StunWalk := { walk with reads := read :: walk.reads }

/-- `4 + ((attribute_length + 3) & ~3)`. -/
def paddedSize (attributeLength : Nat) : Nat := 4 + (attributeLength + 3) / 4 * 4

def readAttributes (ipText : IpAddress → String) (data transactionId : Bytes) (stop offset : Nat) : StunWalk :=
  if _ : offset + 4 ≤ stop then
    match unpackHH (slice data offset (offset + 4)) with
    | .error error => { outcome := .error error }
    | .ok (attributeType, attributeLength) =>
        let value := slice data (offset + 4) (offset + 4 + attributeLength)
        if value.length ≠ attributeLength then .refuse "Truncated STUN attribute"
        else
          let mapped :=
            if isMappedType attributeType ∧ (attributeLength = 8 ∨ attributeLength = 20) then
              mappedAddress ipText transactionId attributeType value
            else .ok none
          match mapped with
          | .error error => { reads := [(offset + 4, attributeLength)], outcome := .error error }
          | .ok (some endpoint) => { reads := [(offset + 4, attributeLength)], outcome := .ok endpoint }
          | .ok none =>
              (readAttributes ipText data transactionId stop (offset + paddedSize attributeLength)).after
                (offset + 4, attributeLength)
  else .refuse "STUN response has no mapped address"
termination_by stop - offset
decreasing_by
  unfold paddedSize
  omega

def parseStunResponse (ipText : IpAddress → String) (data transactionId : Bytes) : StunWalk :=
  if transactionId.length ≠ 12 ∨ data.length < stunHeaderSize then .refuse "Truncated STUN response"
  else
    match unpackHHI (data.take 8) with
    | .error error => { outcome := .error error }
    | .ok (messageType, length, cookie) =>
        if messageType ≠ 0x0101 ∨ cookie ≠ stunCookie ∨ slice data 8 20 ≠ transactionId then
          .refuse "Invalid STUN binding response"
        else if data.length - stunHeaderSize < length ∨ length % 4 ≠ 0 then .refuse "Invalid STUN response length"
        else readAttributes ipText data transactionId (stunHeaderSize + length) stunHeaderSize

/-! ### Attributes as the message lays them out -/

/-- An attribute by its header; the value follows the four bytes of it. -/
structure StunAttribute where
  offset : Nat
  type : Nat
  length : Nat
deriving DecidableEq, Repr

namespace StunAttribute

def stop (found : StunAttribute) : Nat := found.offset + 4 + found.length

def read (found : StunAttribute) : Nat × Nat := (found.offset + 4, found.length)

def headerAt (data : Bytes) (offset : Nat) : StunAttribute :=
  ⟨offset, BigEndian.ofBytes (slice data offset (offset + 2)), BigEndian.ofBytes (slice data (offset + 2) (offset + 4))⟩

def value (data : Bytes) (found : StunAttribute) : Bytes := slice data (found.offset + 4) found.stop

/-- The address and port of a value, where a mapped address is plain and a
xor-mapped one is combined with the cookie and the transaction id. -/
def decoded (transactionId value : Bytes) (type : Nat) : Bytes × Nat :=
  let address := value.drop 4
  let port := BigEndian.ofBytes (slice value 2 4)
  if type = 0x0020 then (List.zipWith (· ^^^ ·) address (stunMask transactionId), port ^^^ (stunCookie >>> 16))
  else (address, port)

/-- A well-formed mapped or xor-mapped address: family 1 with four octets or
family 2 with sixteen. -/
def address? (ipText : IpAddress → String) (data transactionId : Bytes) (found : StunAttribute) : Option Endpoint :=
  let value := found.value data
  let (octets, port) := decoded transactionId value found.type
  if ¬ isMappedType found.type then none
  else if value[1]? = some 1 ∧ found.length = 8 then some (ipText (.ipv4 octets), port)
  else if value[1]? = some 2 ∧ found.length = 20 then some (ipText (.ipv6 octets), port)
  else none

end StunAttribute

/-- The attributes whose header starts within the message, each after the
padding of the one before. -/
def attributesFrom (data : Bytes) (stop offset : Nat) : List StunAttribute :=
  if _ : offset + 4 ≤ stop then
    let found := StunAttribute.headerAt data offset
    found :: attributesFrom data stop (offset + paddedSize found.length)
  else []
termination_by stop - offset
decreasing_by
  unfold paddedSize
  omega

/-- What the loop makes of a list of attributes. -/
def walk (ipText : IpAddress → String) (data transactionId : Bytes) : List StunAttribute → StunWalk
  | [] => .refuse "STUN response has no mapped address"
  | found :: later =>
      if data.length < found.stop then .refuse "Truncated STUN attribute"
      else
        match found.address? ipText data transactionId with
        | some endpoint => { reads := [found.read], outcome := .ok endpoint }
        | none => (walk ipText data transactionId later).after found.read

variable {ipText : IpAddress → String} {data transactionId value : Bytes} {start stop offset attributeType : Nat}
  {found : StunAttribute} {attributes : List StunAttribute}

theorem slice_length : (slice data start stop).length = min stop data.length - start := by
  rw [slice, List.length_drop, List.length_take]

theorem slice_slice {inner outer : Nat} (short : start + inner ≤ stop) :
    slice (slice data start stop) outer inner = slice data (start + outer) (start + inner) := by
  unfold slice
  rw [List.take_drop, List.take_take, List.drop_drop, Nat.min_eq_left short]

theorem unpackHH_slice (inside : offset + 4 ≤ data.length) :
    unpackHH (slice data offset (offset + 4)) =
      .ok ((StunAttribute.headerAt data offset).type, (StunAttribute.headerAt data offset).length) := by
  have sized : (slice data offset (offset + 4)).length = 4 := by
    rw [slice_length]
    omega
  unfold unpackHH
  rw [if_pos sized, slice_slice (by omega), slice_slice (by omega)]
  rfl

theorem unmask_eq {address mask : Bytes} (short : address.length ≤ mask.length) :
    unmask address mask = .ok (List.zipWith (· ^^^ ·) address mask) := by
  induction address generalizing mask with
  | nil => rfl
  | cons byte address ih =>
      cases mask with
      | nil => cases short
      | cons key mask =>
          have rest : unmask address mask = .ok (List.zipWith (· ^^^ ·) address mask) := ih (Nat.le_of_succ_le_succ short)
          rw [unmask, rest]
          rfl

theorem stunMask_length (identified : transactionId.length = 12) : (stunMask transactionId).length = 16 := by
  rw [stunMask, List.length_append, BigEndian.toBytes_length, identified]

theorem decoded_length (identified : transactionId.length = 12) (short : value.length ≤ 20) :
    (StunAttribute.decoded transactionId value attributeType).1.length = value.length - 4 := by
  have mask := stunMask_length identified
  unfold StunAttribute.decoded
  simp only
  split
  · rw [List.length_zipWith, List.length_drop, mask]
    omega
  · rw [List.length_drop]

/-- On the lengths the loop passes on, nothing raises. -/
theorem mappedAddress_eq (identified : transactionId.length = 12) (sized : value.length = 8 ∨ value.length = 20) :
    mappedAddress ipText transactionId attributeType value =
      .ok (let (octets, port) := StunAttribute.decoded transactionId value attributeType
        if value[1]? = some 1 ∧ value.length = 8 then some (ipText (.ipv4 octets), port)
        else if value[1]? = some 2 ∧ value.length = 20 then some (ipText (.ipv6 octets), port)
        else none) := by
  have second : 1 < value.length := by omega
  have family : value[1]? = some value[1] := List.getElem?_eq_getElem _
  have port : unpackH (slice value 2 4) = .ok (BigEndian.ofBytes (slice value 2 4)) := by
    refine if_pos ?_
    rw [slice_length]
    omega
  have masked : unmask (value.drop 4) (stunMask transactionId) =
      .ok (List.zipWith (· ^^^ ·) (value.drop 4) (stunMask transactionId)) := by
    refine unmask_eq ?_
    rw [stunMask_length identified, List.length_drop]
    omega
  have length : (StunAttribute.decoded transactionId value attributeType).1.length = value.length - 4 :=
    decoded_length identified (by omega)
  have fields : mappedAddress ipText transactionId attributeType value =
      (let (octets, port) := StunAttribute.decoded transactionId value attributeType
        if value[1].toNat = 1 ∧ octets.length = 4 then .ok (some (ipText (.ipv4 octets), port))
        else if value[1].toNat = 2 ∧ octets.length = 16 then .ok (some (ipText (.ipv6 octets), port))
        else .ok none) := by
    unfold mappedAddress StunAttribute.decoded
    rw [family, port]
    by_cases xored : attributeType = 0x0020
    · simp only [if_pos xored, masked]
      rfl
    · simp only [if_neg xored]
      rfl
  have one : value[1].toNat = 1 ↔ value[1] = 1 := UInt8.toNat_inj (b := 1)
  have two : value[1].toNat = 2 ↔ value[1] = 2 := UInt8.toNat_inj (b := 2)
  have four : value.length - 4 = 4 ↔ value.length = 8 := by omega
  have sixteen : value.length - 4 = 16 ↔ value.length = 20 := by omega
  rw [fields, family]
  simp only [length, Option.some_inj, one, two, four, sixteen]
  split
  · rfl
  · split <;> rfl

theorem address?_eq (sized : (found.value data).length = found.length) (identified : transactionId.length = 12) :
    (if isMappedType found.type ∧ (found.length = 8 ∨ found.length = 20) then
      mappedAddress ipText transactionId found.type (found.value data) else .ok none) =
      .ok (found.address? ipText data transactionId) := by
  unfold StunAttribute.address?
  by_cases chosen : isMappedType found.type = true ∧ (found.length = 8 ∨ found.length = 20)
  · obtain ⟨mapped, lengths⟩ := chosen
    rw [if_pos ⟨mapped, lengths⟩, mappedAddress_eq identified (by rwa [sized]), sized]
    simp [mapped]
  · rw [if_neg chosen]
    by_cases mapped : isMappedType found.type = true
    · have eight : found.length ≠ 8 := fun same => chosen ⟨mapped, .inl same⟩
      have twenty : found.length ≠ 20 := fun same => chosen ⟨mapped, .inr same⟩
      simp [mapped, eight, twenty]
    · simp [mapped]

/-- The loop is the walk over the attributes of the message. -/
theorem readAttributes_eq (identified : transactionId.length = 12) (inside : stop ≤ data.length) :
    readAttributes ipText data transactionId stop offset = walk ipText data transactionId (attributesFrom data stop offset) := by
  induction remaining : stop - offset using Nat.strongRecOn generalizing offset with
  | ind size ih =>
      rw [readAttributes, attributesFrom]
      by_cases more : offset + 4 ≤ stop
      · rw [dif_pos more, dif_pos more, unpackHH_slice (by omega)]
        simp only
        rw [walk]
        have length : ((StunAttribute.headerAt data offset).value data).length =
            min (StunAttribute.headerAt data offset).stop data.length - (offset + 4) := slice_length
        have ends : (StunAttribute.headerAt data offset).stop =
            offset + 4 + (StunAttribute.headerAt data offset).length := rfl
        change (if ((StunAttribute.headerAt data offset).value data).length ≠ _ then _ else _) = _
        by_cases truncated : data.length < (StunAttribute.headerAt data offset).stop
        · rw [if_pos truncated, if_pos]
          omega
        · have sized : ((StunAttribute.headerAt data offset).value data).length =
              (StunAttribute.headerAt data offset).length := by omega
          rw [if_neg truncated, if_neg (not_not_intro sized)]
          have later : readAttributes ipText data transactionId stop
              (offset + paddedSize (StunAttribute.headerAt data offset).length) = walk ipText data transactionId
                (attributesFrom data stop (offset + paddedSize (StunAttribute.headerAt data offset).length)) :=
            ih _ (by unfold paddedSize; omega) rfl
          change (match (if isMappedType (StunAttribute.headerAt data offset).type ∧ _ then
            mappedAddress ipText transactionId (StunAttribute.headerAt data offset).type
              ((StunAttribute.headerAt data offset).value data) else .ok none) with
            | .error error => _ | .ok (some endpoint) => _ | .ok none => _) = _
          rw [address?_eq sized identified]
          cases (StunAttribute.headerAt data offset).address? ipText data transactionId with
          | some endpoint => rfl
          | none => exact congrArg (StunWalk.after (StunAttribute.headerAt data offset).read) later
      · rw [dif_neg more, dif_neg more, walk]

/-! ### Staying within the message -/

/-- Only the last attribute can run past the end of the message. -/
def Laid (stop : Nat) (attributes : List StunAttribute) : Prop :=
  attributes.IsChain fun earlier _ => earlier.stop ≤ stop

/-- The address of the first well-formed attribute that ends within the message. -/
def firstAddress (ipText : IpAddress → String) (data transactionId : Bytes) (stop : Nat) (attributes : List StunAttribute) :
    Option Endpoint :=
  (attributes.filter fun found => found.stop ≤ stop).findSome? (StunAttribute.address? ipText data transactionId)

/-- An attribute that starts within the message is cut off by the datagram as
soon as it is cut off by the message. -/
def EndsTogether (data : Bytes) (stop : Nat) (attributes : List StunAttribute) : Prop :=
  ∀ found ∈ attributes, stop < found.stop → data.length < found.stop

/-- The walk returns the expected address or raises `ValueError`, and took no
value from beyond the end. -/
structure StunWalk.Confined (stop : Nat) (expected : Option Endpoint) (walk : StunWalk) : Prop where
  answered : ∀ endpoint, walk.outcome = .ok endpoint → expected = some endpoint
  refused : ∀ error, walk.outcome = .error error → ∃ message, error = .valueError message
  within : ∀ read ∈ walk.reads, read.1 + read.2 ≤ stop

theorem StunWalk.refuse_confined {message : String} {expected : Option Endpoint} :
    (StunWalk.refuse message).Confined stop expected where
  answered _ returned := by cases returned
  refused _ raised := by
    cases raised
    exact ⟨message, rfl⟩
  within _ taken := by cases taken

theorem attributesFrom_head {next : StunAttribute} (first : next ∈ (attributesFrom data stop offset).head?) :
    offset + 4 ≤ stop := by
  rw [attributesFrom] at first
  split at first
  · assumption
  · cases first

theorem attributesFrom_laid : Laid stop (attributesFrom data stop offset) := by
  induction remaining : stop - offset using Nat.strongRecOn generalizing offset with
  | ind size ih =>
      rw [attributesFrom]
      split
      · refine List.isChain_cons.mpr ⟨fun next first => ?_, ih _ (by unfold paddedSize; omega) rfl⟩
        have more := attributesFrom_head first
        unfold paddedSize at more
        change offset + 4 + (StunAttribute.headerAt data offset).length ≤ stop
        omega
      · exact .nil

theorem firstAddress_cons_beyond (beyond : stop < found.stop) :
    firstAddress ipText data transactionId stop (found :: attributes) = firstAddress ipText data transactionId stop attributes := by
  unfold firstAddress
  rw [List.filter_cons_of_neg]
  simpa using beyond

theorem firstAddress_cons_within (within : found.stop ≤ stop) :
    firstAddress ipText data transactionId stop (found :: attributes) =
      (found.address? ipText data transactionId).or (firstAddress ipText data transactionId stop attributes) := by
  unfold firstAddress
  rw [List.filter_cons_of_pos (by simpa using within), List.findSome?_cons]
  cases found.address? ipText data transactionId <;> rfl

theorem walk_refused {error : StunError} (raised : (walk ipText data transactionId attributes).outcome = .error error) :
    ∃ message, error = .valueError message := by
  induction attributes with
  | nil => exact (StunWalk.refuse_confined : (StunWalk.refuse _).Confined 0 none).refused error raised
  | cons found later ih =>
      rw [walk] at raised
      split at raised
      · exact (StunWalk.refuse_confined : (StunWalk.refuse _).Confined 0 none).refused error raised
      · split at raised
        · cases raised
        · exact ih raised

theorem walk_confined (laid : Laid stop attributes)
    (clear : firstAddress ipText data transactionId stop attributes ≠ none ∨ EndsTogether data stop attributes) :
    (walk ipText data transactionId attributes).Confined stop (firstAddress ipText data transactionId stop attributes) := by
  induction attributes with
  | nil => exact StunWalk.refuse_confined
  | cons found later ih =>
      have laidLater : Laid stop later := List.IsChain.of_cons laid
      rw [walk]
      by_cases truncated : data.length < found.stop
      · rw [if_pos truncated]
        exact StunWalk.refuse_confined
      · rw [if_neg truncated]
        by_cases within : found.stop ≤ stop
        · rw [firstAddress_cons_within within] at clear ⊢
          cases located : found.address? ipText data transactionId with
          | some endpoint =>
              refine ⟨fun other returned => ?_, fun error raised => ?_, fun read taken => ?_⟩
              · cases returned
                rfl
              · cases raised
              · cases List.mem_singleton.mp taken
                exact within
          | none =>
              rw [located] at clear
              have spared := ih laidLater (clear.imp_right fun together other member => together other (List.mem_cons_of_mem _ member))
              refine ⟨spared.answered, spared.refused, fun read taken => ?_⟩
              rcases List.mem_cons.mp taken with rfl | rest
              · exact within
              · exact spared.within read rest
        · have last : later = [] := by
            cases later with
            | nil => rfl
            | cons next rest => exact absurd (List.isChain_cons_cons.mp laid).1 within
          subst last
          rcases clear with located | together
          · rw [firstAddress_cons_beyond (Nat.lt_of_not_le within)] at located
            exact absurd rfl located
          · exact absurd (together found List.mem_cons_self (Nat.lt_of_not_le within)) truncated

/-- Where no address ends within the message, an attribute that only the
datagram holds is taken too. -/
theorem walk_reads_beyond (laid : Laid stop attributes) (inside : stop ≤ data.length)
    (nowhere : firstAddress ipText data transactionId stop attributes = none) (present : found ∈ attributes)
    (held : found.stop ≤ data.length) : found.read ∈ (walk ipText data transactionId attributes).reads := by
  induction attributes with
  | nil => cases present
  | cons first later ih =>
      rw [walk]
      rcases List.mem_cons.mp present with rfl | rest
      · rw [if_neg (Nat.not_lt.mpr held)]
        split
        · exact List.mem_cons_self
        · exact List.mem_cons_self
      · have within : first.stop ≤ stop := by
          cases later with
          | nil => cases rest
          | cons next others => exact (List.isChain_cons_cons.mp laid).1
        rw [firstAddress_cons_within within, Option.or_eq_none_iff] at nowhere
        rw [if_neg (Nat.not_lt.mpr (Nat.le_trans within inside)), nowhere.1]
        exact List.mem_cons_of_mem _ (ih (List.IsChain.of_cons laid) nowhere.2 rest)

/-! ### The parser -/

def declaredStop (data : Bytes) : Nat := stunHeaderSize + BigEndian.ofBytes (slice data 2 4)

def declaredAttributes (data : Bytes) : List StunAttribute := attributesFrom data (declaredStop data) stunHeaderSize

/-- The checks before the first attribute. -/
def AnswersTransaction (data transactionId : Bytes) : Prop :=
  transactionId.length = 12 ∧ stunHeaderSize ≤ data.length ∧ BigEndian.ofBytes (slice data 0 2) = 0x0101 ∧
    BigEndian.ofBytes (slice data 4 8) = stunCookie ∧ slice data 8 20 = transactionId ∧
    declaredStop data ≤ data.length ∧ BigEndian.ofBytes (slice data 2 4) % 4 = 0

theorem unpackHHI_take (long : stunHeaderSize ≤ data.length) :
    unpackHHI (data.take 8) = .ok (BigEndian.ofBytes (slice data 0 2), BigEndian.ofBytes (slice data 2 4),
      BigEndian.ofBytes (slice data 4 8)) := by
  unfold stunHeaderSize at long
  have whole : data.take 8 = slice data 0 8 := rfl
  have sized : (slice data 0 8).length = 8 := by
    rw [slice_length]
    omega
  unfold unpackHHI
  rw [whole, if_pos sized, slice_slice (by decide), slice_slice (by decide), slice_slice (by decide)]

theorem parseStunResponse_refuses (mismatched : ¬ AnswersTransaction data transactionId) :
    ∃ message, parseStunResponse ipText data transactionId = .refuse message := by
  unfold parseStunResponse
  split
  · exact ⟨_, rfl⟩
  · rename_i long
    obtain ⟨identified, long⟩ := not_or.mp long
    rw [unpackHHI_take (Nat.le_of_not_lt long)]
    simp only
    split
    · exact ⟨_, rfl⟩
    · rename_i binding
      split
      · exact ⟨_, rfl⟩
      · rename_i length
        obtain ⟨type, cookie, transaction⟩ : _ = _ ∧ _ = _ ∧ _ = _ := by simpa using binding
        obtain ⟨fits, words⟩ := not_or.mp length
        refine absurd ⟨not_not.mp identified, Nat.le_of_not_lt long, type, cookie, transaction, ?_, not_not.mp words⟩ mismatched
        unfold declaredStop
        omega

theorem parseStunResponse_walks (answers : AnswersTransaction data transactionId) :
    parseStunResponse ipText data transactionId = walk ipText data transactionId (declaredAttributes data) := by
  obtain ⟨identified, long, type, cookie, transaction, fits, words⟩ := answers
  unfold declaredStop at fits
  unfold parseStunResponse
  rw [if_neg (by omega), unpackHHI_take long]
  simp only
  rw [if_neg (by simp [type, cookie, transaction]), if_neg (by omega), readAttributes_eq identified fits]
  rfl

/-- The parser keeps to the declared length exactly when every attribute that
overruns the message overruns the datagram as well, or a well-formed address
within the message ends the parse before. -/
theorem stun_stays_within_iff :
    (parseStunResponse ipText data transactionId).Confined (declaredStop data)
        (firstAddress ipText data transactionId (declaredStop data) (declaredAttributes data)) ↔
      (AnswersTransaction data transactionId →
        EndsTogether data (declaredStop data) (declaredAttributes data) ∨
        ∃ found ∈ declaredAttributes data, found.stop ≤ declaredStop data ∧
          (found.address? ipText data transactionId).isSome) := by
  have somewhere : (∃ found ∈ declaredAttributes data, found.stop ≤ declaredStop data ∧
      (found.address? ipText data transactionId).isSome) ↔
      firstAddress ipText data transactionId (declaredStop data) (declaredAttributes data) ≠ none := by
    rw [← Option.isSome_iff_ne_none, firstAddress, List.findSome?_isSome_iff]
    simp only [List.mem_filter, decide_eq_true_eq, and_assoc]
  rw [somewhere]
  constructor
  · intro confined answers
    by_contra overrun
    obtain ⟨apart, nowhere⟩ := not_or.mp overrun
    obtain ⟨found, apart⟩ := not_forall.mp apart
    obtain ⟨present, apart⟩ := Classical.not_imp.mp apart
    obtain ⟨beyond, held⟩ := Classical.not_imp.mp apart
    have taken := @walk_reads_beyond ipText _ _ _ _ _ attributesFrom_laid answers.2.2.2.2.2.1 (not_not.mp nowhere) present
      (Nat.le_of_not_lt held)
    rw [parseStunResponse_walks answers] at confined
    exact Nat.not_le.mpr beyond (confined.within _ taken)
  · intro clear
    by_cases answers : AnswersTransaction data transactionId
    · rw [parseStunResponse_walks answers]
      exact walk_confined attributesFrom_laid (clear answers).symm
    · obtain ⟨message, refused⟩ := @parseStunResponse_refuses ipText _ _ answers
      rw [refused]
      exact StunWalk.refuse_confined

/-- Four bytes of attributes are declared; the address that follows the header
of the only one lies outside the message. -/
def overrunResponse : Bytes :=
  [0x01, 0x01, 0, 4, 0x21, 0x12, 0xA4, 0x42, 1, 2, 3, 4, 5, 6, 7, 8, 9, 10, 11, 12, 0, 1, 0, 8, 0, 1, 0x1A, 0x0A, 192, 0, 2, 1]

theorem overrun_response_is_read :
    ¬ (parseStunResponse (fun _ => "192.0.2.1") overrunResponse [1, 2, 3, 4, 5, 6, 7, 8, 9, 10, 11, 12]).Confined
      (declaredStop overrunResponse)
      (firstAddress (fun _ => "192.0.2.1") overrunResponse [1, 2, 3, 4, 5, 6, 7, 8, 9, 10, 11, 12] (declaredStop overrunResponse)
        (declaredAttributes overrunResponse)) := by
  intro confined
  have taken : (24, 8) ∈
      (parseStunResponse (fun _ => "192.0.2.1") overrunResponse [1, 2, 3, 4, 5, 6, 7, 8, 9, 10, 11, 12]).reads := by
    rw [parseStunResponse_walks (by unfold AnswersTransaction; decide), declaredAttributes, attributesFrom,
      dif_pos (by decide)]
    decide
  have outside := confined.within _ taken
  revert outside
  decide

end MeshTalk.Udp
