import Mathlib.Data.UInt
import MeshTalk.Library.Trim
import MeshTalk.Library.UrlBase64
import MeshTalk.Protocol.JsonText
import MeshTalk.Tcp.Session

namespace MeshTalk.Settings

open MeshTalk.Library MeshTalk.Protocol MeshTalk.Tcp

/-! # Rooms and their invites

An invite spells the id and the secret of a room in base64.  A group has its name
sealed behind them, under a key and with associated data that come from the two.
-/

/-! ## Group names -/

def maxGroupNameLength : Nat := 64

def isControl (char : Char) : Bool := char.toNat < 32 || char.toNat = 127

/-- The text of a group name without the white space around it, where it is allowed. -/
def normalizeText (text : List Char) : Option (List Char) :=
  let name := strip text
  if name = [] ∨ maxGroupNameLength < name.length ∨ name.any isControl = true then none else some name

/-- A group name that normalizing leaves as it is. -/
structure GroupName where
  text : String
  normal : normalizeText text.toList = some text.toList
deriving DecidableEq

theorem strip_strip {text : List Char} : strip (strip text) = strip text := (@trim_trimmed _ isSpace text).trim

theorem normalizeText_normal {text name : List Char} (normalized : normalizeText text = some name) :
    normalizeText name = some name := by
  unfold normalizeText at normalized ⊢
  dsimp only at normalized ⊢
  split at normalized
  · cases normalized
  · rename_i allowed
    cases normalized
    rw [strip_strip, if_neg allowed]

def groupNameOf (text : List Char) : Option GroupName :=
  match found : normalizeText text with
  | some name => some ⟨String.ofList name, by rw [String.toList_ofList]; exact normalizeText_normal found⟩
  | none => none

/-- `normalize_group_name`, undefined where it raises. -/
def normalizeGroupName : Json → Option GroupName
  | .text text => groupNameOf text.toList
  | _ => none

theorem groupNameOf_normal (name : GroupName) : groupNameOf name.text.toList = some name := by
  unfold groupNameOf
  split
  · rename_i found same
    rw [name.normal] at same
    cases same
    simp only [String.ofList_toList]
  · rename_i same
    rw [name.normal] at same
    cases same

/-! ## Rooms -/

structure Room where
  roomId : Bytes
  secret : Bytes
  groupName : Option GroupName
  idLength : roomId.length = 16
  secretLength : secret.length = 32
deriving DecidableEq

/-- The bytes of `os.urandom(12)`. -/
structure Nonce where
  bytes : Bytes
  length : bytes.length = 12
deriving DecidableEq

/-- What invites take from the cryptographic library and from `json`: AES-GCM, the derivation
of a key from a salt and a secret, and the reading of a document. -/
structure InviteCrypto where
  aead : Aead
  derive : Bytes → Bytes → Bytes
  loads : Bytes → Option Json

def invitePrefixText : List Char := "meshtalk:".toList

def groupInvitePrefixText : List Char := "meshtalk-group:".toList

/-- The pieces between the separators. -/
def pieces (separator : Char) : List Char → List (List Char)
  | [] => [[]]
  | char :: rest =>
      if char = separator then [] :: pieces separator rest
      else match pieces separator rest with
        | [] => [[char]]
        | first :: others => (char :: first) :: others

def groupMetadata (name : GroupName) : Json := .object [("group_name", .text name.text), ("version", .int 1)]

/-- The metadata in bytes; there is no float in it. -/
def groupPlaintext (name : GroupName) : Bytes := (groupMetadata name).encoded (.compact fun _ => [])

/-- `document.get(key)` of an object. -/
def memberOf (members : List (String × Json)) (key : String) : Option Json :=
  (members.find? fun found => found.1 = key).map Prod.snd

/-- What `== 1` holds of. -/
def isOne : Json → Bool
  | .int value => value = 1
  | .real value => value = 1
  | .bool value => value
  | _ => false

section

variable (crypto : InviteCrypto)

def metadataKey (roomId secret : Bytes) : Bytes := crypto.derive roomId secret

/-- The sealed name of a group. -/
def sealName (room : Room) (name : GroupName) (nonce : Nonce) : Bytes :=
  crypto.aead.encrypt (metadataKey crypto room.roomId room.secret) nonce.bytes (groupPlaintext name) room.roomId

def Room.invite (room : Room) (nonce : Nonce) : List Char :=
  match room.groupName with
  | none => invitePrefixText ++ (UrlBase64.encode room.roomId ++ '.' :: UrlBase64.encode room.secret)
  | some name => groupInvitePrefixText ++ (UrlBase64.encode room.roomId ++ '.' :: (UrlBase64.encode room.secret ++
      '.' :: UrlBase64.encode (nonce.bytes ++ sealName crypto room name nonce)))

/-- The name in a sealed field. -/
def openName (roomId secret encrypted : Bytes) : Option GroupName :=
  if encrypted.length < 28 then none
  else do
    let plaintext ← crypto.aead.decrypt (metadataKey crypto roomId secret) (encrypted.take 12) (encrypted.drop 12) roomId
    match ← crypto.loads plaintext with
    | .object members => do
        if (memberOf members "version").any isOne then normalizeGroupName (← memberOf members "group_name") else none
    | _ => none

def roomOf (roomId secret : Bytes) (groupName : Option GroupName) : Option Room :=
  if lengths : roomId.length = 16 ∧ secret.length = 32 then some ⟨roomId, secret, groupName, lengths.1, lengths.2⟩ else none

/-- The room of a group that three fields spell. -/
def groupOfFields (first second third : List Char) : Option Room := do
  let roomId ← UrlBase64.decode first
  let secret ← UrlBase64.decode second
  let encrypted ← UrlBase64.decode third
  roomOf roomId secret (some (← openName crypto roomId secret encrypted))

def roomOfFields (first second : List Char) : Option Room := do
  let roomId ← UrlBase64.decode first
  let secret ← UrlBase64.decode second
  roomOf roomId secret none

/-- `Room.from_invite`; whatever goes wrong inside is the one `ValueError`. -/
def Room.fromInvite (invite : List Char) : Except String Room :=
  let room := if groupInvitePrefixText.isPrefixOf invite then
      match pieces '.' (invite.drop groupInvitePrefixText.length) with
      | [first, second, third] => groupOfFields crypto first second third
      | _ => none
    else if invitePrefixText.isPrefixOf invite then
      match pieces '.' (invite.drop invitePrefixText.length) with
      | [first, second] => roomOfFields first second
      | _ => none
    else none
  match room with
  | some room => .ok room
  | none => .error "Invalid MeshTalk room invite"

end

/-! ## Pieces -/

variable {separator : Char} {text front back : List Char} {crypto : InviteCrypto} {room : Room} {nonce : Nonce}

theorem pieces_plain (plain : separator ∉ text) : pieces separator text = [text] := by
  induction text with
  | nil => rfl
  | cons char rest ih =>
      rw [List.mem_cons, not_or] at plain
      rw [pieces, if_neg (Ne.symm plain.1), ih plain.2]

theorem pieces_append (plain : separator ∉ front) : pieces separator (front ++ separator :: back) = front :: pieces separator back := by
  induction front with
  | nil =>
      rw [List.nil_append, pieces, if_pos rfl]
  | cons char rest ih =>
      rw [List.mem_cons, not_or] at plain
      rw [List.cons_append, pieces, if_neg (Ne.symm plain.1), ih plain.2]

theorem length_pieces : (pieces separator text).length = text.count separator + 1 := by
  induction text with
  | nil => rfl
  | cons char rest ih =>
      rw [pieces]
      split
      · rename_i same
        rw [List.length_cons, ih, same, List.count_cons_self]
      · rename_i other
        rw [List.count_cons_of_ne other, ← ih]
        cases found : pieces separator rest with
        | nil =>
            rw [found] at ih
            cases ih
        | cons first others => rfl

/-- Three fields that were joined are the pieces, or there are more. -/
theorem pieces_joined {first second third : List Char} {parts : List Char × List Char × List Char}
    (found : pieces separator (first ++ separator :: (second ++ separator :: third)) = [parts.1, parts.2.1, parts.2.2]) :
    parts = (first, second, third) := by
  have count := @length_pieces separator (first ++ separator :: (second ++ separator :: third))
  rw [found, List.count_append, List.count_cons_self, List.count_append, List.count_cons_self] at count
  have none : first.count separator = 0 ∧ second.count separator = 0 ∧ third.count separator = 0 := by
    simp only [List.length_cons, List.length_nil] at count
    omega
  rw [pieces_append (List.count_eq_zero.mp none.1), pieces_append (List.count_eq_zero.mp none.2.1),
    pieces_plain (List.count_eq_zero.mp none.2.2)] at found
  simp only [List.cons.injEq, and_true] at found
  obtain ⟨one, two, three⟩ := found
  rw [one, two, three]

/-! ## Invites that were made -/

/-- An invite of a room, by the bytes that were drawn for it. -/
structure Issue where
  room : Room
  nonce : Nonce
deriving DecidableEq

def Issue.invite (crypto : InviteCrypto) (issue : Issue) : List Char := issue.room.invite crypto issue.nonce

/-- The fields spell the room and the sealed name of the invite, canonically or not. -/
def Issue.Supplies (crypto : InviteCrypto) (issue : Issue) (first second third : List Char) : Prop :=
  UrlBase64.decode first = some issue.room.roomId ∧ UrlBase64.decode second = some issue.room.secret ∧
    ∃ name, issue.room.groupName = some name ∧
      UrlBase64.decode third = some (issue.nonce.bytes ++ sealName crypto issue.room name issue.nonce)

/-- A group invite with any texts for its three fields. -/
def groupInvite (first second third : List Char) : List Char :=
  groupInvitePrefixText ++ (first ++ '.' :: (second ++ '.' :: third))

/-- An ideal cipher and key derivation: what opens was sealed for an invite that was made, under
its key, nonce and associated data.  `json.loads` reads what `json.dumps` has written. -/
structure Ideal (crypto : InviteCrypto) (issued : Issue → Prop) : Prop where
  opens : ∀ issue name, issued issue → issue.room.groupName = some name →
    crypto.aead.decrypt (metadataKey crypto issue.room.roomId issue.room.secret) issue.nonce.bytes
      (sealName crypto issue.room name issue.nonce) issue.room.roomId = some (groupPlaintext name)
  expands : ∀ key nonce plaintext associatedData,
    (crypto.aead.encrypt key nonce plaintext associatedData).length = plaintext.length + tcpRecordTagSize
  genuine : ∀ key nonce ciphertext associatedData plaintext,
    crypto.aead.decrypt key nonce ciphertext associatedData = some plaintext →
      ∃ issue name, issued issue ∧ issue.room.groupName = some name ∧
        key = metadataKey crypto issue.room.roomId issue.room.secret ∧ nonce = issue.nonce.bytes ∧
        ciphertext = sealName crypto issue.room name issue.nonce ∧ associatedData = issue.room.roomId
  derives : ∀ roomId secret other, metadataKey crypto roomId secret = metadataKey crypto roomId other → secret = other
  reads : ∀ issue name, issued issue → issue.room.groupName = some name →
    crypto.loads (groupPlaintext name) = some (groupMetadata name)

variable {issued : Issue → Prop} {issue : Issue} {first second third : List Char}

theorem fromInvite_group : Room.fromInvite crypto (groupInvitePrefixText ++ text) =
    match (match pieces '.' text with
      | [first, second, third] => groupOfFields crypto first second third
      | _ => none) with
    | some room => .ok room
    | none => .error "Invalid MeshTalk room invite" := by
  have begins : groupInvitePrefixText.isPrefixOf (groupInvitePrefixText ++ text) = true :=
    List.isPrefixOf_iff_prefix.mpr (List.prefix_append _ _)
  rw [Room.fromInvite, if_pos begins, List.drop_left]

theorem fromInvite_plain : Room.fromInvite crypto (invitePrefixText ++ text) =
    match (match pieces '.' text with
      | [first, second] => roomOfFields first second
      | _ => none) with
    | some room => .ok room
    | none => .error "Invalid MeshTalk room invite" := by
  have other : ¬ groupInvitePrefixText.isPrefixOf (invitePrefixText ++ text) = true := fun same => by cases same
  have begins : invitePrefixText.isPrefixOf (invitePrefixText ++ text) = true :=
    List.isPrefixOf_iff_prefix.mpr (List.prefix_append _ _)
  rw [Room.fromInvite, if_neg other, if_pos begins, List.drop_left]

theorem dot_notMem_encode {bytes : Bytes} : '.' ∉ UrlBase64.encode bytes := fun member =>
  (UrlBase64.mem_encode member).1 rfl

theorem roomOf_eq (room : Room) : roomOf room.roomId room.secret room.groupName = some room :=
  dif_pos ⟨room.idLength, room.secretLength⟩

theorem roomOf_some {roomId secret : Bytes} {name : Option GroupName} (found : roomOf roomId secret name = some room) :
    room.roomId = roomId ∧ room.secret = secret ∧ room.groupName = name := by
  unfold roomOf at found
  split at found
  · cases found
    exact ⟨rfl, rfl, rfl⟩
  · cases found

/-- The name that an ideal cipher gives back is the one that was sealed. -/
theorem Ideal.opensName (ideal : Ideal crypto issued) (made : issued issue) {name : GroupName} (named : issue.room.groupName = some name) :
    openName crypto issue.room.roomId issue.room.secret (issue.nonce.bytes ++ sealName crypto issue.room name issue.nonce) =
      some name := by
  have long : ¬ (issue.nonce.bytes ++ sealName crypto issue.room name issue.nonce).length < 28 := by
    rw [List.length_append, issue.nonce.length, sealName, ideal.expands, tcpRecordTagSize]
    omega
  have front : (issue.nonce.bytes ++ sealName crypto issue.room name issue.nonce).take 12 = issue.nonce.bytes :=
    List.take_left' issue.nonce.length
  have behind : (issue.nonce.bytes ++ sealName crypto issue.room name issue.nonce).drop 12 = sealName crypto issue.room name issue.nonce :=
    List.drop_left' issue.nonce.length
  rw [Settings.openName, if_neg long, front, behind, ideal.opens issue name made named, Option.bind_eq_bind, Option.bind_some,
    ideal.reads issue name made named]
  exact groupNameOf_normal name

theorem Ideal.fromInvite_invite (ideal : Ideal crypto issued) (made : issued issue) :
    Room.fromInvite crypto (issue.invite crypto) = .ok issue.room := by
  unfold Issue.invite Room.invite
  cases named : issue.room.groupName with
  | none =>
      have whole := roomOf_eq issue.room
      rw [named] at whole
      dsimp only
      rw [fromInvite_plain, pieces_append dot_notMem_encode, pieces_plain dot_notMem_encode]
      dsimp only
      rw [roomOfFields, UrlBase64.decode_encode, UrlBase64.decode_encode]
      simp only [Option.bind_eq_bind, Option.bind_some, whole]
  | some name =>
      have whole := roomOf_eq issue.room
      rw [named] at whole
      dsimp only
      rw [fromInvite_group, pieces_append dot_notMem_encode, pieces_append dot_notMem_encode, pieces_plain dot_notMem_encode]
      dsimp only
      rw [groupOfFields, UrlBase64.decode_encode, UrlBase64.decode_encode, UrlBase64.decode_encode]
      simp only [Option.bind_eq_bind, Option.bind_some, ideal.opensName made named, whole]

/-- A room that three fields spell is one of an invite that supplied them all. -/
theorem Ideal.supplied (ideal : Ideal crypto issued) (found : groupOfFields crypto first second third = some room) :
    ∃ issue, issued issue ∧ issue.Supplies crypto first second third ∧ issue.room = room := by
  simp only [groupOfFields, Option.bind_eq_bind, Option.bind_eq_some_iff] at found
  obtain ⟨roomId, one, secret, two, encrypted, three, name, opened, built⟩ := found
  obtain ⟨sameId, sameSecret, sameName⟩ := roomOf_some built
  unfold openName at opened
  split at opened
  · cases opened
  rename_i long
  simp only [Option.bind_eq_bind, Option.bind_eq_some_iff] at opened
  obtain ⟨plaintext, decrypted, document, loaded, read⟩ := opened
  obtain ⟨issue, sealedName, made, named, key, nonce, ciphertext, associated⟩ := ideal.genuine _ _ _ _ _ decrypted
  subst associated
  obtain rfl := ideal.derives _ _ _ key
  have whole : encrypted = issue.nonce.bytes ++ sealName crypto issue.room sealedName issue.nonce := by
    rw [← nonce, ← ciphertext, List.take_append_drop]
  have again := ideal.opensName made named
  rw [← whole, openName, if_neg long, decrypted, Option.bind_eq_bind, Option.bind_some, loaded] at again
  have same : name = sealedName := Option.some.inj (read.symm.trans again)
  refine ⟨issue, made, ⟨one, two, sealedName, named, by rw [three, whole]⟩, ?_⟩
  obtain ⟨roomId', secret', groupName', idLength, secretLength⟩ := room
  obtain ⟨⟨issuedId, issuedSecret, issuedName, issuedIdLength, issuedSecretLength⟩, issuedNonce⟩ := issue
  simp only [Room.mk.injEq]
  exact ⟨sameId.symm, sameSecret.symm, named.trans ((congrArg some same).symm.trans sameName.symm)⟩

def sampleRoom (byte : UInt8) (name : GroupName) : Room where
  roomId := List.replicate 16 byte
  secret := List.replicate 32 byte
  groupName := some name
  idLength := List.length_replicate
  secretLength := List.length_replicate

def sampleNonce : Nonce := ⟨List.replicate 12 0, List.length_replicate⟩

def opsName : GroupName := ⟨"Ops", by decide⟩

def labName : GroupName := ⟨"Lab", by decide⟩

def opsIssue : Issue := ⟨sampleRoom 1 opsName, sampleNonce⟩

def labIssue : Issue := ⟨sampleRoom 2 labName, sampleNonce⟩

/-- A cipher that knows the two sealed names, and opens nothing else. -/
def twoGroups : InviteCrypto where
  aead :=
    { encrypt := fun _ _ plaintext associatedData => plaintext ++ List.replicate 15 0 ++ [associatedData.sum]
      decrypt := fun key nonce ciphertext associatedData =>
        let opened (byte : UInt8) (name : GroupName) : Bool :=
          key = List.replicate 32 byte && nonce = List.replicate 12 0 &&
            ciphertext = groupPlaintext name ++ List.replicate 15 0 ++ [(List.replicate 16 byte).sum] &&
            associatedData = List.replicate 16 byte
        if opened 1 opsName then some (groupPlaintext opsName)
        else if opened 2 labName then some (groupPlaintext labName)
        else none }
  derive := fun _ secret => secret
  loads := fun bytes =>
    if bytes = groupPlaintext opsName then some (groupMetadata opsName)
    else if bytes = groupPlaintext labName then some (groupMetadata labName)
    else none

theorem twoGroups_ideal : Ideal twoGroups fun issue => issue = opsIssue ∨ issue = labIssue where
  opens := by
    rintro issue name (rfl | rfl) named
    · cases named
      rfl
    · cases named
      rfl
  expands := fun key nonce plaintext associatedData => by simp [twoGroups, tcpRecordTagSize]
  genuine := by
    intro key nonce ciphertext associatedData plaintext opened
    simp only [twoGroups] at opened
    split at opened
    · rename_i first
      simp only [Bool.and_eq_true, decide_eq_true_eq] at first
      exact ⟨opsIssue, opsName, .inl rfl, rfl, first.1.1.1, first.1.1.2, first.1.2, first.2⟩
    · split at opened
      · rename_i second
        simp only [Bool.and_eq_true, decide_eq_true_eq] at second
        exact ⟨labIssue, labName, .inr rfl, rfl, second.1.1.1, second.1.1.2, second.1.2, second.2⟩
      · cases opened
  derives := fun _ _ _ same => same
  reads := by
    rintro issue name (rfl | rfl) named
    · cases named
      simp [twoGroups]
    · cases named
      have other : groupPlaintext labName ≠ groupPlaintext opsName := by decide
      simp [twoGroups, other]

end MeshTalk.Settings
