import MeshTalk.Library.Hex
import MeshTalk.Settings.State

namespace MeshTalk.Settings

open MeshTalk.Library MeshTalk.Protocol

/-! # The mutators of the settings -/

/-! ## What surrounds them -/

structure Address where
  text : String
  isIPv4 : Bool
deriving DecidableEq

/-- The library functions behind addresses and invites.  A URL gives its scheme and its
host name, which is empty where there is none. -/
structure Parsers where
  urlparse : List Char → Except Fault (String × String)
  address : List Char → Option Address
  crypto : InviteCrypto

/-- What the system does during one call: whether the settings file can be written, the time, and
what becomes of a path. -/
structure World where
  writable : Bool
  now : Rat
  filesPath : List Char → Except Fault String
  storagePath : List Char → Except Fault String
  /-- The reason why no file can be created in a directory. -/
  refusal : String → Option String
  resolved : String → String

/-! ## Checks -/

def booleanOf (message : String) : Value → Except Fault Bool
  | .bool value => .ok value
  | _ => .error (.valueError message)

def confirmFileSendOf : Value → Except Fault Bool := booleanOf "confirm_file_send must be a boolean"

def imageProtocolOf : Value → Except Fault ImageProtocol := choose "image_protocol must be auto, kitty, sixel, or blocks"

def splashStyleOf : Value → Except Fault SplashStyle := choose "splash_style must be card, boot-log, or off"

def deliveryOf : Value → Except Fault Delivery := choose "notification delivery must be terminal, native, or disabled"

def analyticsLevelOf : Value → Except Fault AnalyticsLevel := choose "analytics level must be extended, basic, or off"

def millisecondsOf (field : String) : Value → Except Fault Nat
  | .bool value => .ok value.toNat
  | .int value => if value < 0 then .error (.valueError (field ++ " must be a non-negative number")) else .ok value.toNat
  | .double (.finite value) =>
      if value < 0 then .error (.valueError (field ++ " must be a non-negative number")) else .ok value.floor.toNat
  | .double .infinite => .error .overflowError
  | .double .nan => .error (.valueError "cannot convert float NaN to integer")
  | _ => .error (.valueError (field ++ " must be a non-negative number"))

def stripped (text : String) : String := String.ofList (strip text.toList)

/-- `path.strip().strip('"').strip("'")`. -/
def unquoted (path : String) : List Char := trim (fun char => char = '\'') (trim (fun char => char = '"') (strip path.toList))

def directoryOf (resolve : List Char → Except Fault String) (world : World) (empty unusable : String) :
    Value → Except Fault String
  | .text path =>
      if strip path.toList = [] then .error (.valueError empty)
      else match resolve (unquoted path) with
        | .error fault => .error fault
        | .ok directory =>
            match world.refusal directory with
            | some reason => .error (.valueError (unusable ++ " '" ++ directory ++ "': " ++ reason))
            | none => .ok (world.resolved directory)
  | _ => .error (.valueError empty)

/-- `validate_target_dir`. -/
def validateTargetDir (world : World) : Value → Except Fault String :=
  directoryOf world.storagePath world "path must be a non-empty string" "Cannot use directory"

def filesDirectory (world : World) : Value → Except Fault String :=
  directoryOf world.filesPath world "files_dir must be a non-empty path" "Cannot use files directory"

def localHosts : List String := ["localhost", "127.0.0.1", "::1"]

/-- `url.strip().rstrip("/")`. -/
def urlText (url : String) : List Char := (strip url.toList).rdropWhile fun char => char = '/'

def validateControlUrl (parsers : Parsers) : Value → Except Fault String
  | .text url =>
      match parsers.urlparse (urlText url) with
      | .error fault => .error fault
      | .ok (scheme, hostname) =>
          if scheme ∉ ["ws", "wss"] ∨ hostname = "" then .error (.valueError "Control URL must use ws:// or wss://")
          else if scheme = "ws" ∧ hostname ∉ localHosts then .error (.valueError "Remote control URLs must use wss://")
          else .ok (String.ofList (urlText url))
  | _ => .error .attributeError

def validatePinnedIps (parsers : Parsers) : Value → Except Fault (List String)
  | .text ips =>
      match (pieces ',' ips.toList).mapM fun piece => parsers.address (strip piece) with
      | none => .error (.valueError "Each pinned value must be a valid IP address")
      | some found =>
          let values := (found.map Address.text).eraseDups
          if values = [] then .error (.valueError "At least one pinned IP is required") else .ok values
  | _ => .error (.valueError "Pinned IPs must be a comma-separated string")

def validateStunPinnedIps (parsers : Parsers) (ips : Value) : Except Fault (List String) :=
  match validatePinnedIps parsers ips with
  | .error fault => .error fault
  | .ok values =>
      if values.any fun value => !(parsers.address value.toList).any Address.isIPv4 then
        .error (.valueError "STUN pinned IPs must be IPv4")
      else .ok values

def tokenOf : Value → Except Fault String
  | .text token => .ok (stripped token)
  | _ => .error (.valueError "GitHub token must be a string")

/-- `normalize_group_name`, with its errors. -/
def groupNameOrRaise : Value → Except Fault GroupName
  | .text name =>
      match groupNameOf name.toList with
      | some name => .ok name
      | none => .error (.valueError "Group name must be 1-64 printable characters")
  | _ => .error (.valueError "Group name required")

/-- A name where one is given. -/
def optionalGroupName : Value → Except Fault (Option GroupName)
  | .null => .ok none
  | name => (groupNameOrRaise name).map some

/-- `Room.create` with the credentials that were drawn. -/
def Room.create (drawn : Room) (groupName : Value) : Except Fault Room :=
  (optionalGroupName groupName).map fun groupName => { drawn with groupName }

def Room.id (room : Room) : String := Hex.toText room.roomId

def roomOfInvite (parsers : Parsers) : Value → Except Fault Room
  | .text invite =>
      match Room.fromInvite parsers.crypto invite.toList with
      | .ok room => .ok room
      | .error message => .error (.valueError message)
  | _ => .error (.valueError "Invalid MeshTalk room invite")

def joinedRoom (parsers : Parsers) (invite : Value) (settings : Settings) : Except Fault Room :=
  match roomOfInvite parsers invite with
  | .error fault => .error fault
  | .ok room =>
      if (settings.rooms.get? room.id).any fun existing => existing ≠ room then
        .error (.valueError "Invite conflicts with the existing room")
      else .ok room

def knownRoom (roomId : String) (settings : Settings) : Except Fault PUnit :=
  if settings.rooms.contains roomId then .ok ⟨⟩ else .error (.valueError "Unknown room ID")

def eventsMessage : String := "notification events must contain boolean known event values"

def eventOf : String × Value → Option (NotificationEvent × Bool)
  | (key, .bool enabled) => (ofText key).map fun event => (event, enabled)
  | _ => none

/-- The events of a dictionary; the keys of what is no dictionary are looked at first. -/
def eventsOf : Value → Except Fault (List (NotificationEvent × Bool))
  | .object members =>
      match members.mapM eventOf with
      | some events => .ok events
      | none => .error (.valueError eventsMessage)
  | .array items =>
      match items.mapM Value.hashed with
      | .error fault => .error fault
      | .ok keys =>
          if keys.all fun key => (key.bind (ofText (α := NotificationEvent))).isSome then .error .attributeError
          else .error (.valueError eventsMessage)
  | .text keys => if keys = "" then .error .attributeError else .error (.valueError eventsMessage)
  | _ => .error .typeError

def updateEvents (events : NotificationEvent → Bool) (given : List (NotificationEvent × Bool)) : NotificationEvent → Bool :=
  given.foldl (fun events entry => Function.update events entry.1 entry.2) events

/-! ## Mutators -/

/-- Check, assign, save. -/
def mutate (world : World) (check : Settings → Except Fault α) (update : α → Settings → Settings) : Call α := do
  let installed ← Handler.read
  let value ← ofExcept (check installed.memory)
  assign (update value)
  save world.writable
  pure value

/-! The parts of `set_notification_preferences`, one for each argument. -/

def assignDismissed : Option Bool → Call PUnit
  | some dismissed => assign fun settings => { settings with notificationSetupDismissed := dismissed }
  | none => pure ⟨⟩

def assignDelivery : Value → Call PUnit
  | .null => pure ⟨⟩
  | delivery => do
      let chosen ← ofExcept (deliveryOf delivery)
      assign fun settings => { settings with notificationDelivery := chosen }

def assignEvents : Value → Call PUnit
  | .null => pure ⟨⟩
  | events => do
      let given ← ofExcept (eventsOf events)
      assign fun settings => { settings with notificationEvents := updateEvents settings.notificationEvents given }

section

variable (parsers : Parsers) (world : World)

def setStorageDir (path : Value) : Call String :=
  mutate world (fun _ => validateTargetDir world path) fun final settings => { settings with storageDir := some final }

def setFilesDir (path : Value) : Call String :=
  mutate world (fun _ => filesDirectory world path) fun final settings => { settings with filesDir := some final }

def clearFilesDir : Call PUnit := mutate world (fun _ => .ok ⟨⟩) fun _ settings => { settings with filesDir := none }

def clearStorageDir : Call PUnit := mutate world (fun _ => .ok ⟨⟩) fun _ settings => { settings with storageDir := none }

def setImageProtocol (protocol : Value) : Call ImageProtocol :=
  mutate world (fun _ => imageProtocolOf protocol) fun imageProtocol settings => { settings with imageProtocol }

def setConfirmFileSend (enabled : Value) : Call Bool :=
  mutate world (fun _ => confirmFileSendOf enabled) fun confirmFileSend settings => { settings with confirmFileSend }

def setSplashStyle (style : Value) : Call SplashStyle :=
  mutate world (fun _ => splashStyleOf style) fun splashStyle settings => { settings with splashStyle }

def setSplashDurationMs (ms : Value) : Call Nat :=
  mutate world (fun _ => millisecondsOf "splash_duration_ms" ms) fun splashDurationMs settings => { settings with splashDurationMs }

def setSplashPhaseMs (ms : Value) : Call Nat :=
  mutate world (fun _ => millisecondsOf "splash_phase_ms" ms) fun splashPhaseMs settings => { settings with splashPhaseMs }

def setSplashWelcomeMs (ms : Value) : Call Nat :=
  mutate world (fun _ => millisecondsOf "splash_welcome_ms" ms) fun splashWelcomeMs settings => { settings with splashWelcomeMs }

def setControlUrl (url : Value) : Call String :=
  mutate world (fun _ => validateControlUrl parsers url)
    fun controlUrl settings => { settings with controlUrl := .text controlUrl, controlSetupDismissed := true }

def setControlPinnedIps (ips : Value) : Call (List String) :=
  mutate world (fun _ => validatePinnedIps parsers ips) fun controlPinnedIps settings => { settings with controlPinnedIps }

def clearControlPinnedIps : Call PUnit :=
  mutate world (fun _ => .ok ⟨⟩) fun _ settings => { settings with controlPinnedIps := [] }

def setStunPinnedIps (ips : Value) : Call (List String) :=
  mutate world (fun _ => validateStunPinnedIps parsers ips) fun stunPinnedIps settings => { settings with stunPinnedIps }

def clearStunPinnedIps : Call PUnit :=
  mutate world (fun _ => .ok ⟨⟩) fun _ settings => { settings with stunPinnedIps := [] }

def dismissControlSetup : Call PUnit :=
  mutate world (fun _ => .ok ⟨⟩) fun _ settings => { settings with controlSetupDismissed := true }

def dismissIdentitySetup : Call PUnit :=
  mutate world (fun _ => .ok ⟨⟩) fun _ settings => { settings with identitySetupDismissed := true }

def setFlashingEnabled (enabled : Bool) : Call PUnit :=
  mutate world (fun _ => .ok ⟨⟩) fun _ settings => { settings with flashingEnabled := enabled }

def setDndEnabled (enabled : Value) : Call PUnit :=
  mutate world (fun _ => .ok ⟨⟩) fun _ settings => { settings with dndEnabled := enabled.truthy }

def setGithubToken (token : Value) : Call String :=
  mutate world (fun _ => tokenOf token) fun githubToken settings => { settings with githubToken }

def createRoom (drawn : Room) (groupName : Value) : Call Room :=
  mutate world (fun _ => Room.create drawn groupName)
    fun room settings => { settings with rooms := settings.rooms.set room.id room }

def joinRoom (invite : Value) : Call Room :=
  mutate world (joinedRoom parsers invite) fun room settings => { settings with rooms := settings.rooms.set room.id room }

def leaveRoom (roomId : String) : Call PUnit :=
  mutate world (knownRoom roomId) fun _ settings => { settings with rooms := settings.rooms.erase roomId }

def mutePeer (peerId : String) (expiry : Double) : Call PUnit :=
  mutate world (fun _ => .ok ⟨⟩) fun _ settings => { settings with mutedPeers := settings.mutedPeers.set peerId expiry }

def unmutePeer (peerId : String) : Call PUnit :=
  mutate world (fun _ => .ok ⟨⟩) fun _ settings => { settings with mutedPeers := settings.mutedPeers.erase peerId }

def muteGroup (groupId : String) (expiry : Double) : Call PUnit :=
  mutate world (fun _ => .ok ⟨⟩) fun _ settings => { settings with mutedGroups := settings.mutedGroups.set groupId expiry }

def unmuteGroup (groupId : String) : Call PUnit :=
  mutate world (fun _ => .ok ⟨⟩) fun _ settings => { settings with mutedGroups := settings.mutedGroups.erase groupId }

/-- A mute with an end that has been reached. -/
def Double.expired (now : Rat) : Double → Bool
  | .finite expiry => 0 < expiry && expiry ≤ now
  | _ => false

/-- Looking at a mute removes it where it has expired. -/
def isMuted (mutes : Settings → Dict String Double) (unmute : Settings → Settings) (id : String) : Call Bool := do
  let installed ← Handler.read
  match (mutes installed.memory).get? id with
  | none => pure false
  | some expiry =>
      if expiry.expired world.now then do
        assign unmute
        save world.writable
        pure false
      else pure true

def isGroupMuted (groupId : String) : Call Bool :=
  isMuted world Settings.mutedGroups
    (fun settings => { settings with mutedGroups := settings.mutedGroups.erase groupId }) groupId

def isPeerMuted (peerId : String) : Call Bool :=
  isMuted world Settings.mutedPeers
    (fun settings => { settings with mutedPeers := settings.mutedPeers.erase peerId }) peerId

/-- A keyword argument that is not given is null. -/
def setNotificationPreferences (setupDismissed : Option Bool) (delivery events : Value) : Call PUnit := do
  assignDismissed setupDismissed
  assignDelivery delivery
  assignEvents events
  save world.writable

/-- A level that was chosen is an answer to the question of consent. -/
def Analytics.chosen (analytics : Analytics) (level : AnalyticsLevel) : Analytics :=
  { analytics with level, consent := if level = .off then .declined else .accepted, dirty := true }

def setAnalyticsLevel (level : Value) : Call AnalyticsLevel :=
  mutate world (fun _ => analyticsLevelOf level) fun level settings =>
    { settings with analytics := settings.analytics.chosen level }

end

/-! ## Any of them -/

inductive Mutation where
  | setStorageDir (path : Value)
  | setFilesDir (path : Value)
  | clearFilesDir
  | clearStorageDir
  | setImageProtocol (protocol : Value)
  | setConfirmFileSend (enabled : Value)
  | setSplashStyle (style : Value)
  | setSplashDurationMs (ms : Value)
  | setSplashPhaseMs (ms : Value)
  | setSplashWelcomeMs (ms : Value)
  | setControlUrl (url : Value)
  | setControlPinnedIps (ips : Value)
  | clearControlPinnedIps
  | setStunPinnedIps (ips : Value)
  | clearStunPinnedIps
  | dismissControlSetup
  | dismissIdentitySetup
  | setFlashingEnabled (enabled : Bool)
  | setDndEnabled (enabled : Value)
  | setGithubToken (token : Value)
  | createRoom (drawn : Room) (groupName : Value)
  | joinRoom (invite : Value)
  | leaveRoom (roomId : String)
  | mutePeer (peerId : String) (expiry : Double)
  | unmutePeer (peerId : String)
  | muteGroup (groupId : String) (expiry : Double)
  | unmuteGroup (groupId : String)
  | isGroupMuted (groupId : String)
  | isPeerMuted (peerId : String)
  | setNotificationPreferences (setupDismissed : Option Bool) (delivery events : Value)
  | setAnalyticsLevel (level : Value)

/-- The call without what it gives back. -/
def discard (call : Call α) : Call PUnit := do
  let _ ← call
  pure ⟨⟩

def Mutation.run (parsers : Parsers) (world : World) : Mutation → Call PUnit
  | setStorageDir path => discard (Settings.setStorageDir world path)
  | setFilesDir path => discard (Settings.setFilesDir world path)
  | clearFilesDir => Settings.clearFilesDir world
  | clearStorageDir => Settings.clearStorageDir world
  | setImageProtocol protocol => discard (Settings.setImageProtocol world protocol)
  | setConfirmFileSend enabled => discard (Settings.setConfirmFileSend world enabled)
  | setSplashStyle style => discard (Settings.setSplashStyle world style)
  | setSplashDurationMs ms => discard (Settings.setSplashDurationMs world ms)
  | setSplashPhaseMs ms => discard (Settings.setSplashPhaseMs world ms)
  | setSplashWelcomeMs ms => discard (Settings.setSplashWelcomeMs world ms)
  | setControlUrl url => discard (Settings.setControlUrl parsers world url)
  | setControlPinnedIps ips => discard (Settings.setControlPinnedIps parsers world ips)
  | clearControlPinnedIps => Settings.clearControlPinnedIps world
  | setStunPinnedIps ips => discard (Settings.setStunPinnedIps parsers world ips)
  | clearStunPinnedIps => Settings.clearStunPinnedIps world
  | dismissControlSetup => Settings.dismissControlSetup world
  | dismissIdentitySetup => Settings.dismissIdentitySetup world
  | setFlashingEnabled enabled => Settings.setFlashingEnabled world enabled
  | setDndEnabled enabled => Settings.setDndEnabled world enabled
  | setGithubToken token => discard (Settings.setGithubToken world token)
  | createRoom drawn groupName => discard (Settings.createRoom world drawn groupName)
  | joinRoom invite => discard (Settings.joinRoom parsers world invite)
  | leaveRoom roomId => Settings.leaveRoom world roomId
  | mutePeer peerId expiry => Settings.mutePeer world peerId expiry
  | unmutePeer peerId => Settings.unmutePeer world peerId
  | muteGroup groupId expiry => Settings.muteGroup world groupId expiry
  | unmuteGroup groupId => Settings.unmuteGroup world groupId
  | isGroupMuted groupId => discard (Settings.isGroupMuted world groupId)
  | isPeerMuted peerId => discard (Settings.isPeerMuted world peerId)
  | setNotificationPreferences setupDismissed delivery events =>
      Settings.setNotificationPreferences world setupDismissed delivery events
  | setAnalyticsLevel level => discard (Settings.setAnalyticsLevel world level)

end MeshTalk.Settings
