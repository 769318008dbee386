import MeshTalk.Library.Dict
import MeshTalk.Library.Handler
import MeshTalk.Settings.Rooms

namespace MeshTalk.Settings

open MeshTalk.Library MeshTalk.Protocol

/-! # Settings in memory and on disk

A mutator checks its argument, assigns, and saves.  Saving first adopts the analytics keys
that the launcher may have written to the file in the meantime.
-/

/-! ## Values -/

/-- A float, with the three that are no numbers. -/
inductive Double where
  | finite (value : Rat)
  | infinite
  | negativeInfinite
  | nan
deriving DecidableEq

/-- What `json` reads and writes. -/
inductive Value where
  | null
  | bool (value : Bool)
  | int (value : Int)
  | double (value : Double)
  | text (value : String)
  | array (items : List Value)
  | object (members : List (String × Value))

inductive Fault where
  | valueError (message : String)
  | typeError
  | attributeError
  | keyError
  | overflowError
  | osError
deriving DecidableEq

/-- `bool(value)`. -/
def Value.truthy : Value → Bool
  | .null => false
  | .bool value => value
  | .int value => value ≠ 0
  | .double value => value ≠ .finite 0
  | .text value => value ≠ ""
  | .array items => !items.isEmpty
  | .object members => !members.isEmpty

/-- `members.get(key)`. -/
def member (members : List (String × Value)) (key : String) : Option Value :=
  (members.find? fun found => found.1 = key).map Prod.snd

/-- The text that is looked up in a set of texts; lists and objects cannot be. -/
def Value.hashed : Value → Except Fault (Option String)
  | .text value => .ok (some value)
  | .array _ => .error .typeError
  | .object _ => .error .typeError
  | _ => .ok none

def hashedMember (members : List (String × Value)) (key : String) : Except Fault (Option String) :=
  match member members key with
  | some value => value.hashed
  | none => .ok none

/-! ## Named choices -/

/-- A type whose values each have a text in the file. -/
class Named (α : Type) where
  text : α → String
  all : List α
  read_text : ∀ choice, all.find? (fun found => text found = text choice) = some choice

def ofText [Named α] (text : String) : Option α := Named.all.find? fun found => Named.text found = text

theorem ofText_text [Named α] (choice : α) : ofText (Named.text choice) = some choice := Named.read_text choice

theorem text_of_ofText [Named α] {text : String} {choice : α} (found : ofText text = some choice) :
    text = Named.text choice := by
  have same := List.find?_some found
  exact (of_decide_eq_true same).symm

/-- `if value not in {...}: raise ValueError(message)`. -/
def choose [Named α] (message : String) (value : Value) : Except Fault α :=
  match value.hashed with
  | .error fault => .error fault
  | .ok text =>
      match text.bind ofText with
      | some choice => .ok choice
      | none => .error (.valueError message)

inductive Delivery where
  | terminal
  | native
  | disabled
deriving DecidableEq

instance : Named Delivery where
  text
    | .terminal => "terminal"
    | .native => "native"
    | .disabled => "disabled"
  all := [.terminal, .native, .disabled]
  read_text := fun choice => by cases choice <;> rfl

inductive NotificationEvent where
  | messages
  | friendRequests
  | fileOffers
  | fileCompleted
deriving DecidableEq

instance : Named NotificationEvent where
  text
    | .messages => "messages"
    | .friendRequests => "friend_requests"
    | .fileOffers => "file_offers"
    | .fileCompleted => "file_completed"
  all := [.messages, .friendRequests, .fileOffers, .fileCompleted]
  read_text := fun choice => by cases choice <;> rfl

inductive ImageProtocol where
  | auto
  | kitty
  | sixel
  | blocks
deriving DecidableEq

instance : Named ImageProtocol where
  text
    | .auto => "auto"
    | .kitty => "kitty"
    | .sixel => "sixel"
    | .blocks => "blocks"
  all := [.auto, .kitty, .sixel, .blocks]
  read_text := fun choice => by cases choice <;> rfl

inductive SplashStyle where
  | card
  | bootLog
  | off
deriving DecidableEq

instance : Named SplashStyle where
  text
    | .card => "card"
    | .bootLog => "boot-log"
    | .off => "off"
  all := [.card, .bootLog, .off]
  read_text := fun choice => by cases choice <;> rfl

inductive AnalyticsLevel where
  | extended
  | basic
  | off
deriving DecidableEq

instance : Named AnalyticsLevel where
  text
    | .extended => "extended"
    | .basic => "basic"
    | .off => "off"
  all := [.extended, .basic, .off]
  read_text := fun choice => by cases choice <;> rfl

inductive Consent where
  | pending
  | accepted
  | declined
  | neverAskAgain
deriving DecidableEq

instance : Named Consent where
  text
    | .pending => "pending"
    | .accepted => "accepted"
    | .declined => "declined"
    | .neverAskAgain => "never_ask_again"
  all := [.pending, .accepted, .declined, .neverAskAgain]
  read_text := fun choice => by cases choice <;> rfl

/-- The answers a file may hold; a question still open is not one of them. -/
def answerOf (text : String) : Option Consent := (ofText text).filter fun consent => consent ≠ .pending

/-! ## Settings -/

structure Analytics where
  consent : Consent
  level : AnalyticsLevel
  seenVersions : List String
  promptedVersions : List String
  dirty : Bool
deriving DecidableEq

end MeshTalk.Settings

namespace MeshTalk

open MeshTalk.Library MeshTalk.Settings

@[ext]
structure Settings where
  controlUrl : Value
  controlPinnedIps : List String
  controlSetupDismissed : Bool
  identitySetupDismissed : Bool
  flashingEnabled : Bool
  dndEnabled : Bool
  notificationSetupDismissed : Bool
  notificationDelivery : Delivery
  notificationEvents : NotificationEvent → Bool
  githubToken : String
  stunHost : Value
  stunPort : Int
  stunPinnedIps : List String
  rooms : Dict String Room
  mutedPeers : Dict String Double
  mutedGroups : Dict String Double
  filesDir : Option String
  storageDir : Option String
  imageProtocol : ImageProtocol
  confirmFileSend : Bool
  splashStyle : SplashStyle
  splashDurationMs : Nat
  splashPhaseMs : Nat
  splashWelcomeMs : Nat
  analytics : Analytics

end MeshTalk

namespace MeshTalk.Settings

open MeshTalk.Library MeshTalk.Protocol

def defaultStunHost : String := "stun.l.google.com"

def defaultStunPort : Int := 19302

def defaultSplashDurationMs : Nat := 3000

def defaultSplashPhaseMs : Nat := 300

def defaultSplashWelcomeMs : Nat := 200

/-- The settings before a file is read. -/
def initial : Settings where
  controlUrl := .text ""
  controlPinnedIps := []
  controlSetupDismissed := false
  identitySetupDismissed := false
  flashingEnabled := true
  dndEnabled := false
  notificationSetupDismissed := false
  notificationDelivery := .terminal
  notificationEvents := fun _ => true
  githubToken := ""
  stunHost := .text defaultStunHost
  stunPort := defaultStunPort
  stunPinnedIps := []
  rooms := ∅
  mutedPeers := ∅
  mutedGroups := ∅
  filesDir := none
  storageDir := none
  imageProtocol := .auto
  confirmFileSend := true
  splashStyle := .card
  splashDurationMs := defaultSplashDurationMs
  splashPhaseMs := defaultSplashPhaseMs
  splashWelcomeMs := defaultSplashWelcomeMs
  analytics := ⟨.pending, .off, [], [], false⟩

/-- The settings file; one that does not parse or may not be read is `unreadable`. -/
inductive File where
  | absent
  | unreadable
  | document (value : Value)

structure Installed where
  memory : Settings
  file : File

/-- A handler over the settings of one installation. -/
abbrev Call (α : Type) := Handler Installed Fault α

def assign (update : Settings → Settings) : Call PUnit :=
  Handler.change fun installed => { installed with memory := update installed.memory }

def assignAnalytics (update : Analytics → Analytics) : Call PUnit :=
  assign fun settings => { settings with analytics := update settings.analytics }

def ofExcept (outcome : Except Fault α) : Call α := fun installed => (outcome, installed)

/-! ## Saving -/

/-- `list(dict.fromkeys([*own, *found]))` where the file has a list. -/
def unionVersions (own : List String) : Option Value → List String
  | some (.array items) => (own ++ items.filterMap fun
      | .text version => some version
      | _ => none).eraseDups
  | _ => own

def adoptVersions (members : List (String × Value)) (analytics : Analytics) : Analytics where
  consent := analytics.consent
  level := analytics.level
  seenVersions := unionVersions analytics.seenVersions (member members "analytics_seen_versions")
  promptedVersions := unionVersions analytics.promptedVersions (member members "analytics_prompted_versions")
  dirty := analytics.dirty

/-- The level in a file without a level of its own. -/
def levelOfConsent (consent : Option String) : Option AnalyticsLevel :=
  match consent.bind answerOf with
  | some .accepted => some .extended
  | some _ => some .off
  | none => none

def mergeAnalyticsFromDisk : Call PUnit := do
  let installed ← Handler.read
  match installed.file with
  | .document (.object members) => do
      assignAnalytics (adoptVersions members)
      if installed.memory.analytics.dirty then pure ⟨⟩
      else do
        let level ← ofExcept (hashedMember members "analytics_level")
        match level.bind ofText with
        | some level => assignAnalytics fun analytics => { analytics with level }
        | none => do
            let consent ← ofExcept (hashedMember members "analytics_consent")
            match levelOfConsent consent with
            | some level => assignAnalytics fun analytics => { analytics with level }
            | none => pure ⟨⟩
        let consent ← ofExcept (hashedMember members "analytics_consent")
        match consent.bind answerOf with
        | some consent => assignAnalytics fun analytics => { analytics with consent }
        | none => pure ⟨⟩
  | .document _ => Handler.raise .attributeError
  | .absent => pure ⟨⟩
  | .unreadable => pure ⟨⟩

def textsValue (texts : List String) : Value := .array (texts.map .text)

def optionalText : Option String → Value
  | some text => .text text
  | none => .null

def notificationPreferences (settings : Settings) : Value :=
  .object [("setup_dismissed", .bool settings.notificationSetupDismissed),
    ("delivery", .text (Named.text settings.notificationDelivery)),
    ("events", .object ((Named.all : List NotificationEvent).map fun event =>
      (Named.text event, .bool (settings.notificationEvents event))))]

def Room.item (room : Room) : Value :=
  .object [("room_id", .text (String.ofList (UrlBase64.encode room.roomId))),
    ("secret", .text (String.ofList (UrlBase64.encode room.secret))),
    ("group_name", optionalText (room.groupName.map GroupName.text))]

def mutesValue (mutes : Dict String Double) : Value :=
  .object (mutes.entries.map fun entry => (entry.1, .double entry.2))

/-- What `save` writes, but for the key that it takes over from the file. -/
def members (settings : Settings) : List (String × Value) :=
  [("version", .int 1),
    ("control_url", settings.controlUrl),
    ("control_pinned_ips", textsValue settings.controlPinnedIps),
    ("control_setup_dismissed", .bool settings.controlSetupDismissed),
    ("identity_setup_dismissed", .bool settings.identitySetupDismissed),
    ("flashing_enabled", .bool settings.flashingEnabled),
    ("dnd_enabled", .bool settings.dndEnabled),
    ("notifications", settings.notificationPreferences),
    ("github_token", .text settings.githubToken),
    ("stun_server", .object [("host", settings.stunHost), ("port", .int settings.stunPort)]),
    ("stun_pinned_ips", textsValue settings.stunPinnedIps),
    ("rooms", .array (settings.rooms.values.map Room.item)),
    ("muted_peers", mutesValue settings.mutedPeers),
    ("muted_groups", mutesValue settings.mutedGroups),
    ("files_dir", optionalText settings.filesDir),
    ("storage_dir", optionalText settings.storageDir),
    ("image_protocol", .text (Named.text settings.imageProtocol)),
    ("confirm_file_send", .bool settings.confirmFileSend),
    ("splash_style", .text (Named.text settings.splashStyle)),
    ("splash_duration_ms", .int settings.splashDurationMs),
    ("splash_phase_ms", .int settings.splashPhaseMs),
    ("splash_welcome_ms", .int settings.splashWelcomeMs),
    ("analytics_consent", .text (Named.text settings.analytics.consent)),
    ("analytics_level", .text (Named.text settings.analytics.level)),
    ("analytics_prompted_versions", textsValue settings.analytics.promptedVersions),
    ("analytics_seen_versions", textsValue settings.analytics.seenVersions)]

/-- The launcher's channel, where the file has one. -/
def File.updateChannel : File → List (String × Value)
  | .document (.object members) =>
      match member members "update_channel" with
      | some (.text channel) => if channel = "stable" ∨ channel = "unstable" then [("update_channel", .text channel)] else []
      | _ => []
  | _ => []

/-- `write_private_text` replaces the file as a whole or fails. -/
def write (writable : Bool) (value : Value) : Call PUnit :=
  if writable then Handler.change fun installed => { installed with file := .document value }
  else Handler.raise .osError

def save (writable : Bool) : Call PUnit := do
  mergeAnalyticsFromDisk
  assignAnalytics fun analytics => { analytics with dirty := false }
  let installed ← Handler.read
  write writable (.object (installed.memory.members ++ installed.file.updateChannel))

end MeshTalk.Settings
