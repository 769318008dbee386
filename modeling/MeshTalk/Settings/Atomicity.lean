import MeshTalk.Library.Distinct
import MeshTalk.Settings.Mutators

namespace MeshTalk.Settings

open MeshTalk.Library MeshTalk.Protocol

/-! # What a failing mutator leaves behind

An assignment comes before the save that may fail, and nothing takes it back.  A call that
raises thus leaves everything as it was only when it had not assigned anything yet, or
nothing that was not there already.
-/

/-- A call that raises has changed neither the settings in memory nor the file. -/
def Atomic (call : Call α) (before : Installed) : Prop :=
  ∀ fault after, call before = (.error fault, after) → after = before

/-! ## What saving does to the analytics keys -/

variable {members : List (String × Value)} {analytics : Analytics} {before : Installed} {settings : Settings} {world : World}
  {writable : Bool} {own versions : List String} {found : Option Value}

/-- The value under a key can be looked up in a set. -/
def Hashable (members : List (String × Value)) (key : String) : Prop := ∃ text, hashedMember members key = .ok text

/-- The merge reads the file to its end. -/
def Mergeable (analytics : Analytics) : File → Prop
  | .document (.object members) =>
      analytics.dirty = true ∨ Hashable members "analytics_level" ∧ Hashable members "analytics_consent"
  | .document _ => False
  | .absent => True
  | .unreadable => True

/-- The level that the merge takes from a file, before it raises or not. -/
def levelRead (members : List (String × Value)) : Option AnalyticsLevel :=
  match hashedMember members "analytics_level", hashedMember members "analytics_consent" with
  | .error _, _ => none
  | .ok level, .error _ => level.bind ofText
  | .ok level, .ok consent => (level.bind ofText).or (levelOfConsent consent)

def consentRead (members : List (String × Value)) : Option Consent :=
  match hashedMember members "analytics_level", hashedMember members "analytics_consent" with
  | .ok _, .ok consent => consent.bind answerOf
  | _, _ => none

/-- The analytics settings after the keys of a file were adopted, as far as they could be. -/
def adopted (members : List (String × Value)) (analytics : Analytics) : Analytics :=
  if analytics.dirty then adoptVersions members analytics
  else
    { adoptVersions members analytics with
      level := (levelRead members).getD analytics.level
      consent := (consentRead members).getD analytics.consent }

def adoptedFrom (analytics : Analytics) : File → Analytics
  | .document (.object members) => adopted members analytics
  | _ => analytics

/-- The installation with other analytics settings in memory. -/
def Installed.withAnalytics (before : Installed) (analytics : Analytics) : Installed :=
  { before with memory := { before.memory with analytics } }

theorem assignAnalytics_bind {update : Analytics → Analytics} {next : PUnit → Call β} :
    (assignAnalytics update >>= next) before = next ⟨⟩ (before.withAnalytics (update before.memory.analytics)) := rfl

@[simp] theorem ofExcept_ok_bind {value : α} {next : α → Call β} : (ofExcept (.ok value) >>= next) = next value := rfl

@[simp] theorem ofExcept_error_bind {fault : Fault} {next : α → Call β} :
    (ofExcept (.error fault) >>= next) = ofExcept (.error fault) := rfl

theorem merge_apply : ∃ outcome, mergeAnalyticsFromDisk before =
    (outcome, before.withAnalytics (adoptedFrom before.memory.analytics before.file)) ∧
      (outcome = .ok ⟨⟩ ↔ Mergeable before.memory.analytics before.file) := by
  obtain ⟨memory, file⟩ := before
  cases file with
  | absent => exact ⟨_, rfl, iff_of_true rfl trivial⟩
  | unreadable => exact ⟨_, rfl, iff_of_true rfl trivial⟩
  | document value =>
      cases value with
      | object members =>
          unfold mergeAnalyticsFromDisk
          rw [Handler.read_bind]
          dsimp only
          rw [assignAnalytics_bind]
          dsimp only [adoptedFrom, adopted, levelRead, consentRead, Mergeable, Hashable]
          cases dirty : memory.analytics.dirty with
          | true => exact ⟨_, rfl, iff_of_true rfl (.inl rfl)⟩
          | false =>
              rcases readLevel : hashedMember members "analytics_level" with fault | level
              · exact ⟨_, rfl, iff_of_false nofun fun mergeable => by simp at mergeable⟩
              · rcases readConsent : hashedMember members "analytics_consent" with fault | consent
                · simp only [ofExcept_ok_bind, ofExcept_error_bind]
                  cases level.bind (ofText : String → Option AnalyticsLevel) <;>
                    exact ⟨_, rfl, iff_of_false nofun fun mergeable => by simp at mergeable⟩
                · simp only [ofExcept_ok_bind]
                  cases level.bind (ofText : String → Option AnalyticsLevel) <;> cases levelOfConsent consent <;>
                    cases consent.bind answerOf <;> exact ⟨_, rfl, iff_of_true rfl (.inr ⟨⟨_, rfl⟩, ⟨_, rfl⟩⟩)⟩
      | _ => exact ⟨_, rfl, iff_of_false nofun id⟩

/-- The call goes on to the end of the save. -/
def Saves (writable : Bool) (analytics : Analytics) (file : File) : Prop := Mergeable analytics file ∧ writable = true

/-- A list of versions has all that a file lists. -/
def Knows (own : List String) : Option Value → Prop
  | some (.array items) => own.Nodup ∧ ∀ version, .text version ∈ items → version ∈ own
  | _ => True

/-- The file has no analytics key that a merge would take over, nor is a change of the level
waiting to be written. -/
def Settled (analytics : Analytics) : File → Prop
  | .document (.object members) =>
      analytics.dirty = false ∧ Knows analytics.seenVersions (member members "analytics_seen_versions") ∧
        Knows analytics.promptedVersions (member members "analytics_prompted_versions") ∧
        (∀ level ∈ levelRead members, level = analytics.level) ∧ ∀ consent ∈ consentRead members, consent = analytics.consent
  | .document _ => True
  | .absent => analytics.dirty = false
  | .unreadable => analytics.dirty = false

theorem unionVersions_eq_self_iff : unionVersions own found = own ↔ Knows own found := by
  rcases found with _ | value
  · exact iff_of_true rfl trivial
  · cases value with
    | array items =>
        dsimp only [unionVersions, Knows]
        rw [eraseDups_append_eq_self_iff]
        refine and_congr_right fun _ => ?_
        simp only [List.mem_filterMap]
        constructor
        · exact fun known version member => known version ⟨_, member, rfl⟩
        · rintro known version ⟨item, member, named⟩
          cases item with
          | text text =>
              cases named
              exact known version member
          | _ => cases named
    | _ => exact iff_of_true rfl trivial

theorem getD_eq_iff {choice : Option α} {own : α} : choice.getD own = own ↔ ∀ found ∈ choice, found = own := by
  cases choice <;> simp

/-- What a merge and the reset of the flag leave is what was there when the file is settled. -/
theorem adopted_eq_iff : { adopted members analytics with dirty := false } = analytics ↔
    Settled analytics (.document (.object members)) := by
  dsimp only [Settled]
  rw [← unionVersions_eq_self_iff, ← unionVersions_eq_self_iff, ← getD_eq_iff, ← getD_eq_iff]
  obtain ⟨consent, level, seen, prompted, dirty⟩ := analytics
  cases dirty with
  | true => simp [adopted]
  | false =>
      simp only [adopted, adoptVersions, Analytics.mk.injEq, Bool.false_eq_true, if_false, and_true, true_and]
      tauto

theorem reset_eq_iff : { analytics with dirty := false } = analytics ↔ analytics.dirty = false := by
  obtain ⟨consent, level, seen, prompted, dirty⟩ := analytics
  simp [eq_comm]

theorem adopted_clean (clean : analytics.dirty = false) :
    adopted members analytics = { adopted members analytics with dirty := false } := by
  unfold adopted
  rw [clean]
  simp [adoptVersions, clean]

theorem save_ok (saves : Saves writable before.memory.analytics before.file) :
    ∃ after, save writable before = (.ok ⟨⟩, after) := by
  obtain ⟨outcome, merged, mergeable⟩ := @merge_apply before
  have ended := mergeable.mpr saves.1
  subst ended
  rw [save, Handler.bind_apply, merged]
  dsimp only
  rw [assignAnalytics_bind, Handler.read_bind, write, if_pos saves.2]
  exact ⟨_, rfl⟩

theorem save_unmerged (stuck : ¬ Mergeable before.memory.analytics before.file) :
    ∃ fault, save writable before = (.error fault, before.withAnalytics (adoptedFrom before.memory.analytics before.file)) := by
  obtain ⟨outcome, merged, mergeable⟩ := @merge_apply before
  cases outcome with
  | ok value => exact absurd (mergeable.mp rfl) stuck
  | error fault =>
      rw [save, Handler.bind_apply, merged]
      exact ⟨fault, rfl⟩

theorem save_unwritten (merges : Mergeable before.memory.analytics before.file) : save false before =
    (.error .osError, before.withAnalytics { adoptedFrom before.memory.analytics before.file with dirty := false }) := by
  obtain ⟨outcome, merged, mergeable⟩ := @merge_apply before
  have ended := mergeable.mpr merges
  subst ended
  rw [save, Handler.bind_apply, merged]
  rfl

/-- A save that raises leaves other analytics settings, unless the file is settled. -/
theorem save_raises (fails : ¬ Saves writable before.memory.analytics before.file) :
    ∃ fault left, save writable before = (.error fault, before.withAnalytics left) ∧
      (left = before.memory.analytics ↔ Settled before.memory.analytics before.file) := by
  by_cases merges : Mergeable before.memory.analytics before.file
  · have unwritable : writable = false := Bool.eq_false_iff.mpr fun holds => fails ⟨merges, holds⟩
    subst unwritable
    refine ⟨_, _, save_unwritten merges, ?_⟩
    cases file : before.file with
    | document value =>
        cases value with
        | object members => exact adopted_eq_iff
        | _ =>
            rw [file] at merges
            exact merges.elim
    | _ => exact reset_eq_iff
  · obtain ⟨fault, run⟩ := @save_unmerged before writable merges
    refine ⟨fault, _, run, ?_⟩
    cases file : before.file with
    | document value =>
        cases value with
        | object members =>
            rw [file, Mergeable, not_or, Bool.not_eq_true] at merges
            rw [← adopted_eq_iff, adoptedFrom, adopted_clean merges.1]
        | _ => exact iff_of_true rfl trivial
    | _ =>
        rw [file] at merges
        exact absurd trivial merges

/-! ## Checking, assigning and saving -/

variable {check : Settings → Except Fault α} {update : α → Settings → Settings} {memory : Settings} {call : Call α} {value : α}

theorem atomic_discard : Atomic (discard call) before ↔ Atomic call before := by
  unfold Atomic discard
  simp only [Handler.bind_apply]
  rcases call before with ⟨outcome, after⟩
  cases outcome <;> simp [Handler.pure_apply]

theorem mutate_refused {fault : Fault} (refused : check before.memory = .error fault) :
    mutate world check update before = (.error fault, before) := by
  rw [mutate, Handler.read_bind, refused]
  rfl

theorem mutate_checked (checked : check before.memory = .ok value) :
    mutate world check update before =
      match save world.writable { before with memory := update value before.memory } with
      | (.ok _, after) => (.ok value, after)
      | (.error fault, after) => (.error fault, after) := by
  rw [mutate, Handler.read_bind, checked, ofExcept_ok_bind, assign, Handler.change_bind, Handler.bind_apply]
  rcases save world.writable { before with memory := update value before.memory } with ⟨outcome, after⟩
  cases outcome <;> rfl

theorem atomic_of_returns {after : Installed} (returns : call before = (.ok value, after)) : Atomic call before := by
  intro fault final raised
  rw [returns] at raised
  cases raised

theorem atomic_iff_of_raises {fault : Fault} {after : Installed} (raised : call before = (.error fault, after)) :
    Atomic call before ↔ after = before := by
  unfold Atomic
  rw [raised]
  simp

/-- A save after an assignment that did not concern the analytics keys. -/
theorem save_assigned (fails : ¬ Saves writable before.memory.analytics before.file) (kept : memory.analytics = before.memory.analytics) :
    ∃ fault after, save writable { before with memory } = (.error fault, after) ∧
      (after = before ↔ memory = before.memory ∧ Settled before.memory.analytics before.file) := by
  have stuck : ¬ Saves writable memory.analytics before.file := kept.symm ▸ fails
  obtain ⟨fault, left, run, same⟩ := @save_raises { before with memory } writable stuck
  refine ⟨fault, _, run, ?_⟩
  rw [kept] at same
  rw [← same]
  constructor
  · intro whole
    have unchanged : left = before.memory.analytics := congrArg (fun installed => installed.memory.analytics) whole
    refine ⟨?_, unchanged⟩
    rw [← congrArg Installed.memory whole, unchanged, ← kept]
    rfl
  · rintro ⟨rfl, rfl⟩
    rfl

theorem atomic_mutate_iff (plain : ∀ value settings, (update value settings).analytics = settings.analytics) :
    Atomic (mutate world check update) before ↔
      (∃ fault, check before.memory = .error fault) ∨ Saves world.writable before.memory.analytics before.file ∨
        (∃ value, check before.memory = .ok value ∧ update value before.memory = before.memory) ∧
          Settled before.memory.analytics before.file := by
  cases checked : check before.memory with
  | error fault =>
      refine iff_of_true ?_ (.inl ⟨fault, rfl⟩)
      rw [atomic_iff_of_raises (mutate_refused checked)]
  | ok value =>
      simp only [reduceCtorEq, exists_false, false_or, Except.ok.injEq, exists_eq_left']
      by_cases saves : Saves world.writable before.memory.analytics before.file
      · refine iff_of_true ?_ (.inl saves)
        have again : Saves world.writable (update value before.memory).analytics before.file := (plain ..).symm ▸ saves
        obtain ⟨after, run⟩ := @save_ok { before with memory := update value before.memory } world.writable again
        exact atomic_of_returns (by rw [mutate_checked checked, run])
      · obtain ⟨fault, after, run, same⟩ := save_assigned saves (plain value before.memory)
        rw [atomic_iff_of_raises (by rw [mutate_checked checked, run]), same]
        simp [saves]

/-! ## When a call is atomic -/

def Raises (outcome : Except Fault α) : Prop := ∃ fault, outcome = .error fault

section

variable (parsers : Parsers) (world : World)

/-- The check of the call raises, before anything is assigned. -/
def Mutation.Refused (settings : Settings) : Mutation → Prop
  | setStorageDir path => Raises (validateTargetDir world path)
  | setFilesDir path => Raises (filesDirectory world path)
  | setImageProtocol protocol => Raises (imageProtocolOf protocol)
  | setConfirmFileSend enabled => Raises (confirmFileSendOf enabled)
  | setSplashStyle style => Raises (splashStyleOf style)
  | setSplashDurationMs ms => Raises (millisecondsOf "splash_duration_ms" ms)
  | setSplashPhaseMs ms => Raises (millisecondsOf "splash_phase_ms" ms)
  | setSplashWelcomeMs ms => Raises (millisecondsOf "splash_welcome_ms" ms)
  | setControlUrl url => Raises (validateControlUrl parsers url)
  | setControlPinnedIps ips => Raises (validatePinnedIps parsers ips)
  | setStunPinnedIps ips => Raises (validateStunPinnedIps parsers ips)
  | setGithubToken token => Raises (tokenOf token)
  | createRoom drawn groupName => Raises (Room.create drawn groupName)
  | joinRoom invite => Raises (joinedRoom parsers invite settings)
  | leaveRoom roomId => Raises (knownRoom roomId settings)
  | setAnalyticsLevel level => Raises (analyticsLevelOf level)
  | _ => False

/-- What the call assigns is there already. -/
def Mutation.Repeats (settings : Settings) : Mutation → Prop
  | setStorageDir path => ∃ final, validateTargetDir world path = .ok final ∧ settings.storageDir = some final
  | setFilesDir path => ∃ final, filesDirectory world path = .ok final ∧ settings.filesDir = some final
  | clearFilesDir => settings.filesDir = none
  | clearStorageDir => settings.storageDir = none
  | setImageProtocol protocol => imageProtocolOf protocol = .ok settings.imageProtocol
  | setConfirmFileSend enabled => confirmFileSendOf enabled = .ok settings.confirmFileSend
  | setSplashStyle style => splashStyleOf style = .ok settings.splashStyle
  | setSplashDurationMs ms => millisecondsOf "splash_duration_ms" ms = .ok settings.splashDurationMs
  | setSplashPhaseMs ms => millisecondsOf "splash_phase_ms" ms = .ok settings.splashPhaseMs
  | setSplashWelcomeMs ms => millisecondsOf "splash_welcome_ms" ms = .ok settings.splashWelcomeMs
  | setControlUrl url => ∃ checked, validateControlUrl parsers url = .ok checked ∧
      settings.controlUrl = .text checked ∧ settings.controlSetupDismissed = true
  | setControlPinnedIps ips => validatePinnedIps parsers ips = .ok settings.controlPinnedIps
  | clearControlPinnedIps => settings.controlPinnedIps = []
  | setStunPinnedIps ips => validateStunPinnedIps parsers ips = .ok settings.stunPinnedIps
  | clearStunPinnedIps => settings.stunPinnedIps = []
  | dismissControlSetup => settings.controlSetupDismissed = true
  | dismissIdentitySetup => settings.identitySetupDismissed = true
  | setFlashingEnabled enabled => settings.flashingEnabled = enabled
  | setDndEnabled enabled => settings.dndEnabled = enabled.truthy
  | setGithubToken token => tokenOf token = .ok settings.githubToken
  | createRoom drawn groupName => ∃ room, Room.create drawn groupName = .ok room ∧ settings.rooms.get? room.id = some room
  | joinRoom invite => ∃ room, joinedRoom parsers invite settings = .ok room ∧ settings.rooms.get? room.id = some room
  | mutePeer peerId expiry => settings.mutedPeers.get? peerId = some expiry
  | unmutePeer peerId => settings.mutedPeers.get? peerId = none
  | muteGroup groupId expiry => settings.mutedGroups.get? groupId = some expiry
  | unmuteGroup groupId => settings.mutedGroups.get? groupId = none
  | _ => False

/-- The level was chosen before, and the file has no version that is not known. -/
def LevelRepeats (level : AnalyticsLevel) (analytics : Analytics) : File → Prop
  | .document (.object members) =>
      level = analytics.level ∧ analytics.consent = (analytics.chosen analytics.level).consent ∧ analytics.dirty = false ∧
        Knows analytics.seenVersions (member members "analytics_seen_versions") ∧
          Knows analytics.promptedVersions (member members "analytics_prompted_versions")
  | .document _ =>
      level = analytics.level ∧ analytics.consent = (analytics.chosen analytics.level).consent ∧ analytics.dirty = true
  | _ => level = analytics.level ∧ analytics.consent = (analytics.chosen analytics.level).consent ∧ analytics.dirty = false

/-- The preference is not given, or is what is set. -/
def DismissalRepeats (settings : Settings) (setupDismissed : Option Bool) : Prop :=
  ∀ dismissed ∈ setupDismissed, settings.notificationSetupDismissed = dismissed

def DeliveryRefused : Value → Prop
  | .null => False
  | delivery => Raises (deliveryOf delivery)

def DeliveryRepeats (settings : Settings) : Value → Prop
  | .null => True
  | delivery => deliveryOf delivery = .ok settings.notificationDelivery

def EventsRefused : Value → Prop
  | .null => False
  | events => Raises (eventsOf events)

def EventsRepeat (settings : Settings) : Value → Prop
  | .null => True
  | events => ∃ given, eventsOf events = .ok given ∧
      updateEvents settings.notificationEvents given = settings.notificationEvents

/-- A call goes through, or is refused before it has assigned anything new, or sets
what is set already where the file is settled. -/
def Mutation.Harmless (before : Installed) : Mutation → Prop
  | isGroupMuted groupId =>
      (∀ expiry ∈ before.memory.mutedGroups.get? groupId, expiry.expired world.now = true →
        Saves world.writable before.memory.analytics before.file)
  | isPeerMuted peerId =>
      (∀ expiry ∈ before.memory.mutedPeers.get? peerId, expiry.expired world.now = true →
        Saves world.writable before.memory.analytics before.file)
  | setNotificationPreferences setupDismissed delivery events =>
      DeliveryRefused delivery ∧ DismissalRepeats before.memory setupDismissed ∨
        ¬ DeliveryRefused delivery ∧ EventsRefused events ∧
          DismissalRepeats before.memory setupDismissed ∧ DeliveryRepeats before.memory delivery ∨
        ¬ DeliveryRefused delivery ∧ ¬ EventsRefused events ∧
          (Saves world.writable before.memory.analytics before.file ∨
            DismissalRepeats before.memory setupDismissed ∧ DeliveryRepeats before.memory delivery ∧
              EventsRepeat before.memory events ∧ Settled before.memory.analytics before.file)
  | setAnalyticsLevel level => Raises (analyticsLevelOf level) ∨
      Saves world.writable { before.memory.analytics with dirty := true } before.file ∨
        ∃ chosen, analyticsLevelOf level = .ok chosen ∧ LevelRepeats chosen before.memory.analytics before.file
  | mutation => mutation.Refused parsers world before.memory ∨ Saves world.writable before.memory.analytics before.file ∨
      mutation.Repeats parsers world before.memory ∧ Settled before.memory.analytics before.file

end

variable {parsers : Parsers} {mutation : Mutation}

/-- The rule for a mutator that checks, assigns and saves, from what its refusal and its repetition are. -/
theorem atomic_mutate_of {refused repeats : Prop} (plain : ∀ value settings, (update value settings).analytics = settings.analytics)
    (refusal : Raises (check before.memory) ↔ refused)
    (repetition : (∃ value, check before.memory = .ok value ∧ update value before.memory = before.memory) ↔ repeats) :
    Atomic (mutate world check update) before ↔
      refused ∨ Saves world.writable before.memory.analytics before.file ∨
        repeats ∧ Settled before.memory.analytics before.file := by
  rw [atomic_mutate_iff plain, ← refusal, ← repetition]
  rfl

theorem atomic_discard_of {refused repeats : Prop} (plain : ∀ value settings, (update value settings).analytics = settings.analytics)
    (refusal : Raises (check before.memory) ↔ refused)
    (repetition : (∃ value, check before.memory = .ok value ∧ update value before.memory = before.memory) ↔ repeats) :
    Atomic (discard (mutate world check update)) before ↔
      refused ∨ Saves world.writable before.memory.analytics before.file ∨
        repeats ∧ Settled before.memory.analytics before.file :=
  atomic_discard.trans (atomic_mutate_of plain refusal repetition)

/-- The same for a mutator without a check. -/
theorem atomic_assign_of {update : PUnit → Settings → Settings} {repeats : Prop}
    (plain : ∀ value settings, (update value settings).analytics = settings.analytics)
    (repetition : update ⟨⟩ before.memory = before.memory ↔ repeats) :
    Atomic (mutate world (fun _ => .ok ⟨⟩) update) before ↔
      False ∨ Saves world.writable before.memory.analytics before.file ∨
        repeats ∧ Settled before.memory.analytics before.file := by
  refine atomic_mutate_of plain (iff_of_false (fun ⟨_, same⟩ => nomatch same) id) ?_
  rw [← repetition]
  exact ⟨fun ⟨_, _, same⟩ => same, fun same => ⟨⟨⟩, rfl, same⟩⟩

theorem set_eq_self_iff [DecidableEq κ] {dict : Dict κ ν} {key : κ} {value : ν} : dict.set key value = dict ↔ dict.get? key = some value := by
  constructor
  · intro same
    rw [← same, Dict.get?_set, if_pos rfl]
  · exact Dict.set_of_get?

theorem erase_eq_self_iff [DecidableEq κ] {dict : Dict κ ν} {key : κ} : dict.erase key = dict ↔ dict.get? key = none := by
  constructor
  · intro same
    rw [← same, Dict.get?_erase, if_pos rfl]
  · exact Dict.erase_of_get?

theorem not_knownRoom_erase {roomId : String} (known : knownRoom roomId settings = .ok ⟨⟩) : settings.rooms.erase roomId ≠ settings.rooms := by
  intro same
  rw [erase_eq_self_iff] at same
  simp [knownRoom, Dict.contains, same] at known

theorem atomic_isMuted_iff {mutes : Settings → Dict String Double} {unmute : Settings → Settings} {id : String}
    (changes : ∀ expiry, (mutes before.memory).get? id = some expiry → unmute before.memory ≠ before.memory)
    (plain : (unmute before.memory).analytics = before.memory.analytics) :
    Atomic (isMuted world mutes unmute id) before ↔
      ∀ expiry ∈ (mutes before.memory).get? id, expiry.expired world.now = true →
        Saves world.writable before.memory.analytics before.file := by
  cases found : (mutes before.memory).get? id with
  | none =>
      have run : isMuted world mutes unmute id before = (.ok false, before) := by
        rw [isMuted, Handler.read_bind, found]
        rfl
      exact iff_of_true (atomic_of_returns run) nofun
  | some expiry =>
      simp only [Option.mem_def, Option.some.injEq, forall_eq']
      by_cases expired : expiry.expired world.now = true
      · have run : isMuted world mutes unmute id before = (save world.writable >>= fun _ => pure false)
            { before with memory := unmute before.memory } := by
          rw [isMuted, Handler.read_bind, found]
          dsimp only
          rw [if_pos expired]
          rfl
        by_cases saves : Saves world.writable before.memory.analytics before.file
        · refine iff_of_true ?_ fun _ => saves
          have again : Saves world.writable (unmute before.memory).analytics before.file := plain.symm ▸ saves
          obtain ⟨after, saved⟩ := @save_ok { before with memory := unmute before.memory } world.writable again
          rw [Handler.bind_apply, saved] at run
          exact atomic_of_returns run
        · obtain ⟨fault, after, raised, same⟩ := save_assigned saves plain
          rw [Handler.bind_apply, raised] at run
          rw [atomic_iff_of_raises run, same]
          exact iff_of_false (fun ⟨unchanged, _⟩ => changes expiry found unchanged) fun holds => saves (holds expired)
      · have run : isMuted world mutes unmute id before = (.ok true, before) := by
          rw [isMuted, Handler.read_bind, found]
          dsimp only
          rw [if_neg expired]
          rfl
        exact iff_of_true (atomic_of_returns run) fun holds => absurd holds expired

/-! ## The level of the analytics -/

variable {level : AnalyticsLevel}

theorem chosen_eq_iff {dirty : Bool} : { analytics.chosen level with dirty } = analytics ↔
    level = analytics.level ∧ analytics.consent = (analytics.chosen analytics.level).consent ∧ analytics.dirty = dirty := by
  obtain ⟨consent, own, seen, prompted, changed⟩ := analytics
  simp only [Analytics.chosen, Analytics.mk.injEq, true_and]
  constructor
  · rintro ⟨rfl, rfl, rfl⟩
    exact ⟨rfl, rfl, rfl⟩
  · rintro ⟨rfl, answered, rfl⟩
    exact ⟨answered.symm, rfl, rfl⟩

theorem adopted_chosen_eq_iff : { adopted members (analytics.chosen level) with dirty := false } = analytics ↔
    level = analytics.level ∧ analytics.consent = (analytics.chosen analytics.level).consent ∧ analytics.dirty = false ∧
      Knows analytics.seenVersions (member members "analytics_seen_versions") ∧
        Knows analytics.promptedVersions (member members "analytics_prompted_versions") := by
  rw [← unionVersions_eq_self_iff, ← unionVersions_eq_self_iff]
  obtain ⟨consent, own, seen, prompted, dirty⟩ := analytics
  simp only [adopted, adoptVersions, Analytics.chosen, Analytics.mk.injEq, if_true]
  constructor
  · rintro ⟨rfl, rfl, known, also, rfl⟩
    exact ⟨rfl, rfl, rfl, known, also⟩
  · rintro ⟨rfl, answered, rfl, known, also⟩
    exact ⟨answered.symm, rfl, known, also, rfl⟩

theorem withAnalytics_eq_iff : (before.withAnalytics analytics) = before ↔ analytics = before.memory.analytics :=
  ⟨fun same => congrArg (fun installed : Installed => installed.memory.analytics) same, fun same => by rw [same]; rfl⟩

theorem not_raises_ok (value : α) : ¬ Raises (.ok value) := fun ⟨_, same⟩ => nomatch same

/-- While a change of the level is waiting, saving does not depend on the other analytics settings. -/
theorem saves_of_dirty {other : Analytics} {file : File} (dirty : analytics.dirty = true) (also : other.dirty = true) :
    Saves writable analytics file ↔ Saves writable other file := by
  unfold Saves Mergeable
  rw [dirty, also]

theorem chosen_raises (fails : ¬ Saves writable (before.memory.analytics.chosen level) before.file) :
    ∃ fault left, save writable (before.withAnalytics (before.memory.analytics.chosen level)) =
      (.error fault, before.withAnalytics left) ∧
        (left = before.memory.analytics ↔ LevelRepeats level before.memory.analytics before.file) := by
  let assigned := before.withAnalytics (before.memory.analytics.chosen level)
  by_cases merges : Mergeable assigned.memory.analytics assigned.file
  · have unwritable : writable = false := Bool.eq_false_iff.mpr fun holds => fails ⟨merges, holds⟩
    subst unwritable
    refine ⟨_, _, save_unwritten merges, ?_⟩
    cases file : before.file with
    | document value =>
        cases value with
        | object members =>
            rw [show assigned.file = before.file from rfl, file]
            exact adopted_chosen_eq_iff
        | _ =>
            rw [show assigned.file = before.file from rfl, file] at merges
            exact merges.elim
    | _ =>
        rw [show assigned.file = before.file from rfl, file]
        exact chosen_eq_iff
  · obtain ⟨fault, run⟩ := @save_unmerged assigned writable merges
    refine ⟨fault, _, run, ?_⟩
    cases file : before.file with
    | document value =>
        cases value with
        | object members =>
            rw [show assigned.file = before.file from rfl, file] at merges
            exact absurd (.inl rfl) merges
        | _ =>
            rw [show assigned.file = before.file from rfl, file]
            exact chosen_eq_iff
    | _ =>
        rw [show assigned.file = before.file from rfl, file] at merges
        exact absurd trivial merges

theorem atomic_setAnalyticsLevel_iff {requested : Value} : Atomic (setAnalyticsLevel world requested) before ↔
    Raises (analyticsLevelOf requested) ∨ Saves world.writable { before.memory.analytics with dirty := true } before.file ∨
      ∃ level, analyticsLevelOf requested = .ok level ∧ LevelRepeats level before.memory.analytics before.file := by
  cases checked : analyticsLevelOf requested with
  | error fault =>
      refine iff_of_true ?_ (.inl ⟨fault, rfl⟩)
      exact (atomic_iff_of_raises (mutate_refused checked)).mpr rfl
  | ok level =>
      have run : setAnalyticsLevel world requested before =
          match save world.writable (before.withAnalytics (before.memory.analytics.chosen level)) with
          | (.ok _, after) => (.ok level, after)
          | (.error fault, after) => (.error fault, after) := mutate_checked checked
      rw [or_iff_right (not_raises_ok level)]
      by_cases saves : Saves world.writable { before.memory.analytics with dirty := true } before.file
      · refine iff_of_true ?_ (.inl saves)
        obtain ⟨after, saved⟩ :=
          @save_ok (before.withAnalytics (before.memory.analytics.chosen level)) world.writable ((saves_of_dirty rfl rfl).mp saves)
        rw [saved] at run
        exact atomic_of_returns run
      · rw [or_iff_right saves]
        obtain ⟨fault, left, saved, same⟩ := @chosen_raises before world.writable level (mt (saves_of_dirty rfl rfl).mpr saves)
        rw [saved] at run
        rw [atomic_iff_of_raises run, withAnalytics_eq_iff, same]
        simp only [Except.ok.injEq, exists_eq_left']

/-! ## The notification preferences -/

def dismissing (setupDismissed : Option Bool) (settings : Settings) : Settings :=
  { settings with notificationSetupDismissed := setupDismissed.getD settings.notificationSetupDismissed }

def delivering : Value → Except Fault (Settings → Settings)
  | .null => .ok id
  | delivery => (deliveryOf delivery).map fun chosen settings => { settings with notificationDelivery := chosen }

def notifying : Value → Except Fault (Settings → Settings)
  | .null => .ok id
  | events => (eventsOf events).map fun given settings =>
      { settings with notificationEvents := updateEvents settings.notificationEvents given }

variable {setupDismissed : Option Bool} {delivery events : Value} {update : Settings → Settings}

theorem assignDismissed_eq : assignDismissed setupDismissed = assign (dismissing setupDismissed) := by
  cases setupDismissed <;> rfl

theorem assignDelivery_eq : assignDelivery delivery = (ofExcept (delivering delivery) >>= fun update => assign update) := by
  cases delivery with
  | null => rfl
  | _ =>
      dsimp only [assignDelivery, delivering]
      cases deliveryOf _ <;> rfl

theorem assignEvents_eq : assignEvents events = (ofExcept (notifying events) >>= fun update => assign update) := by
  cases events with
  | null => rfl
  | _ =>
      dsimp only [assignEvents, notifying]
      cases eventsOf _ <;> rfl

theorem of_map_ok {outcome : Except Fault α} {change : α → β} {result : β} (accepted : outcome.map change = .ok result) :
    ∃ value, outcome = .ok value ∧ change value = result := by
  cases outcome with
  | error fault => cases accepted
  | ok value => exact ⟨value, rfl, Except.ok.inj accepted⟩

theorem raises_map {outcome : Except Fault α} {change : α → β} : Raises (outcome.map change) ↔ Raises outcome := by
  unfold Raises
  cases outcome <;> simp [Except.map]

theorem dismissing_eq_iff : dismissing setupDismissed settings = settings ↔ DismissalRepeats settings setupDismissed := by
  unfold DismissalRepeats dismissing
  cases setupDismissed <;> simp [Settings.ext_iff, eq_comm]

theorem deliveryRefused_iff : DeliveryRefused delivery ↔ Raises (delivering delivery) := by
  cases delivery with
  | null => exact iff_of_false id fun ⟨_, same⟩ => nomatch same
  | _ =>
      dsimp only [DeliveryRefused, delivering]
      rw [raises_map]

theorem eventsRefused_iff : EventsRefused events ↔ Raises (notifying events) := by
  cases events with
  | null => exact iff_of_false id fun ⟨_, same⟩ => nomatch same
  | _ =>
      dsimp only [EventsRefused, notifying]
      rw [raises_map]

variable {inner : Settings}

theorem delivered_eq_iff (accepted : delivering delivery = .ok update)
    (kept : inner.notificationDelivery = settings.notificationDelivery) :
    update inner = settings ↔ inner = settings ∧ DeliveryRepeats settings delivery := by
  cases delivery with
  | null =>
      cases accepted
      exact (iff_of_eq (and_true _)).symm
  | _ =>
      dsimp only [delivering] at accepted
      obtain ⟨chosen, checked, rfl⟩ := of_map_ok accepted
      dsimp only [DeliveryRepeats]
      rw [checked]
      simp only [Settings.ext_iff, kept, Except.ok.injEq]
      tauto

theorem notified_eq_iff (accepted : notifying events = .ok update)
    (kept : inner.notificationEvents = settings.notificationEvents) :
    update inner = settings ↔ inner = settings ∧ EventsRepeat settings events := by
  cases events with
  | null =>
      cases accepted
      exact (iff_of_eq (and_true _)).symm
  | _ =>
      dsimp only [notifying] at accepted
      obtain ⟨given, checked, rfl⟩ := of_map_ok accepted
      dsimp only [EventsRepeat]
      rw [checked]
      simp only [Settings.ext_iff, kept, Except.ok.injEq, exists_eq_left']
      tauto

theorem delivering_frame (accepted : delivering delivery = .ok update) (settings : Settings) :
    (update settings).notificationEvents = settings.notificationEvents ∧ (update settings).analytics = settings.analytics := by
  cases delivery with
  | null =>
      cases accepted
      exact ⟨rfl, rfl⟩
  | _ =>
      dsimp only [delivering] at accepted
      obtain ⟨chosen, checked, rfl⟩ := of_map_ok accepted
      exact ⟨rfl, rfl⟩

theorem notifying_frame (accepted : notifying events = .ok update) (settings : Settings) :
    (update settings).analytics = settings.analytics := by
  cases events with
  | null =>
      cases accepted
      rfl
  | _ =>
      dsimp only [notifying] at accepted
      obtain ⟨given, checked, rfl⟩ := of_map_ok accepted
      rfl

theorem withMemory_eq_iff : { before with memory } = before ↔ memory = before.memory :=
  ⟨fun same => congrArg Installed.memory same, fun same => by rw [same]⟩

theorem ofExcept_assign {outcome : Except Fault (Settings → Settings)} {next : PUnit → Call PUnit} :
    ((ofExcept outcome >>= fun update => assign update) >>= next) before =
      match outcome with
      | .ok update => next ⟨⟩ { before with memory := update before.memory }
      | .error fault => (.error fault, before) := by
  cases outcome <;> rfl

theorem atomic_setNotificationPreferences_iff : Atomic (setNotificationPreferences world setupDismissed delivery events) before ↔
    DeliveryRefused delivery ∧ DismissalRepeats before.memory setupDismissed ∨
      ¬ DeliveryRefused delivery ∧ EventsRefused events ∧
        DismissalRepeats before.memory setupDismissed ∧ DeliveryRepeats before.memory delivery ∨
      ¬ DeliveryRefused delivery ∧ ¬ EventsRefused events ∧
        (Saves world.writable before.memory.analytics before.file ∨
          DismissalRepeats before.memory setupDismissed ∧ DeliveryRepeats before.memory delivery ∧
            EventsRepeat before.memory events ∧ Settled before.memory.analytics before.file) := by
  rw [deliveryRefused_iff, eventsRefused_iff, ← dismissing_eq_iff]
  have start : setNotificationPreferences world setupDismissed delivery events before =
      (assignDelivery delivery >>= fun _ => assignEvents events >>= fun _ => save world.writable)
        { before with memory := dismissing setupDismissed before.memory } := by
    rw [setNotificationPreferences, assignDismissed_eq]
    rfl
  rw [assignDelivery_eq, ofExcept_assign] at start
  cases delivered : delivering delivery with
  | error fault =>
      rw [delivered] at start
      rw [atomic_iff_of_raises start, withMemory_eq_iff]
      simp [Raises]
  | ok deliver =>
      rw [delivered] at start
      dsimp only at start
      rw [assignEvents_eq, ofExcept_assign] at start
      have together := @delivered_eq_iff before.memory _ _ (dismissing setupDismissed before.memory) delivered rfl
      cases notified : notifying events with
      | error fault =>
          rw [notified] at start
          rw [atomic_iff_of_raises start, withMemory_eq_iff, together]
          simp [Raises]
      | ok notify =>
          rw [notified] at start
          dsimp only at start
          have frame := delivering_frame delivered (dismissing setupDismissed before.memory)
          have whole := (@notified_eq_iff before.memory _ _ _ notified frame.1).trans (and_congr_left' together)
          have plain : (notify (deliver (dismissing setupDismissed before.memory))).analytics = before.memory.analytics :=
            (notifying_frame notified _).trans frame.2
          by_cases saves : Saves world.writable before.memory.analytics before.file
          · have again : Saves world.writable (notify (deliver (dismissing setupDismissed before.memory))).analytics before.file :=
              plain.symm ▸ saves
            obtain ⟨after, saved⟩ :=
              @save_ok { before with memory := notify (deliver (dismissing setupDismissed before.memory)) } world.writable again
            rw [saved] at start
            exact iff_of_true (atomic_of_returns start) (.inr (.inr ⟨by simp [Raises], by simp [Raises], .inl saves⟩))
          · obtain ⟨fault, after, raised, same⟩ := save_assigned saves plain
            rw [raised] at start
            rw [atomic_iff_of_raises start, same, whole]
            simp [Raises, saves, and_assoc]

/-! ## Every mutator -/

/-- A call that raises changes nothing exactly when it is harmless. -/
theorem failed_mutations_change_nothing_iff (parsers : Parsers) (world : World) (mutation : Mutation) (before : Installed) :
    Atomic (mutation.run parsers world) before ↔ mutation.Harmless parsers world before := by
  cases mutation with
  | setStorageDir path =>
      refine atomic_discard_of (fun _ _ => ?_) Iff.rfl ?_
      · rfl
      · simp [Settings.ext_iff, Mutation.Repeats, eq_comm]
  | setFilesDir path =>
      refine atomic_discard_of (fun _ _ => ?_) Iff.rfl ?_
      · rfl
      · simp [Settings.ext_iff, Mutation.Repeats, eq_comm]
  | setImageProtocol protocol =>
      refine atomic_discard_of (fun _ _ => ?_) Iff.rfl ?_
      · rfl
      · simp [Settings.ext_iff, Mutation.Repeats]
  | setConfirmFileSend enabled =>
      refine atomic_discard_of (fun _ _ => ?_) Iff.rfl ?_
      · rfl
      · simp [Settings.ext_iff, Mutation.Repeats]
  | setSplashStyle style =>
      refine atomic_discard_of (fun _ _ => ?_) Iff.rfl ?_
      · rfl
      · simp [Settings.ext_iff, Mutation.Repeats]
  | setSplashDurationMs ms =>
      refine atomic_discard_of (fun _ _ => ?_) Iff.rfl ?_
      · rfl
      · simp [Settings.ext_iff, Mutation.Repeats]
  | setSplashPhaseMs ms =>
      refine atomic_discard_of (fun _ _ => ?_) Iff.rfl ?_
      · rfl
      · simp [Settings.ext_iff, Mutation.Repeats]
  | setSplashWelcomeMs ms =>
      refine atomic_discard_of (fun _ _ => ?_) Iff.rfl ?_
      · rfl
      · simp [Settings.ext_iff, Mutation.Repeats]
  | setControlUrl url =>
      refine atomic_discard_of (fun _ _ => ?_) Iff.rfl ?_
      · rfl
      · simp [Settings.ext_iff, Mutation.Repeats, eq_comm (b := before.memory.controlUrl), eq_comm (b := before.memory.controlSetupDismissed)]
  | setControlPinnedIps ips =>
      refine atomic_discard_of (fun _ _ => ?_) Iff.rfl ?_
      · rfl
      · simp [Settings.ext_iff, Mutation.Repeats]
  | setStunPinnedIps ips =>
      refine atomic_discard_of (fun _ _ => ?_) Iff.rfl ?_
      · rfl
      · simp [Settings.ext_iff, Mutation.Repeats]
  | setGithubToken token =>
      refine atomic_discard_of (fun _ _ => ?_) Iff.rfl ?_
      · rfl
      · simp [Settings.ext_iff, Mutation.Repeats]
  | clearFilesDir =>
      refine atomic_assign_of (fun _ _ => ?_) ?_
      · rfl
      · simp [Settings.ext_iff, Mutation.Repeats, eq_comm (a := none)]
  | clearStorageDir =>
      refine atomic_assign_of (fun _ _ => ?_) ?_
      · rfl
      · simp [Settings.ext_iff, Mutation.Repeats, eq_comm (a := none)]
  | clearControlPinnedIps =>
      refine atomic_assign_of (fun _ _ => ?_) ?_
      · rfl
      · simp [Settings.ext_iff, Mutation.Repeats]
  | clearStunPinnedIps =>
      refine atomic_assign_of (fun _ _ => ?_) ?_
      · rfl
      · simp [Settings.ext_iff, Mutation.Repeats]
  | dismissControlSetup =>
      refine atomic_assign_of (fun _ _ => ?_) ?_
      · rfl
      · simp [Settings.ext_iff, Mutation.Repeats]
  | dismissIdentitySetup =>
      refine atomic_assign_of (fun _ _ => ?_) ?_
      · rfl
      · simp [Settings.ext_iff, Mutation.Repeats]
  | setFlashingEnabled enabled =>
      refine atomic_assign_of (fun _ _ => ?_) ?_
      · rfl
      · simp [Settings.ext_iff, Mutation.Repeats, eq_comm]
  | setDndEnabled enabled =>
      refine atomic_assign_of (fun _ _ => ?_) ?_
      · rfl
      · simp [Settings.ext_iff, Mutation.Repeats, eq_comm]
  | createRoom drawn groupName =>
      refine atomic_discard_of (fun _ _ => ?_) Iff.rfl ?_
      · rfl
      · simp [Settings.ext_iff, Mutation.Repeats, set_eq_self_iff]
  | joinRoom invite =>
      refine atomic_discard_of (fun _ _ => ?_) Iff.rfl ?_
      · rfl
      · simp [Settings.ext_iff, Mutation.Repeats, set_eq_self_iff]
  | leaveRoom roomId =>
      refine atomic_mutate_of (fun _ _ => ?_) Iff.rfl (iff_of_false ?_ id)
      · rfl
      · rintro ⟨_, known, same⟩
        exact not_knownRoom_erase known (congrArg Settings.rooms same)
  | mutePeer peerId expiry =>
      refine atomic_assign_of (fun _ _ => ?_) ?_
      · rfl
      · simp [Settings.ext_iff, Mutation.Repeats, set_eq_self_iff]
  | unmutePeer peerId =>
      refine atomic_assign_of (fun _ _ => ?_) ?_
      · rfl
      · simp [Settings.ext_iff, Mutation.Repeats, erase_eq_self_iff]
  | muteGroup groupId expiry =>
      refine atomic_assign_of (fun _ _ => ?_) ?_
      · rfl
      · simp [Settings.ext_iff, Mutation.Repeats, set_eq_self_iff]
  | unmuteGroup groupId =>
      refine atomic_assign_of (fun _ _ => ?_) ?_
      · rfl
      · simp [Settings.ext_iff, Mutation.Repeats, erase_eq_self_iff]
  | isGroupMuted groupId =>
      refine atomic_discard.trans (atomic_isMuted_iff ?_ ?_)
      · intro expiry found same
        have gone := erase_eq_self_iff.mp (congrArg Settings.mutedGroups same)
        rw [found] at gone
        cases gone
      · rfl
  | isPeerMuted peerId =>
      refine atomic_discard.trans (atomic_isMuted_iff ?_ ?_)
      · intro expiry found same
        have gone := erase_eq_self_iff.mp (congrArg Settings.mutedPeers same)
        rw [found] at gone
        cases gone
      · rfl
  | setNotificationPreferences setupDismissed delivery events => exact atomic_setNotificationPreferences_iff
  | setAnalyticsLevel level => exact atomic_discard.trans atomic_setAnalyticsLevel_iff


def plainParsers : Parsers where
  urlparse := fun _ => .error (.valueError "Invalid URL")
  address := fun _ => none
  crypto := twoGroups

/-- A world in which nothing fails. -/
def calmWorld : World where
  writable := true
  now := 0
  filesPath := fun path => .ok (String.ofList path)
  storagePath := fun path => .ok (String.ofList path)
  refusal := fun _ => none
  resolved := id

/-- A delivery that is refused leaves the dismissal of the prompt behind, which was assigned before. -/
theorem refused_preferences_change_the_settings :
    ¬ Atomic ((Mutation.setNotificationPreferences (some true) (.text "email") .null).run plainParsers calmWorld)
      ⟨initial, .absent⟩ := by
  intro atomic
  have same := atomic _ _ rfl
  have dismissed := congrArg (fun installed : Installed => installed.memory.notificationSetupDismissed) same
  cases dismissed

end MeshTalk.Settings
