import MeshTalk.Updates.Versions

namespace MeshTalk.Updates

/-! # Checking for an update

The unstable channel asks for lists of releases, one after the other until one has a release
that can be installed here, and takes the first such release of that list.
-/

/-! ## Releases -/

/-- A field that holds something else than a text is `none`. -/
structure Asset where
  name : Option String
  browserDownloadUrl : Option String
  digest : Option String
deriving DecidableEq

structure ReleaseResponse where
  tagName : Option String
  prerelease : Bool
  draft : Bool
  assets : Option (List Asset)
deriving DecidableEq

structure Release where
  tag : String
  version : List Char
  assetName : String
  downloadUrl : String
  digest : Option String
deriving DecidableEq

inductive Platform where
  | linux
  | darwin
  | win32
  | other
deriving DecidableEq

inductive Arch where
  | x64
  | arm64
  | other
deriving DecidableEq

structure Machine where
  platform : Platform
  arch : Arch
deriving DecidableEq

def platformAssetName (machine : Machine) : Option String :=
  match machine.platform, machine.arch with
  | .other, _ => none
  | _, .other => none
  | .linux, .x64 => some "meshtalk-linux-x64.tar.gz"
  | .linux, .arm64 => some "meshtalk-linux-arm64.tar.gz"
  | .darwin, .x64 => some "meshtalk-macos-x64.tar.gz"
  | .darwin, .arm64 => some "meshtalk-macos-arm64.tar.gz"
  | .win32, _ => some "meshtalk-windows-x64.exe.tar.gz"

def asRelease (machine : Machine) (value : Option ReleaseResponse) (allowPrerelease : Bool) : Option Release := do
  let assetName ← platformAssetName machine
  let value ← value
  if value.draft || (!allowPrerelease && value.prerelease) then none
  else do
    let tag ← value.tagName
    let version := withoutV tag.toList
    let _ ← parseVersion version
    let asset ← (value.assets.getD []).find? fun candidate => candidate.name = some assetName
    let downloadUrl ← asset.browserDownloadUrl
    some { tag, version, assetName, downloadUrl, digest := asset.digest }

def newestUsable (machine : Machine) (allowPrerelease : Bool) : List (Option ReleaseResponse) → Option Release
  | [] => none
  | candidate :: rest =>
      match asRelease machine candidate allowPrerelease with
      | some release => some release
      | none => newestUsable machine allowPrerelease rest

/-! ## The check -/

/-- An answer to one request. -/
structure Listed where
  releases : List (Option ReleaseResponse)
  accessDenied : Bool
deriving DecidableEq

structure Single where
  release : Option ReleaseResponse
  accessDenied : Bool
deriving DecidableEq

/-- What the requests of one check give: without a token, through the command line, and with the
token, where there is one. -/
structure Sources where
  listed : Listed
  ghListed : List (Option ReleaseResponse)
  listedWithToken : Option Listed
  single : Single
  ghSingle : Option ReleaseResponse
  singleWithToken : Option Single

inductive UpdateChannel where
  | stable
  | unstable
deriving DecidableEq

/-- `GitHubAuthenticationError`. -/
inductive Denied where
  | denied
deriving DecidableEq

section

variable (machine : Machine) (sources : Sources)

def unstableRelease : Option Release × Bool :=
  let release := (newestUsable machine true sources.listed.releases).or (newestUsable machine true sources.ghListed)
  match release, sources.listedWithToken with
  | none, some authenticated =>
      (newestUsable machine true authenticated.releases, sources.listed.accessDenied || authenticated.accessDenied)
  | release, _ => (release, sources.listed.accessDenied)

def stableRelease : Option Release × Bool :=
  let release := (asRelease machine sources.single.release false).or (asRelease machine sources.ghSingle false)
  match release, sources.singleWithToken with
  | none, some authenticated =>
      (asRelease machine authenticated.release false, sources.single.accessDenied || authenticated.accessDenied)
  | release, _ => (release, sources.single.accessDenied)

def checkForUpdate (currentVersion : List Char) (channel : UpdateChannel) : Except Denied (Option Release) :=
  let (release, accessDenied) := match channel with
    | .unstable => unstableRelease machine sources
    | .stable => stableRelease machine sources
  match release with
  | some release => .ok (if isNewerVersion release.version currentVersion then some release else none)
  | none => if accessDenied then .error .denied else .ok none

/-- The releases of a list that could be installed. -/
def usable (releases : List (Option ReleaseResponse)) : List Release :=
  releases.filterMap fun candidate => asRelease machine candidate true

/-- What the requests of a check listed, up to the one with a usable release. -/
def fetched : List (Option ReleaseResponse) :=
  match newestUsable machine true sources.listed.releases, newestUsable machine true sources.ghListed with
  | some _, _ => sources.listed.releases
  | none, some _ => sources.listed.releases ++ sources.ghListed
  | none, none => sources.listed.releases ++ sources.ghListed ++
      (match sources.listedWithToken with
        | some authenticated => authenticated.releases
        | none => [])

end

/-! ## What is offered -/

variable {machine : Machine} {sources : Sources} {currentVersion : List Char} {candidate : Option ReleaseResponse}
  {release : Release}

def Newer (release : Release) (version : List Char) : Prop := isNewerVersion release.version version = true

/-- The check offers a newer release exactly when one is listed, and then none that is listed is newer. -/
def OffersNewest (listed : List Release) (currentVersion : List Char) (outcome : Except Denied (Option Release)) : Prop :=
  ((∃ release ∈ listed, Newer release currentVersion ∧ outcome = .ok (some release)) ↔
    ∃ release ∈ listed, Newer release currentVersion) ∧
  ∀ release, outcome = .ok (some release) → ∀ other ∈ listed, ¬ Newer other release.version

/-- The first release that is listed is as new as any other. -/
def FirstIsNewest (listed : List Release) : Prop := ∀ first ∈ listed.head?, ∀ other ∈ listed, ¬ Newer other first.version

theorem newestUsable_eq (releases : List (Option ReleaseResponse)) :
    newestUsable machine true releases = (usable machine releases).head? := by
  induction releases with
  | nil => rfl
  | cons candidate rest ih =>
      rw [newestUsable, usable, List.filterMap_cons]
      cases asRelease machine candidate true with
      | some release => rfl
      | none => exact ih

/-- The release of an unstable check is the first usable one of what was fetched. -/
theorem unstableRelease_fst : (unstableRelease machine sources).1 = (usable machine (fetched machine sources)).head? := by
  unfold unstableRelease fetched
  cases unlisted : newestUsable machine true sources.listed.releases with
  | some release =>
      dsimp only [Option.or]
      rw [← newestUsable_eq, unlisted]
  | none =>
      have nothing : usable machine sources.listed.releases = [] := List.head?_eq_none_iff.mp (newestUsable_eq _ ▸ unlisted)
      cases command : newestUsable machine true sources.ghListed with
      | some release =>
          dsimp only [Option.or]
          rw [usable, List.filterMap_append, ← usable, nothing, List.nil_append, ← usable, ← newestUsable_eq, command]
      | none =>
          have also : usable machine sources.ghListed = [] := List.head?_eq_none_iff.mp (newestUsable_eq _ ▸ command)
          dsimp only [Option.or]
          rw [usable, List.filterMap_append, List.filterMap_append, ← usable, ← usable, nothing, also, List.nil_append, List.nil_append]
          cases sources.listedWithToken with
          | none => rfl
          | some authenticated => exact newestUsable_eq _

theorem asRelease_version (made : asRelease machine candidate true = some release) : (parseVersion release.version).isSome = true := by
  simp only [asRelease, Option.bind_eq_bind, Option.bind_eq_some_iff] at made
  obtain ⟨assetName, -, value, -, made⟩ := made
  split at made
  · cases made
  · simp only [Option.bind_eq_some_iff] at made
    obtain ⟨tag, -, version, parsed, asset, -, url, -, same⟩ := made
    cases same
    exact Option.isSome_of_eq_some parsed

theorem usable_version {releases : List (Option ReleaseResponse)} (member : release ∈ usable machine releases) :
    (parseVersion release.version).isSome = true := by
  obtain ⟨candidate, -, made⟩ := List.mem_filterMap.mp member
  exact asRelease_version made

/-- What a newer release is not newer than is newer itself. -/
theorem newer_of_not_newer {first other : Release} (newer : Newer other currentVersion) (notNewer : ¬ Newer other first.version)
    (isVersion : (parseVersion first.version).isSome = true) : Newer first currentVersion := by
  obtain ⟨version, parsed⟩ := Option.isSome_iff_exists.mp isVersion
  unfold Newer isNewerVersion at newer notNewer ⊢
  rw [parsed] at notNewer ⊢
  cases parsedOther : parseVersion other.version with
  | none =>
      rw [parsedOther] at newer
      cases newer
  | some otherVersion =>
      cases parsedCurrent : parseVersion currentVersion with
      | none =>
          rw [parsedOther, parsedCurrent] at newer
          cases newer
      | some current =>
          rw [parsedOther] at notNewer
          rw [parsedOther, parsedCurrent] at newer
          dsimp only at newer notNewer ⊢
          rw [isNewer_iff] at newer notNewer ⊢
          exact newer.trans_le (not_lt.mp notNewer)

theorem checkForUpdate_of_first (first : (usable machine (fetched machine sources)).head? = some release) :
    checkForUpdate machine sources currentVersion .unstable =
      .ok (if isNewerVersion release.version currentVersion then some release else none) := by
  rw [← unstableRelease_fst] at first
  unfold checkForUpdate
  dsimp only
  rw [first]

theorem checkForUpdate_of_empty (nothing : usable machine (fetched machine sources) = []) (release : Release) :
    checkForUpdate machine sources currentVersion .unstable ≠ .ok (some release) := by
  have unusable := @unstableRelease_fst machine sources
  rw [nothing, List.head?_nil] at unusable
  unfold checkForUpdate
  dsimp only
  rw [unusable]
  dsimp only
  split <;> simp

theorem offered_iff {first : Release} :
    (.ok (if isNewerVersion first.version currentVersion then some first else none) : Except Denied (Option Release)) =
      .ok (some release) ↔ Newer first currentVersion ∧ first = release := by
  unfold Newer
  cases isNewerVersion first.version currentVersion <;> simp

/-- Being newer is a strict weak order, and the unstable channel offers the newest of the usable releases
that it fetched, exactly when the first of them is the newest or none is newer than the current version. -/
theorem unstable_channel_offers_the_newest_iff (machine : Machine) (sources : Sources) (currentVersion : List Char) :
    IsStrictWeakOrder VersionText (fun latest current => isNewerVersion latest.1 current.1 = true) ∧
        OffersNewest (usable machine (fetched machine sources)) currentVersion
          (checkForUpdate machine sources currentVersion .unstable) ↔
      FirstIsNewest (usable machine (fetched machine sources)) ∨
        ∀ release ∈ usable machine (fetched machine sources), ¬ Newer release currentVersion := by
  rw [and_iff_right newer_strictWeakOrder]
  cases listed : usable machine (fetched machine sources) with
  | nil =>
      have never := @checkForUpdate_of_empty machine sources currentVersion listed
      refine iff_of_true ⟨⟨?_, ?_⟩, ?_⟩ (.inl nofun)
      · exact fun ⟨release, member, _⟩ => nomatch member
      · exact fun ⟨release, member, _⟩ => nomatch member
      · exact fun release offered => absurd offered (never release)
  | cons first rest =>
      have head : (usable machine (fetched machine sources)).head? = some first := by rw [listed, List.head?_cons]
      have isVersion : (parseVersion first.version).isSome = true :=
        @usable_version machine first (fetched machine sources) (listed ▸ List.mem_cons_self)
      rw [checkForUpdate_of_first head]
      constructor
      · intro ⟨offers, newest⟩
        by_cases found : ∃ release ∈ first :: rest, Newer release currentVersion
        · obtain ⟨release, -, -, offered⟩ := offers.mpr found
          obtain ⟨-, rfl⟩ := offered_iff.mp offered
          refine .inl fun release same => ?_
          cases same
          exact newest _ offered
        · exact .inr fun release member newer => found ⟨release, member, newer⟩
      · rintro (newest | none)
        · refine ⟨⟨fun ⟨release, member, newer, _⟩ => ⟨release, member, newer⟩, ?_⟩, ?_⟩
          · intro ⟨release, member, newer⟩
            have better := newer_of_not_newer newer (newest first rfl release member) isVersion
            exact ⟨first, List.mem_cons_self, better, offered_iff.mpr ⟨better, rfl⟩⟩
          · intro release offered
            obtain ⟨-, rfl⟩ := offered_iff.mp offered
            exact newest _ rfl
        · refine ⟨iff_of_false ?_ ?_, ?_⟩
          · exact fun ⟨release, member, newer, _⟩ => none release member newer
          · exact fun ⟨release, member, newer⟩ => none release member newer
          · intro release offered
            exact absurd (offered_iff.mp offered).1 (none first List.mem_cons_self)

/-! ## A hotfix of an older version -/

def linuxMachine : Machine := ⟨.linux, .x64⟩

def publishedRelease (tag : String) : Option ReleaseResponse :=
  some ⟨some tag, false, false, some [⟨some "meshtalk-linux-x64.tar.gz", some "archive", none⟩]⟩

/-- A server that lists the hotfix first, since it was published last. -/
def hotfixSources : Sources where
  listed := ⟨[publishedRelease "v1.0.1", publishedRelease "v2.0.0"], false⟩
  ghListed := []
  listedWithToken := none
  single := ⟨none, false⟩
  ghSingle := none
  singleWithToken := none

/-- The newest release stands behind the hotfix, and a version between the two is offered nothing. -/
theorem hotfix_hides_the_newest : ¬ OffersNewest (usable linuxMachine (fetched linuxMachine hotfixSources)) "1.5.0".toList
    (checkForUpdate linuxMachine hotfixSources "1.5.0".toList .unstable) := by
  have listed : usable linuxMachine (fetched linuxMachine hotfixSources) =
      [⟨"v1.0.1", "1.0.1".toList, "meshtalk-linux-x64.tar.gz", "archive", none⟩,
        ⟨"v2.0.0", "2.0.0".toList, "meshtalk-linux-x64.tar.gz", "archive", none⟩] := by decide +kernel
  have newest : isNewerVersion "2.0.0".toList "1.5.0".toList = true := by decide +kernel
  have nothing : checkForUpdate linuxMachine hotfixSources "1.5.0".toList .unstable = .ok none := by decide +kernel
  rw [listed, nothing]
  intro ⟨offers, _⟩
  obtain ⟨release, -, -, offered⟩ := offers.mpr ⟨_, List.mem_cons_of_mem _ List.mem_cons_self, newest⟩
  cases offered

end MeshTalk.Updates
