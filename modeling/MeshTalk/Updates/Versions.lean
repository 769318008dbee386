import Mathlib.Data.Prod.Lex
import Mathlib.Algebra.GroupWithZero.Nat
import Mathlib.Algebra.Order.Monoid.Unbundled.WithTop
import Mathlib.Data.Nat.Log
import Mathlib.Order.WithBot
import Mathlib.Order.RelClasses

namespace MeshTalk.Updates

/-! # Versions of releases

A version has three base numbers.  A numeric revision ranks it above its base, any other
suffix below.
-/

/-! ## Numbers -/

/-- A double that is a whole number or infinite. -/
abbrev Number := WithTop Nat

/-- The multiple of a scale that is nearest, and the even one of two. -/
def roundHalfEven (value scale : Nat) : Nat :=
  let below := value / scale
  let rest := value % scale
  if 2 * rest < scale ∨ 2 * rest = scale ∧ below % 2 = 0 then below * scale else (below + 1) * scale

/-- `Number(digits)` keeps 53 binary digits and is infinite past the largest double. -/
def toNumber (value : Nat) : Number :=
  let rounded := roundHalfEven value (2 ^ (Nat.log2 value - 52))
  if rounded < 2 ^ 1024 then (rounded : Nat) else ⊤

def isDigit (char : Char) : Bool := 48 ≤ char.toNat && char.toNat ≤ 57

def decimal (digits : List Char) : Nat := digits.foldl (fun value char => 10 * value + (char.toNat - 48)) 0

/-! ## Parsing -/

structure Version where
  major : Number
  minor : Number
  patch : Number
  revision : Number
  snapshotRun : Option Number
deriving DecidableEq

/-- A character of a suffix. -/
def isSuffix (char : Char) : Bool :=
  isDigit char || (65 ≤ char.toNat && char.toNat ≤ 90) || (97 ≤ char.toNat && char.toNat ≤ 122) || char = '.' || char = '-'

def readNumber (text : List Char) : Option (Number × List Char) :=
  let (digits, rest) := text.span isDigit
  if digits = [] then none else some (toNumber (decimal digits), rest)

def readDot : List Char → Option (List Char)
  | '.' :: rest => some rest
  | _ => none

/-- A suffix behind its mark, where there is one that is not empty. -/
def readSuffix (mark : Char) (text : List Char) : Option (List Char) × List Char :=
  match text with
  | [] => (none, text)
  | first :: behind =>
      let (suffix, rest) := behind.span isSuffix
      if first = mark ∧ suffix ≠ [] then (some suffix, rest) else (none, text)

/-- `value.replace(/^v/, "")`. -/
def withoutV : List Char → List Char
  | 'v' :: rest => rest
  | text => text

/-- The number at the front of the build metadata, or zero. -/
def runOf (build : Option (List Char)) : Number :=
  match build.bind readNumber with
  | some (run, _) => run
  | none => (0 : Nat)

def parseVersion (value : List Char) : Option Version := do
  let (major, rest) ← readNumber (withoutV value)
  let (minor, rest) ← readNumber (← readDot rest)
  let (patch, rest) ← readNumber (← readDot rest)
  let (pre, rest) := readSuffix '-' rest
  let (build, rest) := readSuffix '+' rest
  if rest ≠ [] then none
  else match pre with
    | some suffix =>
        if suffix.all isDigit then some { major, minor, patch, revision := toNumber (decimal suffix), snapshotRun := none }
        else some { major, minor, patch, revision := (0 : Nat), snapshotRun := some (runOf build) }
    | none => some { major, minor, patch, revision := (0 : Nat), snapshotRun := none }

/-! ## Comparing -/

/-- Numeric revisions outrank stable versions, stable versions outrank snapshots. -/
def Version.rank (version : Version) : Nat :=
  if version.snapshotRun ≠ none then 0 else if (0 : Nat) < version.revision then 2 else 1

def Version.isNewer (next installed : Version) : Bool :=
  if next.major ≠ installed.major then installed.major < next.major
  else if next.minor ≠ installed.minor then installed.minor < next.minor
  else if next.patch ≠ installed.patch then installed.patch < next.patch
  else if next.rank ≠ installed.rank then installed.rank < next.rank
  else match next.snapshotRun, installed.snapshotRun with
    | some run, some other => other < run
    | _, _ => installed.revision < next.revision

def isNewerVersion (latest current : List Char) : Bool :=
  match parseVersion latest, parseVersion current with
  | some next, some installed => next.isNewer installed
  | _, _ => false

/-- What versions are compared by, the first place first. -/
def Version.key (version : Version) : Number ×ₗ Number ×ₗ Number ×ₗ Nat ×ₗ Number :=
  toLex (version.major, toLex (version.minor, toLex (version.patch, toLex (version.rank, version.snapshotRun.getD version.revision))))

variable {next installed other : Version}

theorem rank_eq_zero_iff : next.rank = 0 ↔ next.snapshotRun ≠ none := by
  unfold Version.rank
  split
  · rename_i snapshot
    exact iff_of_true rfl snapshot
  · rename_i stable
    refine iff_of_false ?_ stable
    split <;> decide

/-- Comparing one place before the others. -/
theorem place_iff [LinearOrder α] {mine yours : α} {others : Bool} :
    (if mine ≠ yours then decide (yours < mine) else others) = true ↔ yours < mine ∨ yours = mine ∧ others = true := by
  by_cases same : mine = yours
  · subst same
    simp
  · rw [if_pos same, decide_eq_true_eq]
    exact ⟨.inl, fun found => found.resolve_right fun ⟨equal, _⟩ => same equal.symm⟩

/-- Among versions of one rank, either both are snapshots or both are not. -/
theorem last_iff (same : installed.rank = next.rank) :
    (match next.snapshotRun, installed.snapshotRun with
      | some run, some other => decide (other < run)
      | _, _ => decide (installed.revision < next.revision)) = true ↔
      installed.snapshotRun.getD installed.revision < next.snapshotRun.getD next.revision := by
  have both := (@rank_eq_zero_iff installed).symm.trans (same ▸ @rank_eq_zero_iff next)
  cases mine : next.snapshotRun <;> cases yours : installed.snapshotRun <;> simp_all

/-- One version is newer than another when its key is greater. -/
theorem isNewer_iff : next.isNewer installed = true ↔ installed.key < next.key := by
  unfold Version.isNewer Version.key
  simp only [Prod.Lex.toLex_lt_toLex]
  rw [place_iff, place_iff, place_iff, place_iff]
  refine or_congr_right (and_congr_right fun _ => or_congr_right (and_congr_right fun _ =>
    or_congr_right (and_congr_right fun _ => or_congr_right (and_congr_right fun same => ?_))))
  exact last_iff same

/-- The texts that are versions. -/
abbrev VersionText := { text : List Char // (parseVersion text).isSome = true }

def VersionText.version (text : VersionText) : Version := (parseVersion text.1).get text.2

theorem isNewerVersion_iff {latest current : VersionText} :
    isNewerVersion latest.1 current.1 = true ↔ current.version.key < latest.version.key := by
  have parsed : ∀ text : VersionText, parseVersion text.1 = some text.version := fun text => (Option.some_get text.2).symm
  rw [← isNewer_iff, isNewerVersion, parsed latest, parsed current]

/-- Being newer is a strict weak order on the texts of versions. -/
theorem newer_strictWeakOrder : IsStrictWeakOrder VersionText fun latest current => isNewerVersion latest.1 current.1 = true := by
  have pulled : IsStrictWeakOrder VersionText fun latest current => current.version.key < latest.version.key :=
    { irrefl := fun text => lt_irrefl text.version.key
      trans := fun _ _ _ newer older => older.trans newer
      incomp_trans := fun first second third one two => by
        rw [← not_or, ← ne_iff_lt_or_gt, not_not] at one two ⊢
        exact two.trans one }
  have same : (fun latest current : VersionText => isNewerVersion latest.1 current.1 = true) =
      fun latest current => current.version.key < latest.version.key := by
    funext latest current
    exact propext isNewerVersion_iff
  rw [same]
  exact pulled

end MeshTalk.Updates
