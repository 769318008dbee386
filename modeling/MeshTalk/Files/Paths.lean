import MeshTalk.Library.Dict
import MeshTalk.Protocol.FilePayloads
import MeshTalk.Store.Tables

namespace MeshTalk.Files

open MeshTalk.Library MeshTalk.Protocol MeshTalk.Store

/-! # Stored files and the paths the file manager gives them

Only regular files are kept; a directory exists whenever a file below it does.
-/

structure StoredFile where
  content : Bytes
  mtime : Time
deriving DecidableEq, Repr

/-- `Path(name).suffix` of a name without separators. -/
def pathSuffix (name : List Char) : List Char :=
  match rpartitionDot name with
  | some (stem, extension) => if stem ≠ [] ∧ extension ≠ [] then '.' :: extension else []
  | none => []

def isSuffixPadding (char : Char) : Bool := char = ' ' || char = '.' || char = '_'

def suffixedFilename (filename suffixText : String) : String :=
  let safe := (sanitizeFilename filename).toList
  let suffix := pathSuffix safe
  let stem := safe.take (safe.length - suffix.length)
  let available := max 1 (maxFilenameLength - suffixText.toList.length - suffix.length - 1)
  let trimmed := ((stem.take available).reverse.dropWhile isSuffixPadding).reverse
  let shown := if trimmed = [] then "file".toList else trimmed
  sanitizeFilename (String.ofList (shown ++ '_' :: suffixText.toList ++ suffix))

/-- A creation time is positive, so `int` rounds it down. -/
def timestampedFilename (filename : String) (createdAt : Time) : String :=
  suffixedFilename filename (toString createdAt.floor.toNat)

/-- The names `_incoming_path_for` tries, by attempt. -/
def incomingCandidate (base : Path) (name suffix : String) : Nat → Path
  | 0 => base ++ [name]
  | 1 => base ++ [suffixedFilename name suffix]
  | attempt => base ++ [suffixedFilename name (suffix ++ "_" ++ toString attempt)]

def firstFree (inUse : Path → Bool) (candidate : Nat → Path) : Nat → Nat → Option Path
  | 0, _ => none
  | fuel + 1, attempt =>
      if inUse (candidate attempt) then firstFree inUse candidate fuel (attempt + 1) else some (candidate attempt)

/-- `_incoming_path_for`, for as many attempts as can be needed: the first two names may come up
again later, and of the others one more than there are files is enough as long as they differ. -/
def incomingPathFor (crypto : FileCrypto) (files : Dict Path StoredFile) (filesBase : Path) (fileId : String)
    (senderId : PeerId) (groupId : Option String) (filename : String) (createdAt : Time) : Option Path :=
  let owner := match groupId with
    | some group => if group = "" then senderId else group
    | none => senderId
  let suffix := String.ofList ((crypto.sha256 (fileId.toList.map fun char => UInt8.ofNat char.toNat)).toList.take 16)
  firstFree files.contains
    (incomingCandidate (filesBase ++ [sanitizeFilename owner]) (timestampedFilename filename createdAt) suffix)
    (files.size + 3) 0

def outgoingPathFor (filesBase : Path) (fileId filename : String) : Path :=
  filesBase ++ ["sent", fileId, sanitizeFilename filename]

/-- Write at an offset; a gap before it reads as zeros. -/
def writeAt (content : Bytes) (offset : Nat) (data : Bytes) : Bytes :=
  content.take offset ++ List.replicate (offset - content.length) 0 ++ data ++ content.drop (offset + data.length)

/-- Seek to the last byte of the declared size and write it. -/
def sparseFile (size : Nat) : Bytes := List.replicate size 0

/-- How the operating system answers the file operation of a step. -/
inductive DiskFault where
  | none
  | atUnlink
  | atOpen
  | afterWriting (bytes : Nat)
deriving DecidableEq, Repr

theorem firstFree_unused {inUse : Path → Bool} {candidate : Nat → Path} {fuel attempt : Nat} {path : Path}
    (found : firstFree inUse candidate fuel attempt = some path) : inUse path = false := by
  induction fuel generalizing attempt with
  | zero => cases found
  | succ fuel ih =>
      simp only [firstFree] at found
      split at found
      · exact ih found
      · rename_i free
        cases found
        simpa using free

end MeshTalk.Files
