import MeshTalk.Store.Queue
import Mathlib.Data.List.Range

namespace MeshTalk.Store.Database

open MeshTalk.Library MeshTalk.Protocol

/-! # File transfer rows and received chunks

Each definition is one statement; a method of the store that issues several of
them, or commits, does so from the task that calls it.
-/

def getFileTransfer (db : Database) (fileId : String) : Option FileTransfer := db.fileTransfers.find? fileId

/-- `save_file_transfer`. -/
def saveFileTransfer (db : Database) (transfer : FileTransfer) : Database :=
  { db with fileTransfers := db.fileTransfers.insertOrReplace transfer }

/-- `update_file_transfer(status=...)`. -/
def setFileStatus (db : Database) (fileId : String) (status : FileStatus) : Database :=
  { db with
    fileTransfers := db.fileTransfers.updateWhere (fun row => row.fileId = fileId)
      (fun row => { row with status }) fun _ => rfl }

/-- `update_file_transfer(status="failed", file_path=None)`. -/
def abandonFileTransfer (db : Database) (fileId : String) : Database :=
  { db with
    fileTransfers := db.fileTransfers.updateWhere (fun row => row.fileId = fileId)
      (fun row => { row with status := .failed, filePath := none }) fun _ => rfl }

/-- The first statement of `complete_file_transfer`. -/
def setFileCompleted (db : Database) (fileId : String) (completedAt : Time) : Database :=
  { db with
    fileTransfers := db.fileTransfers.updateWhere (fun row => row.fileId = fileId)
      (fun row => { row with status := .completed, completedAt := some completedAt }) fun _ => rfl }

def setReceivedChunks (db : Database) (fileId : String) (count : Nat) : Database :=
  { db with
    fileTransfers := db.fileTransfers.updateWhere (fun row => row.fileId = fileId)
      (fun row => { row with receivedChunks := count }) fun _ => rfl }

def isFileChunkReceived (db : Database) (fileId : String) (chunkIndex : Nat) : Bool :=
  db.fileReceivedChunks.holds (fileId, chunkIndex)

def insertReceivedChunk (db : Database) (fileId : String) (chunkIndex : Nat) : Database :=
  { db with fileReceivedChunks := db.fileReceivedChunks.insertOrIgnore { fileId, chunkIndex } }

def countReceivedChunks (db : Database) (fileId : String) : Nat :=
  db.fileReceivedChunks.count fun row => row.fileId = fileId

def deleteReceivedChunks (db : Database) (fileId : String) : Database :=
  { db with fileReceivedChunks := db.fileReceivedChunks.deleteWhere fun row => row.fileId = fileId }

def countFilePathReferences (db : Database) (path : Path) : Nat :=
  db.fileTransfers.count fun row => row.filePath = some path

def hasActiveFileTransfers (db : Database) : Bool := db.fileTransfers.rows.any fun row => row.status = .transferring

/-- One turn of the loop of `get_missing_file_chunk_ranges`: the closed ranges
and the start of the open one. -/
def missingStep (received : Nat → Bool) (scan : List (Nat × Nat) × Option Nat) (index : Nat) :
    List (Nat × Nat) × Option Nat :=
  match received index, scan.2 with
  | false, none => (scan.1, some index)
  | true, some start => (scan.1 ++ [(start, index - 1)], none)
  | _, _ => scan

def missingRanges (received : Nat → Bool) (totalChunks : Nat) : List (Nat × Nat) :=
  let scan := (List.range totalChunks).foldl (missingStep received) ([], none)
  match scan.2 with
  | some start => scan.1 ++ [(start, totalChunks - 1)]
  | none => scan.1

def getMissingFileChunkRanges (db : Database) (fileId : String) (totalChunks : Nat) : List (Nat × Nat) :=
  missingRanges (db.isFileChunkReceived fileId) totalChunks

/-! ## What the ranges cover -/

def Covers (ranges : List (Nat × Nat)) (index : Nat) : Prop := ∃ range ∈ ranges, range.1 ≤ index ∧ index ≤ range.2

/-- Non-empty ranges in increasing order, without overlap, below a bound. -/
def Ordered (bound : Nat) (ranges : List (Nat × Nat)) : Prop :=
  (∀ range ∈ ranges, range.1 ≤ range.2 ∧ range.2 < bound) ∧ ranges.Pairwise fun first second => first.2 < second.1

/-- What holds of the scan after the first `bound` indices. -/
structure Scanned (received : Nat → Bool) (bound : Nat) (scan : List (Nat × Nat) × Option Nat) : Prop where
  openRange : ∀ start, scan.2 = some start → start < bound ∧ ∀ index, start ≤ index → index < bound → received index = false
  covers : ∀ index, Covers scan.1 index ↔ index < scan.2.getD bound ∧ received index = false
  ordered : Ordered (scan.2.getD bound) scan.1

theorem Ordered.widen {ranges : List (Nat × Nat)} {bound wider : Nat} (ordered : Ordered bound ranges)
    (below : bound ≤ wider) : Ordered wider ranges :=
  ⟨fun range member => ⟨(ordered.1 range member).1, Nat.lt_of_lt_of_le (ordered.1 range member).2 below⟩, ordered.2⟩

theorem Ordered.append {ranges : List (Nat × Nat)} {bound start stop wider : Nat} (ordered : Ordered bound ranges)
    (after : bound ≤ start) (nonempty : start ≤ stop) (within : stop < wider) :
    Ordered wider (ranges ++ [(start, stop)]) := by
  refine ⟨fun range member => ?_, List.pairwise_append.mpr ⟨ordered.2, List.pairwise_singleton _ _, ?_⟩⟩
  · rcases List.mem_append.mp member with earlier | last
    · have := ordered.1 range earlier
      omega
    · cases List.mem_singleton.mp last
      exact ⟨nonempty, within⟩
  · intro first earlier second last
    cases List.mem_singleton.mp last
    have := ordered.1 first earlier
    omega

theorem covers_append {ranges : List (Nat × Nat)} {start stop index : Nat} :
    Covers (ranges ++ [(start, stop)]) index ↔ Covers ranges index ∨ (start ≤ index ∧ index ≤ stop) := by
  simp only [Covers, List.mem_append, List.mem_singleton]
  constructor
  · rintro ⟨range, earlier | rfl, within⟩
    · exact .inl ⟨range, earlier, within⟩
    · exact .inr within
  · rintro (⟨range, member, within⟩ | within)
    · exact ⟨range, .inl member, within⟩
    · exact ⟨_, .inr rfl, within⟩

theorem missingStep_scanned {received : Nat → Bool} {bound : Nat} {scan : List (Nat × Nat) × Option Nat}
    (scanned : Scanned received bound scan) : Scanned received (bound + 1) (missingStep received scan bound) := by
  obtain ⟨ranges, active⟩ := scan
  obtain ⟨openRange, covers, ordered⟩ := scanned
  have widen : ∀ index, index < bound + 1 → index < bound ∨ index = bound := fun index below => by omega
  cases present : received bound with
  | false =>
      cases active with
      | none =>
          simp only [missingStep, present]
          refine ⟨fun start same => ?_, fun index => ?_, ?_⟩
          · cases same
            refine ⟨Nat.lt_succ_self _, fun index above below => ?_⟩
            rw [show index = bound by omega, present]
          · exact covers index
          · exact ordered
      | some start =>
          simp only [missingStep, present]
          obtain ⟨below, absent⟩ := openRange start rfl
          refine ⟨fun other same => ?_, covers, ordered⟩
          cases same
          refine ⟨by omega, fun index above under => ?_⟩
          rcases widen index under with earlier | rfl
          · exact absent index above earlier
          · exact present
  | true =>
      cases active with
      | none =>
          simp only [missingStep, present]
          refine ⟨fun start same => (nomatch same), fun index => ?_, ordered.widen (Nat.le_succ bound)⟩
          · rw [covers index]
            simp only [Option.getD_none]
            constructor
            · exact fun ⟨below, absent⟩ => ⟨by omega, absent⟩
            · rintro ⟨below, absent⟩
              rcases widen index below with earlier | rfl
              · exact ⟨earlier, absent⟩
              · rw [present] at absent
                cases absent
      | some start =>
          simp only [missingStep, present]
          obtain ⟨below, absent⟩ := openRange start rfl
          refine ⟨fun other same => (nomatch same), fun index => ?_, ?_⟩
          · rw [covers_append, covers index]
            simp only [Option.getD_some, Option.getD_none]
            constructor
            · rintro (⟨earlier, missing⟩ | ⟨above, under⟩)
              · exact ⟨by omega, missing⟩
              · exact ⟨by omega, absent index above (by omega)⟩
            · rintro ⟨under, missing⟩
              by_cases earlier : index < start
              · exact .inl ⟨earlier, missing⟩
              · rcases widen index under with inside | rfl
                · exact .inr ⟨by omega, by omega⟩
                · rw [present] at missing
                  cases missing
          · exact Ordered.append ordered (Nat.le_refl _) (by omega) (by simp only [Option.getD_none]; omega)

theorem scan_scanned {received : Nat → Bool} {bound : Nat} :
    Scanned received bound ((List.range bound).foldl (missingStep received) ([], none)) := by
  induction bound with
  | zero =>
      refine ⟨fun start same => (nomatch same), fun index => ?_, ?_⟩
      · simp [Covers]
      · simp [Ordered]
  | succ bound ih =>
      rw [List.range_succ, List.foldl_append]
      exact missingStep_scanned ih

/-- The ranges cover exactly the indices that have not been received. -/
theorem covers_missingRanges {received : Nat → Bool} {total index : Nat} :
    Covers (missingRanges received total) index ↔ index < total ∧ received index = false := by
  have scanned := @scan_scanned received total
  unfold missingRanges
  generalize (List.range total).foldl (missingStep received) ([], none) = scan at scanned
  obtain ⟨ranges, active⟩ := scan
  cases active with
  | none => exact scanned.covers index
  | some start =>
      obtain ⟨below, absent⟩ := scanned.openRange start rfl
      change Covers (ranges ++ [(start, total - 1)]) index ↔ _
      rw [covers_append, scanned.covers index]
      simp only [Option.getD_some]
      constructor
      · rintro (⟨earlier, missing⟩ | ⟨above, under⟩)
        · exact ⟨by omega, missing⟩
        · exact ⟨by omega, absent index above (by omega)⟩
      · rintro ⟨under, missing⟩
        by_cases earlier : index < start
        · exact .inl ⟨earlier, missing⟩
        · exact .inr ⟨by omega, by omega⟩

theorem missingRanges_ordered {received : Nat → Bool} {total : Nat} : Ordered total (missingRanges received total) := by
  have scanned := @scan_scanned received total
  unfold missingRanges
  generalize (List.range total).foldl (missingStep received) ([], none) = scan at scanned
  obtain ⟨ranges, active⟩ := scan
  cases active with
  | none => exact scanned.ordered
  | some start =>
      obtain ⟨below, -⟩ := scanned.openRange start rfl
      exact Ordered.append scanned.ordered (Nat.le_refl _) (by omega) (by omega)

theorem missingRanges_eq_nil_iff {received : Nat → Bool} {total : Nat} :
    missingRanges received total = [] ↔ ∀ index < total, received index = true := by
  constructor
  · intro none index below
    cases present : received index with
    | true => rfl
    | false =>
        obtain ⟨range, member, -⟩ := covers_missingRanges.mpr ⟨below, present⟩
        rw [none] at member
        cases member
  · intro all
    refine List.eq_nil_iff_forall_not_mem.mpr fun range member => ?_
    have within := missingRanges_ordered.1 range member
    have missing := (covers_missingRanges.mp ⟨range, member, Nat.le_refl _, within.1⟩)
    rw [all _ missing.1] at missing
    cases missing.2

end MeshTalk.Store.Database
