import Mathlib.Data.Set.Finite.List
import MeshTalk.Deliveries.NameBytes

namespace MeshTalk.Deliveries

open MeshTalk.Library MeshTalk.Protocol MeshTalk.Files MeshTalk.Store

/-! # The names that are tried for an incoming file

The file gets its creation time, and when that name is in use a part of the digest of its id,
and then a counter behind it.  Names are cut to a length, but never before the counter.
-/

variable {name filename suffixText : String} {text rest base : List Char} {char : Char}

/-! ## What sanitizing leaves of a suffixed name -/

/-- The end of a name without what is trimmed from it. -/
def trimmedEnd (extension : List Char) : List Char := (extension.rdropWhile isSpace).rdropWhile isSpaceOrDot

/-- An extension begins at the last dot. -/
def IsExtension (text : List Char) : Prop := text = [] ∨ ∃ plain, text = '.' :: plain ∧ '.' ∉ plain

theorem pathSuffix_isExtension : IsExtension (pathSuffix text) := by
  unfold pathSuffix
  by_cases dotted : '.' ∈ text
  · obtain ⟨stem, extension, rfl, plain⟩ := exists_extension dotted
    rw [rpartitionDot_last plain]
    dsimp only
    split
    · exact .inr ⟨extension, rfl, plain⟩
    · exact .inl rfl
  · rw [rpartitionDot, if_neg dotted]
    exact .inl rfl

theorem IsExtension.of_prefix (isExtension : IsExtension text) (front : rest <+: text) : IsExtension rest := by
  rcases isExtension with rfl | ⟨plain, rfl, dotless⟩
  · exact .inl (List.prefix_nil.mp front)
  · cases rest with
    | nil => exact .inl rfl
    | cons first more =>
        obtain ⟨rfl, behind⟩ := List.cons_prefix_cons.mp front
        exact .inr ⟨more, rfl, fun member => dotless (behind.subset member)⟩

theorem trimmedEnd_starts : trimmedEnd text <+: text := (List.rdropWhile_prefix _ _).trans (List.rdropWhile_prefix _ _)

/-- What is put between a stem and an extension stays as it is, and of the extension only its end is trimmed. -/
theorem core_suffixed {shown extension : List Char} (plain : IsSuffixText text)
    (legal : ∀ char ∈ shown ++ '_' :: (text ++ extension), isLegal char) :
    core (String.ofList (shown ++ '_' :: (text ++ extension))) =
      (shown.dropWhile isSpace).dropWhile isSpaceOrDot ++ '_' :: text ++ trimmedEnd extension := by
  have middle : '_' :: text ≠ [] := List.cons_ne_nil _ _
  have marked : IsSuffixText ('_' :: text) := List.forall_mem_cons.mpr ⟨.inr rfl, plain⟩
  have dots : ∀ char ∈ '_' :: text, isSpaceOrDot char = false := fun _ member => (marked.kept member).1
  have spaces : ∀ char ∈ '_' :: text, isSpace char = false := fun _ member => (marked.kept member).2
  rw [core_of_legal legal, show shown ++ '_' :: (text ++ extension) = shown ++ '_' :: text ++ extension by simp,
    trim_around middle spaces, trim_around middle dots]
  rfl

/-- A name that is too long has a long extension, and is cut within it. -/
theorem truncate_suffixed {front extension : List Char} (isExtension : IsExtension extension)
    (early : front.length + extension.length ≤ maxFilenameLength ∨ front.length ≤ 240) :
    ∃ rest, truncateFilename (front ++ extension) = front ++ rest ∧ rest <+: extension ∧ (extension ≠ [] → rest ≠ []) := by
  by_cases long : maxFilenameLength < (front ++ extension).length
  · have total := long
    rw [List.length_append] at total
    have early : front.length ≤ 240 := early.resolve_left (Nat.not_le.mpr total)
    have cut : (front ++ extension).take maxFilenameLength = front ++ extension.take (maxFilenameLength - front.length) := by
      rw [List.take_append, List.take_of_length_le (Nat.le_trans early (by decide))]
    rcases isExtension with rfl | ⟨plain, rfl, dotless⟩
    · simp only [List.length_nil, maxFilenameLength] at total
      omega
    · obtain ⟨room, count⟩ : ∃ room, maxFilenameLength - front.length = room + 1 := ⟨254 - front.length, by
        simp only [maxFilenameLength]; omega⟩
      rw [count, List.take_succ_cons] at cut
      have same : truncateFilename (front ++ '.' :: plain) = (front ++ '.' :: plain).take maxFilenameLength := by
        rcases truncateFilename_long long with ⟨stem, extension, split, bare, small, -⟩ | ⟨same, -⟩
        · have found := @rpartitionDot_last stem extension bare
          have dotlessFront : '.' ∉ plain.take room := fun member => dotless (List.mem_of_mem_take member)
          rw [← split, cut, rpartitionDot_last dotlessFront] at found
          have length := congrArg List.length (Prod.mk.inj (Option.some.inj found)).2
          simp only [List.length_take, List.length_cons, maxFilenameLength] at length total count
          omega
        · exact same
      exact ⟨'.' :: plain.take room, by rw [same, cut], List.cons_prefix_cons.mpr ⟨rfl, List.take_prefix _ _⟩, fun _ => List.cons_ne_nil _ _⟩
  · exact ⟨extension, truncateFilename_short (Nat.not_lt.mp long), List.prefix_refl _, id⟩

/-- The name keeps what was put before its extension, and of the extension a part when there is one. -/
theorem sanitize_suffixed {shown extension : List Char} (isExtension : IsExtension extension) (plain : IsSuffixText text)
    (legal : ∀ char ∈ shown ++ '_' :: (text ++ extension), isLegal char)
    (early : shown.length + 1 + text.length + extension.length ≤ maxFilenameLength ∨ shown.length + 1 + text.length ≤ 240) :
    ∃ front rest, (sanitizeFilename (String.ofList (shown ++ '_' :: (text ++ extension)))).toList = front ++ '_' :: (text ++ rest) ∧
      rest <+: trimmedEnd extension ∧ (trimmedEnd extension ≠ [] → rest ≠ []) := by
  have legalCore : ((shown.dropWhile isSpace).dropWhile isSpaceOrDot ++ '_' :: text ++ trimmedEnd extension).map legalChar =
      (shown.dropWhile isSpace).dropWhile isSpaceOrDot ++ '_' :: text ++ trimmedEnd extension := by
    have all : ∀ char ∈ (shown.dropWhile isSpace).dropWhile isSpaceOrDot ++ '_' :: text ++ trimmedEnd extension, isLegal char := by
      intro char member
      refine legal char ?_
      rw [List.append_assoc] at member
      refine List.mem_append.mpr ((List.mem_append.mp member).imp (fun front => ?_) fun behind => ?_)
      · exact (List.dropWhile_sublist isSpace).subset ((List.dropWhile_sublist isSpaceOrDot).subset front)
      · refine List.mem_cons.mpr ((List.mem_cons.mp behind).imp_right fun later => ?_)
        exact List.mem_append.mpr ((List.mem_append.mp later).imp_right fun last => trimmedEnd_starts.subset last)
    exact (List.map_congr_left fun char member => legalChar_of_legal (all char member)).trans (List.map_id _)
  have fewer : ((shown.dropWhile isSpace).dropWhile isSpaceOrDot ++ '_' :: text).length ≤ shown.length + 1 + text.length := by
    have dropped : ((shown.dropWhile isSpace).dropWhile isSpaceOrDot).length ≤ shown.length :=
      Nat.le_trans (List.dropWhile_sublist isSpaceOrDot).length_le (List.dropWhile_sublist isSpace).length_le
    rw [List.length_append, List.length_cons]
    omega
  obtain ⟨rest, cut, front, present⟩ := @truncate_suffixed ((shown.dropWhile isSpace).dropWhile isSpaceOrDot ++ '_' :: text)
    (trimmedEnd extension) (isExtension.of_prefix trimmedEnd_starts) (by
      have shorter := (@trimmedEnd_starts extension).length_le
      omega)
  rw [sanitizeFilename_toList, core_suffixed plain legal, legalCore, cut]
  unfold named
  rw [if_neg (by simp)]
  split
  · exact ⟨'_' :: (shown.dropWhile isSpace).dropWhile isSpaceOrDot, rest, by simp, front, present⟩
  · exact ⟨(shown.dropWhile isSpace).dropWhile isSpaceOrDot, rest, by simp, front, present⟩

theorem shownStem_length {stem : List Char} {available : Nat} : (shownStem stem available).length ≤ max 4 available := by
  unfold shownStem
  dsimp only
  split
  · exact Nat.le_max_left _ _
  · exact Nat.le_trans (List.rdropWhile_prefix _ _).length_le (Nat.le_trans (List.length_take_le _ _) (Nat.le_max_right _ _))

/-- What is left of the extension of a name behind whatever is put before it. -/
def keptExtension (filename : String) : List Char := trimmedEnd (pathSuffix (sanitizeFilename filename).toList)

theorem keptExtension_isExtension : IsExtension (keptExtension filename) := pathSuffix_isExtension.of_prefix trimmedEnd_starts

theorem suffixedFilename_shape (plain : IsSuffixText suffixText.toList) (short : suffixText.toList.length ≤ 230) :
    ∃ front rest, (suffixedFilename filename suffixText).toList = front ++ '_' :: (suffixText.toList ++ rest) ∧
      rest <+: keptExtension filename ∧ (keptExtension filename ≠ [] → rest ≠ []) := by
  obtain ⟨stem, split⟩ := @pathSuffix_suffix (sanitizeFilename filename).toList
  have suffixOf : pathSuffix (sanitizeFilename filename).toList ⊆ (sanitizeFilename filename).toList := by
    intro char member
    rw [split]
    exact List.mem_append_right _ member
  rw [suffixedFilename_eq split]
  generalize count : max 1 (maxFilenameLength - suffixText.toList.length - (pathSuffix (sanitizeFilename filename).toList).length - 1) = available
  have shownOf : shownStem stem available = "file".toList ∨
      shownStem stem available ≠ [] ∧ shownStem stem available <+: (sanitizeFilename filename).toList := by
    refine (shownStem_cases stem available).imp_right fun ⟨present, front⟩ => ⟨present, front.trans ?_⟩
    rw [split]
    exact List.prefix_append _ _
  obtain ⟨legal, -⟩ := suffixed_parts shownOf suffixOf plain
  have length := @shownStem_length stem available
  refine sanitize_suffixed pathSuffix_isExtension plain legal ?_
  simp only [maxFilenameLength] at count ⊢
  omega

/-! ## Names that differ -/

/-- Texts that agree up to what is behind their last mark agree there too. -/
theorem behind_mark {mark : Char} {first second front behind : List Char} (same : first ++ mark :: second = front ++ mark :: behind)
    (plain : mark ∉ second) (also : mark ∉ behind) : first = front ∧ second = behind := by
  have taken : ∀ before after : List Char, mark ∉ after → (before ++ mark :: after).reverse.takeWhile (· ≠ mark) = after.reverse := by
    intro before after absent
    rw [List.reverse_append, List.reverse_cons, List.append_assoc, List.takeWhile_append_of_pos]
    · rw [List.singleton_append, List.takeWhile_cons_of_neg (by simp), List.append_nil]
    · intro char member
      refine decide_eq_true ?_
      rintro rfl
      exact absent (List.mem_reverse.mp member)
  have behinds := taken first second plain
  rw [same, taken front behind also] at behinds
  obtain rfl := List.reverse_injective behinds
  exact ⟨List.append_cancel_right same, rfl⟩

/-- Names with one kept extension differ where what is before it does. -/
theorem before_extension {extension first second front behind : List Char} (isExtension : IsExtension extension)
    (same : first ++ second = front ++ behind) (part : second <+: extension) (also : behind <+: extension)
    (present : extension ≠ [] → second ≠ []) (presentAlso : extension ≠ [] → behind ≠ []) : first = front := by
  rcases isExtension with rfl | ⟨plain, rfl, dotless⟩
  · obtain rfl := List.prefix_nil.mp part
    obtain rfl := List.prefix_nil.mp also
    rwa [List.append_nil, List.append_nil] at same
  · obtain ⟨head, tail, rfl⟩ := List.exists_cons_of_ne_nil (present (List.cons_ne_nil _ _))
    obtain ⟨head', tail', rfl⟩ := List.exists_cons_of_ne_nil (presentAlso (List.cons_ne_nil _ _))
    obtain ⟨rfl, within⟩ := List.cons_prefix_cons.mp part
    obtain ⟨rfl, alsoWithin⟩ := List.cons_prefix_cons.mp also
    exact (behind_mark same (fun member => dotless (within.subset member)) fun member => dotless (alsoWithin.subset member)).1

/-- The text put before the extension by the attempts after the first. -/
def attemptText (suffix : String) (attempt : Nat) : List Char :=
  if attempt = 1 then suffix.toList else suffix.toList ++ '_' :: Nat.toDigits 10 attempt

theorem toDigits_injective : Function.Injective (Nat.toDigits 10) := by
  intro first second same
  rw [← Nat.ofDigitChars_ten_toDigits (n := first), same, Nat.ofDigitChars_ten_toDigits]

variable {suffix : String} {earlier later attempt : Nat}

theorem hex_no_mark (hex : isLowerHexOf 16 suffix = true) : '_' ∉ suffix.toList := by
  simp only [isLowerHexOf, Bool.and_eq_true, List.all_eq_true] at hex
  intro member
  exact absurd (hex.2 _ member) (by decide)

/-- Whatever stands before it, the text of an attempt tells the attempt, up to those that need sixteen digits. -/
theorem attemptText_tells {front behind : List Char} (hex : isLowerHexOf 16 suffix = true) (ordered : earlier < later)
    (reached : 1 ≤ earlier) (small : earlier = 1 → later < 10 ^ 15)
    (same : front ++ '_' :: attemptText suffix earlier = behind ++ '_' :: attemptText suffix later) : False := by
  have counted : attemptText suffix later = suffix.toList ++ '_' :: Nat.toDigits 10 later := if_neg (by omega)
  rw [counted, ← List.cons_append, ← List.append_assoc] at same
  unfold attemptText at same
  split at same
  · rename_i first
    -- the digest alone would have to be the sixteen digits of the later attempt
    have digits := (behind_mark same (hex_no_mark hex) Nat.underscore_not_in_toDigits).2
    have length := (isLowerHexOf_ascii hex).1
    rw [digits] at length
    have few := (Nat.length_toDigits_le_iff (by decide) (by decide)).mpr (small first)
    omega
  · rw [← List.cons_append, ← List.append_assoc] at same
    have digits := (behind_mark same Nat.underscore_not_in_toDigits Nat.underscore_not_in_toDigits).2
    exact absurd (toDigits_injective digits) (Nat.ne_of_lt ordered)

theorem attemptText_plain (hex : isLowerHexOf 16 suffix = true) : IsSuffixText (attemptText suffix attempt) := by
  unfold attemptText
  split
  · exact isSuffixText_hex hex
  · intro char member
    rcases List.mem_append.mp member with front | behind
    · exact isSuffixText_hex hex char front
    · exact (List.mem_cons.mp behind).elim .inr fun digit => isSuffixText_digits char digit

theorem attemptText_length (hex : isLowerHexOf 16 suffix = true) (bounded : attempt < 10 ^ 200) :
    (attemptText suffix attempt).length ≤ 230 := by
  have length := (isLowerHexOf_ascii hex).1
  have digits := (Nat.length_toDigits_le_iff (by decide) (by decide)).mpr bounded
  unfold attemptText
  split
  · omega
  · rw [List.length_append, List.length_cons]
    omega

theorem incomingCandidate_eq {path : Path} (reached : 1 ≤ attempt) :
    incomingCandidate path name suffix attempt = path ++ [suffixedFilename name (String.ofList (attemptText suffix attempt))] := by
  match attempt with
  | 1 => simp [incomingCandidate, attemptText]
  | attempt + 2 =>
      have parts : suffix ++ "_" ++ toString (attempt + 2) = String.ofList (attemptText suffix (attempt + 2)) := by
        rw [attemptText, if_neg (by omega), ← toString_toList]
        apply String.toList_injective
        rw [String.toList_append, String.toList_append, String.toList_ofList, String.toList_ofList, List.append_assoc]
        rfl
      rw [← parts]
      rfl

/-- Two attempts after the first give different names, as long as the counter is not cut. -/
theorem candidates_differ {path : Path} (hex : isLowerHexOf 16 suffix = true) (reached : 1 ≤ earlier) (ordered : earlier < later)
    (bounded : later < 10 ^ 200) (small : earlier = 1 → later < 10 ^ 15) :
    incomingCandidate path name suffix earlier ≠ incomingCandidate path name suffix later := by
  rw [incomingCandidate_eq reached, incomingCandidate_eq (Nat.le_trans reached ordered.le)]
  intro same
  have names : suffixedFilename name (String.ofList (attemptText suffix earlier)) =
      suffixedFilename name (String.ofList (attemptText suffix later)) := by
    simpa using same
  have shape : ∀ attempt, attempt < 10 ^ 200 → ∃ front rest,
      (suffixedFilename name (String.ofList (attemptText suffix attempt))).toList = front ++ '_' :: (attemptText suffix attempt ++ rest) ∧
        rest <+: keptExtension name ∧ (keptExtension name ≠ [] → rest ≠ []) := by
    intro attempt few
    have found := @suffixedFilename_shape name (String.ofList (attemptText suffix attempt))
      (by rw [String.toList_ofList]; exact attemptText_plain hex) (by rw [String.toList_ofList]; exact attemptText_length hex few)
    rwa [String.toList_ofList] at found
  obtain ⟨front, rest, first, part, present⟩ := shape earlier (ordered.trans bounded)
  obtain ⟨behind, remainder, second, also, presentAlso⟩ := shape later bounded
  rw [names, second, ← List.cons_append, ← List.cons_append, ← List.append_assoc, ← List.append_assoc] at first
  exact attemptText_tells hex ordered reached small
    (before_extension keptExtension_isExtension first also part presentAlso present).symm

/-! ## The search -/

/-- The directory of the files of a sender, or of a group. -/
def incomingDirectory (filesBase : Path) (senderId : PeerId) (groupId : Option String) : Path :=
  filesBase ++ [sanitizeFilename (match groupId with
    | some group => if group = "" then senderId else group
    | none => senderId)]

/-- The part of the digest of an id that goes into the names. -/
def digestPart (crypto : FileCrypto) (fileId : String) : String :=
  String.ofList ((crypto.sha256 (fileId.toList.map fun char => UInt8.ofNat char.toNat)).toList.take 16)

/-- The paths `_incoming_path_for` tries. -/
def triedPath (crypto : FileCrypto) (filesBase : Path) (fileId : String) (senderId : PeerId) (groupId : Option String)
    (filename : String) (createdAt : Time) : Nat → Path :=
  incomingCandidate (incomingDirectory filesBase senderId groupId) (timestampedFilename filename createdAt) (digestPart crypto fileId)

/-- A name that leads neither below a directory nor above it. -/
structure IsComponent (name : String) : Prop where
  present : name ≠ ""
  plain : ∀ char ∈ name.toList, char ≠ '/' ∧ char ≠ '\\'
  notDots : name ≠ "." ∧ name ≠ ".."

variable {crypto : FileCrypto} {files : Dict Path StoredFile} {filesBase : Path} {fileId : String} {senderId : PeerId}
  {groupId : Option String} {createdAt : Time} {inUse : Path → Bool} {candidate : Nat → Path} {fuel : Nat}

theorem incomingPathFor_eq : incomingPathFor crypto files filesBase fileId senderId groupId filename createdAt =
    firstFree files.contains (triedPath crypto filesBase fileId senderId groupId filename createdAt) (files.size + 3) 0 := rfl

/-- The search ends at the first free candidate, or all that it came to are in use. -/
theorem firstFree_cases : (∃ offset < fuel, firstFree inUse candidate fuel attempt = some (candidate (attempt + offset)) ∧
      inUse (candidate (attempt + offset)) = false ∧ ∀ before < offset, inUse (candidate (attempt + before)) = true) ∨
    ∀ offset < fuel, inUse (candidate (attempt + offset)) = true := by
  induction fuel generalizing attempt with
  | zero => exact .inr fun offset below => absurd below (Nat.not_lt_zero offset)
  | succ fuel ih =>
      rw [firstFree]
      cases used : inUse (candidate attempt) with
      | false => exact .inl ⟨0, Nat.succ_pos fuel, rfl, used, fun before below => absurd below (Nat.not_lt_zero before)⟩
      | true =>
          rw [if_pos rfl]
          have shift : ∀ offset, attempt + 1 + offset = attempt + (offset + 1) := fun offset => by omega
          rcases @ih (attempt + 1) with ⟨offset, below, found, free, before⟩ | all
          · rw [shift] at found free
            refine .inl ⟨offset + 1, Nat.succ_lt_succ below, found, free, fun earlier under => ?_⟩
            cases earlier with
            | zero => exact used
            | succ earlier => exact shift earlier ▸ before earlier (Nat.lt_of_succ_lt_succ under)
          · refine .inr fun offset below => ?_
            cases offset with
            | zero => exact used
            | succ offset => exact shift offset ▸ all offset (Nat.lt_of_succ_lt_succ below)

theorem sanitizeFilename_length : (sanitizeFilename name).toList.length ≤ maxFilenameLength + 1 := by
  rw [sanitizeFilename_toList]
  have cut := @truncateFilename_length ((core name).map legalChar)
  unfold named
  split
  · decide
  · split
    · exact Nat.succ_le_succ cut
    · exact Nat.le_succ_of_le cut

theorem sanitizeFilename_isComponent : IsComponent (sanitizeFilename name) where
  present := sanitizeFilename_ne_empty
  plain := by
    intro char member
    have allowed := (sanitizeFilename_legal char member).1
    constructor
    · rintro rfl
      exact allowed (by decide)
    · rintro rfl
      exact allowed (by decide)
  notDots := by
    have first := @sanitizeFilename_head name
    constructor
    · intro same
      rw [same] at first
      exact absurd (first '.' rfl) (by decide)
    · intro same
      rw [same] at first
      exact absurd (first '.' rfl) (by decide)

theorem suffixedFilename_isComponent : IsComponent (suffixedFilename filename suffixText) ∧
    (suffixedFilename filename suffixText).toList.length ≤ maxFilenameLength + 1 := by
  unfold suffixedFilename
  exact ⟨sanitizeFilename_isComponent, sanitizeFilename_length⟩

theorem digestPart_hex (hex : ∀ bytes, isLowerHexOf 64 (crypto.sha256 bytes) = true) : isLowerHexOf 16 (digestPart crypto fileId) = true := by
  have whole := hex (fileId.toList.map fun char => UInt8.ofNat char.toNat)
  simp only [isLowerHexOf, Bool.and_eq_true, decide_eq_true_eq, List.all_eq_true] at whole ⊢
  rw [digestPart, String.toList_ofList, List.length_take, whole.1]
  exact ⟨rfl, fun char member => whole.2 char (List.mem_of_mem_take member)⟩

/-- The names from the third attempt on outnumber the files. -/
theorem exists_free {path : Path} (hex : isLowerHexOf 16 suffix = true) (few : files.size + 2 < 10 ^ 200) :
    ∃ offset < files.size + 3, files.contains (incomingCandidate path name suffix offset) = false := by
  by_contra none
  have used : ∀ offset < files.size + 3, files.contains (incomingCandidate path name suffix offset) = true := fun offset below =>
    Bool.of_not_eq_false fun free => none ⟨offset, below, free⟩
  have distinct : ((List.range (files.size + 1)).map fun offset => incomingCandidate path name suffix (offset + 2)).Nodup := by
    refine List.Nodup.map_on ?_ List.nodup_range
    have differ : ∀ first second, first < second → second < files.size + 1 →
        incomingCandidate path name suffix (first + 2) ≠ incomingCandidate path name suffix (second + 2) := fun first second ordered below =>
      candidates_differ hex (by omega) (by omega) (Nat.lt_of_le_of_lt (by omega) few) (fun one => by omega)
    intro first one second two same
    rcases Nat.lt_trichotomy first second with less | equal | more
    · exact absurd same (differ first second less (List.mem_range.mp two))
    · exact equal
    · exact absurd same.symm (differ second first more (List.mem_range.mp one))
  have within : ((List.range (files.size + 1)).map fun offset => incomingCandidate path name suffix (offset + 2)) ⊆ files.keys := by
    intro found member
    obtain ⟨offset, below, rfl⟩ := List.mem_map.mp member
    have listed := used (offset + 2) (Nat.add_lt_add_right (List.mem_range.mp below) 2)
    obtain ⟨file, stored⟩ := Option.isSome_iff_exists.mp listed
    exact Dict.mem_keys_of_get? stored
  have length := (List.subperm_of_subset distinct within).length_le
  rw [List.length_map, List.length_range, Dict.keys, List.length_map] at length
  exact absurd length (Nat.not_succ_le_self _)

theorem triedPath_inside (crypto : FileCrypto) (filesBase : Path) (fileId : String) (senderId : PeerId) (groupId : Option String)
    (filename : String) (createdAt : Time) (attempt : Nat) : ∃ name, (IsComponent name ∧ name.toList.length ≤ maxFilenameLength + 1) ∧
      triedPath crypto filesBase fileId senderId groupId filename createdAt attempt = incomingDirectory filesBase senderId groupId ++ [name] := by
  unfold triedPath
  match attempt with
  | 0 => exact ⟨timestampedFilename filename createdAt, suffixedFilename_isComponent, rfl⟩
  | 1 => exact ⟨suffixedFilename _ (digestPart crypto fileId), suffixedFilename_isComponent, rfl⟩
  | attempt + 2 => exact ⟨suffixedFilename _ (digestPart crypto fileId ++ "_" ++ toString (attempt + 2)), suffixedFilename_isComponent, rfl⟩

def sampleFileId : String := "0123456789ab4def8123456789abcdef"

/-- A hash that gives the SHA-256 digest of the id. -/
def sampleCrypto : FileCrypto where
  canonical := fun _ => []
  digest := fun bytes => bytes
  sha256 := fun _ => "2cb2601b51d377a562b25e63ba5706bf148ee0a7c6df1cc2b05b03a9ec7de822"
  verify := fun _ _ _ => true

/-- The sixteen digits in the names. -/
def sampleDigits : List Char := "2cb2601b51d377a5".toList

/-- A stem that ends in the digits, as long as can be. -/
def repeatingStem : List Char := List.replicate 232 'a' ++ '_' :: sampleDigits

def textExtension : List Char := ".txt".toList

theorem repeating_fixed {text : List Char} (plain : IsSuffixText text) (length : text.length ≤ 18) :
    sanitizeFilename (String.ofList (List.replicate 232 'a' ++ '_' :: (text ++ textExtension))) =
      String.ofList (List.replicate 232 'a' ++ '_' :: (text ++ textExtension)) := by
  have letters : ∀ char ∈ List.replicate 232 'a', char = 'a' := fun _ member => List.eq_of_mem_replicate member
  have legal : ∀ char ∈ List.replicate 232 'a' ++ '_' :: (text ++ textExtension), isLegal char := by
    intro char member
    rcases List.mem_append.mp member with front | behind
    · rw [letters char front]
      exact ⟨by decide, by decide⟩
    · rcases List.mem_cons.mp behind with rfl | later
      · exact ⟨by decide, by decide⟩
      · exact (List.mem_append.mp later).elim (plain.legal char) ((by decide : ∀ char ∈ textExtension, isLegal char) char)
  have total : (List.replicate 232 'a' ++ '_' :: (text ++ textExtension)).length = 237 + text.length := by
    have four : textExtension.length = 4 := by decide
    simp only [List.length_append, List.length_cons, List.length_replicate, four]
    omega
  have device : ¬ isReserved (List.replicate 232 'a' ++ '_' :: (text ++ textExtension)) := by
    intro reserved
    obtain ⟨front, after, split, -⟩ := (namesDevice_of_isReserved reserved (by omega)).before_underscore
    have dot : '.' ∈ List.replicate 232 'a' := by
      rw [split]
      exact List.mem_append_right _ List.mem_cons_self
    exact absurd (letters '.' dot) (by decide)
  have ends : ∀ drops : Char → Bool, drops 'a' = false → drops 't' = false →
      Trimmed drops (List.replicate 232 'a' ++ '_' :: (text ++ textExtension)) := by
    intro drops first last
    refine ⟨fun char found => ?_, fun char found => ?_⟩
    · rw [List.replicate_succ] at found
      obtain rfl := Option.some.inj found
      exact first
    · have final : (text ++ textExtension).getLast? = some 't' := by
        rw [List.getLast?_append]
        rfl
      rw [List.getLast?_append, List.getLast?_cons, Option.some_or, final] at found
      obtain rfl := Option.some.inj found
      exact last
  refine (fixed_iff (List.append_ne_nil_of_right_ne_nil _ (List.cons_ne_nil _ _)) ?_ legal device).mpr ⟨ends isSpace (by decide) (by decide), ends isSpaceOrDot (by decide) (by decide)⟩
  rw [total]
  exact Nat.add_le_add_left length 237

/-- A suffixed name of a name that is fixed, where the result is fixed as well. -/
theorem suffixedFilename_of_fixed {stem shown extension : List Char} (fixed : sanitizeFilename (String.ofList (stem ++ extension)) =
      String.ofList (stem ++ extension)) (suffixOf : pathSuffix (stem ++ extension) = extension)
    (shownOf : shownStem stem (max 1 (maxFilenameLength - text.length - extension.length - 1)) = shown)
    (result : sanitizeFilename (String.ofList (shown ++ '_' :: (text ++ extension))) = String.ofList (shown ++ '_' :: (text ++ extension))) :
    suffixedFilename (String.ofList (stem ++ extension)) (String.ofList text) = String.ofList (shown ++ '_' :: (text ++ extension)) := by
  have split : (sanitizeFilename (String.ofList (stem ++ extension))).toList =
      stem ++ pathSuffix (sanitizeFilename (String.ofList (stem ++ extension))).toList := by
    rw [fixed, String.toList_ofList, suffixOf]
  rw [suffixedFilename_eq split, fixed]
  simp only [String.toList_ofList, suffixOf, shownOf]
  exact result

def repeatingName : String := String.ofList (repeatingStem ++ textExtension)

theorem pathSuffix_textExtension {stem : List Char} (present : stem ≠ []) : pathSuffix (stem ++ textExtension) = textExtension := by
  have dotted : rpartitionDot (stem ++ textExtension) = some (stem, "txt".toList) := rpartitionDot_last (by decide)
  rw [pathSuffix, dotted]
  exact if_pos ⟨present, by decide⟩

/-- A stem is shown as it is when there is just room for it and no padding at its end. -/
theorem shownStem_of_prefix {stem shown : List Char} (front : shown <+: stem) (present : shown ≠ [])
    (bare : ∀ char ∈ shown.getLast?, isSuffixPadding char = false) : shownStem stem shown.length = shown := by
  have kept : (stem.take shown.length).rdropWhile isSuffixPadding = shown := by
    rw [← List.prefix_iff_eq_take.mp front, List.rdropWhile_eq_self_iff]
    intro nonempty
    rw [bare _ (List.getLast?_eq_some_getLast nonempty)]
    exact Bool.false_ne_true
  unfold shownStem
  dsimp only
  rw [kept, if_neg present]

theorem repeatingStem_append (text : List Char) :
    repeatingStem ++ text = List.replicate 232 'a' ++ '_' :: (sampleDigits ++ text) := by
  unfold repeatingStem
  generalize List.replicate 232 'a' = letters
  rw [List.append_assoc, List.cons_append]

theorem repeatingStem_length : repeatingStem.length = 249 := by
  unfold repeatingStem
  rw [List.length_append, List.length_replicate]
  rfl

theorem sampleDigits_plain : IsSuffixText sampleDigits ∧ IsSuffixText (sampleDigits ++ ['_', '2']) := by
  unfold IsSuffixText
  decide

theorem timestamped_repeatingName : timestampedFilename repeatingName 2 =
    String.ofList (List.replicate 232 'a' ++ '_' :: (sampleDigits ++ ['_', '2'] ++ textExtension)) := by
  have time : toString (2 : Time).floor.toNat = String.ofList ['2'] := by decide
  have whole : repeatingStem ++ '_' :: (['2'] ++ textExtension) =
      List.replicate 232 'a' ++ '_' :: (sampleDigits ++ ['_', '2'] ++ textExtension) := by
    rw [repeatingStem_append, List.append_assoc]
    rfl
  rw [timestampedFilename, time, repeatingName, ← whole]
  refine suffixedFilename_of_fixed ?_ (pathSuffix_textExtension ?_) ?_ ?_
  · rw [repeatingStem_append]
    exact repeating_fixed sampleDigits_plain.1 (by decide)
  · exact List.ne_nil_of_length_eq_add_one repeatingStem_length
  · have room : max 1 (maxFilenameLength - ['2'].length - textExtension.length - 1) = repeatingStem.length := by
      rw [repeatingStem_length]
      decide
    rw [room]
    refine shownStem_of_prefix (List.prefix_refl _) (List.ne_nil_of_length_eq_add_one repeatingStem_length) fun char found => ?_
    unfold repeatingStem at found
    rw [List.getLast?_append] at found
    obtain rfl := Option.some.inj found
    decide
  · rw [whole]
    exact repeating_fixed sampleDigits_plain.2 (by decide)

theorem timestamped_again : suffixedFilename (timestampedFilename repeatingName 2) (String.ofList (sampleDigits ++ ['_', '2'])) =
    timestampedFilename repeatingName 2 := by
  have stem : List.replicate 232 'a' ++ '_' :: (sampleDigits ++ ['_', '2'] ++ textExtension) =
      repeatingStem ++ ['_', '2'] ++ textExtension := by
    rw [repeatingStem_append]
    generalize List.replicate 232 'a' = letters
    rw [List.append_assoc letters, List.cons_append]
  have fixed := repeating_fixed sampleDigits_plain.2 (by decide)
  have front : List.replicate 232 'a' <+: repeatingStem ++ ['_', '2'] := by
    rw [repeatingStem_append]
    exact List.prefix_append _ _
  have room : max 1 (maxFilenameLength - (sampleDigits ++ ['_', '2']).length - textExtension.length - 1) =
      (List.replicate 232 'a').length := by
    rw [List.length_replicate]
    decide
  rw [timestamped_repeatingName]
  rw [stem] at fixed
  have made := @suffixedFilename_of_fixed (sampleDigits ++ ['_', '2']) (repeatingStem ++ ['_', '2']) (List.replicate 232 'a') textExtension
    fixed (pathSuffix_textExtension (List.append_ne_nil_of_right_ne_nil _ (List.cons_ne_nil _ _))) (by
      rw [room]
      refine shownStem_of_prefix front (by rw [List.replicate_succ]; exact List.cons_ne_nil _ _) fun char found => ?_
      rw [List.eq_of_mem_replicate (List.mem_of_mem_getLast? found)]
      decide) (repeating_fixed sampleDigits_plain.2 (by decide))
  rwa [← stem] at made

/-- Names of a bounded length are finitely many. -/
theorem finite_names (bound : Nat) : { name : String | name.toList.length ≤ bound }.Finite := by
  have chars : Finite Char := Finite.of_injective (fun char : Char => char.val.toFin) fun first second same =>
    Char.ext (UInt32.toFin_inj.mp same)
  exact Set.Finite.preimage (fun first _ second _ same => String.toList_injective same) (List.finite_length_le Char bound)

/-- Any finitely many paths can be those of files. -/
theorem exists_files {paths : Set Path} (finite : paths.Finite) : ∃ files : Dict Path StoredFile, ∀ path ∈ paths, files.contains path = true := by
  let entries : List (Path × StoredFile) := finite.toFinset.toList.map fun path => (path, ⟨[], 0⟩)
  have keys : entries.map Prod.fst = finite.toFinset.toList := by
    rw [List.map_map]
    exact List.map_id _
  have distinct : (entries.map Prod.fst).Nodup := keys ▸ finite.toFinset.nodup_toList
  refine ⟨⟨entries, distinct⟩, fun path member => ?_⟩
  have listed : (path, (⟨[], 0⟩ : StoredFile)) ∈ entries :=
    List.mem_map.mpr ⟨path, Finset.mem_toList.mpr (finite.mem_toFinset.mpr member), rfl⟩
  exact Option.isSome_of_eq_some ((Dict.lookup_eq_some_iff distinct).mpr listed)

end MeshTalk.Deliveries
