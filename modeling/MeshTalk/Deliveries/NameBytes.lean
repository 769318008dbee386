import MeshTalk.Deliveries.Filenames
import MeshTalk.Protocol.JsonText

namespace MeshTalk.Deliveries

open MeshTalk.Library MeshTalk.Protocol MeshTalk.Files MeshTalk.Store

/-! # The bytes of the names the file manager creates

`sanitize_filename` counts characters and a directory counts bytes.  A name gets
longer on the way to the disk: the snapshot is written under a hidden name first, and an
incoming file gets the creation time and, on a collision, a part of a digest.
-/

/-- The longest name a directory takes, in bytes. -/
def maxComponentBytes : Nat := 255

/-- The hidden name `_snapshot_with_hash` writes to, next to the destination. -/
def temporaryPathFor (destination : Path) (uuid : String) : Path :=
  destination.dropLast ++ ["." ++ destination.getLastD "" ++ "." ++ uuid ++ ".tmp"]

/-- The last component of a path fits in a directory. -/
def FitsDirectory (path : Path) : Prop := ∀ component ∈ path.getLast?, byteCount component.toList ≤ maxComponentBytes

/-- What the file manager creates for a name, with any file, creation time and number of collisions. -/
structure FitsDirectories (name : String) : Prop where
  snapshot : ∀ filesBase fileId, FitsDirectory (outgoingPathFor filesBase fileId name)
  hidden : ∀ filesBase fileId uuid, isLowerHexOf 32 uuid = true →
    FitsDirectory (temporaryPathFor (outgoingPathFor filesBase fileId name) uuid)
  incoming : ∀ base createdAt suffix attempt, isLowerHexOf 16 suffix = true →
    FitsDirectory (incomingCandidate base (timestampedFilename name createdAt) suffix attempt)

/-- A name with room for what is put around it, in characters of one byte. -/
structure Roomy (name : String) : Prop where
  room : byteCount (sanitizeFilename name).toList ≤ 217
  ascii : ∀ char ∈ (sanitizeFilename name).toList, char.toNat < 128

variable {name filename suffixText : String} {text rest base : List Char} {char : Char}

/-! ## Bytes and characters -/

theorem utf8Size_eq_one : char.utf8Size = 1 ↔ char.toNat < 128 := by
  rw [Char.utf8Size_eq_one_iff, UInt32.le_iff_toNat_le]
  exact Nat.lt_succ_iff.symm

theorem length_le_byteCount : text.length ≤ byteCount text := by
  induction text with
  | nil => exact Nat.le_refl _
  | cons char rest ih =>
      have positive := char.utf8Size_pos
      rw [List.length_cons, byteCount_cons]
      omega

theorem byteCount_of_ascii (ascii : ∀ char ∈ text, char.toNat < 128) : byteCount text = text.length := by
  induction text with
  | nil => rfl
  | cons char rest ih =>
      rw [byteCount_cons, utf8Size_eq_one.mpr (ascii char (List.mem_cons_self ..)),
        ih fun other member => ascii other (List.mem_cons_of_mem _ member), List.length_cons]
      omega

/-- One character of more than a byte makes a text longer than it counts. -/
theorem length_lt_byteCount (member : char ∈ text) (wide : ¬ char.toNat < 128) : text.length < byteCount text := by
  induction text with
  | nil => cases member
  | cons first rest ih =>
      have positive := first.utf8Size_pos
      rw [List.length_cons, byteCount_cons]
      rcases List.mem_cons.mp member with rfl | later
      · have many : char.utf8Size ≠ 1 := fun one => wide (utf8Size_eq_one.mp one)
        have rest := @length_le_byteCount rest
        omega
      · have more := ih later
        omega

theorem isLowerHex_ascii (hex : isLowerHex char = true) : char.toNat < 128 := by
  simp only [isLowerHex, Bool.or_eq_true, Bool.and_eq_true, decide_eq_true_eq] at hex
  rcases hex with letter | digit
  · exact Nat.lt_of_le_of_lt (show char.toNat ≤ 'f'.toNat from letter.2) (by decide)
  · exact Nat.lt_of_le_of_lt (show char.toNat ≤ '9'.toNat from digit.2) (by decide)

theorem isLowerHexOf_ascii {length : Nat} (hex : isLowerHexOf length filename = true) :
    filename.toList.length = length ∧ ∀ char ∈ filename.toList, char.toNat < 128 := by
  simp only [isLowerHexOf, Bool.and_eq_true, decide_eq_true_eq, List.all_eq_true] at hex
  exact ⟨hex.1, fun char member => isLowerHex_ascii (hex.2 char member)⟩

theorem digits_ascii {count : Nat} (member : char ∈ Nat.toDigits 10 count) : char.toNat < 128 := by
  have digit := Nat.isDigit_of_mem_toDigits (by decide) (by decide) member
  simp only [Char.isDigit, Bool.and_eq_true, decide_eq_true_eq] at digit
  exact Nat.lt_of_le_of_lt (show char.toNat ≤ '9'.toNat from digit.2) (by decide)

theorem toString_toList {count : Nat} : (toString count).toList = Nat.toDigits 10 count := by
  rw [Nat.toString_eq_ofList_toDigits, String.toList_ofList]

/-- There is a number of any count of digits. -/
theorem length_toDigits_pow {count : Nat} : (Nat.toDigits 10 (10 ^ count)).length = count + 1 := by
  refine le_antisymm ?_ ?_
  · rw [Nat.length_toDigits_le_iff (by decide) (by omega)]
    exact Nat.pow_lt_pow_succ (by decide)
  · cases count with
    | zero => exact Nat.length_toDigits_pos
    | succ count =>
        by_contra few
        have small := (Nat.length_toDigits_le_iff (show 1 < 10 by decide) (Nat.succ_pos count)).mp
          (Nat.lt_succ_iff.mp (Nat.not_le.mp few))
        exact absurd small (Nat.lt_irrefl _)

/-! ## Names of devices -/

/-- The text names a device and goes on after a dot. -/
def NamesDevice (text : List Char) : Prop :=
  ∃ device after, text = device ++ '.' :: after ∧ '.' ∉ device ∧ device.map Char.toUpper ∈ reservedFilenames

theorem NamesDevice.isReserved (names : NamesDevice text) : isReserved text := by
  obtain ⟨device, after, rfl, plain, listed⟩ := names
  have whole : (device ++ '.' :: after).takeWhile (· ≠ '.') = device := by
    rw [List.takeWhile_append_of_pos, List.takeWhile_cons_of_neg (by simp), List.append_nil]
    intro char member
    refine decide_eq_true ?_
    rintro rfl
    exact plain member
  rwa [Protocol.isReserved, whole]

/-- A text that is longer than any device has a dot behind the device it names. -/
theorem namesDevice_of_isReserved (reserved : isReserved text) (long : 4 < text.length) : NamesDevice text := by
  have small : ∀ device ∈ reservedFilenames, device.length ≤ 4 := by decide
  have bounded := small _ reserved
  rw [List.length_map] at bounded
  have split := List.takeWhile_append_dropWhile (p := (· ≠ '.')) (l := text)
  cases after : text.dropWhile (· ≠ '.') with
  | nil =>
      rw [after, List.append_nil] at split
      rw [split] at bounded
      omega
  | cons head tail =>
      have dot : head = '.' := by
        have stopped := List.head?_dropWhile_not (· ≠ '.') text
        rw [after] at stopped
        simpa using stopped
      rw [after, dot] at split
      refine ⟨_, tail, split.symm, fun member => ?_, reserved⟩
      have kept := List.mem_takeWhile_imp member
      simp at kept

theorem NamesDevice.mono (names : NamesDevice text) (front : text <+: rest) : NamesDevice rest := by
  obtain ⟨device, after, rfl, plain, listed⟩ := names
  obtain ⟨more, rfl⟩ := front
  exact ⟨device, after ++ more, by rw [List.append_assoc, List.cons_append], plain, listed⟩

/-- No device has an underscore, so the dot comes first. -/
theorem NamesDevice.before_underscore (names : NamesDevice (text ++ '_' :: rest)) : NamesDevice text := by
  obtain ⟨device, after, split, plain, listed⟩ := names
  have letters : ∀ device ∈ reservedFilenames, '_' ∉ device := by decide
  rcases List.append_eq_append_iff.mp split with ⟨middle, rfl, behind⟩ | ⟨middle, rfl, behind⟩
  · cases middle with
    | nil =>
        have same := List.cons.inj behind
        exact absurd same.1 (by decide)
    | cons head tail =>
        obtain rfl := (List.cons.inj behind).1
        refine absurd ?_ (letters _ listed)
        exact List.mem_map.mpr ⟨'_', List.mem_append_right _ (List.mem_cons_self ..), by decide⟩
  · cases middle with
    | nil =>
        have same := List.cons.inj behind
        exact absurd same.1 (by decide)
    | cons head tail =>
        obtain rfl := (List.cons.inj behind).1
        exact ⟨device, tail, rfl, plain, listed⟩

/-! ## What `sanitize_filename` makes of a text -/

theorem trim_starts {drops : Char → Bool} (kept : ∀ char ∈ text.head?, drops char = false) : trim drops text <+: text := by
  have front : text.dropWhile drops = text := by
    cases text with
    | nil => rfl
    | cons first rest => exact List.dropWhile_cons_of_neg (by rw [kept first rfl]; exact Bool.false_ne_true)
  rw [trim, front]
  exact List.rdropWhile_prefix drops text

theorem legalChar_ascii (ascii : char.toNat < 128) : (legalChar char).toNat < 128 := by
  unfold legalChar
  split
  · decide
  · exact ascii

theorem named_ascii (ascii : ∀ char ∈ base, char.toNat < 128) : ∀ char ∈ named base, char.toNat < 128 := by
  unfold named
  split
  · decide
  · split
    · intro char member
      rcases List.mem_cons.mp member with rfl | kept
      · decide
      · exact ascii char kept
    · exact ascii

theorem sanitizeFilename_ascii (ascii : ∀ char ∈ name.toList, char.toNat < 128) :
    ∀ char ∈ (sanitizeFilename name).toList, char.toNat < 128 := by
  rw [sanitizeFilename_toList]
  refine named_ascii fun char member => ?_
  obtain ⟨original, kept, rfl⟩ := List.mem_map.mp (truncateFilename_subset member)
  refine legalChar_ascii (ascii original ?_)
  have component := trim_sublist.subset (trim_sublist.subset kept)
  exact List.mem_reverse.mp ((List.takeWhile_prefix _).subset (List.mem_reverse.mp component))

theorem sanitizeFilename_head : ∀ char ∈ (sanitizeFilename name).toList.head?, isSpaceOrDot char = false := by
  have trimmed : Trimmed isSpaceOrDot ((core name).map legalChar) := by
    rw [core, ← trim_map fun _ => legalChar_spaceOrDot]
    exact trim_trimmed
  have first : ∀ char ∈ (truncateFilename ((core name).map legalChar)).head?, isSpaceOrDot char = false := by
    rw [(truncateFilename_ends trimmed).1]
    exact trimmed.first
  rw [sanitizeFilename_toList]
  unfold named
  split
  · decide
  · split
    · intro char found
      obtain rfl := Option.some.inj found
      decide
    · exact first

/-- Of the characters of one byte only the blank is white space and allowed. -/
theorem isSpace_of_ascii (ascii : char.toNat < 128) (legal : isLegal char) (kept : isSpaceOrDot char = false) :
    isSpace char = false := by
  have printable := legal.2
  have blank : char.toNat ≠ 32 := by
    intro code
    have same : char = ' ' := Char.toNat_inj.mp code
    rw [same] at kept
    exact absurd kept (by decide)
  by_contra spaced
  rw [Bool.not_eq_false] at spaced
  simp only [isSpace, Bool.or_eq_true, Bool.and_eq_true, decide_eq_true_eq] at spaced
  omega

/-- A text that neither begins with a blank nor names a device is cut to what a name may have. -/
theorem sanitizeFilename_short (legal : ∀ char ∈ text, isLegal char)
    (first : ∀ char ∈ text.head?, isSpace char = false ∧ isSpaceOrDot char = false) (device : ¬ NamesDevice text) :
    (sanitizeFilename (String.ofList text)).toList.length ≤ maxFilenameLength := by
  have front : core (String.ofList text) <+: text := by
    rw [core_of_legal legal]
    have inner : trim isSpace text <+: text := trim_starts fun char found => (first char found).1
    refine (trim_starts fun char found => ?_).trans inner
    obtain ⟨more, whole⟩ := inner
    refine (first char ?_).2
    rw [← whole, List.head?_append, Option.mem_def.mp found]
    rfl
  rw [sanitizeFilename_toList, named_short truncateFilename_length, fits_iff]
  intro full reserved
  have long : 4 < ((core (String.ofList text)).take maxFilenameLength).length := by
    rw [List.length_take_of_le full]
    decide
  exact absurd (((namesDevice_of_isReserved reserved long).mono (List.take_prefix _ _)).mono front) device

/-! ## Names with a suffix -/

/-- The characters of creation times and digests, and of what joins them. -/
def IsSuffixText (text : List Char) : Prop := ∀ char ∈ text, isLowerHex char = true ∨ char = '_'

theorem IsSuffixText.ascii (plain : IsSuffixText text) : ∀ char ∈ text, char.toNat < 128 := by
  intro char member
  rcases plain char member with hex | rfl
  · exact isLowerHex_ascii hex
  · decide

theorem IsSuffixText.legal (plain : IsSuffixText text) : ∀ char ∈ text, isLegal char := by
  have excluded : ∀ illegal ∈ illegalFilenameChars, isLowerHex illegal = false ∧ illegal ≠ '_' := by decide
  intro char member
  rcases plain char member with hex | rfl
  · refine ⟨fun listed => ?_, ?_⟩
    · rw [(excluded char listed).1] at hex
      cases hex
    · simp only [isLowerHex, Bool.or_eq_true, Bool.and_eq_true, decide_eq_true_eq] at hex
      rcases hex with letter | digit
      · exact Nat.le_trans (by decide) (show 'a'.toNat ≤ char.toNat from letter.1)
      · exact Nat.le_trans (by decide) (show '0'.toNat ≤ char.toNat from digit.1)
  · exact ⟨by decide, by decide⟩

/-- Neither end of such a text is trimmed. -/
theorem IsSuffixText.kept (plain : IsSuffixText text) (member : char ∈ text) : isSpaceOrDot char = false ∧ isSpace char = false := by
  have noDot : isSpaceOrDot char = false := by
    rcases plain char member with hex | rfl
    · by_contra dropped
      simp only [isSpaceOrDot, Bool.not_eq_false, Bool.or_eq_true, decide_eq_true_eq] at dropped
      rcases dropped with rfl | rfl
      · exact absurd hex (by decide)
      · exact absurd hex (by decide)
    · decide
  exact ⟨noDot, isSpace_of_ascii (plain.ascii char member) (plain.legal char member) noDot⟩

theorem isSuffixText_digits {count : Nat} : IsSuffixText (Nat.toDigits 10 count) := by
  intro char member
  have digit := Nat.isDigit_of_mem_toDigits (by decide) (by decide) member
  simp only [Char.isDigit, Bool.and_eq_true, decide_eq_true_eq] at digit
  refine .inl ?_
  simp only [isLowerHex, Bool.or_eq_true, Bool.and_eq_true, decide_eq_true_eq]
  exact .inr ⟨digit.1, digit.2⟩

theorem isSuffixText_hex {length : Nat} (hex : isLowerHexOf length filename = true) : IsSuffixText filename.toList := by
  simp only [isLowerHexOf, Bool.and_eq_true, List.all_eq_true] at hex
  exact fun char member => .inl (hex.2 char member)

theorem pathSuffix_suffix : ∃ stem, text = stem ++ pathSuffix text := by
  unfold pathSuffix
  by_cases dotted : '.' ∈ text
  · obtain ⟨stem, extension, rfl, plain⟩ := exists_extension dotted
    rw [rpartitionDot_last plain]
    dsimp only
    split
    · exact ⟨stem, rfl⟩
    · exact ⟨_, (List.append_nil _).symm⟩
  · rw [rpartitionDot, if_neg dotted]
    exact ⟨text, (List.append_nil _).symm⟩

/-- What is shown of a stem before the underscore. -/
def shownStem (stem : List Char) (available : Nat) : List Char :=
  let trimmed := (stem.take available).rdropWhile isSuffixPadding
  if trimmed = [] then "file".toList else trimmed

theorem suffixedFilename_eq {stem : List Char} (split : (sanitizeFilename filename).toList = stem ++ pathSuffix (sanitizeFilename filename).toList) :
    suffixedFilename filename suffixText = sanitizeFilename (String.ofList
      (shownStem stem (max 1 (maxFilenameLength - suffixText.toList.length - (pathSuffix (sanitizeFilename filename).toList).length - 1)) ++
        '_' :: (suffixText.toList ++ pathSuffix (sanitizeFilename filename).toList))) := by
  have front : (sanitizeFilename filename).toList.take
      ((sanitizeFilename filename).toList.length - (pathSuffix (sanitizeFilename filename).toList).length) = stem := by
    have length := congrArg List.length split
    rw [List.length_append] at length
    have count : (sanitizeFilename filename).toList.length - (pathSuffix (sanitizeFilename filename).toList).length = stem.length := by
      omega
    rw [count, split, List.take_left]
  unfold suffixedFilename
  dsimp only
  rw [front, List.append_assoc]
  rfl

theorem shownStem_cases (stem : List Char) (available : Nat) :
    shownStem stem available = "file".toList ∨ shownStem stem available ≠ [] ∧ shownStem stem available <+: stem := by
  unfold shownStem
  dsimp only
  split
  · exact .inl rfl
  · rename_i present
    exact .inr ⟨present, (List.rdropWhile_prefix _ _).trans (List.take_prefix _ _)⟩

/-- The text that a suffixed name is sanitized from. -/
theorem suffixed_parts {shown suffix : List Char} (shownOf : shown = "file".toList ∨ shown ≠ [] ∧ shown <+: (sanitizeFilename filename).toList)
    (suffixOf : suffix ⊆ (sanitizeFilename filename).toList) (plain : IsSuffixText text) :
    (∀ char ∈ shown ++ '_' :: (text ++ suffix), isLegal char) ∧ ¬ NamesDevice (shown ++ '_' :: (text ++ suffix)) := by
  refine ⟨fun char member => ?_, fun names => ?_⟩
  · rcases List.mem_append.mp member with front | behind
    · rcases shownOf with rfl | ⟨-, front'⟩
      · exact (show ∀ char ∈ "file".toList, isLegal char by decide) char front
      · exact sanitizeFilename_legal char (front'.subset front)
    · rcases List.mem_cons.mp behind with rfl | later
      · exact ⟨by decide, by decide⟩
      · exact (List.mem_append.mp later).elim (plain.legal char) fun last => sanitizeFilename_legal char (suffixOf last)
  · have before := names.before_underscore
    rcases shownOf with rfl | ⟨-, front⟩
    · exact absurd before.isReserved (by decide)
    · exact sanitizeFilename_not_reserved (before.mono front).isReserved

/-- A suffixed name of characters of one byte fits. -/
theorem suffixedFilename_fits (ascii : ∀ char ∈ (sanitizeFilename filename).toList, char.toNat < 128)
    (plain : IsSuffixText suffixText.toList) : byteCount (suffixedFilename filename suffixText).toList ≤ maxComponentBytes ∧
      ∀ char ∈ (suffixedFilename filename suffixText).toList, char.toNat < 128 := by
  obtain ⟨stem, split⟩ := @pathSuffix_suffix (sanitizeFilename filename).toList
  have suffixOf : pathSuffix (sanitizeFilename filename).toList ⊆ (sanitizeFilename filename).toList := by
    intro char member
    rw [split]
    exact List.mem_append_right _ member
  rw [suffixedFilename_eq split]
  generalize max 1 (maxFilenameLength - suffixText.toList.length - (pathSuffix (sanitizeFilename filename).toList).length - 1) = available
  have shownOf : shownStem stem available = "file".toList ∨
      shownStem stem available ≠ [] ∧ shownStem stem available <+: (sanitizeFilename filename).toList := by
    refine (shownStem_cases stem available).imp_right fun ⟨present, front⟩ => ⟨present, front.trans ?_⟩
    rw [split]
    exact List.prefix_append _ _
  obtain ⟨legal, device⟩ := suffixed_parts shownOf suffixOf plain
  generalize shownStem stem available = shown at shownOf legal device ⊢
  have first : ∀ char ∈ (shown ++ '_' :: (suffixText.toList ++ pathSuffix (sanitizeFilename filename).toList)).head?,
      isSpace char = false ∧ isSpaceOrDot char = false := by
    intro char found
    rcases shownOf with rfl | ⟨present, front⟩
    · obtain rfl := Option.some.inj found
      decide
    · obtain ⟨more, whole⟩ := front
      obtain ⟨head, tail, rfl⟩ := List.exists_cons_of_ne_nil present
      obtain rfl := Option.some.inj found
      have found : head ∈ (sanitizeFilename filename).toList.head? := by
        rw [← whole]
        rfl
      have kept := sanitizeFilename_head head found
      have member := List.mem_of_mem_head? found
      exact ⟨isSpace_of_ascii (ascii head member) (sanitizeFilename_legal head member) kept, kept⟩
  have single : ∀ char ∈ shown ++ '_' :: (suffixText.toList ++ pathSuffix (sanitizeFilename filename).toList), char.toNat < 128 := by
    intro char member
    rcases List.mem_append.mp member with front | behind
    · rcases shownOf with rfl | ⟨-, front'⟩
      · exact (show ∀ char ∈ "file".toList, char.toNat < 128 by decide) char front
      · exact ascii char (front'.subset front)
    · rcases List.mem_cons.mp behind with rfl | later
      · decide
      · exact (List.mem_append.mp later).elim (plain.ascii char) fun last => ascii char (suffixOf last)
  have result := @sanitizeFilename_ascii (String.ofList (shown ++ '_' :: (suffixText.toList ++ pathSuffix (sanitizeFilename filename).toList)))
    (by rwa [String.toList_ofList])
  refine ⟨?_, result⟩
  rw [byteCount_of_ascii result]
  exact sanitizeFilename_short legal first device

/-! ## Paths -/

theorem fitsDirectory_append {filesBase : Path} : FitsDirectory (filesBase ++ [name]) ↔ byteCount name.toList ≤ maxComponentBytes := by
  unfold FitsDirectory
  rw [List.getLast?_append]
  exact ⟨fun fits => fits name rfl, fun fits component found => Option.some.inj found ▸ fits⟩

theorem outgoingPathFor_eq {filesBase : Path} {fileId : String} :
    outgoingPathFor filesBase fileId name = (filesBase ++ ["sent", fileId]) ++ [sanitizeFilename name] := by
  rw [outgoingPathFor, List.append_assoc]
  rfl

theorem outgoingPathFor_last {filesBase : Path} {fileId : String} :
    FitsDirectory (outgoingPathFor filesBase fileId name) ↔ byteCount (sanitizeFilename name).toList ≤ maxComponentBytes := by
  rw [outgoingPathFor_eq, fitsDirectory_append]

theorem temporaryPathFor_last {filesBase : Path} {fileId uuid : String} (hex : isLowerHexOf 32 uuid = true) :
    FitsDirectory (temporaryPathFor (outgoingPathFor filesBase fileId name) uuid) ↔
      byteCount (sanitizeFilename name).toList + 38 ≤ maxComponentBytes := by
  have last : (outgoingPathFor filesBase fileId name).getLastD "" = sanitizeFilename name := by
    rw [outgoingPathFor_eq, List.getLastD_concat]
  obtain ⟨length, ascii⟩ := isLowerHexOf_ascii hex
  have dots : byteCount ".".toList = 1 ∧ byteCount ".tmp".toList = 4 := by decide
  rw [temporaryPathFor, fitsDirectory_append, last]
  simp only [String.toList_append, byteCount_append, byteCount_of_ascii ascii, length, dots.1, dots.2]
  omega

/-- Every name the manager tries for an incoming file has one byte for each character. -/
theorem incoming_fits {suffix : String} {filesBase : Path} {createdAt : Time}
    (ascii : ∀ char ∈ (sanitizeFilename name).toList, char.toNat < 128) (hex : isLowerHexOf 16 suffix = true) :
    ∀ attempt, FitsDirectory (incomingCandidate filesBase (timestampedFilename name createdAt) suffix attempt) := by
  have time : IsSuffixText (toString createdAt.floor.toNat).toList := by
    rw [toString_toList]
    exact isSuffixText_digits
  obtain ⟨fits, single⟩ := suffixedFilename_fits ascii time
  have again := sanitizeFilename_ascii single
  intro attempt
  match attempt with
  | 0 => exact fitsDirectory_append.mpr fits
  | 1 => exact fitsDirectory_append.mpr (suffixedFilename_fits again (isSuffixText_hex hex)).1
  | attempt + 2 =>
      refine fitsDirectory_append.mpr (suffixedFilename_fits again ?_).1
      have parts : (suffix ++ "_" ++ toString (attempt + 2)).toList = suffix.toList ++ '_' :: Nat.toDigits 10 (attempt + 2) := by
        rw [String.toList_append, String.toList_append, toString_toList, List.append_assoc]
        rfl
      rw [parts]
      intro char member
      rcases List.mem_append.mp member with front | behind
      · exact isSuffixText_hex hex char front
      · exact (List.mem_cons.mp behind).elim .inr fun later => isSuffixText_digits char later

/-! ## A creation time that fills the name -/

theorem mem_rdropWhile {drops : Char → Bool} (member : char ∈ text) (kept : drops char = false) : char ∈ text.rdropWhile drops := by
  rw [List.rdropWhile, List.mem_reverse]
  have whole := List.takeWhile_append_dropWhile (p := drops) (l := text.reverse)
  have inside : char ∈ text.reverse.takeWhile drops ++ text.reverse.dropWhile drops := by
    rw [whole]
    exact List.mem_reverse.mpr member
  refine (List.mem_append.mp inside).resolve_left fun dropped => ?_
  have padding := List.mem_takeWhile_imp dropped
  rw [kept] at padding
  cases padding

/-- All of a stem is shown when there is just room for it. -/
theorem shownStem_whole (stem : List Char) : ∃ shown, shownStem stem shown.length = shown ∧ 1 ≤ shown.length ∧
    (shown = "file".toList ∨ shown ≠ [] ∧ shown <+: stem) ∧ shown.length ≤ stem.length + 4 ∧
      ∀ char ∈ stem, isSuffixPadding char = false → char ∈ shown := by
  by_cases nothing : stem.rdropWhile isSuffixPadding = []
  · have padded : ∀ char ∈ stem, isSuffixPadding char = true := List.rdropWhile_eq_nil_iff.mp nothing
    have fewer : (stem.take 4).rdropWhile isSuffixPadding = [] :=
      List.rdropWhile_eq_nil_iff.mpr fun char member => padded char (List.mem_of_mem_take member)
    refine ⟨"file".toList, ?_, by decide, .inl rfl, Nat.le_add_left 4 _, fun char member kept => ?_⟩
    · exact if_pos fewer
    · rw [padded char member] at kept
      cases kept
  · have front := List.rdropWhile_prefix isSuffixPadding stem
    have same : (stem.take (stem.rdropWhile isSuffixPadding).length).rdropWhile isSuffixPadding = stem.rdropWhile isSuffixPadding := by
      rw [← List.prefix_iff_eq_take.mp front]
      exact List.rdropWhile_idempotent isSuffixPadding stem
    refine ⟨stem.rdropWhile isSuffixPadding, ?_, List.length_pos_iff.mpr nothing, .inr ⟨nothing, front⟩,
      Nat.le_trans front.length_le (Nat.le_add_right _ _), fun char member kept => mem_rdropWhile member kept⟩
    unfold shownStem
    dsimp only
    rw [same, if_neg nothing]

/-- The ends of a suffixed name are those of the name, or of what is put into it. -/
theorem trimmed_suffixed {drops : Char → Bool} {shown suffix stem : List Char} (trimmed : Trimmed drops (stem ++ suffix))
    (file : drops 'f' = false) (plain : ∀ char ∈ text, drops char = false) (present : text ≠ [])
    (shownOf : shown = "file".toList ∨ shown ≠ [] ∧ shown <+: stem) : Trimmed drops (shown ++ '_' :: (text ++ suffix)) where
  first := by
    intro char found
    rcases shownOf with rfl | ⟨nonempty, more, whole⟩
    · obtain rfl := Option.some.inj found
      exact file
    · obtain ⟨head, tail, rfl⟩ := List.exists_cons_of_ne_nil nonempty
      obtain rfl := Option.some.inj found
      refine trimmed.first head ?_
      rw [← whole]
      rfl
  last := by
    intro char found
    rw [List.getLast?_append, List.getLast?_cons, Option.some_or] at found
    obtain rfl := Option.some.inj found
    cases suffix with
    | nil =>
        rw [List.append_nil]
        have last := List.getLast_mem present
        rw [List.getLast?_eq_some_getLast present]
        exact plain _ last
    | cons head tail =>
        refine trimmed.last _ ?_
        rw [List.getLast?_append, List.getLast?_append, List.getLast?_cons]
        simp

/-- A character of more than a byte is too much for some creation time. -/
theorem wide_overflows (fixed : sanitizeFilename name = name) (short : name.toList.length ≤ 217) (member : char ∈ name.toList)
    (wide : ¬ char.toNat < 128) : ∃ createdAt, maxComponentBytes < byteCount (timestampedFilename name createdAt).toList := by
  obtain ⟨stem, split⟩ := @pathSuffix_suffix name.toList
  obtain ⟨shown, whole, positive, shownOf, bounded, keeps⟩ := shownStem_whole stem
  have length := congrArg List.length split
  rw [List.length_append] at length
  let count := 253 - shown.length - (pathSuffix name.toList).length
  have time : (toString (((10 ^ count : Nat) : Int) : Rat).floor.toNat).toList = Nat.toDigits 10 (10 ^ count) := by
    rw [toString_toList, Rat.floor_intCast, Int.toNat_natCast]
  refine ⟨((10 ^ count : Nat) : Int), ?_⟩
  have digits := @isSuffixText_digits (10 ^ count)
  have digitsLength : (Nat.toDigits 10 (10 ^ count)).length = count + 1 := length_toDigits_pow
  have digitsPresent : Nat.toDigits 10 (10 ^ count) ≠ [] := Nat.toDigits_ne_nil
  have available : max 1 (maxFilenameLength - (Nat.toDigits 10 (10 ^ count)).length - (pathSuffix name.toList).length - 1) =
      shown.length := by
    rw [digitsLength]
    simp only [maxFilenameLength, count]
    omega
  have splitSafe : (sanitizeFilename name).toList = stem ++ pathSuffix (sanitizeFilename name).toList := by
    rw [fixed]
    exact split
  rw [timestampedFilename, suffixedFilename_eq splitSafe, fixed, time, available, whole]
  generalize Nat.toDigits 10 (10 ^ count) = text at digits digitsLength digitsPresent
  have shownSafe : shown = "file".toList ∨ shown ≠ [] ∧ shown <+: (sanitizeFilename name).toList := by
    refine shownOf.imp_right fun ⟨present, front⟩ => ⟨present, front.trans ?_⟩
    rw [fixed, split]
    exact List.prefix_append _ _
  have suffixOf : pathSuffix name.toList ⊆ (sanitizeFilename name).toList := by
    intro other inside
    rw [fixed, split]
    exact List.mem_append_right _ inside
  obtain ⟨legal, device⟩ := suffixed_parts shownSafe suffixOf digits
  have total : (shown ++ '_' :: (text ++ pathSuffix name.toList)).length = 255 := by
    simp only [List.length_append, List.length_cons, digitsLength, count]
    omega
  have unreserved : ¬ isReserved (shown ++ '_' :: (text ++ pathSuffix name.toList)) := fun reserved =>
    device (namesDevice_of_isReserved reserved (by omega))
  have present : name.toList ≠ [] := List.ne_nil_of_mem member
  have ends : Trimmed isSpace name.toList ∧ Trimmed isSpaceOrDot name.toList := by
    have legalName : ∀ char ∈ name.toList, isLegal char := by
      rw [← fixed]
      exact sanitizeFilename_legal
    have reservedName : ¬ isReserved name.toList := by
      rw [← fixed]
      exact sanitizeFilename_not_reserved
    refine (fixed_iff present (Nat.le_trans short (by decide)) legalName reservedName).mp ?_
    rw [String.ofList_toList]
    exact fixed
  rw [split] at ends
  have trimmed := (fixed_iff (List.ne_nil_of_length_eq_add_one total) (Nat.le_of_eq total) legal unreserved).mpr
    ⟨trimmed_suffixed ends.1 (by decide) (fun _ inside => (digits.kept inside).2) digitsPresent shownOf,
      trimmed_suffixed ends.2 (by decide) (fun _ inside => (digits.kept inside).1) digitsPresent shownOf⟩
  rw [trimmed, String.toList_ofList]
  have kept : char ∈ shown ++ '_' :: (text ++ pathSuffix name.toList) := by
    rw [split] at member
    rcases List.mem_append.mp member with front | behind
    · refine List.mem_append_left _ (keeps char front ?_)
      by_contra padding
      simp only [isSuffixPadding, Bool.not_eq_false, Bool.or_eq_true, decide_eq_true_eq] at padding
      rcases padding with (rfl | rfl) | rfl
      · exact wide (by decide)
      · exact wide (by decide)
      · exact wide (by decide)
    · exact List.mem_append_right _ (List.mem_cons_of_mem _ (List.mem_append_right _ behind))
  have more := length_lt_byteCount kept wide
  rw [total] at more
  exact more

theorem roomy_fits (roomy : Roomy name) : FitsDirectories name where
  snapshot := fun _ _ => outgoingPathFor_last.mpr (Nat.le_trans roomy.room (by decide))
  hidden := fun _ _ _ hex => (temporaryPathFor_last hex).mpr (Nat.add_le_add_right roomy.room 38)
  incoming := fun _ _ _ attempt hex => incoming_fits roomy.ascii hex attempt

/-- A name with room and characters of one byte fits under every name the manager gives its
file, and of the names that `sanitize_filename` leaves alone no other one does. -/
theorem created_names_fit_iff_roomy (name : String) :
    (Roomy name → FitsDirectories name) ∧ (sanitizeFilename name = name → FitsDirectories name → Roomy name) := by
  refine ⟨roomy_fits, fun fixed fits => ?_⟩
  have uuid : isLowerHexOf 32 "00000000000000000000000000000000" = true := by decide
  have suffix : isLowerHexOf 16 "0000000000000000" = true := by decide
  have hidden := (temporaryPathFor_last uuid).mp (fits.hidden [] "" _ uuid)
  have room : byteCount (sanitizeFilename name).toList ≤ 217 := Nat.le_of_add_le_add_right (show _ + 38 ≤ 217 + 38 from hidden)
  refine ⟨room, fun char member => ?_⟩
  rw [fixed] at room member
  by_contra wide
  obtain ⟨createdAt, excess⟩ := wide_overflows fixed (Nat.le_trans length_le_byteCount room) member wide
  exact absurd (fitsDirectory_append.mp (fits.incoming [] createdAt _ 0 suffix)) (Nat.not_le.mpr excess)

/-- Eighty-five characters of three bytes are a legal name, and the hidden one is too long. -/
theorem wide_name_does_not_fit : ¬ ∀ name, FitsDirectories (sanitizeFilename name) := by
  intro fits
  have same : ∀ char ∈ List.replicate 85 'あ', char = 'あ' := fun _ member => List.eq_of_mem_replicate member
  have legal : ∀ char ∈ List.replicate 85 'あ', isLegal char := by
    intro char member
    rw [same char member]
    exact ⟨by decide, by decide⟩
  have ends : ∀ drops : Char → Bool, drops 'あ' = false → Trimmed drops (List.replicate 85 'あ') := by
    intro drops kept
    refine ⟨fun char found => ?_, fun char found => ?_⟩
    · rw [same char (List.mem_of_mem_head? found)]
      exact kept
    · rw [same char (List.mem_of_mem_getLast? found)]
      exact kept
  have device : ¬ isReserved (List.replicate 85 'あ') := by
    intro reserved
    obtain ⟨front, after, split, -⟩ := namesDevice_of_isReserved reserved (by rw [List.length_replicate]; decide)
    have dot : '.' ∈ List.replicate 85 'あ' := by
      rw [split]
      exact List.mem_append_right _ (List.mem_cons_self ..)
    exact absurd (same '.' dot) (by decide)
  have fixed : sanitizeFilename (String.ofList (List.replicate 85 'あ')) = String.ofList (List.replicate 85 'あ') :=
    (fixed_iff (by rw [List.replicate_succ]; exact List.cons_ne_nil _ _) (by rw [List.length_replicate]; decide) legal device).mpr
      ⟨ends isSpace (by decide), ends isSpaceOrDot (by decide)⟩
  have uuid : isLowerHexOf 32 "00000000000000000000000000000000" = true := by decide
  have hidden := (temporaryPathFor_last uuid).mp ((fits (String.ofList (List.replicate 85 'あ'))).hidden [] "" _ uuid)
  rw [fixed, fixed, String.toList_ofList] at hidden
  exact absurd hidden (by decide)

end MeshTalk.Deliveries
