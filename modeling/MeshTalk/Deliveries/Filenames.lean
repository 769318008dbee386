import MeshTalk.Library.Trim
import MeshTalk.Deliveries.Operations

namespace MeshTalk.Protocol

open MeshTalk.Library

/-! # File names of the offers

The receiver only takes an offer whose file name `sanitize_filename` leaves as it is.
What the sender offers is the result of `sanitize_filename`, but cutting a long name,
stripping dots and renaming a device can leave something for a second run to do.
-/

/-- What follows the last separator. -/
def lastComponent (name : String) : List Char :=
  (name.toList.reverse.takeWhile fun char => char ≠ '/' ∧ char ≠ '\\').reverse

/-- The part of a name that is kept, with its characters as they are. -/
def core (name : String) : List Char := trim isSpaceOrDot (trim isSpace (lastComponent name))

def legalChar (char : Char) : Char := if char ∈ illegalFilenameChars ∨ char.toNat < 32 then '_' else char

def isLegal (char : Char) : Prop := char ∉ illegalFilenameChars ∧ 32 ≤ char.toNat

instance {char : Char} : Decidable (isLegal char) := inferInstanceAs (Decidable (_ ∧ _))

/-- The part before the first dot names a device. -/
def isReserved (text : List Char) : Prop := (text.takeWhile (· ≠ '.')).map Char.toUpper ∈ reservedFilenames

instance {text : List Char} : Decidable (isReserved text) := inferInstanceAs (Decidable (_ ∈ _))

/-- White space that is not a control character. -/
def isBlank (char : Char) : Bool := isSpace char && 32 ≤ char.toNat

/-- A long name is cut before a short extension, and more than that is stripped. -/
def Shortens (text : List Char) : Prop :=
  maxFilenameLength < text.length ∧ ∃ stem extension, text.take maxFilenameLength = stem ++ '.' :: extension ∧
    '.' ∉ extension ∧ extension.length ≤ 10 ∧ ∃ char ∈ stem.getLast?, isSpaceOrDot char = true

/-- The names that `sanitize_filename` makes nothing of that it would change again. -/
structure Tidy (name : String) : Prop where
  starts : ∀ char ∈ (core name).head?, isBlank char = false
  ends : ∀ char ∈ ((core name).take maxFilenameLength).getLast?, isBlank char = false ∧ char ≠ '.'
  fits : maxFilenameLength ≤ (core name).length → isReserved ((core name).take maxFilenameLength) → Shortens (core name)

/-- What is asked of the result for a name. -/
structure Sanitized (name : String) : Prop where
  present : sanitizeFilename name ≠ ""
  short : (sanitizeFilename name).toList.length ≤ maxFilenameLength
  legal : ∀ char ∈ (sanitizeFilename name).toList, isLegal char
  device : ¬ isReserved (sanitizeFilename name).toList
  fixed : sanitizeFilename (sanitizeFilename name) = sanitizeFilename name

/-- The checks of the offer's file name in `_validate`. -/
def FileOfferV2Payload.validFilename (offer : FileOfferV2Payload) : Bool :=
  offer.filename ≠ "" && offer.filename.toList.length ≤ maxFilenameLength && sanitizeFilename offer.filename = offer.filename

/-! ## The characters that are replaced -/

variable {name : String} {text base stem extension : List Char} {char : Char}

theorem legalChar_legal : isLegal (legalChar char) := by
  unfold legalChar
  split
  · exact ⟨by decide, by decide⟩
  · rename_i legal
    rw [not_or, Nat.not_lt] at legal
    exact legal

theorem legalChar_of_legal (legal : isLegal char) : legalChar char = char :=
  if_neg (not_or.mpr ⟨legal.1, Nat.not_lt.mpr legal.2⟩)

theorem legalChar_dot : legalChar char = '.' ↔ char = '.' := by
  unfold legalChar
  split
  · rename_i illegal
    refine ⟨fun same => absurd same (by decide), ?_⟩
    rintro rfl
    exact absurd illegal (by decide)
  · exact Iff.rfl

theorem legalChar_space : isSpace (legalChar char) = isBlank char := by
  have plain : ∀ illegal ∈ illegalFilenameChars, isBlank illegal = false := by decide
  unfold legalChar
  split
  · rename_i illegal
    rcases illegal with listed | control
    · rw [plain char listed]
      decide
    · simp [isBlank, Nat.not_le.mpr control, show isSpace '_' = false by decide]
  · rename_i legal
    rw [not_or, Nat.not_lt] at legal
    simp [isBlank, legal.2]

theorem legalChar_spaceOrDot : isSpaceOrDot (legalChar char) = isSpaceOrDot char := by
  unfold legalChar
  split
  · rename_i illegal
    have other : char ≠ ' ' ∧ char ≠ '.' := by
      refine ⟨?_, ?_⟩ <;>
      · rintro rfl
        exact absurd illegal (by decide)
    simp [isSpaceOrDot, other.1, other.2]
  · rfl

/-- No device has a character that is replaced. -/
theorem isReserved_map : isReserved (text.map legalChar) ↔ isReserved text := by
  have plain : ∀ device ∈ reservedFilenames, ∀ letter ∈ device, isLegal letter ∧ letter ≠ '_' := by decide
  have shared : ((text.map legalChar).takeWhile (· ≠ '.')) = (text.takeWhile (· ≠ '.')).map legalChar := by
    rw [List.takeWhile_map]
    refine congrArg (List.map legalChar) (congrArg (fun test => text.takeWhile test) ?_)
    funext char
    simp [legalChar_dot]
  have upper : ∀ char, isLegal char.toUpper → legalChar char = char := by
    intro char legal
    by_contra replaced
    have illegal : char ∈ illegalFilenameChars ∨ char.toNat < 32 := by
      by_contra allowed
      exact replaced (if_neg allowed)
    have same : char.toUpper = char := by
      rcases illegal with listed | control
      · have fixed : ∀ other ∈ illegalFilenameChars, other.toUpper = other := by decide
        exact fixed char listed
      · refine dif_neg ?_
        rintro ⟨lower, -⟩
        have low : 97 ≤ char.toNat := lower
        omega
    rw [same] at legal
    exact illegal.elim legal.1 (Nat.not_lt.mpr legal.2)
  have kept : ∀ part : List Char, (∀ char ∈ part, legalChar char = char) → part.map legalChar = part := fun part same =>
    (List.map_congr_left same).trans (List.map_id _)
  rw [isReserved, isReserved, shared]
  constructor
  · intro device
    rwa [kept _ fun char member => ?_] at device
    have letter := plain _ device _ (List.mem_map_of_mem (List.mem_map_of_mem member))
    by_contra replaced
    have illegal : legalChar char = '_' := by
      unfold legalChar at replaced ⊢
      split
      · rfl
      · rename_i allowed
        exact absurd (if_neg allowed) replaced
    rw [illegal] at letter
    exact letter.2 (by decide)
  · intro device
    rwa [kept _ fun char member => upper char (plain _ device _ (List.mem_map_of_mem member)).1]

theorem shortens_map : Shortens (text.map legalChar) ↔ Shortens text := by
  rw [Shortens, Shortens, List.length_map, ← List.map_take]
  refine and_congr_right fun _ => ?_
  constructor
  · rintro ⟨stem, extension, split, plain, small, last, found, drops⟩
    obtain ⟨before, after, whole, front, back⟩ := List.map_eq_append_iff.mp split
    obtain ⟨dot, rest, rfl, dotted, final⟩ := List.map_eq_cons_iff.mp back
    rw [legalChar_dot] at dotted
    subst dotted final front
    rw [List.length_map] at small
    obtain ⟨char, tail, rfl⟩ : ∃ char, char ∈ before.getLast? ∧ legalChar char = last := by
      rw [List.getLast?_map] at found
      exact Option.map_eq_some_iff.mp found
    rw [legalChar_spaceOrDot] at drops
    exact ⟨before, rest, whole, fun member => plain (List.mem_map.mpr ⟨'.', member, legalChar_dot.mpr rfl⟩), small, char, tail, drops⟩
  · rintro ⟨stem, extension, split, plain, small, last, found, drops⟩
    refine ⟨stem.map legalChar, extension.map legalChar, ?_, ?_, by rwa [List.length_map], legalChar last, ?_, ?_⟩
    · rw [split, List.map_append, List.map_cons, legalChar_dot.mpr rfl]
    · rintro member
      obtain ⟨char, inside, dotted⟩ := List.mem_map.mp member
      rw [legalChar_dot.mp dotted] at inside
      exact plain inside
    · rw [List.getLast?_map, Option.mem_def.mp found]
      rfl
    · rwa [legalChar_spaceOrDot]

/-! ## The parts of `sanitize_filename` -/

/-- The last steps of `sanitize_filename`. -/
def named (base : List Char) : List Char :=
  if base = [] then ['f', 'i', 'l', 'e'] else if isReserved base then '_' :: base else base

theorem sanitizeFilename_toList :
    (sanitizeFilename name).toList = named (truncateFilename ((core name).map legalChar)) := by
  have trimmed : stripSpaceDot ((strip (lastComponent name)).map legalChar) = (core name).map legalChar :=
    trim_map fun _ => legalChar_spaceOrDot
  have unfolded : sanitizeFilename name =
      (let base := truncateFilename (stripSpaceDot ((strip (lastComponent name)).map legalChar))
       let unreserved := if isReserved base then '_' :: base else base
       if unreserved = [] then "file" else String.ofList unreserved) := rfl
  rw [unfolded, trimmed]
  generalize truncateFilename ((core name).map legalChar) = base
  dsimp only
  unfold named
  by_cases empty : base = []
  · subst empty
    rfl
  · rw [if_neg empty]
    by_cases reserved : isReserved base
    · rw [if_pos reserved, if_neg (List.cons_ne_nil _ _), String.toList_ofList]
    · rw [if_neg reserved, if_neg empty, String.toList_ofList]

theorem core_of_legal (legal : ∀ char ∈ text, isLegal char) :
    core (String.ofList text) = trim isSpaceOrDot (trim isSpace text) := by
  have whole : lastComponent (String.ofList text) = text := by
    rw [lastComponent, String.toList_ofList, List.takeWhile_eq_self_iff.mpr, List.reverse_reverse]
    intro char member
    have allowed := (legal char (List.mem_reverse.mp member)).1
    refine decide_eq_true ⟨?_, ?_⟩ <;>
    · rintro rfl
      exact allowed (by decide)
  rw [core, whole]

/-! ## Truncation -/

theorem rpartitionDot_last (plain : '.' ∉ extension) : rpartitionDot (stem ++ '.' :: extension) = some (stem, extension) := by
  have last : ((stem ++ '.' :: extension).reverse.takeWhile (· ≠ '.')).reverse = extension := by
    rw [List.reverse_append, List.reverse_cons, List.append_assoc, List.takeWhile_append_of_pos]
    · rw [List.singleton_append, List.takeWhile_cons_of_neg (by simp), List.append_nil, List.reverse_reverse]
    · intro char member
      refine decide_eq_true ?_
      rintro rfl
      exact plain (List.mem_reverse.mp member)
  have present : '.' ∈ stem ++ '.' :: extension := List.mem_append_right _ (List.mem_cons_self ..)
  have length : (stem ++ '.' :: extension).length - extension.length - 1 = stem.length := by
    simp only [List.length_append, List.length_cons]
    omega
  rw [rpartitionDot, if_pos present, last]
  dsimp only
  rw [length, List.take_left]

/-- The text after the last dot. -/
theorem exists_extension (dotted : '.' ∈ text) : ∃ stem extension, text = stem ++ '.' :: extension ∧ '.' ∉ extension := by
  obtain ⟨last, before, split, plain⟩ := List.eq_append_cons_of_mem (List.mem_reverse.mpr dotted)
  refine ⟨before.reverse, last.reverse, ?_, fun member => plain (List.mem_reverse.mp member)⟩
  rw [← List.reverse_reverse text, split, List.reverse_append, List.reverse_cons, List.append_assoc, List.singleton_append]

theorem truncateFilename_short (short : text.length ≤ maxFilenameLength) : truncateFilename text = text :=
  if_neg (Nat.not_lt.mpr short)

/-- A long name is cut, and what precedes a short extension is stripped. -/
theorem truncateFilename_long (long : maxFilenameLength < text.length) :
    (∃ stem extension, text.take maxFilenameLength = stem ++ '.' :: extension ∧ '.' ∉ extension ∧ extension.length ≤ 10 ∧
      truncateFilename text = stem.rdropWhile isSpaceOrDot ++ '.' :: extension) ∨
    (truncateFilename text = text.take maxFilenameLength ∧ ¬ Shortens text) := by
  have cut : (text.take maxFilenameLength).length = maxFilenameLength := List.length_take_of_le long.le
  by_cases dotted : '.' ∈ text.take maxFilenameLength
  · obtain ⟨stem, extension, split, plain⟩ := exists_extension dotted
    by_cases small : extension.length ≤ 10
    · refine .inl ⟨stem, extension, split, plain, small, ?_⟩
      have front : text.take (maxFilenameLength - extension.length - 1) = stem := by
        rw [split, List.length_append, List.length_cons] at cut
        have count : maxFilenameLength - extension.length - 1 = min stem.length maxFilenameLength := by omega
        rw [count, ← List.take_take, split, List.take_left]
      rw [truncateFilename, if_pos long, split, rpartitionDot_last plain]
      dsimp only
      rw [if_pos small, front]
      rfl
    · refine .inr ⟨?_, ?_⟩
      · rw [truncateFilename, if_pos long, split, rpartitionDot_last plain]
        exact if_neg small
      · rintro ⟨-, other, shown, same, bare, few, -⟩
        have found := @rpartitionDot_last stem extension plain
        rw [← split, same, rpartitionDot_last bare] at found
        obtain ⟨-, rfl⟩ := Prod.mk.inj (Option.some.inj found)
        exact small few
  · refine .inr ⟨?_, ?_⟩
    · rw [truncateFilename, if_pos long, rpartitionDot, if_neg dotted]
    · rintro ⟨-, stem, extension, split, -⟩
      rw [split] at dotted
      exact dotted (List.mem_append_right _ (List.mem_cons_self ..))

theorem truncateFilename_subset : truncateFilename text ⊆ text := by
  intro char member
  by_cases long : maxFilenameLength < text.length
  · refine List.mem_of_mem_take (i := maxFilenameLength) ?_
    rcases truncateFilename_long long with ⟨stem, extension, split, -, -, cut⟩ | ⟨cut, -⟩
    · rw [cut] at member
      rw [split]
      refine List.mem_append.mpr ((List.mem_append.mp member).imp_left fun kept => ?_)
      exact (List.rdropWhile_prefix isSpaceOrDot stem).subset kept
    · rwa [cut] at member
  · rwa [truncateFilename_short (Nat.not_lt.mp long)] at member

theorem truncateFilename_length : (truncateFilename text).length ≤ maxFilenameLength := by
  by_cases long : maxFilenameLength < text.length
  · have cut : (text.take maxFilenameLength).length ≤ maxFilenameLength := List.length_take_le _ _
    rcases truncateFilename_long long with ⟨stem, extension, split, -, -, same⟩ | ⟨same, -⟩
    · have fewer := (List.rdropWhile_prefix isSpaceOrDot stem).length_le
      rw [split, List.length_append, List.length_cons] at cut
      rw [same, List.length_append, List.length_cons]
      omega
    · rwa [same]
  · rw [truncateFilename_short (Nat.not_lt.mp long)]
    exact Nat.not_lt.mp long

/-- The ends of a name that is cut are those of its first 255 characters. -/
theorem truncateFilename_ends (trimmed : Trimmed isSpaceOrDot text) : (truncateFilename text).head? = text.head? ∧
    (truncateFilename text).getLast? = (text.take maxFilenameLength).getLast? := by
  by_cases long : maxFilenameLength < text.length
  · rcases truncateFilename_long long with ⟨stem, extension, split, -, small, same⟩ | ⟨same, -⟩
    · have tail : ∀ front : List Char, (front ++ '.' :: extension).getLast? = ('.' :: extension).getLast? := fun front => by
        rw [List.getLast?_append, List.getLast?_cons, Option.some_or]
      refine ⟨?_, by rw [same, split, tail, tail]⟩
      cases stem with
      | nil =>
          have length := List.length_take_of_le long.le
          rw [split, List.nil_append, List.length_cons] at length
          have ten : extension.length = 254 := Nat.succ.inj length
          omega
      | cons first rest =>
          have front : text.head? = some first := by
            have same : (text.take maxFilenameLength).head? = text.head? := List.head?_take.trans (if_neg (by decide))
            rw [← same, split]
            rfl
          rw [same, front, List.head?_append, head?_rdropWhile_cons (trimmed.first first front), Option.some_or]
    · rw [same]
      exact ⟨List.head?_take.trans (if_neg (by decide)), rfl⟩
  · rw [truncateFilename_short (Nat.not_lt.mp long), List.take_of_length_le (Nat.not_lt.mp long)]
    exact ⟨rfl, rfl⟩

/-- A name that is cut is as long as can be, unless more than the rest was stripped. -/
theorem truncateFilename_full (full : maxFilenameLength ≤ text.length) (whole : ¬ Shortens text) :
    truncateFilename text = text.take maxFilenameLength := by
  rcases Nat.lt_or_eq_of_le full with long | exact
  · rcases truncateFilename_long long with ⟨stem, extension, split, plain, small, same⟩ | ⟨same, -⟩
    · have kept : stem.rdropWhile isSpaceOrDot = stem := by
        rw [List.rdropWhile_eq_self_iff]
        intro present drops
        exact whole ⟨long, stem, extension, split, plain, small, _, List.getLast?_eq_some_getLast present, drops⟩
      rw [same, kept, split]
    · exact same
  · rw [truncateFilename_short exact.ge, List.take_of_length_le exact.ge]

theorem truncateFilename_shortened (shortens : Shortens text) : (truncateFilename text).length < maxFilenameLength := by
  obtain ⟨long, stem, extension, split, plain, small, last, found, drops⟩ := shortens
  rcases truncateFilename_long long with ⟨other, shown, same, bare, -, cut⟩ | ⟨-, whole⟩
  · have unique := @rpartitionDot_last stem extension plain
    rw [← split, same, rpartitionDot_last bare] at unique
    obtain ⟨rfl, rfl⟩ := Prod.mk.inj (Option.some.inj unique)
    have length := List.length_take_of_le long.le
    rw [same, List.length_append, List.length_cons] at length
    have fewer : (other.rdropWhile isSpaceOrDot).length < other.length := by
      refine lt_of_le_of_ne (List.rdropWhile_prefix isSpaceOrDot other).length_le fun equal => ?_
      have unchanged := (List.rdropWhile_prefix isSpaceOrDot other).eq_of_length equal
      have kept := @getLast?_rdropWhile _ isSpaceOrDot other last (by rw [unchanged]; exact found)
      rw [drops] at kept
      cases kept
    rw [cut, List.length_append, List.length_cons]
    omega
  · exact absurd ⟨long, stem, extension, split, plain, small, last, found, drops⟩ whole

/-! ## What the last steps leave -/

theorem named_ne_nil : named base ≠ [] := by
  unfold named
  split
  · exact List.cons_ne_nil _ _
  · rename_i present
    split
    · exact List.cons_ne_nil _ _
    · exact present

theorem named_legal (legal : ∀ char ∈ base, isLegal char) : ∀ char ∈ named base, isLegal char := by
  unfold named
  split
  · decide
  · split
    · intro char member
      rcases List.mem_cons.mp member with rfl | kept
      · exact ⟨by decide, by decide⟩
      · exact legal char kept
    · exact legal

theorem not_reserved_underscore : ¬ isReserved ('_' :: text) := by
  intro reserved
  have heads : ∀ device ∈ reservedFilenames, device.head? ≠ some '_' := by decide
  rw [isReserved, List.takeWhile_cons_of_pos (by decide)] at reserved
  exact heads _ reserved rfl

theorem named_not_reserved : ¬ isReserved (named base) := by
  unfold named
  split
  · decide
  · split
    · exact not_reserved_underscore
    · assumption

/-- The first letter of a device is no white space. -/
theorem isReserved_starts (reserved : isReserved text) : ∀ char ∈ text.head?, isSpace char = false := by
  intro char first
  by_contra spaced
  rw [Bool.not_eq_false] at spaced
  have heads : ∀ device ∈ reservedFilenames, ∀ letter ∈ device.head?, isSpace letter = false := by decide
  have same : char.toUpper = char := by
    have small : ¬ (97 ≤ char.val ∧ char.val ≤ 122) := by
      rintro ⟨lower, upper⟩
      have low : 97 ≤ char.toNat := lower
      have high : char.toNat ≤ 122 := upper
      simp only [isSpace, Bool.or_eq_true, Bool.and_eq_true, decide_eq_true_eq] at spaced
      omega
    exact dif_neg small
  cases text with
  | nil => cases first
  | cons head rest =>
      obtain rfl := Option.some.inj first
      have other : head ≠ '.' := by
        rintro rfl
        exact absurd spaced (by decide)
      rw [isReserved, List.takeWhile_cons_of_pos (by exact decide_eq_true other)] at reserved
      have letter := heads _ reserved head.toUpper rfl
      rw [same, spaced] at letter
      cases letter

/-- What is trimmed of a name that begins with an underscore is no device. -/
theorem not_reserved_trimmed (renamed : text = '_' :: base) : ¬ isReserved (trim isSpaceOrDot (trim isSpace text)) := by
  have first : (trim isSpace text).head? = some '_' := by
    rw [renamed]
    exact head?_trim_cons (by decide)
  cases spaces : trim isSpace text with
  | nil =>
      rw [spaces] at first
      cases first
  | cons head rest =>
      rw [spaces] at first
      obtain rfl := Option.some.inj first
      have next : (trim isSpaceOrDot ('_' :: rest)).head? = some '_' := head?_trim_cons (by decide)
      cases dots : trim isSpaceOrDot ('_' :: rest) with
      | nil =>
          rw [dots] at next
          cases next
      | cons head tail =>
          rw [dots] at next
          obtain rfl := Option.some.inj next
          exact not_reserved_underscore

/-- A second run only trims what the first has made. -/
theorem fixed_iff (present : text ≠ []) (short : text.length ≤ maxFilenameLength) (legal : ∀ char ∈ text, isLegal char)
    (device : ¬ isReserved text) : sanitizeFilename (String.ofList text) = String.ofList text ↔
      Trimmed isSpace text ∧ Trimmed isSpaceOrDot text := by
  have inside : (trim isSpaceOrDot (trim isSpace text)).Sublist text := trim_sublist.trans trim_sublist
  have unchanged : (trim isSpaceOrDot (trim isSpace text)).map legalChar = trim isSpaceOrDot (trim isSpace text) := by
    refine (List.map_congr_left fun char member => ?_).trans (List.map_id _)
    exact legalChar_of_legal (legal char (inside.subset member))
  have reached : (sanitizeFilename (String.ofList text)).toList = named (trim isSpaceOrDot (trim isSpace text)) := by
    rw [sanitizeFilename_toList, core_of_legal legal, unchanged, truncateFilename_short (inside.length_le.trans short)]
  have asLists : sanitizeFilename (String.ofList text) = String.ofList text ↔
      named (trim isSpaceOrDot (trim isSpace text)) = text := by
    rw [← reached, ← String.toList_inj, String.toList_ofList]
  rw [asLists]
  constructor
  · intro same
    have whole : trim isSpaceOrDot (trim isSpace text) = text := by
      unfold named at same
      split at same
      · rename_i nothing
        rw [← same] at nothing
        exact absurd nothing (by decide)
      · split at same
        · rename_i reserved
          exact absurd reserved (not_reserved_trimmed same.symm)
        · exact same
    have spaces : trim isSpace text = text := by
      refine trim_sublist.eq_of_length (le_antisymm trim_sublist.length_le ?_)
      have fewer := (@trim_sublist _ isSpaceOrDot (trim isSpace text)).length_le
      rwa [whole] at fewer
    rw [spaces] at whole
    exact ⟨trim_eq_self.mp spaces, trim_eq_self.mp whole⟩
  · rintro ⟨spaces, dots⟩
    rw [spaces.trim, dots.trim, named, if_neg present, if_neg device]

/-! ## The names that are left alone -/

theorem truncateFilename_length_le : (truncateFilename text).length ≤ text.length := by
  by_cases long : maxFilenameLength < text.length
  · exact truncateFilename_length.trans long.le
  · rw [truncateFilename_short (Nat.not_lt.mp long)]

/-- The two ends of a trimmed name decide whether a second run trims it. -/
theorem named_trimmed (first : ∀ char ∈ base.head?, isSpaceOrDot char = false) :
    (Trimmed isSpace (named base) ∧ Trimmed isSpaceOrDot (named base)) ↔
      (∀ char ∈ base.head?, isSpace char = false) ∧ ∀ char ∈ base.getLast?, isSpace char = false ∧ char ≠ '.' := by
  have dots : ∀ char, isSpace char = false → char ≠ '.' → isSpaceOrDot char = false := by
    intro char plain other
    have blank : char ≠ ' ' := by
      rintro rfl
      exact absurd plain (by decide)
    simp [isSpaceOrDot, blank, other]
  have dot : ∀ char, isSpaceOrDot char = false → char ≠ '.' := by
    rintro char kept rfl
    exact absurd kept (by decide)
  cases base with
  | nil =>
      have file : Trimmed isSpace (named []) ∧ Trimmed isSpaceOrDot (named []) := ⟨⟨by decide, by decide⟩, by decide, by decide⟩
      have nothing : (∀ char ∈ ([] : List Char).head?, isSpace char = false) ∧
          ∀ char ∈ ([] : List Char).getLast?, isSpace char = false ∧ char ≠ '.' := ⟨by decide, by decide⟩
      exact ⟨fun _ => nothing, fun _ => file⟩
  | cons head rest =>
      have present : head :: rest ≠ [] := List.cons_ne_nil _ _
      by_cases reserved : isReserved (head :: rest)
      · have last : ('_' :: head :: rest).getLast? = (head :: rest).getLast? := List.getLast?_cons_cons
        rw [named, if_neg present, if_pos reserved]
        constructor
        · rintro ⟨spaces, spacesOrDots⟩
          refine ⟨isReserved_starts reserved, fun char found => ?_⟩
          rw [← last] at found
          exact ⟨spaces.last char found, dot char (spacesOrDots.last char found)⟩
        · rintro ⟨-, ends⟩
          rw [← last] at ends
          have underscore : ∀ char ∈ ('_' :: head :: rest).head?, isSpace char = false ∧ isSpaceOrDot char = false := by
            intro char found
            obtain rfl := Option.some.inj found
            decide
          exact ⟨⟨fun char found => (underscore char found).1, fun char found => (ends char found).1⟩,
            fun char found => (underscore char found).2, fun char found => dots char (ends char found).1 (ends char found).2⟩
      · rw [named, if_neg present, if_neg reserved]
        constructor
        · rintro ⟨spaces, spacesOrDots⟩
          exact ⟨spaces.first, fun char found => ⟨spaces.last char found, dot char (spacesOrDots.last char found)⟩⟩
        · rintro ⟨starts, ends⟩
          exact ⟨⟨starts, fun char found => (ends char found).1⟩, first,
            fun char found => dots char (ends char found).1 (ends char found).2⟩

theorem named_short (short : base.length ≤ maxFilenameLength) :
    (named base).length ≤ maxFilenameLength ↔ (base.length = maxFilenameLength → ¬ isReserved base) := by
  unfold named
  split
  · rename_i empty
    subst empty
    decide
  · split
    · rename_i reserved
      rw [List.length_cons]
      constructor
      · intro fits full
        omega
      · intro other
        have unequal : base.length ≠ maxFilenameLength := fun full => other full reserved
        omega
    · rename_i device
      exact ⟨fun _ _ => device, fun _ => short⟩

/-- A name that was cut to a device of full length is the only one that gets too long. -/
theorem fits_iff {kept : List Char} :
    ((truncateFilename (kept.map legalChar)).length = maxFilenameLength → ¬ isReserved (truncateFilename (kept.map legalChar))) ↔
      (maxFilenameLength ≤ kept.length → isReserved (kept.take maxFilenameLength) → Shortens kept) := by
  constructor
  · intro device full reserved
    by_contra whole
    have cut := @truncateFilename_full (kept.map legalChar) (by rwa [List.length_map]) fun shortens =>
      whole (shortens_map.mp shortens)
    rw [cut, ← List.map_take] at device
    refine device ?_ (isReserved_map.mpr reserved)
    rw [List.length_map, List.length_take_of_le full]
  · intro fits full reserved
    have long : maxFilenameLength ≤ (kept.map legalChar).length := by
      rw [← full]
      exact truncateFilename_length_le
    by_cases shortens : Shortens (kept.map legalChar)
    · exact absurd full (truncateFilename_shortened shortens).ne
    · rw [truncateFilename_full long shortens, ← List.map_take, isReserved_map] at reserved
      exact shortens (shortens_map.mpr (fits (by rwa [List.length_map] at long) reserved))

theorem sanitizeFilename_ne_empty : sanitizeFilename name ≠ "" := by
  intro nothing
  have empty : (sanitizeFilename name).toList = [] := by
    rw [nothing]
    rfl
  rw [sanitizeFilename_toList] at empty
  exact named_ne_nil empty

theorem sanitizeFilename_legal : ∀ char ∈ (sanitizeFilename name).toList, isLegal char := by
  rw [sanitizeFilename_toList]
  refine named_legal fun char member => ?_
  obtain ⟨original, -, rfl⟩ := List.mem_map.mp (truncateFilename_subset member)
  exact legalChar_legal

theorem sanitizeFilename_not_reserved : ¬ isReserved (sanitizeFilename name).toList := by
  rw [sanitizeFilename_toList]
  exact named_not_reserved

/-- Only the length and the second run can go wrong. -/
theorem sanitized_of (short : (sanitizeFilename name).toList.length ≤ maxFilenameLength)
    (fixed : sanitizeFilename (sanitizeFilename name) = sanitizeFilename name) : Sanitized name :=
  ⟨sanitizeFilename_ne_empty, short, sanitizeFilename_legal, sanitizeFilename_not_reserved, fixed⟩

theorem sanitized_iff (name : String) : Sanitized name ↔ Tidy name := by
  have trimmed : Trimmed isSpaceOrDot ((core name).map legalChar) := by
    rw [core, ← trim_map fun _ => legalChar_spaceOrDot]
    exact trim_trimmed
  obtain ⟨head, last⟩ := truncateFilename_ends trimmed
  have first : ∀ char ∈ (truncateFilename ((core name).map legalChar)).head?, isSpaceOrDot char = false := by
    rw [head]
    exact trimmed.first
  have ends : (Trimmed isSpace (sanitizeFilename name).toList ∧ Trimmed isSpaceOrDot (sanitizeFilename name).toList) ↔
      (∀ char ∈ (core name).head?, isBlank char = false) ∧
        ∀ char ∈ ((core name).take maxFilenameLength).getLast?, isBlank char = false ∧ char ≠ '.' := by
    rw [sanitizeFilename_toList, named_trimmed first, head, last, ← List.map_take, List.head?_map, List.getLast?_map]
    simp [legalChar_space, legalChar_dot]
  have short : (sanitizeFilename name).toList.length ≤ maxFilenameLength ↔
      (maxFilenameLength ≤ (core name).length → isReserved ((core name).take maxFilenameLength) → Shortens (core name)) := by
    rw [sanitizeFilename_toList, named_short truncateFilename_length, fits_iff]
  have again : ∀ fits : (sanitizeFilename name).toList.length ≤ maxFilenameLength,
      sanitizeFilename (sanitizeFilename name) = sanitizeFilename name ↔
        Trimmed isSpace (sanitizeFilename name).toList ∧ Trimmed isSpaceOrDot (sanitizeFilename name).toList := by
    intro fits
    have present : (sanitizeFilename name).toList ≠ [] := by
      rw [sanitizeFilename_toList]
      exact named_ne_nil
    have fixed := fixed_iff present fits sanitizeFilename_legal sanitizeFilename_not_reserved
    rwa [String.ofList_toList] at fixed
  constructor
  · intro sanitized
    obtain ⟨starts, finishes⟩ := ends.mp ((again sanitized.short).mp sanitized.fixed)
    exact ⟨starts, finishes, short.mp sanitized.short⟩
  · intro tidy
    have fits := short.mpr tidy.fits
    exact sanitized_of fits ((again fits).mpr (ends.mpr ⟨tidy.starts, tidy.ends⟩))

end MeshTalk.Protocol

namespace MeshTalk.Deliveries

open MeshTalk.Protocol MeshTalk.Files MeshTalk.Store

/-- A name is sanitized for good, and the offers of a file of that name pass the checks
of the receiver, exactly when it is tidy. -/
theorem sanitized_names_are_accepted_iff_tidy (name : String) : (Sanitized name ↔ Tidy name) ∧
    ∀ {crypto : FileCrypto} (identity : Identity crypto) (source : Path) (snapshot : Snapshot) (caption : String)
      (groupId : Option String) (recipients : List PeerId) (batch : Option Batch) (recipientId : PeerId),
      (offerFor identity (outboundTransfer identity source snapshot caption groupId recipients batch) recipientId).validFilename =
        true ↔ Tidy (source.getLastD "") := by
  refine ⟨sanitized_iff name, fun identity source snapshot caption groupId recipients batch recipientId => ?_⟩
  have parts : (offerFor identity (outboundTransfer identity source snapshot caption groupId recipients batch) recipientId).validFilename =
      true ↔ sanitizeFilename (source.getLastD "") ≠ "" ∧ (sanitizeFilename (source.getLastD "")).toList.length ≤ maxFilenameLength ∧
        sanitizeFilename (sanitizeFilename (source.getLastD "")) = sanitizeFilename (source.getLastD "") := by
    simp [FileOfferV2Payload.validFilename, offerFor, outboundTransfer, and_assoc]
  rw [parts, ← sanitized_iff]
  constructor
  · exact fun ⟨_, short, fixed⟩ => sanitized_of short fixed
  · exact fun sanitized => ⟨sanitized.present, sanitized.short, sanitized.fixed⟩

/-- The first run strips the dot, and only the second one the blank behind it. -/
theorem dotted_blank_is_not_sanitized : ¬ ∀ name, Sanitized name := by
  intro sanitized
  have once : sanitizeFilename ".\u00a0notes.txt" = "\u00a0notes.txt" := by decide +kernel
  have twice : sanitizeFilename "\u00a0notes.txt" = "notes.txt" := by decide +kernel
  have fixed := (sanitized ".\u00a0notes.txt").fixed
  rw [once, twice] at fixed
  exact absurd fixed (by decide)

end MeshTalk.Deliveries
