import MeshTalk.Mentions.Tokens

namespace MeshTalk.Mentions

open MeshTalk.Library

/-! # Mentions in the terminal client

`scanMentionContent` keeps Markdown code spans and fenced blocks as they are, so a
token in one of them is not shown as a mention.
-/

abbrev CodeUnits := List UInt16

/-! ### Code regions -/

/-- The units of a line, without its break. -/
def lineOf (text : CodeUnits) : CodeUnits := text.takeWhile fun unit => !isAscii '\n' unit

/-- The units of a line with its break, where it has one. -/
def lineLength (text : CodeUnits) : Nat := min ((lineOf text).length + 1) text.length

def runLength (char : Char) (text : CodeUnits) : Nat := (text.takeWhile (isAscii char)).length

def indented (line : CodeUnits) : CodeUnits := line.dropWhile (isAscii ' ')

/-- The match of three or more backticks or tildes that at most three blanks precede:
the marker and its length. -/
def fence? (line : CodeUnits) : Option (Char × Nat) :=
  if 3 < runLength ' ' line then none
  else if 3 ≤ runLength '`' (indented line) then some ('`', runLength '`' (indented line))
  else if 3 ≤ runLength '~' (indented line) then some ('~', runLength '~' (indented line))
  else none

/-- `\s` of a regular expression. -/
def isWhitespace (unit : UInt16) : Bool :=
  let code := unit.toNat
  code = 32 || (9 ≤ code && code ≤ 13) || code = 0xa0 || code = 0x1680 || (0x2000 ≤ code && code ≤ 0x200a) ||
    code = 0x2028 || code = 0x2029 || code = 0x202f || code = 0x205f || code = 0x3000 || code = 0xfeff

def closesFence (marker : Char) (length : Nat) (line : CodeUnits) : Bool :=
  runLength ' ' line ≤ 3 && length ≤ runLength marker (indented line) &&
    ((indented line).dropWhile (isAscii marker)).all isWhitespace

/-- The lines up to the one that closes, or all of them. -/
def fencedLength (closes : CodeUnits → Bool) (text : CodeUnits) : Nat :=
  if text = [] then 0
  else if closes (lineOf text) then lineLength text
  else lineLength text + fencedLength closes (text.drop (lineLength text))
termination_by text.length
decreasing_by
  rename_i some _
  have present := List.length_pos_iff.mpr some
  simp only [List.length_drop, lineLength]
  omega

/-- `indexOf` of a run of backticks. -/
def indexOfRun (length : Nat) : CodeUnits → Option Nat
  | [] => if length = 0 then some 0 else none
  | unit :: rest =>
      if length ≤ runLength '`' (unit :: rest) then some 0 else (indexOfRun length rest).map Nat.succ

/-- A code span is closed by a run as long as the one that opens it. -/
def spanLength (prior text : CodeUnits) : Nat :=
  if (text.head?.any (isAscii '`')) && !oddBackslashes prior then
    let length := runLength '`' text
    match indexOfRun length (text.drop length) with
    | some closing => length + closing + length
    | none => 0
  else 0

def codeRegion (prior text : CodeUnits) : Nat :=
  let lineStart := prior.head?.all (isAscii '\n')
  match if lineStart then fence? (lineOf text) else none with
  | some (marker, length) => lineLength text + fencedLength (closesFence marker length) (text.drop (lineLength text))
  | none => spanLength prior text

/-- The pieces in the order of the calls. -/
def scanMentionContent (content : CodeUnits) : List (Piece UInt16) := scan codeRegion [] content

/-- The peers that mention pills are shown for. -/
def shownMentions (content : CodeUnits) : List PeerName := (scanMentionContent content).filterMap Piece.mention?

/-! ### Where code regions end -/

/-- So many units are all of the text, or end with what closes. -/
def EndsClosed (text : CodeUnits) (length : Nat) : Prop :=
  text.length ≤ length ∨ ∃ front unit rest, text = front ++ [unit] ++ rest ∧ front.length + 1 = length ∧ Closes unit

variable {text line : CodeUnits} {length position : Nat} {unit : UInt16}

theorem endsClosed_of_get (here : text[length]? = some unit) (closes : Closes unit) : EndsClosed text (length + 1) := by
  obtain ⟨inside, same⟩ := List.getElem?_eq_some_iff.mp here
  refine .inr ⟨text.take length, unit, text.drop (length + 1), ?_, ?_, closes⟩
  · rw [List.append_assoc, List.singleton_append, ← same, List.getElem_cons_drop, List.take_append_drop]
  · rw [List.length_take]
    omega

theorem EndsClosed.drop (closed : EndsClosed (text.drop length) position) (inside : length ≤ text.length) :
    EndsClosed text (length + position) := by
  rcases closed with all | ⟨front, unit, rest, split, size, closes⟩
  · rw [List.length_drop] at all
    exact .inl (by omega)
  · refine .inr ⟨text.take length ++ front, unit, rest, ?_, ?_, closes⟩
    · rw [List.append_assoc, List.append_assoc, ← List.append_assoc front, ← split, List.take_append_drop]
    · rw [List.length_append, List.length_take]
      omega

theorem lineLength_le : lineLength text ≤ text.length := Nat.min_le_right _ _

theorem lineLength_closed : EndsClosed text (lineLength text) := by
  have whole : lineOf text ++ text.dropWhile (fun unit => !isAscii '\n' unit) = text := List.takeWhile_append_dropWhile
  cases remaining : text.dropWhile (fun unit => !isAscii '\n' unit) with
  | nil =>
      rw [remaining, List.append_nil] at whole
      refine .inl ?_
      unfold lineLength
      rw [whole]
      omega
  | cons newline rest =>
      have stops := List.head?_dropWhile_not (fun unit : UInt16 => !isAscii '\n' unit) text
      rw [remaining] at stops whole
      have size := congrArg List.length whole
      rw [List.length_append, List.length_cons] at size
      have exact : lineLength text = (lineOf text).length + 1 := by
        unfold lineLength
        omega
      rw [exact]
      refine .inr ⟨lineOf text, newline, rest, ?_, rfl, .inr ?_⟩
      · rw [List.append_assoc, List.singleton_append]
        exact whole.symm
      · simpa [isAscii] using stops

theorem fencedLength_closed {closes : CodeUnits → Bool} : EndsClosed text (fencedLength closes text) := by
  induction size : text.length using Nat.strongRecOn generalizing text with
  | ind size ih =>
      rw [fencedLength]
      split
      · rename_i nothing
        subst nothing
        exact .inl (Nat.zero_le _)
      · rename_i some
        split
        · exact lineLength_closed
        · refine EndsClosed.drop (ih _ ?_ rfl) lineLength_le
          have present := List.length_pos_iff.mpr some
          simp only [List.length_drop, lineLength]
          omega

theorem runLength_get {char : Char} (inside : position < runLength char text) :
    ∃ unit, text[position]? = some unit ∧ TextUnit.ascii? unit = some char := by
  induction text generalizing position with
  | nil => cases inside
  | cons first rest ih =>
      unfold runLength at inside ih
      rw [List.takeWhile_cons] at inside
      split at inside
      · rename_i shown
        cases position with
        | zero => exact ⟨first, rfl, by simpa [isAscii] using shown⟩
        | succ position => exact ih (Nat.lt_of_succ_lt_succ inside)
      · cases inside

theorem indexOfRun_spec {closing : Nat} (found : indexOfRun length text = some closing) (some : 0 < length) :
    length ≤ runLength '`' (text.drop closing) := by
  induction text generalizing closing with
  | nil =>
      rw [indexOfRun, if_neg (Nat.ne_of_gt some)] at found
      cases found
  | cons unit rest ih =>
      rw [indexOfRun] at found
      split at found
      · rename_i here
        cases found
        exact here
      · obtain ⟨before, later, rfl⟩ := Option.map_eq_some_iff.mp found
        exact ih later

theorem spanLength_closed {prior : CodeUnits} (begins : 0 < spanLength prior text) : EndsClosed text (spanLength prior text) := by
  unfold spanLength at begins ⊢
  by_cases opened : ((text.head?.any (isAscii '`')) && !oddBackslashes prior) = true
  · rw [if_pos opened] at begins ⊢
    have some : 0 < runLength '`' text := by
      cases text with
      | nil => simp at opened
      | cons unit rest =>
          have tick : isAscii '`' unit = true := by simpa using (Bool.and_eq_true_iff.mp opened).1
          rw [runLength, List.takeWhile_cons_of_pos tick, List.length_cons]
          omega
    cases found : indexOfRun (runLength '`' text) (text.drop (runLength '`' text)) with
    | none =>
        simp only [found] at begins
        exact absurd begins (Nat.lt_irrefl 0)
    | some closing =>
        have run := indexOfRun_spec found some
        rw [List.drop_drop] at run
        have inside : runLength '`' text - 1 < runLength '`' (text.drop (runLength '`' text + closing)) := by omega
        obtain ⟨unit, here, tick⟩ := runLength_get inside
        rw [List.getElem?_drop] at here
        have last : runLength '`' text + closing + runLength '`' text =
            runLength '`' text + closing + (runLength '`' text - 1) + 1 := by omega
        simp only [found]
        rw [last]
        exact endsClosed_of_get here (.inl tick)
  · rw [if_neg opened] at begins
    exact absurd begins (Nat.lt_irrefl 0)

theorem codeRegion_closed : ClosedRegions codeRegion := by
  intro prior text begins
  change EndsClosed text (codeRegion prior text)
  unfold codeRegion at begins ⊢
  simp only at begins ⊢
  cases fenced : if prior.head?.all (isAscii '\n') then fence? (lineOf text) else none with
  | some marker =>
      simp only
      exact EndsClosed.drop fencedLength_closed lineLength_le
  | none =>
      rw [fenced] at begins
      exact spanLength_closed begins

/-! ### The same text in both languages -/

section Shown

variable {α β : Type} [TextUnit α] [TextUnit β] {text later : List α} {other : List β} {prior : List β} {id : PeerName}

theorem Shown.spells {units : List α} {chars : List Char} (shown : Shown (units ++ later) other) (spells : Spells units chars) :
    ∃ spelled remaining, other = spelled ++ remaining ∧ Spells spelled chars ∧ Shown later remaining := by
  induction units generalizing other chars with
  | nil => exact ⟨[], other, rfl, spells, shown⟩
  | cons unit units ih =>
      cases chars with
      | nil => cases spells
      | cons char chars =>
          simp only [Spells, List.map_cons, List.cons.injEq] at spells
          obtain ⟨first, rest, rfl, same, tail⟩ := Shown.ascii_left shown spells.1
          obtain ⟨spelled, remaining, rfl, matched, follows⟩ := ih tail spells.2
          refine ⟨first :: spelled, remaining, rfl, ?_, follows⟩
          unfold Spells at matched ⊢
          rw [List.map_cons, List.map_cons, same, matched]

theorem Shown.spelled {units remaining : List β} {chars : List Char} (shown : Shown text (units ++ remaining))
    (spells : Spells units chars) : ∃ spelled later, text = spelled ++ later ∧ Spells spelled chars := by
  induction units generalizing text chars with
  | nil => exact ⟨[], text, rfl, spells⟩
  | cons unit units ih =>
      cases chars with
      | nil => cases spells
      | cons char chars =>
          simp only [Spells, List.map_cons, List.cons.injEq] at spells
          obtain ⟨first, rest, rfl, same, tail⟩ := Shown.ascii_right shown spells.1
          obtain ⟨spelled, later, rfl, matched⟩ := ih tail spells.2
          refine ⟨first :: spelled, later, rfl, ?_⟩
          unfold Spells at matched ⊢
          rw [List.map_cons, List.map_cons, same, matched]

theorem Shown.no_token (shown : Shown text other) (none : matchToken? text = none) : matchToken? other = Option.none := by
  cases found : matchToken? other with
  | none => rfl
  | some token =>
      obtain ⟨named, units, whole, spells⟩ := matchToken?_eq_some.mp (show matchToken? other = some (token.1, token.2) from found)
      rw [whole] at shown
      obtain ⟨spelled, later, split, matched⟩ := Shown.spelled shown spells
      cases none.symm.trans (matchToken?_eq_some.mpr ⟨named, spelled, split, matched⟩)

theorem Shown.no_backslash (shown : Shown text other) (apart : text.head?.any isBackslash = false) :
    other.head?.any isBackslash = false := by
  cases other with
  | nil => rfl
  | cons unit rest =>
      cases one : isBackslash unit with
      | false => exact one
      | true =>
          obtain ⟨first, later, rfl, same, -⟩ := Shown.ascii_right shown (of_decide_eq_true one)
          simp [isBackslash, isAscii, same] at apart

/-! Each turn of the scan as an equation. -/

theorem scan_pair {first second : β} {rest : List β} (one : isBackslash first = true) (two : isBackslash second = true) :
    scan noRegion prior (first :: second :: rest) = .backslash :: scan noRegion (second :: first :: prior) rest := by
  rw [scan]
  simp [noRegion, one, two]

theorem scan_literal {first : β} {units rest : List β} (one : isBackslash first = true) (named : IsId id)
    (spells : Spells units (tokenText id)) : ∃ reached,
      scan noRegion prior (first :: (units ++ rest)) = .literal id :: scan noRegion reached rest := by
  have token : matchToken? (units ++ rest) = some (id, rest) := matchToken?_eq_some.mpr ⟨named, units, rfl, spells⟩
  have apart : (units ++ rest).head?.any isBackslash = false := by
    rcases units with _ | ⟨unit, units⟩
    · cases spells
    · simp only [Spells, tokenText, List.map_cons, List.cons.injEq] at spells
      simp [isBackslash, isAscii, spells.1]
  refine ⟨((units ++ rest).take (id.length + 3)).reverse ++ first :: prior, ?_⟩
  rw [scan]
  simp only [noRegion, Nat.lt_irrefl, if_false, one, Bool.true_and, apart, Bool.false_eq_true]
  split
  · rename_i found
    rw [if_pos one] at found
    cases token.symm.trans found
    rfl
  · rename_i found
    rw [if_pos one] at found
    cases token.symm.trans found

theorem scan_token {units rest : List β} (named : IsId id) (spells : Spells units (tokenText id)) : ∃ reached,
    scan noRegion prior (units ++ rest) = .mention id :: scan noRegion reached rest := by
  have token : matchToken? (units ++ rest) = some (id, rest) := matchToken?_eq_some.mpr ⟨named, units, rfl, spells⟩
  rcases units with _ | ⟨unit, units⟩
  · cases spells
  · have opened : TextUnit.ascii? unit = some '<' := by
      simp only [Spells, tokenText, List.map_cons, List.cons.injEq] at spells
      exact spells.1
    have apart : isBackslash unit = false := by simp [isBackslash, isAscii, opened]
    have opens : isAscii '<' unit = true := by simp [isAscii, opened]
    refine ⟨((unit :: (units ++ rest)).take (id.length + 3)).reverse ++ prior, ?_⟩
    rw [List.cons_append] at token ⊢
    rw [scan]
    simp only [noRegion, Nat.lt_irrefl, if_false, apart, Bool.false_and, Bool.false_eq_true]
    split
    · rename_i found
      rw [if_neg (Bool.eq_false_iff.mp apart)] at found
      cases found
    · split
      · rename_i found
        rw [if_pos opens] at found
        cases token.symm.trans found
        rfl
      · rename_i found
        rw [if_pos opens] at found
        cases token.symm.trans found

theorem scan_unit {unit : β} {rest : List β} (none : matchToken? (unit :: rest) = none)
    (alone : isBackslash unit = true → rest.head?.any isBackslash = false ∧ matchToken? rest = Option.none) :
    scan noRegion prior (unit :: rest) = .unit unit :: scan noRegion (unit :: prior) rest := by
  have unpaired : (isBackslash unit && rest.head?.any isBackslash) = false := by
    cases one : isBackslash unit with
    | false => rfl
    | true => rw [(alone one).1]; rfl
  have unescaped : (if isBackslash unit then matchToken? rest else Option.none) = Option.none := by
    split
    · rename_i one
      exact (alone one).2
    · rfl
  have unopened : (if isAscii '<' unit then matchToken? (unit :: rest) else Option.none) = Option.none := by
    rw [none, ite_self]
  rw [scan]
  simp only [noRegion, Nat.lt_irrefl, if_false, unpaired, Bool.false_eq_true]
  split
  · rename_i found
    cases unescaped.symm.trans found
  · split
    · rename_i found
      cases unopened.symm.trans found
    · rfl

theorem scan_silent {units rest : List β} (silent : ∀ unit ∈ units, TextUnit.ascii? unit = none) : ∃ reached,
    (scan noRegion prior (units ++ rest)).filterMap Piece.mention? = (scan noRegion reached rest).filterMap Piece.mention? := by
  induction units generalizing prior with
  | nil => exact ⟨prior, rfl⟩
  | cons unit units ih =>
      have quiet := silent unit List.mem_cons_self
      obtain ⟨reached, same⟩ := @ih (unit :: prior) fun other member => silent other (List.mem_cons_of_mem _ member)
      refine ⟨reached, ?_⟩
      rw [List.cons_append, scan_unit (matchToken?_of_ne (by simp [quiet])) (by simp [isBackslash, isAscii, quiet])]
      exact same

/-- Texts that show the same characters have the same mentions. -/
theorem Scans.shown {before text : List α} {pieces : List (Piece α)} (scans : Scans noRegion before text pieces)
    (shown : Shown text other) : (scan noRegion prior other).filterMap Piece.mention? = pieces.filterMap Piece.mention? := by
  induction scans generalizing other prior with
  | done =>
      cases shown
      rw [scan]
      rfl
  | code begins => exact absurd begins (Nat.lt_irrefl 0)
  | backslash one two _ ih =>
      obtain ⟨first, rest, rfl, same, tail⟩ := Shown.ascii_left shown (of_decide_eq_true one)
      obtain ⟨second, rest, rfl, again, tail⟩ := Shown.ascii_left tail (of_decide_eq_true two)
      rw [scan_pair (decide_eq_true same) (decide_eq_true again)]
      exact ih tail
  | literal one named spells _ ih =>
      obtain ⟨first, rest, rfl, same, tail⟩ := Shown.ascii_left shown (of_decide_eq_true one)
      obtain ⟨spelled, rest, rfl, matched, tail⟩ := Shown.spells tail spells
      obtain ⟨reached, step⟩ := @scan_literal β _ prior _ first spelled rest (decide_eq_true same) named matched
      rw [step]
      exact ih tail
  | @mention _ _ _ id _ named spells _ ih =>
      obtain ⟨spelled, rest, rfl, matched, tail⟩ := Shown.spells shown spells
      obtain ⟨reached, step⟩ := @scan_token β _ prior _ spelled rest named matched
      rw [step]
      exact congrArg (id :: ·) (ih tail)
  | @unit _ later unit _ none alone _ ih =>
      cases shows : TextUnit.ascii? unit with
      | some char =>
          obtain ⟨first, rest, rfl, same, tail⟩ := Shown.ascii_left shown shows
          rw [scan_unit (Shown.no_token shown none)]
          · exact ih tail
          · intro one
            have paired : isBackslash unit = true := by
              rw [isBackslash, isAscii, shows, ← same]
              exact one
            obtain ⟨apart, lone⟩ := alone paired
            exact ⟨Shown.no_backslash tail apart, Shown.no_token tail lone⟩
      | none =>
          obtain ⟨units, rest, rfl, silent, tail⟩ := Shown.other_left shown shows
          obtain ⟨reached, same⟩ := @scan_silent β _ prior units rest silent
          rw [same]
          exact ih tail

end Shown

/-! ### The two programs -/

theorem parseMentions_utf16 {text : List Char} : parseMentions (utf16 text) = extractMentions text := by
  have same : (scan noRegion [] (utf16 text)).filterMap Piece.mention? = (scan noRegion [] text).filterMap Piece.mention? :=
    Scans.shown scan_scans shown_utf16
  rw [scan_mentions, scan_mentions] at same
  unfold parseMentions extractMentions
  rw [same]

theorem shownMentions_eq {content : CodeUnits} : shownMentions content =
    ((unescapedTokens content).filter fun found => !inCode 0 (scanMentionContent content) found.1).map Prod.snd := by
  have scans := @scan_scans UInt16 _ content codeRegion []
  rw [shownMentions, scanMentionContent, scans.mentions codeRegion_closed settled_start rfl, unescapedTokens, List.filter_filter]
  refine congrArg (List.map Prod.snd) (List.filter_congr fun found _ => ?_)
  rw [Bool.and_comm]
  rfl

def quotedMention : List Char := ['`', '<', '@', 'b', 'o', 'b', '>', '`']

end MeshTalk.Mentions
