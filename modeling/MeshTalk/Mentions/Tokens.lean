import MeshTalk.Library.TextUnits

namespace MeshTalk.Mentions

open MeshTalk.Library

/-! # Mention tokens

`<@id>` names a peer, unless an odd run of backslashes precedes it.  The backend
and the terminal client scan for tokens with the same regular expression, one over
code points and the other over code units.
-/

abbrev PeerName := List Char

def isIdChar (char : Char) : Bool := char.isAlphanum || char = '_' || char = '-'

variable {α : Type} [TextUnit α]

def isAscii (char : Char) (unit : α) : Bool := TextUnit.ascii? unit = some char

/-- The rest of a text that begins with a character. -/
def after (char : Char) : List α → Option (List α)
  | [] => none
  | unit :: rest => if isAscii char unit then some rest else none

/-- `[A-Za-z0-9_-]*`, which takes all it can. -/
def takeId : List α → PeerName × List α
  | [] => ([], [])
  | unit :: rest =>
      match TextUnit.ascii? unit with
      | some char => if isIdChar char then (char :: (takeId rest).1, (takeId rest).2) else ([], unit :: rest)
      | none => ([], unit :: rest)

/-- `<@([A-Za-z0-9_-]+)>` at the start of a text: the id, and what follows. -/
def matchToken? (text : List α) : Option (PeerName × List α) :=
  match (after '<' text).bind (after '@') with
  | none => none
  | some named =>
      if (takeId named).1 = [] then none
      else (after '>' (takeId named).2).map fun later => ((takeId named).1, later)

def tokenText (id : PeerName) : List Char := '<' :: '@' :: (id ++ ['>'])

/-- Units that show these characters. -/
def Spells (units : List α) (chars : List Char) : Prop := units.map TextUnit.ascii? = chars.map some

/-- What the class of the regular expression takes. -/
def IsId (id : PeerName) : Prop := id ≠ [] ∧ ∀ char ∈ id, isIdChar char = true

variable {text later rest units : List α} {unit : α} {id : PeerName} {char : Char}

theorem after_eq_some : after char text = some rest ↔ ∃ unit, text = unit :: rest ∧ TextUnit.ascii? unit = some char := by
  cases text with
  | nil => simp [after]
  | cons unit others =>
      simp only [after, isAscii, decide_eq_true_eq]
      constructor
      · intro found
        split at found
        · rename_i shown
          cases found
          exact ⟨unit, rfl, shown⟩
        · cases found
      · rintro ⟨first, same, shown⟩
        cases same
        rw [if_pos shown]

theorem takeId_spec : ∃ units, text = units ++ (takeId text).2 ∧ Spells units (takeId text).1 ∧
    ∀ char ∈ (takeId text).1, isIdChar char = true := by
  induction text with
  | nil => exact ⟨[], rfl, rfl, fun _ member => absurd member List.not_mem_nil⟩
  | cons unit rest ih =>
      obtain ⟨units, split, spells, chars⟩ := ih
      rw [takeId]
      cases shown : TextUnit.ascii? unit with
      | none => exact ⟨[], rfl, rfl, fun _ member => absurd member List.not_mem_nil⟩
      | some char =>
          by_cases taken : isIdChar char = true
          · refine ⟨unit :: units, ?_, ?_, ?_⟩
            · simp only [taken, if_true]
              exact congrArg (unit :: ·) split
            · simp only [taken, if_true, Spells, List.map_cons, shown]
              exact congrArg (some char :: ·) spells
            · simp only [taken, if_true]
              intro other member
              rcases List.mem_cons.mp member with rfl | inside
              · exact taken
              · exact chars other inside
          · simp only [taken]
            exact ⟨[], rfl, rfl, fun _ member => absurd member List.not_mem_nil⟩

/-- The class stops at what is not in it. -/
theorem takeId_append {stop : Char} (spells : Spells units id) (chars : ∀ char ∈ id, isIdChar char = true)
    (shown : TextUnit.ascii? unit = some stop) (outside : isIdChar stop = false) :
    takeId (units ++ unit :: later) = (id, unit :: later) := by
  induction units generalizing id with
  | nil =>
      have empty : id = [] := by simpa [Spells] using spells.symm
      subst empty
      simp [takeId, shown, outside]
  | cons first rest ih =>
      cases id with
      | nil => simp [Spells] at spells
      | cons char id =>
          simp only [Spells, List.map_cons, List.cons.injEq] at spells
          have next := ih spells.2 fun other member => chars other (List.mem_cons_of_mem _ member)
          rw [List.cons_append, takeId, spells.1]
          simp only [chars char List.mem_cons_self, if_true, next]

/-- A token is what spells one. -/
theorem matchToken?_eq_some : matchToken? text = some (id, later) ↔
    IsId id ∧ ∃ units, text = units ++ later ∧ Spells units (tokenText id) := by
  constructor
  · intro found
    unfold matchToken? at found
    split at found
    · cases found
    · rename_i named opened
      obtain ⟨mention, bracket, sign⟩ := Option.bind_eq_some_iff.mp opened
      obtain ⟨first, rfl, shownFirst⟩ := after_eq_some.mp bracket
      obtain ⟨second, rfl, shownSecond⟩ := after_eq_some.mp sign
      split at found
      · cases found
      · rename_i nonempty
        obtain ⟨rest, closed, same⟩ := Option.map_eq_some_iff.mp found
        cases same
        obtain ⟨last, remaining, shownLast⟩ := after_eq_some.mp closed
        obtain ⟨units, split, spells, chars⟩ := @takeId_spec α _ named
        refine ⟨⟨nonempty, chars⟩, first :: second :: (units ++ [last]), ?_, ?_⟩
        · rw [remaining] at split
          rw [split]
          simp
        · unfold Spells at spells ⊢
          simp [tokenText, shownFirst, shownSecond, shownLast, spells]
  · rintro ⟨⟨nonempty, chars⟩, units, rfl, spells⟩
    unfold Spells tokenText at spells
    rcases units with _ | ⟨first, _ | ⟨second, named⟩⟩
    · cases spells
    · simp at spells
    · simp only [List.map_cons, List.cons.injEq, List.map_append] at spells
      obtain ⟨shownFirst, shownSecond, spelled⟩ := spells
      obtain ⟨inner, outer, rfl, inside, closing⟩ := List.map_eq_append_iff.mp spelled
      obtain ⟨last, rfl, shownLast⟩ := List.map_eq_singleton_iff.mp closing
      have taken : takeId (inner ++ last :: later) = (id, last :: later) := takeId_append inside chars shownLast (by decide)
      have opened : (after '<' (first :: second :: (inner ++ [last]) ++ later)).bind (after '@') =
          some (inner ++ last :: later) := by
        simp [after, isAscii, shownFirst, shownSecond]
      rw [matchToken?, opened]
      simp only [taken, nonempty, if_false, after, isAscii, shownLast, decide_true, if_true, Option.map_some]

theorem Spells.length {chars : List Char} (spells : Spells units chars) : units.length = chars.length := by
  have sizes := congrArg List.length spells
  simpa using sizes

theorem matchToken?_length (found : matchToken? text = some (id, later)) : text.length = id.length + 3 + later.length := by
  obtain ⟨-, units, rfl, spells⟩ := matchToken?_eq_some.mp found
  rw [List.length_append, spells.length]
  simp [tokenText]

/-! ### All tokens of a text -/

/-- `finditer` and `matchAll`: the tokens with their positions, none within another. -/
def findTokens (position : Nat) : List α → List (Nat × PeerName)
  | [] => []
  | unit :: rest =>
      match found : matchToken? (unit :: rest) with
      | some (id, later) => (position, id) :: findTokens (position + id.length + 3) later
      | none => findTokens (position + 1) rest
termination_by text => text.length
decreasing_by
  · have := matchToken?_length found
    omega
  · simp

def isBackslash (unit : α) : Bool := isAscii '\\' unit

/-- An odd run of backslashes ends right before a position. -/
def isEscaped (content : List α) (position : Nat) : Bool :=
  ((content.take position).reverse.takeWhile isBackslash).length % 2 = 1

local instance : LawfulBEq PeerName := inferInstance

def uniqueMentions (ids : List PeerName) : List PeerName :=
  ids.foldl (fun mentions id => if id ∈ mentions then mentions else mentions ++ [id]) []

def unescapedTokens (content : List α) : List (Nat × PeerName) :=
  (findTokens 0 content).filter fun found => !isEscaped content found.1

/-- The backend's. -/
def extractMentions (content : List Char) : List PeerName := uniqueMentions ((unescapedTokens content).map Prod.snd)

/-- The terminal client's. -/
def parseMentions (content : List UInt16) : List PeerName := uniqueMentions ((unescapedTokens content).map Prod.snd)

/-! ### The scan that renders a text -/

/-- What one turn of the scan passes on. -/
inductive Piece (α : Type) where
  /-- `\\`, for one backslash. -/
  | backslash
  /-- `\<@id>`, for the token itself. -/
  | literal (id : PeerName)
  | mention (id : PeerName)
  | code (units : List α)
  | unit (unit : α)
deriving Repr, DecidableEq

namespace Piece

/-- How many units a piece takes of the text. -/
def size {β : Type} : Piece β → Nat
  | .backslash => 2
  | .literal id => id.length + 4
  | .mention id => id.length + 3
  | .code units => units.length
  | .unit _ => 1

def mention? {β : Type} : Piece β → Option PeerName
  | .mention id => some id
  | _ => none

end Piece

/-- The loop of the renderers.  A code region is passed on as it is; `region` is its
length, given what is before it with the nearest unit first, and 0 where none begins. -/
def scan (region : List α → List α → Nat) (prior : List α) : List α → List (Piece α)
  | [] => []
  | unit :: rest =>
      if 0 < region prior (unit :: rest) then
        let length := region prior (unit :: rest) - 1
        .code (unit :: rest.take length) :: scan region ((rest.take length).reverse ++ unit :: prior) (rest.drop length)
      else if isBackslash unit && rest.head?.any isBackslash then
        .backslash :: scan region (rest.head?.toList ++ unit :: prior) rest.tail
      else
        match _escaped : if isBackslash unit then matchToken? rest else none with
        | some (id, later) =>
            .literal id :: scan region ((rest.take (id.length + 3)).reverse ++ unit :: prior) later
        | none =>
            match _found : if isAscii '<' unit then matchToken? (unit :: rest) else none with
            | some (id, later) =>
                .mention id :: scan region (((unit :: rest).take (id.length + 3)).reverse ++ prior) later
            | none => .unit unit :: scan region (unit :: prior) rest
termination_by text => text.length
decreasing_by
  · simp only [List.length_drop, List.length_cons]
    omega
  · simp only [List.length_tail, List.length_cons]
    omega
  · split at _escaped
    · have := matchToken?_length _escaped
      simp only [List.length_cons]
      omega
    · cases _escaped
  · split at _found
    · have := matchToken?_length _found
      omega
    · cases _found
  · simp

def noRegion : List α → List α → Nat := fun _ _ => 0

def everyonePeerId : PeerName := ['e', 'v', 'e', 'r', 'y', 'o', 'n', 'e']

def unknownName : List Char := ['u', 'n', 'k', 'n', 'o', 'w', 'n']

namespace Piece

/-- What `render_mentions_plain` appends. -/
def plainText (names : PeerName → Option (List Char)) : Piece Char → List Char
  | .backslash => ['\\']
  | .literal id => tokenText id
  | .mention id => if id = everyonePeerId then '@' :: everyonePeerId else '@' :: (names id).getD unknownName
  | .code units => units
  | .unit char => [char]

/-- What a piece was in the text. -/
def source : Piece Char → List Char
  | .backslash => ['\\', '\\']
  | .literal id => '\\' :: tokenText id
  | .mention id => tokenText id
  | .code units => units
  | .unit char => [char]

end Piece

def renderMentionsPlain (content : List Char) (names : PeerName → Option (List Char)) : List Char :=
  (scan noRegion [] content).flatMap (Piece.plainText names)

/-! ### The scan as a reading of the text -/

/-- What the scan does, turn by turn. -/
inductive Scans (region : List α → List α → Nat) : List α → List α → List (Piece α) → Prop where
  | done {prior : List α} : Scans region prior [] []
  | code {prior taken later : List α} {pieces : List (Piece α)} (begins : 0 < region prior (taken ++ later))
      (some : taken ≠ []) (length : taken = (taken ++ later).take (region prior (taken ++ later)))
      (rest : Scans region (taken.reverse ++ prior) later pieces) :
      Scans region prior (taken ++ later) (.code taken :: pieces)
  | backslash {prior later : List α} {first second : α} {pieces : List (Piece α)} (one : isBackslash first = true)
      (two : isBackslash second = true) (rest : Scans region (second :: first :: prior) later pieces) :
      Scans region prior (first :: second :: later) (.backslash :: pieces)
  | literal {prior units later : List α} {first : α} {id : PeerName} {pieces : List (Piece α)}
      (one : isBackslash first = true) (named : IsId id) (spells : Spells units (tokenText id))
      (rest : Scans region (units.reverse ++ first :: prior) later pieces) :
      Scans region prior (first :: (units ++ later)) (.literal id :: pieces)
  | mention {prior units later : List α} {id : PeerName} {pieces : List (Piece α)}
      (named : IsId id) (spells : Spells units (tokenText id)) (rest : Scans region (units.reverse ++ prior) later pieces) :
      Scans region prior (units ++ later) (.mention id :: pieces)
  | unit {prior later : List α} {unit : α} {pieces : List (Piece α)} (none : matchToken? (unit :: later) = none)
      (alone : isBackslash unit = true → later.head?.any isBackslash = false ∧ matchToken? later = Option.none)
      (rest : Scans region (unit :: prior) later pieces) : Scans region prior (unit :: later) (.unit unit :: pieces)

variable {region : List α → List α → Nat} {prior : List α} {pieces : List (Piece α)} {position : Nat} {content : List α}

theorem matchToken?_of_ne (other : TextUnit.ascii? unit ≠ some '<') : matchToken? (unit :: rest) = none := by
  simp [matchToken?, after, isAscii, other]

theorem scan_scans : Scans region prior text (scan region prior text) := by
  induction size : text.length using Nat.strongRecOn generalizing prior text with
  | ind size ih =>
      cases text with
      | nil =>
          rw [scan]
          exact .done
      | cons unit rest =>
          rw [scan]
          split
          · rename_i begins
            obtain ⟨length, sized⟩ := Nat.exists_eq_succ_of_ne_zero (Nat.ne_of_gt begins)
            rw [sized]
            have whole : unit :: rest = unit :: rest.take length ++ rest.drop length := by simp
            have next : Scans region ((rest.take length).reverse ++ unit :: prior) (rest.drop length)
                (scan region ((rest.take length).reverse ++ unit :: prior) (rest.drop length)) :=
              ih (rest.drop length).length (by subst size; simp only [List.length_cons, List.length_drop]; omega) rfl
            have step : Scans region prior (unit :: rest.take length ++ rest.drop length)
                (.code (unit :: rest.take length) ::
                  scan region ((rest.take length).reverse ++ unit :: prior) (rest.drop length)) := by
              refine .code ?_ (List.cons_ne_nil _ _) ?_ ?_
              · rw [← whole]
                exact begins
              · rw [← whole, sized]
                rfl
              · rw [List.reverse_cons, List.append_assoc]
                exact next
            rw [← whole] at step
            exact step
          · split
            · rename_i pair
              obtain ⟨one, two⟩ := (Bool.and_eq_true _ _).mp pair
              cases rest with
              | nil => cases two
              | cons second later =>
                  exact .backslash one two (ih later.length (by subst size; simp only [List.length_cons]; omega) rfl)
            · rename_i pair
              split
              · rename_i escaped
                split at escaped
                · rename_i one
                  obtain ⟨named, units, rfl, spells⟩ := matchToken?_eq_some.mp escaped
                  have taken := spells.length
                  simp only [tokenText, List.length_cons, List.length_append, List.length_nil] at taken
                  rw [List.take_left' (by omega)]
                  exact .literal one named spells (ih _ (by subst size; simp only [List.length_cons, List.length_append]; omega) rfl)
                · cases escaped
              · rename_i lone
                split
                · rename_i found
                  split at found
                  · obtain ⟨named, units, whole, spells⟩ := matchToken?_eq_some.mp found
                    have taken := spells.length
                    have sizes := congrArg List.length whole
                    simp only [tokenText, List.length_cons, List.length_append, List.length_nil] at taken sizes
                    rw [whole, List.take_left' (by omega)]
                    exact .mention named spells (ih _ (by subst size; simp only [List.length_cons]; omega) rfl)
                  · cases found
                · rename_i plain
                  refine .unit ?_ ?_ (ih _ (by subst size; simp) rfl)
                  · split at plain
                    · exact plain
                    · rename_i other
                      exact matchToken?_of_ne (by simpa [isAscii] using other)
                  · intro one
                    rw [if_pos one] at lone
                    refine ⟨?_, lone⟩
                    simpa [one] using pair

/-! ### Tokens along the scan -/

theorem findTokens_token (found : matchToken? text = some (id, later)) :
    findTokens position text = (position, id) :: findTokens (position + id.length + 3) later := by
  cases text with
  | nil => cases found
  | cons unit rest =>
      rw [findTokens]
      split
      · rename_i other remaining same
        cases found.symm.trans same
        rfl
      · rename_i none
        cases found.symm.trans none

theorem findTokens_unit (none : matchToken? (unit :: rest) = none) :
    findTokens position (unit :: rest) = findTokens (position + 1) rest := by
  rw [findTokens]
  split
  · rename_i same
    cases none.symm.trans same
  · rfl

/-- Tokens are told one by one: at the head of the text, or after its first unit. -/
theorem findTokens_cases (unit : α) (rest : List α) (position : Nat) :
    (matchToken? (unit :: rest) = none ∧ findTokens position (unit :: rest) = findTokens (position + 1) rest) ∨
      ∃ id later, matchToken? (unit :: rest) = some (id, later) ∧
        findTokens position (unit :: rest) = (position, id) :: findTokens (position + id.length + 3) later := by
  cases found : matchToken? (unit :: rest) with
  | none => exact .inl ⟨rfl, findTokens_unit found⟩
  | some token => exact .inr ⟨token.1, token.2, rfl, findTokens_token found⟩

theorem findTokens_position {found : Nat × PeerName} (member : found ∈ findTokens position text) :
    position ≤ found.1 ∧ found.1 < position + text.length := by
  induction size : text.length using Nat.strongRecOn generalizing position text with
  | ind size ih =>
      cases text with
      | nil =>
          rw [findTokens] at member
          cases member
      | cons unit rest =>
          rcases findTokens_cases unit rest position with ⟨-, next⟩ | ⟨id, later, token, next⟩
          · rw [next] at member
            have inside := ih rest.length (by subst size; simp) member rfl
            simp only [List.length_cons] at size
            omega
          · have taken := matchToken?_length token
            rw [next] at member
            rcases List.mem_cons.mp member with rfl | beyond
            · simp only [List.length_cons] at taken size ⊢
              omega
            · have inside := ih later.length (by omega) beyond rfl
              omega

/-- A backtick or a line break, which no token contains. -/
def Closes (unit : α) : Prop := TextUnit.ascii? unit = some '`' ∨ TextUnit.ascii? unit = some '\n'

theorem Closes.not_backslash (closes : Closes unit) : isBackslash unit = false := by
  rcases closes with shown | shown <;> simp [isBackslash, isAscii, shown]

theorem not_mem_tokenText (named : IsId id) : '`' ∉ tokenText id ∧ '\n' ∉ tokenText id := by
  unfold tokenText
  simp only [List.mem_cons, List.mem_append, not_or]
  refine ⟨⟨by decide, by decide, fun member => ?_, by decide, List.not_mem_nil⟩,
    ⟨by decide, by decide, fun member => ?_, by decide, List.not_mem_nil⟩⟩
  · exact absurd (named.2 _ member) (by decide)
  · exact absurd (named.2 _ member) (by decide)

theorem Closes.not_mem (named : IsId id) (spells : Spells units (tokenText id)) (closes : Closes unit) : unit ∉ units := by
  intro member
  have shown : TextUnit.ascii? unit ∈ (tokenText id).map some := spells ▸ List.mem_map_of_mem member
  obtain ⟨backtick, newline⟩ := not_mem_tokenText named
  rcases closes with same | same
  · rw [same] at shown
    exact backtick (by simpa using shown)
  · rw [same] at shown
    exact newline (by simpa using shown)

/-- No token reaches over the end of what closes. -/
theorem matchToken?_append {front : List α} (closes : Closes unit) :
    matchToken? (front ++ [unit] ++ rest) = (matchToken? (front ++ [unit])).map fun found => (found.1, found.2 ++ rest) := by
  cases found : matchToken? (front ++ [unit]) with
  | some token =>
      obtain ⟨id, later⟩ := token
      obtain ⟨named, units, whole, spells⟩ := matchToken?_eq_some.mp found
      refine matchToken?_eq_some.mpr ⟨named, units, ?_, spells⟩
      rw [whole, List.append_assoc]
  | none =>
      cases extended : matchToken? (front ++ [unit] ++ rest) with
      | none => rfl
      | some token =>
          obtain ⟨id, later⟩ := token
          obtain ⟨named, units, whole, spells⟩ := matchToken?_eq_some.mp extended
          rcases List.append_eq_append_iff.mp whole with ⟨beyond, longer, -⟩ | ⟨inner, shorter, -⟩
          · have inside : unit ∈ units := by
              rw [longer]
              simp
            exact absurd inside (closes.not_mem named spells)
          · have token : matchToken? (front ++ [unit]) = some (id, inner) :=
              matchToken?_eq_some.mpr ⟨named, units, shorter, spells⟩
            cases found.symm.trans token

theorem findTokens_append {front : List α} (closes : Closes unit) : findTokens position (front ++ [unit] ++ rest) =
    findTokens position (front ++ [unit]) ++ findTokens (position + front.length + 1) rest := by
  induction size : front.length using Nat.strongRecOn generalizing position front with
  | ind count ih =>
      have joined : matchToken? (front ++ [unit] ++ rest) = _ := matchToken?_append closes
      cases found : matchToken? (front ++ [unit]) with
      | some token =>
          obtain ⟨id, later⟩ := token
          obtain ⟨named, units, whole, spells⟩ := matchToken?_eq_some.mp found
          have ends : ∃ inner, later = inner ++ [unit] := by
            rcases List.eq_nil_or_concat later with rfl | ⟨inner, last, rfl⟩
            · have inside : unit ∈ units := by
                rw [List.append_nil] at whole
                rw [← whole]
                simp
              exact absurd inside (closes.not_mem named spells)
            · rw [List.concat_eq_append, ← List.append_assoc] at whole
              obtain ⟨-, lasts⟩ := List.append_inj' whole rfl
              cases lasts
              exact ⟨inner, List.concat_eq_append⟩
          obtain ⟨inner, rfl⟩ := ends
          have sizes := congrArg List.length whole
          have taken := spells.length
          simp only [tokenText, List.length_cons, List.length_append, List.length_nil] at sizes taken
          rw [found, Option.map_some] at joined
          rw [findTokens_token found, findTokens_token joined, ih inner.length (by omega) rfl, List.cons_append]
          congr 3
          change position + id.length + 3 + inner.length + 1 = position + count + 1
          omega
      | none =>
          rw [found, Option.map_none] at joined
          cases front with
          | nil =>
              have none : matchToken? (unit :: rest) = Option.none := joined
              subst size
              change findTokens position (unit :: rest) = findTokens position [unit] ++ findTokens (position + 1) rest
              rw [findTokens_unit none, findTokens_unit found, findTokens]
              rfl
          | cons first others =>
              have next : findTokens (position + 1) (others ++ [unit] ++ rest) =
                  findTokens (position + 1) (others ++ [unit]) ++ findTokens (position + 1 + others.length + 1) rest :=
                ih others.length (by subst size; simp) rfl
              simp only [List.cons_append] at found joined next ⊢
              rw [findTokens_unit found, findTokens_unit joined, next]
              congr 2
              simp only [List.length_cons] at size
              omega

/-- Whether a position lies in a code region; the pieces begin at `start`. -/
def inCode {β : Type} : Nat → List (Piece β) → Nat → Bool
  | _, [], _ => false
  | start, .code units :: pieces, position =>
      (start ≤ position && position < start + units.length) || inCode (start + units.length) pieces position
  | start, piece :: pieces, position => inCode (start + piece.size) pieces position

/-- A code region ends behind what closes, or with the text. -/
def ClosedRegions (region : List α → List α → Nat) : Prop :=
  ∀ prior text, 0 < region prior text → text.length ≤ region prior text ∨
    ∃ front unit rest, text = front ++ [unit] ++ rest ∧ front.length + 1 = region prior text ∧ Closes unit

def oddBackslashes (prior : List α) : Bool := (prior.takeWhile isBackslash).length % 2 = 1

/-- No unpaired backslash is before the text, or it escapes nothing. -/
def Settled (prior text : List α) : Prop :=
  oddBackslashes prior = false ∨ (text.head?.any isBackslash = false ∧ matchToken? text = none)

theorem isEscaped_here : isEscaped (prior.reverse ++ text) prior.length = oddBackslashes prior := by
  unfold isEscaped oddBackslashes
  rw [List.take_left' List.length_reverse, List.reverse_reverse]

theorem oddBackslashes_of_not {unit : α} (other : isBackslash unit = false) : oddBackslashes (unit :: prior) = false := by
  simp [oddBackslashes, other]

theorem oddBackslashes_cons {unit : α} (one : isBackslash unit = true) :
    oddBackslashes (unit :: prior) = !oddBackslashes prior := by
  simp only [oddBackslashes, List.takeWhile_cons, one, if_true, List.length_cons]
  rw [← decide_not, decide_eq_decide]
  omega

theorem inCode_before {β : Type} (pieces : List (Piece β)) {start position : Nat} (before : position < start) :
    inCode start pieces position = false := by
  induction pieces generalizing start with
  | nil => rfl
  | cons piece rest ih =>
      have later : ∀ size, inCode (start + size) rest position = false := fun size => ih (by omega)
      cases piece with
      | code units =>
          rw [inCode, later]
          simp
          omega
      | _ => exact later _

/-- After a token. -/
theorem Spells.settled (spells : Spells units (tokenText id)) : Settled (units.reverse ++ prior) text := by
  refine .inl ?_
  obtain ⟨front, unit, rfl⟩ : ∃ front unit, units = front ++ [unit] := by
    rcases List.eq_nil_or_concat units with rfl | ⟨front, unit, rfl⟩
    · cases spells
    · exact ⟨front, unit, List.concat_eq_append⟩
  have last : TextUnit.ascii? unit = some '>' := by
    unfold Spells tokenText at spells
    rw [List.map_append, ← List.cons_append, ← List.cons_append, List.map_append] at spells
    have ends := (List.append_inj' spells rfl).2
    simpa using ends
  rw [List.reverse_append, List.reverse_singleton, List.append_assoc, List.singleton_append]
  exact oddBackslashes_of_not (by simp [isBackslash, isAscii, last])

theorem Scans.nothing (scans : Scans region prior text pieces) (empty : text = []) : pieces = [] := by
  cases scans with
  | done => rfl
  | code _ some _ _ => exact absurd (List.append_eq_nil_iff.mp empty).1 some
  | mention _ spells _ =>
      rw [(List.append_eq_nil_iff.mp empty).1] at spells
      cases spells
  | _ => cases empty

theorem Settled.even {unit : α} (settled : Settled prior (unit :: rest)) (one : isBackslash unit = true) :
    oddBackslashes prior = false := by
  rcases settled with even | ⟨other, -⟩
  · exact even
  · simp [one] at other

theorem not_token_of_backslash {unit : α} (one : isBackslash unit = true) : matchToken? (unit :: rest) = none := by
  refine matchToken?_of_ne fun shown => ?_
  simp [isBackslash, isAscii, shown] at one

/-- A code region is passed over with every token in it. -/
theorem tokens_beyond_code {taken later : List α} {pieces : List (Piece α)} {front : List α} {unit : α} {start : Nat}
    (ends : taken = front ++ [unit]) (closes : Closes unit) :
    ((findTokens start (taken ++ later)).filter fun found =>
        !isEscaped content found.1 && !inCode start (.code taken :: pieces) found.1) =
      (findTokens (start + taken.length) later).filter fun found =>
        !isEscaped content found.1 && !inCode (start + taken.length) pieces found.1 := by
  have size : start + front.length + 1 = start + taken.length := by
    rw [ends, List.length_append]
    rfl
  have inside : ((findTokens start taken).filter fun found =>
      !isEscaped content found.1 && !inCode start (.code taken :: pieces) found.1) = [] := by
    refine List.filter_eq_nil_iff.mpr fun found member => ?_
    obtain ⟨above, below⟩ := findTokens_position member
    simp [inCode, above, below]
  have beyond : ∀ found ∈ findTokens (start + taken.length) later,
      inCode start (.code taken :: pieces) found.1 = inCode (start + taken.length) pieces found.1 := by
    intro found member
    have above := (findTokens_position member).1
    have outside : ¬ found.1 < start + taken.length := Nat.not_lt.mpr above
    simp [inCode, outside]
  have tokens : findTokens start (taken ++ later) = findTokens start taken ++ findTokens (start + taken.length) later := by
    rw [ends, findTokens_append closes, List.length_append]
    rfl
  rw [tokens, List.filter_append, inside, List.nil_append]
  refine List.filter_congr fun found member => ?_
  rw [beyond found member]

/-- The mentions of the scan are the tokens, one by one, that are not escaped and
lie in no code region. -/
theorem Scans.mentions (closed : ClosedRegions region) (scans : Scans region prior text pieces) (settled : Settled prior text)
    (whole : content = prior.reverse ++ text) :
    pieces.filterMap Piece.mention? = ((findTokens prior.length text).filter fun found =>
      !isEscaped content found.1 && !inCode prior.length pieces found.1).map Prod.snd := by
  induction scans with
  | done =>
      rw [findTokens]
      rfl
  | @code prior taken later pieces begins some length rest ih =>
      change pieces.filterMap Piece.mention? = _
      have position : (taken.reverse ++ prior).length = prior.length + taken.length := by
        rw [List.length_append, List.length_reverse, Nat.add_comm]
      have same : content = (taken.reverse ++ prior).reverse ++ later := by
        rw [whole]
        simp
      rcases closed prior (taken ++ later) begins with all | ⟨front, unit, remaining, split, size, closes⟩
      · have nothing : later = [] := by
          have taking := congrArg List.length length
          rw [List.length_take, Nat.min_eq_right all, List.length_append] at taking
          exact List.length_eq_zero_iff.mp (by omega)
        have last : pieces = [] := rest.nothing nothing
        subst nothing last
        have inside : ((findTokens prior.length (taken ++ [])).filter fun found =>
            !isEscaped content found.1 && !inCode prior.length [.code taken] found.1) = [] := by
          rw [List.append_nil]
          refine List.filter_eq_nil_iff.mpr fun found member => ?_
          obtain ⟨above, below⟩ := findTokens_position member
          simp [inCode, above, below]
        rw [inside]
        rfl
      · have ends : taken = front ++ [unit] := by
          rw [length, ← size, split, List.take_left' (by simp)]
        have settledLater : Settled (taken.reverse ++ prior) later := by
          refine .inl ?_
          rw [ends, List.reverse_append]
          exact oddBackslashes_of_not closes.not_backslash
        rw [tokens_beyond_code ends closes, ih settledLater same, position]
  | @backslash prior later first second pieces one two rest ih =>
      have even := settled.even one
      have tokens : findTokens prior.length (first :: second :: later) = findTokens (prior.length + 1 + 1) later := by
        rw [findTokens_unit (not_token_of_backslash one), findTokens_unit (not_token_of_backslash two)]
      rw [tokens]
      refine ih (.inl ?_) (by rw [whole]; simp)
      rw [oddBackslashes_cons two, oddBackslashes_cons one, even]
      rfl
  | @literal prior units later first id pieces one named spells rest ih =>
      have even := settled.even one
      have token : matchToken? (units ++ later) = some (id, later) :=
        matchToken?_eq_some.mpr ⟨named, units, rfl, spells⟩
      have escaped : isEscaped content (prior.length + 1) = true := by
        have here : content = (first :: prior).reverse ++ (units ++ later) := by
          rw [whole]
          simp
        rw [here]
        exact isEscaped_here.trans (by rw [oddBackslashes_cons one, even]; rfl)
      have position : (units.reverse ++ first :: prior).length = prior.length + 1 + id.length + 3 := by
        have size := spells.length
        simp only [tokenText, List.length_cons, List.length_append, List.length_nil, List.length_reverse] at size ⊢
        omega
      have same := ih spells.settled (by rw [whole]; simp)
      rw [position] at same
      rw [findTokens_unit (not_token_of_backslash one), findTokens_token token,
        List.filter_cons_of_neg (by rw [escaped]; exact Bool.false_ne_true)]
      have start : prior.length + Piece.size (.literal id : Piece α) = prior.length + 1 + id.length + 3 := by
        change prior.length + (id.length + 4) = _
        omega
      change pieces.filterMap Piece.mention? = _
      rw [same]
      simp only [inCode, start]
  | @mention prior units later id pieces named spells rest ih =>
      have token : matchToken? (units ++ later) = some (id, later) :=
        matchToken?_eq_some.mpr ⟨named, units, rfl, spells⟩
      have even : oddBackslashes prior = false := by
        rcases settled with even | ⟨-, none⟩
        · exact even
        · cases none.symm.trans token
      have position : (units.reverse ++ prior).length = prior.length + id.length + 3 := by
        have size := spells.length
        simp only [tokenText, List.length_cons, List.length_append, List.length_nil, List.length_reverse] at size ⊢
        omega
      have unescaped : isEscaped content prior.length = false := by
        rw [whole]
        exact isEscaped_here.trans even
      have outside : inCode prior.length (.mention id :: pieces) prior.length = false :=
        inCode_before pieces (show prior.length < prior.length + (id.length + 3) by omega)
      have same := ih spells.settled (by rw [whole]; simp)
      rw [position] at same
      rw [findTokens_token token, List.filter_cons_of_pos (by rw [unescaped, outside]; rfl), List.map_cons]
      change id :: pieces.filterMap Piece.mention? = _
      rw [same]
      rfl
  | @unit prior later unit pieces none alone rest ih =>
      rw [findTokens_unit none]
      refine ih ?_ (by rw [whole]; simp)
      cases one : isBackslash unit with
      | true => exact .inr (alone one)
      | false => exact .inl (oddBackslashes_of_not one)

/-! ### Without code regions -/

theorem noRegion_closed : ClosedRegions (noRegion : List α → List α → Nat) :=
  fun _ _ begins => absurd begins (Nat.lt_irrefl 0)

theorem Scans.outside {start : Nat} (scans : Scans noRegion prior text pieces) : inCode start pieces position = false := by
  induction scans generalizing start with
  | done => rfl
  | code begins => exact absurd begins (Nat.lt_irrefl 0)
  | backslash _ _ _ ih => exact ih
  | literal _ _ _ _ ih => exact ih
  | mention _ _ _ ih => exact ih
  | unit _ _ _ ih => exact ih

theorem settled_start : Settled [] text := .inl rfl

/-- Where no region is literal, the mentions are the unescaped tokens. -/
theorem scan_mentions :
    (scan noRegion [] text).filterMap Piece.mention? = (unescapedTokens text).map Prod.snd := by
  have scans := @scan_scans α _ text noRegion []
  rw [scans.mentions noRegion_closed settled_start rfl, unescapedTokens]
  refine congrArg (List.map Prod.snd) (List.filter_congr fun found _ => ?_)
  rw [scans.outside, Bool.not_false, Bool.and_true]
  rfl

theorem spells_char {chars spelled : List Char} (spells : Spells chars spelled) : chars = spelled := by
  induction chars generalizing spelled with
  | nil => simpa [Spells] using spells.symm
  | cons char rest ih =>
      cases spelled with
      | nil => simp [Spells] at spells
      | cons other others =>
          simp only [Spells, List.map_cons, List.cons.injEq] at spells
          have same : char = other := by
            have shown := spells.1
            unfold TextUnit.ascii? at shown
            change (if char.toNat < 128 then some char else none) = some other at shown
            split at shown
            · exact Option.some.inj shown
            · cases shown
          rw [same, ih spells.2]

theorem isBackslash_char {char : Char} : isBackslash char = true ↔ char = '\\' := by
  constructor
  · intro one
    have spells : Spells [char] ['\\'] := by simpa [Spells, isBackslash, isAscii] using one
    exact List.singleton_inj.mp (spells_char spells)
  · rintro rfl
    rfl

theorem Scans.source {region : List Char → List Char → Nat} {prior text : List Char} {pieces : List (Piece Char)}
    (scans : Scans region prior text pieces) : pieces.flatMap Piece.source = text := by
  induction scans with
  | done => rfl
  | code _ _ _ _ ih => rw [List.flatMap_cons, ih]; rfl
  | backslash one two _ ih =>
      rw [List.flatMap_cons, ih, isBackslash_char.mp one, isBackslash_char.mp two]
      rfl
  | literal one _ spells _ ih =>
      rw [List.flatMap_cons, ih, isBackslash_char.mp one, spells_char spells]
      rfl
  | mention _ spells _ ih =>
      rw [List.flatMap_cons, ih, spells_char spells]
      rfl
  | unit _ _ _ ih => rw [List.flatMap_cons, ih]; rfl

/-- What is passed on as it is begins no token, and is no backslash before another
one or before a token. -/
def ReadWhole (pieces : List (Piece Char)) : Prop :=
  ∀ before char later, pieces = before ++ .unit char :: later →
    matchToken? (char :: later.flatMap Piece.source) = none ∧
      (char = '\\' → (later.flatMap Piece.source).head? ≠ some '\\' ∧ matchToken? (later.flatMap Piece.source) = none)

theorem Scans.readWhole {region : List Char → List Char → Nat} {prior text : List Char} {pieces : List (Piece Char)}
    (scans : Scans region prior text pieces) : ReadWhole pieces := by
  induction scans with
  | done => exact fun before _ _ split => absurd split (by simp)
  | @unit _ remaining char rest none alone scans ih =>
      intro before other later split
      rcases List.cons_eq_append_iff.mp split with ⟨-, same⟩ | ⟨front, -, same⟩
      · cases same
        rw [scans.source]
        refine ⟨none, fun one => ?_⟩
        obtain ⟨apart, lone⟩ := alone (isBackslash_char.mpr one)
        refine ⟨fun next => ?_, lone⟩
        rw [next] at apart
        cases apart
      · exact ih front other later same
  | code _ _ _ _ ih | backslash _ _ _ ih | literal _ _ _ _ ih | mention _ _ _ ih =>
      intro before other later split
      rcases List.cons_eq_append_iff.mp split with ⟨-, same⟩ | ⟨front, -, same⟩
      · cases same
      · exact ih front other later same

end MeshTalk.Mentions
