import Mathlib.Data.List.TakeWhile
import MeshTalk.Mentions.Composer

namespace MeshTalk.Mentions

open MeshTalk.Library

/-! # Drafts with mentions

However a draft is edited, the tracked spans keep to the names they stand for, and each
of them becomes a token that the backend finds.
-/

variable {text prev next front later : CodeUnits} {spans : List MentionSpan} {span moved : MentionSpan} {change : Change}

/-- No two spans overlap, and each stands at its name. -/
structure Tracks (text : CodeUnits) (spans : List MentionSpan) : Prop where
  apart : spans.Pairwise fun one other => one.stop ≤ other.start ∨ other.stop ≤ one.start
  fits : ∀ span ∈ spans, span.splice.Fits text

theorem tracks_nil : Tracks text [] := ⟨List.Pairwise.nil, fun _ listed => (nomatch listed)⟩

/-! ## Edits -/

/-- Where a span is after a change, if it is kept. -/
structure Moved (change : Change) (span moved : MentionSpan) : Prop where
  peerId : moved.peerId = span.peerId
  name : moved.name = span.name
  place : (span.stop ≤ change.start ∧ moved.start = span.start ∧ moved.stop = span.stop) ∨
    (change.start < span.stop ∧ change.prevEnd ≤ span.start ∧ moved.start = span.start + change.nextEnd - change.prevEnd ∧
      moved.stop = span.stop + change.nextEnd - change.prevEnd)

theorem kept_moved (kept : span.kept change = some moved) : Moved change span moved := by
  unfold MentionSpan.kept at kept
  split at kept
  · rename_i early
    cases kept
    exact ⟨rfl, rfl, .inl ⟨early, rfl, rfl⟩⟩
  · rename_i overlapping
    split at kept
    · rename_i late
      cases kept
      exact ⟨rfl, rfl, .inr ⟨by omega, late, rfl, rfl⟩⟩
    · cases kept

theorem Moved.fits (between : change.Between prev next) (fits : span.splice.Fits prev) (kept : Moved change span moved) :
    moved.splice.Fits next := by
  have ordered : span.start < span.stop := fits.ordered
  have inside : span.stop ≤ prev.length := fits.inside
  have found : slice prev span.start span.stop = atSign :: span.name := fits.found
  have lengths := between.lengths
  have bound := between.nextOrdered
  have nextInside := between.nextInside
  have prevInside := between.prevInside
  rcases kept.place with ⟨early, start, stop⟩ | ⟨-, late, start, stop⟩
  · refine ⟨?_, ?_, ?_⟩
    · change moved.start < moved.stop
      rw [start, stop]
      exact ordered
    · change moved.stop ≤ next.length
      omega
    · change slice next moved.start moved.stop = atSign :: moved.name
      rw [start, stop, kept.name, between.slice_before early]
      exact found
  · refine ⟨?_, ?_, ?_⟩
    · change moved.start < moved.stop
      omega
    · change moved.stop ≤ next.length
      omega
    · change slice next moved.start moved.stop = atSign :: moved.name
      rw [start, stop, kept.name, between.slice_after late (Nat.le_of_lt ordered)]
      exact found

theorem Moved.apart {other last : MentionSpan} (between : change.Between prev next) (first : Moved change span moved)
    (second : Moved change other last) (apart : span.stop ≤ other.start ∨ other.stop ≤ span.start) : moved.stop ≤ last.start ∨ last.stop ≤ moved.start := by
  have prevOrdered := between.prevOrdered
  have nextOrdered := between.nextOrdered
  rcases first.place with ⟨_, _, _⟩ | ⟨_, _, _, _⟩ <;> rcases second.place with ⟨_, _, _⟩ | ⟨_, _, _, _⟩ <;> omega

/-- Comparing the texts is enough to keep the spans in place. -/
theorem Tracks.update (tracks : Tracks prev spans) : Tracks next (updateSpansAfterEdit spans prev next) := by
  have between := @diff_between _ prev next _
  unfold updateSpansAfterEdit
  split
  · rename_i same
    rwa [← same]
  · refine ⟨?_, fun moved listed => ?_⟩
    · refine List.pairwise_filterMap.mpr (tracks.apart.imp_of_mem ?_)
      intro one other _ _ apart first kept second keptOther
      exact (kept_moved kept).apart between (kept_moved keptOther) apart
    · obtain ⟨span, known, kept⟩ := List.mem_filterMap.mp listed
      exact (kept_moved kept).fits between (tracks.fits span known)

/-! ## Picks -/

theorem mentionQueryAt_split {cursor : Nat} {query : CodeUnits} (found : mentionQueryAt text cursor = some query) :
    (∀ unit ∈ query, isQueryUnit unit = true) ∧ ∃ front, text.take cursor = front ++ atSign :: query := by
  unfold mentionQueryAt at found
  dsimp only at found
  have split := @List.takeWhile_append_dropWhile _ isQueryUnit (text.take cursor).reverse
  split at found
  · cases found
  · rename_i sign rest remaining
    split at found
    · rename_i opened
      obtain ⟨rfl, -⟩ := opened
      cases found
      refine ⟨fun unit listed => List.mem_takeWhile_imp (List.mem_reverse.mp listed), rest.reverse, ?_⟩
      rw [remaining] at split
      have whole := congrArg List.reverse split
      rw [List.reverse_reverse] at whole
      exact whole.symm.trans (by simp)
    · cases found

/-- The place of a query, as the parts of the text. -/
structure Asked (text query front later : CodeUnits) (cursor : Nat) : Prop where
  whole : text = front ++ (atSign :: query) ++ later
  insertAt : cursor - (query.length + 1) = front.length
  completed : ∀ name, Composer.completed text query name cursor = front ++ (atSign :: name ++ [32]) ++ later

theorem asked_of_query {cursor : Nat} {query : CodeUnits} (inside : cursor ≤ text.length)
    (found : mentionQueryAt text cursor = some query) : ∃ front later, Asked text query front later cursor := by
  obtain ⟨-, front, before⟩ := mentionQueryAt_split found
  have size := congrArg List.length before
  simp only [List.length_take, List.length_append, List.length_cons] at size
  have place : cursor - (query.length + 1) = front.length := by omega
  refine ⟨front, text.drop cursor, ?_, place, fun name => ?_⟩
  · rw [← before, List.take_append_drop]
  · have first : text.take front.length = front := by
      have taken := congrArg (List.take front.length) before
      rw [List.take_take, List.take_left, Nat.min_eq_left (by omega)] at taken
      exact taken
    rw [Composer.completed, place, first]

/-- The last unit of a query is no blank. -/
theorem query_last {query : CodeUnits} (units : ∀ unit ∈ query, isQueryUnit unit = true) :
    ∃ removed old, atSign :: query = removed ++ [old] ∧ old ≠ 32 := by
  refine ⟨(atSign :: query).dropLast, (atSign :: query).getLast (List.cons_ne_nil _ _),
    (List.dropLast_append_getLast (List.cons_ne_nil _ _)).symm, fun blank => ?_⟩
  have listed := List.getLast_mem (List.cons_ne_nil atSign query)
  rw [blank] at listed
  rcases List.mem_cons.mp listed with sign | inside
  · cases sign
  · exact absurd (units 32 inside) (by decide)

section Pick

variable {query name peerId : CodeUnits} {cursor : Nat} {composer following : Composer} {event : ComposerEvent}

theorem completed_ne (units : ∀ unit ∈ query, isQueryUnit unit = true) (asked : Asked text query front later cursor) :
    text ≠ Composer.completed text query name cursor := by
  obtain ⟨removed, old, ends, different⟩ := query_last units
  intro same
  rw [asked.completed, asked.whole, ends] at same
  have parts := List.append_cancel_left (List.append_cancel_right same)
  have lasts := congrArg List.getLast? parts
  simp only [List.getLast?_append, List.getLast?_singleton, Option.some_or, Option.some.injEq] at lasts
  exact different lasts

/-- The span of a picked name stands at it. -/
theorem picked_fits (asked : Asked text query front later cursor) :
    (MentionSpan.splice ⟨peerId, name, cursor - (query.length + 1), cursor - (query.length + 1) + name.length + 1⟩).Fits
      (Composer.completed text query name cursor) := by
  rw [asked.completed, asked.insertAt]
  have size : front.length + name.length + 1 = (front ++ atSign :: name).length := by
    simp only [List.length_append, List.length_cons]
    omega
  refine ⟨?_, ?_, ?_⟩
  · change front.length < front.length + name.length + 1
    omega
  · change front.length + name.length + 1 ≤ _
    simp only [List.length_append, List.length_cons]
    omega
  · change slice (front ++ (atSign :: name ++ [32]) ++ later) front.length (front.length + name.length + 1) = atSign :: name
    have whole : front ++ (atSign :: name ++ [32]) ++ later = (front ++ atSign :: name) ++ (32 :: later) := by simp
    have long : front.length + name.length + 1 - front.length = (atSign :: name).length := by
      rw [List.length_cons]
      omega
    rw [whole, slice_append_left (by omega), slice, List.drop_left, long, List.take_length]

/-- The picked name fits in, unless it runs into a span that stays in front of it. -/
theorem picked_tracks (tracks : Tracks text spans) (units : ∀ unit ∈ query, isQueryUnit unit = true)
    (asked : Asked text query front later cursor) :
    Tracks (Composer.completed text query name cursor)
        (updateSpansAfterEdit spans text (Composer.completed text query name cursor) ++
          [⟨peerId, name, cursor - (query.length + 1), cursor - (query.length + 1) + name.length + 1⟩]) ↔
      ∀ span ∈ spans, span.stop ≤ (diff text (Composer.completed text query name cursor)).start →
        span.stop ≤ cursor - (query.length + 1) ∨ cursor - (query.length + 1) + name.length + 1 ≤ span.start := by
  have different := @completed_ne _ _ _ _ name _ units asked
  have updated := @Tracks.update text (Composer.completed text query name cursor) spans tracks
  have members : ∀ moved, moved ∈ updateSpansAfterEdit spans text (Composer.completed text query name cursor) ↔
      ∃ span ∈ spans, span.kept (diff text (Composer.completed text query name cursor)) = some moved := by
    intro moved
    rw [updateSpansAfterEdit, if_neg different, List.mem_filterMap]
  constructor
  · intro together span known early
    have kept : span.kept (diff text (Composer.completed text query name cursor)) = some span := if_pos early
    exact (List.pairwise_append.mp together.apart).2.2 span ((members span).mpr ⟨span, known, kept⟩) _ (List.mem_singleton_self _)
  · intro clear
    refine ⟨List.pairwise_append.mpr ⟨updated.apart, List.pairwise_singleton .., fun moved listed last isLast => ?_⟩,
      fun moved listed => ?_⟩
    · rw [List.mem_singleton.mp isLast]
      obtain ⟨span, known, kept⟩ := (members moved).mp listed
      rcases (kept_moved kept).place with ⟨early, start, stop⟩ | ⟨-, late, start, -⟩
      · have apart := clear span known early
        change moved.stop ≤ cursor - (query.length + 1) ∨ cursor - (query.length + 1) + name.length + 1 ≤ moved.start
        rw [start, stop]
        exact apart
      · obtain ⟨removed, old, ends, unlike⟩ := query_last units
        have beyond := @diff_ends_before _ _ front removed (atSign :: name) later old 32 unlike
        rw [← ends, ← asked.whole, ← asked.completed] at beyond
        rw [List.length_cons] at beyond
        refine .inr ?_
        change cursor - (query.length + 1) + name.length + 1 ≤ moved.start
        rw [asked.insertAt]
        omega
    · rcases List.mem_append.mp listed with old | new
      · exact updated.fits moved old
      · rw [List.mem_singleton.mp new]
        exact picked_fits asked

/-- No span that stays in front of a picked name reaches into it. -/
def Composer.Unshadowed (composer : Composer) : ComposerEvent → Prop
  | .pick cursor _ displayName => composer.popup = true → cursor ≤ composer.plainText.length →
      ∀ query ∈ mentionQueryAt composer.plainText cursor, ∀ span ∈ composer.mentionSpans,
        span.stop ≤ (diff composer.plainText (completed composer.plainText query displayName cursor)).start →
          span.stop ≤ cursor - (query.length + 1) ∨ cursor - (query.length + 1) + displayName.length + 1 ≤ span.start
  | _ => True

instance : Decidable (composer.Unshadowed event) :=
  match event with
  | .pick cursor _ displayName => inferInstanceAs (Decidable (composer.popup = true → cursor ≤ composer.plainText.length →
      ∀ query ∈ mentionQueryAt composer.plainText cursor, ∀ span ∈ composer.mentionSpans,
        span.stop ≤ (diff composer.plainText (Composer.completed composer.plainText query displayName cursor)).start →
          span.stop ≤ cursor - (query.length + 1) ∨ cursor - (query.length + 1) + displayName.length + 1 ≤ span.start))
  | .change .. => isTrue trivial
  | .delete _ => isTrue trivial
  | .dismiss => isTrue trivial
  | .send _ => isTrue trivial

/-- The composer between two events. -/
structure Composer.InPlace (composer : Composer) : Prop where
  tracks : Tracks composer.plainText composer.mentionSpans
  synced : composer.prevComposerText = composer.plainText

theorem new_inPlace : Composer.new.InPlace := ⟨tracks_nil, rfl⟩

theorem completeMention_synced (held : composer.InPlace) :
    (composer.completeMention cursor peerId name).prevComposerText = (composer.completeMention cursor peerId name).plainText := by
  unfold Composer.completeMention
  cases mentionQueryAt composer.plainText cursor with
  | none => exact held.synced
  | some query => rfl

theorem completeMention_tracks (held : composer.InPlace) (inside : cursor ≤ composer.plainText.length) (offered : composer.popup = true) :
    Tracks (composer.completeMention cursor peerId name).plainText (composer.completeMention cursor peerId name).mentionSpans ↔
      composer.Unshadowed (.pick cursor peerId name) := by
  unfold Composer.completeMention
  cases found : mentionQueryAt composer.plainText cursor with
  | none =>
      refine ⟨fun _ _ _ query named => ?_, fun _ => held.tracks⟩
      rw [found] at named
      cases named
  | some query =>
      obtain ⟨front, later, asked⟩ := asked_of_query inside found
      have picked := @picked_tracks _ _ _ _ _ name peerId _ held.tracks (mentionQueryAt_split found).1 asked
      constructor
      · intro kept _ _ other named
        cases found.symm.trans named
        exact picked.mp kept
      · intro clear
        exact picked.mpr (clear offered inside query found)

/-- Whether the spans stay in place is a matter of picks alone. -/
theorem step_inPlace (held : composer.InPlace) (stepped : composer.step event = some following) :
    following.prevComposerText = following.plainText ∧
      (Tracks following.plainText following.mentionSpans ↔ composer.Unshadowed event) := by
  cases event with
  | change content cursor focused =>
      cases stepped
      unfold Composer.handleComposerChange
      split
      · rename_i same
        change composer.prevComposerText = content at same
        refine ⟨same, fun _ => trivial, fun _ => ?_⟩
        rw [held.synced] at same
        change Tracks content composer.mentionSpans
        rw [← same]
        exact held.tracks
      · refine ⟨rfl, fun _ => trivial, fun _ => ?_⟩
        change Tracks content (updateSpansAfterEdit composer.mentionSpans composer.prevComposerText content)
        rw [held.synced]
        exact held.tracks.update
  | pick cursor peerId name =>
      obtain ⟨⟨offered, inside⟩, same⟩ := Option.ite_none_right_eq_some.mp stepped
      cases same
      exact ⟨completeMention_synced held, completeMention_tracks held inside offered⟩
  | delete span =>
      obtain ⟨-, same⟩ := Option.ite_none_right_eq_some.mp stepped
      cases same
      unfold Composer.deleteMentionSpan
      split
      · exact ⟨held.synced, fun _ => trivial, fun _ => ⟨held.tracks.apart.filter _,
          fun span listed => held.tracks.fits span (List.mem_of_mem_filter listed)⟩⟩
      · exact ⟨rfl, fun _ => trivial, fun _ => held.tracks.update⟩
  | dismiss =>
      cases stepped
      exact ⟨held.synced, fun _ => trivial, fun _ => held.tracks⟩
  | send tooLong =>
      cases stepped
      unfold Composer.send
      split
      · exact ⟨held.synced, fun _ => trivial, fun _ => held.tracks⟩
      · exact ⟨rfl, fun _ => trivial, fun _ => tracks_nil⟩

/-- What is not enabled runs into no span. -/
theorem unshadowed_of_none (disabled : composer.step event = none) : composer.Unshadowed event := by
  cases event with
  | pick cursor peerId name =>
      intro offered inside
      have enabled : composer.step (.pick cursor peerId name) = some (composer.completeMention cursor peerId name) :=
        if_pos ⟨offered, inside⟩
      rw [enabled] at disabled
      cases disabled
  | change content cursor focused => trivial
  | delete span => trivial
  | dismiss => trivial
  | send tooLong => trivial

/-- In every run the tracked spans stay apart, each at its name, as long as no name is
picked where a span that stays in front of it reaches into it, and no longer. -/
theorem spans_stay_in_place (events : List ComposerEvent) :
    (∀ before after composer, events = before ++ after → run Composer.step .new before = some composer →
      Tracks composer.plainText composer.mentionSpans) ↔ Meets Composer.step Composer.Unshadowed .new events := by
  refine @always_iff_meets _ _ Composer.step Composer.Unshadowed .new events Composer.InPlace
    (fun composer => Tracks composer.plainText composer.mentionSpans) (fun _ held => held.tracks) ?_ ?_ new_inPlace
  · intro composer event following held clear stepped
    obtain ⟨synced, tracks⟩ := step_inPlace held stepped
    exact ⟨tracks.mpr clear, synced⟩
  · intro composer event held shadowed
    cases stepped : composer.step event with
    | none => exact absurd (unshadowed_of_none stepped) shadowed
    | some following => exact ⟨following, rfl, fun tracks => shadowed ((step_inPlace held stepped).2.mp tracks)⟩

/-- The blank after a picked name is taken away, and a longer name that begins with it is picked. -/
def Sample.longerName : List ComposerEvent :=
  [.change [64] 1 true, .pick 1 [97] [65, 108], .change [64, 65, 108] 3 true, .change [64, 65, 108, 101] 4 true,
    .pick 4 [98] [65, 108, 101, 120]]

example : ¬ Meets Composer.step Composer.Unshadowed .new Sample.longerName := by decide +kernel

end Pick

/-! ## Messages -/

/-- A bracket opens a token only at its start. -/
theorem bracket_only_first {unit : UInt16} {rest others : CodeUnits} {id : PeerName} (named : IsId id)
    (spells : Spells (unit :: (rest ++ others)) (tokenText id)) : ∀ other ∈ others, TextUnit.ascii? other ≠ some '<' := by
  intro other listed shown
  unfold Spells tokenText at spells
  simp only [List.map_cons, List.cons.injEq] at spells
  have inside : some '<' ∈ List.map TextUnit.ascii? (rest ++ others) :=
    List.mem_map.mpr ⟨other, List.mem_append_right _ listed, shown⟩
  rw [spells.2] at inside
  have bracket : '<' ∈ '@' :: (id ++ ['>']) := by simpa using inside
  rcases List.mem_cons.mp bracket with sign | bracket
  · cases sign
  · rcases List.mem_append.mp bracket with inId | last
    · exact absurd (named.2 '<' inId) (by decide)
    · exact absurd (List.mem_singleton.mp last) (by decide)

/-- A token that begins before another one ends before it. -/
theorem token_before {units spelled remaining : CodeUnits} {unit : UInt16} {rest : CodeUnits} {id other : PeerName} (named : IsId other)
    (spells : Spells units (tokenText id)) (spellsOther : Spells spelled (tokenText other))
    (whole : unit :: rest ++ (units ++ later) = spelled ++ remaining) :
    ∃ between, unit :: rest = spelled ++ between ∧ remaining = between ++ (units ++ later) := by
  rcases List.append_eq_append_iff.mp whole with ⟨inner, longer, ends⟩ | shorter
  · cases inner with
    | nil => exact ⟨[], by simpa using longer.symm, by simpa using ends.symm⟩
    | cons first inner =>
        rw [longer] at spellsOther
        refine absurd ?_ (bracket_only_first named spellsOther first (List.mem_cons_self ..))
        cases units with
        | nil => cases spells
        | cons bracket units =>
            unfold Spells tokenText at spells
            simp only [List.map_cons, List.cons.injEq] at spells
            rw [← (List.cons_eq_cons.mp ends).1]
            exact spells.1
  · exact shorter

/-- A token is found wherever it stands. -/
theorem findTokens_stands {units : CodeUnits} {id : PeerName} {position : Nat} (named : IsId id) (spells : Spells units (tokenText id)) :
    (position + front.length, id) ∈ findTokens position (front ++ units ++ later) := by
  induction size : front.length using Nat.strongRecOn generalizing front position with
  | ind size ih =>
      cases front with
      | nil =>
          have token : matchToken? (units ++ later) = some (id, later) := matchToken?_eq_some.mpr ⟨named, units, rfl, spells⟩
          rw [List.nil_append, findTokens_token token]
          subst size
          exact List.mem_cons_self ..
      | cons unit rest =>
          rw [List.length_cons] at size
          rcases findTokens_cases unit (rest ++ units ++ later) position with ⟨-, next⟩ | ⟨other, remaining, token, next⟩
          · have found := @ih rest.length (by omega) rest (position + 1) rfl
            rw [List.cons_append, List.cons_append, next]
            have place : position + 1 + rest.length = position + (rest.length + 1) := by omega
            rwa [place, size] at found
          · obtain ⟨namedOther, spelled, whole, spellsOther⟩ := matchToken?_eq_some.mp token
            have taken := spellsOther.length
            simp only [tokenText, List.length_cons, List.length_append, List.length_nil] at taken
            have apart : unit :: rest ++ (units ++ later) = spelled ++ remaining := by
              rw [← whole]
              simp
            obtain ⟨between, prefixed, rfl⟩ := token_before namedOther spells spellsOther apart
            have sizes := congrArg List.length prefixed
            simp only [List.length_cons, List.length_append] at sizes
            have found := @ih between.length (by omega) between (position + other.length + 3) rfl
            rw [List.cons_append, List.cons_append, next, ← List.append_assoc]
            have place : position + other.length + 3 + between.length = position + (rest.length + 1) := by omega
            rw [place, size] at found
            exact List.mem_cons_of_mem _ found

/-- No backslash stands right before the token, so it is not escaped. -/
theorem mem_unescapedTokens {units : CodeUnits} {id : PeerName} (named : IsId id) (spells : Spells units (tokenText id))
    (free : front.getLast?.any isBackslash = false) : (front.length, id) ∈ unescapedTokens (front ++ units ++ later) := by
  have found := @findTokens_stands front later units id 0 named spells
  rw [Nat.zero_add] at found
  refine List.mem_filter.mpr ⟨found, ?_⟩
  have before : (front ++ units ++ later).take front.length = front := by
    rw [List.append_assoc, List.take_left]
  rw [isEscaped, before]
  cases reversed : front.reverse with
  | nil => rfl
  | cons last rest =>
      have ends : front.getLast? = some last := by
        rw [← List.head?_reverse, reversed, List.head?_cons]
      rw [ends] at free
      simp only [Option.any_some] at free
      rw [List.takeWhile_cons, free]
      rfl

theorem mem_uniqueMentions {ids seen : List PeerName} {id : PeerName} (listed : id ∈ seen ∨ id ∈ ids) :
    id ∈ ids.foldl (fun mentions id => if id ∈ mentions then mentions else mentions ++ [id]) seen := by
  induction ids generalizing seen with
  | nil => simpa using listed
  | cons first rest ih =>
      rw [List.foldl_cons]
      refine ih ?_
      rcases listed with before | listed
      · left
        split
        · exact before
        · exact List.mem_append_left _ before
      · rcases List.mem_cons.mp listed with rfl | later
        · left
          split
          · assumption
          · exact List.mem_append_right _ (List.mem_singleton_self _)
        · exact .inr later

/-- What the sender's own client and the backend find in a text with a token that is not escaped. -/
theorem mentioned {units : CodeUnits} {id : PeerName} (named : IsId id) (spells : Spells units (tokenText id))
    (free : front.getLast?.any isBackslash = false) : id ∈ parseMentions (front ++ units ++ later) :=
  mem_uniqueMentions (.inr (List.mem_map.mpr ⟨_, mem_unescapedTokens named spells free, rfl⟩))

theorem tokenOf_spells {peerId : CodeUnits} {id : PeerName} (spells : Spells peerId id) : Spells (tokenOf peerId) (tokenText id) := by
  unfold Spells at spells ⊢
  simp only [tokenOf, tokenText, List.map_cons, List.map_append, spells]
  rfl

theorem dropWhile_stops {unit : UInt16} (stops : isWhitespace unit = false) :
    (front ++ unit :: later).dropWhile isWhitespace = front.dropWhile isWhitespace ++ unit :: later := by
  induction front with
  | nil =>
      rw [List.nil_append, List.dropWhile_cons, stops]
      rfl
  | cons first rest ih =>
      rw [List.cons_append, List.dropWhile_cons, List.dropWhile_cons]
      split
      · exact ih
      · rfl

/-- Trimming leaves a token and the unit right before it alone. -/
theorem trim_token {peerId : CodeUnits} : ∃ shorter ends, Composer.trim (front ++ tokenOf peerId ++ later) = shorter ++ tokenOf peerId ++ ends ∧
    (shorter = [] ∨ shorter.getLast? = front.getLast?) := by
  have opening : isWhitespace 60 = false := by decide
  have closing : isWhitespace 62 = false := by decide
  refine ⟨front.dropWhile isWhitespace, (later.reverse.dropWhile isWhitespace).reverse, ?_, ?_⟩
  · have whole : front ++ tokenOf peerId ++ later = front ++ 60 :: (atSign :: (peerId ++ [62]) ++ later) := by simp [tokenOf]
    have turned : (front.dropWhile isWhitespace ++ 60 :: (atSign :: (peerId ++ [62]) ++ later)).reverse =
        later.reverse ++ 62 :: (front.dropWhile isWhitespace ++ 60 :: atSign :: peerId).reverse := by simp
    rw [Composer.trim, whole, dropWhile_stops opening, turned, dropWhile_stops closing]
    simp [tokenOf]
  · obtain ⟨taken, same⟩ := @List.dropWhile_suffix _ front isWhitespace
    by_cases nothing : front.dropWhile isWhitespace = []
    · exact .inl nothing
    · refine .inr ?_
      have last := List.getLast?_append_of_ne_nil taken nothing
      rw [same] at last
      exact last.symm

theorem spansToTokens_weave (tracks : Tracks text spans) : ∃ ordered : List MentionSpan, ordered.Perm spans ∧
    ordered.Pairwise (fun one other => one.stop ≤ other.start) ∧ spansToTokens text spans = weave text 0 (ordered.map MentionSpan.splice) := by
  have sorted := @List.pairwise_mergeSort _ (fun one other : MentionSpan => decide (other.start ≤ one.start))
    (fun one other last first second => by
      simp only [decide_eq_true_eq] at first second ⊢
      exact Nat.le_trans second first)
    (fun one other => by
      simp only [Bool.or_eq_true, decide_eq_true_eq]
      exact Nat.le_total other.start one.start) spans
  have perm := List.mergeSort_perm spans fun one other => decide (other.start ≤ one.start)
  have folded : spansToTokens text spans = (((spans.mergeSort fun one other => decide (other.start ≤ one.start)).reverse).map
      MentionSpan.splice).foldr (fun splice text => splice.apply text) text := by
    rw [List.foldr_map, List.foldr_reverse]
    rfl
  generalize (spans.mergeSort fun one other => decide (other.start ≤ one.start)) = descending at sorted perm folded
  have apart : descending.Pairwise fun one other => one.stop ≤ other.start ∨ other.stop ≤ one.start :=
    (perm.pairwise_iff (fun either => either.symm)).mpr tracks.apart
  have fits : ∀ span ∈ descending, span.splice.Fits text := fun span listed => tracks.fits span (perm.mem_iff.mp listed)
  have ascending : descending.reverse.Pairwise fun one other => one.stop ≤ other.start := by
    refine List.pairwise_reverse.mpr ((sorted.and apart).imp_of_mem ?_)
    intro one other listed _ both
    have later : other.start ≤ one.start := of_decide_eq_true both.1
    have ordered : one.start < one.stop := (fits one listed).ordered
    rcases both.2 with before | after
    · omega
    · exact after
  refine ⟨descending.reverse, (List.reverse_perm descending).trans perm, ascending, ?_⟩
  have woven := @foldr_apply _ text 0 _ (descending.reverse.map MentionSpan.splice) (List.pairwise_map.mpr ascending)
    (fun splice listed => by
      obtain ⟨span, known, rfl⟩ := List.mem_map.mp listed
      exact fits span (List.mem_reverse.mp known))
    (fun _ _ => Nat.zero_le _) (Nat.zero_le _)
  rw [folded, woven, List.take_zero, List.nil_append]

theorem slice_getLast? {start stop : Nat} (nonempty : start < stop) (inside : stop ≤ text.length) (front : CodeUnits) :
    (front ++ slice text start stop).getLast? = (text.take stop).getLast? := by
  have part : slice text start stop = (text.take stop).drop start := by
    rw [slice, List.drop_take]
  have long : ¬ (text.take stop).length ≤ start := by
    rw [List.length_take]
    omega
  have some : (text.take stop).drop start ≠ [] := fun none => long (List.drop_eq_nil_iff.mp none)
  rw [part, List.getLast?_append_of_ne_nil front some, List.getLast?_drop, if_neg long]

/-- The token of a tracked span stands in the text that is sent, with no backslash
before it if none stands before the span. -/
theorem token_stands (tracks : Tracks text spans) (listed : span ∈ spans)
    (free : (text.take span.start).getLast?.any isBackslash = false) : ∃ front later,
      spansToTokens text spans = front ++ tokenOf span.peerId ++ later ∧ front.getLast?.any isBackslash = false := by
  obtain ⟨ordered, perm, ascending, same⟩ := spansToTokens_weave tracks
  have fits : ∀ splice ∈ ordered.map MentionSpan.splice, splice.Fits text := by
    intro splice inside
    obtain ⟨span, known, rfl⟩ := List.mem_map.mp inside
    exact tracks.fits span (perm.mem_iff.mp known)
  obtain ⟨front, later, woven, before⟩ := @mem_weave _ text 0 span.splice (ordered.map MentionSpan.splice) (Nat.zero_le _)
    (List.pairwise_map.mpr ascending) (List.mem_map.mpr ⟨span, perm.mem_iff.mpr listed, rfl⟩) (fun _ _ => Nat.zero_le _)
    (fun splice known => (fits splice known).ordered)
  refine ⟨front, later, same.trans woven, ?_⟩
  have own := tracks.fits span listed
  rcases before with ⟨start, earlier, ahead, rfl⟩ | ⟨rfl, -⟩ | ⟨other, known, ahead, rfl⟩
  · have inside : span.start ≤ text.length := Nat.le_trans (Nat.le_of_lt own.ordered) own.inside
    have last := @slice_getLast? text start span.start earlier inside ahead
    change (ahead ++ slice text start span.start).getLast?.any isBackslash = false
    rw [last]
    exact free
  · rfl
  · obtain ⟨span, -, rfl⟩ := List.mem_map.mp known
    have ends : ahead ++ span.splice.new = (ahead ++ 60 :: atSign :: span.peerId) ++ [62] := by simp [MentionSpan.splice, tokenOf]
    rw [ends, List.getLast?_append, List.getLast?_singleton, Option.some_or]
    decide

/-- A draft that no pick has run into is sent with every tracked name replaced by its
token and nothing else changed.  Where no backslash stands right before the name, the
client and the backend find the peer in the message. -/
theorem mentions_are_sent (events : List ComposerEvent) (composer : Composer)
    (clear : Meets Composer.step Composer.Unshadowed .new events) (ran : run Composer.step .new events = some composer) :
    (∃ ordered : List MentionSpan, ordered.Perm composer.mentionSpans ∧ ordered.Pairwise (fun one other => one.stop ≤ other.start) ∧
      composer.message = Composer.trim (weave composer.plainText 0 (ordered.map MentionSpan.splice))) ∧
    ∀ span ∈ composer.mentionSpans, ∀ id, IsId id → Spells span.peerId id →
      (composer.plainText.take span.start).getLast?.any isBackslash = false →
        id ∈ parseMentions composer.message ∧ ∀ content, utf16 content = composer.message → id ∈ extractMentions content := by
  have held : composer.InPlace := by
    refine run_invariant Composer.InPlace (fun _ _ _ held clear stepped => ?_) new_inPlace clear ran
    obtain ⟨synced, tracks⟩ := step_inPlace held stepped
    exact ⟨tracks.mpr clear, synced⟩
  refine ⟨?_, fun span listed id named spells free => ?_⟩
  · obtain ⟨ordered, perm, ascending, same⟩ := spansToTokens_weave held.tracks
    exact ⟨ordered, perm, ascending, congrArg Composer.trim same⟩
  · obtain ⟨front, later, stands, unescaped⟩ := token_stands held.tracks listed free
    obtain ⟨shorter, ends, trimmed, last⟩ := @trim_token front later span.peerId
    have sent : composer.message = shorter ++ tokenOf span.peerId ++ ends := by rw [Composer.message, stands, trimmed]
    have unescapedStill : shorter.getLast?.any isBackslash = false := by
      rcases last with rfl | same
      · rfl
      · rw [same]
        exact unescaped
    have found : id ∈ parseMentions composer.message := by
      rw [sent]
      exact mentioned named (tokenOf_spells spells) unescapedStill
    refine ⟨found, fun content same => ?_⟩
    rw [← same, parseMentions_utf16] at found
    exact found

/-- A name is picked and the draft is sent. -/
theorem picked_mention_is_sent : ∃ composer,
    run Composer.step .new [.change [64] 1 true, .pick 1 [98, 111, 98] [66, 111]] = some composer ∧
      ['b', 'o', 'b'] ∈ parseMentions composer.message := by
  have clear : Meets Composer.step Composer.Unshadowed .new [.change [64] 1 true, .pick 1 [98, 111, 98] [66, 111]] := by
    decide +kernel
  refine ⟨⟨[64, 66, 111, 32], [⟨[98, 111, 98], [66, 111], 0, 3⟩], [64, 66, 111, 32], false⟩, by decide +kernel, ?_⟩
  have sent := (mentions_are_sent _ ⟨[64, 66, 111, 32], [⟨[98, 111, 98], [66, 111], 0, 3⟩], [64, 66, 111, 32], false⟩ clear
    (by decide +kernel)).2
  exact (sent ⟨[98, 111, 98], [66, 111], 0, 3⟩ (List.mem_singleton_self _) ['b', 'o', 'b'] ⟨by decide, by decide⟩
    (by unfold Spells; decide +kernel) rfl).1

end MeshTalk.Mentions
