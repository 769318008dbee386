import Mathlib.Algebra.Order.Ring.Unbundled.Rat
import Mathlib.Data.Prod.Lex
import Mathlib.Data.String.Basic
import Mathlib.Data.List.Infix
import MeshTalk.Protocol.Handshake
import MeshTalk.Store.LocalHistory

namespace MeshTalk.Store.LocalHistory

open MeshTalk.Library MeshTalk.Protocol

/-! # Search in the stored messages

A search scans the messages of both tables in one order, a page of rows at a time.
-/

inductive SearchKind where
  | group | peer
deriving DecidableEq, Repr

/-- The place of `'group'` and `'peer'` in the order of texts. -/
def SearchKind.rank : SearchKind → Nat
  | .group => 0
  | .peer => 1

structure SearchRow (γ : Type) where
  kind : SearchKind
  conversationId : String
  messageId : String
  senderId : PeerId
  content : γ
  createdAt : Time
  replyToMessageId : Option String
deriving DecidableEq, Repr

/-- `created_at DESC, kind, message_id DESC`. -/
def SearchRow.sortKey {γ : Type} (row : SearchRow γ) : Timeᵒᵈ ×ₗ (Nat ×ₗ Stringᵒᵈ) :=
  toLex (OrderDual.toDual row.createdAt, toLex (row.kind.rank, OrderDual.toDual row.messageId))

structure SearchPage where
  results : List (SearchRow String)
  nextOffset : Option Nat
deriving DecidableEq, Repr

def searchRows : Nat := 500

def Target.id : Target → String
  | .peer recipientId => recipientId
  | .group groupId => groupId

section Reads

variable (decrypt : Bytes → Option String) (casefold : String → String) (localPeerId : PeerId) (query : String)
  (peerId groupId : Option String) (tables : MessageTables)

def directRow (row : MessageRow) : SearchRow (Option StoredContent) where
  kind := .peer
  conversationId := if row.senderId = localPeerId then row.target.id else row.senderId
  messageId := row.messageId
  senderId := row.senderId
  content := row.content
  createdAt := row.createdAt
  replyToMessageId := row.replyToMessageId

def groupRow (row : MessageRow) : SearchRow (Option StoredContent) where
  kind := .group
  conversationId := row.target.id
  messageId := row.messageId
  senderId := row.senderId
  content := row.content
  createdAt := row.createdAt
  replyToMessageId := row.replyToMessageId

/-- The `UNION ALL` of both tables. -/
def storedRows : List (SearchRow (Option StoredContent)) :=
  (tables.messages.rows.filter fun row => row.2.senderId = localPeerId || row.2.target.id = localPeerId).map
      (fun row => directRow localPeerId row.2) ++
    tables.groupMessages.rows.map fun row => groupRow row.2

def inScope (row : SearchRow (Option StoredContent)) : Bool :=
  ((peerId.filter (· ≠ "")).all fun peerId => row.kind = .peer && row.conversationId = peerId) &&
    (groupId.filter (· ≠ "")).all fun groupId => row.kind = .group && row.conversationId = groupId

/-- The rows of a search in the order it scans them. -/
def scannedRows : List (SearchRow (Option StoredContent)) :=
  ((storedRows localPeerId tables).filter (inScope peerId groupId)).mergeSort fun first second =>
    decide (first.sortKey ≤ second.sortKey)

/-- The row with its text if it can be read and the query is in it. -/
def matching (row : SearchRow (Option StoredContent)) : Option (SearchRow String) :=
  ((decryptContent decrypt row.content).filter fun content =>
    (casefold query).toList <:+: (casefold content).toList).map fun content => { row with content }

/-- `search_local_messages`. -/
def searchLocalMessages (offset : Nat) : SearchPage :=
  let rows := ((scannedRows localPeerId peerId groupId tables).drop offset).take (searchRows + 1)
  { results := (rows.take searchRows).filterMap (matching decrypt casefold query)
    nextOffset := if searchRows < rows.length then some (offset + searchRows) else none }

end Reads

/-! ## The request -/

structure SearchRequest where
  query : Json
  offset : Option Json
  peerId : Json
  groupId : Json

def soughtText : Json → Except String String
  | .text value =>
      let sought := String.ofList (strip value.toList)
      if sought = "" ∨ value.length > 256 then .error "query must contain 1–256 characters" else .ok sought
  | _ => .error "query must contain 1–256 characters"

def offsetOf : Option Json → Except String Nat
  | none => .ok 0
  | some (.int value) => if value < 0 then .error "offset must be a non-negative integer" else .ok value.toNat
  | some _ => .error "offset must be a non-negative integer"

/-- What `search` passes to `search_local_messages`. -/
def searchCall (request : SearchRequest) : Except String (String × Nat × Option String × Option String) := do
  let query ← soughtText request.query
  let offset ← offsetOf request.offset
  let (peer, group) ← conversationOf request.peerId request.groupId
  return (query, offset, peer, group)

/-! ## Following the offsets -/

section Following

variable (decrypt : Bytes → Option String) (casefold : String → String) (localPeerId : PeerId) (query : String)
  (peerId groupId : Option String) (tables : MessageTables)

/-- A reader that passes `next_offset` on until it is null. -/
inductive Searched : Nat → List SearchPage → Prop where
  | last {offset : Nat}
      (ends : (searchLocalMessages decrypt casefold localPeerId query peerId groupId tables offset).nextOffset = none) :
      Searched offset [searchLocalMessages decrypt casefold localPeerId query peerId groupId tables offset]
  | next {offset further : Nat} {pages : List SearchPage}
      (more : (searchLocalMessages decrypt casefold localPeerId query peerId groupId tables offset).nextOffset = some further)
      (later : Searched further pages) :
      Searched offset (searchLocalMessages decrypt casefold localPeerId query peerId groupId tables offset :: pages)

variable {decrypt casefold localPeerId query peerId groupId tables} {offset further : Nat} {pages : List SearchPage}

theorem nextOffset_eq_none
    (ends : (searchLocalMessages decrypt casefold localPeerId query peerId groupId tables offset).nextOffset = none) :
    ((scannedRows localPeerId peerId groupId tables).drop offset).length ≤ searchRows := by
  simp only [searchLocalMessages, ite_eq_right_iff, reduceCtorEq, imp_false, List.length_take] at ends
  omega

theorem nextOffset_eq_some
    (more : (searchLocalMessages decrypt casefold localPeerId query peerId groupId tables offset).nextOffset = some further) :
    further = offset + searchRows ∧ offset + searchRows < (scannedRows localPeerId peerId groupId tables).length := by
  simp only [searchLocalMessages, Option.ite_none_right_eq_some, Option.some.injEq, List.length_take, List.length_drop] at more
  exact ⟨more.2.symm, by omega⟩

theorem results_eq : (searchLocalMessages decrypt casefold localPeerId query peerId groupId tables offset).results =
    (((scannedRows localPeerId peerId groupId tables).drop offset).take searchRows).filterMap (matching decrypt casefold query) := by
  rw [searchLocalMessages, List.take_take, Nat.min_eq_left (Nat.le_succ searchRows)]

theorem Searched.results (searched : Searched decrypt casefold localPeerId query peerId groupId tables offset pages) :
    pages.flatMap SearchPage.results =
      ((scannedRows localPeerId peerId groupId tables).drop offset).filterMap (matching decrypt casefold query) := by
  induction searched with
  | last ends =>
      rw [List.flatMap_singleton, results_eq, List.take_of_length_le (nextOffset_eq_none ends)]
  | @next offset further pages more later ih =>
      rw [List.flatMap_cons, ih, results_eq, (nextOffset_eq_some more).1, ← List.filterMap_append, ← List.drop_drop,
        List.take_append_drop]

theorem searched_ends : ∃ pages, Searched decrypt casefold localPeerId query peerId groupId tables offset pages := by
  let left := (scannedRows localPeerId peerId groupId tables).length - offset
  induction measured : left using Nat.strongRecOn generalizing offset with
  | ind count ih =>
      cases reached : (searchLocalMessages decrypt casefold localPeerId query peerId groupId tables offset).nextOffset with
      | none => exact ⟨_, .last reached⟩
      | some further =>
          obtain ⟨rfl, within⟩ := nextOffset_eq_some reached
          obtain ⟨pages, later⟩ := ih ((scannedRows localPeerId peerId groupId tables).length - (offset + searchRows))
            (by simp only [left, searchRows] at measured within ⊢; omega) rfl
          exact ⟨_, .next reached later⟩

/-! ## The order of the results -/

theorem sortKey_inj {γ : Type} {first second : SearchRow γ} (same : first.sortKey = second.sortKey) :
    first.kind = second.kind ∧ first.messageId = second.messageId := by
  have ranks : first.kind.rank = second.kind.rank :=
    congrArg (fun key : Timeᵒᵈ ×ₗ (Nat ×ₗ Stringᵒᵈ) => (ofLex (ofLex key).2).1) same
  have ids : first.messageId = second.messageId :=
    congrArg (fun key : Timeᵒᵈ ×ₗ (Nat ×ₗ Stringᵒᵈ) => OrderDual.ofDual (ofLex (ofLex key).2).2) same
  refine ⟨?_, ids⟩
  cases one : first.kind <;> cases other : second.kind <;> simp_all [SearchKind.rank]

theorem nodup_made {table : RowTable MessageRow MessageRow.messageId} {make : MessageRow → SearchRow (Option StoredContent)}
    (same : ∀ row, (make row).messageId = row.messageId) (keep : Nat × MessageRow → Bool) :
    (((table.rows.filter keep).map fun row => make row.2).map SearchRow.sortKey).Nodup := by
  have ids : ((table.rows.filter keep).map fun row => row.2.messageId).Nodup :=
    table.unique.sublist (List.filter_sublist.map _)
  have made : (fun row : Nat × MessageRow => row.2.messageId) = fun row => (make row.2).messageId :=
    funext fun row => (same row.2).symm
  refine List.Nodup.of_map (fun key : Timeᵒᵈ ×ₗ (Nat ×ₗ Stringᵒᵈ) => OrderDual.ofDual (ofLex (ofLex key).2).2) ?_
  rw [List.map_map, List.map_map]
  rw [made] at ids
  exact ids

theorem nodup_storedRows : ((storedRows localPeerId tables).map SearchRow.sortKey).Nodup := by
  have groups := @nodup_made tables.groupMessages groupRow (fun _ => rfl) fun _ => true
  rw [List.filter_true] at groups
  rw [storedRows, List.map_append]
  refine (nodup_made (fun _ => rfl) _).append groups fun key direct group => ?_
  obtain ⟨first, made, rfl⟩ := List.mem_map.mp direct
  obtain ⟨second, formed, same⟩ := List.mem_map.mp group
  obtain ⟨_, -, rfl⟩ := List.mem_map.mp made
  obtain ⟨_, -, rfl⟩ := List.mem_map.mp formed
  exact absurd (sortKey_inj same).1 (by simp [directRow, groupRow])

theorem scannedRows_sorted : (scannedRows localPeerId peerId groupId tables).Pairwise fun first second =>
    first.sortKey < second.sortKey := by
  have sorted : (scannedRows localPeerId peerId groupId tables).Pairwise fun first second => first.sortKey ≤ second.sortKey := by
    refine (List.pairwise_mergeSort (fun one two three lower upper => ?_) (fun one two => ?_) _).imp of_decide_eq_true
    · exact decide_eq_true (le_trans (of_decide_eq_true lower) (of_decide_eq_true upper))
    · rw [Bool.or_eq_true, decide_eq_true_eq, decide_eq_true_eq]
      exact le_total _ _
  have distinct : ((scannedRows localPeerId peerId groupId tables).map SearchRow.sortKey).Nodup :=
    (((List.mergeSort_perm _ _).map _).nodup_iff).mpr (nodup_storedRows.sublist (List.filter_sublist.map _))
  exact (sorted.and (List.pairwise_map.mp distinct)).imp fun both => lt_of_le_of_ne both.1 both.2

theorem mem_scannedRows {row : SearchRow (Option StoredContent)} : row ∈ scannedRows localPeerId peerId groupId tables ↔
    row ∈ storedRows localPeerId tables ∧ inScope peerId groupId row = true := by
  rw [scannedRows, List.mem_mergeSort, List.mem_filter]

theorem matching_sortKey {row : SearchRow (Option StoredContent)} {result : SearchRow String}
    (matched : matching decrypt casefold query row = some result) : result.sortKey = row.sortKey := by
  obtain ⟨content, -, rfl⟩ := Option.map_eq_some_iff.mp matched
  rfl

/-- The results come in the order of the scan, no two of them for one message. -/
theorem Searched.sorted (searched : Searched decrypt casefold localPeerId query peerId groupId tables 0 pages) :
    (pages.flatMap SearchPage.results).Pairwise fun first second => first.sortKey < second.sortKey := by
  rw [searched.results, List.drop_zero, List.pairwise_filterMap]
  refine scannedRows_sorted.imp fun {first second} before one found other also => ?_
  rw [matching_sortKey found, matching_sortKey also]
  exact before

/-- The results are the messages that match. -/
theorem Searched.mem_iff (searched : Searched decrypt casefold localPeerId query peerId groupId tables 0 pages)
    {result : SearchRow String} : result ∈ pages.flatMap SearchPage.results ↔
      ∃ row ∈ storedRows localPeerId tables, inScope peerId groupId row = true ∧
        matching decrypt casefold query row = some result := by
  rw [searched.results, List.drop_zero, List.mem_filterMap]
  refine exists_congr fun row => ?_
  rw [mem_scannedRows, and_assoc]

/-- The request for the page after is accepted. -/
theorem next_offset_accepted : offsetOf (some (.int offset)) = .ok offset := by
  rw [offsetOf, if_neg (by omega), Int.toNat_natCast]

end Following

section Promises

variable (decrypt : Bytes → Option String) (casefold : String → String) (localPeerId : PeerId)

/-- Whatever is stored and deleted between the reads, following `next_before` from
the newest page comes to an end, newer pages come first, and every message that
stays and can be read is returned once. -/
def ReturnsHistory : Prop :=
  (∀ conversation tables schedule, ∃ count pages,
    Followed decrypt localPeerId conversation tables none ((List.range count).flatMap schedule) pages) ∧
  ∀ conversation tables changes pages, Followed decrypt localPeerId conversation tables none changes pages →
    (pages.Pairwise fun newer older => ∀ one ∈ newer.messages, ∀ other ∈ older.messages, other.sequence < one.sequence) ∧
    ∀ row content, Throughout conversation row tables changes → conversation.holds localPeerId row.2 = true →
      decryptContent decrypt row.2.content = some content →
        (pages.flatMap HistoryPage.messages).filter (fun message => message.messageId = row.2.messageId) =
          [historyMessage row content]

/-- The messages of a page stand as they stand in their table, where a new row
comes last. -/
def KeepsInsertionOrder : Prop :=
  ∀ conversation before around first second third,
    ((desktopHistory decrypt localPeerId conversation before around first second third).messages.map
      HistoryMessage.sequence).Sublist ((third.get conversation.tableName).rows.map Prod.fst)

/-- A page with an anchor shows a readable anchor that is stored when the page is
selected, unless between its last two statements a row is stored after another was
deleted. -/
def ShowsAnchor : Prop :=
  ∀ (conversation : Conversation) (before : Option Nat) (around : String) (tables : MessageTables)
    (earlier later : List Change) (row : Nat × MessageRow) (content : String),
    around ≠ "" → conversation.holds localPeerId row.2 = true → row.2.messageId = around →
    row ∈ (tables.get conversation.tableName).rows →
    row ∈ (((earlier ++ later).foldl MessageTables.apply tables).get conversation.tableName).rows →
    decryptContent decrypt row.2.content = some content →
    ((later.filterMap (Change.on conversation.tableName)).Pairwise fun first second =>
      first.inserts = false → second.inserts = false) →
    historyMessage row content ∈ (desktopHistory decrypt localPeerId conversation before (some around) tables
      (earlier.foldl MessageTables.apply tables) ((earlier ++ later).foldl MessageTables.apply tables)).messages

/-- Following `next_offset` over unchanged tables comes to an end and finds every
matching message once, in the order of the scan. -/
def FindsMatches : Prop :=
  ∀ query peerId groupId tables,
    (∃ pages, Searched decrypt casefold localPeerId query peerId groupId tables 0 pages) ∧
    ∀ pages, Searched decrypt casefold localPeerId query peerId groupId tables 0 pages →
      ((pages.flatMap SearchPage.results).Pairwise fun first second => first.sortKey < second.sortKey) ∧
      ∀ result, result ∈ pages.flatMap SearchPage.results ↔
        ∃ row ∈ storedRows localPeerId tables, inScope peerId groupId row = true ∧
          matching decrypt casefold query row = some result

/-- The pages of the history and of a search show what is stored. -/
theorem stored_messages_are_shown : ReturnsHistory decrypt localPeerId ∧ KeepsInsertionOrder decrypt localPeerId ∧
    ShowsAnchor decrypt localPeerId ∧ FindsMatches decrypt casefold localPeerId := by
  refine ⟨⟨fun _ _ schedule => followed_ends schedule, ?_⟩, fun _ _ _ _ _ _ => page_in_order, ?_, ?_⟩
  · intro conversation tables changes pages followed
    exact ⟨followed.newest_first, fun _ _ throughout wanted readable => followed.once throughout wanted readable⟩
  · intro conversation before around tables earlier later row content identified wanted named stored remains readable ordered
    exact around_shows_anchor identified wanted named stored remains readable ordered
  · intro query peerId groupId tables
    exact ⟨searched_ends, fun pages searched => ⟨searched.sorted, fun result => searched.mem_iff⟩⟩

end Promises

def note (index : Nat) (peerId : PeerId) (content : StoredContent) : MessageRow where
  messageId := String.singleton (Char.ofNat (index + 20))
  senderId := "me"
  target := .peer peerId
  content := some content
  createdAt := 0
  replyToMessageId := none

def anchor : MessageRow := note 0 "bob" (.text "hello")

def keptNote : MessageTables := MessageTables.empty.apply (.insert anchor)

/-- The one message of a conversation is returned once, and its page shows it. -/
theorem kept_note_is_shown : ∃ page, Followed (fun _ => none) "me" (.peer "bob") keptNote none [] [page] ∧
    page.messages.filter (fun message => message.messageId = anchor.messageId) = [historyMessage (1, anchor) "hello"] ∧
    historyMessage (1, anchor) "hello" ∈ (desktopHistory (fun _ => none) "me" (.peer "bob") none (some anchor.messageId)
      keptNote keptNote keptNote).messages := by
  obtain ⟨history, -, shows, -⟩ := stored_messages_are_shown (fun _ => none) id "me"
  have followed : Followed (fun _ => none) "me" (.peer "bob") keptNote none [] _ := .last (by decide +kernel)
  have stored : (1, anchor) ∈ (keptNote.get (Conversation.tableName (.peer "bob"))).rows := by decide +kernel
  have through : Throughout (.peer "bob") (1, anchor) keptNote [] := by
    intro earlier later split
    obtain ⟨rfl, -⟩ := List.append_eq_nil_iff.mp split.symm
    exact stored
  have once := (history.2 _ _ _ _ followed).2 (1, anchor) "hello" through (by decide +kernel) rfl
  rw [List.flatMap_singleton] at once
  exact ⟨_, followed, once, shows (.peer "bob") none anchor.messageId keptNote [] [] (1, anchor) "hello" (by decide +kernel)
    (by decide +kernel) rfl stored stored rfl .nil⟩

/-! ### Anchors that a page does not show -/

def damaged : MessageTables := MessageTables.empty.apply (.insert (note 0 "bob" (.encrypted [])))

/-- A message for bob, a hundred for eve and another for bob. -/
def spacedOut : MessageTables :=
  (List.range 102).foldl (fun tables index =>
    tables.apply (.insert (note index (if index = 0 ∨ index = 101 then "bob" else "eve") (.text "hello")))) .empty

/-- All but the first message go, and a hundred for bob come. -/
def replacedByOthers : List Change :=
  .delete .messages (fun row => row.messageId ≠ anchor.messageId) ::
    (List.range 100).map fun index => .insert (note (index + 1) "bob" (.text "hello"))

/-- A corrupt anchor is not shown, nor one that a hundred rows pass that are given
the ids of deleted ones between the last two statements. -/
theorem anchor_is_not_shown :
    (¬ ∀ decrypt localPeerId conversation tables, ∀ row ∈ (MessageTables.get tables (Conversation.tableName conversation)).rows,
      Conversation.holds localPeerId conversation row.2 = true → row.2.messageId ≠ "" →
        ∃ message ∈ (desktopHistory decrypt localPeerId conversation none (some row.2.messageId) tables tables tables).messages,
          message.messageId = row.2.messageId) ∧
    ¬ ∀ decrypt localPeerId conversation tables later,
      ∀ row ∈ (MessageTables.get tables (Conversation.tableName conversation)).rows,
        row ∈ ((List.foldl MessageTables.apply tables later).get (Conversation.tableName conversation)).rows →
        Conversation.holds localPeerId conversation row.2 = true → row.2.messageId ≠ "" →
        (decryptContent decrypt row.2.content).isSome = true →
        ∃ message ∈ (desktopHistory decrypt localPeerId conversation none (some row.2.messageId) tables tables
          (later.foldl MessageTables.apply tables)).messages, message.messageId = row.2.messageId := by
  constructor
  · intro always
    obtain ⟨message, shown, -⟩ := always (fun _ => none) "me" (.peer "bob") damaged (1, note 0 "bob" (.encrypted []))
      (by decide +kernel) (by decide +kernel) (by decide +kernel)
    have nothing : (desktopHistory (fun _ => none) "me" (.peer "bob") none
        (some (note 0 "bob" (.encrypted [])).messageId) damaged damaged damaged).messages = [] := by decide +kernel
    rw [nothing] at shown
    contradiction
  · intro always
    have reached : (decide ((1, anchor) ∈ (spacedOut.get (Conversation.tableName (.peer "bob"))).rows) &&
        decide ((1, anchor) ∈ ((replacedByOthers.foldl MessageTables.apply spacedOut).get (Conversation.tableName (.peer "bob"))).rows) &&
        !(desktopHistory (fun _ => none) "me" (.peer "bob") none (some anchor.messageId) spacedOut spacedOut
          (replacedByOthers.foldl MessageTables.apply spacedOut)).messages.any
            fun message => message.messageId = anchor.messageId) = true := by decide +kernel
    simp only [Bool.and_eq_true, decide_eq_true_eq, Bool.not_eq_true'] at reached
    obtain ⟨⟨stored, remains⟩, missed⟩ := reached
    obtain ⟨message, shown, same⟩ := always (fun _ => none) "me" (.peer "bob") spacedOut replacedByOthers (1, anchor)
      stored remains (by decide +kernel) (by decide +kernel) (by decide +kernel)
    exact List.any_eq_false.mp missed message shown (decide_eq_true same)

end MeshTalk.Store.LocalHistory
