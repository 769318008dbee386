import Mathlib.Data.List.Perm.Subperm
import MeshTalk.Library.RowTables
import MeshTalk.Protocol.FilePayloads

namespace MeshTalk.Store.LocalHistory

open MeshTalk.Library MeshTalk.Protocol

/-! # Pages of the stored history

Direct messages and group messages stand in tables of their own.  A page with an
anchor is read in three statements, between which the tables may change.
-/

inductive TableName where
  | messages | groupMessages
deriving DecidableEq, Repr

/-- `recipient_id` of a direct message, `group_id` of a group message. -/
inductive Target where
  | peer (recipientId : PeerId)
  | group (groupId : String)
deriving DecidableEq, Repr

/-- Text of an old database, or the nonce and ciphertext. -/
inductive StoredContent where
  | text (value : String)
  | encrypted (data : Bytes)
deriving DecidableEq, Repr

structure MessageRow where
  messageId : String
  senderId : PeerId
  target : Target
  content : Option StoredContent
  createdAt : Time
  replyToMessageId : Option String
deriving DecidableEq, Repr

def MessageRow.tableName (row : MessageRow) : TableName :=
  match row.target with
  | .peer _ => .messages
  | .group _ => .groupMessages

structure MessageTables where
  messages : RowTable MessageRow MessageRow.messageId
  groupMessages : RowTable MessageRow MessageRow.messageId

namespace MessageTables

def empty : MessageTables := ⟨∅, ∅⟩

def get (tables : MessageTables) : TableName → RowTable MessageRow MessageRow.messageId
  | .messages => tables.messages
  | .groupMessages => tables.groupMessages

end MessageTables

/-- A statement that stores a message or removes messages. -/
inductive Change where
  | insert (row : MessageRow)
  | delete (name : TableName) (doomed : MessageRow → Bool)

def Change.on (name : TableName) : Change → Option (RowTable.Change MessageRow)
  | .insert row => if row.tableName = name then some (.insert row) else none
  | .delete other doomed => if other = name then some (.delete doomed) else none

def MessageTables.apply (tables : MessageTables) (change : Change) : MessageTables where
  messages := ((change.on .messages).map tables.messages.apply).getD tables.messages
  groupMessages := ((change.on .groupMessages).map tables.groupMessages.apply).getD tables.groupMessages

inductive Conversation where
  | peer (peerId : PeerId)
  | group (groupId : String)
deriving DecidableEq, Repr

def Conversation.tableName : Conversation → TableName
  | .peer _ => .messages
  | .group _ => .groupMessages

structure HistoryMessage where
  sequence : Nat
  messageId : String
  senderId : PeerId
  target : Target
  content : String
  createdAt : Time
  replyToMessageId : Option String
deriving DecidableEq, Repr

structure HistoryPage where
  messages : List HistoryMessage
  nextBefore : Option Nat
deriving DecidableEq, Repr

def pageRows : Nat := 100
def laterRows : Nat := 50

section Reads

variable (decrypt : Bytes → Option String) (localPeerId : PeerId) (conversation : Conversation)

/-- `_decrypt_content(content) or ""`; `none` where it raises. -/
def decryptContent : Option StoredContent → Option String
  | none => some ""
  | some (.text value) => some value
  | some (.encrypted data) => decrypt data

/-- The `WHERE` clause of a conversation. -/
def Conversation.holds : MessageRow → Bool :=
  match conversation with
  | .peer peerId => fun row =>
      (row.senderId = localPeerId && row.target = .peer peerId) ||
        (row.senderId = peerId && row.target = .peer localPeerId)
  | .group groupId => fun row => row.target = .group groupId

def historyMessage (row : Nat × MessageRow) (content : String) : HistoryMessage where
  sequence := row.1
  messageId := row.2.messageId
  senderId := row.2.senderId
  target := row.2.target
  content := content
  createdAt := row.2.createdAt
  replyToMessageId := row.2.replyToMessageId

/-- A corrupt row is skipped. -/
def readMessage (row : Nat × MessageRow) : Option HistoryMessage :=
  (decryptContent decrypt row.2.content).map (historyMessage row)

/-- The last statement of `desktop_history` and what becomes of its rows. -/
def selectPage (before : Option Nat) (tables : MessageTables) : HistoryPage :=
  let table := tables.get conversation.tableName
  let chosen := conversation.holds localPeerId
  { messages := ((table.page chosen before pageRows).filterMap (readMessage decrypt)).reverse
    nextBefore := table.older chosen before pageRows }

def anchorOf (around : String) (tables : MessageTables) : Option Nat :=
  ((tables.get conversation.tableName).rows.find? fun row =>
    conversation.holds localPeerId row.2 && row.2.messageId = around).map Prod.fst

/-- The row id after the last of the rows that follow the anchor on its page. -/
def boundAfter (anchor : Nat) (tables : MessageTables) : Nat :=
  let later := ((tables.get conversation.tableName).rows.filter fun row =>
    conversation.holds localPeerId row.2 && anchor < row.1).take laterRows
  (later.getLast?.map Prod.fst).getD anchor + 1

/-- `desktop_history`; each statement finds the tables of its own time. -/
def desktopHistory (before : Option Nat) (around : Option String) (first second third : MessageTables) : HistoryPage :=
  match around.filter (· ≠ "") with
  | none => selectPage decrypt localPeerId conversation before third
  | some around =>
      match anchorOf localPeerId conversation around first with
      | none => { messages := [], nextBefore := none }
      | some anchor =>
          selectPage decrypt localPeerId conversation (some (boundAfter localPeerId conversation anchor second)) third

end Reads

/-! ## The request -/

structure HistoryRequest where
  peerId : Json
  groupId : Json
  before : Json
  around : Json

/-- A conversation identifier; `none` for an absent one. -/
def identifier : Json → Except String (Option String)
  | .null => .ok none
  | .text value => if value = "" then .error "Conversation identifiers must be non-empty strings" else .ok (some value)
  | _ => .error "Conversation identifiers must be non-empty strings"

def conversationOf (peerId groupId : Json) : Except String (Option String × Option String) := do
  let peer ← identifier peerId
  let group ← identifier groupId
  if peer.isSome && group.isSome then .error "Specify peer_id or group_id, not both"
  else .ok (peer, group)

def positive : Json → Except String (Option Nat)
  | .null => .ok none
  | .int value => if value < 1 then .error "before must be a positive integer" else .ok (some value.toNat)
  | _ => .error "before must be a positive integer"

def messageIdentifier : Json → Except String (Option String)
  | .null => .ok none
  | .text value =>
      if value = "" ∨ value.length > 128 then .error "around must be a message identifier" else .ok (some value)
  | _ => .error "around must be a message identifier"

/-- What `history` passes to `desktop_history`. -/
def historyCall (request : HistoryRequest) : Except String (Conversation × Option Nat × Option String) := do
  let (peer, group) ← conversationOf request.peerId request.groupId
  let conversation ←
    match group, peer with
    | some groupId, _ => .ok (Conversation.group groupId)
    | none, some peerId => .ok (Conversation.peer peerId)
    | none, none => .error "A conversation is required"
  let before ← positive request.before
  let around ← messageIdentifier request.around
  return (conversation, before, around)

/-! ## Following the pages -/

section Following

variable (decrypt : Bytes → Option String) (localPeerId : PeerId) (conversation : Conversation)

/-- A reader that passes `next_before` on until it is null, with the changes
between its reads. -/
inductive Followed : MessageTables → Option Nat → List Change → List HistoryPage → Prop where
  | last {tables : MessageTables} {before : Option Nat}
      (ends : (desktopHistory decrypt localPeerId conversation before none tables tables tables).nextBefore = none) :
      Followed tables before [] [desktopHistory decrypt localPeerId conversation before none tables tables tables]
  | next {tables : MessageTables} {before : Option Nat} {bound : Nat} {changes rest : List Change} {pages : List HistoryPage}
      (more : (desktopHistory decrypt localPeerId conversation before none tables tables tables).nextBefore = some bound)
      (later : Followed (changes.foldl MessageTables.apply tables) (some bound) rest pages) :
      Followed tables before (changes ++ rest)
        (desktopHistory decrypt localPeerId conversation before none tables tables tables :: pages)

/-- The row stays in its table through all of the changes. -/
def Throughout (row : Nat × MessageRow) (tables : MessageTables) (changes : List Change) : Prop :=
  RowTable.Throughout (fun tables => tables.get conversation.tableName) MessageTables.apply row tables changes

variable {decrypt localPeerId conversation} {tables first second : MessageTables} {before : Option Nat} {changes : List Change}
  {pages : List HistoryPage} {row : Nat × MessageRow} {content : String} {name : TableName}

theorem get_apply {change : Change} :
    (tables.apply change).get name = ((change.on name).map (tables.get name).apply).getD (tables.get name) := by
  cases name <;> rfl

theorem get_foldl : (changes.foldl MessageTables.apply tables).get name =
    (changes.filterMap (Change.on name)).foldl (fun table change => table.apply change) (tables.get name) := by
  induction changes generalizing tables with
  | nil => rfl
  | cons change rest ih =>
      rw [List.foldl_cons, ih, get_apply]
      cases aimed : change.on name with
      | none => rw [List.filterMap_cons_none aimed, Option.map_none, Option.getD_none]
      | some applied => rw [List.filterMap_cons_some aimed, List.foldl_cons, Option.map_some, Option.getD_some]

theorem readMessage_eq (readable : decryptContent decrypt row.2.content = some content) :
    readMessage decrypt row = some (historyMessage row content) := by
  rw [readMessage, readable, Option.map_some]

theorem readMessage_row {message : HistoryMessage} (read : readMessage decrypt row = some message) :
    message.sequence = row.1 ∧ message.messageId = row.2.messageId := by
  obtain ⟨content, -, rfl⟩ := Option.map_eq_some_iff.mp read
  exact ⟨rfl, rfl⟩

/-- The rows that the reader's pages were made from. -/
theorem Followed.walk (followed : Followed decrypt localPeerId conversation tables before changes pages) :
    ∃ raw, RowTable.Walk (conversation.holds localPeerId) pageRows (fun tables => tables.get conversation.tableName)
        MessageTables.apply tables before changes raw ∧
      pages.map HistoryPage.messages = raw.map fun page => (page.filterMap (readMessage decrypt)).reverse := by
  induction followed with
  | last ends => exact ⟨_, .last ends, rfl⟩
  | next more later ih =>
      obtain ⟨raw, walk, same⟩ := ih
      exact ⟨_, .next more walk, by rw [List.map_cons, List.map_cons, same]; rfl⟩

theorem walk_followed {raw : List (List (Nat × MessageRow))}
    (walk : RowTable.Walk (conversation.holds localPeerId) pageRows (fun tables => tables.get conversation.tableName)
      MessageTables.apply tables before changes raw) :
    ∃ pages, Followed decrypt localPeerId conversation tables before changes pages := by
  induction walk with
  | last ends => exact ⟨_, .last ends⟩
  | next more later ih =>
      obtain ⟨pages, followed⟩ := ih
      exact ⟨_, .next more followed⟩

/-- The reader comes to an end whatever is stored and deleted in the meantime. -/
theorem followed_ends (schedule : Nat → List Change) :
    ∃ count pages, Followed decrypt localPeerId conversation tables before ((List.range count).flatMap schedule) pages := by
  obtain ⟨count, raw, walk⟩ := @RowTable.Walk.ends _ _ MessageRow.messageId (conversation.holds localPeerId) before pageRows
    _ _ (fun tables => tables.get conversation.tableName) MessageTables.apply tables schedule
  obtain ⟨pages, followed⟩ := walk_followed walk
  exact ⟨count, pages, followed⟩

theorem flatten_map_of_single {α β : Type} {groups : List (List α)} {only : α} (single : groups.flatten = [only])
    {use : List α → List β} (nothing : use [] = []) : (groups.map use).flatten = use [only] := by
  induction groups with
  | nil => contradiction
  | cons group rest ih =>
      rw [List.map_cons, List.flatten_cons]
      cases group with
      | nil =>
          rw [nothing, List.nil_append]
          exact ih single
      | cons head tail =>
          rw [List.flatten_cons, List.cons_append, List.cons_eq_cons, List.append_eq_nil_iff] at single
          obtain ⟨rfl, rfl, empty⟩ := single
          have none : (rest.map use).flatten = [] := by
            refine List.flatten_eq_nil_iff.mpr fun used member => ?_
            obtain ⟨group, listed, rfl⟩ := List.mem_map.mp member
            rw [List.flatten_eq_nil_iff.mp empty group listed, nothing]
          rw [none, List.append_nil]

theorem filter_filterMap_read {rows : List (Nat × MessageRow)} {messageId : String} :
    ((rows.filterMap (readMessage decrypt)).reverse).filter (fun message => message.messageId = messageId) =
      ((rows.filter fun row => row.2.messageId = messageId).filterMap (readMessage decrypt)).reverse := by
  rw [List.filter_reverse, List.filter_filterMap, List.filterMap_filter]
  refine congrArg List.reverse (List.filterMap_congr fun row _ => ?_)
  cases read : readMessage decrypt row with
  | none => simp
  | some message =>
      rw [Option.filter_some, (readMessage_row read).2]

/-- A message that stays and can be read is returned exactly once. -/
theorem Followed.once (followed : Followed decrypt localPeerId conversation tables none changes pages)
    (throughout : Throughout conversation row tables changes) (wanted : conversation.holds localPeerId row.2 = true)
    (readable : decryptContent decrypt row.2.content = some content) :
    (pages.flatMap HistoryPage.messages).filter (fun message => message.messageId = row.2.messageId) =
      [historyMessage row content] := by
  obtain ⟨raw, walk, same⟩ := followed.walk
  have once := walk.once (by decide) throughout wanted (fun _ impossible => nomatch impossible)
  rw [List.flatMap_def, same, List.filter_flatten, List.map_map]
  rw [List.filter_flatten] at once
  have read : ((raw.map (List.filter fun other => decide (other.2.messageId = row.2.messageId))).map
      fun page => (page.filterMap (readMessage decrypt)).reverse).flatten = [historyMessage row content] := by
    rw [flatten_map_of_single once rfl, List.filterMap_cons_some (readMessage_eq readable)]
    rfl
  rw [List.map_map] at read
  rw [← read]
  exact congrArg List.flatten (List.map_congr_left fun page _ => filter_filterMap_read)

/-- Newer pages come first. -/
theorem Followed.newest_first (followed : Followed decrypt localPeerId conversation tables before changes pages) :
    pages.Pairwise fun newer older => ∀ one ∈ newer.messages, ∀ other ∈ older.messages, other.sequence < one.sequence := by
  obtain ⟨raw, walk, same⟩ := followed.walk
  have apart := (List.pairwise_flatten.mp walk.descends).2
  have ordered : (pages.map HistoryPage.messages).Pairwise fun newer older =>
      ∀ one ∈ newer, ∀ other ∈ older, other.sequence < one.sequence := by
    rw [same, List.pairwise_map]
    refine apart.imp fun {newer older} below one first other second => ?_
    obtain ⟨newerRow, newerListed, newerRead⟩ := List.mem_filterMap.mp (List.mem_reverse.mp first)
    obtain ⟨olderRow, olderListed, olderRead⟩ := List.mem_filterMap.mp (List.mem_reverse.mp second)
    rw [(readMessage_row newerRead).1, (readMessage_row olderRead).1]
    exact below newerRow newerListed olderRow olderListed
  exact List.pairwise_map.mp ordered

theorem filterMap_read_sublist {rows : List (Nat × MessageRow)} :
    ((rows.filterMap (readMessage decrypt)).map HistoryMessage.sequence).Sublist (rows.map Prod.fst) := by
  induction rows with
  | nil => exact .slnil
  | cons row rest ih =>
      cases read : readMessage decrypt row with
      | none => rw [List.filterMap_cons_none read]; exact ih.cons _
      | some message =>
          rw [List.filterMap_cons_some read, List.map_cons, List.map_cons, (readMessage_row read).1]
          exact ih.cons_cons _

theorem selectPage_in_order :
    ((selectPage decrypt localPeerId conversation before tables).messages.map HistoryMessage.sequence).Sublist
      ((tables.get conversation.tableName).rows.map Prod.fst) := by
  rw [selectPage, ← List.filterMap_reverse, RowTable.page_eq_take]
  refine filterMap_read_sublist.trans (List.Sublist.map _ ?_)
  refine (List.reverse_sublist.mpr (List.take_sublist ..)).trans ?_
  rw [RowTable.newestFirst, List.reverse_reverse]
  exact List.filter_sublist

/-- A page keeps the order in which its messages were stored. -/
theorem page_in_order {around : Option String} {third : MessageTables} :
    ((desktopHistory decrypt localPeerId conversation before around first second third).messages.map
      HistoryMessage.sequence).Sublist ((third.get conversation.tableName).rows.map Prod.fst) := by
  unfold desktopHistory
  split
  · exact selectPage_in_order
  · split
    · exact List.nil_sublist _
    · exact selectPage_in_order

/-- The request for the page after is accepted. -/
theorem next_before_accepted {bound : Nat}
    (more : (selectPage decrypt localPeerId conversation before tables).nextBefore = some bound) :
    positive (.int bound) = .ok (some bound) := by
  have some := RowTable.older_pos more
  rw [positive, if_neg (by omega), Int.toNat_natCast]

theorem selectPage_mem (listed : row ∈ (tables.get conversation.tableName).page (conversation.holds localPeerId) before pageRows)
    (readable : decryptContent decrypt row.2.content = some content) :
    historyMessage row content ∈ (selectPage decrypt localPeerId conversation before tables).messages :=
  List.mem_reverse.mpr (List.mem_filterMap.mpr ⟨row, listed, readMessage_eq readable⟩)

theorem anchorOf_eq {around : String} (present : row ∈ (tables.get conversation.tableName).rows)
    (wanted : conversation.holds localPeerId row.2 = true) (named : row.2.messageId = around) :
    anchorOf localPeerId conversation around tables = some row.1 := by
  unfold anchorOf
  cases found : (tables.get conversation.tableName).rows.find? fun row =>
      conversation.holds localPeerId row.2 && row.2.messageId = around with
  | none =>
      have missed := List.find?_eq_none.mp found row present
      simp [wanted, named] at missed
  | some other =>
      have chosen := List.find?_some found
      simp only [Bool.and_eq_true, decide_eq_true_eq] at chosen
      rw [RowTable.eq_of_key (List.mem_of_find?_eq_some found) present (chosen.2.trans named.symm), Option.map_some]

/-- The rows that follow the anchor and stand below the bound of its page. -/
def between (localPeerId : PeerId) (conversation : Conversation) (anchor : Nat) (tables : MessageTables) : List (Nat × MessageRow) :=
  ((tables.get conversation.tableName).rows.filter fun row =>
    conversation.holds localPeerId row.2 && anchor < row.1).take laterRows

theorem lt_boundAfter {anchor : Nat} : anchor < boundAfter localPeerId conversation anchor tables := by
  rw [boundAfter]
  cases found : (between localPeerId conversation anchor tables).getLast? with
  | none =>
      simp only [between] at found
      rw [found]
      exact Nat.lt_succ_self _
  | some last =>
      have member := List.mem_of_mem_take (List.mem_of_getLast? found)
      have above := (List.mem_filter.mp member).2
      simp only [between] at found
      simp only [Bool.and_eq_true, decide_eq_true_eq] at above
      rw [found, Option.map_some, Option.getD_some]
      exact Nat.lt_succ_of_lt above.2

/-- The bound is given out already, or no row id lies between. -/
theorem boundAfter_le {anchor : Nat} : boundAfter localPeerId conversation anchor tables = anchor + 1 ∨
    boundAfter localPeerId conversation anchor tables ≤ (tables.get conversation.tableName).nextRowid := by
  rw [boundAfter]
  cases found : (between localPeerId conversation anchor tables).getLast? with
  | none =>
      simp only [between] at found
      rw [found]
      exact .inl rfl
  | some last =>
      have member := List.mem_of_mem_take (List.mem_of_getLast? found)
      simp only [between] at found
      rw [found, Option.map_some, Option.getD_some]
      exact .inr (RowTable.lt_nextRowid (List.mem_of_mem_filter member))

theorem mem_between {anchor : Nat} (present : row ∈ (tables.get conversation.tableName).rows)
    (wanted : conversation.holds localPeerId row.2 = true) (after : anchor < row.1)
    (below : row.1 < boundAfter localPeerId conversation anchor tables) :
    row ∈ between localPeerId conversation anchor tables := by
  let following := (tables.get conversation.tableName).rows.filter fun row =>
    conversation.holds localPeerId row.2 && anchor < row.1
  have listed : row ∈ following := List.mem_filter.mpr ⟨present, by simp [wanted, after]⟩
  have ascending : following.Pairwise fun first second => first.1 < second.1 :=
    (tables.get conversation.tableName).ascending.sublist List.filter_sublist
  rw [← List.take_append_drop laterRows following] at listed ascending
  rcases List.mem_append.mp listed with first | rest
  · exact first
  · have filled : (following.take laterRows) ≠ [] := by
      refine List.ne_nil_of_length_pos ?_
      have some := List.length_pos_of_mem rest
      rw [List.length_drop] at some
      rw [List.length_take, laterRows]
      omega
    have last := (List.pairwise_append.mp ascending).2.2 _ (List.getLast_mem filled) row rest
    rw [boundAfter] at below
    change row.1 < ((following.take laterRows).getLast?.map Prod.fst).getD anchor + 1 at below
    rw [List.getLast?_eq_some_getLast filled, Option.map_some, Option.getD_some] at below
    omega

/-- A page with an anchor shows it: between the last two statements no row is
inserted below the bound. -/
theorem around_shows_anchor {around : String} {earlier later : List Change} (identified : around ≠ "")
    (wanted : conversation.holds localPeerId row.2 = true) (named : row.2.messageId = around)
    (stored : row ∈ (tables.get conversation.tableName).rows)
    (remains : row ∈ (((earlier ++ later).foldl MessageTables.apply tables).get conversation.tableName).rows)
    (readable : decryptContent decrypt row.2.content = some content)
    (ordered : (later.filterMap (Change.on conversation.tableName)).Pairwise fun first second =>
      first.inserts = false → second.inserts = false) :
    historyMessage row content ∈ (desktopHistory decrypt localPeerId conversation before (some around) tables
      (earlier.foldl MessageTables.apply tables) ((earlier ++ later).foldl MessageTables.apply tables)).messages := by
  rw [List.foldl_append] at remains ⊢
  let middle := earlier.foldl MessageTables.apply tables
  let last := later.foldl MessageTables.apply middle
  let bound := boundAfter localPeerId conversation row.1 middle
  have selected : desktopHistory decrypt localPeerId conversation before (some around) tables middle last =
      selectPage decrypt localPeerId conversation (some bound) last := by
    rw [desktopHistory, Option.filter_some, if_pos (by simp [identified])]
    simp only [anchorOf_eq stored wanted named]
    rfl
  change historyMessage row content ∈ (desktopHistory decrypt localPeerId conversation before (some around) tables middle last).messages
  rw [selected]
  refine selectPage_mem (RowTable.mem_page_of_few remains wanted (fun limit held => Option.some.inj held ▸ lt_boundAfter) ?_) readable
  let newer := ((last.get conversation.tableName).newestFirst (conversation.holds localPeerId) (some bound)).filter
    fun other => row.1 < other.1
  have within : newer ⊆ between localPeerId conversation row.1 middle := by
    intro other listed
    obtain ⟨member, after⟩ := List.mem_filter.mp listed
    obtain ⟨present, chosen, below⟩ := RowTable.mem_newestFirst.mp member
    have after := of_decide_eq_true after
    have below := below bound rfl
    refine mem_between ?_ chosen after below
    rw [get_foldl] at present
    refine RowTable.apply_below ordered ?_ present below
    rcases @boundAfter_le localPeerId conversation middle row.1 with next | given
    · exact absurd below (by simp only [bound, next]; omega)
    · exact .inl given
  have distinct : newer.Nodup := RowTable.nodup_newestFirst.filter _
  calc newer.length ≤ (between localPeerId conversation row.1 middle).length :=
        (List.subperm_of_subset distinct within).length_le
    _ ≤ laterRows := by rw [between, List.length_take]; exact Nat.min_le_left ..
    _ < pageRows := by decide

end Following

end MeshTalk.Store.LocalHistory
