import MeshTalk.Store.Roster

namespace MeshTalk.Store

open MeshTalk.Library MeshTalk.Protocol

/-! # Whole rows of the roster

The columns of `group_members` that the other modules leave out, and the statements
of the roster on whole rows.
-/

structure MemberRow extends GroupMember where
  displayName : String
  groupCapable : Option Bool
  joinAnnounced : Bool
deriving DecidableEq, Repr

namespace MemberRow

variable (row : MemberRow)

def key : String × PeerId := (row.groupId, row.peerId)

def left (now : Time) : MemberRow := { row with active := false, leftAt := some now }

def announced : MemberRow := { row with joinAnnounced := true }

theorem left_key (now : Time) : (row.left now).key = row.key := rfl

theorem announced_key : row.announced.key = row.key := rfl

end MemberRow

abbrev Members := Table MemberRow MemberRow.key

/-- The arguments of `upsert_group_member`. -/
structure MemberUpsert where
  groupId : String
  peerId : PeerId
  displayName : String
  active : Bool
  groupCapable : Option Bool
deriving DecidableEq, Repr

namespace MemberUpsert

def key (upsert : MemberUpsert) : String × PeerId := (upsert.groupId, upsert.peerId)

/-- The row of a new member. -/
def fresh (upsert : MemberUpsert) (now : Time) : MemberRow where
  groupId := upsert.groupId
  peerId := upsert.peerId
  active := upsert.active
  joinedAt := now
  lastSeen := now
  leftAt := none
  displayName := upsert.displayName
  groupCapable := upsert.groupCapable
  joinAnnounced := false

/-- `DO UPDATE SET`. -/
def onto (upsert : MemberUpsert) (now : Time) (row : MemberRow) : MemberRow :=
  { row with
    displayName := upsert.displayName
    lastSeen := now
    active := upsert.active
    leftAt := none
    groupCapable := upsert.groupCapable.or row.groupCapable
    joinAnnounced := if !row.active && upsert.active then false else row.joinAnnounced }

theorem onto_key (upsert : MemberUpsert) (now : Time) (row : MemberRow) : (upsert.onto now row).key = row.key := rfl

theorem fresh_key (upsert : MemberUpsert) (now : Time) : (upsert.fresh now).key = upsert.key := rfl

end MemberUpsert

namespace Members

variable (members : Members)

def activeIn (groupId : String) : Nat := members.count fun row => row.groupId = groupId && row.active

def activeCount : Nat := members.count fun row => row.active

def inactiveCount : Nat := members.count fun row => !row.active

def isActive (key : String × PeerId) : Bool := (members.find? key).any fun row => row.active

def admits (upsert : MemberUpsert) : Bool :=
  (members.find? upsert.key).any (fun row => row.active || !upsert.active) ||
    (members.activeIn upsert.groupId < Database.maxGroupMembers && members.activeCount < Database.maxTotalGroupMembers)

/-- The insert of `upsert_group_member`. -/
def insertMember (upsert : MemberUpsert) (now : Time) : Members :=
  if members.admits upsert then
    match members.find? upsert.key with
    | none => members.insertOrIgnore (upsert.fresh now)
    | some _ => members.updateWhere (fun row => decide (row.key = upsert.key)) (upsert.onto now) (upsert.onto_key now)
  else members

def inactive : List MemberRow :=
  (members.rows.filter fun row => !row.active).mergeSort fun first second =>
    decide (second.leftAt.getD second.lastSeen ≤ first.leftAt.getD first.lastSeen)

/-- The delete of `upsert_group_member`. -/
def trimInactive : Members :=
  let trimmed := members.inactive.drop Database.maxInactiveGroupMembers
  members.deleteWhere fun row => decide (row ∈ trimmed)

def markLeft (key : String × PeerId) (now : Time) : Members :=
  members.updateWhere (fun row => decide (row.key = key)) (fun row => row.left now) fun row => row.left_key now

def pendingJoin (key : String × PeerId) (row : MemberRow) : Bool :=
  decide (row.key = key) && row.active && !row.joinAnnounced

/-- `claim_group_join_announcement`, and whether a row was changed. -/
def claimJoin (key : String × PeerId) : Bool × Members :=
  (decide (0 < members.count (pendingJoin key)),
    members.updateWhere (pendingJoin key) MemberRow.announced MemberRow.announced_key)

/-! ## The columns the other modules keep -/

def columns : Table GroupMember fun row => (row.groupId, row.peerId) where
  rows := members.rows.map MemberRow.toGroupMember
  unique := by rw [List.map_map]; exact members.unique

variable {members} {upsert : MemberUpsert} {now : Time} {key : String × PeerId} {db : Database}

theorem find?_columns {groupId : String} {peerId : PeerId} :
    members.columns.find? (groupId, peerId) = (members.find? (groupId, peerId)).map MemberRow.toGroupMember := by
  rw [Table.find?, columns, List.find?_map]
  rfl

theorem count_columns {counted : GroupMember → Bool} :
    members.columns.count counted = members.count fun row => counted row.toGroupMember := by
  rw [Table.count, columns, List.filter_map, List.length_map]
  rfl

theorem admits_eq (same : db.groupMembers = members.columns) :
    members.admits upsert = db.rosterAdmits upsert.groupId upsert.peerId upsert.active := by
  rw [admits, Database.rosterAdmits, Database.getGroupMember, same, find?_columns, count_columns, count_columns, Option.any_map]
  rfl

theorem columns_updateWhere {chosen : GroupMember → Bool} {change : GroupMember → GroupMember}
    {keeps : ∀ row : GroupMember, ((change row).groupId, (change row).peerId) = (row.groupId, row.peerId)}
    {wholly : MemberRow → Bool} {update : MemberRow → MemberRow} {same : ∀ row, (update row).key = row.key}
    (agree : ∀ row, chosen row.toGroupMember = wholly row)
    (project : ∀ row, change row.toGroupMember = (update row).toGroupMember) :
    members.columns.updateWhere chosen change keeps = columns (members.updateWhere wholly update same) := by
  refine Table.eq_of_rows ?_
  change (members.rows.map _).map _ = (members.rows.map _).map _
  rw [List.map_map, List.map_map]
  refine List.map_congr_left fun row _ => ?_
  simp only [Function.comp_apply, agree, project]
  split <;> rfl

theorem columns_insertOrIgnore {row : MemberRow} :
    members.columns.insertOrIgnore row.toGroupMember = columns (members.insertOrIgnore row) := by
  refine Table.eq_of_rows ?_
  have keys : members.columns.rows.map (fun row => (row.groupId, row.peerId)) = members.rows.map MemberRow.key := by
    rw [columns, List.map_map]
    rfl
  by_cases taken : row.key ∈ members.rows.map MemberRow.key
  · have known : (row.groupId, row.peerId) ∈ members.columns.rows.map (fun row => (row.groupId, row.peerId)) := keys ▸ taken
    rw [Table.insertOrIgnore, dif_pos known, Table.insertOrIgnore, dif_pos taken]
  · have fresh : (row.groupId, row.peerId) ∉ members.columns.rows.map (fun row => (row.groupId, row.peerId)) := keys ▸ taken
    rw [Table.insertOrIgnore, dif_neg fresh, Table.insertOrIgnore, dif_neg taken]
    change members.rows.map MemberRow.toGroupMember ++ [row.toGroupMember] = (members.rows ++ [row]).map MemberRow.toGroupMember
    rw [List.map_append]
    rfl

theorem columns_deleteWhere {doomed : GroupMember → Bool} {wholly : MemberRow → Bool}
    (agree : ∀ row ∈ members.rows, doomed row.toGroupMember = wholly row) :
    members.columns.deleteWhere doomed = columns (members.deleteWhere wholly) := by
  refine Table.eq_of_rows ?_
  change (members.rows.map _).filter _ = (members.rows.filter _).map _
  rw [List.filter_map]
  refine congrArg _ (List.filter_congr fun row present => ?_)
  rw [Function.comp_apply, agree row present]

theorem keyed_iff {row : MemberRow} {groupId : String} {peerId : PeerId} :
    (decide (row.groupId = groupId) && decide (row.peerId = peerId)) = decide (row.key = (groupId, peerId)) := by
  rw [← Bool.decide_and, decide_eq_decide]
  exact ⟨fun ⟨group, peer⟩ => Prod.ext group peer, fun same => ⟨congrArg Prod.fst same, congrArg Prod.snd same⟩⟩

/-- The statements do to the columns that are kept what they do to the rows. -/
theorem columns_insertMember (same : db.groupMembers = members.columns) :
    (db.insertGroupMember upsert.groupId upsert.peerId upsert.active now).groupMembers = (members.insertMember upsert now).columns := by
  have found : db.getGroupMember upsert.groupId upsert.peerId = (members.find? upsert.key).map MemberRow.toGroupMember := by
    rw [Database.getGroupMember, same, find?_columns]
    rfl
  rw [Database.insertGroupMember, insertMember, ← admits_eq same]
  cases members.admits upsert with
  | false => exact same
  | true =>
      rw [if_pos rfl, if_pos rfl, found]
      cases known : members.find? upsert.key with
      | none =>
          change db.groupMembers.insertOrIgnore (upsert.fresh now).toGroupMember = _
          rw [same]
          exact columns_insertOrIgnore
      | some row =>
          simp only [Option.map_some, same]
          exact columns_updateWhere (fun _ => keyed_iff) fun _ => rfl

theorem columns_markLeft {groupId : String} {peerId : PeerId} (same : db.groupMembers = members.columns) :
    (db.markGroupMemberLeft groupId peerId now).groupMembers = (members.markLeft (groupId, peerId) now).columns := by
  simp only [Database.markGroupMemberLeft, same]
  exact columns_updateWhere (fun _ => keyed_iff) fun _ => rfl

theorem inactive_columns (same : db.groupMembers = members.columns) :
    db.inactiveMembers = members.inactive.map MemberRow.toGroupMember := by
  rw [Database.inactiveMembers, same, columns, List.filter_map, inactive]
  exact Eq.symm (List.map_mergeSort fun _ _ _ _ => rfl)

theorem columns_trimInactive (same : db.groupMembers = members.columns) :
    db.trimInactiveMembers.groupMembers = members.trimInactive.columns := by
  change db.groupMembers.deleteWhere (fun row => decide (row ∈ db.inactiveMembers.drop _)) = _
  rw [same, inactive_columns same, ← List.map_drop]
  refine columns_deleteWhere fun row present => decide_eq_decide.mpr ⟨fun listed => ?_, List.mem_map_of_mem⟩
  obtain ⟨other, dropped, equal⟩ := List.mem_map.mp listed
  have stored : other ∈ members.rows := List.mem_of_mem_filter (List.mem_mergeSort.mp (List.mem_of_mem_drop dropped))
  have keyed : other.key = row.key := congrArg (fun row : GroupMember => (row.groupId, row.peerId)) equal
  rwa [← List.inj_on_of_nodup_map members.unique stored present keyed]

/-! ## What the statements do -/

theorem insertMember_cases : members.insertMember upsert now = members ∨
    (members.admits upsert = true ∧ members.find? upsert.key = none ∧
      members.insertMember upsert now = members.insertOrIgnore (upsert.fresh now)) ∨
    ∃ row, members.admits upsert = true ∧ members.find? upsert.key = some row ∧ members.insertMember upsert now =
      members.updateWhere (fun row => decide (row.key = upsert.key)) (upsert.onto now) (upsert.onto_key now) := by
  unfold insertMember
  cases members.admits upsert with
  | false => exact .inl rfl
  | true =>
      cases known : members.find? upsert.key with
      | none => exact .inr (.inl ⟨rfl, rfl, rfl⟩)
      | some row => exact .inr (.inr ⟨row, rfl, rfl, rfl⟩)

/-- An insert makes at most one row more satisfy a condition, and that is its own. -/
theorem count_insertMember {counted : MemberRow → Bool} :
    (members.insertMember upsert now).count counted = members.count counted ∨
      ∃ row, row.key = upsert.key ∧ row.active = upsert.active ∧ members.admits upsert = true ∧
        ((members.find? upsert.key = none ∧ row = upsert.fresh now ∧
            (members.insertMember upsert now).count counted = members.count counted + if counted row then 1 else 0) ∨
          ∃ old, members.find? upsert.key = some old ∧ row = upsert.onto now old ∧
            (members.insertMember upsert now).count counted + (if counted old then 1 else 0) =
              members.count counted + if counted row then 1 else 0) := by
  rcases @insertMember_cases members upsert now with same | ⟨admitted, none, inserted⟩ | ⟨old, admitted, found, updated⟩
  · rw [same]
    exact .inl rfl
  · rw [inserted]
    exact .inr ⟨upsert.fresh now, rfl, rfl, admitted, .inl ⟨none, rfl, Table.count_insertOrIgnore_fresh none⟩⟩
  · obtain ⟨present, keyed⟩ := Table.find?_some_iff.mp found
    rw [updated]
    refine .inr ⟨upsert.onto now old, keyed, rfl, admitted, .inr ⟨old, found, rfl, Table.count_updateWhere present fun other _ => ?_⟩⟩
    rw [decide_eq_true_eq, keyed]

theorem find?_insertMember {found : String × PeerId} : (members.insertMember upsert now).find? found =
    if found = upsert.key ∧ members.admits upsert = true then
      some (match members.find? upsert.key with
        | none => upsert.fresh now
        | some row => upsert.onto now row)
    else members.find? found := by
  unfold insertMember
  cases members.admits upsert with
  | false => rw [if_neg Bool.false_ne_true, if_neg fun both => Bool.false_ne_true both.2]
  | true =>
      simp only [if_true, and_true]
      cases known : members.find? upsert.key with
      | none =>
          change (members.insertOrIgnore (upsert.fresh now)).find? found = _
          rw [Table.find?_insertOrIgnore, MemberUpsert.fresh_key]
          by_cases own : found = upsert.key
          · subst own
            rw [known, Option.none_or, if_pos rfl]
          · rw [if_neg own, if_neg own, Option.or_none]
      | some row =>
          change (members.updateWhere _ (upsert.onto now) (upsert.onto_key now)).find? found = _
          rw [Table.find?_updateWhere]
          by_cases own : found = upsert.key
          · subst own
            obtain ⟨-, keyed⟩ := Table.find?_some_iff.mp known
            rw [known, if_pos rfl, Option.map_some, decide_eq_true keyed, if_pos rfl]
          · rw [if_neg own]
            cases held : members.find? found with
            | none => rfl
            | some other =>
                obtain ⟨-, keyed⟩ := Table.find?_some_iff.mp held
                rw [Option.map_some, decide_eq_false (keyed ▸ own), if_neg Bool.false_ne_true]

theorem find?_markLeft {found : String × PeerId} : (members.markLeft key now).find? found =
    (members.find? found).map fun row => if found = key then row.left now else row := by
  rw [markLeft, Table.find?_updateWhere]
  cases held : members.find? found with
  | none => rfl
  | some row =>
      obtain ⟨-, keyed⟩ := Table.find?_some_iff.mp held
      simp only [Option.map_some, keyed, decide_eq_true_eq]

theorem trimmed_inactive {row : MemberRow} (doomed : row ∈ members.inactive.drop Database.maxInactiveGroupMembers) :
    row.active = false := by
  have chosen := (List.mem_filter.mp (List.mem_mergeSort.mp (List.mem_of_mem_drop doomed))).2
  exact Bool.not_eq_true' _ |>.mp chosen

/-- The eviction leaves the active rows and at most so many others. -/
theorem trimInactive_active : members.trimInactive.rows.filter (fun row => row.active) = members.rows.filter fun row => row.active := by
  change (members.rows.filter _).filter _ = _
  rw [List.filter_filter]
  refine List.filter_congr fun row _ => ?_
  cases active : row.active with
  | false => rfl
  | true =>
      have spared : row ∉ members.inactive.drop Database.maxInactiveGroupMembers := fun doomed => by
        rw [trimmed_inactive doomed] at active
        cases active
      simp only [spared, decide_false, Bool.not_false, Bool.and_self]

theorem isActive_trimInactive : members.trimInactive.isActive key = members.isActive key := by
  rw [isActive, trimInactive, Table.find?_deleteWhere, isActive]
  cases members.find? key with
  | none => rfl
  | some row =>
      by_cases doomed : row ∈ members.inactive.drop Database.maxInactiveGroupMembers
      · simp [Option.filter, doomed, trimmed_inactive doomed]
      · simp [Option.filter, doomed]

theorem isActive_insertMember : (members.insertMember upsert now).isActive key =
    if key = upsert.key ∧ members.admits upsert = true then upsert.active else members.isActive key := by
  rw [isActive, find?_insertMember]
  split
  · cases members.find? upsert.key <;> rfl
  · rfl

theorem insertMember_of_refused (refused : members.admits upsert = false) : members.insertMember upsert now = members := by
  rw [insertMember, refused]
  rfl

theorem filter_not_mem {kept dropped : List MemberRow} (once : (kept ++ dropped).Nodup) :
    ((kept ++ dropped).filter fun row => !decide (row ∈ dropped)) = kept := by
  have apart := (List.nodup_append.mp once).2.2
  have first : (kept.filter fun row => !decide (row ∈ dropped)) = kept :=
    List.filter_eq_self.mpr fun row member => by
      rw [Bool.not_eq_true', decide_eq_false_iff_not]
      exact fun other => apart row member row other rfl
  have second : (dropped.filter fun row => !decide (row ∈ dropped)) = [] :=
    List.filter_eq_nil_iff.mpr fun row member => by simp [member]
  rw [List.filter_append, first, second, List.append_nil]

theorem trimInactive_few : members.trimInactive.inactiveCount ≤ Database.maxInactiveGroupMembers := by
  have sorted : members.inactive.Perm (members.rows.filter fun row => !row.active) := List.mergeSort_perm _ _
  have once : members.inactive.Nodup := sorted.nodup_iff.mpr ((List.Nodup.of_map _ members.unique).filter _)
  rw [← List.take_append_drop Database.maxInactiveGroupMembers members.inactive] at once
  have kept := filter_not_mem once
  rw [List.take_append_drop] at kept
  change ((members.rows.filter fun row => !decide (row ∈ members.inactive.drop Database.maxInactiveGroupMembers)).filter
    fun row => !row.active).length ≤ _
  rw [List.filter_comm, ← (sorted.filter _).length_eq, kept]
  exact List.length_take_le ..

theorem trimInactive_of_few (few : members.inactiveCount ≤ Database.maxInactiveGroupMembers) :
    members.trimInactive = members := by
  have length : members.inactive.length = members.inactiveCount := List.length_mergeSort _
  have none : members.inactive.drop Database.maxInactiveGroupMembers = [] :=
    List.drop_eq_nil_of_le (by rw [length]; exact few)
  refine Table.eq_of_rows ?_
  change members.rows.filter (fun row => !decide (row ∈ members.inactive.drop Database.maxInactiveGroupMembers)) = _
  rw [none]
  exact List.filter_eq_self.mpr fun row _ => by simp

end Members

end MeshTalk.Store
