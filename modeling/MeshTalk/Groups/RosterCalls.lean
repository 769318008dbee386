import MeshTalk.Library.Alone
import MeshTalk.Store.MemberRows

namespace MeshTalk.Groups

open MeshTalk.Library MeshTalk.Protocol MeshTalk.Store

/-! # Calls that change the roster

`upsert_group_member` and `mark_group_member_left`, statement by statement; every
other call may run between two statements of one.
-/

inductive RosterPoint where
  | query
  | insert (upsert : MemberUpsert)
  | trim
  | markLeft (key : String × PeerId)
deriving DecidableEq, Repr

inductive RosterError where
  | limitReached
deriving DecidableEq, Repr

abbrev RosterProgram := Task Members Time RosterPoint RosterError

/-- What a statement does. -/
def rosterEffect : RosterPoint → Time → Members → Members
  | .query, _, members => members
  | .insert upsert, now, members => members.insertMember upsert now
  | .trim, _, members => members.trimInactive
  | .markLeft key, now, members => members.markLeft key now

def rosterExecute (point : RosterPoint) : RosterProgram Unit :=
  Task.perform point fun now => Handler.change fun members => rosterEffect point now members

def getGroupMember (key : String × PeerId) : RosterProgram (Option MemberRow) :=
  Task.perform .query fun _ => do
    let members ← Handler.read
    pure (members.find? key)

/-- Whether the member newly joined. -/
def upsertGroupMember (upsert : MemberUpsert) : RosterProgram Bool := do
  let existing ← getGroupMember upsert.key
  rosterExecute (.insert upsert)
  rosterExecute .trim
  let stored ← getGroupMember upsert.key
  if stored.any (fun row => row.active || !upsert.active) then pure !(existing.any fun row => row.active)
  else .failed .limitReached

inductive RosterCall where
  | upsert (upsert : MemberUpsert)
  | left (key : String × PeerId)
deriving DecidableEq, Repr

def rosterProgram : RosterCall → RosterProgram Unit
  | .upsert upsert => do
      let _ ← upsertGroupMember upsert
  | .left key => rosterExecute (.markLeft key)

def rosterService : Service Members Time RosterPoint RosterError RosterCall where
  program := fun call _ => rosterProgram call
  reboot := id

theorem rosterExecute_follows {point : RosterPoint} : (rosterExecute point).Follows rosterEffect fun _ => True :=
  Task.Follows.perform trivial fun _ _ => rfl

theorem getGroupMember_follows {key : String × PeerId} : (getGroupMember key).Follows rosterEffect fun _ => True :=
  Task.Follows.perform trivial fun _ _ => rfl

theorem rosterProgram_follows {call : RosterCall} : (rosterProgram call).Follows rosterEffect fun _ => True := by
  cases call with
  | left key => exact rosterExecute_follows
  | upsert upsert =>
      refine Task.Follows.bind ?_ fun _ => Task.Follows.pure
      refine Task.Follows.bind getGroupMember_follows fun _ => Task.Follows.bind rosterExecute_follows fun _ => ?_
      refine Task.Follows.bind rosterExecute_follows fun _ => Task.Follows.bind getGroupMember_follows fun _ => ?_
      exact Task.Follows.ite Task.Follows.pure Task.Follows.failed

/-! ## The limits -/

structure WithinLimits (members : Members) : Prop where
  group : ∀ groupId, Members.activeIn members groupId ≤ Database.maxGroupMembers
  total : Members.activeCount members ≤ Database.maxTotalGroupMembers

section Limits

variable {members : Members} {upsert : MemberUpsert} {now : Time} {key : String × PeerId}

/-- What bounds a count of active rows before an insert bounds it after. -/
theorem insert_bounded {counted : MemberRow → Bool} {bound : Nat} (active : ∀ row, counted row = true → row.active = true)
    (depends : ∀ row other : MemberRow, row.key = other.key → row.active = other.active → counted row = counted other)
    (bounded : Table.count members counted ≤ bound)
    (room : ∀ row : MemberRow, row.key = upsert.key → counted row = true → upsert.active = true →
      Members.admits members upsert = true → Members.isActive members upsert.key = false → Table.count members counted < bound) :
    Table.count (Members.insertMember members upsert now) counted ≤ bound := by
  rcases @Members.count_insertMember members upsert now counted with same | ⟨row, keyed, status, admitted, changed⟩
  · rw [same]
    exact bounded
  · rcases changed with ⟨none, -, count⟩ | ⟨old, found, updated, count⟩
    · cases chosen : counted row with
      | false => rw [count, chosen]; exact bounded
      | true =>
          have few := room row keyed chosen (status.symm.trans (active row chosen)) admitted (by rw [Members.isActive, none]; rfl)
          rw [count, chosen]
          exact few
    · cases chosen : counted row with
      | false =>
          rw [chosen, if_neg Bool.false_ne_true] at count
          omega
      | true =>
          cases before : counted old with
          | true =>
              rw [chosen, before] at count
              omega
          | false =>
              rw [chosen, before, if_neg Bool.false_ne_true, if_pos rfl] at count
              have idle : old.active = false := by
                cases was : old.active with
                | false => rfl
                | true =>
                    have same := depends row old (keyed.trans (Table.find?_some_iff.mp found).2.symm)
                      ((active row chosen).trans was.symm)
                    rw [chosen, before] at same
                    cases same
              have few := room row keyed chosen (status.symm.trans (active row chosen)) admitted
                (by rw [Members.isActive, found]; exact idle)
              omega

/-- A member that is not active is only activated below the limits. -/
theorem admits_room (activating : upsert.active = true) (idle : Members.isActive members upsert.key = false)
    (admitted : Members.admits members upsert = true) :
    Members.activeIn members upsert.groupId < Database.maxGroupMembers ∧
      Members.activeCount members < Database.maxTotalGroupMembers := by
  have unknown : (Table.find? members upsert.key).any (fun row => row.active || !upsert.active) = false := by
    rw [activating]
    simpa [Members.isActive] using idle
  rw [Members.admits, unknown, Bool.false_or, Bool.and_eq_true, decide_eq_true_eq, decide_eq_true_eq] at admitted
  exact admitted

theorem count_of_active {counted : MemberRow → Bool} (active : ∀ row, counted row = true → row.active = true) :
    Table.count (Members.trimInactive members) counted = Table.count members counted := by
  have both : ∀ rows : List MemberRow, rows.filter counted = (rows.filter fun row => row.active).filter counted := fun rows => by
    rw [List.filter_filter]
    refine List.filter_congr fun row _ => ?_
    cases chosen : counted row with
    | false => rfl
    | true => rw [active row chosen]; rfl
  rw [Table.count, Table.count, both, Members.trimInactive_active, ← both]

theorem markLeft_bounded {counted : MemberRow → Bool} (active : ∀ row, counted row = true → row.active = true) :
    Table.count (Members.markLeft members key now) counted ≤ Table.count members counted := by
  change ((members.rows.map _).filter _).length ≤ _
  rw [List.filter_map, List.length_map, Table.count, ← List.countP_eq_length_filter, ← List.countP_eq_length_filter]
  refine List.countP_mono_left fun row _ chosen => ?_
  simp only [Function.comp_apply] at chosen
  split at chosen
  · exact absurd (active _ chosen) (by simp [MemberRow.left])
  · exact chosen

theorem rosterEffect_within {point : RosterPoint} (within : WithinLimits members) :
    WithinLimits (rosterEffect point now members) := by
  have grouped : ∀ (groupId : String) (row : MemberRow), (row.groupId = groupId && row.active) = true → row.active = true :=
    fun groupId row chosen => (Bool.and_eq_true_iff.mp chosen).2
  cases point with
  | query => exact within
  | insert upsert =>
      refine ⟨fun groupId => ?_, ?_⟩
      · refine insert_bounded (grouped groupId) (fun row other keyed status => ?_) (within.group groupId) ?_
        · have same : row.groupId = other.groupId := congrArg Prod.fst keyed
          rw [same, status]
        · intro row keyed chosen activating admitted idle
          have own : row.groupId = upsert.groupId := congrArg Prod.fst keyed
          have chosenGroup : row.groupId = groupId := of_decide_eq_true (Bool.and_eq_true_iff.mp chosen).1
          rw [← chosenGroup, own]
          exact (admits_room activating idle admitted).1
      · exact insert_bounded (fun _ => id) (fun _ _ _ status => status) within.total fun _ _ _ activating admitted idle =>
          (admits_room activating idle admitted).2
  | trim =>
      refine ⟨fun groupId => ?_, ?_⟩
      · exact Nat.le_trans (Nat.le_of_eq (count_of_active (grouped groupId))) (within.group groupId)
      · exact Nat.le_trans (Nat.le_of_eq (count_of_active fun _ => id)) within.total
  | markLeft key =>
      exact ⟨fun groupId => Nat.le_trans (markLeft_bounded (grouped groupId)) (within.group groupId),
        Nat.le_trans (markLeft_bounded fun _ => id) within.total⟩

/-! ## One call by itself -/

/-- A call that nothing else overlaps: an activation that returns says whether the
member newly joined, and one that is refused leaves the active rows alone. -/
theorem upsert_by_itself {inputs : List Time} {outcome : Except RosterError Bool} {after : Members}
    (activating : upsert.active = true) (ended : (upsertGroupMember upsert).alone inputs members = some (outcome, after)) :
    (outcome = .ok true ↔ Members.isActive members upsert.key = false ∧ Members.isActive after upsert.key = true) ∧
      (outcome = .error .limitReached → after.rows.filter (fun row => row.active) = members.rows.filter fun row => row.active) := by
  have ends : Task.Ends (fun _ _ _ => True) (upsertGroupMember upsert) members fun _ outcome after =>
      (outcome = .ok true ↔ Members.isActive members upsert.key = false ∧ Members.isActive after upsert.key = true) ∧
        (outcome = .error .limitReached → after.rows.filter (fun row => row.active) = members.rows.filter fun row => row.active) := by
    refine Task.Ends.bind (Task.Ends.perform fun _ => ?_)
    refine Task.Ends.bind (Task.Ends.perform fun now => ?_)
    refine Task.Ends.bind (Task.Ends.perform fun _ => ?_)
    refine Task.Ends.bind (Task.Ends.perform fun _ => ?_)
    have stored : ∀ row : MemberRow, (row.active || !upsert.active) = row.active := fun row => by
      rw [activating, Bool.not_true, Bool.or_false]
    have reread : ((Members.trimInactive (Members.insertMember members upsert now)).find? upsert.key).any
        (fun row => row.active || !upsert.active) =
          Members.isActive (Members.trimInactive (Members.insertMember members upsert now)) upsert.key := by
      simp only [stored, Members.isActive]
    refine Task.Ends.ite (fun returns => Task.Ends.pure ?_) fun raises => Task.Ends.failed ?_
    · have active := reread.symm.trans returns
      refine ⟨⟨fun joined => ⟨?_, active⟩, fun joined => ?_⟩, by rintro ⟨⟩⟩
      · have idle : (!(Members.isActive members upsert.key)) = true := Except.ok.inj joined
        exact Bool.not_eq_true' _ |>.mp idle
      · have idle : (!(Members.isActive members upsert.key)) = true := by rw [joined.1]; rfl
        exact congrArg Except.ok idle
    · have idle := reread.symm.trans (Bool.eq_false_iff.mpr raises)
      refine ⟨⟨by rintro ⟨⟩, fun joined => ?_⟩, fun _ => ?_⟩
      · exact absurd (joined.2.symm.trans idle) (by decide)
      · rw [Members.isActive_trimInactive, Members.isActive_insertMember] at idle
        have refused : Members.admits members upsert = false := by
          cases admitted : Members.admits members upsert with
          | false => rfl
          | true =>
              rw [admitted, if_pos ⟨rfl, rfl⟩, activating] at idle
              cases idle
        change (Members.trimInactive (Members.insertMember members upsert now)).rows.filter _ = _
        rw [Members.insertMember_of_refused refused, Members.trimInactive_active]
  exact ends inputs outcome after ended

end Limits

/-! ## Runs -/

/-- What every statement of every call keeps, whatever runs before it and next to it;
and what an activation returns that nothing overlaps. -/
theorem roster_keeps_limits {start : Members} {events : List (PoolEvent Time RosterCall)}
    {final : Pool Members Time RosterPoint RosterError} (within : WithinLimits start)
    (completed : run (Pool.step rosterService) ⟨start, []⟩ events = some final) :
    WithinLimits final.shared ∧
      (∀ index now next, final.step rosterService (.resume index now) = some next →
        (final.pointAt index = some .trim → Members.inactiveCount next.shared ≤ Database.maxInactiveGroupMembers ∧
          next.shared.rows.filter (fun row => row.active) = final.shared.rows.filter fun row => row.active) ∧
        ∀ upsert, final.pointAt index = some (.insert upsert) → Members.admits final.shared upsert = false →
          next.shared = final.shared) ∧
      ∀ upsert inputs outcome after, upsert.active = true →
        (upsertGroupMember upsert).alone inputs final.shared = some (outcome, after) →
        (outcome = .ok true ↔
          Members.isActive final.shared upsert.key = false ∧ Members.isActive after upsert.key = true) ∧
        (outcome = .error .limitReached →
          after.rows.filter (fun row => row.active) = final.shared.rows.filter fun row => row.active) := by
  have programs : ∀ call self, (rosterService.program call self).Follows rosterEffect fun _ => True :=
    fun _ _ => rosterProgram_follows
  obtain ⟨limited, obeys⟩ := Pool.run_obeys WithinLimits (fun _ _ => True) programs
    (fun pool _ _ _ held _ _ _ => rosterEffect_within held) (fun _ held => held)
    ⟨within, fun _ member => (List.not_mem_nil member).elim⟩ (meets_trivial fun _ _ => trivial) completed
  refine ⟨limited, fun index now next stepped => ?_, fun upsert inputs outcome after activating => upsert_by_itself activating⟩
  obtain ⟨-, point, suspended, -, shared⟩ := Pool.step_obeys programs obeys stepped
  refine ⟨fun trims => ?_, fun upsert inserts refused => ?_⟩
  · rw [suspended] at trims
    cases trims
    rw [shared]
    exact ⟨Members.trimInactive_few, Members.trimInactive_active⟩
  · rw [suspended] at inserts
    cases inserts
    rw [shared]
    exact Members.insertMember_of_refused refused

def teamMember (peerId : PeerId) : MemberUpsert where
  groupId := "team"
  peerId := peerId
  displayName := "Anonymous"
  active := true
  groupCapable := none

/-- Bob joins and leaves while Carol joins. -/
def bobAndCarol : List (PoolEvent Time RosterCall) :=
  [.start (.upsert (teamMember "bob")), .start (.upsert (teamMember "carol")), .resume 0 1, .resume 1 1, .resume 0 2, .resume 1 2,
   .resume 0 3, .start (.left ("team", "bob")), .resume 2 3, .resume 1 3]

theorem bob_and_carol_keep_limits : ∃ final, run (Pool.step rosterService) ⟨∅, []⟩ bobAndCarol = some final ∧
    WithinLimits final.shared := by
  have completed : (run (Pool.step rosterService) ⟨∅, []⟩ bobAndCarol).isSome = true := by decide +kernel
  obtain ⟨final, completed⟩ := Option.isSome_iff_exists.mp completed
  have within : WithinLimits ∅ := ⟨fun _ => Nat.zero_le _, Nat.zero_le _⟩
  exact ⟨final, completed, (roster_keeps_limits within completed).1⟩

/-! ## A member leaves before an upsert returns -/

/-- The events of an upsert up to its last query, a leave, and that query. -/
def leaveWithin (upsert : MemberUpsert) (key : String × PeerId) : List (PoolEvent Time RosterCall) :=
  [.start (.upsert upsert), .start (.left key), .resume 0 2, .resume 0 2, .resume 0 2, .resume 1 2, .resume 0 2]

theorem run_leaveWithin {members after : Members} {upsert : MemberUpsert} {key : String × PeerId}
    (reached : Members.markLeft (Members.trimInactive (Members.insertMember members upsert 2)) key 2 = after)
    (stays : Members.isActive after upsert.key = true) :
    run (Pool.step rosterService) ⟨members, []⟩ (leaveWithin upsert key) = some ⟨after, [.done (), .done ()]⟩ := by
  subst reached
  let after := Members.markLeft (Members.trimInactive (Members.insertMember members upsert 2)) key 2
  have returns : (Table.find? after upsert.key).any (fun row => row.active || !upsert.active) = true := by
    obtain ⟨row, found, active⟩ := Option.any_eq_true .. |>.mp stays
    exact Option.any_eq_true .. |>.mpr ⟨row, found, by rw [active]; rfl⟩
  have last : (if (Table.find? after upsert.key).any (fun row => row.active || !upsert.active) then
      (pure !((Table.find? members upsert.key).any fun row => row.active) : RosterProgram Bool)
      else .failed .limitReached) = .done !((Table.find? members upsert.key).any fun row => row.active) := if_pos returns
  refine Eq.trans (b := some ⟨after, [(if (Table.find? after upsert.key).any (fun row => row.active || !upsert.active) then
      (pure !((Table.find? members upsert.key).any fun row => row.active) : RosterProgram Bool)
      else .failed .limitReached) >>= fun _ => pure (), .done ()]⟩) rfl ?_
  rw [last]
  rfl

/-- A member that left, with a name no other one has. -/
def departedRow (index : Nat) : MemberRow where
  groupId := "team"
  peerId := String.ofList (List.replicate (index + 1) 'a')
  active := false
  joinedAt := 0
  lastSeen := 0
  leftAt := some 0
  displayName := "Anonymous"
  groupCapable := none
  joinAnnounced := true

def bobRow : MemberRow := (teamMember "bob").fresh 1

theorem departedRow_ne {index : Nat} {peerId : PeerId} (other : peerId.toList.head? ≠ some 'a') :
    (departedRow index).key ≠ ("team", peerId) := by
  intro same
  have texts := congrArg (fun key : String × PeerId => key.2.toList.head?) same
  simp only [MemberRow.key, departedRow, String.toList_ofList, List.replicate_succ, List.head?_cons] at texts
  exact other texts.symm

/-- Bob and as many members that left as are kept. -/
def departedTeam : Members where
  rows := bobRow :: (List.range Database.maxInactiveGroupMembers).map departedRow
  unique := by
    refine List.nodup_cons.mpr ⟨fun taken => ?_, ?_⟩
    · obtain ⟨row, member, same⟩ := List.mem_map.mp taken
      obtain ⟨index, -, rfl⟩ := List.mem_map.mp member
      exact departedRow_ne (by decide) same
    · rw [List.map_map]
      refine List.nodup_range.map fun first second same => ?_
      have texts := congrArg (fun key : String × PeerId => key.2.toList.length) same
      simpa [MemberRow.key, departedRow] using texts

theorem filter_departed {counted : MemberRow → Bool} {count : Nat} (active : ∀ row, counted row = true → row.active = true) :
    ((List.range count).map departedRow).filter counted = [] := by
  refine List.filter_eq_nil_iff.mpr fun row member chosen => ?_
  obtain ⟨index, -, rfl⟩ := List.mem_map.mp member
  have left := active (departedRow index) chosen
  cases left

theorem departedTeam_active {counted : MemberRow → Bool} (active : ∀ row, counted row = true → row.active = true) :
    Table.count departedTeam counted ≤ 1 := by
  change (List.filter counted (bobRow :: _)).length ≤ 1
  rw [← List.singleton_append, List.filter_append, filter_departed active, List.append_nil]
  exact List.length_filter_le ..

theorem departedTeam_inactive : Members.inactiveCount departedTeam = Database.maxInactiveGroupMembers := by
  have all : ((List.range Database.maxInactiveGroupMembers).map departedRow).filter (fun row => !row.active) =
      (List.range Database.maxInactiveGroupMembers).map departedRow := by
    refine List.filter_eq_self.mpr fun row member => ?_
    obtain ⟨index, -, rfl⟩ := List.mem_map.mp member
    rfl
  change (List.filter (fun row => !row.active) (bobRow :: _)).length = _
  rw [List.filter_cons_of_neg (by decide), all, List.length_map, List.length_range]

theorem departedTeam_within : WithinLimits departedTeam :=
  ⟨fun groupId => Nat.le_trans (departedTeam_active fun row chosen => (Bool.and_eq_true_iff.mp chosen).2) (by decide),
    Nat.le_trans (departedTeam_active fun _ => id) (by decide)⟩

theorem departedTeam_carol : Table.find? departedTeam (teamMember "carol").key = none := by
  refine Table.find?_none_iff.mpr fun row member same => ?_
  rcases List.mem_cons.mp member with rfl | departed
  · exact absurd same (by decide)
  · obtain ⟨index, -, rfl⟩ := List.mem_map.mp departed
    exact departedRow_ne (by decide) same

/-- In a full table a member that leaves between the eviction and the return of an
upsert is one more inactive row than are kept. -/
theorem run_leave_follows {members : Members} (absent : Table.find? members (teamMember "carol").key = none)
    (admitted : Members.admits members (teamMember "carol") = true) (bob : bobRow ∈ members.rows)
    (full : Members.inactiveCount members = Database.maxInactiveGroupMembers) :
    ∃ final, run (Pool.step rosterService) ⟨members, []⟩ (leaveWithin (teamMember "carol") ("team", "bob")) =
        some ⟨final, [.done (), .done ()]⟩ ∧ Database.maxInactiveGroupMembers < Members.inactiveCount final := by
  have inserted : Members.insertMember members (teamMember "carol") 2 =
      Table.insertOrIgnore members ((teamMember "carol").fresh 2) := by
    rw [Members.insertMember, admitted, absent]
    rfl
  have count : Members.inactiveCount (Members.insertMember members (teamMember "carol") 2) =
      Database.maxInactiveGroupMembers := by
    rw [inserted, Members.inactiveCount, Table.count_insertOrIgnore_fresh absent]
    exact full
  have present : bobRow ∈ (Members.insertMember members (teamMember "carol") 2).rows := by
    rw [inserted]
    exact Table.mem_insertOrIgnore.mpr (.inl bob)
  have trimmed := Members.trimInactive_of_few (Nat.le_of_eq count)
  refine ⟨_, run_leaveWithin rfl ?_, ?_⟩
  · rw [trimmed, Members.isActive, Members.find?_markLeft, Members.find?_insertMember, if_pos ⟨rfl, admitted⟩, absent]
    rfl
  · have left : Members.inactiveCount (Members.markLeft (Members.insertMember members (teamMember "carol") 2) ("team", "bob") 2) + 0 =
        Members.inactiveCount (Members.insertMember members (teamMember "carol") 2) + 1 :=
      Table.count_updateWhere present fun other _ => decide_eq_true_iff
    rw [trimmed]
    omega

theorem leave_follows_eviction : WithinLimits departedTeam ∧
    Members.inactiveCount departedTeam ≤ Database.maxInactiveGroupMembers ∧
    ∃ final, run (Pool.step rosterService) ⟨departedTeam, []⟩ (leaveWithin (teamMember "carol") ("team", "bob")) =
        some ⟨final, [.done (), .done ()]⟩ ∧ Database.maxInactiveGroupMembers < Members.inactiveCount final := by
  refine ⟨departedTeam_within, Nat.le_of_eq departedTeam_inactive, ?_⟩
  refine run_leave_follows departedTeam_carol ?_ List.mem_cons_self departedTeam_inactive
  have total : Members.activeCount departedTeam ≤ 1 := departedTeam_active fun _ => id
  have group : Members.activeIn departedTeam "team" ≤ 1 :=
    departedTeam_active fun row chosen => (Bool.and_eq_true_iff.mp chosen).2
  rw [Members.admits, Bool.or_eq_true, Bool.and_eq_true, decide_eq_true_eq, decide_eq_true_eq]
  exact .inr ⟨Nat.lt_of_le_of_lt group (by decide), Nat.lt_of_le_of_lt total (by decide)⟩

end MeshTalk.Groups
