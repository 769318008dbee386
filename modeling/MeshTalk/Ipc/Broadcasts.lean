import MeshTalk.Library.Iteration
import MeshTalk.Ipc.Server

namespace MeshTalk.Ipc

open MeshTalk.Library Server

/-! # Whom a broadcast reaches

The loop of a broadcast goes by index, so a client that leaves after it has been written
to makes the loop pass over another one.
-/

variable {server next : Server} {writer : Writer} {id : Nat} {clients failing : List Writer} {broadcast : Broadcast}

/-- A broadcast over a list of clients, all of them authenticated. -/
structure Broadcast.Goes (clients authenticated : List Writer) (broadcast : Broadcast) : Prop where
  iterated : Iterated clients broadcast.tried broadcast.index
  known : ∀ writer ∈ broadcast.tried, writer ∈ authenticated
  dead : (broadcast.dead ++ broadcast.waiting.toList).Nodup
  tried : ∀ writer ∈ broadcast.dead ++ broadcast.waiting.toList, writer ∈ broadcast.tried

/-- A broadcast that has ended reached all clients of the list but for so many as had gone. -/
structure Finished.Reached (authenticated : List Writer) (finished : Finished) : Prop where
  once : finished.tried.Nodup
  known : ∀ writer ∈ finished.tried, writer ∈ authenticated
  missed : (finished.clients.filter fun writer => writer ∉ finished.tried).length ≤ gone finished.clients finished.tried
  raised : finished.raised = true ↔ ∃ writer ∈ finished.dead, writer ∉ finished.clients

/-- What holds of the server between two steps. -/
structure Server.Sound (server : Server) : Prop where
  distinct : server.clients.Nodup
  known : ∀ writer ∈ server.clients, writer ∈ server.authenticated
  dispatched : ∀ entry ∈ server.dispatched, entry.1 ∈ server.authenticated
  goes : ∀ id broadcast, server.broadcasts.get? id = some broadcast → broadcast.Goes server.clients server.authenticated
  reached : ∀ finished ∈ server.finished, finished.Reached server.authenticated

theorem new_sound {token : String} : (new token).Sound where
  distinct := List.nodup_nil
  known := fun _ listed => nomatch listed
  dispatched := fun _ listed => nomatch listed
  goes := fun _ _ found => nomatch found
  reached := fun _ listed => nomatch listed

/-! ## One broadcast -/

theorem visit_goes {authenticated rest : List Writer} (distinct : clients.Nodup)
    (known : ∀ writer ∈ clients, writer ∈ authenticated) (goes : broadcast.Goes clients authenticated)
    (idle : broadcast.waiting = none) (ahead : clients.drop broadcast.index = rest) :
    (visit failing rest broadcast).Goes clients authenticated ∧
      ((visit failing rest broadcast).waiting = none → clients.drop (visit failing rest broadcast).index = []) := by
  induction rest generalizing broadcast with
  | nil =>
      have same : { broadcast with waiting := none } = broadcast := by
        rw [← idle]
      rw [visit, same]
      exact ⟨goes, fun _ => ahead⟩
  | cons writer rest ih =>
      have iterated := goes.iterated.take distinct ahead
      have unseen : writer ∉ broadcast.tried := goes.iterated.ahead writer (by simp [ahead])
      have present : writer ∈ authenticated := known writer (List.mem_of_mem_drop (by rw [ahead]; exact List.mem_cons_self ..))
      have dead := goes.dead
      have tried := goes.tried
      rw [idle] at dead tried
      simp only [Option.toList_none, List.append_nil] at dead tried
      have fresh : writer ∉ broadcast.dead := fun listed => unseen (tried writer listed)
      have longer : ∀ other ∈ broadcast.tried ++ [writer], other ∈ authenticated := by
        intro other listed
        rcases List.mem_append.mp listed with before | last
        · exact goes.known other before
        · rwa [List.mem_singleton.mp last]
      have doomed : (broadcast.dead ++ [writer]).Nodup :=
        List.nodup_append.mpr ⟨dead, by simp, fun other listed last same isLast => fresh (by
          rw [← List.mem_singleton.mp same, ← isLast]
          exact listed)⟩
      have covered : ∀ other ∈ broadcast.dead ++ [writer], other ∈ broadcast.tried ++ [writer] := by
        intro other listed
        rcases List.mem_append.mp listed with before | last
        · exact List.mem_append_left _ (tried other before)
        · exact List.mem_append_right _ last
      rw [visit]
      dsimp only
      split
      · refine ih ⟨iterated, longer, ?_, ?_⟩ idle ?_
        · simpa [idle] using doomed
        · simpa [idle] using covered
        · rw [← List.drop_drop, ahead]
          rfl
      · exact ⟨⟨iterated, longer, doomed, covered⟩, nofun⟩

theorem Broadcast.Goes.drain {authenticated : List Writer} {drained : Bool} (goes : broadcast.Goes clients authenticated) :
    { Server.drain broadcast drained with waiting := none }.Goes clients authenticated := by
  have parts := List.nodup_append.mp goes.dead
  unfold Server.drain
  cases drained with
  | true =>
      refine ⟨goes.iterated, goes.known, ?_, ?_⟩
      · simpa using parts.1
      · simpa using fun other listed => goes.tried other (List.mem_append_left _ listed)
  | false =>
      refine ⟨goes.iterated, goes.known, ?_, ?_⟩
      · simpa using goes.dead
      · simpa using goes.tried

theorem visit_waiting {rest : List Writer} : visit failing rest { broadcast with waiting := none } = visit failing rest broadcast := by
  induction rest generalizing broadcast with
  | nil => rfl
  | cons writer rest ih =>
      rw [visit, visit]
      dsimp only
      split
      · have same := @ih { broadcast with
          index := broadcast.index + 1, tried := broadcast.tried ++ [writer], dead := broadcast.dead ++ [writer] }
        exact same
      · rfl

theorem removeDead_raises {dead : List Writer} (distinct : clients.Nodup) (once : dead.Nodup) :
    (removeDead clients dead).2 = true ↔ ∃ writer ∈ dead, writer ∉ clients := by
  induction dead generalizing clients with
  | nil => simp [removeDead]
  | cons writer rest ih =>
      obtain ⟨new, later⟩ := List.nodup_cons.mp once
      rw [removeDead]
      by_cases present : writer ∈ clients
      · rw [if_pos present, ih (distinct.erase writer) later]
        have others : ∀ other ∈ rest, (other ∈ clients.erase writer ↔ other ∈ clients) := fun other listed =>
          List.mem_erase_of_ne fun same => new (same ▸ listed)
        constructor
        · rintro ⟨other, listed, absent⟩
          exact ⟨other, List.mem_cons_of_mem _ listed, fun there => absent ((others other listed).mpr there)⟩
        · rintro ⟨other, listed, absent⟩
          rcases List.mem_cons.mp listed with rfl | listed
          · exact absurd present absent
          · exact ⟨other, listed, fun there => absent ((others other listed).mp there)⟩
      · rw [if_neg present]
        exact ⟨fun _ => ⟨writer, List.mem_cons_self .., present⟩, fun _ => rfl⟩

/-- Removing dead clients is erasing some clients that are there, one by one. -/
theorem removeDead_keeps {dead : List Writer} {property : List Writer → Prop}
    (erases : ∀ clients writer, property clients → writer ∈ clients → property (clients.erase writer)) (held : property clients) :
    property (removeDead clients dead).1 := by
  induction dead generalizing clients with
  | nil => exact held
  | cons writer rest ih =>
      rw [removeDead]
      split
      · rename_i present
        exact ih (erases clients writer held present)
      · exact held

/-! ## Steps -/

theorem Broadcast.Goes.erase {authenticated : List Writer} (goes : broadcast.Goes clients authenticated) (distinct : clients.Nodup)
    (present : writer ∈ clients) : broadcast.Goes (clients.erase writer) authenticated :=
  { goes with iterated := goes.iterated.erase distinct present }

/-- The clients, and the broadcasts over them. -/
structure Server.Listed (server : Server) (clients : List Writer) : Prop where
  distinct : clients.Nodup
  known : ∀ writer ∈ clients, writer ∈ server.authenticated
  goes : ∀ id broadcast, server.broadcasts.get? id = some broadcast → broadcast.Goes clients server.authenticated

theorem Server.Listed.erase (listed : server.Listed clients) (present : writer ∈ clients) : server.Listed (clients.erase writer) where
  distinct := listed.distinct.erase writer
  known := fun other still => listed.known other (List.mem_of_mem_erase still)
  goes := fun id broadcast found => (listed.goes id broadcast found).erase listed.distinct present

theorem Server.Sound.listed (sound : server.Sound) : server.Listed server.clients := ⟨sound.distinct, sound.known, sound.goes⟩

theorem Server.Sound.leave (sound : server.Sound) : (server.leave writer).Sound := by
  by_cases present : writer ∈ server.clients
  · have less := sound.listed.erase present
    exact ⟨less.distinct, less.known, sound.dispatched, less.goes, sound.reached⟩
  · have same : server.clients.erase writer = server.clients := List.erase_of_not_mem present
    refine ⟨?_, ?_, sound.dispatched, ?_, sound.reached⟩
    · rw [Server.leave, same]
      exact sound.distinct
    · rw [Server.leave, same]
      exact sound.known
    · rw [Server.leave, same]
      exact sound.goes

theorem Server.Sound.authenticate (sound : server.Sound) (new : writer ∉ server.authenticated) :
    (server.authenticate writer).Sound := by
  have absent : writer ∉ server.clients := fun listed => new (sound.known writer listed)
  refine ⟨?_, ?_, ?_, ?_, ?_⟩
  · exact List.nodup_append.mpr ⟨sound.distinct, by simp, fun other listed last same isLast => absent (by
      rw [← List.mem_singleton.mp same, ← isLast]
      exact listed)⟩
  · intro other listed
    rcases List.mem_append.mp listed with before | last
    · exact List.mem_append_left _ (sound.known other before)
    · exact List.mem_append_right _ last
  · exact fun entry listed => List.mem_append_left _ (sound.dispatched entry listed)
  · intro id broadcast found
    have goes := sound.goes id broadcast found
    have unseen : writer ∉ broadcast.tried := fun listed => new (goes.known writer listed)
    exact { goes with
      iterated := goes.iterated.append absent unseen
      known := fun other listed => List.mem_append_left _ (goes.known other listed) }
  · intro finished listed
    have reached := sound.reached finished listed
    exact { reached with known := fun other tried => List.mem_append_left _ (reached.known other tried) }

theorem Server.Sound.readLine {line : Line} (sound : server.Sound) : (server.readLine writer line).Sound := by
  cases line with
  | malformed => exact sound
  | other raises =>
      cases raises with
      | true => exact sound.leave
      | false => exact sound
  | request action token =>
      simp only [Server.readLine]
      split
      · rename_i present
        refine { sound with dispatched := fun entry listed => ?_ }
        rcases List.mem_append.mp listed with before | last
        · exact sound.dispatched entry before
        · rw [List.mem_singleton.mp last]
          exact present
      · rename_i new
        split
        · exact sound.authenticate new
        · exact sound.leave

theorem Server.Sound.proceed (sound : server.Sound) (goes : broadcast.Goes server.clients server.authenticated)
    (idle : broadcast.waiting = none) : (server.proceed id broadcast failing).Sound := by
  obtain ⟨after, ended⟩ := @visit_goes server.clients failing broadcast server.authenticated
    (server.clients.drop broadcast.index) sound.distinct sound.known goes idle rfl
  unfold Server.proceed
  dsimp only
  split
  · refine { sound with goes := fun other held found => ?_ }
    rw [Dict.get?_set] at found
    split at found
    · cases found
      exact after
    · exact sound.goes other held found
  · rename_i idled
    have stopped : (visit failing (server.clients.drop broadcast.index) broadcast).waiting = none := by simpa using idled
    have dead := after.dead
    rw [stopped] at dead
    simp only [Option.toList_none, List.append_nil] at dead
    have rest : ({ server with broadcasts := server.broadcasts.erase id } : Server).Listed server.clients := by
      refine ⟨sound.distinct, sound.known, fun other held found => ?_⟩
      rw [Dict.get?_erase] at found
      split at found
      · cases found
      · exact sound.goes other held found
    have removed := @removeDead_keeps server.clients (visit failing (server.clients.drop broadcast.index) broadcast).dead
      ({ server with broadcasts := server.broadcasts.erase id } : Server).Listed (fun _ _ held present => held.erase present) rest
    refine ⟨removed.distinct, removed.known, sound.dispatched, removed.goes, fun finished listed => ?_⟩
    rcases List.mem_append.mp listed with before | last
    · exact sound.reached finished before
    · rw [List.mem_singleton.mp last]
      exact ⟨after.iterated.once, after.known, after.iterated.ends (ended stopped), removeDead_raises sound.distinct dead⟩

theorem step_sound {event : ServerEvent} (sound : server.Sound) (stepped : server.step event = some next) : next.Sound := by
  cases event with
  | accept writer =>
      simp only [step] at stepped
      split at stepped
      · cases stepped
      · cases stepped
        exact ⟨sound.distinct, sound.known, sound.dispatched, sound.goes, sound.reached⟩
  | line writer line =>
      simp only [step] at stepped
      split at stepped
      · cases stepped
        exact sound.readLine
      · cases stepped
  | leave writer =>
      simp only [step] at stepped
      split at stepped
      · cases stepped
        exact sound.leave
      · cases stepped
  | broadcast failing =>
      cases stepped
      have begun : ({ server with started := server.started + 1 } : Server).Sound :=
        ⟨sound.distinct, sound.known, sound.dispatched, sound.goes, sound.reached⟩
      exact begun.proceed ⟨.start, fun _ listed => (nomatch listed), List.nodup_nil, fun _ listed => (nomatch listed)⟩ rfl
  | resume id drained failing =>
      obtain ⟨broadcast, found, rfl⟩ := Option.map_eq_some_iff.mp stepped
      have goes := @Broadcast.Goes.drain server.clients broadcast server.authenticated drained (sound.goes id broadcast found)
      have same : server.proceed id (drain broadcast drained) failing =
          server.proceed id { drain broadcast drained with waiting := none } failing := by
        rw [Server.proceed, Server.proceed, visit_waiting]
      rw [same]
      exact sound.proceed goes rfl

/-- However clients come and go and broadcasts overlap, a broadcast that ends has written
to no client twice, and has passed over no more of those in the list than have left it
after they were written to.  It raises where one that it takes for dead has left. -/
theorem broadcasts_reach_clients_that_stay (token : String) (events : List ServerEvent) (server : Server)
    (ran : run step (new token) events = some server) : ∀ finished ∈ server.finished,
      finished.tried.Nodup ∧
      (finished.clients.filter fun writer => writer ∉ finished.tried).length ≤
        (finished.tried.filter fun writer => writer ∉ finished.clients).length ∧
      (finished.raised = true ↔ ∃ writer ∈ finished.dead, writer ∉ finished.clients) := by
  have sound : server.Sound := reachable_invariant (fun _ _ _ sound stepped => step_sound sound stepped) new_sound ⟨events, ran⟩
  intro finished listed
  have reached := sound.reached finished listed
  exact ⟨reached.once, reached.missed, reached.raised⟩

/-- Two clients, the first of which leaves while a broadcast waits for it. -/
def Sample.events : List ServerEvent :=
  [.accept 0, .line 0 (.request "authenticate" (some "secret")), .accept 1, .line 1 (.request "authenticate" (some "secret")),
    .broadcast [], .leave 0, .resume 0 true []]

/-- The other client is passed over. -/
theorem client_is_passed_over : ∃ server finished, run step (new "secret") Sample.events = some server ∧ finished ∈ server.finished ∧
    1 ∈ finished.clients ∧ 1 ∉ finished.tried ∧
      (finished.clients.filter fun writer => writer ∉ finished.tried).length ≤
        (finished.tried.filter fun writer => writer ∉ finished.clients).length := by
  refine ⟨_, ⟨[1], [], [0], false⟩, rfl, ?_, ?_, ?_, ?_⟩
  · decide +kernel
  · decide
  · decide
  · exact (broadcasts_reach_clients_that_stay "secret" Sample.events _ rfl ⟨[1], [], [0], false⟩ (by decide +kernel)).2.1

/-! ## The token -/

/-- Who is authenticated has presented the token. -/
structure Server.Presented (token : String) (events : List ServerEvent) (server : Server) : Prop where
  sound : server.Sound
  own : server.token = token
  presented : ∀ writer ∈ server.authenticated, ∃ given, .line writer (.request "authenticate" given) ∈ events ∧ given.getD "" = token

theorem proceed_authenticated : (server.proceed id broadcast failing).token = server.token ∧
    (server.proceed id broadcast failing).authenticated = server.authenticated := by
  unfold Server.proceed
  dsimp only
  split <;> exact ⟨rfl, rfl⟩

/-- Only the line that presents the token authenticates a client. -/
theorem step_authenticated {event : ServerEvent} (stepped : server.step event = some next) :
    next.token = server.token ∧ ∀ writer ∈ next.authenticated, writer ∈ server.authenticated ∨
      ∃ given, event = .line writer (.request "authenticate" given) ∧ given.getD "" = server.token := by
  cases event with
  | accept writer =>
      simp only [step] at stepped
      split at stepped
      · cases stepped
      · cases stepped
        exact ⟨rfl, fun _ listed => .inl listed⟩
  | leave writer =>
      simp only [step] at stepped
      split at stepped
      · cases stepped
        exact ⟨rfl, fun _ listed => .inl listed⟩
      · cases stepped
  | broadcast failing =>
      cases stepped
      obtain ⟨token, same⟩ := @proceed_authenticated { server with started := server.started + 1 } server.started failing ⟨0, none, [], []⟩
      exact ⟨token, fun _ listed => .inl (by rwa [Server.broadcast, same] at listed)⟩
  | resume id drained failing =>
      obtain ⟨broadcast, -, rfl⟩ := Option.map_eq_some_iff.mp stepped
      obtain ⟨token, same⟩ := @proceed_authenticated server id failing (drain broadcast drained)
      exact ⟨token, fun _ listed => .inl (by rwa [same] at listed)⟩
  | line writer line =>
      simp only [step] at stepped
      split at stepped
      · cases stepped
        cases line with
        | malformed => exact ⟨rfl, fun _ listed => .inl listed⟩
        | other raises => cases raises <;> exact ⟨rfl, fun _ listed => .inl listed⟩
        | request action given =>
            simp only [readLine]
            split
            · exact ⟨rfl, fun _ listed => .inl listed⟩
            · split
              · rename_i presented
                obtain ⟨rfl, right⟩ := presented
                refine ⟨rfl, fun other listed => ?_⟩
                rcases List.mem_append.mp listed with before | last
                · exact .inl before
                · rw [List.mem_singleton.mp last]
                  exact .inr ⟨given, rfl, right⟩
              · exact ⟨rfl, fun _ listed => .inl listed⟩
      · cases stepped

/-- The clients of the list and those whose requests are dispatched have presented the
token, and so has every client that a broadcast writes to. -/
theorem clients_have_presented_the_token (token : String) (events : List ServerEvent) (server : Server)
    (ran : run step (new token) events = some server) (writer : Writer)
    (served : writer ∈ server.clients ∨ (∃ action, (writer, action) ∈ server.dispatched) ∨
      (∃ id broadcast, server.broadcasts.get? id = some broadcast ∧ writer ∈ broadcast.tried) ∨
      ∃ finished ∈ server.finished, writer ∈ finished.tried) :
    ∃ given, .line writer (.request "authenticate" given) ∈ events ∧ given.getD "" = token := by
  have held : server.Presented token events := by
    refine @run_history _ _ step (new token) server events [] (fun events server => server.Presented token events) ?_
      ⟨new_sound, rfl, fun _ listed => (nomatch listed)⟩ ran
    intro before server event next held stepped
    obtain ⟨same, authenticated⟩ := step_authenticated stepped
    refine ⟨step_sound held.sound stepped, same.trans held.own, fun writer listed => ?_⟩
    rcases authenticated writer listed with earlier | ⟨given, rfl, right⟩
    · obtain ⟨given, listed, right⟩ := held.presented writer earlier
      exact ⟨given, List.mem_append_left _ listed, right⟩
    · exact ⟨given, List.mem_append_right _ (List.mem_singleton_self _), right.trans held.own⟩
  have sound := held.sound
  refine held.presented writer ?_
  rcases served with listed | ⟨action, listed⟩ | ⟨id, broadcast, found, listed⟩ | ⟨finished, ended, listed⟩
  · exact sound.known writer listed
  · exact sound.dispatched (writer, action) listed
  · exact (sound.goes id broadcast found).known writer listed
  · exact (sound.reached finished ended).known writer listed

theorem passed_over_client_has_presented_the_token : ∃ given,
    .line 1 (.request "authenticate" given) ∈ Sample.events ∧ given.getD "" = "secret" :=
  clients_have_presented_the_token "secret" Sample.events _ rfl 1 (.inl (by decide +kernel))

end MeshTalk.Ipc
