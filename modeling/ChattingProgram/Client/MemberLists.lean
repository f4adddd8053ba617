import ChattingProgram.Client.Entering
import ChattingProgram.Server.Membership
import ChattingProgram.Server.Naming

namespace ChattingProgram.Client

open ChattingProgram.Protocol ChattingProgram.Machine ChattingProgram.Server
  ChattingProgram.Server.ServerState

/-! # The member lists of a room

Every join and every leave sends the members a list that it has read from the
accounts before.  If no list is out of date when it is sent, then the clients show
the users of the room once all handlers have finished.
-/

/-- The users that the client of a session shows after all it was sent. -/
def listShown (server : ServerState) (id : String) (session : Nat) : List String :=
  usersAfter id [] (server.outbox session)

def roster (server : ServerState) (room roomId : Nat) : Roster String Nat where
  registered := server.tables.db.registered roomId
  mapped := server.tables.user room
  shown id session := {member | member ∈ listShown server id session}
  errands := server.processes.map Process.errand

/-- The `Room` and the list that the next step of a handler sends to its users. -/
def sentList : Task → Option (Nat × List String)
  | .joinRoom _ _ (.broadcast room userIds) | .joinRoom _ _ (.reply (some room) true userIds)
  | .roomOut _ (.remove room (.broadcast userIds)) => some (room, userIds)
  | _ => none

/-- A list that is sent is what the accounts say when it is sent. -/
def UpToDate : ServerEvent → ServerState → Prop
  | .run index, server => ∀ process ∈ server.processes[index]?, ∀ sent ∈ sentList process.task,
      ∀ current ∈ server.rooms[sent.1]?, sent.2 = server.db.selectMembers current.roomId
  | _, _ => True

/-- The user has no join and no leave in progress. -/
def Unoccupied (server : ServerState) (id : String) : Prop :=
  ∀ process ∈ server.processes, ∀ errand ∈ process.errand, errand.id ≠ id

/-- Joins and leaves of one room by users who wait for the answer: a user joins who is
not in the room, under the registered id, and a user leaves who is. -/
def PageFlow (collate : String → String) (roomName : String) (room : Nat) : ServerEvent →
    ServerState → Prop
  | .request session (.cJoinRoom id name), server => collate name = collate roomName ∧ Short id ∧
      (∃ row ∈ server.db.account, row.id = id) ∧ server.isConnected session = true ∧
      server.tables.user room id = none ∧ Unoccupied server id
  | .request session (.cRoomOut id _), server =>
      server.tables.user room id = some session ∧ Unoccupied server id
  | .run _, _ => True
  | _, _ => False

instance (server : ServerState) (id : String) : Decidable (Unoccupied server id) :=
  inferInstanceAs (Decidable (∀ process ∈ server.processes, ∀ errand ∈ process.errand,
    errand.id ≠ id))

instance : ∀ event server, Decidable (UpToDate event server)
  | .run index, server =>
      inferInstanceAs (Decidable (∀ process ∈ server.processes[index]?,
          ∀ sent ∈ sentList process.task, ∀ current ∈ server.rooms[sent.1]?,
          sent.2 = server.db.selectMembers current.roomId))
  | .connect, _ | .request .., _ | .disconnect _, _ => .isTrue trivial

instance (collate : String → String) (roomName : String) (room : Nat) :
    ∀ event server, Decidable (PageFlow collate roomName room event server)
  | .run _, _ => .isTrue trivial
  | .connect, _ | .disconnect _, _ => .isFalse id
  | .request session message, server =>
      match message with
      | .cJoinRoom id name =>
          inferInstanceAs (Decidable (collate name = collate roomName ∧ Short id ∧
              (∃ row ∈ server.db.account, row.id = id) ∧ server.isConnected session = true ∧
              server.tables.user room id = none ∧ Unoccupied server id))
      | .cRoomOut id _ =>
          inferInstanceAs (Decidable (server.tables.user room id = some session ∧
            Unoccupied server id))
      | .cLogin .. | .sLogin .. | .cRegister .. | .sRegister .. | .cRefreshLobby | .sRefreshLobby ..
      | .cCreateRoom ..
      | .sCreateRoom .. | .sJoinRoom .. | .sRefreshRoom _ | .cChatLog .. | .sChatLog ..
      | .sRoomOut => .isFalse id

/-- A handler of the room. -/
inductive Attends (collate : String → String) (roomName : String) (roomId room : Nat)
    (server : ServerState) : Process → Prop where
  | done {session : Nat} : Attends collate roomName roomId room server ⟨session, .done⟩
  | join {session : Nat} {id name : String} {pc : JoinPc} : collate name = collate roomName →
      pc.About roomId room →
      Short id → (∃ row ∈ server.tables.db.account, row.id = id) →
      server.isConnected session = true →
      Attends collate roomName roomId room server ⟨session, .joinRoom id name pc⟩
  | out {session : Nat} {id : String} {pc : OutPc} : pc.About roomId room →
      Attends collate roomName roomId room server ⟨session, .roomOut id pc⟩

structure Convenes (collate : String → String) (roomName : String) (roomId room : Nat)
    (server : ServerState) : Prop where
  housed : server.Housed collate
  distinct : (server.tables.db.account.map fun row => collate row.id).Nodup
  object : ∃ current, server.rooms[room]? = some current ∧ current.roomId = roomId
  named : ∀ row ∈ server.tables.db.room, collate row.roomName = collate roomName →
    row.roomId = roomId
  attends : ∀ process ∈ server.processes, Attends collate roomName roomId room server process
  short : ∀ id ∈ server.tables.db.registered roomId, Short id
  connected : ∀ {id : String} {session : Nat}, server.tables.user room id = some session →
    server.isConnected session = true
  agreed : (roster server room roomId).Agreed

section Roster

variable {self after : ServerState} {index session room roomId : Nat} {id : String}
  {task next : Task}

theorem roster_stutter (found : self.processes[index]? = some ⟨session, task⟩)
    (goes : Goes index session next self after)
    (errand : Process.errand ⟨session, next⟩ = Process.errand ⟨session, task⟩)
    (registered : after.tables.db.registered roomId = self.tables.db.registered roomId)
    (user : after.tables.user room = self.tables.user room) (delivers : self.Delivers [] after) :
    Roster.Move (roster self room roomId) (roster after room roomId) := by
  have errands : after.processes.map Process.errand = self.processes.map Process.errand := by
    rw [goes.processes, List.map_set, errand]
    exact set_same (by rw [List.getElem?_map, found]; rfl)
  refine .stutter ?_
  simp only [roster, registered, user, errands, listShown, delivers.outbox, handed_nil, ite_self,
    List.append_nil]

theorem roster_turns (found : self.processes[index]? = some ⟨session, task⟩)
    (goes : Goes index session next self after)
    (isErrand : Process.errand ⟨session, task⟩ = some errand) {leg : Option Leg}
    (goesOn : Process.errand ⟨session, next⟩ = leg.map fun leg => { errand with leg := leg })
    (registered : ∀ other, other ≠ errand.id →
      (other ∈ after.tables.db.registered roomId ↔ other ∈ self.tables.db.registered roomId))
    (mapped : ∀ other, other ≠ errand.id →
      after.tables.user room other = self.tables.user room other) :
    Roster.Turns index errand leg (roster self room roomId) (roster after room roomId) where
  found := by
    simp only [roster, List.getElem?_map, found, Option.map_some, isErrand]
  errands := by
    simp only [roster, goes.processes, List.map_set, goesOn]
  registered := registered
  mapped := mapped

theorem usersAfter_of_forall (some_ : packets ≠ [])
    (all : ∀ packet ∈ packets, userList id packet = some userIds) :
    usersAfter id users (before ++ packets) = userIds := by
  obtain ⟨first, last, rfl⟩ := (List.eq_nil_or_concat packets).resolve_left some_
  rw [List.concat_eq_append, ← List.append_assoc, usersAfter_concat, all last (by simp),
    Option.getD_some]

theorem usersAfter_quiet (quiet : ∀ packet ∈ packets, userList id packet = none) :
    usersAfter id users (before ++ packets) = usersAfter id users before := by
  simp only [usersAfter, List.foldl_append]
  generalize before.foldl (fun users packet => (userList id packet).getD users) users = shown
  induction packets with
  | nil => rfl
  | cons packet rest ih =>
      rw [List.foldl_cons, quiet packet List.mem_cons_self, Option.getD_none]
      exact ih fun other member => quiet other (List.mem_cons_of_mem _ member)

/-- Packets that list nobody change nothing of what is shown. -/
theorem listShown_quiet (delivers : self.Delivers posts after)
    (quiet : ∀ message, (session, message) ∈ posts → userList id message = none) :
    listShown after id session = listShown self id session := by
  rw [listShown, delivers.outbox]
  refine usersAfter_quiet ?_
  intro packet member
  split at member
  · exact quiet packet (mem_handed.mp member)
  · contradiction

theorem hasUser_of_user (isUser : self.tables.user room id = some session) :
    ∃ current, self.rooms[room]? = some current ∧ current.HasUser session := by
  obtain ⟨current, object, found⟩ := Option.bind_eq_some_iff.mp isUser
  exact ⟨current, object, _, AList.mem_lookup_iff.mp found, rfl⟩

/-- A user that `BroadCast` reaches shows the list that it sends. -/
theorem listShown_broadcasts
    (delivers : self.Delivers (self.broadcasts room (.sRefreshRoom userIds) excluUser) after)
    (isUser : self.tables.user room id = some session)
    (connected : self.isConnected session = true) (included : excluUser ≠ some session)
    (own : String) : listShown after own session = userIds := by
  rw [listShown, delivers.outbox, if_pos connected]
  have posted : (session, Message.sRefreshRoom userIds) ∈
      self.broadcasts room (.sRefreshRoom userIds) excluUser :=
    ServerState.mem_broadcasts.mpr ⟨rfl, included, hasUser_of_user isUser⟩
  refine usersAfter_of_forall (List.ne_nil_of_mem (mem_handed.mpr posted)) ?_
  intro packet member
  rw [(ServerState.mem_broadcasts.mp (mem_handed.mp member)).1]
  rfl

end Roster

section Steps

variable {collate : String → String} {roomName : String} {roomId room : Nat}
  {self after : ServerState} {index session : Nat} {id name : String}

theorem Convenes.holds (convenes : Convenes collate roomName roomId room self)
    (found : self.processes[index]? = some process) (isErrand : process.errand = some errand) :
    (errand.id ∈ self.tables.db.registered roomId ↔ errand.leg.registered = true) ∧
      self.tables.user room errand.id = if errand.leg.mapped then some errand.session else none :=
  convenes.agreed.holds (List.mem_map.mpr ⟨process, List.mem_of_getElem? found, isErrand⟩)

/-- A list that is up to date is the register. -/
theorem Convenes.mem_sent (convenes : Convenes collate roomName roomId room self)
    (found : self.processes[index]? = some ⟨session, task⟩)
    (upToDate : UpToDate (.run index) self) (sends : sentList task = some (room, userIds)) :
    {member | member ∈ userIds} = self.tables.db.registered roomId := by
  obtain ⟨current, object, rfl⟩ := convenes.object
  have same : userIds = self.db.selectMembers current.roomId := upToDate _ found _ sends _ object
  have bare : self.tables.db.registered current.roomId = self.db.registered current.roomId :=
    Database.registered_bare ..
  ext member
  rw [bare, same]
  refine Database.mem_selectMembers ?_
  rw [← bare]
  exact convenes.short

theorem join_move (convenes : Convenes collate roomName roomId room self)
    (found : self.processes[index]? = some ⟨session, .joinRoom id name pc⟩)
    (upToDate : UpToDate (.run index) self) (used : (Task.joinRoom id name pc).Finds self.tables)
    (about : pc.About roomId room) (known : ∃ row ∈ self.tables.db.account, row.id = id)
    (connected : self.isConnected session = true)
    (rule : JoinStep collate session id name self.tables pc goal after.tables)
    (goes : Goes index session (goal.elim .done (.joinRoom id name)) self after)
    (delivers : self.Delivers ((Task.joinRoom id name pc).posts self session) after) :
    Roster.Move (roster self room roomId) (roster after room roomId) := by
  have frame : ∀ other, other ≠ id → (other ∈ after.tables.db.registered roomId ↔
      other ∈ self.tables.db.registered roomId) ∧
          after.tables.user room other = self.tables.user room other :=
    fun other different => rule.frame convenes.distinct known different
  obtain ⟨register, map⟩ := convenes.holds found rfl
  cases pc with
  | select | getRoom | load | cas | updateRoom | selectMembers =>
      obtain ⟨registered, user⟩ := rule.quiet (by simp) (by simp) roomId room
      refine roster_stutter found goes ?_ registered user delivers
      generalize after.tables = tables at rule
      cases rule <;> rfl
  | updateAccount target place =>
      generalize made : after.tables = tables at rule
      cases rule with
      | updateAccount updated =>
          have turns : Roster.Turns index ⟨id, session, .arriving⟩ (some .joining)
              (roster self room roomId) (roster after room roomId) :=
            roster_turns found goes rfl rfl (fun other different => (frame other different).1)
              fun other different => (frame other different).2
          refine .changes turns ⟨?_, ?_⟩ rfl
          · change id ∈ after.tables.db.registered roomId ↔ _
            rw [made, Database.updateCurrentRoom_eq updated,
              Database.mem_registered_assign convenes.distinct known, if_pos rfl, about.1]
            simp [Leg.registered]
          · change after.tables.user room id = _
            rw [made]
            exact map
  | addUser place userIds =>
      generalize made : after.tables = tables at rule
      cases rule with
      | miss object empty => exact absurd empty (used _ object)
      | @addUser _ _ current object =>
          have turns : Roster.Turns index ⟨id, session, .joining⟩ (some .spreading)
              (roster self room roomId) (roster after room roomId) :=
            roster_turns found goes rfl rfl (fun other different => (frame other different).1)
              fun other different => (frame other different).2
          refine .changes turns ⟨?_, ?_⟩ rfl
          · change id ∈ after.tables.db.registered roomId ↔ _
            rw [made]
            exact register
          · change after.tables.user room id = some session
            rw [made]
            exact (Tables.user_insert object).trans (if_pos ⟨about, rfl⟩)
  | broadcast place userIds =>
      cases about
      obtain ⟨registered, user⟩ := rule.quiet (by simp) (by simp) roomId room
      generalize after.tables = tables at rule
      cases rule
      have turns : Roster.Turns index ⟨id, session, .spreading⟩ (some .answering)
          (roster self room roomId) (roster after room roomId) :=
        roster_turns found goes rfl rfl (fun other different => (frame other different).1)
          fun other different => (frame other different).2
      refine .spreads turns rfl registered user ?_
      intro other user isUser elsewhere
      change {member | member ∈ listShown after other user} = _
      rw [listShown_broadcasts delivers isUser (convenes.connected isUser)
        (fun same => elsewhere (Option.some.inj same).symm)]
      exact convenes.mem_sent found upToDate rfl
  | reply place canJoin userIds =>
      obtain ⟨registered, user⟩ := rule.quiet (by simp) (by simp) roomId room
      generalize after.tables = tables at rule
      cases rule
      cases canJoin with
      | false =>
          have turns : Roster.Turns index ⟨id, session, .arriving⟩ none (roster self room roomId)
              (roster after room roomId) :=
            roster_turns found goes rfl rfl (fun other different => (frame other different).1)
              fun other different => (frame other different).2
          refine .ends turns (.inl rfl) registered user ?_
          funext other receiver
          have same : listShown after other receiver = listShown self other receiver := by
            refine listShown_quiet delivers fun message posted => ?_
            cases List.mem_singleton.mp posted
            rfl
          simp only [roster, same]
      | true =>
          cases about
          have turns : Roster.Turns index ⟨id, session, .answering⟩ none (roster self room roomId)
              (roster after room roomId) :=
            roster_turns found goes rfl rfl (fun other different => (frame other different).1)
              fun other different => (frame other different).2
          refine .answers turns rfl registered user ?_ ?_
          · intro other
            have lists : listShown after other session = userIds := by
              rw [listShown, delivers.outbox, if_pos connected]
              refine usersAfter_of_forall
                (List.ne_nil_of_mem (mem_handed.mpr List.mem_cons_self)) ?_
              intro packet member
              cases List.mem_singleton.mp (mem_handed.mp member)
              rfl
            change {member | member ∈ listShown after other session} = _
            rw [lists]
            exact convenes.mem_sent found upToDate rfl
          · intro other receiver elsewhere
            have same : listShown after other receiver = listShown self other receiver := by
              refine listShown_quiet delivers fun message posted => ?_
              cases List.mem_singleton.mp posted
              exact absurd rfl elsewhere
            simp only [roster, same]

theorem user_of_destroyed (housed : self.Housed collate)
    (object : self.rooms[room]? = some current) (gone : current.roomState = destruction)
    (id : String) : self.tables.user room id = none := by
  have found : self.tables.rooms[room]? = some current := object
  rw [Tables.user_of_object found, AList.lookup_eq_none]
  intro isUser
  have entries := users_of_destroyed housed object gone
  simp [AList.mem_keys, AList.keys, entries] at isUser

/-- A destroyed room is left in the account of nobody: its users are gone and no join is under way. -/
theorem Convenes.unregistered (convenes : Convenes collate roomName roomId room self)
    (object : self.rooms[room]? = some current) (gone : current.roomState = destruction) :
    self.tables.db.registered roomId = ∅ := by
  refine Set.eq_empty_iff_forall_notMem.mpr fun id isMember => ?_
  have unmapped := user_of_destroyed convenes.housed object gone
  rcases convenes.agreed.idle id with ⟨errand, member, rfl⟩ | same
  · obtain ⟨process, processMember, isErrand⟩ := List.mem_map.mp member
    obtain ⟨register, map⟩ := convenes.agreed.holds member
    have registered := register.mp isMember
    have joining : errand.leg = .joining := by
      have absent : (if errand.leg.mapped then some errand.session else none) = none :=
        map.symm.trans (unmapped errand.id)
      cases leg : errand.leg <;> simp_all [Leg.registered, Leg.mapped]
    refine unjoined_of_destroyed convenes.housed object gone processMember ?_
    cases convenes.attends process processMember with
    | done => contradiction
    | @join session name roomName pc _ about =>
        cases isErrand
        cases pc with
        | updateRoom | selectMembers => exact congrArg some about.2
        | addUser => exact congrArg some about
        | reply place canJoin => cases canJoin <;> contradiction
        | _ => contradiction
    | @out session name pc =>
        cases isErrand
        cases pc with
        | remove place pc => cases pc <;> contradiction
        | _ => contradiction
  · have mapped : (self.tables.user room id).isSome = true := same.mp isMember
    rw [unmapped id] at mapped
    contradiction

theorem remove_move (convenes : Convenes collate roomName roomId room self)
    (found : self.processes[index]? = some ⟨session, .roomOut id (.remove room pc)⟩)
    (upToDate : UpToDate (.run index) self) (housed : after.Housed collate)
    (rule : RemoveStep collate room id self.tables pc goal after.tables)
    (goes : Goes index session (.roomOut id (goal.elim (.reply room) (.remove room))) self after)
    (delivers : self.Delivers (pc.posts self room) after) :
    Roster.Move (roster self room roomId) (roster after room roomId) := by
  obtain ⟨register, map⟩ := convenes.holds found rfl
  cases pc with
  | updateAccount =>
      have known : ∃ row ∈ self.tables.db.account, row.id = id := by
        obtain ⟨row, member, same, _⟩ := register.mpr rfl
        exact ⟨row, member, same⟩
      generalize made : after.tables = tables at rule
      cases rule with
      | updateAccount object _ updated =>
          cases Database.updateCurrentRoom_eq updated
          have assigned : ∀ other, other ∈ after.tables.db.registered roomId ↔
              if other = id then none = some roomId
              else other ∈ self.tables.db.registered roomId := by
            intro other
            rw [made]
            exact Database.mem_registered_assign convenes.distinct known
          have user : after.tables.user room = self.tables.user room := by
            rw [made]
            exact Tables.user_setObject object rfl
          have turns : Roster.Turns index ⟨id, session, .staying⟩ (some .leaving)
              (roster self room roomId) (roster after room roomId) :=
            roster_turns found goes rfl rfl
              (fun other different => (assigned other).trans (by rw [if_neg different]))
              fun other _ => by rw [user]
          refine .changes turns ⟨?_, ?_⟩ rfl
          · change id ∈ after.tables.db.registered roomId ↔ _
            rw [assigned]
            simp [Leg.registered]
          · change after.tables.user room id = _
            rw [user]
            exact map
  | erase =>
      generalize made : after.tables = tables at rule
      cases rule with
      | erase object =>
          have erased : ∀ other, after.tables.user room other =
              if room = room ∧ other = id then none else self.tables.user room other := by
            intro other
            rw [made]
            exact Tables.user_erase object
          have turns : Roster.Turns index ⟨id, session, .leaving⟩ (some .informing)
              (roster self room roomId) (roster after room roomId) :=
            roster_turns found goes rfl rfl (fun other _ => by rw [made]; rfl)
              fun other different => (erased other).trans (if_neg fun here => different here.2)
          refine .changes turns ⟨?_, ?_⟩ rfl
          · change id ∈ after.tables.db.registered roomId ↔ _
            rw [made]
            exact register
          · exact (erased id).trans (if_pos ⟨rfl, rfl⟩)
  | delete =>
      obtain ⟨current, object, isRoom⟩ := convenes.object
      have gone := destroyed_of_deletes convenes.housed found rfl object
      have empty := convenes.unregistered object gone
      generalize made : after.tables = tables at rule
      cases rule with
      | delete here =>
          cases object.symm.trans here
          have still : after.tables.db.registered roomId = ∅ := by
            rw [made, ← isRoom]
            exact Database.registered_deleteRoom (isRoom ▸ empty)
          exact roster_stutter found goes rfl (still.trans empty.symm) (by rw [made]; rfl) delivers
  | cas =>
      obtain ⟨registered, user⟩ := rule.quiet (by simp) (by simp) (by simp) roomId room
      generalize made : after.tables = tables at rule
      cases rule with
      | keep => exact roster_stutter found goes rfl registered user delivers
      | @destroy current object =>
          have nextObject : after.tables.rooms[room]? =
              some { current with roomState := destruction } := by
            rw [made]
            exact Tables.setObject_self object
          have turns : Roster.Turns index ⟨id, session, .informing⟩ (some .gone)
              (roster self room roomId) (roster after room roomId) :=
            roster_turns found goes rfl rfl (fun other _ => by rw [registered]) fun other
            _ => by rw [user]
          refine .informs turns rfl registered user (.inr ?_)
          intro other receiver isUser
          have unmapped := user_of_destroyed housed nextObject rfl other
          rw [user] at unmapped
          cases unmapped.symm.trans isUser
  | broadcast userIds =>
      obtain ⟨registered, user⟩ := rule.quiet (by simp) (by simp) (by simp) roomId room
      have sent := convenes.mem_sent found upToDate rfl
      generalize after.tables = tables at rule
      cases rule
      have turns : Roster.Turns index ⟨id, session, .informing⟩ (some .gone)
          (roster self room roomId) (roster after room roomId) :=
        roster_turns found goes rfl rfl (fun other _ => by rw [registered]) fun other
        _ => by rw [user]
      refine .informs turns rfl registered user ?_
      by_cases nobody : userIds = []
      · left
        change self.tables.db.registered roomId = ∅
        rw [← sent, nobody]
        simp
      · right
        intro other receiver isUser
        have posts : RemovePc.posts self room (.broadcast userIds) =
            self.broadcasts room (.sRefreshRoom userIds) none := by
          simp [RemovePc.posts, nobody]
        change {member | member ∈ listShown after other receiver} = _
        rw [listShown_broadcasts (posts ▸ delivers) isUser (convenes.connected isUser) (by simp)]
        exact sent
  | updateRoom | fetchSub | removeRoom | select =>
      obtain ⟨registered, user⟩ := rule.quiet (by simp) (by simp) (by simp) roomId room
      refine roster_stutter found goes ?_ registered user delivers
      generalize after.tables = tables at rule
      cases rule
      all_goals rfl

theorem out_move (convenes : Convenes collate roomName roomId room self)
    (found : self.processes[index]? = some ⟨session, .roomOut id pc⟩)
    (upToDate : UpToDate (.run index) self) (about : pc.About roomId room)
    (housed : after.Housed collate) (rule : OutStep collate id self.tables pc goal after.tables)
    (goes : Goes index session (goal.elim .done (.roomOut id)) self after)
    (delivers : self.Delivers ((Task.roomOut id pc).posts self session) after) :
    Roster.Move (roster self room roomId) (roster after room roomId) := by
  obtain ⟨register, map⟩ := convenes.holds found rfl
  cases pc with
  | select | getRoom =>
      generalize made : after.tables = tables at rule
      cases rule
      exact roster_stutter found goes rfl (by rw [made]) (by rw [made]) delivers
  | reply place =>
      generalize made : after.tables = tables at rule
      cases rule
      have turns : Roster.Turns index ⟨id, session, .gone⟩ none (roster self room roomId)
          (roster after room roomId) :=
        roster_turns found goes rfl rfl (fun other _ => by rw [made]) fun other _ => by rw [made]
      refine .ends turns (.inr rfl) (congrArg (·.db.registered roomId) made)
        (congrArg (·.user room) made) ?_
      funext other receiver
      have same : listShown after other receiver = listShown self other receiver := by
        refine listShown_quiet delivers fun message posted => ?_
        cases List.mem_singleton.mp posted
        rfl
      simp only [roster, same]
  | remove place pc =>
      cases about
      generalize made : after.tables = tables at rule
      cases rule with
      | remove rule =>
          rw [← made] at rule
          exact remove_move convenes found upToDate housed rule goes delivers

theorem Attends.mono (attends : Attends collate roomName roomId room self process)
    (keeps : self.tables.Keeps after.tables)
    (connected : ∀ session, after.isConnected session = self.isConnected session) :
    Attends collate roomName roomId room after process := by
  cases attends with
  | done => exact .done
  | @join session _ _ _ named about short known isConnected =>
      exact .join named about short (keeps.known known) ((connected session).trans isConnected)
  | out about => exact .out about

/-- What the step of a handler has to show for the room. -/
theorem Convenes.goes {task : Task} (convenes : Convenes collate roomName roomId room self)
    (stepped : (system collate).step (.run index) self = some after)
    (goes : Goes index session next self after) (keeps : self.tables.Keeps after.tables)
    (delivers : self.Delivers (task.posts self session) after)
    (attends : Attends collate roomName roomId room self ⟨session, next⟩)
    (short : ∀ id ∈ after.tables.db.registered roomId, Short id)
    (members : ∀ {id : String} {user : Nat}, after.tables.user room id = some user →
      self.isConnected user = true)
    (move : Roster.Move (roster self room roomId) (roster after room roomId)) :
    Convenes collate roomName roomId room after where
  housed := step_housed stepped convenes.housed
  distinct := keeps.distinct convenes.distinct
  object := by
    obtain ⟨current, object, same⟩ := convenes.object
    have taken : ServerState.step collate (.run index) self = some after := stepped
    have move := step_house convenes.housed taken
    obtain ⟨other, otherObject, isRoom⟩ := move.keeps_room object
    exact ⟨other, otherObject, isRoom.trans same⟩
  named := by
    intro row member isName
    obtain ⟨source, sourceMember, sameId, sameName⟩ := keeps.rows row member
    rw [← sameId]
    exact convenes.named source sourceMember (sameName ▸ isName)
  attends := by
    intro process member
    rw [goes.processes] at member
    rcases mem_set_cases member with rfl | ⟨place, _, still⟩
    · exact attends.mono keeps delivers.connected
    · exact (convenes.attends process (List.mem_of_getElem? still)).mono keeps delivers.connected
  short := short
  connected := fun isUser => (delivers.connected _).trans (members isUser)
  agreed := move.agreed convenes.agreed

theorem Convenes.crashed (convenes : Convenes collate roomName roomId room self)
    (housed : (self.crashed cause).Housed collate) :
    Convenes collate roomName roomId room (self.crashed cause) where
  housed := housed
  distinct := convenes.distinct
  object := convenes.object
  named := convenes.named
  attends := fun process member => (convenes.attends process member).mono (.of_db rfl) fun _ => rfl
  short := convenes.short
  connected := convenes.connected
  agreed := convenes.agreed

theorem Convenes.lists (convenes : Convenes collate roomName roomId room self)
    (lists : self.tables.listed.lookup roomId = some place) : place = room := by
  obtain ⟨current, object, same⟩ := convenes.object
  obtain ⟨other, otherObject, isRoom⟩ := convenes.housed.listed lists
  exact convenes.housed.registry.id_unique otherObject object (isRoom.trans same.symm)

/-- A step of a join: the room convenes, or `AddUser` finds it deserted. -/
theorem join_convenes (convenes : Convenes collate roomName roomId room self)
    (found : self.processes[index]? = some ⟨session, .joinRoom id name pc⟩)
    (upToDate : UpToDate (.run index) self)
    (stepped : (system collate).step (.run index) self = some after) :
    Convenes collate roomName roomId room after ∨ self.tables.Deserted room := by
  obtain ⟨_, advanced⟩ := advance_of_step found stepped
  have delivers : self.Delivers ((Task.joinRoom id name pc).posts self session) after :=
    advance_delivers advanced
  cases convenes.attends _ (List.mem_of_getElem? found) with
  | join named about short known connected =>
      obtain ⟨_, ⟨goal, rfl, rule⟩, goes⟩ := advanceJoinRoom_tables advanced
      by_cases used : (Task.joinRoom id name pc).Finds self.tables
      · left
        have frame : ∀ other, other ≠ id → (other ∈ after.tables.db.registered roomId ↔
            other ∈ self.tables.db.registered roomId) ∧
                after.tables.user room other = self.tables.user room other :=
          fun other different => rule.frame convenes.distinct known different
        refine convenes.goes stepped goes rule.keeps delivers ?_ ?_ ?_
          (join_move convenes found upToDate used about known connected rule goes delivers)
        · cases goal with
          | none => exact .done
          | some goal =>
              refine .join named (rule.about ?_ (fun _ => convenes.lists) about)
                short known connected
              intro target selected
              obtain ⟨row, isRow, rfl⟩ := Option.map_eq_some_iff.mp selected
              have isName := List.find?_some isRow
              exact convenes.named row (List.mem_of_find?_eq_some isRow)
                ((of_decide_eq_true isName).trans named)
        · intro other isMember
          by_cases mine : other = id
          · exact mine ▸ short
          · exact convenes.short other ((frame other mine).1.mp isMember)
        · intro other user isUser
          by_cases mine : other = id
          · subst mine
            rcases rule.user_cases isUser with rfl | already
            · exact connected
            · exact convenes.connected already
          · exact convenes.connected ((frame other mine).2 ▸ isUser)
      · right
        cases pc with
        | addUser place userIds =>
            cases about
            obtain ⟨current, object, _⟩ := convenes.object
            refine ⟨current, object, ?_⟩
            by_contra users
            refine used fun other here => ?_
            cases Option.some.inj (object.symm.trans here)
            exact users
        | _ => exact absurd trivial used

/-- The account of a user who is about to leave is in the room. -/
theorem Convenes.assigned (convenes : Convenes collate roomName roomId room self)
    (found : self.processes[index]? = some ⟨session, .roomOut id pc⟩) (starts : pc = .select)
    (selected : self.tables.db.selectCurrentRoom collate id = some (some target)) :
    target = roomId := by
  subst starts
  obtain ⟨register, _⟩ := convenes.holds found rfl
  obtain ⟨own, ownMember, rfl, refers⟩ := register.mpr rfl
  obtain ⟨row, member, named, assigned⟩ := Tables.exists_account selected
  cases List.inj_on_of_nodup_map convenes.distinct member ownMember named
  exact Option.some.inj (assigned.symm.trans refers)

theorem out_convenes (convenes : Convenes collate roomName roomId room self)
    (found : self.processes[index]? = some ⟨session, .roomOut id pc⟩)
    (upToDate : UpToDate (.run index) self)
    (stepped : (system collate).step (.run index) self = some after) :
    Convenes collate roomName roomId room after := by
  obtain ⟨_, advanced⟩ := advance_of_step found stepped
  have delivers : self.Delivers ((Task.roomOut id pc).posts self session) after :=
    advance_delivers advanced
  have housed := step_housed stepped convenes.housed
  cases convenes.attends _ (List.mem_of_getElem? found) with
  | out about =>
      rcases advanceRoomOut_tables advanced with ⟨_, cause, rfl⟩ | ⟨_, ⟨goal, rfl, rule⟩, goes⟩
      · exact convenes.crashed housed
      refine convenes.goes stepped goes rule.keeps delivers ?_ ?_ ?_
        (out_move convenes found upToDate about housed rule goes delivers)
      · cases goal with
        | none => exact .done
        | some goal =>
            exact .out (rule.about (fun _ selected starts => convenes.assigned found
              starts selected) (fun _ => convenes.lists) about)
      · exact fun other isMember => convenes.short other (rule.registered_subset isMember)
      · exact fun isUser => convenes.connected (rule.user_of_after isUser)

theorem Convenes.begins (convenes : Convenes collate roomName roomId room self)
    (housed : (self.spawn session task).Housed collate)
    (isErrand : Process.errand ⟨session, task⟩ = some errand)
    (attends : Attends collate roomName roomId room self ⟨session, task⟩)
    (unoccupied : Unoccupied self errand.id)
    (start : errand.leg = .arriving ∧ self.tables.user room errand.id = none ∨
      errand.leg = .staying ∧ self.tables.user room errand.id = some errand.session) :
    Convenes collate roomName roomId room (self.spawn session task) where
  housed := housed
  distinct := convenes.distinct
  object := convenes.object
  named := convenes.named
  attends := by
    intro process member
    have kept : Attends collate roomName roomId room self process := by
      rcases List.mem_append.mp member with member | last
      · exact convenes.attends process member
      · exact List.mem_singleton.mp last ▸ attends
    exact kept.mono (.of_db rfl) fun _ => rfl
  short := convenes.short
  connected := convenes.connected
  agreed := by
    have idle : ¬ (roster self room roomId).Busy errand.id := by
      rintro ⟨other, member, same⟩
      obtain ⟨process, processMember, isOther⟩ := List.mem_map.mp member
      exact unoccupied process processMember other isOther same
    have grown : roster (self.spawn session task) room roomId =
        { roster self room roomId with
            errands := (roster self room roomId).errands ++ [some errand] } := by
      simp only [roster, spawn, List.map_append, List.map_singleton, isErrand]
      rfl
    refine (Roster.Move.begins idle ?_ grown).agreed convenes.agreed
    rcases start with ⟨leg, absent⟩ | present
    · refine .inl ⟨leg, fun isMember => ?_⟩
      have mapped := ((convenes.agreed.idle errand.id).resolve_left idle).mp isMember
      rw [show (roster self room roomId).mapped errand.id = none from absent] at mapped
      contradiction
    · exact .inr present

def roomTask : Task → Bool
  | .joinRoom .. | .roomOut .. | .done => true
  | _ => false

/-- Nobody is in the room, and nobody will be: `AddUser` adds nobody to an empty room. -/
structure Abandoned (room : Nat) (server : ServerState) : Prop where
  deserted : server.tables.Deserted room
  handlers : ∀ process ∈ server.processes, roomTask process.task = true

theorem Convenes.abandoned (convenes : Convenes collate roomName roomId room self)
    (deserted : self.tables.Deserted room) : Abandoned room self where
  deserted := deserted
  handlers := by
    intro process member
    cases convenes.attends process member <;> rfl

theorem Abandoned.goes (abandoned : Abandoned room self)
    (goes : Goes index session next self after) (deserted : after.tables.Deserted room)
    (handles : roomTask next = true) : Abandoned room after where
  deserted := deserted
  handlers := by
    intro process member
    rw [goes.processes] at member
    rcases mem_set_cases member with rfl | ⟨_, _, still⟩
    · exact handles
    · exact abandoned.handlers process (List.mem_of_getElem? still)

theorem Abandoned.spawn (abandoned : Abandoned room self) (handles : roomTask task = true) :
    Abandoned room (self.spawn session task) where
  deserted := abandoned.deserted
  handlers := by
    intro process member
    rcases List.mem_append.mp member with member | last
    · exact abandoned.handlers process member
    · exact List.mem_singleton.mp last ▸ handles

theorem step_abandoned (abandoned : Abandoned room self)
    (flow : PageFlow collate roomName room event self)
    (stepped : (system collate).step event self = some after) : Abandoned room after := by
  cases event with
  | connect | disconnect => exact flow.elim
  | request session message =>
      cases message with
      | cJoinRoom id name =>
          obtain ⟨rfl, _⟩ := step_request rfl stepped
          exact abandoned.spawn rfl
      | cRoomOut id name =>
          obtain ⟨rfl, _⟩ := step_request rfl stepped
          exact abandoned.spawn rfl
      | _ => exact flow.elim
  | run index =>
      obtain ⟨⟨session, task⟩, found⟩ : ∃ process, self.processes[index]? = some process :=
        found_of_run stepped
      have handles := abandoned.handlers _ (List.mem_of_getElem? found)
      have advanced := (advance_of_step found stepped).2
      cases task with
      | joinRoom =>
          obtain ⟨_, ⟨goal, rfl, rule⟩, goes⟩ := advanceJoinRoom_tables advanced
          exact abandoned.goes goes (rule.deserted abandoned.deserted) (by cases goal <;> rfl)
      | roomOut =>
          rcases advanceRoomOut_tables advanced with ⟨_, cause, rfl⟩ | ⟨_, ⟨goal, rfl, rule⟩, goes⟩
          · exact ⟨abandoned.deserted, abandoned.handlers⟩
          · exact abandoned.goes goes (rule.deserted abandoned.deserted) (by cases goal <;> rfl)
      | _ => contradiction

theorem step_convenes (convenes : Convenes collate roomName roomId room self)
    (flow : PageFlow collate roomName room event self) (upToDate : UpToDate event self)
    (stepped : (system collate).step event self = some after) :
    Convenes collate roomName roomId room after ∨ Abandoned room after := by
  have housed := step_housed stepped convenes.housed
  cases event with
  | connect | disconnect => exact flow.elim
  | request session message =>
      cases message with
      | cJoinRoom id name =>
          obtain ⟨named, short, known, connected, absent, unoccupied⟩ := flow
          obtain ⟨rfl, _⟩ := step_request rfl stepped
          obtain ⟨row, member, same⟩ := known
          have account : ∃ row ∈ self.tables.db.account, row.id = id :=
            ⟨row.bare, List.mem_map_of_mem member, same⟩
          exact .inl (convenes.begins housed rfl
            (.join named trivial short account connected) unoccupied (.inl ⟨rfl, absent⟩))
      | cRoomOut id name =>
          obtain ⟨rfl, _⟩ := step_request rfl stepped
          exact .inl (convenes.begins housed rfl (.out trivial) flow.2 (.inr ⟨rfl, flow.1⟩))
      | _ => exact flow.elim
  | run index =>
      obtain ⟨⟨session, task⟩, found⟩ : ∃ process, self.processes[index]? = some process :=
        found_of_run stepped
      cases convenes.attends _ (List.mem_of_getElem? found) with
      | done => cases (advance_of_step found stepped).2
      | join =>
          rcases join_convenes convenes found upToDate stepped with still | deserted
          · exact .inl still
          · exact .inr (step_abandoned (convenes.abandoned deserted) flow stepped)
      | out => exact .inl (out_convenes convenes found upToDate stepped)

theorem run_convenes (convenes : Convenes collate roomName roomId room self)
    (guarded : (system collate).Guarded
      (fun event server => PageFlow collate roomName room event server ∧
        UpToDate event server) events self) (ran : (system collate).run events self = some after) :
    Convenes collate roomName roomId room after ∨ Abandoned room after := by
  have keeps : ∀ {event before next}, (PageFlow collate roomName room event before ∧
      UpToDate event before) → (system collate).step event before = some next →
      (Convenes collate roomName roomId room before ∨ Abandoned room before) →
      (Convenes collate roomName roomId room next ∨ Abandoned room next) := by
    intro event before next guard stepped place
    rcases place with convenes | abandoned
    · exact step_convenes convenes guard.1 guard.2 stepped
    · exact .inr (step_abandoned abandoned guard.1 stepped)
  exact System.run_preserves_guarded keeps guarded ran (.inl convenes)

end Steps

/-! ## Rooms at rest -/

/-- The accounts and `_users` name the same users, and so do the lists they were sent last. -/
structure Convened (collate : String → String) (roomName : String) (room : Nat) (current : Room)
    (server : ServerState) : Prop where
  object : server.rooms[room]? = some current
  row : ∃ row ∈ server.db.room, row.roomId = current.roomId ∧
    collate row.roomName = collate roomName
  short : ∀ id ∈ current.users, Short id
  connected : ∀ {id : String} {session : Nat}, current.users.lookup id = some session →
    server.isConnected session = true
  registered : ∀ id, id ∈ current.users ↔ ∃ row ∈ server.db.account, row.id = id ∧
    row.currentRoomId = some current.roomId
  told : ∀ {id : String} {session : Nat}, current.users.lookup id = some session →
    ∀ member, member ∈ listShown server id session ↔ member ∈ current.users

section Rest

variable {collate : String → String} {roomName : String} {room : Nat} {current : Room}
  {server : ServerState}

theorem Process.errand_of_quiescent (quiescent : server.Quiescent) :
    some errand ∉ server.processes.map Process.errand := by
  intro member
  obtain ⟨process, processMember, isErrand⟩ := List.mem_map.mp member
  obtain ⟨session, task⟩ := process
  cases quiescent _ processMember
  contradiction

theorem Convened.convenes (convened : Convened collate roomName room current server)
    (reached : (system collate).run setup fresh = some server) (quiescent : server.Quiescent) :
    Convenes collate roomName current.roomId room server := by
  have bare : server.tables.db.registered current.roomId = server.db.registered current.roomId :=
    Database.registered_bare ..
  have member : ∀ id, id ∈ server.tables.db.registered current.roomId ↔ id ∈ current.users := by
    intro id
    rw [bare]
    exact (convened.registered id).symm
  have object : server.tables.rooms[room]? = some current := convened.object
  have idle : ∀ errand, some errand ∉ (roster server room current.roomId).errands :=
    fun errand => Process.errand_of_quiescent quiescent
  refine ⟨run_housed reached fresh_housed, run_distinct reached,
    ⟨current, convened.object, rfl⟩, ?_, ?_, ?_, ?_, ⟨?_, ?_, ?_, ?_⟩⟩
  · intro row rowMember named
    obtain ⟨own, ownMember, isRoom, isName⟩ := convened.row
    cases row_eq_of_name (run_unique reached) rowMember ownMember (named.trans isName.symm)
    exact isRoom
  · intro process processMember
    obtain ⟨session, task⟩ := process
    cases quiescent _ processMember
    exact .done
  · exact fun id isMember => convened.short id ((member id).mp isMember)
  · intro id session isUser
    rw [Tables.user_of_object object] at isUser
    exact convened.connected isUser
  · exact fun {errand} busy => absurd busy (idle errand)
  · exact fun {_ _ left _} found => absurd (List.mem_of_getElem? found) (idle left)
  · intro id
    refine .inr ((member id).trans ?_)
    change id ∈ current.users ↔ (server.tables.user room id).isSome = true
    rw [Tables.user_of_object object, AList.lookup_isSome]
  · intro id session isUser
    left
    change server.tables.user room id = some session at isUser
    rw [Tables.user_of_object object] at isUser
    ext other
    exact (convened.told isUser other).trans (member other).symm

/-- With all handlers finished, the clients of the room show its users. -/
theorem Convenes.shown (convenes : Convenes collate roomName roomId room server)
    (quiescent : server.Quiescent) (object : server.rooms[room]? = some current) {id : String}
    (isUser : current.users.lookup id = some session) (member : String) :
    member ∈ listShown server id session ↔ member ∈ current.users := by
  obtain ⟨agrees, told⟩ := convenes.agreed.settled fun errand =>
    Process.errand_of_quiescent quiescent
  have found : server.tables.rooms[room]? = some current := object
  have lists := told id session ((Tables.user_of_object found).trans isUser)
  have shows : member ∈ listShown server id session ↔ member ∈ server.tables.db.registered roomId :=
    Set.ext_iff.mp lists member
  have registers : member ∈ server.tables.db.registered roomId ↔
      (server.tables.user room member).isSome = true :=
    agrees member
  rw [shows, registers, Tables.user_of_object found, AList.lookup_isSome]

end Rest

section Creation

variable {collate : String → String} {id roomName : String} {index session : Nat} {base : Tables}
  {self after : ServerState}

/-- A create handler that runs alone under a free name, on a connected session. -/
def CreatesAlone (collate : String → String) (index session : Nat)
    (id roomName : String) (base : Tables) (server : ServerState) : Prop :=
  server.isConnected session = true ∧
    ((∃ pc, server.processes[index]? = some ⟨session, .createRoom id roomName pc⟩ ∧
        pc ≠ .reply false ∧ Creating collate session id roomName base pc server.tables) ∨
      (server.processes[index]? = some ⟨session, .done⟩ ∧
        server.tables = base.created collate session id roomName ∧
        ∃ earlier, server.outbox session = earlier ++ [.sCreateRoom true roomName]))

theorem step_createsAlone (free : base.db.selectRoomId collate roomName = none)
    (stepped : (system collate).step (.run index) self = some after)
    (creates : CreatesAlone collate index session id roomName base self) :
    CreatesAlone collate index session id roomName base after := by
  obtain ⟨connected, ⟨pc, found, granted, creating⟩ | ⟨found, _⟩⟩ := creates
  · have advanced := (advance_of_step found stepped).2
    have delivers : self.Delivers ((Task.createRoom id roomName pc).posts self session) after :=
      advance_delivers advanced
    rcases advanceCreateRoom_tables advanced with ⟨_, cause, rfl⟩ | ⟨_, ⟨goal, rfl, rule⟩, goes⟩
    · exact ⟨connected, .inl ⟨pc, found, granted, creating⟩⟩
    refine ⟨(delivers.connected session).trans connected, ?_⟩
    cases goal with
    | some goal =>
        refine .inl ⟨goal, goes.found found, ?_, rule.creating creating⟩
        rintro rfl
        generalize after.tables = tables at rule
        cases rule with
        | refuse taken =>
            cases creating
            rw [free] at taken
            contradiction
    | none =>
        refine .inr ⟨goes.found found, ?_⟩
        generalize after.tables = tables at rule
        generalize self.tables = before at rule creating
        cases rule with
        | @reply canCreate =>
            cases creating with
            | refused => contradiction
            | reply =>
                refine ⟨rfl, self.outbox session, ?_⟩
                rw [delivers.outbox, if_pos connected]
                simp [Task.posts, handed]
  · cases (advance_of_step found stepped).2

/-- A room that was created alone, by a user under the registered id: the creator is its only
user and was sent nothing but the answer. -/
theorem convened_of_create (short : Short id) (known : ∃ row ∈ self.db.account, row.id = id)
    (distinct : (self.tables.db.account.map fun row => collate row.id).Nodup)
    (unassigned : ∀ row ∈ self.db.account, row.currentRoomId ≠ some self.db.nextRoomId)
    (free : self.db.selectRoomId collate roomName = none)
    (connected : self.isConnected session = true)
    (ran : (system collate).run (.request session (.cCreateRoom id roomName) ::
      List.replicate steps (.run self.processes.length)) self = some start)
    (finished : start.Quiescent) :
    Convened collate roomName self.rooms.length ⟨self.db.nextRoomId, AList.insert id session ∅, 1,
      false⟩ start := by
  obtain ⟨spawned, requested, remaining⟩ := System.run_cons_some.mp ran
  obtain ⟨rfl, _⟩ := step_request rfl requested
  have alone : CreatesAlone collate self.processes.length session id roomName
      self.tables start := by
    have keeps : ∀ {event before next}, event = .run self.processes.length →
        (system collate).step event before = some next →
        CreatesAlone collate self.processes.length session id roomName self.tables before →
        CreatesAlone collate self.processes.length session id roomName self.tables next := by
      rintro event before next rfl stepped creates
      exact step_createsAlone free stepped creates
    have guarded : (system collate).Guarded (fun event _ => event = .run self.processes.length)
        (List.replicate steps (.run self.processes.length))
            (self.spawn session (.createRoom id roomName .select)) :=
      System.guarded_of_forall fun event member => List.eq_of_mem_replicate member
    exact System.run_preserves_guarded keeps guarded remaining
      ⟨connected, .inl ⟨.select, found_spawn .., by simp, .select⟩⟩
  obtain ⟨stillConnected, ⟨pc, found, _⟩ | ⟨_, created, earlier, answered⟩⟩ := alone
  · cases finished _ (List.mem_of_getElem? found)
  have only : ∀ other, other ∈ AList.insert id session (∅ : Users) ↔ other = id := by
    intro other
    rw [AList.mem_insert]
    exact or_iff_left (AList.notMem_empty other)
  have mine : ∀ {other : String} {user : Nat},
      (AList.insert id session (∅ : Users)).lookup other = some user →
      other = id ∧ user = session := by
    intro other user found
    have same := (only other).mp (AList.lookup_isSome.mp (Option.isSome_of_eq_some found))
    subst same
    rw [AList.lookup_insert] at found
    exact ⟨rfl, (Option.some.inj found).symm⟩
  obtain ⟨row, rowMember, rowId⟩ := known
  have account : ∃ row ∈ (self.tables.db.withRow roomName).account, row.id = id :=
    ⟨row.bare, List.mem_map_of_mem rowMember, rowId⟩
  have registers : ∀ other, other ∈ start.db.registered self.db.nextRoomId ↔ other = id := by
    intro other
    rw [← Database.registered_bare, show start.db.bare =
        (self.tables.created collate session id roomName).db from
      congrArg Tables.db created]
    refine (Database.mem_registered_assign distinct account).trans ?_
    split
    · rename_i same
      simp [same, Tables.nextRoomId, tables, Database.bare]
    · rename_i different
      refine iff_of_false ?_ different
      rintro ⟨source, member, _, refers⟩
      obtain ⟨original, originalMember, rfl⟩ := List.mem_map.mp member
      exact unassigned original originalMember refers
  refine ⟨?_, ?_, ?_, ?_, ?_, ?_⟩
  · change start.tables.rooms[self.rooms.length]? = _
    rw [created]
    exact List.getElem?_concat_length
  · refine ⟨⟨self.db.nextRoomId, roomName, 1⟩, ?_, rfl, rfl⟩
    change _ ∈ start.tables.db.room
    rw [created]
    exact List.mem_append_right _ List.mem_cons_self
  · exact fun other isUser => (only other).mp isUser ▸ short
  · intro other user found
    exact (mine found).2 ▸ stillConnected
  · exact fun other => (only other).trans (registers other).symm
  · intro other user found member
    obtain ⟨rfl, rfl⟩ := mine found
    have shows : listShown start other user = [other] := by
      rw [listShown, answered, usersAfter_concat]
      rfl
    rw [shows, List.mem_singleton]
    exact (only member).symm

end Creation

/-- Joins and leaves of a room, from a state in which its users were sent the right list:
if every list is up to date when it is sent, then once all handlers have finished the last
list of every user is the users of the room. -/
theorem member_lists_converge {collate : String → String} {setup events : List ServerEvent}
    {start final : ServerState} {roomName : String} {room : Nat} {opened : Room}
    (reached : (system collate).run setup fresh = some start) (quiescent : start.Quiescent)
    (convened : Convened collate roomName room opened start)
    (ran : (system collate).run events start = some final)
    (guarded : (system collate).Guarded
      (fun event server => PageFlow collate roomName room event server ∧
        UpToDate event server) events start) (finished : final.Quiescent) :
    ∀ current, final.rooms[room]? = some current → ∀ id session, current.users.lookup id =
      some session →
      ∀ member, member ∈ listShown final id session ↔ member ∈ current.users := by
  intro current object id session isUser
  rcases run_convenes (convened.convenes reached quiescent) guarded ran with convenes | abandoned
  · exact convenes.shown finished object isUser
  · obtain ⟨other, otherObject, empty⟩ := abandoned.deserted
    cases object.symm.trans otherObject
    have present := AList.mem_lookup_iff.mp isUser
    rw [empty] at present
    contradiction

/-- Three users register, and the first creates a room. -/
def gathering : List ServerEvent :=
  [.connect, .connect, .connect] ++ handled 0 (.cRegister "a" "p") 0 2 ++
    handled 1 (.cRegister "b" "p") 1 2 ++ handled 2 (.cRegister "c" "p") 2 2 ++
    handled 0 (.cCreateRoom "a" "r") 3 9

theorem gathering_convened (reached : (system id).run gathering fresh = some start) :
    start.Quiescent ∧ Convened id "r" 0 ⟨1, AList.insert "a" 0 ∅, 1, false⟩ start := by
  obtain ⟨before, registered, created⟩ := System.run_append_some.mp reached
  obtain ⟨account, unassigned, free, connected, finished⟩ :
      (∃ row ∈ before.db.account, row.id = "a") ∧
      (∀ row ∈ before.db.account, row.currentRoomId ≠ some before.db.nextRoomId) ∧
      before.db.selectRoomId id "r" = none ∧ before.isConnected 0 = true ∧ start.Quiescent := by
    cases registered
    cases created
    decide +kernel
  have ran : (system id).run
      (handled 0 (.cCreateRoom "a" "r") before.processes.length 9) before = some start := by
    cases registered
    exact created
  have convened := convened_of_create (by decide) account (run_distinct registered) unassigned free
    connected ran finished
  cases registered
  exact ⟨finished, convened⟩

/-- One user joins and then the creator leaves: the list of the one who stays is right. -/
theorem member_lists_converge_creator_leaves :
    let events := handled 1 (.cJoinRoom "b" "r") 4 10 ++ handled 0 (.cRoomOut "a" "r") 5 10
    ∃ start final current, (system id).run gathering fresh = some start ∧
      (system id).run events start = some final ∧
      final.rooms[0]? = some current ∧ current.users.lookup "b" = some 1 ∧
      ∀ member, member ∈ listShown final "b" 1 ↔ member ∈ current.users := by
  intro events
  obtain ⟨start, reached, final, ran, guarded, finished, current, object, isUser⟩ :
      ∃ start ∈ (system id).run gathering fresh, ∃ final ∈ (system id).run events start,
      (system id).Guarded
        (fun event server => PageFlow id "r" 0 event server ∧ UpToDate event server) events start ∧
      final.Quiescent ∧ ∃ current ∈ final.rooms[0]?, current.users.lookup "b" = some 1 := by
    decide +kernel
  obtain ⟨quiescent, convened⟩ := gathering_convened reached
  exact ⟨start, final, current, reached, ran, object, isUser,
    member_lists_converge reached quiescent convened ran guarded finished current object "b" 1
      isUser⟩

/-- Two users join at once.  The one that has read its list first sends it last, and nobody is
shown the other. -/
theorem member_lists_diverge :
    let events := [.request 1 (.cJoinRoom "b" "r"), .request 2 (.cJoinRoom "c" "r")] ++ runs 4 7 ++
      runs 5 10 ++ runs 4 3
    ∃ start final current, (system id).run gathering fresh = some start ∧ start.Quiescent ∧
      Convened id "r" 0 ⟨1, AList.insert "a" 0 ∅, 1, false⟩ start ∧
      (system id).run events start = some final ∧
      (system id).Guarded (PageFlow id "r" 0) events start ∧
      final.Quiescent ∧ final.rooms[0]? = some current ∧ current.users.lookup "a" = some 0 ∧
      "c" ∈ current.users ∧ listShown final "a" 0 = ["a", "b"] ∧
      listShown final "c" 2 = ["a", "b"] := by
  intro events
  obtain ⟨start, reached, final, ran, guarded, finished, current, object, isUser, other, shown⟩ :
      ∃ start ∈ (system id).run gathering fresh, ∃ final ∈ (system id).run events start,
      (system id).Guarded (PageFlow id "r" 0) events start ∧ final.Quiescent ∧
      ∃ current ∈ final.rooms[0]?, current.users.lookup "a" = some 0 ∧ "c" ∈ current.users ∧
        listShown final "a" 0 = ["a", "b"] ∧ listShown final "c" 2 = ["a", "b"] := by
    decide +kernel
  obtain ⟨quiescent, convened⟩ := gathering_convened reached
  exact ⟨start, final, current, reached, quiescent, convened, ran, guarded, finished, object,
    isUser, other, shown⟩

end ChattingProgram.Client
