import ChattingProgram.Server.Disconnecting

namespace ChattingProgram.Server

open ChattingProgram.Protocol ChattingProgram.Machine ServerState

/-! # Leaving a room by a dropped connection

`C_CREATE_ROOM`, `C_JOIN_ROOM` and `C_ROOM_OUT` against `OnDisconnected` of the same
session.
-/

section Join

variable {collate : String → String} {index session : Nat} {id roomName : String} {base : Tables}
  {self after : ServerState} {task : Task}

/-- The join has not been admitted. -/
def JoinPc.unadmitted : JoinPc → Bool
  | .select | .getRoom _ | .load .. | .cas .. | .reply _ false _ => true
  | _ => false

def JoinOutside (collate : String → String) (session : Nat) (id roomName : String)
    (base : Tables) (task : Task) (tables : Tables) : Prop :=
  tables = base ∧ (task = .done ∨ ∃ pc, task = .joinRoom id roomName pc ∧ pc.unadmitted = true ∧
    Joining collate session id roomName base pc base)

def JoinEntering (collate : String → String) (session : Nat) (id roomName : String)
    (base : Tables) (task : Task) (tables : Tables) : Prop :=
  ∃ pc, task = .joinRoom id roomName pc ∧ task.enters = true ∧
    Joining collate session id roomName base pc tables

def JoinStaying (collate : String → String) (session : Nat) (id roomName : String)
    (base : Tables) (task : Task) (tables : Tables) (room : Nat) (current : Room) : Prop :=
  task.past = true ∧ ∃ roomId entered, base.Admits collate roomName roomId room entered ∧
    entered.users.entries ≠ [] ∧ tables = base.joined collate session id roomId room entered ∧
    current = { entered.admitting with users := entered.users.insert id session }

theorem Joining.eq_base {tables : Tables}
    (joining : Joining collate session id roomName base pc tables)
    (unadmitted : pc.unadmitted = true) : tables = base := by
  cases joining with
  | select | getRoom | load | refused | cas => rfl
  | _ => contradiction

/-- A join that is not admitted stays so, or is admitted by its CAS. -/
theorem JoinStep.unadmitted {pc : JoinPc} {tables : Tables} (unadmitted : pc.unadmitted = true)
    (joining : Joining collate session id roomName base pc base)
    (rule : JoinStep collate session id roomName base pc goal tables) :
    (tables = base ∧ ∀ next ∈ goal, next.unadmitted = true ∧
      Joining collate session id roomName base next base) ∨
    ∃ roomId room current, pc = .cas roomId room current.roomState ∧
      base.rooms[room]? = some current ∧
      goal = some (.updateAccount roomId room) ∧
      Joining collate session id roomName base (.updateAccount roomId room) tables := by
  cases goal with
  | none =>
      cases rule
      exact .inl ⟨rfl, by simp⟩
  | some goal =>
      have finds : (Task.joinRoom id roomName pc).Finds base := by
        cases pc <;> trivial
      have next := rule.joining joining finds
      by_cases still : goal.unadmitted = true
      · cases next.eq_base still
        refine .inl ⟨rfl, ?_⟩
        rintro _ ⟨⟩
        exact ⟨still, next⟩
      · refine .inr ?_
        cases rule with
        | cas object same =>
            subst same
            exact ⟨_, _, _, rfl, object, rfl, next⟩
        | select | unknown | getRoom | unlisted | load | refuse | again | lost =>
            exact absurd rfl still
        | updateAccount | updateRoom | selectMembers | miss | addUser | broadcast => contradiction

theorem joinOutside_step (outside : JoinOutside collate session id roomName base task self.tables)
    (timely : task.Timely collate self session)
    (found : self.processes[index]? = some ⟨session, task⟩)
    (stepped : self.advance collate index session task = some after) :
    ∃ next, self.Goes index session next after ∧ after.auth = self.auth ∧
      (JoinOutside collate session id roomName base next after.tables ∨
        (JoinEntering collate session id roomName base next after.tables ∧
          ¬ self.Looked session)) := by
  obtain ⟨rfl, rfl | ⟨pc, rfl, unadmitted, joining⟩⟩ := outside
  · contradiction
  have auth := advance_auth rfl found stepped
  obtain ⟨_, ⟨goal, rfl, rule⟩, goes⟩ := advanceJoinRoom_tables stepped
  refine ⟨_, goes, auth, ?_⟩
  rcases rule.unadmitted unadmitted joining with ⟨same, still⟩ | ⟨roomId, room, current, rfl,
    object, rfl, next⟩
  · refine .inl ⟨same, ?_⟩
    cases goal with
    | none => exact .inl rfl
    | some goal => exact .inr ⟨goal, rfl, still goal rfl⟩
  · exact .inr ⟨⟨_, rfl, rfl, next⟩, timely current object rfl⟩

theorem joinEntering_step
    (entering : JoinEntering collate session id roomName base task self.tables)
    (timely : task.Timely collate self session)
    (found : self.processes[index]? = some ⟨session, task⟩)
    (stepped : self.advance collate index session task = some after) :
    ∃ next, self.Goes index session next after ∧ after.auth = self.auth ∧
      (JoinEntering collate session id roomName base next after.tables ∨
        JoinOutside collate session id roomName base next after.tables ∨
        ∃ room current,
          JoinStaying collate session id roomName base next after.tables room current) := by
  obtain ⟨pc, rfl, enters, joining⟩ := entering
  have auth := advance_auth rfl found stepped
  obtain ⟨_, ⟨goal, rfl, rule⟩, goes⟩ := advanceJoinRoom_tables stepped
  refine ⟨_, goes, auth, ?_⟩
  generalize after.tables = tables at rule
  cases goal with
  | none =>
      generalize self.tables = before at rule
      cases rule
      contradiction
  | some goal =>
      have finds : (Task.joinRoom id roomName pc).Finds self.tables := by
        cases pc <;> first | exact timely | trivial
      have next := rule.joining joining finds
      have reaches : (Task.joinRoom id roomName goal).enters = true ∨
          ∃ room userIds, goal = .broadcast room userIds := by
        generalize self.tables = before at rule
        cases rule with
        | updateAccount | updateRoom | selectMembers => exact .inl rfl
        | miss | addUser => exact .inr ⟨_, _, rfl⟩
        | _ => contradiction
      rcases reaches with still | ⟨room, userIds, rfl⟩
      · exact .inl ⟨goal, rfl, still, next⟩
      · cases next with
        | broadcast admits used => exact .inr (.inr ⟨room, _, rfl, _, _, admits, used, rfl, rfl⟩)

theorem joinStaying_stays {tables : Tables}
    (named : ∀ {roomId room current}, base.listed.lookup roomId = some room →
      base.rooms[room]? = some current → current.roomId = roomId)
    (connected : session < base.seats.length)
    (staying : JoinStaying collate session id roomName base task tables room current) :
    Stays session id task tables room current := by
  obtain ⟨past, roomId, entered, admits, used, rfl, rfl⟩ := staying
  have object := admits.object
  have here := named admits.lists object
  refine ⟨?_, AList.lookup_insert _, ?_, .inr ?_, .inl past⟩
  · exact List.getElem?_set_self (List.getElem?_eq_some_iff.mp object).1
  · simp [Tables.joined, Tables.withRoom, Tables.seat, connected]
  · change base.listed.lookup entered.roomId = some room
    rw [here]
    exact admits.lists

def joining (collate : String → String) (index session : Nat) (id roomName : String) (base : Tables)
    (named : ∀ {roomId room current}, base.listed.lookup roomId = some room →
      base.rooms[room]? = some current →
      current.roomId = roomId) (unseated : base.seats[session]? = some none) :
    Conduct collate index session id where
  Outside := JoinOutside collate session id roomName base
  Entering := JoinEntering collate session id roomName base
  Staying := JoinStaying collate session id roomName base
  unseated := by
    rintro task tables ⟨rfl, _⟩
    exact unseated
  enters := by
    rintro task tables ⟨pc, _, enters, _⟩
    exact enters
  stays := joinStaying_stays named (List.getElem?_eq_some_iff.mp unseated).1
  outsideFits := by
    rintro task tables ⟨rfl, rfl | ⟨pc, rfl, _, joining⟩⟩ hangs
    · exact hangs.elim
    · exact absurd hangs joining.not_hangs
  enteringFits := by
    rintro task tables ⟨pc, rfl, _, joining⟩ hangs
    exact absurd hangs joining.not_hangs
  stayingFits := fun staying => Task.past_fits staying.1
  outsideStep := joinOutside_step
  enteringStep := joinEntering_step
  stayingStep := by
    rintro self after task tables room current pc ⟨past, facts⟩ removing found stepped
    obtain ⟨next, nextPast, goes, auth, same⟩ := advance_past past found stepped
    exact ⟨next, tables, goes, auth, ⟨nextPast, facts⟩, same ▸ removing⟩

end Join

section Create

variable {collate : String → String} {index session : Nat} {id roomName : String} {base : Tables}
  {self after : ServerState} {task : Task}

def CreateOutside (id roomName : String) (base : Tables) (task : Task) (tables : Tables) : Prop :=
  tables = base ∧ (task = .done ∨ task = .createRoom id roomName .select ∨
    task = .createRoom id roomName (.reply false))

def CreateEntering (collate : String → String) (session : Nat) (id roomName : String)
    (base : Tables) (task : Task) (tables : Tables) : Prop :=
  ∃ pc, task = .createRoom id roomName pc ∧ task.enters = true ∧
    Creating collate session id roomName base pc tables

def Tables.made (session : Nat) (id : String) (base : Tables) : Room :=
  ⟨base.nextRoomId, AList.insert id session ∅, 1, false⟩

def CreateStaying (collate : String → String) (session : Nat) (id roomName : String)
    (base : Tables) (task : Task) (tables : Tables) (room : Nat) (current : Room) : Prop :=
  room = base.rooms.length ∧ current = base.made session id ∧
    ((task = .createRoom id roomName (.addRoom room) ∧
      tables = base.unlisted collate session id roomName) ∨
      (task.past = true ∧ tables = base.created collate session id roomName))

theorem createOutside_step (outside : CreateOutside id roomName base task self.tables)
    (timely : task.Timely collate self session)
    (found : self.processes[index]? = some ⟨session, task⟩)
    (stepped : self.advance collate index session task = some after) :
    ∃ next, self.Goes index session next after ∧ after.auth = self.auth ∧
      (CreateOutside id roomName base next after.tables ∨
        (CreateEntering collate session id roomName base next after.tables ∧
          ¬ self.Looked session)) := by
  obtain ⟨rfl, rfl | rfl | rfl⟩ := outside
  · contradiction
  · have auth := advance_auth rfl found stepped
    simp only [advance] at stepped
    rcases advanceCreateRoom_tables stepped with ⟨fails, _⟩ | ⟨_, ⟨goal, rfl, rule⟩, goes⟩
    · exact fails.elim
    · refine ⟨_, goes, auth, ?_⟩
      generalize after.tables = tables at rule
      cases rule with
      | refuse taken => exact .inl ⟨rfl, .inr (.inr rfl)⟩
      | accept free => exact .inr ⟨⟨_, rfl, rfl, .insert free⟩, timely free⟩
  · have auth := advance_auth rfl found stepped
    simp only [advance] at stepped
    rcases advanceCreateRoom_tables stepped with ⟨fails, _⟩ | ⟨_, ⟨goal, rfl, rule⟩, goes⟩
    · exact fails.elim
    · refine ⟨_, goes, auth, ?_⟩
      generalize after.tables = tables at rule
      cases rule
      exact .inl ⟨rfl, .inl rfl⟩

theorem createEntering_step
    (entering : CreateEntering collate session id roomName base task self.tables)
    (timely : task.Timely collate self session)
    (found : self.processes[index]? = some ⟨session, task⟩)
    (stepped : self.advance collate index session task = some after) :
    ∃ next, self.Goes index session next after ∧ after.auth = self.auth ∧
      (CreateEntering collate session id roomName base next after.tables ∨
        CreateOutside id roomName base next after.tables ∨
        ∃ room current,
          CreateStaying collate session id roomName base next after.tables room current) := by
  obtain ⟨pc, rfl, enters, creating⟩ := entering
  have auth := advance_auth rfl found stepped
  rcases advanceCreateRoom_tables stepped with ⟨fails, _⟩ | ⟨_, ⟨goal, rfl, rule⟩, goes⟩
  · exact absurd fails creating.not_fails
  · refine ⟨_, goes, auth, ?_⟩
    generalize after.tables = tables at rule
    cases goal with
    | none =>
        generalize self.tables = before at rule
        cases rule
        contradiction
    | some goal =>
        have next := rule.creating creating
        have reaches : (Task.createRoom id roomName goal).enters = true ∨
            ∃ room, goal = .addRoom room := by
          generalize self.tables = before at rule
          cases rule with
          | insert | selectId | updateAccount | makeRoom | fetchAdd => exact .inl rfl
          | setRoom => exact .inr ⟨_, rfl⟩
          | _ => contradiction
        rcases reaches with still | ⟨room, rfl⟩
        · exact .inl ⟨goal, rfl, still, next⟩
        · cases next with
          | addRoom free => exact .inr (.inr ⟨_, _, rfl, rfl, .inl ⟨rfl, rfl⟩⟩)

theorem createStaying_stays {tables : Tables} (fresh : base.listed.lookup base.nextRoomId = none)
    (connected : session < base.seats.length)
    (staying : CreateStaying collate session id roomName base task tables room current) :
    Stays session id task tables room current := by
  obtain ⟨rfl, rfl, position⟩ := staying
  have seat : (base.seats.modify session fun _ => some base.rooms.length)[session]? =
      some (some base.rooms.length) := by
    simp [connected]
  rcases position with ⟨rfl, rfl⟩ | ⟨past, rfl⟩
  · exact ⟨List.getElem?_concat_length, AList.lookup_insert _, seat, .inl rfl, .inr ⟨fresh, rfl⟩⟩
  · exact ⟨List.getElem?_concat_length, AList.lookup_insert _, seat,
      .inr (AList.lookup_insert _), .inl past⟩

theorem createStaying_step {tables : Tables} (fresh : base.listed.lookup base.nextRoomId = none)
    (connected : session < base.seats.length)
    (staying : CreateStaying collate session id roomName base task tables room current)
    (removing : Removing collate room id tables current pc self.tables)
    (found : self.processes[index]? = some ⟨session, task⟩)
    (stepped : self.advance collate index session task = some after) :
    ∃ next changed, self.Goes index session next after ∧ after.auth = self.auth ∧
      CreateStaying collate session id roomName base next changed room current ∧
      Removing collate room id changed current pc after.tables := by
  have stays := createStaying_stays fresh connected staying
  obtain ⟨rfl, rfl, ⟨rfl, rfl⟩ | ⟨past, rfl⟩⟩ := staying
  · have auth := advance_auth rfl found stepped
    simp only [advance] at stepped
    rcases advanceCreateRoom_tables stepped with ⟨fails, _⟩ | ⟨_, ⟨goal, rfl, rule⟩, goes⟩
    · exact fails.elim
    · obtain ⟨listed, next, here, sameId⟩ := removing.keeps stays.object
      generalize self.tables = before at rule removing listed here
      generalize after.tables = result at rule
      cases rule with
      | addRoom object =>
          cases here.symm.trans object
          rw [listed, sameId]
          exact ⟨_, base.created collate session id roomName, goes, auth,
            ⟨rfl, rfl, .inr ⟨rfl, rfl⟩⟩, removing.relist _⟩
  · obtain ⟨next, nextPast, goes, auth, same⟩ := advance_past past found stepped
    exact ⟨next, _, goes, auth, ⟨rfl, rfl, .inr ⟨nextPast, rfl⟩⟩, same ▸ removing⟩

def creating (collate : String → String) (index session : Nat)
    (id roomName : String) (base : Tables)
    (fresh : base.listed.lookup base.nextRoomId = none)
      (unseated : base.seats[session]? = some none) :
    Conduct collate index session id where
  Outside := CreateOutside id roomName base
  Entering := CreateEntering collate session id roomName base
  Staying := CreateStaying collate session id roomName base
  unseated := by
    rintro task tables ⟨rfl, _⟩
    exact unseated
  enters := by
    rintro task tables ⟨pc, _, enters, _⟩
    exact enters
  stays := createStaying_stays fresh (List.getElem?_eq_some_iff.mp unseated).1
  outsideFits := by
    rintro task tables ⟨rfl, rfl | rfl | rfl⟩ hangs <;> exact hangs.elim
  enteringFits := by
    rintro task tables ⟨pc, rfl, _, creating⟩ hangs
    obtain ⟨rfl, long⟩ := creating.hangs hangs
    exact ⟨id, roomName, rfl, long⟩
  stayingFits := by
    rintro task base room current tables ⟨_, _, ⟨rfl, _⟩ | ⟨past, _⟩⟩
    · exact fun hangs => hangs.elim
    · exact Task.past_fits past
  outsideStep := createOutside_step
  enteringStep := createEntering_step
  stayingStep := createStaying_step fresh (List.getElem?_eq_some_iff.mp unseated).1

end Create

section Out

variable {collate : String → String} {index session roomId room : Nat} {id : String} {base : Tables}
  {current : Room} {self after : ServerState} {task : Task}

theorem Tables.Houses.unique (houses : base.Houses collate id roomId room current)
    (same : base.Houses collate id otherId otherRoom other) :
    otherRoom = room ∧ other = current := by
  cases houses.assigned.symm.trans same.assigned
  cases houses.lists.symm.trans same.lists
  cases houses.object.symm.trans same.object
  exact ⟨rfl, rfl⟩

/-- The user's own leave: before the user is erased, and after that. -/
def OutEntering (collate : String → String) (id : String) (base : Tables) (task : Task)
    (tables : Tables) : Prop :=
  ∃ pc, task = .roomOut id pc ∧ task.enters = true ∧ Outing collate id base pc tables

def OutOutside (collate : String → String) (session : Nat) (id : String) (base : Tables)
    (room : Nat) (current : Room) (task : Task) (tables : Tables) : Prop :=
  (task = .done ∧ tables = base.departed collate room id current session) ∨
    ∃ pc, task = .roomOut id pc ∧ task.enters = false ∧ Outing collate id base pc tables

theorem outing_step (houses : base.Houses collate id roomId room current)
    (listed : ∀ {roomId room}, base.listed.lookup roomId = some room →
      ∃ current, base.rooms[room]? = some current) (named : current.roomId = roomId)
    (isUser : current.users.lookup id = some session)
    (outing : Outing collate id base pc self.tables)
    (found : self.processes[index]? = some ⟨session, .roomOut id pc⟩)
    (stepped : self.advance collate index session (.roomOut id pc) = some after) :
    ∃ goal : Option OutPc, self.Goes index session (goal.elim .done (.roomOut id)) after ∧
      after.auth = self.auth ∧
      OutStep collate id self.tables pc goal after.tables ∧
      (goal = none → after.tables = base.departed collate room id current session) ∧
      ∀ next ∈ goal, Outing collate id base next after.tables := by
  have auth := advance_auth rfl found stepped
  rcases advanceRoomOut_tables stepped with ⟨fails, _⟩ | ⟨_, ⟨goal, rfl, rule⟩, goes⟩
  · exfalso
    generalize self.tables = before at outing fails
    cases outing with
    | select => exact fails _ houses.assigned
    | getRoom assigned =>
        cases houses.assigned.symm.trans assigned
        cases houses.lists.symm.trans fails
    | remove same removing =>
        obtain ⟨rfl, rfl⟩ := houses.unique same
        rcases removing.fails houses.object fails with missing | ⟨_, missing⟩
        · cases missing.symm.trans isUser
        · rw [named] at missing
          cases missing.symm.trans houses.lists
    | reply => exact fails
  · refine ⟨goal, goes, auth, rule, ?_, ?_⟩
    · rintro rfl
      obtain ⟨otherId, otherRoom, other, user, same, otherUser, departed⟩ := rule.departed outing
      obtain ⟨rfl, rfl⟩ := houses.unique same
      cases isUser.symm.trans otherUser
      exact departed
    · rintro next ⟨⟩
      exact rule.outing outing listed

theorem Outing.unseated {tables : Tables} (houses : base.Houses collate id roomId room current)
    (isUser : current.users.lookup id = some session) (connected : session < base.seats.length)
    (outing : Outing collate id base pc tables) (erased : (Task.roomOut id pc).enters = false) :
    tables.seats[session]? = some none := by
  have seat : (base.seats.modify session fun _ => none)[session]? = some none := by
    simp [connected]
  cases outing with
  | select | getRoom => contradiction
  | remove same removing =>
      obtain ⟨rfl, rfl⟩ := houses.unique same
      cases removing with
      | updateAccount | updateRoom | erase => contradiction
      | fetchSub otherUser | cas otherUser | delete otherUser | removeRoom otherUser
      | select otherUser
      | broadcast otherUser =>
          cases isUser.symm.trans otherUser
          exact seat
  | reply same otherUser =>
      obtain ⟨rfl, rfl⟩ := houses.unique same
      cases isUser.symm.trans otherUser
      simp only [Tables.departed]
      split <;> exact seat

theorem OutStep.erased {goal : OutPc} {tables : Tables}
    (erased : (Task.roomOut id pc).enters = false)
    (rule : OutStep collate id before pc (some goal) tables) :
    (Task.roomOut id goal).enters = false := by
  cases rule with
  | select | getRoom => contradiction
  | remove rule =>
      cases rule with
      | updateAccount | updateRoom | erase => contradiction
      | _ => rfl

def leaving (collate : String → String) (index session : Nat) (id : String) (base : Tables)
    (roomId room : Nat) (current : Room) (houses : base.Houses collate id roomId room current)
    (listed : ∀ {roomId room}, base.listed.lookup roomId = some room →
      ∃ current, base.rooms[room]? = some current)
    (named : current.roomId = roomId) (isUser : current.users.lookup id = some session)
    (connected : session < base.seats.length) : Conduct collate index session id where
  Outside := OutOutside collate session id base room current
  Entering := OutEntering collate id base
  Staying := fun _ _ _ _ => False
  unseated := by
    rintro task tables (⟨_, rfl⟩ | ⟨pc, rfl, erased, outing⟩)
    · exact Outing.unseated houses isUser connected (.reply houses isUser) rfl
    · exact outing.unseated houses isUser connected erased
  enters := by
    rintro task tables ⟨pc, _, enters, _⟩
    exact enters
  stays := fun staying => staying.elim
  outsideFits := by
    rintro task tables (⟨rfl, _⟩ | ⟨pc, rfl, _⟩) hangs <;> exact hangs.elim
  enteringFits := by
    rintro task tables ⟨pc, rfl, _⟩ hangs
    exact hangs.elim
  stayingFits := fun staying => staying.elim
  outsideStep := by
    rintro self after task (⟨rfl, _⟩ | ⟨pc, rfl, erased, outing⟩) _ found stepped
    · contradiction
    · obtain ⟨goal, goes, auth, rule, ends, continues⟩ :=
        outing_step houses listed named isUser outing found stepped
      refine ⟨_, goes, auth, .inl ?_⟩
      cases goal with
      | none => exact .inl ⟨rfl, ends rfl⟩
      | some goal => exact .inr ⟨goal, rfl, rule.erased erased, continues goal rfl⟩
  enteringStep := by
    rintro self after task ⟨pc, rfl, enters, outing⟩ _ found stepped
    obtain ⟨goal, goes, auth, rule, ends, continues⟩ :=
      outing_step houses listed named isUser outing found stepped
    refine ⟨_, goes, auth, ?_⟩
    cases goal with
    | none => exact .inr (.inl (.inl ⟨rfl, ends rfl⟩))
    | some goal =>
        cases still : (Task.roomOut id goal).enters with
        | true => exact .inl ⟨goal, rfl, still, continues goal rfl⟩
        | false => exact .inr (.inl (.inr ⟨goal, rfl, still, continues goal rfl⟩))
  stayingStep := fun staying => staying.elim

end Out

section Restore

theorem erase_insert_of_not_mem {Key : Type} [DecidableEq Key]
    (entries : AList fun _ : Key => Nat) {key : Key} (absent : key ∉ entries) (value : Nat) :
    (entries.insert key value).erase key = entries := by
  apply AList.ext
  change List.kerase key (entries.insert key value).entries = entries.entries
  rw [AList.entries_insert_of_notMem absent]
  exact List.kerase_cons_eq rfl

variable {collate : String → String} {session roomId room : Nat} {id roomName : String}
  {base : Tables} {entered : Room}

namespace Database

theorem addUserCount_cancel (self : Database) (roomId : Nat) :
    ((self.addUserCount roomId 1).addUserCount roomId (-1)).room = self.room := by
  simp only [addUserCount, List.map_map]
  refine (List.map_congr_left fun row _ => ?_).trans (List.map_id' _)
  by_cases here : row.roomId = roomId
  · subst here
    simp
  · simp [here]

theorem selectCurrentRoom_assign (self : Database) (id : String) (roomId : Option Nat) :
    (self.assign collate id roomId).selectCurrentRoom collate id =
      (self.selectCurrentRoom collate id).map fun _ => roomId := by
  have names : ((fun row : AccountRow => decide (collate row.id = collate id)) ∘ fun row =>
      if collate row.id = collate id then { row with currentRoomId := roomId } else row) =
      fun row => decide (collate row.id = collate id) := by
    funext row
    by_cases named : collate row.id = collate id <;> simp [named]
  simp only [selectCurrentRoom, assign, List.find?_map, Option.map_map, names]
  refine Option.map_congr fun row found => ?_
  have named := List.find?_some found
  rw [Function.comp_apply, if_pos (of_decide_eq_true named), Function.comp_apply]

theorem selectCurrentRoom_deleteRoom (self : Database) (roomId : Nat)
    (cleared : ∀ target, self.selectCurrentRoom collate id ≠ some (some target)) :
    (self.deleteRoom roomId).selectCurrentRoom collate id = self.selectCurrentRoom collate id := by
  simp only [deleteRoom]
  split
  · have names : ((fun row : AccountRow => decide (collate row.id = collate id)) ∘ fun row =>
        if row.currentRoomId = some roomId then { row with currentRoomId := none } else row) =
        fun row => decide (collate row.id = collate id) := by
      funext row
      by_cases here : row.currentRoomId = some roomId <;> simp [here]
    simp only [selectCurrentRoom, List.find?_map, Option.map_map, names] at cleared ⊢
    refine Option.map_congr fun row found => ?_
    have clear : row.currentRoomId ≠ some roomId := by
      intro refers
      exact cleared roomId (by rw [found, Option.map_some, refers])
    rw [Function.comp_apply, if_neg clear]
  · rfl

end Database

/-- `RemoveUser` clears the account of the user. -/
theorem departed_current :
    (base.departed collate room id current user).db.selectCurrentRoom collate id =
      (base.db.selectCurrentRoom collate id).map fun _ => none := by
  have uncounted : (base.uncounted collate id current).selectCurrentRoom collate id =
      (base.db.selectCurrentRoom collate id).map fun _ =>
      none := Database.selectCurrentRoom_assign base.db id none
  simp only [Tables.departed]
  split
  · change ((base.uncounted collate id current).deleteRoom current.roomId).selectCurrentRoom collate
      id = _
    rw [Database.selectCurrentRoom_deleteRoom _ _ ?_, uncounted]
    intro target found
    rw [uncounted, Option.map_eq_some_iff] at found
    obtain ⟨_, _, impossible⟩ := found
    cases impossible
  · exact uncounted

theorem joined_departed (session : Nat) (admits : base.Admits collate roomName roomId room entered)
    (named : entered.roomId = roomId)
    (absent : id ∉ entered.users) (unlocked : entered.locked = false)
      (used : entered.roomState ≠ 0) :
    let left := (base.joined collate session id roomId room entered).departed collate room id
      { entered.admitting with users := entered.users.insert id session } session
    left.rooms = base.rooms ∧ left.listed = base.listed ∧ left.db.room = base.db.room := by
  intro left
  have several : entered.admitting.roomState ≠ 1 := by
    simp only [Room.admitting]
    omega
  have departs : left = _ := if_neg several
  rw [departs]
  refine ⟨?_, rfl, ?_⟩
  · have same : Room.without id { entered.admitting with users := entered.users.insert id session }
        (entered.admitting.roomState - 1) false = entered := by
      simp only [Room.without, Room.admitting, erase_insert_of_not_mem entered.users absent,
        add_sub_cancel_right, ← unlocked]
    change (base.rooms.set room _).set room _ = base.rooms
    rw [List.set_set, same]
    exact set_same admits.object
  · change ((base.db.addUserCount roomId 1).addUserCount entered.roomId (-1)).room = base.db.room
    rw [named]
    exact Database.addUserCount_cancel base.db roomId

theorem created_departed (collate : String → String) (session : Nat) (id roomName : String)
    (below : ∀ row ∈ base.db.room, row.roomId < base.nextRoomId)
    (fresh : base.listed.lookup base.nextRoomId = none) :
    let left := (base.created collate session id roomName).departed collate base.rooms.length id
      (base.made session id) session
    left.rooms = base.rooms ++ [(base.made session id).without id destruction false] ∧
      left.listed = base.listed ∧ left.db.room = base.db.room := by
  intro left
  have departs : left = _ := if_pos rfl
  have unlisted : base.nextRoomId ∉ base.listed := by
    rw [← AList.lookup_eq_none]
    exact fresh
  rw [departs]
  refine ⟨?_, ?_, ?_⟩
  · change (base.rooms ++ [base.made session id]).set base.rooms.length _ = _
    simp
  · exact erase_insert_of_not_mem base.listed unlisted _
  · have counted : ((base.db.withRow roomName).addUserCount base.nextRoomId (-1)).room =
        base.db.room ++ [⟨base.nextRoomId, roomName, 0⟩] := by
      simp only [Database.addUserCount, Database.withRow, List.map_append]
      congr 1
      · refine (List.map_congr_left fun row member => if_neg ?_).trans (List.map_id' _)
        exact (below row member).ne
      · simp [Tables.nextRoomId]
    change (Database.deleteRoom _ base.nextRoomId).room = base.db.room
    rw [(Database.deleteRoom_room _ _).1]
    change RowEffect.delete.apply base.nextRoomId
      ((base.db.withRow roomName).addUserCount base.nextRoomId (-1)).room = _
    rw [counted]
    simp only [RowEffect.apply, List.filter_append]
    rw [List.filter_eq_self.mpr]
    · simp
    · intro row member
      simp [(below row member).ne]

end Restore

namespace ServerState

variable {collate : String → String} {start self after : ServerState} {session : Nat} {id : String}

/-- The user is in the lobby. -/
structure Lobby (collate : String → String) (server : ServerState) (session : Nat)
    (id : String) : Prop where
  connection : ∃ state, server.sessions[session]? = some state ∧ state.id = id ∧
    state.connected = true ∧ state.disconnected = false ∧ state.room = none
  account : server.db.selectCurrentRoom collate id = some none
  absent : ∀ current ∈ server.rooms, id ∉ current.users

/-- The user is in a room, and in no other. -/
structure InRoom (collate : String → String) (server : ServerState) (session : Nat)
    (id : String) (room : Nat) (current : Room) : Prop where
  connection : ∃ state, server.sessions[session]? = some state ∧ state.id = id ∧
    state.connected = true ∧ state.disconnected = false ∧ state.room = some room
  account : server.db.selectCurrentRoom collate id = some (some current.roomId)
  lists : server.listed.lookup current.roomId = some room
  object : server.rooms[room]? = some current
  user : current.users.lookup id = some session
  elsewhere : ∀ {place : Nat} {other : Room}, server.rooms[place]? = some other → place ≠ room →
    id ∉ other.users

/-- The request that the page of the user sends, and the tables that are to remain when
the user is gone. -/
inductive Flow (collate : String → String) (server : ServerState) (session : Nat) (id : String) :
    Message → Tables → Prop where
  | create {roomName : String} : server.Lobby collate session id →
      Flow collate server session id (.cCreateRoom id roomName) server.tables
  | join {roomName : String} : server.Lobby collate session id →
      Flow collate server session id (.cJoinRoom id roomName) server.tables
  | out {roomName : String} {room : Nat} {current : Room} :
      server.InRoom collate session id room current →
      Flow collate server session id (.cRoomOut id roomName)
      (server.tables.departed collate room id current session)

/-- The user is in no room, and everything else is as it is to remain. -/
structure Without (collate : String → String) (id : String) (kept : Tables)
    (server : ServerState) : Prop where
  users : ∀ current ∈ server.rooms, id ∉ current.users
  account : server.db.selectCurrentRoom collate id = some none
  rows : server.db.room = kept.db.room
  listed : server.listed = kept.listed
  rooms : ∃ gone, server.rooms = kept.rooms ++ gone ∧
    ∀ current ∈ gone, current.roomState = destruction

theorem Shape.spawn (task : Task) (crash : start.crash = none)
    (found : start.sessions[session]? = some current) (connected : current.connected = true)
    (lasts : current.disconnected = false) :
    Shape start session current.id task none (start.spawn session task) where
  processes := rfl
  crash := crash
  session := by
    refine ⟨current.auth, ?_, rfl, by simp [ClientSession.auth,
      connected], by simp [ClientSession.auth, lasts]⟩
    simp [auth, ServerState.spawn, found]

theorem run_proceeds {conduct : Conduct collate start.processes.length session id}
    (quiescent : start.Quiescent) (concerns : ∀ event ∈ events, event.Concerns session)
    (timely : (system collate).Guarded (Timely collate) events self)
    (before : Proceeds conduct self) (ran : (system collate).run events self = some after) :
    Proceeds conduct after :=
  System.run_preserves_guarded
    (fun both stepped before => step_proceeds quiescent both.1 both.2 stepped before)
    ((System.guarded_of_forall concerns).and timely) ran before

section Start

variable {events : List ServerEvent} {final : ServerState} {roomName : String} {room : Nat}
  {current : Room}

theorem fresh_roomId (housed : start.Housed collate) :
    start.tables.listed.lookup start.tables.nextRoomId = none := by
  by_contra lists
  obtain ⟨place, lists⟩ := Option.ne_none_iff_exists'.mp lists
  obtain ⟨other, object, named⟩ := housed.listed lists
  have below := housed.registry.roomsBelow other (List.mem_of_getElem? object)
  rw [named] at below
  exact lt_irrefl _ below

theorem unlocked_of_quiescent (housed : start.Housed collate) (quiescent : start.Quiescent)
    (object : start.rooms[room]? = some current) : current.locked = false := by
  have lock := (housed.sound object).lock
  simp only [House.books, Ledger.of, Ledger.holders, staff_of_quiescent quiescent] at lock
  cases locked : current.locked with
  | false => rfl
  | true => simp [locked] at lock

theorem used_of_quiescent (housed : start.Housed collate) (quiescent : start.Quiescent)
    (object : start.rooms[room]? = some current) (alive : current.roomState ≠ destruction)
    (used : current.users.entries ≠ []) : current.roomState ≠ 0 := by
  have counted := (housed.sound object).counted alive
  simp only [House.books, Ledger.of, Ledger.arriving, staff_of_quiescent quiescent] at counted
  have present : current.users.keys.length ≠ 0 := by
    simpa [AList.keys, List.keys] using used
  omega

theorem listed_named (housed : start.Housed collate)
    (lists : start.tables.listed.lookup roomId = some place)
    (object : start.tables.rooms[place]? = some other) : other.roomId = roomId := by
  obtain ⟨found, foundObject, named⟩ := housed.listed lists
  cases object.symm.trans foundObject
  exact named

theorem Lobby.unseated (lobby : start.Lobby collate session id) :
    start.tables.seats[session]? = some none := by
  obtain ⟨state, found, _, _, _, room⟩ := lobby.connection
  simp [tables, found, room]

theorem Lobby.unassigned (lobby : start.Lobby collate session id) :
    start.tables.db.selectCurrentRoom collate id = some none :=
  (Database.bare_selectCurrentRoom ..).trans lobby.account

theorem Without.of_tables {kept : Tables} (users : ∀ current ∈ self.rooms, id ∉ current.users)
    (account : self.tables.db.selectCurrentRoom collate id = some none)
    (rows : self.tables.db.room = kept.db.room) (listed : self.tables.listed = kept.listed)
    (rooms : ∃ gone, self.rooms = kept.rooms ++ gone ∧
      ∀ current ∈ gone, current.roomState = destruction) : self.Without collate id kept :=
  ⟨users, (Database.bare_selectCurrentRoom ..).symm.trans account, rows, listed, rooms⟩

/-- The handler has left the tables as they were. -/
theorem Lobby.without_of_same (lobby : start.Lobby collate session id)
    (same : final.tables = start.tables) : final.Without collate id start.tables := by
  have rooms : final.rooms = start.rooms := congrArg Tables.rooms same
  refine .of_tables ?_ ?_ (congrArg (fun tables => tables.db.room) same)
    (congrArg Tables.listed same) ⟨[], rooms.trans (List.append_nil _).symm, by simp⟩
  · rw [rooms]
    exact lobby.absent
  · rw [same]
    exact lobby.unassigned

theorem without_of_join (housed : start.Housed collate) (quiescent : start.Quiescent)
    (lobby : start.Lobby collate session id)
    (staying : JoinStaying collate session id roomName start.tables task base room current)
    (left : final.tables = base.departed collate room id current session) :
    final.Without collate id start.tables := by
  obtain ⟨_, roomId, entered, admits, used, rfl, rfl⟩ := staying
  have object : start.rooms[room]? = some entered := admits.object
  obtain ⟨rooms, listed, rows⟩ := joined_departed session admits
    (listed_named housed admits.lists object) (lobby.absent entered (List.mem_of_getElem? object))
    (unlocked_of_quiescent housed quiescent object)
    (used_of_quiescent housed quiescent object admits.alive used)
  rw [← left] at rooms listed rows
  have sameRooms : final.rooms = start.rooms := rooms
  refine .of_tables ?_ ?_ rows listed ⟨[], rooms.trans (List.append_nil _).symm, by simp⟩
  · rw [sameRooms]
    exact lobby.absent
  · rw [left, departed_current]
    change ((start.tables.db.assign collate id (some roomId)).selectCurrentRoom collate id).map _ =
      _
    rw [Database.selectCurrentRoom_assign, lobby.unassigned]
    rfl

theorem without_of_create (housed : start.Housed collate) (lobby : start.Lobby collate session id)
    {task : Task} (past : task.past = true)
    (staying : CreateStaying collate session id roomName start.tables task base room current)
    (left : final.tables = base.departed collate room id current session) :
    final.Without collate id start.tables := by
  obtain ⟨rfl, rfl, ⟨rfl, _⟩ | ⟨_, rfl⟩⟩ := staying
  · contradiction
  obtain ⟨rooms, listed, rows⟩ :=
    created_departed collate session id roomName housed.registry.rowsBelow (fresh_roomId housed)
  rw [← left] at rooms listed rows
  have grown : final.rooms = start.rooms ++ _ := rooms
  refine .of_tables ?_ ?_ rows listed ⟨_, rooms, ?_⟩
  · intro current member
    rw [grown] at member
    rcases List.mem_append.mp member with earlier | last
    · exact lobby.absent current earlier
    · rw [List.mem_singleton.mp last]
      exact fun isUser => (AList.mem_erase.mp isUser).1 rfl
  · rw [left, departed_current]
    change (((start.tables.db.withRow roomName).assign collate id _).selectCurrentRoom
      collate id).map _ = _
    rw [Database.selectCurrentRoom_assign]
    change ((start.tables.db.selectCurrentRoom collate id).map _).map _ = _
    rw [lobby.unassigned]
    rfl
  · intro current member
    rw [List.mem_singleton.mp member]
    rfl

theorem without_of_out (inRoom : start.InRoom collate session id room current)
    (left : final.tables = start.tables.departed collate room id current session) :
    final.Without collate id (start.tables.departed collate room id current session) := by
  have rooms : final.rooms = _ := (congrArg Tables.rooms left).trans Tables.departed_rooms
  refine .of_tables ?_ ?_ (congrArg (fun tables => tables.db.room) left)
    (congrArg Tables.listed left)
    ⟨[], (congrArg Tables.rooms left).trans (List.append_nil _).symm, by simp⟩
  · intro next member isUser
    rw [rooms] at member
    obtain ⟨place, object⟩ := List.getElem?_of_mem member
    rcases getElem?_set_cases object with ⟨_, rfl⟩ | ⟨elsewhere, earlier⟩
    · exact (AList.mem_erase.mp isUser).1 rfl
    · exact inRoom.elsewhere earlier (Ne.symm elsewhere) isUser
  · rw [left, departed_current, show start.tables.db.selectCurrentRoom collate id = _ from
      (Database.bare_selectCurrentRoom ..).trans inRoom.account]
    rfl

end Start

/-- What a run of the dropped session comes to, given how its handler behaves. -/
theorem run_conduct {final : ServerState}
    (conduct : Conduct collate start.processes.length session id) (quiescent : start.Quiescent)
    (concerns : ∀ event ∈ events, event.Concerns session)
    (timely : (system collate).Guarded (Timely collate) events (start.spawn session task))
    (shape : Shape start session id task none (start.spawn session task))
    (phase : conduct.Phase task none start.tables)
    (outside : conduct.Outside .done final.tables → final.Without collate id kept)
    (left : conduct.Left final.tables → final.Without collate id kept)
    (ran : (system collate).run events (start.spawn session task) = some final) :
    final.crash = none ∧ (∀ process ∈ final.processes, process.task.Fits collate final.tables) ∧
      (final.Quiescent → (∃ current ∈ final.sessions[session]?, current.disconnected = true) →
        final.Without collate id kept) := by
  have proceeds : Proceeds conduct final :=
    run_proceeds quiescent concerns timely ⟨task, none, shape, phase⟩ ran
  refine ⟨?_, proceeds.fits quiescent, fun finished ended => ?_⟩
  · obtain ⟨_, _, shape, _⟩ := proceeds
    exact shape.crash
  · rcases proceeds.finished finished ended with out | gone
    · exact outside out
    · exact left gone

/-- A handler of a session and its `OnDisconnected`, in any order: as long as every step is
timely there is no crash and no statement fails, unless the name of a new room is too long;
once both have finished the user is in no room and what the handler has counted is
counted back. -/
theorem dropped_connection_leaves {setup events : List ServerEvent} {start final : ServerState}
    {session : Nat} {id : String} {message : Message} {kept : Tables}
    (reached : (system collate).run setup fresh = some start) (quiescent : start.Quiescent)
    (flow : Flow collate start session id message kept)
    (ran : (system collate).run (.request session message :: events) start = some final)
    (concerns : ∀ event ∈ events, event.Concerns session)
    (timely : (system collate).Guarded (Timely collate)
      (.request session message :: events) start) :
    final.crash = none ∧ (∀ process ∈ final.processes, process.task.Fits collate final.tables) ∧
      (final.Quiescent → (∃ current ∈ final.sessions[session]?, current.disconnected = true) →
        final.Without collate id kept) := by
  have housed : start.Housed collate := run_housed reached fresh_housed
  obtain ⟨spawned, requested, ran⟩ := System.run_cons_some.mp ran
  have timely := timely.2 spawned requested
  have crash := (step_happens requested).1
  cases flow with
  | @create roomName lobby =>
      obtain ⟨rfl, _⟩ := step_request rfl requested
      obtain ⟨state, found, rfl, connected, lasts, _⟩ := lobby.connection
      refine run_conduct (creating collate _ session state.id roomName start.tables
        (fresh_roomId housed) lobby.unseated) quiescent concerns timely (.spawn _ crash found
        connected lasts) ?_ ?_ ?_ ran
      · exact .outside ⟨rfl, .inr (.inl rfl)⟩ (.inl (.inl rfl))
      · rintro ⟨same, _⟩
        exact lobby.without_of_same same
      · rintro ⟨task, base, room, current, past, staying, left⟩
        exact without_of_create housed lobby past staying left
  | @join roomName lobby =>
      obtain ⟨rfl, _⟩ := step_request rfl requested
      obtain ⟨state, found, rfl, connected, lasts, _⟩ := lobby.connection
      refine run_conduct (joining collate _ session state.id roomName start.tables
        (listed_named housed) lobby.unseated) quiescent concerns timely (.spawn _ crash found
        connected lasts) ?_ ?_ ?_ ran
      · exact .outside ⟨rfl, .inr ⟨_, rfl, rfl, .select⟩⟩ (.inl (.inl rfl))
      · rintro ⟨same, _⟩
        exact lobby.without_of_same same
      · rintro ⟨task, base, room, current, _, staying, left⟩
        exact without_of_join housed quiescent lobby staying left
  | @out roomName room current inRoom =>
      obtain ⟨rfl, _⟩ := step_request rfl requested
      obtain ⟨state, found, rfl, connected, lasts, _⟩ := inRoom.connection
      have below : session < start.tables.seats.length := by
        simpa [tables] using (List.getElem?_eq_some_iff.mp found).1
      have houses : start.tables.Houses collate state.id current.roomId room current :=
        ⟨(Database.bare_selectCurrentRoom ..).trans inRoom.account, inRoom.lists, inRoom.object⟩
      have listed : ∀ {roomId room}, start.tables.listed.lookup roomId = some room →
          ∃ current, start.tables.rooms[room]? = some current := by
        intro roomId room lists
        obtain ⟨other, object, _⟩ := housed.listed lists
        exact ⟨other, object⟩
      refine run_conduct (leaving collate _ session state.id start.tables current.roomId room
        current houses listed rfl inRoom.user below) quiescent concerns timely
        (.spawn _ crash found connected lasts) ?_ ?_ ?_ ran
      · exact .entering ⟨_, rfl, rfl, .select⟩ (.inl rfl)
      · rintro (⟨_, left⟩ | ⟨_, impossible, _⟩)
        · exact without_of_out inRoom left
        · contradiction
      · rintro ⟨_, _, _, _, _, staying, _⟩
        exact staying.elim

end ServerState

namespace ServerState

theorem dropped_connection_leaves_after_addUser :
    let before := [.connect, .connect] ++ handled 0 (.cRegister "a" "p") 0 2 ++
      handled 1 (.cRegister "b" "p") 1 2 ++ handled 1 (.cLogin "b" "p") 2 4 ++
      handled 0 (.cCreateRoom "a" "r") 3 9
    let events := runs 4 8 ++ .disconnect 1 :: (runs 5 11 ++ runs 4 2)
    ∃ start final, (system id).run before fresh = some start ∧
      (system id).run (.request 1 (.cJoinRoom "b" "r") :: events) start = some final ∧
      final.crash = none ∧ final.Without id "b" start.tables := by
  intro before events
  obtain ⟨start, final, reached, quiescent, lobby, ran, timely, finished, ended⟩ :
      ∃ start final, (system id).run before fresh = some start ∧ start.Quiescent ∧
      start.Lobby id 1 "b" ∧
      (system id).run (.request 1 (.cJoinRoom "b" "r") :: events) start = some final ∧
      (system id).Guarded (Timely id) (.request 1 (.cJoinRoom "b" "r") :: events) start ∧
      final.Quiescent ∧ ∃ current ∈ final.sessions[1]?, current.disconnected = true :=
    ⟨_, _, rfl, by decide, ⟨⟨_, rfl, rfl, rfl, rfl, rfl⟩, rfl, by decide⟩, rfl, by decide,
      by decide, _, rfl, rfl⟩
  obtain ⟨crash, _, leaves⟩ :=
    dropped_connection_leaves reached quiescent (.join lobby) ran (by decide) timely
  exact ⟨start, final, reached, ran, crash, leaves finished ended⟩

/-- `OnDisconnected` looks at `_room` between `fetch_add` and `SetRoom` of a
`C_CREATE_ROOM`: both finish and the user stays in the room.  It locks `_room` before
`RemoveUser` of a `C_ROOM_OUT` takes the lock: its own `RemoveUser` crashes. -/
theorem dropped_connection_stays_or_crashes :
    ∃ lobby member left crashed,
      (system id).run (.connect :: handled 0 (.cRegister "a" "p") 0 2 ++
        handled 0 (.cLogin "a" "p") 1 4) fresh = some lobby ∧
      lobby.Quiescent ∧ lobby.Lobby id 0 "a" ∧
      (system id).run (handled 0 (.cCreateRoom "a" "r") 2 6 ++
        .disconnect 0 :: (runs 3 3 ++ runs 2 3)) lobby = some left ∧
      left.Quiescent ∧ (∃ current ∈ left.sessions[0]?, current.disconnected = true) ∧
      (∃ current ∈ left.rooms, "a" ∈ current.users ∧ current.roomState = 1) ∧
      left.db.selectCurrentRoom id "a" = some (some 1) ∧
      (system id).run (handled 0 (.cCreateRoom "a" "r") 2 9) lobby = some member ∧
      member.Quiescent ∧ (∃ room current, member.InRoom id 0 "a" room current) ∧
      (system id).run ([.request 0 (.cRoomOut "a" "r"), .disconnect 0] ++ runs 4 2 ++ runs 3 9 ++
        runs 4 3) member = some crashed ∧
      crashed.crash = some .removeUserFind := by
  refine ⟨_, _, _, _, rfl, by decide, ⟨⟨_, rfl, rfl, rfl, rfl, rfl⟩,
    rfl, by decide⟩, rfl, by decide,
    ⟨_, rfl, rfl⟩, by decide, rfl, rfl, by decide, ⟨0, _, ⟨_, rfl, rfl, rfl, rfl, rfl⟩, rfl, rfl,
      rfl, rfl, ?_⟩, rfl, rfl⟩
  intro place other found distinct
  obtain ⟨below, _⟩ := List.getElem?_eq_some_iff.mp found
  exact absurd (Nat.lt_one_iff.mp below) distinct

end ServerState

end ChattingProgram.Server
