import ChattingProgram.Server.Rooms

namespace ChattingProgram.Server

open ChattingProgram.Protocol ChattingProgram.Machine

/-! # What a handler does to the tables

The part of the state that says who is in which room: the tables `chat.room` and
`chat.account` as far as rooms go, the `Room` objects, `_rooms`, and the sessions.
The rules below are the handlers that change it, one rule for every step.
-/

def AccountRow.bare (self : AccountRow) : AccountRow :=
  { self with password := "", isOnline := false }

/-- The database without passwords, logins and logs. -/
def Database.bare (self : Database) : Database :=
  { self with account := self.account.map AccountRow.bare, log := [] }

structure Tables where
  db : Database
  rooms : List Room
  listed : AList fun _ : Nat => Nat
  seats : List (Option Nat)
  names : List String

def Tables.name (self : Tables) (session : Nat) : String := (self.names[session]?).getD ""

def Tables.setObject (self : Tables) (room : Nat) (next : Room) : Tables :=
  { self with rooms := self.rooms.set room next }

def Tables.seat (self : Tables) (session : Nat) (room : Option Nat) : Tables :=
  { self with seats := self.seats.modify session fun _ => room }

/-- The steps of `RemoveUser`; without a goal it returns. -/
inductive RemoveStep (collate : String → String) (room : Nat) (userId : String) (tables : Tables) :
    RemovePc → Option RemovePc → Tables → Prop where
  | updateAccount {current : Room} {db : Database} : tables.rooms[room]? = some current →
      current.locked = false → tables.db.updateCurrentRoom collate userId none = some db →
      RemoveStep collate room userId tables .updateAccount (some .updateRoom)
        ({ tables with db := db }.setObject room { current with locked := true })
  | updateRoom {current : Room} : tables.rooms[room]? = some current →
      RemoveStep collate room userId tables .updateRoom (some .erase)
        { tables with db := tables.db.addUserCount current.roomId (-1) }
  | erase {current : Room} {user : Nat} : tables.rooms[room]? = some current →
      current.users.lookup userId = some user →
      RemoveStep collate room userId tables .erase (some .fetchSub)
        ((tables.seat user none).setObject room { current with
          users := current.users.erase userId })
  | fetchSub {current : Room} : tables.rooms[room]? = some current →
      RemoveStep collate room userId tables .fetchSub (some .cas)
        (tables.setObject room { current with roomState := current.roomState - 1 })
  | destroy {current : Room} : tables.rooms[room]? = some current → current.roomState = 0 →
      RemoveStep collate room userId tables .cas (some .delete)
        (tables.setObject room { current with roomState := destruction })
  | keep {current : Room} : tables.rooms[room]? = some current → current.roomState ≠ 0 →
      RemoveStep collate room userId tables .cas (some .select) tables
  | delete {current : Room} : tables.rooms[room]? = some current →
      RemoveStep collate room userId tables .delete (some .removeRoom)
        { tables with db := tables.db.deleteRoom current.roomId }
  | removeRoom {current : Room} {place : Nat} : tables.rooms[room]? = some current →
      tables.listed.lookup current.roomId = some place →
      RemoveStep collate room userId tables .removeRoom none
        ({ tables with listed := tables.listed.erase current.roomId }.setObject room
          { current with locked := false })
  | select {userIds : List String} :
      RemoveStep collate room userId tables .select (some (.broadcast userIds)) tables
  | broadcast {current : Room} {userIds : List String} : tables.rooms[room]? = some current →
      RemoveStep collate room userId tables (.broadcast userIds) none
        (tables.setObject room { current with locked := false })

/-- The assertions of `RemoveUser` that fail. -/
def RemoveFails (room : Nat) (userId : String) (tables : Tables) : RemovePc → Prop
  | .erase => ∃ current, tables.rooms[room]? = some current ∧ current.users.lookup userId = none
  | .removeRoom =>
      ∃ current, tables.rooms[room]? = some current ∧ tables.listed.lookup current.roomId = none
  | _ => False

inductive CreateStep (collate : String → String) (session : Nat) (id roomName : String)
    (tables : Tables) : CreatePc → Option CreatePc → Tables → Prop where
  | refuse : (tables.db.selectRoomId collate roomName).isSome = true →
      CreateStep collate session id roomName tables .select (some (.reply false)) tables
  | accept : tables.db.selectRoomId collate roomName = none →
      CreateStep collate session id roomName tables .select (some .insert) tables
  | insert {db : Database} : tables.db.insertRoom collate roomName = some db →
      CreateStep collate session id roomName tables .insert (some .selectId)
      { tables with db := db }
  | selectId {roomId : Nat} : tables.db.selectRoomId collate roomName = some roomId →
      CreateStep collate session id roomName tables .selectId (some (.updateAccount roomId)) tables
  | updateAccount {roomId : Nat} {db : Database} :
      tables.db.updateCurrentRoom collate id (some roomId) = some db →
      CreateStep collate session id roomName tables (.updateAccount roomId)
        (some (.makeRoom roomId)) { tables with db := db }
  | makeRoom {roomId : Nat} :
      CreateStep collate session id roomName tables (.makeRoom roomId)
        (some (.fetchAdd tables.rooms.length))
        { tables with rooms := tables.rooms ++ [⟨roomId, AList.insert id session ∅, 0, false⟩] }
  | fetchAdd {room : Nat} {current : Room} : tables.rooms[room]? = some current →
      CreateStep collate session id roomName tables (.fetchAdd room) (some (.setRoom room))
        (tables.setObject room { current with roomState := current.roomState + 1 })
  | setRoom {room : Nat} :
      CreateStep collate session id roomName tables (.setRoom room) (some (.addRoom room))
        (tables.seat session (some room))
  | addRoom {room : Nat} {current : Room} : tables.rooms[room]? = some current →
      CreateStep collate session id roomName tables (.addRoom room) (some (.reply true))
        { tables with listed := tables.listed.insert current.roomId room }
  | reply {canCreate : Bool} : CreateStep collate session id roomName tables
    (.reply canCreate) none tables

def CreateFails (collate : String → String) (roomName : String) (tables : Tables) : CreatePc → Prop
  | .selectId => tables.db.selectRoomId collate roomName = none
  | _ => False

/-- The statements that do not return. -/
def CreateHangs (collate : String → String) (id roomName : String) (tables : Tables) : CreatePc →
    Prop
  | .insert => tables.db.insertRoom collate roomName = none
  | .updateAccount roomId => tables.db.updateCurrentRoom collate id (some roomId) = none
  | _ => False

inductive JoinStep (collate : String → String) (session : Nat) (id roomName : String)
    (tables : Tables) : JoinPc → Option JoinPc → Tables → Prop where
  | select {roomId : Nat} : tables.db.selectRoomId collate roomName = some roomId →
      JoinStep collate session id roomName tables .select (some (.getRoom roomId)) tables
  | unknown : tables.db.selectRoomId collate roomName = none →
      JoinStep collate session id roomName tables .select (some (.reply none false [])) tables
  | getRoom {roomId room : Nat} : tables.listed.lookup roomId = some room →
      JoinStep collate session id roomName tables (.getRoom roomId)
      (some (.load roomId room)) tables
  | unlisted {roomId : Nat} : tables.listed.lookup roomId = none →
      JoinStep collate session id roomName tables (.getRoom roomId)
      (some (.reply none false [])) tables
  | load {roomId room : Nat} {current : Room} : tables.rooms[room]? = some current →
      current.roomState ≠ destruction →
      JoinStep collate session id roomName tables (.load roomId room)
        (some (.cas roomId room current.roomState)) tables
  | refuse {roomId room : Nat} {current : Room} : tables.rooms[room]? = some current →
      current.roomState = destruction →
      JoinStep collate session id roomName tables (.load roomId room)
      (some (.reply (some room) false [])) tables
  | cas {roomId room : Nat} {state : Int} {current : Room} : tables.rooms[room]? = some current →
      current.roomState = state →
      JoinStep collate session id roomName tables (.cas roomId room state)
        (some (.updateAccount roomId room))
        (tables.setObject room { current with roomState := state + 1 })
  | again {roomId room : Nat} {state : Int} {current : Room} : tables.rooms[room]? = some current →
      current.roomState ≠ state → current.roomState ≠ destruction →
      JoinStep collate session id roomName tables (.cas roomId room state)
        (some (.cas roomId room current.roomState)) tables
  | lost {roomId room : Nat} {state : Int} {current : Room} : tables.rooms[room]? = some current →
      current.roomState ≠ state → current.roomState = destruction →
      JoinStep collate session id roomName tables (.cas roomId room state)
        (some (.reply (some room) false [])) tables
  | updateAccount {roomId room : Nat} {db : Database} :
      tables.db.updateCurrentRoom collate id (some roomId) = some db →
      JoinStep collate session id roomName tables (.updateAccount roomId room)
        (some (.updateRoom roomId room)) { tables with db := db }
  | updateRoom {roomId room : Nat} :
      JoinStep collate session id roomName tables (.updateRoom roomId room)
        (some (.selectMembers roomId room)) { tables with db := tables.db.addUserCount roomId 1 }
  | selectMembers {roomId room : Nat} {userIds : List String} :
      JoinStep collate session id roomName tables (.selectMembers roomId room)
      (some (.addUser room userIds)) tables
  | miss {room : Nat} {userIds : List String} {current : Room} :
      tables.rooms[room]? = some current → current.users.entries = [] →
      JoinStep collate session id roomName tables (.addUser room userIds)
      (some (.broadcast room userIds)) tables
  | addUser {room : Nat} {userIds : List String} {current : Room} :
      tables.rooms[room]? = some current → current.users.entries ≠ [] →
      JoinStep collate session id roomName tables (.addUser room userIds)
        (some (.broadcast room userIds))
        ((tables.setObject room { current with users := current.users.insert id session }).seat
        session (some room))
  | broadcast {room : Nat} {userIds : List String} :
      JoinStep collate session id roomName tables (.broadcast room userIds)
        (some (.reply (some room) true userIds)) tables
  | reply {room : Option Nat} {canJoin : Bool} {userIds : List String} :
      JoinStep collate session id roomName tables (.reply room canJoin userIds) none tables

def JoinHangs (collate : String → String) (id : String) (tables : Tables) : JoinPc → Prop
  | .updateAccount roomId _ => tables.db.updateCurrentRoom collate id (some roomId) = none
  | _ => False

/-- A call of `AddUser` finds a user in the room. -/
def Task.Finds (tables : Tables) : Task → Prop
  | .joinRoom _ _ (.addUser room _) => ∀ current ∈ tables.rooms[room]?, current.users.entries ≠ []
  | _ => True

instance (tables : Tables) (task : Task) : Decidable (task.Finds tables) := by
  unfold Task.Finds
  split <;> infer_instance

inductive OutStep (collate : String → String) (id : String) (tables : Tables) :
    OutPc → Option OutPc → Tables → Prop where
  | select {roomId : Nat} : tables.db.selectCurrentRoom collate id = some (some roomId) →
      OutStep collate id tables .select (some (.getRoom roomId)) tables
  | getRoom {roomId room : Nat} : tables.listed.lookup roomId = some room →
      OutStep collate id tables (.getRoom roomId) (some (.remove room .updateAccount)) tables
  | remove {room : Nat} {pc : RemovePc} {goal : Option RemovePc} {after : Tables} :
      RemoveStep collate room id tables pc goal after →
      OutStep collate id tables (.remove room pc)
      (some (goal.elim (.reply room) (.remove room))) after
  | reply {room : Nat} : OutStep collate id tables (.reply room) none tables

def OutFails (collate : String → String) (id : String) (tables : Tables) : OutPc → Prop
  | .select => ∀ roomId, tables.db.selectCurrentRoom collate id ≠ some (some roomId)
  | .getRoom roomId => tables.listed.lookup roomId = none
  | .remove room pc => RemoveFails room id tables pc
  | .reply _ => False

section Names

variable {collate : String → String} {session room : Nat} {id roomName : String}
  {tables after : Tables}

theorem RemoveStep.names (rule : RemoveStep collate room id tables pc goal after) :
    after.names = tables.names := by
  cases rule <;> rfl

theorem CreateStep.names (rule : CreateStep collate session id roomName tables pc goal after) :
    after.names = tables.names := by
  cases rule <;> rfl

theorem JoinStep.names (rule : JoinStep collate session id roomName tables pc goal after) :
    after.names = tables.names := by
  cases rule <;> rfl

end Names

namespace Database

@[simp] theorem bare_room (self : Database) : self.bare.room = self.room := rfl

theorem bare_updateCurrentRoom (collate : String → String) (self : Database) (id : String)
    (roomId : Option Nat) :
    self.bare.updateCurrentRoom collate id roomId =
      (self.updateCurrentRoom collate id roomId).map bare := by
  have same : (∃ row ∈ self.bare.account, collate row.id = collate id) ↔
      ∃ row ∈ self.account, collate row.id = collate id := by
    simp [bare, AccountRow.bare]
  simp only [updateCurrentRoom, same, bare_room]
  by_cases dangles : (∃ row ∈ self.account, collate row.id = collate id) ∧
      ∃ target ∈ roomId, ∀ row ∈ self.room, row.roomId ≠ target
  · rw [if_pos dangles, if_pos dangles]
    rfl
  · rw [if_neg dangles, if_neg dangles]
    simp only [bare, Option.map_some, Option.some.injEq, Database.mk.injEq, List.map_map,
      true_and, and_true]
    refine List.map_congr_left fun row _ => ?_
    by_cases named : collate row.id = collate id <;> simp [AccountRow.bare, named]

theorem bare_updateOnline (collate : String → String) (self : Database) (id : String)
    (isOnline : Bool) : (self.updateOnline collate id isOnline).bare = self.bare := by
  simp only [bare, updateOnline, List.map_map, Database.mk.injEq, true_and, and_true]
  refine List.map_congr_left fun row _ => ?_
  by_cases named : collate row.id = collate id <;> simp [AccountRow.bare, named]

theorem bare_insertRoom (collate : String → String) (self : Database) (roomName : String) :
    self.bare.insertRoom collate roomName = (self.insertRoom collate roomName).map bare := by
  by_cases taken : 30 < roomName.length ∨ ∃ row ∈ self.room, collate row.roomName = collate roomName
  · have fails : self.insertRoom collate roomName = none := if_pos taken
    rw [fails]
    exact if_pos taken
  · have inserts : self.insertRoom collate roomName = some _ := if_neg taken
    rw [inserts]
    exact if_neg taken

theorem bare_insertLog {collate : String → String} {self : Database} {id : String}
    (inserted : self.insertLog collate id roomId message = some after) :
    after.bare = self.bare := by
  simp only [insertLog, Option.ite_none_right_eq_some] at inserted
  cases inserted.2
  rfl

theorem bare_selectCurrentRoom (collate : String → String) (self : Database) (id : String) :
    self.bare.selectCurrentRoom collate id = self.selectCurrentRoom collate id := by
  simp only [selectCurrentRoom, bare, List.find?_map, Option.map_map]
  rfl

theorem bare_deleteRoom (self : Database) (roomId : Nat) :
    (self.deleteRoom roomId).bare = self.bare.deleteRoom roomId := by
  by_cases empty : ∃ row ∈ self.room, row.roomId = roomId ∧ row.userCount ≤ 0
  · have deletes : self.deleteRoom roomId = _ := if_pos empty
    have deletesBare : self.bare.deleteRoom roomId = _ := if_pos empty
    rw [deletes, deletesBare]
    simp only [bare, List.filter_nil, Database.mk.injEq, List.map_map, true_and, and_true]
    refine List.map_congr_left fun row _ => ?_
    by_cases here : row.currentRoomId = some roomId <;> simp [AccountRow.bare, here]
  · have keeps : self.deleteRoom roomId = self := if_neg empty
    have keepsBare : self.bare.deleteRoom roomId = self.bare := if_neg empty
    rw [keeps, keepsBare]

end Database

namespace ServerState

def tables (self : ServerState) : Tables where
  db := self.db.bare
  rooms := self.rooms
  listed := self.listed
  seats := self.sessions.map ClientSession.room
  names := self.sessions.map ClientSession.id

variable {collate : String → String} {self after changed : ServerState} {index session : Nat}

/-- Every call of `AddUser` finds a user in the room. -/
def FindsUsers : ServerEvent → ServerState → Prop
  | .run index, self => ∀ process ∈ self.processes[index]?, process.task.Finds self.tables
  | _, _ => True

instance (self : ServerState) : ∀ event, Decidable (FindsUsers event self)
  | .run index =>
      inferInstanceAs (Decidable (∀ process ∈ self.processes[index]?,
        process.task.Finds self.tables))
  | .connect | .request .. | .disconnect _ => .isTrue trivial

theorem tables_put (process : Process) : (self.put index process).tables = self.tables := rfl

theorem tables_setRoomObject (room : Nat) (next : Room) :
    (self.setRoomObject room next).tables = self.tables.setObject room next := rfl

theorem tables_modifySession {change : ClientSession → ClientSession}
    (room : ∀ current, (change current).room = current.room)
    (id : ∀ current, (change current).id = current.id) :
    (self.modifySession session change).tables = self.tables := by
  simp only [tables, modifySession, map_modify room, map_modify id]

theorem Queues.tables (queues : Queues self changed) : changed.tables = self.tables := by
  have seats : changed.sessions.map ClientSession.room = self.sessions.map ClientSession.room :=
    queues.map fun _ => rfl
  have names : changed.sessions.map ClientSession.id = self.sessions.map ClientSession.id :=
    queues.map fun _ => rfl
  rw [queues.rest]
  simp only [ServerState.tables, seats, names]

theorem tables_setRoom (self : ServerState) (session : Nat) (room : Option Nat) :
    (self.setRoom session room).tables = self.tables.seat session room := by
  have seats := congrArg House.seats (house_setRoom self session room)
  simp only [tables, Tables.seat, setRoom, modifySession, Tables.mk.injEq, true_and]
  exact ⟨seats, map_modify fun _ => rfl⟩

theorem name_eq_sessionId (self : ServerState) (session : Nat) :
    self.tables.name session = self.sessionId session := by
  simp only [Tables.name, tables, List.getElem?_map, sessionId]

section Steps

theorem advance_of_step (found : self.processes[index]? = some ⟨session, task⟩)
    (stepped : (system collate).step (.run index) self = some after) :
    self.crash = none ∧ self.advance collate index session task = some after := by
  obtain ⟨running, happens⟩ := step_happens stepped
  cases happens with
  | run other advanced =>
      cases found.symm.trans other
      exact ⟨running, advanced⟩

theorem step_of_advance (running : self.crash = none)
    (found : self.processes[index]? = some ⟨session, task⟩)
    (advanced : self.advance collate index session task = some after) :
    (system collate).step (.run index) self = some after := by
  simp only [system, step, running, found, Option.bind_some, advanced]
  rfl

theorem found_of_run (stepped : (system collate).step (.run index) self = some after) :
    ∃ process, self.processes[index]? = some process := by
  cases (step_happens stepped).2 with
  | run found _ => exact ⟨_, found⟩

theorem step_request (handles : handler message = some task)
    (stepped : (system collate).step (.request session message) self = some after) :
    after = self.spawn session task ∧ session < self.sessions.length := by
  cases (step_happens stepped).2 with
  | request within other =>
      cases handles.symm.trans other
      exact ⟨rfl, within⟩

theorem found_spawn (self : ServerState) (session : Nat) (task : Task) :
    (self.spawn session task).processes[self.processes.length]? = some ⟨session, task⟩ := by
  simp [spawn]

/-- What a step of a handler comes to: an assertion that fails, or a rule. -/
def Outcome (index session : Nat) (self after : ServerState) (Fails : Prop) (Rule : Task →
    Tables → Prop) : Prop :=
  (Fails ∧ ∃ cause, after = self.crashed cause) ∨ ∃ next, Rule next after.tables ∧
    Goes index session next self after

theorem RemoveTurn.tables (turn : RemoveTurn collate self room userId pc goal changed) :
    RemoveStep collate room userId self.tables pc goal changed.tables := by
  cases turn with
  | updateAccount object free updated =>
      refine .updateAccount object free ?_
      rw [ServerState.tables, Database.bare_updateCurrentRoom, updated]
      rfl
  | updateRoom object => exact .updateRoom object
  | @erase _ user object isUser =>
      have rule : RemoveStep collate room userId self.tables .erase (some .fetchSub) _ :=
        .erase object isUser
      rw [← tables_setRoom] at rule
      exact rule
  | fetchSub object => exact .fetchSub object
  | destroy object empty => exact .destroy object empty
  | keep object used => exact .keep object used
  | delete object =>
      have rule : RemoveStep collate room userId self.tables .delete (some .removeRoom) _ :=
        .delete object
      simp only [ServerState.tables, ← Database.bare_deleteRoom] at rule
      exact rule
  | removeRoom object lists => exact .removeRoom object lists
  | select => exact .select
  | broadcast object =>
      rw [tables_setRoomObject, (refresh_queues ..).tables]
      exact .broadcast object

theorem advanceRemove_tables {resume : RemovePc → Task}
    (stepped : self.advanceRemove collate index session room userId resume finished pc =
      some after) :
    Outcome index session self after (RemoveFails room userId self.tables pc) fun next tables =>
      ∃ goal, next = goal.elim finished resume ∧
        RemoveStep collate room userId self.tables pc goal tables := by
  rcases advanceRemove_turn stepped with ⟨cause, stops, rfl⟩ | ⟨goal, changed, turn, rfl⟩
  · refine .inl ⟨?_, cause, rfl⟩
    cases stops with
    | find object missing | removeRoom object missing => exact ⟨_, object, missing⟩
  · exact .inr ⟨_, ⟨goal, rfl, turn.tables⟩, turn.goes _⟩

theorem Turn.createTables {id : String}
    (turn : Turn collate self session (.createRoom id roomName pc) next changed) :
    ∃ goal, next = goal.elim .done (.createRoom id roomName) ∧
      CreateStep collate session id roomName self.tables pc goal changed.tables := by
  cases turn with
  | reply answers =>
      cases pc <;> cases answers
      rw [(send_queues ..).tables]
      exact ⟨none, rfl, .reply⟩
  | noCreate _ taken => exact ⟨some _, rfl, .refuse taken⟩
  | create _ free => exact ⟨some _, rfl, .accept free⟩
  | insertRoom inserted =>
      have bare := Database.bare_insertRoom collate self.db roomName
      rw [inserted] at bare
      exact ⟨some _, rfl, .insert bare⟩
  | selectId selected => exact ⟨some _, rfl, .selectId selected⟩
  | @settle _ _ roomId _ updated =>
      have bare := Database.bare_updateCurrentRoom collate self.db id (some roomId)
      rw [updated] at bare
      exact ⟨some _, rfl, .updateAccount bare⟩
  | makeRoom => exact ⟨some _, rfl, .makeRoom⟩
  | fetchAdd object => exact ⟨some _, rfl, .fetchAdd object⟩
  | @setRoom _ _ room =>
      rw [tables_setRoom]
      exact ⟨some _, rfl, .setRoom⟩
  | addRoom object => exact ⟨some _, rfl, .addRoom object⟩

theorem advanceCreateRoom_tables {id : String}
    (stepped : self.advanceCreateRoom collate index session id roomName pc = some after) :
    Outcome index session self after (CreateFails collate roomName self.tables pc)
      fun next tables =>
      ∃ goal, next = goal.elim .done (.createRoom id roomName) ∧
        CreateStep collate session id roomName self.tables pc goal tables := by
  rcases advanceCreateRoom_turn stepped with ⟨cause, stops, rfl⟩ | ⟨next, changed, turn, rfl⟩
  · cases stops with
    | createFetch fails => exact .inl ⟨fails, _, rfl⟩
  · exact .inr ⟨next, turn.createTables, turn.goes⟩

theorem advanceJoinRoom_tables {id : String}
    (stepped : self.advanceJoinRoom collate index session id roomName pc = some after) :
    ∃ next, (∃ goal, next = goal.elim .done (.joinRoom id roomName) ∧
        JoinStep collate session id roomName self.tables pc goal after.tables) ∧
      Goes index session next self after := by
  rcases advanceJoinRoom_turn stepped with ⟨cause, stops, rfl⟩ | ⟨next, changed, turn, rfl⟩
  · contradiction
  refine ⟨next, ?_, turn.goes⟩
  cases turn with
  | reply answers =>
      cases pc <;> cases answers
      rw [tables_put, (send_queues ..).tables]
      exact ⟨none, rfl, .reply⟩
  | joinSelect selected => exact ⟨some _, rfl, .select selected⟩
  | unknown selected => exact ⟨some _, rfl, .unknown selected⟩
  | joinGetRoom lists => exact ⟨some _, rfl, .getRoom lists⟩
  | unlisted lists => exact ⟨some _, rfl, .unlisted lists⟩
  | load object alive => exact ⟨some _, rfl, .load object alive⟩
  | refuse object dead => exact ⟨some _, rfl, .refuse object dead⟩
  | cas object same => exact ⟨some _, rfl, .cas object same⟩
  | again object other alive => exact ⟨some _, rfl, .again object other alive⟩
  | lost object other dead => exact ⟨some _, rfl, .lost object other dead⟩
  | @enter _ _ roomId _ _ updated =>
      have bare := Database.bare_updateCurrentRoom collate self.db id (some roomId)
      rw [updated] at bare
      exact ⟨some _, rfl, .updateAccount bare⟩
  | count => exact ⟨some _, rfl, .updateRoom⟩
  | selectMembers => exact ⟨some _, rfl, .selectMembers⟩
  | miss object _ users => exact ⟨some _, rfl, .miss object users⟩
  | addUser object _ users =>
      rw [tables_put, tables_setRoom]
      exact ⟨some _, rfl, .addUser object users⟩
  | welcome =>
      rw [tables_put, (broadCast_queues ..).tables]
      exact ⟨some _, rfl, .broadcast⟩

theorem advanceRoomOut_tables {id : String}
    (stepped : self.advanceRoomOut collate index session id pc = some after) :
    Outcome index session self after (OutFails collate id self.tables pc) fun next tables =>
      ∃ goal, next = goal.elim .done (.roomOut id) ∧
        OutStep collate id self.tables pc goal tables := by
  have bare := Database.bare_selectCurrentRoom collate self.db id
  rcases advanceRoomOut_turn stepped with ⟨cause, stops, rfl⟩ | ⟨next, changed, turn, rfl⟩
  · refine .inl ⟨?_, cause, rfl⟩
    cases stops with
    | outFetch fails | outNull fails => simp [OutFails, tables, bare, fails]
    | outRoom missing => exact missing
    | leave stops =>
        cases stops with
        | find object missing | removeRoom object missing => exact ⟨_, object, missing⟩
  refine .inr ⟨next, ?_, turn.goes⟩
  cases turn with
  | reply answers =>
      cases pc <;> cases answers
      rw [tables_put, (send_queues ..).tables]
      exact ⟨none, rfl, .reply⟩
  | outSelect selected => exact ⟨some _, rfl, .select (bare.trans selected)⟩
  | outGetRoom lists => exact ⟨some _, rfl, .getRoom lists⟩
  | @leave _ _ _ goal _ turn => exact ⟨_, by cases goal <;> rfl, .remove turn.tables⟩

end Steps

end ServerState

end ChattingProgram.Server
