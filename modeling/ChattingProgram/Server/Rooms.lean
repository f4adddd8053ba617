import ChattingProgram.Server.House
import ChattingProgram.Server.Steps

namespace ChattingProgram.Server

open ChattingProgram.Protocol ChattingProgram.Machine

/-! # Rooms on the server

The server makes moves of the house: every step of a handler is an act of the
room that it refers to, or leaves all rooms alone.
-/

def RemovePc.stage : RemovePc → Stage
  | .updateAccount => .visiting
  | .updateRoom => .inside
  | .erase => .decremented
  | .fetchSub => .erased
  | .cas => .deciding
  | .delete => .deleting
  | .removeRoom => .unlisting
  | .select | .broadcast _ => .leaving

def Task.activity : Task → Activity
  | .createRoom _ roomName .selectId => .naming roomName
  | .createRoom _ _ (.updateAccount roomId) | .createRoom _ _ (.makeRoom roomId) => .building roomId
  | .createRoom _ _ (.fetchAdd room) => .on room none .constructing
  | .createRoom _ _ (.setRoom room) => .on room none .constructed
  | .createRoom _ _ (.addRoom room) => .on room none .listing
  | .joinRoom _ _ (.load roomId room) => .on room (some roomId) .visiting
  | .joinRoom _ _ (.cas roomId room state) => .proposing roomId room state
  | .joinRoom _ _ (.updateAccount roomId room) | .joinRoom _ _ (.updateRoom roomId room) =>
      .on room (some roomId) .admitted
  | .joinRoom _ _ (.selectMembers _ room) | .joinRoom _ _ (.addUser room _) => .on room none .joined
  | .roomOut _ (.remove room pc) | .onDisconnected (.remove room pc) => .on room none pc.stage
  | _ => .outside

namespace Database

variable {collate : String → String} {self after : Database}

theorem updateCurrentRoom_room {id : String}
    (updated : self.updateCurrentRoom collate id roomId = some after) :
    after.room = self.room ∧ after.nextRoomId = self.nextRoomId := by
  simp only [updateCurrentRoom] at updated
  split at updated
  · contradiction
  · cases updated
    exact ⟨rfl, rfl⟩

theorem insertLog_room {id : String}
    (inserted : self.insertLog collate id roomId message = some after) :
    after.room = self.room ∧ after.nextRoomId = self.nextRoomId := by
  simp only [insertLog] at inserted
  split at inserted
  · cases inserted
    exact ⟨rfl, rfl⟩
  · contradiction

theorem insertAccount_room {id : String}
    (inserted : self.insertAccount collate id password = some after) :
    after.room = self.room ∧ after.nextRoomId = self.nextRoomId := by
  simp only [insertAccount] at inserted
  split at inserted
  · contradiction
  · cases inserted
    exact ⟨rfl, rfl⟩

theorem insertRoom_room (inserted : self.insertRoom collate roomName = some after) :
    (∀ row ∈ self.room, collate row.roomName ≠ collate roomName) ∧
      after.room = self.room ++ [⟨self.nextRoomId, roomName, 1⟩] ∧
        after.nextRoomId = self.nextRoomId + 1 := by
  simp only [insertRoom] at inserted
  split at inserted
  · contradiction
  · rename_i unused
    cases inserted
    refine ⟨?_, rfl, rfl⟩
    intro row member named
    exact unused (.inr ⟨row, member, named⟩)

theorem deleteRoom_room (self : Database) (roomId : Nat) :
    (self.deleteRoom roomId).room = RowEffect.delete.apply roomId self.room ∧
    (self.deleteRoom roomId).nextRoomId = self.nextRoomId := by
  simp only [deleteRoom, RowEffect.apply]
  split
  · exact ⟨rfl, rfl⟩
  · rename_i missing
    refine ⟨(List.filter_eq_self.mpr ?_).symm, rfl⟩
    intro row member
    have keeps : ¬ (row.roomId = roomId ∧ row.userCount ≤ 0) := fun both =>
      missing ⟨row, member, both⟩
    exact decide_eq_true keeps

end Database

namespace ServerState

def house (self : ServerState) : House where
  rows := self.db.room
  nextRoomId := self.db.nextRoomId
  rooms := self.rooms
  listed := self.listed
  seats := self.sessions.map ClientSession.room
  activities := self.processes.map fun process => process.task.activity

section House

variable {collate : String → String} {self after changed : ServerState} {index session : Nat}

theorem house_found (found : self.processes[index]? = some ⟨session, task⟩) :
    self.house.activities[index]? = some task.activity := by
  simp only [house, List.getElem?_map, found, Option.map_some]

theorem house_put (task : Task) : (self.put index ⟨session, task⟩).house =
    { self.house with activities := self.house.activities.set index task.activity } := by
  simp only [house, put, List.map_set]

theorem house_spawn (self : ServerState) (session : Nat) (task : Task) :
    (self.spawn session task).house =
    { self.house with activities := self.house.activities ++ [task.activity] } := by
  simp only [house, spawn, List.map_append, List.map_cons, List.map_nil]

theorem house_modifySession {change : ClientSession → ClientSession}
    (same : ∀ current, (change current).room = current.room) :
    (self.modifySession session change).house = self.house := by
  simp only [house, modifySession, House.mk.injEq, true_and, and_true]
  apply List.ext_getElem?
  intro place
  rw [List.getElem?_map, List.getElem?_map, List.getElem?_modify]
  cases self.sessions[place]? with
  | none => rfl
  | some current => by_cases here : session = place <;> simp [here, same current]

theorem Queues.house (queues : Queues self changed) : changed.house = self.house := by
  have seats : changed.sessions.map ClientSession.room = self.sessions.map ClientSession.room :=
    queues.map fun _ => rfl
  rw [queues.rest]
  simp only [ServerState.house, seats]

/-- A step that changes no room and nothing that its process has to do with one. -/
theorem house_stutter {next : Task} (found : self.processes[index]? = some ⟨session, task⟩)
    (unchanged : changed.house = self.house) (same : next.activity = task.activity) :
    (changed.put index ⟨session, next⟩).house = self.house := by
  rw [house_put, unchanged, same]
  have still : self.house.activities.set index task.activity = self.house.activities :=
    set_same (house_found found)
  rw [still]

theorem house_db {db : Database} (room : db.room = self.db.room)
    (next : db.nextRoomId = self.db.nextRoomId) : { self with db := db }.house = self.house := by
  simp only [house, room, next]

theorem activity_reply {task : Task} (answers : task.reply = some message) :
    Task.done.activity = task.activity := by
  unfold Task.reply at answers
  split at answers <;> first | rfl | contradiction

/-! ## Acts -/

theorem move_of_same (same : after.house = self.house) :
    House.Move collate self.house after.house := by
  rw [same]
  exact .stutter _

theorem move_stutter {next : Task} (found : self.processes[index]? = some ⟨session, task⟩)
    (unchanged : changed.house = self.house) (same : next.activity = task.activity) :
    House.Move collate self.house (changed.put index ⟨session, next⟩).house :=
  move_of_same (house_stutter found unchanged same)

theorem seating_same : House.Seating stage room seats seats := fun _ seat => .inl seat

theorem house_setRoom (self : ServerState) (session : Nat) (room : Option Nat) :
    (self.setRoom session room).house =
      { self.house with seats := self.house.seats.modify session fun _ => room } := by
  simp only [house, setRoom, modifySession, House.mk.injEq, true_and, and_true]
  apply List.ext_getElem?
  intro place
  rw [List.getElem?_map, List.getElem?_modify, List.getElem?_modify, List.getElem?_map]
  cases self.sessions[place]? with
  | none => rfl
  | some current => by_cases here : session = place <;> simp [here]

theorem mem_modify {seats : List (Option Nat)}
    (member : some other ∈ seats.modify place fun _ => seat) :
    some other ∈ seats ∨ seat = some other := by
  obtain ⟨index, found⟩ := List.mem_iff_getElem?.mp member
  rw [List.getElem?_modify] at found
  obtain ⟨prior, priorFound, changed⟩ := Option.map_eq_some_iff.mp found
  split at changed
  · exact .inr changed
  · exact .inl (changed ▸ List.mem_of_getElem? priorFound)

/-- A step that is an act of one room. -/
theorem act_move {next : Task} (found : self.processes[index]? = some ⟨session, task⟩)
    (placed : task.activity.place = some (room, stage))
    (object : self.rooms[room]? = some current)
    (acts : Act stage (next.activity.place.map Prod.snd) current changedRoom effect listing)
    (stays : ∀ other, next.activity.place = some other → other.1 = room)
    (knows : ∀ roomId, next.activity.known = some roomId → task.activity.known = some roomId)
    (ready : ∀ roomId room state, next.activity = .proposing roomId room state →
      state ≠ destruction) (buildless : ∀ rows, next.activity.builds collate rows = none)
    (unlists : listing = .erase → self.listed.lookup current.roomId = some room)
    (seating : House.Seating stage room self.house.seats seats)
    (view : changed.house = { self.house with
      rows := effect.apply current.roomId self.house.rows
      rooms := self.house.rooms.set room changedRoom
      listed := listing.apply current.roomId room self.house.listed
      seats := seats }) :
    House.Move collate self.house (changed.put index ⟨session, next⟩).house := by
  have move := House.Move.act self.house (house_found found) placed object acts stays knows ready
    buildless unlists seating
  rw [house_put, view]
  exact move

/-- The activity of a process that an act leaves at a stage of its room, or
outside. -/
def towards (room : Nat) : Option Stage → Activity
  | some stage => .on room none stage
  | none => .outside

theorem act_towards {next : Task} (found : self.processes[index]? = some ⟨session, task⟩)
    (placed : task.activity.place = some (room, stage))
    (object : self.rooms[room]? = some current)
    (acts : Act stage goal current changedRoom effect listing)
    (goes : next.activity = towards room goal)
    (unlists : listing = .erase → self.listed.lookup current.roomId = some room)
    (seating : House.Seating stage room self.house.seats seats)
    (view : changed.house = { self.house with
      rows := effect.apply current.roomId self.house.rows
      rooms := self.house.rooms.set room changedRoom
      listed := listing.apply current.roomId room self.house.listed
      seats := seats }) :
    House.Move collate self.house (changed.put index ⟨session, next⟩).house := by
  have reached : next.activity.place.map Prod.snd = goal := by
    rw [goes]
    cases goal <;> rfl
  refine act_move found placed object (reached ▸ acts) ?_ ?_ ?_ ?_ unlists seating view
  all_goals rw [goes]; cases goal <;> simp [towards, Activity.place, Activity.known,
    Activity.builds]

theorem rooms_same (object : self.rooms[room]? = some current) :
    self.house.rooms.set room current = self.house.rooms := set_same object

theorem house_setRoomObject (self : ServerState) (room : Nat) (next : Room) :
    (self.setRoomObject room next).house =
      { self.house with rooms := self.house.rooms.set room next } := rfl

theorem RemoveTurn.house (consistent : House.Consistent collate self.house)
    (task : RemovePc → Task) {finished : Task}
    (found : self.processes[index]? = some ⟨session, task pc⟩)
    (resumes : ∀ pc, (task pc).activity = .on room none pc.stage)
    (finishes : finished.activity = .outside)
    (turn : RemoveTurn collate self room userId pc goal changed) :
    House.Move collate self.house (changed.put index ⟨session, goal.elim finished task⟩).house := by
  have placed : (task pc).activity.place = some (room, pc.stage) := by rw [resumes]; rfl
  cases turn with
  | @updateAccount current _ object free updated =>
      obtain ⟨rows, next⟩ := Database.updateCurrentRoom_room updated
      refine act_towards found placed object (.lock current free) (resumes _)
        (by simp) seating_same ?_
      rw [house_setRoomObject, house_db rows next]
      rfl
  | @updateRoom current object =>
      refine act_towards found placed object (.leaveRow current) (resumes _)
        (by simp) seating_same ?_
      rw [rooms_same object]
      rfl
  | @erase current user object isUser =>
      have member : userId ∈ current.users := AList.lookup_isSome.mp (by simp [isUser])
      have view := house_setRoomObject (self.setRoom user none) room
        { current with users := current.users.erase userId }
      rw [house_setRoom] at view
      refine act_towards found placed object (.eraseUser current userId member) (resumes _)
        (by simp) ?_ view
      intro other seat
      rcases mem_modify seat with old | new
      · exact .inl old
      · contradiction
  | @fetchSub current object =>
      exact act_towards found placed object (.fetchSub current) (resumes _) (by simp)
        seating_same rfl
  | @destroy current object empty =>
      exact act_towards found placed object (.destroy current empty) (resumes _) (by simp)
        seating_same rfl
  | @keep current object =>
      refine act_towards found placed object (.keep current) (resumes _) (by simp) seating_same ?_
      rw [rooms_same object]
      rfl
  | @delete current object =>
      obtain ⟨rows, next⟩ := self.db.deleteRoom_room current.roomId
      refine act_towards found placed object (.delete current) (resumes _) (by simp) seating_same ?_
      rw [rooms_same object]
      simp only [ServerState.house, rows, next]
      rfl
  | @removeRoom current place object lists =>
      obtain ⟨other, otherObject, same⟩ := consistent.listed lists
      have here : place = room := consistent.registry.id_unique otherObject object same
      exact act_towards found placed object (.removeRoom current) finishes (fun _ => here ▸ lists)
        seating_same rfl
  | select => exact move_stutter found rfl (by rw [Option.elim_some, resumes, resumes]; rfl)
  | @broadcast current userIds object =>
      refine act_towards found placed object (.unlock current) finishes (by simp) seating_same ?_
      rw [house_setRoomObject, (refresh_queues self current.users userIds).house]
      rfl

theorem Turn.createHouse (consistent : House.Consistent collate self.house) {id : String}
    (found : self.processes[index]? = some ⟨session, .createRoom id roomName pc⟩)
    (turn : Turn collate self session (.createRoom id roomName pc) next changed) :
    House.Move collate self.house (changed.put index ⟨session, next⟩).house := by
  cases turn with
  | reply answers => exact move_stutter found (send_queues ..).house (activity_reply answers)
  | noCreate | create => exact move_stutter found rfl rfl
  | insertRoom inserted =>
      obtain ⟨unused, rows, next⟩ := Database.insertRoom_room inserted
      rw [house_put]
      simp only [house, rows, next]
      exact .insert self.house (house_found found) unused
  | selectId selected =>
      rw [house_put]
      exact .select self.house (house_found found) selected
  | settle updated =>
      obtain ⟨rows, next⟩ := Database.updateCurrentRoom_room updated
      exact move_stutter found (house_db rows next) rfl
  | makeRoom =>
      rw [house_put]
      exact .make self.house (house_found found)
  | @fetchAdd _ _ _ current object =>
      exact act_towards found rfl object (.fetchAdd current) rfl (by simp) seating_same rfl
  | @setRoom _ _ room =>
      obtain ⟨current, object, _⟩ := (consistent.fits _
        (List.mem_of_getElem? (house_found found))).present rfl
      have view : (self.setRoom session (some room)).house = { self.house with
          rooms := self.house.rooms.set room current
          seats := self.house.seats.modify session fun _ => some room } := by
        rw [rooms_same object]
        exact house_setRoom ..
      refine act_towards found rfl object (.setRoom current) rfl (by simp) ?_ view
      intro other seat
      rcases mem_modify seat with old | new
      · exact .inl old
      · cases new
        exact .inr ⟨rfl, .inl rfl⟩
  | @addRoom _ _ _ current object =>
      refine act_towards found rfl object (.addRoom current) rfl (by simp) seating_same ?_
      rw [rooms_same object]
      rfl

/-- A join handler has read the state of its room and proposes to raise it. -/
theorem propose_move {id : String} (found : self.processes[index]? = some ⟨session, task⟩)
    (placed : task.activity.place = some (room, .visiting))
    (known : task.activity.known = some roomId) (object : self.rooms[room]? = some current)
    (alive : current.roomState ≠ destruction) :
    House.Move collate self.house
      (self.put index ⟨session, .joinRoom id roomName
        (.cas roomId room current.roomState)⟩).house := by
  refine act_move found placed object (.look current) ?_ ?_ ?_ (fun _ => rfl)
    (by simp) seating_same ?_
  · simp [Task.activity, Activity.place]
  · rintro _ ⟨⟩
    exact known
  · intro knownId place state proposes
    cases proposes
    exact alive
  · rw [rooms_same object]
    rfl

theorem Turn.joinHouse (consistent : House.Consistent collate self.house) {id : String}
    (found : self.processes[index]? = some ⟨session, .joinRoom id roomName pc⟩)
    (turn : Turn collate self session (.joinRoom id roomName pc) next changed) :
    House.Move collate self.house (changed.put index ⟨session, next⟩).house := by
  have fits := consistent.fits _ (List.mem_of_getElem? (house_found found))
  cases turn with
  | reply answers => exact move_stutter found (send_queues ..).house (activity_reply answers)
  | joinSelect | unknown | unlisted | selectMembers => exact move_stutter found rfl rfl
  | joinGetRoom lists =>
      rw [house_put]
      exact .find self.house (house_found found) lists (by simp)
  | load object alive => exact propose_move found rfl rfl object alive
  | again object _ alive => exact propose_move found rfl rfl object alive
  | @refuse _ _ _ _ current object | @lost _ _ _ _ _ current object =>
      refine act_towards found rfl object (.refuse current) rfl (by simp) seating_same ?_
      rw [rooms_same object]
      rfl
  | @cas _ _ _ _ _ current object same =>
      have alive : current.roomState ≠ destruction := same ▸ fits.ready rfl
      refine act_move found rfl object (.enter current alive) ?_ ?_ ?_ (fun _ => rfl)
        (by simp) seating_same ?_
      · simp [Task.activity, Activity.place]
      · simp [Task.activity, Activity.known]
      · simp [Task.activity]
      · rw [same]
        rfl
  | enter updated =>
      obtain ⟨rows, next⟩ := Database.updateCurrentRoom_room updated
      exact move_stutter found (house_db rows next) rfl
  | count =>
      obtain ⟨current, object, known⟩ := fits.present rfl
      refine act_towards found rfl object (.joinRow current) rfl (by simp) seating_same ?_
      rw [rooms_same object, known _ rfl]
      rfl
  | @miss _ _ _ _ current object =>
      refine act_towards found rfl object (.miss current) rfl (by simp) seating_same ?_
      rw [rooms_same object]
      rfl
  | @addUser _ _ room _ current object =>
      have view := house_setRoom
        (self.setRoomObject room { current with users := current.users.insert id session })
        session (some room)
      refine act_towards found rfl object (.addUser current id session) rfl (by simp) ?_ view
      intro other seat
      rcases mem_modify seat with old | new
      · exact .inl old
      · cases new
        exact .inr ⟨rfl, .inr rfl⟩
  | welcome => exact move_stutter found (broadCast_queues ..).house rfl

theorem Turn.house (consistent : House.Consistent collate self.house)
    (found : self.processes[index]? = some ⟨session, task⟩)
    (turn : Turn collate self session task next changed) :
    House.Move collate self.house (changed.put index ⟨session, next⟩).house := by
  cases task with
  | createRoom => exact turn.createHouse consistent found
  | joinRoom => exact turn.joinHouse consistent found
  | login =>
      cases turn with
      | reply answers => exact move_stutter found (send_queues ..).house (activity_reply answers)
      | setId => exact move_stutter found (house_modifySession fun _ => rfl) rfl
      | _ => exact move_stutter found rfl rfl
  | register =>
      cases turn with
      | reply answers => exact move_stutter found (send_queues ..).house (activity_reply answers)
      | register inserted =>
          obtain ⟨rows, next⟩ := Database.insertAccount_room inserted
          exact move_stutter found (house_db rows next) rfl
      | noRegister => exact move_stutter found rfl rfl
  | chatLog =>
      cases turn with
      | reply answers => exact move_stutter found (send_queues ..).house (activity_reply answers)
      | insertLog inserted =>
          obtain ⟨rows, next⟩ := Database.insertLog_room inserted
          exact move_stutter found (house_db rows next) rfl
      | chat => exact move_stutter found (broadCast_queues ..).house rfl
      | _ => exact move_stutter found rfl rfl
  | roomOut id =>
      cases turn with
      | reply answers => exact move_stutter found (send_queues ..).house (activity_reply answers)
      | outSelect => exact move_stutter found rfl rfl
      | outGetRoom lists =>
          rw [house_put]
          exact .find self.house (house_found found) lists (by simp)
      | @leave _ room _ _ _ turn =>
          exact turn.house consistent (fun pc => .roomOut id (.remove room pc)) found
            (fun _ => rfl) rfl
  | onDisconnected =>
      cases turn with
      | reply answers => exact move_stutter found (send_queues ..).house (activity_reply answers)
      | offline => exact move_stutter found (house_modifySession fun _ => rfl) rfl
      | expired => exact move_stutter found rfl (by split <;> rfl)
      | lock locks =>
          rw [house_put]
          refine .rise self.house (house_found found) ?_
          obtain ⟨seated, _⟩ := Option.filter_eq_some_iff.mp locks
          obtain ⟨current, placed, seat⟩ := Option.bind_eq_some_iff.mp seated
          exact List.mem_map.mpr ⟨current, List.mem_of_getElem? placed, seat⟩
      | @drop room _ _ _ turn =>
          exact turn.house consistent (fun pc => .onDisconnected (.remove room pc)) found
            (fun _ => rfl) rfl
      | readId => exact move_stutter found rfl rfl
  | refreshLobby | done =>
      cases turn with
      | reply answers => exact move_stutter found (send_queues ..).house (activity_reply answers)
      | _ => exact move_stutter found rfl rfl

theorem activity_handler (handles : handler message = some task) : task.activity = .outside := by
  cases message with
  | cLogin | cRegister | cRefreshLobby | cCreateRoom | cJoinRoom | cChatLog | cRoomOut =>
      cases handles
      rfl
  | sLogin | sRegister | sRefreshLobby | sCreateRoom | sJoinRoom | sRefreshRoom | sChatLog
  | sRoomOut =>
      contradiction

/-- Every step of the server is a move of the house. -/
theorem step_house (consistent : House.Consistent collate self.house)
    (stepped : step collate event self = some after) :
    House.Move collate self.house after.house := by
  cases (step_happens stepped).2 with
  | connect =>
      simp only [house, List.map_append, List.map_cons, List.map_nil]
      exact .connect self.house
  | @request session message task _ handles =>
      rw [house_spawn, activity_handler handles]
      exact .spawn self.house
  | @disconnect session current found _ =>
      have same : (self.modifySession session fun current => { current with
          connected := false }).house = self.house := house_modifySession fun _ => rfl
      rw [house_spawn, same]
      exact .spawn self.house
  | @run index session task _ found stepped =>
      rcases advance_turn stepped with ⟨cause, _, rfl⟩ | ⟨next, changed, turn, rfl⟩
      · exact move_of_same rfl
      · exact turn.house consistent found

/-- The rooms of the server are consistent. -/
def Housed (collate : String → String) (self : ServerState) : Prop :=
  House.Consistent collate self.house

theorem step_housed (stepped : (system collate).step event self = some after)
    (housed : self.Housed collate) : after.Housed collate :=
  (step_house housed stepped).consistent housed

theorem run_housed (ran : (system collate).run events self = some after)
    (housed : self.Housed collate) : after.Housed collate :=
  System.run_preserves step_housed ran housed

theorem fresh_housed : fresh.Housed collate := House.consistent_empty

/-- After the events of `past`. -/
def StatesWithin (collate : String → String) (past : List ServerEvent)
    (self : ServerState) : Prop :=
  self.Housed collate ∧ ∀ room ∈ self.rooms, room.roomState.natAbs ≤ past.length

theorem step_statesWithin (stepped : (system collate).step event self = some after)
    (counts : StatesWithin collate past self) : StatesWithin collate (past ++ [event]) after := by
  refine ⟨step_housed stepped counts.1, ?_⟩
  rw [List.length_append]
  exact (step_house counts.1 stepped).roomState_le counts.2

/-- `roomState` is an `atomic<int>`, which a run of fewer than 2^31 steps does not overflow. -/
theorem roomState_fits (ran : (system collate).run events fresh = some self)
    (short : events.length < 2 ^ 31) :
    ∀ room ∈ self.rooms, -2 ^ 31 < room.roomState ∧ room.roomState < 2 ^ 31 := by
  intro room member
  have start : StatesWithin collate [] fresh := ⟨fresh_housed, by simp [fresh]⟩
  have counts := (System.run_history step_statesWithin ran start).2 room member
  rw [List.nil_append] at counts
  omega

end House

end ServerState

end ChattingProgram.Server
