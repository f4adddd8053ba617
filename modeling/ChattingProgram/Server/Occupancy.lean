import ChattingProgram.Server.Membership
import ChattingProgram.Server.Naming
import ChattingProgram.Server.Online

namespace ChattingProgram.Server

open ChattingProgram.Protocol ChattingProgram.Machine

/-! # Who keeps a room alive

An account that refers to a room is counted in its `roomState`: as a user, as a
join on its way to `AddUser`, or as one more than there are users.  So nobody
refers to a room when it is destroyed.
-/

namespace Ledger

/-- `roomState` counts somebody who is neither a user nor about to become one. -/
def Spare (room : Room) (staff : Stage → Nat) : Prop :=
  (room.users.keys.length : Int) + staff .admitted + staff .joined + staff .erased <
    room.roomState + staff .constructing

def Occupied (room : Room) (staff : Stage → Nat) : Prop :=
  0 < room.users.keys.length + staff .admitted + staff .joined ∨ Spare room staff

/-- What a move leaves of the books of a room: everything but the number of visitors, or
what an act makes of them. -/
def Evolves (room next : Room) (before after : Stage → Nat) : Prop :=
  (next = room ∧ ∀ stage, stage ≠ .visiting → after stage = before stage) ∨
    ∃ source target rows listing, Act source target room next rows listing ∧
      Shifts (some source) target before after

section Evolves

variable {room next : Room} {row : Option Int} {listed : Bool} {before after : Stage → Nat}
  (evolves : Evolves room next before after) (sound : (Ledger.of room row listed before).Sound)
  (alive : room.roomState ≠ destruction)

include evolves sound alive

theorem Evolves.spare (spare : Spare room before) : Spare next after := by
  rcases evolves with ⟨rfl, same⟩ | ⟨source, target, rows, listing, act, shifts⟩
  · have admitted := same .admitted (by simp)
    have joined := same .joined (by simp)
    have erased := same .erased (by simp)
    have constructing := same .constructing (by simp)
    simp only [Spare] at spare ⊢
    omega
  · have table := shifts.table
    have alone := sound.alone
    have counted := sound.counted alive
    simp only [Ledger.of, arriving, holders, Spare] at alone counted spare ⊢
    cases act with
    | addUser _ userId session =>
        have grown := length_keys_insert room.users userId session
        simp at table
        grind
    | eraseUser _ userId member =>
        have shrunk := length_keys_erase member
        simp at table
        grind
    | _ => simp at table; grind

/-- A room that is counted by somebody is not destroyed. -/
theorem Evolves.remains (occupied : Occupied room before) : next.roomState ≠ destruction := by
  rcases evolves with ⟨rfl, _⟩ | ⟨source, target, rows, listing, act, shifts⟩
  · exact alive
  · have table := shifts.table
    have alone := sound.alone
    have publisher := sound.publisher
    have counted := sound.counted alive
    simp only [Ledger.of, arriving, holders, publishers, Occupied, Spare, destruction]
      at alone publisher counted occupied alive ⊢
    cases act <;> simp at table <;> grind

end Evolves

end Ledger

namespace House

variable {collate : String → String} {house after : House} {room : Nat} {current : Room}

theorem evolves_of_place {target : Activity} (found : house.activities[index]? = some source)
    (leaves : ∀ stage, stage ≠ .visiting → source.place ≠ some (room, stage))
    (enters : ∀ stage, stage ≠ .visiting → target.place ≠ some (room, stage)) :
    Ledger.Evolves current current (staff house.activities room)
      (staff (house.activities.set index target) room) := by
  refine .inl ⟨rfl, ?_⟩
  intro stage other
  have moved := staff_set target room stage found
  rw [if_neg (leaves stage other), if_neg (enters stage other)] at moved
  exact moved

theorem Move.evolves (move : Move collate house after)
    (object : house.rooms[room]? = some current) :
    ∃ next, after.rooms[room]? = some next ∧ next.roomId = current.roomId ∧
      Ledger.Evolves current next (staff house.activities room) (staff after.activities room) := by
  cases move with
  | stutter | connect => exact ⟨current, object, rfl, .inl ⟨rfl, fun _ _ => rfl⟩⟩
  | spawn =>
      exact ⟨current, object, rfl, .inl ⟨rfl, fun stage _ => congrFun (staff_spawn _ room) stage⟩⟩
  | insert found | select found =>
      exact ⟨current, object, rfl, evolves_of_place found (by simp [Activity.place])
        (by simp [Activity.place])⟩
  | make found =>
      have below := (List.getElem?_eq_some_iff.mp object).1
      refine ⟨current, getElem?_append_kept _ object, rfl,
        evolves_of_place found (by simp [Activity.place]) ?_⟩
      intro stage _ placed
      simp only [Activity.place, Option.some.injEq, Prod.mk.injEq] at placed
      omega
  | find found | rise found =>
      refine ⟨current, object, rfl, evolves_of_place found (by simp [Activity.place]) ?_⟩
      intro stage other placed
      simp only [Activity.place, Option.some.injEq, Prod.mk.injEq] at placed
      exact other placed.2.symm
  | @act index acted source target stage acting next effect listing seats found placed
      actedObject acts stays =>
      by_cases here : acted = room
      · subst here
        cases object.symm.trans actedObject
        refine ⟨next, List.getElem?_set_self (List.getElem?_eq_some_iff.mp object).1,
          Act.roomId_eq acts, .inr ?_⟩
        exact ⟨stage, _, effect, listing, acts, shifts_act found placed stays⟩
      · refine ⟨current, (List.getElem?_set_ne here).trans object, rfl,
          evolves_of_place found ?_ ?_⟩
        · intro reached _ enters
          rw [placed] at enters
          cases enters
          exact here rfl
        · intro reached _ enters
          exact here (stays _ enters).symm

end House

/-! ## What a rule leaves alone -/

section Rules

variable {collate : String → String} {session room roomId place : Nat} {id roomName other : String}
  {tables after : Tables}

theorem Tables.user_setObject_same {next : Room} (object : tables.rooms[place]? = some current)
    (same : next.users = current.users) :
    (tables.setObject place next).user room other = tables.user room other := by
  rw [Tables.user_setObject object same]

theorem RemoveStep.user_eq (rule : RemoveStep collate place id tables pc goal after)
    (kept : pc = .erase → place = room → other ≠ id) :
    after.user room other = tables.user room other := by
  cases rule with
  | updateAccount object | fetchSub object | destroy object | removeRoom object
  | broadcast object =>
      exact Tables.user_setObject_same object rfl
  | erase object =>
      exact (Tables.user_erase object).trans (if_neg fun here => kept rfl here.1 here.2)
  | updateRoom | keep | delete | select => rfl

theorem RemoveStep.registered_other
    (rule : RemoveStep collate place id tables .updateAccount goal after)
    (isMember : other ∈ after.db.registered roomId) : collate other ≠ collate id := by
  obtain ⟨row, member, rfl, refers⟩ := isMember
  cases rule with
  | updateAccount _ _ updated =>
      cases Database.updateCurrentRoom_eq updated
      rcases Database.of_mem_assign member with ⟨_, cleared⟩ | ⟨different, _⟩
      · cases cleared.symm.trans refers
      · exact different

theorem JoinStep.user_eq (rule : JoinStep collate session id roomName tables pc goal after)
    (kept : ∀ userIds, pc = .addUser room userIds → other ≠ id) :
    after.user room other = tables.user room other := by
  cases rule with
  | cas object => exact Tables.user_setObject_same object rfl
  | addUser object =>
      refine (Tables.user_insert object).trans (if_neg ?_)
      rintro ⟨rfl, same⟩
      exact kept _ rfl same
  | _ => rfl

theorem JoinStep.user_kept (rule : JoinStep collate session id roomName tables pc goal after)
    (isUser : (tables.user room other).isSome = true) : (after.user room other).isSome = true := by
  by_cases enters : ∃ userIds, pc = .addUser room userIds
  · obtain ⟨userIds, rfl⟩ := enters
    cases rule with
    | miss => exact isUser
    | addUser object =>
        refine (congrArg Option.isSome (Tables.user_insert object)).trans ?_
        split
        · rfl
        · exact isUser
  · rw [rule.user_eq fun userIds here => absurd ⟨userIds, here⟩ enters]
    exact isUser

theorem JoinStep.registered_cases
    (rule : JoinStep collate session id roomName tables pc goal after)
    (isMember : other ∈ after.db.registered roomId) :
    other ∈ tables.db.registered roomId ∨ collate other = collate id ∧
      ∃ room, pc = .updateAccount roomId room := by
  obtain ⟨row, member, rfl, refers⟩ := isMember
  cases rule with
  | updateAccount updated =>
      cases Database.updateCurrentRoom_eq updated
      rcases Database.of_mem_assign member with ⟨named, assigned⟩ | ⟨_, earlier⟩
      · cases refers.symm.trans assigned
        exact .inr ⟨named, _, rfl⟩
      · exact .inl ⟨row, earlier, rfl, refers⟩
  | _ => exact .inl ⟨row, member, rfl, refers⟩

theorem CreateStep.user_eq (rule : CreateStep collate session id roomName tables pc goal after)
    (kept : room = tables.rooms.length → other ≠ id) :
    after.user room other = tables.user room other := by
  cases rule with
  | makeRoom =>
      by_cases here : room = tables.rooms.length
      · subst here
        simp only [Tables.user, List.getElem?_concat_length, Option.bind_some,
          AList.lookup_insert_ne (kept rfl)]
        simp
      · simp only [Tables.user, List.getElem?_append]
        split
        · rfl
        · have none : tables.rooms[room]? = none := by simp; omega
          have past : room - tables.rooms.length ≠ 0 := by omega
          simp [none, past]
  | fetchAdd object => exact Tables.user_setObject_same object rfl
  | _ => rfl

theorem CreateStep.user_kept (rule : CreateStep collate session id roomName tables pc goal after)
    (isUser : (tables.user room other).isSome = true) : (after.user room other).isSome = true := by
  rw [rule.user_eq]
  · exact isUser
  · rintro rfl
    simp [Tables.user] at isUser

theorem CreateStep.registered_cases
    (rule : CreateStep collate session id roomName tables pc goal after)
    (isMember : other ∈ after.db.registered roomId) :
    other ∈ tables.db.registered roomId ∨ collate other = collate id ∧
      pc = .updateAccount roomId := by
  obtain ⟨row, member, rfl, refers⟩ := isMember
  cases rule with
  | insert inserted =>
      cases Database.insertRoom_eq inserted
      exact .inl ⟨row, member, rfl, refers⟩
  | updateAccount updated =>
      cases Database.updateCurrentRoom_eq updated
      rcases Database.of_mem_assign member with ⟨named, assigned⟩ | ⟨_, earlier⟩
      · cases refers.symm.trans assigned
        exact .inr ⟨named, rfl⟩
      · exact .inl ⟨row, earlier, rfl, refers⟩
  | _ => exact .inl ⟨row, member, rfl, refers⟩

theorem Database.mem_of_insertAccount {db : Database}
    (inserted : db.insertAccount collate id pssd = some next) (member : row ∈ next.bare.account)
    (refers : row.currentRoomId = some roomId) : row ∈ db.bare.account := by
  simp only [Database.insertAccount] at inserted
  split at inserted
  · contradiction
  · cases inserted
    simp only [Database.bare, List.map_append, List.mem_append] at member
    rcases member with earlier | new
    · exact earlier
    · cases List.mem_singleton.mp new
      contradiction

end Rules

/-! ## Where an account stands -/

/-- The account that a create handler has put into a room, until the object is there. -/
def Task.founds : Task → Option (String × Nat)
  | .createRoom id _ (.makeRoom roomId) => some (id, roomId)
  | _ => none

/-- The account that a join has put into a room, until it has called `AddUser`. -/
def Task.arrives : Task → Option (String × Nat)
  | .joinRoom id _ (.updateRoom _ room) | .joinRoom id _ (.selectMembers _ room)
  | .joinRoom id _ (.addUser room _) => some (id, room)
  | _ => none

/-- The handlers that take an account into a room. -/
def Task.admits : Task → Bool
  | .createRoom .. | .joinRoom .. => true
  | _ => false

/-- `RemoveUser` has taken the account out of the room and has not yet erased the user. -/
def RemovePc.clears : RemovePc → Bool
  | .updateRoom | .erase => true
  | _ => false

/-- The user that a call of `RemoveUser` is for; `OnDisconnected` passes `_id`. -/
def Task.removed (name : String) : Task → String
  | .roomOut id _ => id
  | _ => name

namespace ServerState

def removed (self : ServerState) (process : Process) : String :=
  process.task.removed (self.sessionId process.session)

section Accounted

variable (collate : String → String) (self : ServerState) (id : String)

def Founding (roomId : Nat) : Prop :=
  ∃ process ∈ self.processes, ∃ founder, process.task.founds = some (founder, roomId) ∧
    collate founder = collate id

def Arriving (room : Nat) : Prop :=
  ∃ process ∈ self.processes, ∃ entrant, process.task.arrives = some (entrant, room) ∧
    collate entrant = collate id

def Clearing (room : Nat) : Prop :=
  ∃ process ∈ self.processes, ∃ pc, process.task.removes = some (room, pc) ∧ pc.clears = true ∧
    collate (self.removed process) = collate id

/-- The room counts the account, and will as long as the account refers to it. -/
def Counts (room : Nat) (current : Room) : Prop :=
  (¬ self.Clearing collate id room ∧ ∃ key, (self.tables.user room key).isSome = true ∧
    collate key = collate id) ∨
    self.Arriving collate id room ∨ Ledger.Spare current (House.staff self.house.activities room)

def Accounted (roomId : Nat) : Prop :=
  self.Founding collate id roomId ∨ ∃ room current, self.rooms[room]? = some current ∧
    current.roomId = roomId ∧ current.roomState ≠ destruction ∧ self.Counts collate id room current

end Accounted

/-- Every account that refers to a room is counted there. -/
def Hosted (collate : String → String) (self : ServerState) : Prop :=
  ∀ roomId, ∀ id ∈ self.tables.db.registered roomId, self.Accounted collate id roomId

variable {collate : String → String} {self after : ServerState} {index session : Nat} {id : String}

theorem arrives_place {task : Task} (arrives : task.arrives = some (entrant, room)) :
    task.joins = some room := by
  cases task with
  | joinRoom id roomName pc => cases pc <;> simp_all [Task.arrives, Task.joins]
  | _ => simp [Task.arrives] at arrives

theorem founds_of_removes {task : Task} (removes : task.removes = some (room, pc)) :
    task.founds = none := by
  cases task with
  | createRoom => contradiction
  | _ => rfl

theorem arrives_of_removes {task : Task} (removes : task.removes = some (room, pc)) :
    task.arrives = none := by
  cases task with
  | joinRoom => contradiction
  | _ => rfl

theorem Counts.occupied (object : self.rooms[room]? = some current)
    (counts : self.Counts collate id room current) :
    Ledger.Occupied current (House.staff self.house.activities room) := by
  rcases counts with ⟨_, key, isUser, _⟩ | ⟨process, member, entrant, arrives, _⟩ | spare
  · rw [Tables.user_of_object object] at isUser
    have positive : 0 < current.users.keys.length :=
      List.length_pos_of_mem (AList.lookup_isSome.mp isUser)
    exact .inl (by omega)
  · refine .inl ?_
    rcases joins_place (arrives_place arrives) with placed | placed
    · have present := staff_pos member placed
      omega
    · have present := staff_pos member placed
      omega
  · exact .inr spare

/-- A step takes what counts an account to something else that does. -/
theorem Accounted.keep (housed : self.Housed collate)
    (move : House.Move collate self.house after.house)
    (founding : self.Founding collate id roomId → after.Accounted collate id roomId)
    (user : ∀ {room key next}, after.rooms[room]? = some next → ¬ self.Clearing collate id room →
      (self.tables.user room key).isSome = true → collate key = collate id →
        after.Counts collate id room next)
    (arriving : ∀ {room current next}, self.rooms[room]? = some current →
      after.rooms[room]? = some next →
      current.roomState ≠ destruction → self.Arriving collate id room →
        after.Counts collate id room next) (accounted : self.Accounted collate id roomId) :
    after.Accounted collate id roomId := by
  rcases accounted with founds | ⟨room, current, object, rfl, alive, counts⟩
  · exact founding founds
  · obtain ⟨next, nextObject, same, evolves⟩ := move.evolves object
    have remains := evolves.remains (housed.sound object) alive (counts.occupied object)
    refine .inr ⟨room, next, nextObject, same, remains, ?_⟩
    rcases counts with ⟨still, key, isUser, named⟩ | arrives | spare
    · exact user nextObject still isUser named
    · exact arriving object nextObject alive arrives
    · exact .inr (.inr (evolves.spare (housed.sound object) alive spare))

theorem Accounted.frame (housed : self.Housed collate)
    (move : House.Move collate self.house after.house)
    (founding : self.Founding collate id roomId → after.Founding collate id roomId)
    (arriving : ∀ {room}, self.Arriving collate id room → after.Arriving collate id room)
    (clearing : ∀ {room}, after.Clearing collate id room → self.Clearing collate id room)
    (users : ∀ {room key}, ¬ self.Clearing collate id room → collate key = collate id →
      (self.tables.user room key).isSome = true → (after.tables.user room key).isSome = true)
    (accounted : self.Accounted collate id roomId) : after.Accounted collate id roomId := by
  refine accounted.keep housed move (fun founds => .inl (founding founds)) ?_
    fun _ _ _ arrives => .inr (.inl (arriving arrives))
  intro room key next _ still isUser named
  exact .inl ⟨fun clears => still (clearing clears), key, users still named isUser, named⟩

/-! ### What becomes of the processes -/

section Goes

variable {task next : Task} {room roomId : Nat}
  (found : self.processes[index]? = some ⟨session, task⟩)
  (goes : Goes index session next self after)

include found goes

theorem Goes.next_mem : ⟨session, next⟩ ∈ after.processes := List.mem_of_getElem? (goes.found found)

theorem Goes.mem_or_eq (member : process ∈ self.processes) :
    process = ⟨session, task⟩ ∨ process ∈ after.processes := by
  obtain ⟨place, placed⟩ := List.getElem?_of_mem member
  by_cases here : index = place
  · subst here
    exact .inl (Option.some.inj (placed.symm.trans found))
  · refine .inr (List.mem_of_getElem? (i := place) ?_)
    rw [goes.processes, List.getElem?_set_ne here]
    exact placed

omit found in
theorem Goes.eq_or_mem (member : process ∈ after.processes) :
    process = ⟨session, next⟩ ∨ process ∈ self.processes := by
  rw [goes.processes] at member
  exact (List.mem_or_eq_of_mem_set member).symm

theorem Founding.persists
    (keeps : ∀ founder, task.founds = some (founder, roomId) → next.founds = some (founder, roomId))
    (founding : self.Founding collate id roomId) : after.Founding collate id roomId := by
  obtain ⟨process, member, founder, founds, same⟩ := founding
  rcases goes.mem_or_eq found member with rfl | stays
  · exact ⟨_, goes.next_mem found, founder, keeps founder founds, same⟩
  · exact ⟨process, stays, founder, founds, same⟩

theorem Arriving.persists
    (keeps : ∀ entrant, task.arrives = some (entrant, room) → next.arrives = some (entrant, room))
    (arriving : self.Arriving collate id room) : after.Arriving collate id room := by
  obtain ⟨process, member, entrant, arrives, same⟩ := arriving
  rcases goes.mem_or_eq found member with rfl | stays
  · exact ⟨_, goes.next_mem found, entrant, keeps entrant arrives, same⟩
  · exact ⟨process, stays, entrant, arrives, same⟩

omit found in
theorem Clearing.of_goes
    (names : ∀ process ∈ self.processes, process.task.removes ≠ none →
      after.removed process = self.removed process)
    (begins : ∀ pc, next.removes = some (room, pc) → pc.clears = true →
      collate (after.removed ⟨session, next⟩) = collate id → self.Clearing collate id room)
    (clearing : after.Clearing collate id room) : self.Clearing collate id room := by
  obtain ⟨process, member, pc, removes, clears, same⟩ := clearing
  rcases goes.eq_or_mem member with rfl | earlier
  · exact begins pc removes clears same
  · refine ⟨process, earlier, pc, removes, clears, ?_⟩
    rw [← names process earlier (by simp [removes])]
    exact same

end Goes

theorem removed_eq (names : after.tables.names = self.tables.names) (process : Process) :
    after.removed process = self.removed process := by
  simp only [removed, ← name_eq_sessionId, Tables.name, names]

theorem Counts.congr (same : collate id = collate other)
    (counts : self.Counts collate id room current) : self.Counts collate other room current := by
  simpa only [Counts, Clearing, Arriving, same] using counts

theorem clears_place {process : Process} (removes : process.task.removes = some (room, pc))
    (clears : pc.clears = true) :
    process.task.activity.place = some (room, .inside) ∨
      process.task.activity.place = some (room, .decremented) := by
  have placed := removes_place removes
  cases pc with
  | updateRoom => exact .inl placed
  | erase => exact .inr placed
  | _ => contradiction

/-- `RemoveUser` is under the lock while it clears an account. -/
theorem not_clearing_of_unlocked (housed : self.Housed collate)
    (object : self.rooms[room]? = some current) (free : current.locked = false) :
    ¬ self.Clearing collate id room := by
  rintro ⟨process, member, pc, removes, clears, _⟩
  have lock := (housed.sound object).lock
  simp only [House.books, Ledger.of, Ledger.holders, free, Bool.false_eq_true, if_false] at lock
  rcases clears_place removes clears with placed | placed
  · have present := staff_pos member placed
    omega
  · have present := staff_pos member placed
    omega

theorem not_clearing_of_absent (housed : self.Housed collate) (absent : self.rooms[room]? = none) :
    ¬ self.Clearing collate id room := by
  rintro ⟨process, member, pc, removes, _⟩
  obtain ⟨current, object, _⟩ :=
    (housed.fits _ (List.mem_map_of_mem member)).present (removes_place removes)
  exact absurd (object.symm.trans absent) (by simp)

theorem isConnected_of_leaving (exclusive : Auth.Exclusive collate self.auth)
    (member : process ∈ self.processes) (leaves : process.task = .onDisconnected pc) :
    self.isConnected process.session = false := by
  have stage : process.auth.stage = .leaving ∨ ∃ id, process.auth.stage = .left id := by
    simp only [Process.auth, leaves]
    cases pc with
    | update id => exact .inr ⟨id, rfl⟩
    | _ => exact .inl rfl
  obtain ⟨current, placed, connected, _⟩ :=
    exclusive.lively _ (List.mem_map_of_mem member) ⟨rfl, stage⟩
  obtain ⟨state, found, rfl⟩ := Option.map_eq_some_iff.mp ((List.getElem?_map ..).symm.trans placed)
  have here : self.sessions[process.session]? = some state := found
  simp only [isConnected, here, Option.map_some, Option.getD_some]
  exact connected

/-- A login of a connected session is no business of `OnDisconnected`. -/
theorem removed_setId (exclusive : Auth.Exclusive collate self.auth)
    (connected : self.isConnected session = true) {process : Process}
    (member : process ∈ self.processes) (removing : process.task.removes ≠ none) :
    (self.setId session id).removed process = self.removed process := by
  obtain ⟨place, task⟩ := process
  cases task with
  | roomOut => rfl
  | onDisconnected pc =>
      have left := isConnected_of_leaving exclusive member rfl
      have other : session ≠ place := by
        rintro rfl
        cases connected.symm.trans left
      simp only [removed, Task.removed, sessionId, setId, getElem?_modifySession, if_neg other]
      simp
  | _ => exact absurd rfl removing

/-! ### One step -/

section Step

variable (housed : self.Housed collate) (hosted : self.Hosted collate)

include housed hosted

/-- A step of a process that has nothing to do with the users of a room. -/
theorem Hosted.quiet {task : Task} (move : House.Move collate self.house after.house)
    (found : self.processes[index]? = some ⟨session, task⟩)
    (goes : Goes index session next self after)
    (names : ∀ process ∈ self.processes, process.task.removes ≠ none →
      after.removed process = self.removed process) (rooms : after.rooms = self.rooms)
    (registered : ∀ {roomId id}, id ∈ after.tables.db.registered roomId →
      id ∈ self.tables.db.registered roomId) (founds : task.founds = none)
    (arrives : task.arrives = none)
    (clears : ∀ room pc, next.removes = some (room, pc) → pc.clears = false) :
    after.Hosted collate := by
  intro roomId id isMember
  refine Accounted.frame housed move ?_ ?_ ?_ ?_ (hosted roomId id (registered isMember))
  · exact Founding.persists found goes (by simp [founds])
  · exact Arriving.persists found goes (by simp [arrives])
  · refine Clearing.of_goes goes names ?_
    intro pc removes isClearing
    simp [clears _ pc removes] at isClearing
  · intro room key _ _ isUser
    simpa only [Tables.user, tables, rooms] using isUser

theorem Hosted.still (move : House.Move collate self.house after.house)
    (found : self.processes[index]? = some ⟨session, task⟩)
    (goes : Goes index session next self after) (same : after.tables = self.tables)
    (founds : task.founds = none) (arrives : task.arrives = none)
    (clears : ∀ room pc, next.removes = some (room, pc) → pc.clears = false) :
    after.Hosted collate := by
  refine Hosted.quiet housed hosted move found goes ?_ (congrArg Tables.rooms same) ?_
    founds arrives clears
  · intro process _ _
    exact removed_eq (congrArg Tables.names same) process
  · intro roomId id isMember
    rw [same] at isMember
    exact isMember

theorem advanceCreateRoom_hosted (move : House.Move collate self.house after.house)
    (found : self.processes[index]? = some ⟨session, .createRoom id roomName pc⟩)
    (stepped : self.advanceCreateRoom collate index session id roomName pc = some after) :
    after.Hosted collate := by
  rcases advanceCreateRoom_tables stepped with ⟨_, cause, rfl⟩ | ⟨_, ⟨goal, rfl, rule⟩, goes⟩
  · exact hosted
  have clearing : ∀ {other room}, after.Clearing collate other room →
      self.Clearing collate other room := by
    intro other room
    refine Clearing.of_goes goes (fun process _ _ => removed_eq rule.names process) ?_
    intro pc removes
    cases goal <;> simp [Task.removes] at removes
  intro roomId other isMember
  rcases rule.registered_cases isMember with earlier | ⟨named, rfl⟩
  · refine Accounted.keep housed move ?_ ?_ ?_ (hosted roomId other earlier)
    · rintro ⟨process, member, founder, founds, same⟩
      rcases goes.mem_or_eq found member with rfl | stays
      · cases pc with
        | makeRoom target =>
            cases founds
            cases stepped
            refine .inr ⟨self.rooms.length, _, List.getElem?_concat_length,
              rfl, by simp [destruction],
              .inl ⟨fun clears => not_clearing_of_absent housed (by simp) (clearing clears), id, ?_,
              same⟩⟩
            rw [Tables.user_of_object List.getElem?_concat_length, AList.lookup_insert]
            rfl
        | _ => contradiction
      · exact .inl ⟨process, stays, founder, founds, same⟩
    · intro room key next _ still isUser named
      exact .inl ⟨fun clears => still (clearing clears), key, rule.user_kept isUser, named⟩
    · intro room current next _ _ _ arrives
      exact .inr (.inl (arrives.persists found goes (by simp [Task.arrives])))
  · generalize after.tables = tables at rule
    cases rule
    exact .inl ⟨_, goes.next_mem found, id, rfl, named.symm⟩

omit hosted in
/-- `AddUser` makes the account a user, or leaves it as one that `roomState` counts for
nothing. -/
theorem addUser_counts
    (found : self.processes[index]? = some ⟨session, .joinRoom id roomName (.addUser room userIds)⟩)
    (stepped : self.advanceJoinRoom collate index session id roomName (.addUser room userIds) =
      some after) (object : self.rooms[room]? = some current)
    (alive : current.roomState ≠ destruction) (nextObject : after.rooms[room]? = some next)
    (clearing : after.Clearing collate id room → self.Clearing collate id room) :
    after.Counts collate id room next := by
  simp only [advanceJoinRoom, withRoom, object, Option.bind_some] at stepped
  split at stepped
  · contradiction
  rename_i unlocked
  split at stepped
  · cases stepped
    cases object.symm.trans nextObject
    have counted := (housed.sound object).counted alive
    have moved := fun stage => House.staff_set .outside room stage (house_found found)
    have admitted := moved .admitted
    have joined := moved .joined
    have erased := moved .erased
    have constructing := moved .constructing
    simp [Task.activity, Activity.place] at admitted joined erased constructing
    refine .inr (.inr ?_)
    rw [house_put]
    simp only [House.books, Ledger.of, Ledger.arriving, Ledger.Spare, Task.activity] at counted ⊢
    omega
  · cases stepped
    have free : ¬ self.Clearing collate id room :=
      not_clearing_of_unlocked housed object (by simpa using unlocked)
    refine .inl ⟨fun clears => free (clearing clears), id, ?_, rfl⟩
    rw [Tables.user_of_object nextObject]
    have placed := (List.getElem?_set_self (List.getElem?_eq_some_iff.mp object).1).symm.trans
      nextObject
    cases placed
    rw [AList.lookup_insert]
    rfl

theorem advanceJoinRoom_hosted (move : House.Move collate self.house after.house)
    (found : self.processes[index]? = some ⟨session, .joinRoom id roomName pc⟩)
    (stepped : self.advanceJoinRoom collate index session id roomName pc = some after) :
    after.Hosted collate := by
  obtain ⟨_, ⟨goal, rfl, rule⟩, goes⟩ := advanceJoinRoom_tables stepped
  have clearing : ∀ {other room}, after.Clearing collate other room →
      self.Clearing collate other room := by
    intro other room
    refine Clearing.of_goes goes (fun process _ _ => removed_eq rule.names process) ?_
    intro pc removes
    cases goal <;> simp [Task.removes] at removes
  intro roomId other isMember
  rcases rule.registered_cases isMember with earlier | ⟨named, room, rfl⟩
  · refine Accounted.keep housed move ?_ ?_ ?_ (hosted roomId other earlier)
    · exact fun founds => .inl (founds.persists found goes (by simp [Task.founds]))
    · intro room key next _ still isUser named
      exact .inl ⟨fun clears => still (clearing clears), key, rule.user_kept isUser, named⟩
    · rintro room current next object nextObject alive ⟨process, member, entrant, arrives, same⟩
      rcases goes.mem_or_eq found member with rfl | stays
      · by_cases enters : ∃ userIds, pc = .addUser room userIds
        · obtain ⟨userIds, rfl⟩ := enters
          cases arrives
          exact (addUser_counts housed found stepped object alive nextObject clearing).congr same
        · refine .inr (.inl ⟨_, goes.next_mem found, entrant, ?_, same⟩)
          generalize after.tables = tables at rule
          cases rule <;> simp_all [Task.arrives]
      · exact .inr (.inl ⟨process, stays, entrant, arrives, same⟩)
  · obtain ⟨current, object, known⟩ := (housed.fits _
      (List.mem_of_getElem? (house_found found))).present rfl
    have alive : current.roomState ≠ destruction := by
      intro gone
      exact unjoined_of_destroyed housed object gone (List.mem_of_getElem? found) rfl
    generalize made : after.tables = tables at rule
    cases rule
    have rooms : after.rooms = self.rooms := congrArg Tables.rooms made
    refine .inr ⟨room, current, rooms ▸ object, known roomId rfl, alive, .inr (.inl ?_)⟩
    exact ⟨_, goes.next_mem found, id, rfl, named.symm⟩

theorem RemoveTurn.hosts {changed : ServerState} (resume : RemovePc → Task) {finished : Task}
    {goal : Option RemovePc} (found : self.processes[index]? = some ⟨session, resume pc⟩)
    (resumes : ∀ pc, (resume pc).removes = some (room, pc)) (finishes : finished.removes = none)
    (user : ∀ pc, (resume pc).removed (self.sessionId session) = userId)
    (move : House.Move collate self.house
      (changed.put index ⟨session, goal.elim finished resume⟩).house)
    (turn : RemoveTurn collate self room userId pc goal changed) :
    (changed.put index ⟨session, goal.elim finished resume⟩).Hosted collate := by
  have rule := turn.tables
  have goes : Goes index session (goal.elim finished resume) self
    (changed.put index ⟨session, _⟩) := turn.goes _
  have names : ∀ process, changed.removed process = self.removed process := removed_eq rule.names
  have clears : ∀ {other}, pc.clears = true → collate userId = collate other →
      self.Clearing collate other room := by
    intro other clears same
    refine ⟨_, List.mem_of_getElem? found, pc, resumes pc, clears, ?_⟩
    simp only [removed, user]
    exact same
  intro roomId other isMember
  refine Accounted.frame housed move ?_ ?_ ?_ ?_
    (hosted roomId other (rule.registered_subset isMember))
  · exact Founding.persists found goes (by simp [founds_of_removes (resumes pc)])
  · exact Arriving.persists found goes (by simp [arrives_of_removes (resumes pc)])
  · intro place
    refine Clearing.of_goes goes (fun process _ _ => names process) ?_
    intro next removes isClearing same
    cases goal with
    | none => simp [finishes] at removes
    | some goal =>
        cases (resumes goal).symm.trans removes
        rw [show (changed.put index _).removed _ = _ from names _] at same
        simp only [removed, Option.elim_some, user] at same
        cases pc with
        | updateAccount => exact absurd same.symm (rule.registered_other isMember)
        | updateRoom => exact clears rfl same
        | _ => cases turn <;> contradiction
  · intro place key still named isUser
    rw [tables_put, rule.user_eq]
    · exact isUser
    · rintro rfl rfl rfl
      exact still (clears rfl named)

/-- A step of a handler that takes nobody into a room. -/
theorem Turn.hosts {changed : ServerState} {task next : Task}
    (exclusive : Auth.Exclusive collate self.auth)
    (inTime : task.setsId ≠ none → self.isConnected session = true) (other : task.admits = false)
    (found : self.processes[index]? = some ⟨session, task⟩)
    (move : House.Move collate self.house (changed.put index ⟨session, next⟩).house)
    (turn : Turn collate self session task next changed) :
    (changed.put index ⟨session, next⟩).Hosted collate := by
  have goes : Goes index session next self (changed.put index ⟨session, next⟩) := turn.goes
  have absent : task.founds = none ∧ task.arrives = none := by
    cases task with
    | createRoom | joinRoom => contradiction
    | _ => exact ⟨rfl, rfl⟩
  have still : changed.tables = self.tables →
      (∀ room pc, next.removes = some (room, pc) → pc.clears = false) →
      (changed.put index ⟨session, next⟩).Hosted collate :=
    fun same => Hosted.still housed hosted move found goes same absent.1 absent.2
  cases turn with
  | reply => exact still (send_queues ..).tables (by simp [Task.removes])
  | noLogin | login | noRegister | refreshLobby | chatSelect | chatGetRoom | outSelect | readId =>
      exact still rfl (by simp [Task.removes])
  | online =>
      exact still (by simp only [tables, Database.bare_updateOnline]) (by simp [Task.removes])
  | setId =>
      refine Hosted.quiet housed hosted move found goes ?_ rfl (fun isMember => isMember) rfl rfl
        (by simp [Task.removes])
      exact fun process member removing =>
        removed_setId exclusive (inTime (by simp [Task.setsId])) member removing
  | register inserted =>
      refine Hosted.quiet housed hosted move found goes (fun _ _ _ => rfl) rfl ?_ rfl rfl
        (by simp [Task.removes])
      rintro roomId other ⟨row, member, named, refers⟩
      exact ⟨row, Database.mem_of_insertAccount inserted member refers, named, refers⟩
  | insertLog inserted =>
      exact still (by simp only [tables, Database.bare_insertLog inserted]) (by simp [Task.removes])
  | chat => exact still (broadCast_queues ..).tables (by simp [Task.removes])
  | outGetRoom | lock =>
      refine still rfl ?_
      rintro room pc ⟨⟩
      rfl
  | expired =>
      refine still rfl ?_
      intro room pc removes
      split at removes <;> contradiction
  | offline =>
      refine still (Eq.trans (tables_modifySession ?_ ?_) ?_) (by simp [Task.removes])
      · exact fun _ => rfl
      · exact fun _ => rfl
      · simp only [tables, Database.bare_updateOnline]
  | @leave id room _ _ _ turn =>
      exact turn.hosts housed hosted (fun pc => .roomOut id (.remove room pc)) found (fun _ => rfl)
        rfl (fun _ => rfl) move
  | @drop room _ _ _ turn =>
      exact turn.hosts housed hosted (fun pc => .onDisconnected (.remove room pc)) found
        (fun _ => rfl) rfl (fun _ => rfl) move
  | _ => contradiction

/-- A step that starts a handler, if anything. -/
theorem Hosted.outside (move : House.Move collate self.house after.house)
    (kept : ∀ process ∈ self.processes, process ∈ after.processes)
    (begun : ∀ process ∈ after.processes, process ∈ self.processes ∨ process.task.removes = none)
    (names : ∀ process, after.removed process = self.removed process) (db : after.db = self.db)
    (rooms : after.rooms = self.rooms) : after.Hosted collate := by
  intro roomId id isMember
  have earlier : id ∈ self.tables.db.registered roomId := by simpa only [tables, db] using isMember
  refine Accounted.frame housed move ?_ ?_ ?_ ?_ (hosted roomId id earlier)
  · rintro ⟨process, member, founder⟩
    exact ⟨process, kept process member, founder⟩
  · rintro _ ⟨process, member, entrant⟩
    exact ⟨process, kept process member, entrant⟩
  · rintro room ⟨process, member, pc, removes, clears, same⟩
    rw [names] at same
    rcases begun process member with earlier | never
    · exact ⟨process, earlier, pc, removes, clears, same⟩
    · simp [never] at removes
  · intro room key _ _ isUser
    simpa only [Tables.user, tables, rooms] using isUser

end Step

/-- Every login comes to `SetId` while its session is connected. -/
def LoginInTime : ServerEvent → ServerState → Prop
  | .run index, self => ∀ process ∈ self.processes[index]?, process.task.setsId ≠ none →
      self.isConnected process.session = true
  | _, _ => True

instance (self : ServerState) : ∀ event, Decidable (LoginInTime event self)
  | .run index =>
      inferInstanceAs (Decidable (∀ process ∈ self.processes[index]?, process.task.setsId ≠ none →
          self.isConnected process.session = true))
  | .connect | .request .. | .disconnect _ => .isTrue trivial

theorem removes_handler (handles : handler message = some task) : task.removes = none := by
  cases message <;> cases handles <;> rfl

theorem step_hosted (exclusive : Auth.Exclusive collate self.auth)
    (inTime : LoginInTime event self) (stepped : (system collate).step event self = some after)
    (housed : self.Housed collate) (hosted : self.Hosted collate) : after.Hosted collate := by
  have move := step_house housed stepped
  cases (step_happens stepped).2 with
  | connect =>
      refine Hosted.outside housed hosted move (fun _ member => member)
        (fun _ member => .inl member) ?_ rfl rfl
      intro process
      simp only [removed, sessionId, List.getElem?_append]
      split
      · rfl
      · rename_i absent
        have none : self.sessions[process.session]? = none := by simpa using absent
        cases process.session - self.sessions.length <;> simp [none]
  | @request session message task _ handles =>
      refine Hosted.outside housed hosted move ?_ ?_ (fun _ => rfl) rfl rfl
      · exact fun process member => List.mem_append_left _ member
      · intro process member
        refine (List.mem_append.mp member).imp_right fun new => ?_
        cases List.mem_singleton.mp new
        exact removes_handler handles
  | @disconnect session current placed _ =>
      have same : (self.modifySession session fun current => { current with
          connected := false }).tables =
          self.tables := tables_modifySession (fun _ => rfl) fun _ => rfl
      refine Hosted.outside housed hosted move ?_ ?_
        (removed_eq (congrArg Tables.names same)) rfl rfl
      · exact fun process member => List.mem_append_left _ member
      · intro process member
        refine (List.mem_append.mp member).imp_right fun new => ?_
        cases List.mem_singleton.mp new
        rfl
  | @run index session task _ found stepped =>
      have others : task.admits = false → after.Hosted collate := by
        intro other
        rcases advance_turn stepped with ⟨cause, _, rfl⟩ | ⟨next, changed, turn, rfl⟩
        · exact hosted
        · exact turn.hosts housed hosted exclusive (inTime _ found) other found move
      cases task with
      | createRoom => exact advanceCreateRoom_hosted housed hosted move found stepped
      | joinRoom => exact advanceJoinRoom_hosted housed hosted move found stepped
      | _ => exact others rfl

theorem fresh_hosted : fresh.Hosted collate := by
  rintro roomId id ⟨row, member, _⟩
  simp [tables, fresh, Database.bare, Database.fresh] at member

end ServerState

end ChattingProgram.Server
