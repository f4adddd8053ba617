import ChattingProgram.Server.Rooms

namespace ChattingProgram.Server

open ChattingProgram.Machine

/-! # How rooms are destroyed

What the books of a room say about the server: a destroyed room is never joined
again, a published one counts all its users, and `DELETE` finds the row of the
room with no user left.
-/

/-- The room that a join has been admitted to, until it has called `AddUser`. -/
def Task.joins : Task → Option Nat
  | .joinRoom _ _ (.updateAccount _ room) | .joinRoom _ _ (.updateRoom _ room)
  | .joinRoom _ _ (.selectMembers _ room) | .joinRoom _ _ (.addUser room _) => some room
  | _ => none

/-- The room that is made but neither set in its session nor listed. -/
def Task.constructs : Task → Option Nat
  | .createRoom _ _ (.fetchAdd room) | .createRoom _ _ (.setRoom room) => some room
  | _ => none

/-- The room that `RemoveUser` works on, and where it stands. -/
def Task.removes : Task → Option (Nat × RemovePc)
  | .roomOut _ (.remove room pc) | .onDisconnected (.remove room pc) => some (room, pc)
  | _ => none

namespace ServerState

def Published (self : ServerState) (room : Nat) : Prop :=
  ∀ process ∈ self.processes, process.task.constructs ≠ some room

instance (self : ServerState) (room : Nat) : Decidable (self.Published room) :=
  inferInstanceAs (Decidable (∀ _ ∈ _, _))

variable {collate : String → String} {self after : ServerState} {index room : Nat} {current : Room}

theorem staff_of_forall
    (absent : ∀ process ∈ self.processes, process.task.activity.place ≠ some (room, stage)) :
    House.staff self.house.activities room stage = 0 := by
  refine total_eq_zero.mpr ?_
  intro activity member
  obtain ⟨process, processMember, rfl⟩ := List.mem_map.mp member
  rw [if_neg (absent process processMember)]

theorem forall_of_staff (none : House.staff self.house.activities room stage = 0)
    (member : process ∈ self.processes) : process.task.activity.place ≠ some (room, stage) := by
  intro placed
  have weight := total_eq_zero.mp none process.task.activity (List.mem_map_of_mem member)
  simp [placed] at weight

theorem staff_pos (member : process ∈ self.processes)
    (placed : process.task.activity.place = some (room, stage)) :
    0 < House.staff self.house.activities room stage := by
  by_contra none
  exact forall_of_staff (Nat.eq_zero_of_not_pos none) member placed

theorem staff_of_quiescent (quiescent : self.Quiescent) (room : Nat) (stage : Stage) :
    House.staff self.house.activities room stage = 0 := by
  refine staff_of_forall ?_
  intro process member
  rw [quiescent process member]
  simp [Task.activity, Activity.place]

theorem joins_place {task : Task} (joins : task.joins = some room) :
    task.activity.place = some (room, .admitted) ∨ task.activity.place = some (room, .joined) := by
  cases task with
  | joinRoom id roomName pc =>
      cases pc <;> simp_all [Task.joins, Task.activity, Activity.place]
  | _ => simp [Task.joins] at joins

theorem constructs_of_place {task : Task}
    (placed : task.activity.place = some (room, .constructing)) : task.constructs = some room := by
  cases task with
  | createRoom id roomName pc =>
      cases pc <;> simp_all [Task.constructs, Task.activity, Activity.place]
  | joinRoom id roomName pc => cases pc <;> simp_all [Task.activity, Activity.place]
  | roomOut id pc =>
      cases pc with
      | remove place pc => cases pc <;> simp_all [Task.activity, Activity.place, RemovePc.stage]
      | _ => simp_all [Task.activity, Activity.place]
  | onDisconnected pc =>
      cases pc with
      | remove place pc => cases pc <;> simp_all [Task.activity, Activity.place, RemovePc.stage]
      | _ => simp_all [Task.activity, Activity.place]
  | _ => simp_all [Task.activity, Activity.place]

theorem removes_place {task : Task} (removes : task.removes = some (room, pc)) :
    task.activity.place = some (room, pc.stage) := by
  cases task with
  | roomOut id pc => cases pc <;> simp_all [Task.removes, Task.activity, Activity.place]
  | onDisconnected pc => cases pc <;> simp_all [Task.removes, Task.activity, Activity.place]
  | _ => simp [Task.removes] at removes

theorem unjoined_of_destroyed (housed : self.Housed collate)
    (object : self.rooms[room]? = some current) (gone : current.roomState = destruction)
    (member : process ∈ self.processes) : process.task.joins ≠ some room := by
  intro joins
  have empty := (housed.sound object).empty gone
  simp only [House.books, Ledger.of, Ledger.arriving] at empty
  rcases joins_place joins with placed | placed
  · exact forall_of_staff (by omega) member placed
  · exact forall_of_staff (by omega) member placed

theorem run_destroyed (ran : (system collate).run events self = some after)
    (housed : self.Housed collate) (object : self.rooms[room]? = some current)
    (gone : current.roomState = destruction) :
    ∃ next, after.rooms[room]? = some next ∧ next.roomState = destruction := by
  induction events generalizing self current with
  | nil =>
      cases ran
      exact ⟨current, object, gone⟩
  | cons event rest ih =>
      obtain ⟨middle, stepped, remaining⟩ := System.run_cons_some.mp ran
      obtain ⟨next, nextObject, nextGone⟩ := (step_house housed stepped).remains housed object gone
      exact ih remaining (step_housed stepped housed) nextObject nextGone

theorem counted_of_published (housed : self.Housed collate)
    (object : self.rooms[room]? = some current) (published : self.Published room) :
    destruction ≤ current.roomState ∧
      (current.roomState ≠ destruction → (current.users.keys.length : Int) ≤ current.roomState) :=
        by
  have counted := (housed.sound object).counted
  have built : House.staff self.house.activities room .constructing = 0 := by
    refine staff_of_forall ?_
    intro process member placed
    exact published process member (constructs_of_place placed)
  simp only [House.books, Ledger.of, Ledger.arriving, built] at counted
  simp only [destruction] at counted ⊢
  by_cases gone : current.roomState = -1
  · simp [gone]
  · have bound := counted gone
    constructor
    · omega
    · intro _
      omega

theorem run_removes (found : self.processes[index]? = some process)
    (removes : process.task.removes = some (room, pc))
    (stepped : step collate (.run index) self = some after) :
    ∃ userId resume finished,
      self.advanceRemove collate index process.session room userId resume finished pc =
        some after := by
  simp only [step] at stepped
  split at stepped
  · contradiction
  simp only [found, Option.bind_some] at stepped
  obtain ⟨session, task⟩ := process
  cases task with
  | roomOut id pc =>
      cases pc with
      | remove place pc =>
          cases removes
          exact ⟨id, fun pc => .roomOut id (.remove room pc), .roomOut id (.reply room), stepped⟩
      | _ => contradiction
  | onDisconnected pc =>
      cases pc with
      | remove place pc =>
          cases removes
          exact ⟨self.sessionId session, fun pc => .onDisconnected (.remove room pc),
            .onDisconnected .readId, stepped⟩
      | _ => contradiction
  | _ => contradiction

theorem destroyed_of_deletes (housed : self.Housed collate)
    (found : self.processes[index]? = some process)
    (removes : process.task.removes = some (room, .delete))
    (object : self.rooms[room]? = some current) : current.roomState = destruction := by
  by_contra alive
  have present := staff_pos (List.mem_of_getElem? found) (removes_place removes)
  have none := (housed.sound object).kept alive
  simp only [House.books, Ledger.of, RemovePc.stage] at none present
  omega

theorem doomed_of_deletes (housed : self.Housed collate)
    (found : self.processes[index]? = some process)
    (removes : process.task.removes = some (room, .delete))
    (object : self.rooms[room]? = some current) :
    House.userCount self.db.room current.roomId = some 0 :=
  House.Consistent.deletes housed (house_found found) (removes_place removes) object

/-- A destroyed room has no user. -/
theorem users_of_destroyed (housed : self.Housed collate)
    (object : self.rooms[room]? = some current) (gone : current.roomState = destruction) :
    current.users.entries = [] := by
  have empty := (housed.sound object).empty gone
  simp only [House.books, Ledger.of] at empty
  have none : current.users.keys.length = 0 := by omega
  simpa [AList.keys, List.keys] using none

theorem deletes_row (housed : self.Housed collate) (found : self.processes[index]? = some process)
    (removes : process.task.removes = some (room, .delete))
    (object : self.rooms[room]? = some current)
    (stepped : step collate (.run index) self = some next) :
    (∃ row ∈ self.db.room, row.roomId = current.roomId ∧ row.userCount = 0) ∧
      ∀ row ∈ next.db.room, row.roomId ≠ current.roomId := by
  have doomed := doomed_of_deletes housed found removes object
  refine ⟨House.exists_of_userCount doomed, House.userCount_eq_none.mp ?_⟩
  obtain ⟨userId, resume, finished, removed⟩ := run_removes found removes stepped
  simp only [advanceRemove, withRoom, object, Option.bind_some] at removed
  cases removed
  have effect := House.userCount_apply_self .delete current.roomId housed.registry.distinct
  simp only [put, (self.db.deleteRoom_room current.roomId).1]
  rw [show self.db.room = self.house.rows from rfl, effect]
  rw [show House.userCount self.house.rows current.roomId = some 0 from doomed]
  rfl

/-- With no handler in progress, a listed room counts its row. -/
theorem counted_of_listed (housed : self.Housed collate) (quiescent : self.Quiescent)
    (object : self.rooms[room]? = some current) (alive : current.roomState ≠ destruction) :
    self.listed.lookup current.roomId = some room ∧
      House.userCount self.db.room current.roomId = some current.roomState := by
  have sound := housed.sound object
  have known := sound.known
  have row := sound.row alive
  simp only [House.books, Ledger.of, Ledger.publishers, staff_of_quiescent quiescent] at known row
  constructor
  · by_contra unlisted
    have publishers := known alive (decide_eq_false unlisted)
    omega
  · change House.userCount self.house.rows current.roomId = some current.roomState
    simpa using row

theorem row_listed (housed : self.Housed collate) (quiescent : self.Quiescent)
    (member : row ∈ self.db.room) : ∃ room current, self.listed.lookup row.roomId = some room ∧
      self.rooms[room]? = some current ∧ current.roomState = row.userCount := by
  have count : House.userCount self.db.room row.roomId = some row.userCount :=
    House.userCount_of_mem housed.registry.distinct member
  have idle : House.builders collate self.house.rows self.house.activities row.roomId = 0 := by
    refine total_eq_zero.mpr ?_
    intro activity activityMember
    obtain ⟨process, processMember, rfl⟩ := List.mem_map.mp activityMember
    rw [quiescent process processMember]
    rfl
  obtain ⟨current, currentMember, same⟩ : ∃ current ∈ self.rooms, current.roomId = row.roomId := by
    by_contra missing
    have owned := housed.registry.owned row member
    rw [idle, House.houses_eq_zero] at owned
    · omega
    · intro current currentMember same
      exact missing ⟨current, currentMember, same⟩
  obtain ⟨room, object⟩ := List.getElem?_of_mem currentMember
  have alive : current.roomState ≠ destruction := by
    intro gone
    have deleted := (housed.sound object).deleted gone (staff_of_quiescent quiescent room .deleting)
    simp only [House.books, Ledger.of, same] at deleted
    exact absurd (deleted.symm.trans count) (by simp)
  have counted := counted_of_listed housed quiescent object alive
  rw [same, count] at counted
  exact ⟨room, current, counted.1, object, (Option.some.inj counted.2).symm⟩

theorem alive_of_listed (housed : self.Housed collate) (quiescent : self.Quiescent)
    (object : self.rooms[room]? = some current)
    (lists : self.listed.lookup current.roomId = some room) : current.roomState ≠ destruction := by
  intro gone
  have forgotten := (housed.sound object).forgotten gone
    (by simp [House.books, Ledger.of, staff_of_quiescent quiescent])
  exact absurd lists (of_decide_eq_false forgotten.1)

theorem listed_row (housed : self.Housed collate) (quiescent : self.Quiescent)
    (lists : self.listed.lookup roomId = some room) :
    ∃ row ∈ self.db.room, row.roomId = roomId := by
  obtain ⟨current, object, rfl⟩ := housed.listed lists
  have alive := alive_of_listed housed quiescent object lists
  obtain ⟨row, member, same, _⟩ :=
    House.exists_of_userCount (counted_of_listed housed quiescent object alive).2
  exact ⟨row, member, same⟩

/-- The destruction protocol, in every state that the server reaches. -/
theorem destruction_protocol {events : List ServerEvent} {state : ServerState}
    (ran : (system collate).run events fresh = some state) :
    (∀ {room : Nat} {current : Room} {later : List ServerEvent} {future : ServerState},
      state.rooms[room]? = some current → current.roomState = destruction →
      (system collate).run later state = some future →
        (∃ next, future.rooms[room]? = some next ∧ next.roomState = destruction) ∧
          ∀ process ∈ future.processes, process.task.joins ≠ some room) ∧
    (∀ {room : Nat} {current : Room}, state.rooms[room]? = some current → state.Published room →
      destruction ≤ current.roomState ∧
        (current.roomState ≠ destruction → (current.users.keys.length : Int) ≤ current.roomState)) ∧
    (∀ {index room : Nat} {process : Process} {current : Room} {next : ServerState},
      state.processes[index]? = some process → process.task.removes = some (room, .delete) →
      state.rooms[room]? = some current → step collate (.run index) state = some next →
        (∃ row ∈ state.db.room, row.roomId = current.roomId ∧ row.userCount = 0) ∧
          ∀ row ∈ next.db.room, row.roomId ≠ current.roomId) ∧
    (state.Quiescent →
      (∀ row ∈ state.db.room, ∃ room current, state.listed.lookup row.roomId = some room ∧
        state.rooms[room]? = some current ∧ current.roomState = row.userCount) ∧
      ∀ roomId room, state.listed.lookup roomId = some room → ∃ row ∈ state.db.room,
        row.roomId = roomId) := by
  have housed : state.Housed collate := run_housed ran fresh_housed
  refine ⟨?_, ?_, ?_, ?_⟩
  · intro room current later future object gone continued
    obtain ⟨next, nextObject, nextGone⟩ := run_destroyed continued housed object gone
    refine ⟨⟨next, nextObject, nextGone⟩, ?_⟩
    intro process member
    exact unjoined_of_destroyed (run_housed continued housed) nextObject nextGone member
  · intro room current object published
    exact counted_of_published housed object published
  · intro index room process current next found removes object stepped
    exact deletes_row housed found removes object stepped
  · intro quiescent
    refine ⟨fun row member => row_listed housed quiescent member, ?_⟩
    intro roomId room lists
    exact listed_row housed quiescent lists

/-- The only user of a room leaves it; a join that comes later is refused. -/
theorem destruction_protocol_last_leaves :
    let events := [.connect, .connect] ++ handled 0 (.cRegister "a" "p") 0 2 ++
      handled 0 (.cCreateRoom "a" "r") 1 9 ++ handled 0 (.cRoomOut "a" "r") 2 10
    ∃ state future, (system id).run events fresh = some state ∧
      (system id).run (handled 1 (.cJoinRoom "b" "r") 3 2) state = some future ∧
      (∃ next, future.rooms[0]? = some next ∧ next.roomState = destruction) ∧
      ∀ process ∈ future.processes, process.task.joins ≠ some 0 := by
  intro events
  obtain ⟨state, future, ran, continued, current, object, gone⟩ : ∃ state future,
      (system id).run events fresh = some state ∧
      (system id).run (handled 1 (.cJoinRoom "b" "r") 3 2) state = some future ∧
      ∃ current, state.rooms[0]? = some current ∧ current.roomState = destruction :=
    ⟨_, _, rfl, rfl, _, rfl, rfl⟩
  exact ⟨state, future, ran, continued, (destruction_protocol ran).1 object gone continued⟩

end ServerState

end ChattingProgram.Server
