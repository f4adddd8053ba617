import ChattingProgram.Server.Tables
import ChattingProgram.Server.Destruction

namespace ChattingProgram.Server

open ChattingProgram.Protocol ChattingProgram.Machine

/-! # What a successful join is worth

One user joins a room while others leave theirs.  The join is admitted by
`roomState`; whether `AddUser` then makes the user a member depends on `_users`.
-/

namespace Database

variable {collate : String → String} {self after : Database} {id : String} {roomId : Nat}

theorem selectCurrentRoom_map {change : AccountRow → AccountRow}
    (same : ∀ row, (change row).id = row.id) (accounts : after.account = self.account.map change)
    (clears : ∀ {row target}, (change row).currentRoomId = some target →
      row.currentRoomId = some target)
    (found : after.selectCurrentRoom collate id = some (some roomId)) :
    self.selectCurrentRoom collate id = some (some roomId) := by
  simp only [selectCurrentRoom, accounts, List.find?_map, Option.map_map, Function.comp_def, same,
    Option.map_eq_some_iff] at found ⊢
  obtain ⟨row, isRow, refers⟩ := found
  exact ⟨row, isRow, clears refers⟩

theorem selectCurrentRoom_of_clear
    (updated : self.updateCurrentRoom collate userId none = some after)
    (found : after.selectCurrentRoom collate id = some (some roomId)) :
    self.selectCurrentRoom collate id = some (some roomId) := by
  simp only [updateCurrentRoom, Option.mem_def, reduceCtorEq, false_and, exists_false,
    and_false, if_false, Option.some.injEq] at updated
  subst updated
  refine selectCurrentRoom_map ?_ rfl ?_ found
  · intro row
    split <;> rfl
  · intro row target refers
    split at refers
    · contradiction
    · exact refers

theorem selectCurrentRoom_of_update
    (updated : self.updateCurrentRoom collate id target = some after)
    (selects : after.selectCurrentRoom collate id = some found) : found = target := by
  simp only [updateCurrentRoom] at updated
  split at updated
  · contradiction
  · cases updated
    simp only [selectCurrentRoom, Option.map_eq_some_iff] at selects
    obtain ⟨row, isRow, rfl⟩ := selects
    obtain ⟨source, _, rfl⟩ := List.mem_map.mp (List.mem_of_find?_eq_some isRow)
    have named := List.find?_some isRow
    split
    · rfl
    · rename_i other
      rw [if_neg other] at named
      exact absurd (of_decide_eq_true named) other

theorem selectCurrentRoom_of_deleteRoom
    (found : (self.deleteRoom target).selectCurrentRoom collate id = some (some roomId)) :
    self.selectCurrentRoom collate id = some (some roomId) := by
  simp only [deleteRoom] at found
  split at found
  · refine selectCurrentRoom_map ?_ rfl ?_ found
    · intro row
      split <;> rfl
    · intro row other refers
      split at refers
      · contradiction
      · exact refers
  · exact found

end Database

namespace Tables

/-- A step that does nothing to the user `id` but may clear their account. -/
structure Elsewhere (collate : String → String) (id : String) (before after : Tables) : Prop where
  rooms : ∀ {room : Nat} {current : Room}, before.rooms[room]? = some current →
    ∃ next, after.rooms[room]? = some next ∧ next.roomId = current.roomId ∧
      next.users.lookup id = current.users.lookup id ∧
      ∀ {key user}, next.users.lookup key = some user → current.users.lookup key = some user
  length : after.rooms.length = before.rooms.length
  sessions : after.seats.length = before.seats.length
  seats : ∀ session : Nat, after.seats[session]? = before.seats[session]? ∨
    ∃ (room : Nat) (current : Room) (key : String), before.rooms[room]? = some current ∧ key ≠ id ∧
      current.users.lookup key = some session
  account : ∀ {roomId : Nat}, after.db.selectCurrentRoom collate id = some (some roomId) →
    before.db.selectCurrentRoom collate id = some (some roomId)

/-- No other user of a room has the session. -/
structure Apart (session : Nat) (id : String) (tables : Tables) : Prop where
  connected : session < tables.seats.length
  other : ∀ {room : Nat} {current : Room} {key : String}, tables.rooms[room]? =
    some current → key ≠ id → current.users.lookup key ≠ some session

/-- The account of the user refers to the room, if it refers to one. -/
def Assigned (collate : String → String) (id : String) (room : Nat) (tables : Tables) : Prop :=
  ∃ current, tables.rooms[room]? = some current ∧
    ∀ roomId, tables.db.selectCurrentRoom collate id = some (some roomId) → roomId = current.roomId

def Uses (session : Nat) (id : String) (room : Nat) (tables : Tables) : Prop :=
  ∃ current, tables.rooms[room]? = some current ∧ current.users.lookup id = some session

structure Inside (collate : String → String) (session : Nat) (id : String) (room : Nat)
    (tables : Tables) : Prop where
  user : tables.Uses session id room
  seat : tables.seats[session]? = some (some room)
  assigned : tables.Assigned collate id room

def Absent (id : String) (room : Nat) (tables : Tables) : Prop :=
  ∃ current, tables.rooms[room]? = some current ∧ current.users.lookup id = none

variable {collate : String → String} {id : String} {session room : Nat}
  {before after tables : Tables}

theorem Elsewhere.refl : Elsewhere collate id tables tables where
  rooms := fun object => ⟨_, object, rfl, rfl, fun isUser => isUser⟩
  length := rfl
  sessions := rfl
  seats := fun _ => .inl rfl
  account := fun found => found

theorem Elsewhere.room_of_after (elsewhere : Elsewhere collate id before after)
    (object : after.rooms[room]? = some next) : ∃ current, before.rooms[room]? = some current ∧
      next.roomId = current.roomId ∧ next.users.lookup id = current.users.lookup id ∧
      ∀ {key user}, next.users.lookup key = some user → current.users.lookup key = some user := by
  obtain ⟨below, _⟩ := List.getElem?_eq_some_iff.mp object
  rw [elsewhere.length] at below
  obtain ⟨other, otherObject, facts⟩ := elsewhere.rooms (List.getElem?_eq_getElem below)
  cases object.symm.trans otherObject
  exact ⟨_, List.getElem?_eq_getElem below, facts⟩

theorem Elsewhere.trans (first : Elsewhere collate id before middle)
    (second : Elsewhere collate id middle after) : Elsewhere collate id before after where
  rooms := by
    intro room current object
    obtain ⟨next, nextObject, sameId, same, users⟩ := first.rooms object
    obtain ⟨last, lastObject, lastId, lastSame, lastUsers⟩ := second.rooms nextObject
    exact ⟨last, lastObject, lastId.trans sameId, lastSame.trans same,
      fun isUser => users (lastUsers isUser)⟩
  length := second.length.trans first.length
  sessions := second.sessions.trans first.sessions
  seats := by
    intro session
    rcases second.seats session with same | ⟨room, current, key, object, different, isUser⟩
    · rw [same]
      exact first.seats session
    · obtain ⟨earlier, earlierObject, _, _, users⟩ := first.room_of_after object
      exact .inr ⟨room, earlier, key, earlierObject, different, users isUser⟩
  account := fun found => first.account (second.account found)

theorem Apart.elsewhere (apart : before.Apart session id)
    (elsewhere : Elsewhere collate userId before after) : after.Apart session id where
  connected := by
    rw [elsewhere.sessions]
    exact apart.connected
  other := by
    intro room next key object different isUser
    obtain ⟨current, currentObject, _, _, users⟩ := elsewhere.room_of_after object
    exact apart.other currentObject different (users isUser)

theorem Assigned.elsewhere (assigned : before.Assigned collate id room)
    (elsewhere : Elsewhere collate id before after) : after.Assigned collate id room := by
  obtain ⟨current, object, refers⟩ := assigned
  obtain ⟨next, nextObject, sameId, _⟩ := elsewhere.rooms object
  refine ⟨next, nextObject, ?_⟩
  intro roomId found
  rw [sameId]
  exact refers roomId (elsewhere.account found)

theorem Uses.elsewhere (uses : before.Uses session id room)
    (elsewhere : Elsewhere collate id before after) : after.Uses session id room := by
  obtain ⟨current, object, isUser⟩ := uses
  obtain ⟨next, nextObject, _, same, _⟩ := elsewhere.rooms object
  exact ⟨next, nextObject, same.trans isUser⟩

theorem Inside.elsewhere (inside : before.Inside collate session id room)
    (apart : before.Apart session id) (elsewhere : Elsewhere collate id before after) :
    after.Inside collate session id room where
  user := inside.user.elsewhere elsewhere
  seat := by
    rcases elsewhere.seats session with same | ⟨place, current, key, object, different, isUser⟩
    · exact same.trans inside.seat
    · exact absurd isUser (apart.other object different)
  assigned := inside.assigned.elsewhere elsewhere

theorem Absent.elsewhere (absent : before.Absent id room)
    (elsewhere : Elsewhere collate id before after) : after.Absent id room := by
  obtain ⟨current, object, missing⟩ := absent
  obtain ⟨next, nextObject, _, same, _⟩ := elsewhere.rooms object
  exact ⟨next, nextObject, same.trans missing⟩

theorem Elsewhere.setObject {next : Room} (object : before.rooms[room]? = some current)
    (sameId : next.roomId = current.roomId)
    (same : next.users.lookup id = current.users.lookup id)
    (users : ∀ {key user}, next.users.lookup key = some user →
      current.users.lookup key = some user) :
    Elsewhere collate id before (before.setObject room next) where
  rooms := by
    intro place other otherObject
    simp only [Tables.setObject, List.getElem?_set]
    split
    · rename_i here
      subst here
      cases object.symm.trans otherObject
      obtain ⟨below, _⟩ := List.getElem?_eq_some_iff.mp object
      exact ⟨next, if_pos below, sameId, same, users⟩
    · exact ⟨other, otherObject, rfl, rfl, fun isUser => isUser⟩
  length := List.length_set
  sessions := rfl
  seats := fun _ => .inl rfl
  account := fun found => found

theorem Elsewhere.setDatabase {db : Database}
    (account : ∀ {roomId}, db.selectCurrentRoom collate id = some (some roomId) →
      before.db.selectCurrentRoom collate id = some (some roomId)) :
    Elsewhere collate id before { before with db := db } where
  rooms := fun object => ⟨_, object, rfl, rfl, fun isUser => isUser⟩
  length := rfl
  sessions := rfl
  seats := fun _ => .inl rfl
  account := account

theorem Elsewhere.setListed {listed : AList fun _ : Nat => Nat} :
    Elsewhere collate id before { before with listed := listed } where
  rooms := fun object => ⟨_, object, rfl, rfl, fun isUser => isUser⟩
  length := rfl
  sessions := rfl
  seats := fun _ => .inl rfl
  account := fun found => found

theorem Elsewhere.unseat (object : before.rooms[room]? = some current) (different : key ≠ id)
    (isUser : current.users.lookup key = some user) :
    Elsewhere collate id before (before.seat user none) where
  rooms := fun object => ⟨_, object, rfl, rfl, fun isUser => isUser⟩
  length := rfl
  sessions := List.length_modify ..
  seats := by
    intro session
    by_cases here : session = user
    · subst here
      exact .inr ⟨room, current, key, object, different, isUser⟩
    · exact .inl (List.getElem?_modify_ne _ _ (Ne.symm here))
  account := fun found => found

end Tables

section Steps

open Tables

variable {collate : String → String} {id userId : String} {session room : Nat}
  {before after : Tables}

theorem lookup_of_erase {users : Users} (isUser : (users.erase other).lookup key = some user) :
    users.lookup key = some user := by
  by_cases same : key = other
  · subst same
    simp at isUser
  · rwa [AList.lookup_erase_ne same] at isUser

theorem RemoveStep.elsewhere (different : userId ≠ id)
    (rule : RemoveStep collate room userId before pc goal after) :
    Elsewhere collate id before after := by
  cases rule with
  | updateAccount object free updated =>
      refine .trans (.setDatabase fun found => Database.selectCurrentRoom_of_clear updated found) ?_
      exact .setObject object rfl rfl fun isUser => isUser
  | updateRoom object => exact .setDatabase fun found => found
  | erase object isUser =>
      refine .trans (.unseat object different isUser) (.setObject object rfl ?_ lookup_of_erase)
      exact AList.lookup_erase_ne different.symm
  | fetchSub object | destroy object | broadcast object =>
      exact .setObject object rfl rfl fun isUser => isUser
  | keep object | select => exact .refl
  | delete object => exact .setDatabase Database.selectCurrentRoom_of_deleteRoom
  | removeRoom object lists =>
      exact .trans .setListed (.setObject object rfl rfl fun isUser => isUser)

theorem OutStep.elsewhere (different : userId ≠ id)
    (rule : OutStep collate userId before pc goal after) : Elsewhere collate id before after := by
  cases rule with
  | select found | getRoom lists | reply => exact .refl
  | remove rule => exact rule.elsewhere different

/-- What the join has done to the user when it is at a position. -/
def JoinPc.Progress (collate : String → String) (session : Nat) (id : String)
    (tables : Tables) : JoinPc → Prop
  | .updateRoom _ room | .selectMembers _ room | .addUser room _ => tables.Assigned collate id room
  | .broadcast room _ | .reply (some room) true _ => tables.Inside collate session id room
  | _ => True

theorem JoinPc.Progress.elsewhere {pc : JoinPc} (progress : pc.Progress collate session id before)
    (apart : before.Apart session id) (elsewhere : Elsewhere collate id before after) :
    pc.Progress collate session id after := by
  cases pc with
  | updateRoom | selectMembers | addUser => exact Assigned.elsewhere progress elsewhere
  | broadcast => exact Inside.elsewhere progress apart elsewhere
  | reply room canJoin userIds =>
      cases room with
      | none => trivial
      | some room =>
          cases canJoin with
          | true => exact Inside.elsewhere progress apart elsewhere
          | false => trivial
  | _ => trivial

theorem JoinStep.apart (apart : before.Apart session id)
    (rule : JoinStep collate session id roomName before pc goal after) :
    after.Apart session id := by
  cases rule with
  | cas object same =>
      refine apart.elsewhere (?_ : Elsewhere collate id before _)
      exact .setObject object rfl rfl fun isUser => isUser
  | addUser object used =>
      refine ⟨?_, ?_⟩
      · simpa [Tables.seat, Tables.setObject] using apart.connected
      · intro place next key nextObject different isUser
        rcases getElem?_set_cases nextObject with ⟨_, rfl⟩ | ⟨_, otherObject⟩
        · rw [AList.lookup_insert_ne different] at isUser
          exact apart.other object different isUser
        · exact apart.other otherObject different isUser
  | updateAccount updated => exact ⟨apart.connected, apart.other⟩
  | updateRoom => exact ⟨apart.connected, apart.other⟩
  | _ => exact apart

theorem JoinStep.progress (apart : before.Apart session id)
    (known : ∀ roomId room, pc = .updateAccount roomId room →
      ∃ current, before.rooms[room]? = some current ∧ current.roomId = roomId)
    (progress : pc.Progress collate session id before)
    (finds : (Task.joinRoom id roomName pc).Finds before)
    (rule : JoinStep collate session id roomName before pc (some goal) after) :
    goal.Progress collate session id after := by
  cases rule with
  | select | unknown | getRoom | unlisted | load | refuse | again | lost | cas => trivial
  | @updateAccount roomId room db updated =>
      obtain ⟨current, object, sameId⟩ := known roomId room rfl
      refine ⟨current, object, ?_⟩
      intro target found
      cases Database.selectCurrentRoom_of_update updated found
      exact sameId.symm
  | updateRoom => exact progress
  | selectMembers => exact progress
  | miss object deserted => exact absurd deserted (finds _ object)
  | @addUser room userIds current object used =>
      obtain ⟨other, otherObject, refers⟩ := progress
      cases object.symm.trans otherObject
      obtain ⟨below, _⟩ := List.getElem?_eq_some_iff.mp object
      have nextObject : (before.rooms.set room { current with
          users := current.users.insert id session })[room]? =
          some { current with users := current.users.insert id session } :=
          List.getElem?_set_self below
      refine ⟨⟨_, nextObject, AList.lookup_insert _⟩, ?_, ⟨_, nextObject, refers⟩⟩
      simp [Tables.seat, Tables.setObject, apart.connected]
  | broadcast => exact progress

theorem JoinStep.misses (finds : ¬ (Task.joinRoom id roomName pc).Finds before)
    (rule : JoinStep collate session id roomName before pc goal after) :
    ∃ room userIds, goal = some (.broadcast room userIds) ∧ after.Absent id room := by
  cases rule with
  | @miss room userIds current object deserted =>
      refine ⟨room, userIds, rfl, current, object, ?_⟩
      simp [AList.lookup, deserted]
  | addUser object used =>
      refine absurd ?_ finds
      intro other otherObject
      cases object.symm.trans otherObject
      exact used
  | _ => exact absurd trivial finds

/-- The room that a join has called `AddUser` on. -/
def JoinPc.past : JoinPc → Option Nat
  | .broadcast room _ | .reply (some room) true _ => some room
  | _ => none

theorem JoinStep.past {pc : JoinPc} (past : pc.past = some room)
    (rule : JoinStep collate session id roomName before pc goal after) :
    after = before ∧ ∀ next ∈ goal, next.past = some room := by
  cases rule with
  | broadcast => exact ⟨rfl, by simpa [JoinPc.past] using past⟩
  | reply => exact ⟨rfl, by simp⟩
  | _ => simp [JoinPc.past] at past

theorem OutStep.apart (apart : before.Apart session id)
    (rule : OutStep collate userId before pc goal after) : after.Apart session id := by
  obtain ⟨other, different⟩ : ∃ other, userId ≠ other := by
    by_cases empty : userId = ""
    · exact ⟨"a", by simp [empty]⟩
    · exact ⟨"", empty⟩
  exact apart.elsewhere (rule.elsewhere different)

/-- Where the user is while their own `C_ROOM_OUT` has not erased them. -/
def OutPc.Ahead (collate : String → String) (session : Nat) (id : String) (room : Nat)
    (tables : Tables) : OutPc → Prop
  | .select => tables.Inside collate session id room
  | .getRoom roomId => tables.Uses session id room ∧
      ∃ current, tables.rooms[room]? = some current ∧ current.roomId = roomId
  | .remove place .updateAccount | .remove place .updateRoom | .remove place .erase =>
      tables.Uses session id room ∧ place = room
  | _ => True

theorem OutPc.Ahead.elsewhere {pc : OutPc} (ahead : pc.Ahead collate session id room before)
    (apart : before.Apart session id) (elsewhere : Elsewhere collate id before after) :
    pc.Ahead collate session id room after := by
  cases pc with
  | select => exact Inside.elsewhere ahead apart elsewhere
  | getRoom roomId =>
      obtain ⟨uses, current, object, sameId⟩ := ahead
      obtain ⟨next, nextObject, nextId, _⟩ := elsewhere.rooms object
      exact ⟨uses.elsewhere elsewhere, next, nextObject, nextId.trans sameId⟩
  | remove place pc =>
      cases pc with
      | updateAccount | updateRoom | erase => exact ⟨ahead.1.elsewhere elsewhere, ahead.2⟩
      | _ => trivial
  | reply => trivial

theorem OutStep.ahead {pc : OutPc} (ahead : pc.Ahead collate session id room before)
    (unique : ∀ roomId place current, before.listed.lookup roomId = some place →
      before.rooms[room]? = some current →
      current.roomId = roomId → place = room)
    (rule : OutStep collate id before pc (some goal) after) :
    goal.Ahead collate session id room after := by
  cases rule with
  | select found =>
      obtain ⟨current, object, refers⟩ := ahead.assigned
      exact ⟨ahead.user, current, object, (refers _ found).symm⟩
  | getRoom lists =>
      obtain ⟨uses, current, object, sameId⟩ := ahead
      exact ⟨uses, unique _ _ _ lists object sameId⟩
  | remove rule =>
      cases rule with
      | @updateAccount current db object free updated =>
          obtain ⟨⟨other, otherObject, isUser⟩, rfl⟩ := ahead
          cases object.symm.trans otherObject
          exact ⟨⟨_, List.getElem?_set_self (List.getElem?_eq_some_iff.mp object).1, isUser⟩, rfl⟩
      | updateRoom object => exact ahead
      | erase | fetchSub | destroy | keep | delete | removeRoom | select | broadcast => trivial

end Steps

/-- The events of the handlers in progress, and of others than the user that leave. -/
def ServerEvent.Leaves (id : String) : ServerEvent → Prop
  | .run _ => True
  | .request _ (.cRoomOut userId _) => userId ≠ id
  | _ => False

instance (id : String) : DecidablePred (ServerEvent.Leaves id)
  | .run _ => .isTrue trivial
  | .connect | .disconnect _ => .isFalse fun leaves => leaves
  | .request _ message => by
      cases message <;> simp only [ServerEvent.Leaves] <;> infer_instance

/-- A handler that does nothing to the user: it has nothing left to do, or another
user leaves. -/
inductive Task.Bystander (id : String) : Task → Prop where
  | done : Bystander id .done
  | leaves {userId : String} {pc : OutPc} : userId ≠ id → Bystander id (.roomOut userId pc)
  | past {userId roomName : String} {room : Nat} {pc : JoinPc} : pc.past = some room →
      Bystander id (.joinRoom userId roomName pc)

namespace ServerState

/-- All handlers but the one of interest are bystanders. -/
def Company (self : ServerState) (id : String) (index : Option Nat) : Prop :=
  ∀ (place : Nat) (process : Process), self.processes[place]? = some process → index ≠ some place →
    process.task.Bystander id

variable {collate : String → String} {self after : ServerState} {index session : Nat} {id : String}
  {special : Option Nat}

theorem Company.goes (company : self.Company id special)
    (processes : after.processes = self.processes.set index ⟨session, next⟩)
    (bystander : special ≠ some index → next.Bystander id) : after.Company id special := by
  intro place process found different
  rw [processes] at found
  rcases getElem?_set_cases found with ⟨rfl, rfl⟩ | ⟨_, unmoved⟩
  · exact bystander different
  · exact company _ _ unmoved different

theorem advance_bystander {task : Task} (bystander : task.Bystander id)
    (found : self.processes[index]? = some ⟨session, task⟩)
    (stepped : self.advance collate index session task = some after) :
    ∃ next, Task.Bystander id next ∧ after.processes = self.processes.set index ⟨session, next⟩ ∧
      Tables.Elsewhere collate id self.tables after.tables := by
  cases bystander with
  | done => contradiction
  | @leaves userId pc different =>
      rcases advanceRoomOut_tables stepped with ⟨_, cause, rfl⟩ | ⟨_, ⟨goal, rfl, rule⟩, goes⟩
      · exact ⟨_, .leaves different, (set_same found).symm, .refl⟩
      · refine ⟨_, ?_, goes.processes, rule.elsewhere different⟩
        cases goal with
        | none => exact .done
        | some goal => exact .leaves different
  | @past userId roomName room pc past =>
      obtain ⟨_, ⟨goal, rfl, rule⟩, goes⟩ := advanceJoinRoom_tables stepped
      obtain ⟨same, still⟩ := rule.past past
      refine ⟨_, ?_, goes.processes, same ▸ .refl⟩
      cases goal with
      | none => exact .done
      | some goal => exact .past (still goal rfl)

/-- A step in company is one of the handler of interest, or does nothing to the user. -/
theorem step_company {event : ServerEvent} (company : self.Company id special)
    (leaves : event.Leaves id) (stepped : (system collate).step event self = some after) :
    (∃ index, special = some index ∧ event = .run index) ∨
      (after.Company id special ∧ Tables.Elsewhere collate id self.tables after.tables ∧
        ∀ index process, special = some index → self.processes[index]? = some process →
          after.processes[index]? = some process) := by
  cases (step_happens stepped).2 with
  | connect | disconnect => exact leaves.elim
  | @request session message task _ handles =>
      cases message with
      | cRoomOut userId roomName =>
          cases handles
          refine .inr ⟨?_, .refl, ?_⟩
          · intro place process found different
            rcases getElem?_concat_cases found with earlier | ⟨_, rfl⟩
            · exact company _ _ earlier different
            · exact .leaves leaves
          · intro index process _ found
            obtain ⟨below, _⟩ := List.getElem?_eq_some_iff.mp found
            exact (List.getElem?_append_left below).trans found
      | _ => exact leaves.elim
  | @run index session task _ found stepped =>
      by_cases here : special = some index
      · exact .inl ⟨index, here, rfl⟩
      · obtain ⟨next, bystander, processes, elsewhere⟩ :=
          advance_bystander (company _ _ found here) found stepped
        refine .inr ⟨company.goes processes fun _ => bystander, elsewhere, ?_⟩
        intro place process isSpecial placed
        rw [processes, List.getElem?_set_ne]
        · exact placed
        · rintro rfl
          exact here isSpecial

/-- The join, as long as `AddUser` has found users. -/
structure Joins (collate : String → String) (index session : Nat) (id roomName : String)
    (server : ServerState) : Prop where
  housed : server.Housed collate
  company : server.Company id (some index)
  apart : server.tables.Apart session id
  joins : ∃ task, server.processes[index]? = some ⟨session, task⟩ ∧ (task = .done ∨
    ∃ pc, task = .joinRoom id roomName pc ∧ pc.Progress collate session id server.tables)

theorem step_joins {event : ServerEvent} (leaves : event.Leaves id)
    (finds : FindsUsers event self) (stepped : (system collate).step event self = some after)
    (before : self.Joins collate index session id roomName) :
    after.Joins collate index session id roomName := by
  have housed := step_housed stepped before.housed
  obtain ⟨task, found, joins⟩ := before.joins
  rcases step_company before.company leaves stepped with ⟨_, ⟨⟩, rfl⟩ | ⟨company, elsewhere, same⟩
  · obtain ⟨_, stepped⟩ := advance_of_step found stepped
    rcases joins with rfl | ⟨pc, rfl, progress⟩
    · contradiction
    · obtain ⟨_, ⟨goal, rfl, rule⟩, goes⟩ := advanceJoinRoom_tables stepped
      refine ⟨housed, before.company.goes goes.processes (by simp), rule.apart before.apart, _,
        goes.found found, ?_⟩
      cases goal with
      | none => exact .inl rfl
      | some goal =>
          refine .inr ⟨goal, rfl, rule.progress before.apart ?_ progress ?_⟩
          · rintro roomId room rfl
            have fits := before.housed.fits _ (List.mem_of_getElem? (house_found found))
            obtain ⟨current, object, known⟩ := fits.present rfl
            exact ⟨current, object, known roomId rfl⟩
          · exact finds _ found
  · refine ⟨housed, company, before.apart.elsewhere elsewhere, task, same _ _ rfl found, ?_⟩
    rcases joins with rfl | ⟨pc, rfl, progress⟩
    · exact .inl rfl
    · exact .inr ⟨pc, rfl, progress.elsewhere before.apart elsewhere⟩

/-- The join, after `AddUser` has found no user. -/
structure Misses (index session : Nat) (id roomName : String) (room : Nat)
    (server : ServerState) : Prop where
  company : server.Company id (some index)
  apart : server.tables.Apart session id
  absent : server.tables.Absent id room
  joins : ∃ task, server.processes[index]? = some ⟨session, task⟩ ∧ (task = .done ∨
    ∃ pc, task = .joinRoom id roomName pc ∧ pc.past = some room)

theorem step_misses {event : ServerEvent} (leaves : event.Leaves id)
    (stepped : (system collate).step event self = some after)
    (before : self.Misses index session id roomName room) :
    after.Misses index session id roomName room := by
  obtain ⟨task, found, joins⟩ := before.joins
  rcases step_company before.company leaves stepped with ⟨_, ⟨⟩, rfl⟩ | ⟨company, elsewhere, same⟩
  · obtain ⟨_, stepped⟩ := advance_of_step found stepped
    rcases joins with rfl | ⟨pc, rfl, past⟩
    · contradiction
    · obtain ⟨_, ⟨goal, rfl, rule⟩, goes⟩ := advanceJoinRoom_tables stepped
      obtain ⟨same, still⟩ := rule.past past
      refine ⟨before.company.goes goes.processes (by simp), same ▸ before.apart,
        same ▸ before.absent, _, goes.found found, ?_⟩
      cases goal with
      | none => exact .inl rfl
      | some goal => exact .inr ⟨goal, rfl, still goal rfl⟩
  · exact ⟨company, before.apart.elsewhere elsewhere, before.absent.elsewhere elsewhere, task,
      same _ _ rfl found, joins⟩

theorem misses_of_not_finds (finds : ¬ FindsUsers event self)
    (stepped : (system collate).step event self = some after)
    (before : self.Joins collate index session id roomName) :
    ∃ room, after.Misses index session id roomName room := by
  cases event with
  | connect | request | disconnect => exact absurd trivial finds
  | run place =>
      simp only [FindsUsers, not_forall] at finds
      obtain ⟨⟨user, task⟩, found, finds⟩ := finds
      by_cases here : some index = some place
      · cases here
        obtain ⟨_, found', joins⟩ := before.joins
        cases found.symm.trans found'
        obtain ⟨_, stepped⟩ := advance_of_step found stepped
        rcases joins with rfl | ⟨pc, rfl, progress⟩
        · contradiction
        obtain ⟨_, ⟨goal, rfl, rule⟩, goes⟩ := advanceJoinRoom_tables stepped
        obtain ⟨room, userIds, rfl, absent⟩ := rule.misses finds
        refine ⟨room, before.company.goes goes.processes (by simp),
          rule.apart before.apart, absent, _, goes.found found, ?_⟩
        exact .inr ⟨_, rfl, rfl⟩
      · cases before.company _ _ found here with
        | done | leaves => exact absurd trivial finds
        | @past _ _ _ pc past => cases pc <;> simp_all [Task.Finds, JoinPc.past]

/-- What other users leave alone stays while they leave. -/
theorem run_kept {Kept : Tables → Prop}
    (keeps : ∀ {before after}, Kept before → before.Apart session id →
      Tables.Elsewhere collate id before after → Kept after)
    (leaves : ∀ event ∈ events, event.Leaves id)
    (ran : (system collate).run events self = some after) (company : self.Company id none)
    (apart : self.tables.Apart session id) (kept : Kept self.tables) :
    after.Company id none ∧ after.tables.Apart session id ∧ Kept after.tables := by
  induction events generalizing self with
  | nil =>
      cases ran
      exact ⟨company, apart, kept⟩
  | cons event rest ih =>
      obtain ⟨middle, stepped, remaining⟩ := System.run_cons_some.mp ran
      rcases step_company company (leaves event List.mem_cons_self) stepped with
        ⟨_, ⟨⟩, _⟩ | ⟨nextCompany, elsewhere, _⟩
      exact ih (fun event member => leaves event (List.mem_cons_of_mem _ member))
        remaining nextCompany (apart.elsewhere elsewhere) (keeps kept apart elsewhere)

/-- The user is a member of a `Room` in `_rooms`. -/
structure Member (server : ServerState) (session : Nat) (id : String) (room : Nat) : Prop where
  user : ∃ current, server.rooms[room]? = some current ∧ current.users.lookup id = some session ∧
    server.listed.lookup current.roomId = some room
  seat : (server.sessions[session]?).bind ClientSession.room = some room

theorem bystander_place {task : Task} (bystander : task.Bystander id)
    (publishes : stage = .constructing ∨ stage = .constructed ∨ stage = .listing) :
    task.activity.place ≠ some (room, stage) := by
  cases bystander with
  | done => simp [Task.activity, Activity.place]
  | @leaves userId pc different =>
      cases pc with
      | remove place pc =>
          cases pc <;> rcases publishes with rfl | rfl | rfl <;>
            simp [Task.activity, Activity.place, RemovePc.stage]
      | _ => simp [Task.activity, Activity.place]
  | @past userId roomName place pc past =>
      cases pc <;> simp_all [Task.activity, Activity.place, JoinPc.past]

theorem member_of_inside (inside : self.tables.Inside collate session id room)
    (housed : self.Housed collate) (company : self.Company id none) :
    self.Member session id room := by
  obtain ⟨current, object, isUser⟩ := inside.user
  have sound := housed.sound object
  have idle : ∀ stage, stage = .constructing ∨ stage = .constructed ∨ stage = .listing →
      House.staff self.house.activities room stage = 0 := by
    intro stage publishes
    refine staff_of_forall fun process member => ?_
    obtain ⟨place, found⟩ := List.getElem?_of_mem member
    exact bystander_place (company place process found (by simp)) publishes
  have present : 0 < current.users.keys.length :=
    List.length_pos_of_mem (AList.lookup_isSome.mp (by rw [isUser]; rfl) : id ∈ current.users)
  have alive : current.roomState ≠ destruction := by
    intro gone
    have empty := sound.empty gone
    simp only [House.books, Ledger.of] at empty
    omega
  refine ⟨⟨current, object, isUser, ?_⟩, ?_⟩
  · by_contra unlisted
    have publishers := sound.known alive (decide_eq_false unlisted)
    simp only [House.books, Ledger.of, Ledger.publishers] at publishers
    rw [idle _ (.inl rfl), idle _ (.inr (.inl rfl)), idle _ (.inr (.inr rfl))] at publishers
    omega
  · have seat := inside.seat
    simp only [tables, List.getElem?_map, Option.map_eq_some_iff] at seat
    obtain ⟨current, found, sits⟩ := seat
    rw [found]
    exact sits

/-- The user's own `C_ROOM_OUT`. -/
structure Departs (collate : String → String) (index session : Nat) (id : String) (room : Nat)
    (server : ServerState) : Prop where
  housed : server.Housed collate
  company : server.Company id (some index)
  apart : server.tables.Apart session id
  departs : ∃ task, server.processes[index]? = some ⟨session, task⟩ ∧ (task = .done ∨
    ∃ pc, task = .roomOut id pc ∧ pc.Ahead collate session id room server.tables)

theorem step_departs {event : ServerEvent} (leaves : event.Leaves id)
    (stepped : (system collate).step event self = some after)
    (before : self.Departs collate index session id room) :
    after.Departs collate index session id room := by
  have housed := step_housed stepped before.housed
  obtain ⟨task, found, departs⟩ := before.departs
  rcases step_company before.company leaves stepped with ⟨_, ⟨⟩, rfl⟩ | ⟨company, elsewhere, same⟩
  · obtain ⟨_, stepped⟩ := advance_of_step found stepped
    rcases departs with rfl | ⟨pc, rfl, ahead⟩
    · contradiction
    · rcases advanceRoomOut_tables stepped with ⟨_, cause, rfl⟩ | ⟨_, ⟨goal, rfl, rule⟩, goes⟩
      · exact ⟨housed, before.company, before.apart, _, found, .inr ⟨pc, rfl, ahead⟩⟩
      · refine ⟨housed, before.company.goes goes.processes (by simp), rule.apart before.apart, _,
          goes.found found, ?_⟩
        cases goal with
        | none => exact .inl rfl
        | some goal =>
            refine .inr ⟨goal, rfl, rule.ahead ahead ?_⟩
            intro roomId place current lists object sameId
            obtain ⟨other, otherObject, otherId⟩ := before.housed.listed lists
            exact before.housed.registry.id_unique otherObject object (otherId.trans sameId.symm)
  · refine ⟨housed, company, before.apart.elsewhere elsewhere, task, same _ _ rfl found, ?_⟩
    rcases departs with rfl | ⟨pc, rfl, ahead⟩
    · exact .inl rfl
    · exact .inr ⟨pc, rfl, ahead.elsewhere before.apart elsewhere⟩

theorem Company.spawn (company : self.Company id none) (session : Nat) (task : Task) :
    (self.spawn session task).Company id (some self.processes.length) := by
  intro place process found different
  rcases getElem?_concat_cases found with earlier | ⟨rfl, _⟩
  · exact company _ _ earlier (by simp)
  · exact absurd rfl different

theorem Company.of_quiescent (quiescent : self.Quiescent) (id : String) : self.Company id none := by
  intro place process found _
  rw [quiescent process (List.mem_of_getElem? found)]
  exact .done

theorem Company.of_past (company : self.Company id (some index))
    (found : self.processes[index]? = some ⟨session, .joinRoom userId roomName pc⟩)
    (past : pc.past = some room) : self.Company id none := by
  intro place process placed _
  by_cases here : some index = some place
  · cases here
    cases found.symm.trans placed
    exact .past past
  · exact company place process placed here

section Outcome

variable {first : List ServerEvent} {started replying : ServerState} {room : Nat}
  {roomName : String} {userIds : List String}

theorem inside_of_guarded (before : started.Joins collate index session id roomName)
    (ran : (system collate).run first started = some replying)
    (leaves : ∀ event ∈ first, event.Leaves id)
    (guarded : (system collate).Guarded FindsUsers first started)
    (succeeds : replying.processes[index]? =
      some ⟨session, .joinRoom id roomName (.reply (some room) true userIds)⟩) :
    replying.Company id none ∧ replying.tables.Apart session id ∧
      replying.tables.Inside collate session id room := by
  have joins : replying.Joins collate index session id roomName :=
    System.run_preserves_guarded (fun both stepped before =>
      step_joins both.1 both.2 stepped before)
      ((System.guarded_of_forall leaves).and guarded) ran before
  refine ⟨joins.company.of_past succeeds rfl, joins.apart, ?_⟩
  obtain ⟨task, found, past⟩ := joins.joins
  cases succeeds.symm.trans found
  rcases past with done | ⟨_, ⟨⟩, progress⟩
  · contradiction
  · exact progress

theorem absent_of_not_guarded (before : started.Joins collate index session id roomName)
    (ran : (system collate).run first started = some replying)
    (leaves : ∀ event ∈ first, event.Leaves id)
    (broken : ¬ (system collate).Guarded FindsUsers first started)
    (succeeds : replying.processes[index]? =
      some ⟨session, .joinRoom id roomName (.reply (some room) true userIds)⟩) :
    replying.Company id none ∧ replying.tables.Apart session id ∧
      replying.tables.Absent id room := by
  obtain ⟨earlier, event, later, middle, rfl, reached, guarded, unmet⟩ :=
    System.exists_of_not_guarded broken
  obtain ⟨_, reached', remaining⟩ := System.run_append_some.mp ran
  cases reached.symm.trans reached'
  obtain ⟨next, stepped, remaining⟩ := System.run_cons_some.mp remaining
  simp only [List.mem_append, List.mem_cons] at leaves
  have joins : middle.Joins collate index session id roomName :=
    System.run_preserves_guarded (fun both stepped before =>
      step_joins both.1 both.2 stepped before)
      ((System.guarded_of_forall fun event member => leaves event (.inl member)).and guarded)
        reached before
  obtain ⟨place, misses⟩ := misses_of_not_finds unmet stepped joins
  have misses : replying.Misses index session id roomName place :=
    System.run_preserves_guarded (fun leaves stepped before => step_misses leaves stepped before)
      (System.guarded_of_forall fun event member => leaves event (.inr (.inr member)))
      remaining misses
  obtain ⟨task, found, past⟩ := misses.joins
  cases succeeds.symm.trans found
  rcases past with done | ⟨_, ⟨⟩, ⟨⟩⟩
  · contradiction
  · exact ⟨misses.company.of_past succeeds rfl, misses.apart, misses.absent⟩

end Outcome

/-- A join that succeeds makes the user a member, and `RemoveUser` finds them later,
exactly when `AddUser` finds a user in the room. -/
theorem join_makes_member {setup first rest : List ServerEvent}
    {start replying final : ServerState} {session room : Nat} {id roomName : String}
    {userIds : List String} (reached : (system collate).run setup fresh = some start)
    (quiescent : start.Quiescent)
    (apart : ∀ current ∈ start.rooms, ∀ entry ∈ current.users.entries, entry.1 ≠ id →
      entry.2 ≠ session)
    (joins : (system collate).run (.request session (.cJoinRoom id roomName) :: first) start =
      some replying)
    (succeeds : replying.processes[start.processes.length]? =
      some ⟨session, .joinRoom id roomName (.reply (some room) true userIds)⟩)
    (continues : (system collate).run rest replying = some final)
    (leaves : ∀ event ∈ first ++ rest, event.Leaves id) :
    (final.Member session id room ↔
      (system collate).Guarded FindsUsers (.request session (.cJoinRoom id roomName) :: first)
        start) ∧
    (final.Member session id room →
      ∀ (later : List ServerEvent) (leaving : ServerState) (place : Nat) (current : Room),
        (system collate).run (.request session (.cRoomOut id roomName) :: later) final =
          some leaving →
        (∀ event ∈ later, event.Leaves id) →
        leaving.processes[final.processes.length]? =
          some ⟨session, .roomOut id (.remove place .erase)⟩ →
        leaving.rooms[place]? = some current → current.users.lookup id = some session) := by
  obtain ⟨started, requested, ran⟩ := System.run_cons_some.mp joins
  have guards : (system collate).Guarded FindsUsers
      (.request session (.cJoinRoom id roomName) :: first) start ↔
      (system collate).Guarded FindsUsers first started := by
    simp [System.Guarded, FindsUsers, requested]
  have housed : start.Housed collate := run_housed reached fresh_housed
  have finalHoused : final.Housed collate :=
    run_housed continues (run_housed ran (step_housed requested housed))
  have before : started.Joins collate start.processes.length session id roomName := by
    obtain ⟨rfl, connected⟩ := step_request rfl requested
    refine ⟨step_housed requested housed,
      (Company.of_quiescent quiescent id).spawn _ _, ⟨?_, ?_⟩, _,
      found_spawn .., .inr ⟨.select, rfl, trivial⟩⟩
    · simpa [tables, spawn] using connected
    · intro room current key object different isUser
      exact apart current (List.mem_of_getElem? object) _
        (AList.mem_lookup_iff.mp isUser) different rfl
  simp only [List.mem_append] at leaves
  have stays : (system collate).Guarded FindsUsers first started → final.Company id none ∧
      final.tables.Apart session id ∧ final.tables.Inside collate session id room := by
    intro guarded
    obtain ⟨company, apart, inside⟩ :=
      inside_of_guarded before ran (fun event member => leaves event (.inl member)) guarded succeeds
    exact run_kept (fun kept apart elsewhere => Tables.Inside.elsewhere kept apart elsewhere)
      (fun event member => leaves event (.inr member)) continues company apart inside
  have finds : final.Member session id room →
      (system collate).Guarded FindsUsers first started := by
    intro member
    by_contra broken
    obtain ⟨company, apart, absent⟩ :=
      absent_of_not_guarded before ran (fun event member => leaves event (.inl member)) broken
        succeeds
    obtain ⟨_, _, current, object, missing⟩ :=
      run_kept (fun kept _ elsewhere => Tables.Absent.elsewhere kept elsewhere)
        (fun event member => leaves event (.inr member)) continues company apart absent
    obtain ⟨other, otherObject, isUser, _⟩ := member.user
    cases object.symm.trans otherObject
    cases missing.symm.trans isUser
  rw [guards]
  refine ⟨⟨finds, fun guarded => member_of_inside (stays guarded).2.2 finalHoused
    (stays guarded).1⟩, ?_⟩
  intro member later leaving place current ran leaves found object
  obtain ⟨company, apart, inside⟩ := stays (finds member)
  obtain ⟨_, requested, remaining⟩ := System.run_cons_some.mp ran
  obtain ⟨rfl, _⟩ := step_request rfl requested
  have departing : (final.spawn session (.roomOut id .select)).Departs collate
      final.processes.length session id room :=
    ⟨step_housed requested finalHoused, company.spawn _ _, apart, _, found_spawn ..,
    .inr ⟨.select, rfl, inside⟩⟩
  have departs : leaving.Departs collate final.processes.length session id room :=
    System.run_preserves_guarded (fun leaves stepped before => step_departs leaves stepped before)
      (System.guarded_of_forall leaves) remaining departing
  obtain ⟨task, found', ahead⟩ := departs.departs
  cases found.symm.trans found'
  rcases ahead with done | ⟨_, ⟨⟩, ⟨other, otherObject, isUser⟩, rfl⟩
  · contradiction
  · cases object.symm.trans otherObject
    exact isUser

end ServerState

namespace ServerState

/-- The second of two users joins, and the first one leaves meanwhile. -/
theorem join_makes_member_while_leaving :
    let before := [.connect, .connect] ++ handled 0 (.cRegister "a" "p") 0 2 ++
      handled 1 (.cRegister "b" "p") 1 2 ++ handled 0 (.cCreateRoom "a" "r") 2 9
    let events := runs 3 8 ++ [.request 0 (.cRoomOut "a" "r"), .run 4, .run 3]
    ∃ start replying final, (system id).run before fresh = some start ∧
      (system id).run (.request 1 (.cJoinRoom "b" "r") :: events) start = some replying ∧
      (system id).run (.run 3 :: runs 4 9) replying = some final ∧ final.Member 1 "b" 0 := by
  intro before events
  obtain ⟨start, replying, final, reached, quiescent, apart, joins, succeeds, continues, guarded⟩ :
      ∃ start replying final, (system id).run before fresh = some start ∧ start.Quiescent ∧
      (∀ current ∈ start.rooms, ∀ entry ∈ current.users.entries, entry.1 ≠ "b" → entry.2 ≠ 1) ∧
      (system id).run (.request 1 (.cJoinRoom "b" "r") :: events) start = some replying ∧
      replying.processes[start.processes.length]? =
        some ⟨1, .joinRoom "b" "r" (.reply (some 0) true ["a", "b"])⟩ ∧
      (system id).run (.run 3 :: runs 4 9) replying = some final ∧
      (system id).Guarded FindsUsers (.request 1 (.cJoinRoom "b" "r") :: events) start :=
    ⟨_, _, _, rfl, by decide, by decide, rfl, rfl, rfl, by decide⟩
  refine ⟨start, replying, final, reached, joins, continues, ?_⟩
  exact (join_makes_member reached quiescent apart joins succeeds continues
    (by decide)).1.mpr guarded

/-- The only user leaves between the admission of a join and its `AddUser`: the join
succeeds, its user is in no `_users`, and their `C_ROOM_OUT` crashes the server. -/
theorem join_succeeds_without_member :
    ∃ start replying final crashed,
      (system id).run ([.connect, .connect] ++ handled 0 (.cRegister "a" "p") 0 2 ++
        handled 1 (.cRegister "b" "p") 1 2 ++ handled 0 (.cCreateRoom "a" "r") 2 9) fresh =
        some start ∧ start.Quiescent ∧
      (system id).run (handled 1 (.cJoinRoom "b" "r") 3 4 ++ handled 0 (.cRoomOut "a" "r") 4 10 ++
        runs 3 5) start = some replying ∧
      replying.processes[3]? = some ⟨1, .joinRoom "b" "r" (.reply (some 0) true ["b"])⟩ ∧
      (system id).run [.run 3] replying = some final ∧
      (∃ current ∈ final.sessions[1]?, .sJoinRoom true "r" ["b"] ∈ current.outbox) ∧
      ¬ final.Member 1 "b" 0 ∧
      (system id).run (handled 1 (.cRoomOut "b" "r") 5 5) final = some crashed ∧
      crashed.crash = some .removeUserFind := by
  refine ⟨_, _, _, _, rfl, by decide, rfl, rfl, rfl, ⟨_, rfl, by decide⟩, ?_, rfl, rfl⟩
  rintro ⟨⟨current, object, isUser, _⟩, _⟩
  cases object
  cases isUser

end ServerState

end ChattingProgram.Server
