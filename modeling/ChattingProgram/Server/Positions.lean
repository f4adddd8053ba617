import ChattingProgram.Server.Tables

namespace ChattingProgram.Server

/-! # Where a handler stands

The tables that a handler has made out of those it began with, for every position
in it, as long as no other handler changes them.
-/

namespace Database

variable {collate : String → String} {self after : Database} {id : String} {roomId : Option Nat}

/-- What `updateCurrentRoom` makes of the database. -/
def assign (collate : String → String) (self : Database) (id : String)
    (roomId : Option Nat) : Database :=
  { self with
    account := self.account.map fun row =>
      if collate row.id = collate id then { row with currentRoomId := roomId } else row }

theorem updateCurrentRoom_eq (updated : self.updateCurrentRoom collate id roomId = some after) :
    after = self.assign collate id roomId := by
  simp only [updateCurrentRoom] at updated
  split at updated
  · contradiction
  · exact (Option.some.inj updated).symm

theorem updateCurrentRoom_eq_none (fails : self.updateCurrentRoom collate id (some target) = none) :
    ∀ row ∈ self.room, row.roomId ≠ target := by
  simp only [updateCurrentRoom] at fails
  split at fails
  · rename_i dangles
    obtain ⟨_, _, ⟨⟩, missing⟩ := dangles
    exact missing
  · contradiction

/-- What `insertRoom` makes of the database. -/
def withRow (self : Database) (roomName : String) : Database :=
  { self with
    room := self.room ++ [⟨self.nextRoomId, roomName, 1⟩], nextRoomId := self.nextRoomId + 1 }

theorem insertRoom_eq (inserted : self.insertRoom collate roomName = some after) :
    after = self.withRow roomName := by
  simp only [insertRoom] at inserted
  split at inserted
  · contradiction
  · exact (Option.some.inj inserted).symm

theorem selectRoomId_eq_none :
    self.selectRoomId collate roomName = none ↔ ∀ row ∈ self.room, collate row.roomName ≠
      collate roomName := by
  simp [selectRoomId]

theorem selectRoomId_withRow (free : self.selectRoomId collate roomName = none) :
    (self.withRow roomName).selectRoomId collate roomName = some self.nextRoomId := by
  have unnamed : self.room.find? (fun row => collate row.roomName = collate roomName) = none := by
    simpa using selectRoomId_eq_none.mp free
  simp [selectRoomId, withRow, List.find?_append, unnamed]

end Database

namespace Tables

/-- The tables with another database and one `Room` changed. -/
def withRoom (self : Tables) (db : Database) (room : Nat) (next : Room) : Tables :=
  { self with db := db, rooms := self.rooms.set room next }

variable {self : Tables} {db : Database} {room : Nat} {current next other : Room}

theorem withRoom_object (object : self.rooms[room]? = some current) :
    (self.withRoom db room next).rooms[room]? = some next :=
  List.getElem?_set_self (List.getElem?_eq_some_iff.mp object).1

theorem eq_of_withRoom (here : (self.withRoom db room next).rooms[room]? = some other)
    (object : self.rooms[room]? = some current) : other = next :=
  Option.some.inj (here.symm.trans (withRoom_object object))

theorem withRoom_setObject :
    (self.withRoom db room next).setObject room other = self.withRoom db room other := by
  simp [withRoom, setObject]

theorem withRoom_seat (session : Nat) (seat : Option Nat) :
    (self.seat session seat).withRoom db room next =
      (self.withRoom db room next).seat session seat := rfl

end Tables

section Remove

variable (collate : String → String) (room : Nat) (id : String) (base : Tables) (current : Room)

/-- The database after the two updates of `RemoveUser`. -/
def Tables.uncounted : Database := (base.db.assign collate id none).addUserCount current.roomId (-1)

/-- The `Room` under the lock of `RemoveUser`, after the user is erased. -/
def Room.without (roomState : Int) (locked : Bool) : Room :=
  { current with users := current.users.erase id, roomState := roomState, locked := locked }

inductive Removing : RemovePc → Tables → Prop where
  | updateAccount : Removing .updateAccount base
  | updateRoom : Removing .updateRoom
      (base.withRoom (base.db.assign collate id none) room { current with locked := true })
  | erase : Removing .erase (base.withRoom (base.uncounted collate id current) room { current with
    locked := true })
  | fetchSub {user : Nat} : current.users.lookup id = some user → Removing .fetchSub
      ((base.seat user none).withRoom (base.uncounted collate id current) room
        (current.without id current.roomState true))
  | cas {user : Nat} : current.users.lookup id = some user → Removing .cas
      ((base.seat user none).withRoom (base.uncounted collate id current) room
        (current.without id (current.roomState - 1) true))
  | delete {user : Nat} : current.users.lookup id = some user → current.roomState = 1 →
      Removing .delete ((base.seat user none).withRoom (base.uncounted collate id current) room
        (current.without id destruction true))
  | removeRoom {user : Nat} : current.users.lookup id = some user → current.roomState = 1 →
      Removing .removeRoom ((base.seat user none).withRoom
      ((base.uncounted collate id current).deleteRoom
        current.roomId) room (current.without id destruction true))
  | select {user : Nat} : current.users.lookup id = some user → current.roomState ≠ 1 →
      Removing .select ((base.seat user none).withRoom (base.uncounted collate id current) room
        (current.without id (current.roomState - 1) true))
  | broadcast {user : Nat} {userIds : List String} : current.users.lookup id = some user →
      current.roomState ≠ 1 → Removing (.broadcast userIds)
        ((base.seat user none).withRoom (base.uncounted collate id current) room
          (current.without id (current.roomState - 1) true))

/-- What `RemoveUser` makes of the tables. -/
def Tables.departed (user : Nat) : Tables :=
  if current.roomState = 1 then
    { (base.seat user none).withRoom ((base.uncounted collate id current).deleteRoom current.roomId) room
      (current.without id destruction false) with listed := base.listed.erase current.roomId }
  else
    (base.seat user none).withRoom (base.uncounted collate id current) room
      (current.without id (current.roomState - 1) false)

variable {collate room id base current} {pc : RemovePc} {before after : Tables}

theorem RemoveStep.removing (object : base.rooms[room]? = some current)
    (removing : Removing collate room id base current pc before)
    (rule : RemoveStep collate room id before pc (some goal) after) :
    Removing collate room id base current goal after := by
  cases removing with
  | updateAccount =>
      cases rule with
      | updateAccount here free updated =>
          cases object.symm.trans here
          cases Database.updateCurrentRoom_eq updated
          exact .updateRoom
  | updateRoom =>
      cases rule with
      | updateRoom here =>
          cases Tables.eq_of_withRoom here object
          exact .erase
  | erase =>
      cases rule with
      | @erase _ user here isUser =>
          cases Tables.eq_of_withRoom here object
          rw [← Tables.withRoom_seat, Tables.withRoom_setObject]
          exact .fetchSub isUser
  | fetchSub isUser =>
      cases rule with
      | fetchSub here =>
          cases Tables.eq_of_withRoom here object
          rw [Tables.withRoom_setObject]
          exact .cas isUser
  | cas isUser =>
      cases rule with
      | destroy here empty =>
          cases Tables.eq_of_withRoom here object
          rw [Tables.withRoom_setObject]
          exact .delete isUser (sub_eq_zero.mp empty)
      | keep here used =>
          cases Tables.eq_of_withRoom here object
          exact .select isUser fun last => used (sub_eq_zero.mpr last)
  | delete isUser last =>
      cases rule with
      | delete here =>
          cases Tables.eq_of_withRoom here object
          exact .removeRoom isUser last
  | removeRoom => cases rule
  | select isUser used =>
      cases rule with
      | select => exact .broadcast isUser used
  | broadcast => cases rule

theorem RemoveStep.departed (object : base.rooms[room]? = some current)
    (removing : Removing collate room id base current pc before)
    (rule : RemoveStep collate room id before pc none after) :
    ∃ user, current.users.lookup id = some user ∧
      after = base.departed collate room id current user := by
  cases removing with
  | removeRoom isUser last =>
      cases rule with
      | removeRoom here lists =>
          cases Tables.eq_of_withRoom here object
          refine ⟨_, isUser, ?_⟩
          rw [Tables.departed, if_pos last]
          simp [Tables.withRoom, Tables.setObject, Room.without, Tables.seat]
  | broadcast isUser used =>
      cases rule with
      | broadcast here =>
          cases Tables.eq_of_withRoom here object
          refine ⟨_, isUser, ?_⟩
          rw [Tables.departed, if_neg used, Tables.withRoom_setObject]
          rfl
  | _ => cases rule

theorem Removing.keeps (object : base.rooms[room]? = some current)
    (removing : Removing collate room id base current pc before) :
    before.listed = base.listed ∧ ∃ next, before.rooms[room]? = some next ∧
      next.roomId = current.roomId := by
  cases removing with
  | updateAccount => exact ⟨rfl, current, object, rfl⟩
  | _ => exact ⟨rfl, _, Tables.withRoom_object object, rfl⟩

/-- `AddRoom` of another handler does not disturb `RemoveUser`. -/
theorem Removing.relist (removing : Removing collate room id base current pc before)
    (listed : AList fun _ : Nat => Nat) :
    Removing collate room id { base with listed := listed } current pc
      { before with listed := listed } := by
  cases removing with
  | updateAccount => exact .updateAccount
  | updateRoom => exact .updateRoom
  | erase => exact .erase
  | fetchSub isUser => exact .fetchSub isUser
  | cas isUser => exact .cas isUser
  | delete isUser last => exact .delete isUser last
  | removeRoom isUser last => exact .removeRoom isUser last
  | select isUser used => exact .select isUser used
  | broadcast isUser used => exact .broadcast isUser used

/-- `RemoveUser` of the last user has found the room in `_rooms`. -/
theorem RemoveStep.listed (object : base.rooms[room]? = some current)
    (removing : Removing collate room id base current pc before)
    (rule : RemoveStep collate room id before pc none after) (last : current.roomState = 1) :
    base.listed.lookup current.roomId ≠ none := by
  cases removing with
  | removeRoom =>
      cases rule with
      | removeRoom here lists =>
          cases Tables.eq_of_withRoom here object
          intro missing
          cases missing.symm.trans lists
  | broadcast _ used => exact absurd last used
  | _ => cases rule

/-- `RemoveUser` fails on a user that is not in the room, and on a room that is not listed. -/
theorem Removing.fails (object : base.rooms[room]? = some current)
    (removing : Removing collate room id base current pc before)
    (fails : RemoveFails room id before pc) :
    current.users.lookup id = none ∨ (pc = .removeRoom ∧
      base.listed.lookup current.roomId = none) := by
  cases removing with
  | erase =>
      obtain ⟨other, here, missing⟩ := fails
      cases Tables.eq_of_withRoom here object
      exact .inl missing
  | removeRoom =>
      obtain ⟨other, here, missing⟩ := fails
      cases Tables.eq_of_withRoom here object
      exact .inr ⟨rfl, missing⟩
  | _ => exact fails.elim

theorem Tables.departed_rooms :
    (base.departed collate room id current user).rooms = base.rooms.set room (current.without id
      (if current.roomState = 1 then destruction else current.roomState - 1) false) := by
  simp only [Tables.departed]
  split <;> rfl

end Remove

section Create

variable (collate : String → String) (session : Nat) (id roomName : String) (base : Tables)

def Tables.nextRoomId : Nat := base.db.nextRoomId

/-- The database after `C_CREATE_ROOM` has made the row and entered it in the account. -/
def Tables.enrolled : Database := (base.db.withRow roomName).assign collate id
  (some base.nextRoomId)

def Tables.built (roomState : Int) : Tables :=
  { base with
    db := base.enrolled collate id roomName
    rooms := base.rooms ++ [⟨base.nextRoomId, AList.insert id session ∅, roomState, false⟩] }

/-- The tables before `AddRoom`, and after it. -/
def Tables.unlisted : Tables := (base.built collate session id roomName 1).seat session
  (some base.rooms.length)

def Tables.created : Tables :=
  { base.unlisted collate session id roomName with
    listed := base.listed.insert base.nextRoomId base.rooms.length }

inductive Creating : CreatePc → Tables → Prop where
  | select : Creating .select base
  | refused : Creating (.reply false) base
  | insert : base.db.selectRoomId collate roomName = none → Creating .insert base
  | selectId : base.db.selectRoomId collate roomName = none →
      Creating .selectId { base with db := base.db.withRow roomName }
  | updateAccount : base.db.selectRoomId collate roomName = none →
      Creating (.updateAccount base.nextRoomId) { base with db := base.db.withRow roomName }
  | makeRoom : base.db.selectRoomId collate roomName = none →
      Creating (.makeRoom base.nextRoomId) { base with db := base.enrolled collate id roomName }
  | fetchAdd : base.db.selectRoomId collate roomName = none →
      Creating (.fetchAdd base.rooms.length) (base.built collate session id roomName 0)
  | setRoom : base.db.selectRoomId collate roomName = none →
      Creating (.setRoom base.rooms.length) (base.built collate session id roomName 1)
  | addRoom : base.db.selectRoomId collate roomName = none →
      Creating (.addRoom base.rooms.length) (base.unlisted collate session id roomName)
  | reply : base.db.selectRoomId collate roomName = none →
      Creating (.reply true) (base.created collate session id roomName)

variable {collate session id roomName base} {pc : CreatePc} {before after : Tables}

theorem eq_of_concat (here : (rooms ++ [last])[rooms.length]? = some current) : current = last := by
  simpa using here.symm

theorem CreateStep.creating (creating : Creating collate session id roomName base pc before)
    (rule : CreateStep collate session id roomName before pc (some goal) after) :
    Creating collate session id roomName base goal after := by
  cases creating with
  | select =>
      cases rule with
      | refuse taken => exact .refused
      | accept free => exact .insert free
  | refused | reply => cases rule
  | insert free =>
      cases rule with
      | insert inserted =>
          cases Database.insertRoom_eq inserted
          exact .selectId free
  | selectId free =>
      cases rule with
      | selectId found =>
          cases (Database.selectRoomId_withRow free).symm.trans found
          exact .updateAccount free
  | updateAccount free =>
      cases rule with
      | updateAccount updated =>
          cases Database.updateCurrentRoom_eq updated
          exact .makeRoom free
  | makeRoom free =>
      cases rule with
      | makeRoom => exact .fetchAdd free
  | fetchAdd free =>
      cases rule with
      | fetchAdd here =>
          cases eq_of_concat here
          have counted : (base.built collate session id roomName 0).setObject base.rooms.length
              ⟨base.nextRoomId, AList.insert id session ∅, 0 + 1, false⟩ =
                base.built collate session id roomName 1 := by
            simp [Tables.built, Tables.setObject]
          rw [counted]
          exact .setRoom free
  | setRoom free =>
      cases rule with
      | setRoom => exact .addRoom free
  | addRoom free =>
      cases rule with
      | addRoom here =>
          cases eq_of_concat here
          exact .reply free

theorem CreateStep.created (creating : Creating collate session id roomName base pc before)
    (rule : CreateStep collate session id roomName before pc none after) :
    after = base ∨ (base.db.selectRoomId collate roomName = none ∧
      after = base.created collate session id roomName) := by
  cases creating with
  | refused =>
      cases rule
      exact .inl rfl
  | reply free =>
      cases rule
      exact .inr ⟨free, rfl⟩
  | _ => cases rule

theorem Creating.not_fails (creating : Creating collate session id roomName base pc before) :
    ¬ CreateFails collate roomName before pc := by
  intro fails
  cases creating with
  | selectId free => cases (Database.selectRoomId_withRow free).symm.trans fails
  | _ => exact fails.elim

/-- `C_CREATE_ROOM` hangs on a name that the column cannot hold. -/
theorem Creating.hangs (creating : Creating collate session id roomName base pc before)
    (hangs : CreateHangs collate id roomName before pc) : pc = .insert ∧ 30 < roomName.length := by
  cases creating with
  | insert free =>
      simp only [CreateHangs, Database.insertRoom] at hangs
      split at hangs
      · rename_i broken
        rcases broken with long | ⟨row, member, taken⟩
        · exact ⟨rfl, long⟩
        · exact absurd taken (Database.selectRoomId_eq_none.mp free row member)
      · contradiction
  | updateAccount free =>
      have missing := Database.updateCurrentRoom_eq_none hangs ⟨base.nextRoomId, roomName, 1⟩
        (List.mem_append_right _ List.mem_cons_self)
      exact absurd rfl missing
  | _ => exact hangs.elim

end Create

section Join

variable (collate : String → String) (session : Nat) (id roomName : String) (base : Tables)

/-- The room that `C_JOIN_ROOM` finds, in use. -/
structure Tables.Admits (roomId room : Nat) (current : Room) : Prop where
  found : base.db.selectRoomId collate roomName = some roomId
  lists : base.listed.lookup roomId = some room
  object : base.rooms[room]? = some current
  alive : current.roomState ≠ destruction

/-- The database after the two updates of `C_JOIN_ROOM`. -/
def Tables.counted (roomId : Nat) : Database :=
  (base.db.assign collate id (some roomId)).addUserCount roomId 1

def Room.admitting (current : Room) : Room := { current with roomState := current.roomState + 1 }

/-- What `C_JOIN_ROOM` makes of the tables. -/
def Tables.joined (roomId room : Nat) (current : Room) : Tables :=
  (base.withRoom (base.counted collate id roomId) room
    { current.admitting with users := current.users.insert id session }).seat session (some room)

inductive Joining : JoinPc → Tables → Prop where
  | select : Joining .select base
  | getRoom {roomId : Nat} : base.db.selectRoomId collate roomName = some roomId →
    Joining (.getRoom roomId) base
  | load {roomId room : Nat} : base.db.selectRoomId collate roomName = some roomId →
      base.listed.lookup roomId = some room → Joining (.load roomId room) base
  | refused {room : Option Nat} {userIds : List String} : Joining (.reply room false userIds) base
  | cas {roomId room : Nat} {current : Room} : base.Admits collate roomName roomId room current →
      Joining (.cas roomId room current.roomState) base
  | updateAccount {roomId room : Nat} {current : Room} :
      base.Admits collate roomName roomId room current →
      Joining (.updateAccount roomId room) (base.withRoom base.db room current.admitting)
  | updateRoom {roomId room : Nat} {current : Room} :
      base.Admits collate roomName roomId room current → Joining (.updateRoom roomId room)
        (base.withRoom (base.db.assign collate id (some roomId)) room current.admitting)
  | selectMembers {roomId room : Nat} {current : Room} :
      base.Admits collate roomName roomId room current →
      Joining (.selectMembers roomId room)
      (base.withRoom (base.counted collate id roomId) room current.admitting)
  | addUser {roomId room : Nat} {current : Room} {userIds : List String} :
      base.Admits collate roomName roomId room current →
      Joining (.addUser room userIds) (base.withRoom (base.counted collate id roomId) room
      current.admitting)
  | broadcast {roomId room : Nat} {current : Room} {userIds : List String} :
      base.Admits collate roomName roomId room current → current.users.entries ≠ [] →
      Joining (.broadcast room userIds) (base.joined collate session id roomId room current)
  | reply {roomId room : Nat} {current : Room} {userIds : List String} :
      base.Admits collate roomName roomId room current → current.users.entries ≠ [] →
      Joining (.reply (some room) true userIds) (base.joined collate session id roomId room current)

variable {collate session id roomName base} {pc : JoinPc} {before after : Tables}

theorem JoinStep.joining (joining : Joining collate session id roomName base pc before)
    (finds : (Task.joinRoom id roomName pc).Finds before)
    (rule : JoinStep collate session id roomName before pc (some goal) after) :
    Joining collate session id roomName base goal after := by
  cases joining with
  | select =>
      cases rule with
      | select found => exact .getRoom found
      | unknown => exact .refused
  | getRoom found =>
      cases rule with
      | getRoom lists => exact .load found lists
      | unlisted => exact .refused
  | load found lists =>
      cases rule with
      | load object alive => exact .cas ⟨found, lists, object, alive⟩
      | refuse => exact .refused
  | refused | reply => cases rule
  | cas admits =>
      cases rule with
      | cas object same =>
          cases admits.object.symm.trans object
          exact .updateAccount admits
      | again object differs =>
          exact absurd (by rw [Option.some.inj (admits.object.symm.trans object)]) differs
      | lost object differs =>
          exact absurd (by rw [Option.some.inj (admits.object.symm.trans object)]) differs
  | updateAccount admits =>
      cases rule with
      | updateAccount updated =>
          cases Database.updateCurrentRoom_eq updated
          exact .updateRoom admits
  | updateRoom admits =>
      cases rule
      exact .selectMembers admits
  | selectMembers admits =>
      cases rule
      exact .addUser admits
  | addUser admits =>
      cases rule with
      | miss object deserted => exact absurd deserted (finds _ object)
      | addUser object used =>
          cases Tables.eq_of_withRoom object admits.object
          rw [Tables.withRoom_setObject]
          exact .broadcast admits used
  | broadcast admits used =>
      cases rule
      exact .reply admits used

theorem Joining.finds (joining : Joining collate session id roomName base pc before)
    (used : ∀ {roomId room current}, base.Admits collate roomName roomId room current →
      current.users.entries ≠ []) : (Task.joinRoom id roomName pc).Finds before := by
  cases joining with
  | addUser admits =>
      intro current object
      have nonempty := used admits
      rw [Tables.eq_of_withRoom object admits.object]
      exact nonempty
  | _ => trivial

theorem JoinStep.joined (joining : Joining collate session id roomName base pc before)
    (rule : JoinStep collate session id roomName before pc none after) :
    after = base ∨ ∃ roomId room current, base.Admits collate roomName roomId room current ∧
      current.users.entries ≠ [] ∧ after = base.joined collate session id roomId room current := by
  cases joining with
  | refused =>
      cases rule
      exact .inl rfl
  | reply admits used =>
      cases rule
      exact .inr ⟨_, _, _, admits, used, rfl⟩
  | _ => cases rule

theorem Joining.not_hangs (joining : Joining collate session id roomName base pc before) :
    ¬ JoinHangs collate id before pc := by
  intro hangs
  cases joining with
  | updateAccount admits =>
      obtain ⟨row, isRow, rfl⟩ := Option.map_eq_some_iff.mp admits.found
      exact Database.updateCurrentRoom_eq_none hangs row (List.mem_of_find?_eq_some isRow) rfl
  | _ => exact hangs.elim

end Join

section Out

variable (collate : String → String) (id : String) (base : Tables)

/-- The room that `C_ROOM_OUT` finds. -/
structure Tables.Houses (roomId room : Nat) (current : Room) : Prop where
  assigned : base.db.selectCurrentRoom collate id = some (some roomId)
  lists : base.listed.lookup roomId = some room
  object : base.rooms[room]? = some current

inductive Outing : OutPc → Tables → Prop where
  | select : Outing .select base
  | getRoom {roomId : Nat} : base.db.selectCurrentRoom collate id = some (some roomId) →
    Outing (.getRoom roomId) base
  | remove {roomId room : Nat} {current : Room} {pc : RemovePc} {tables : Tables} :
      base.Houses collate id roomId room current → Removing collate room id base current pc tables →
      Outing (.remove room pc) tables
  | reply {roomId room user : Nat} {current : Room} : base.Houses collate id roomId room current →
      current.users.lookup id = some user →
      Outing (.reply room) (base.departed collate room id current user)

variable {collate id base} {pc : OutPc} {before after : Tables}

theorem OutStep.outing (outing : Outing collate id base pc before)
    (listed : ∀ {roomId room}, base.listed.lookup roomId = some room →
      ∃ current, base.rooms[room]? = some current)
    (rule : OutStep collate id before pc (some goal) after) :
    Outing collate id base goal after := by
  cases outing with
  | select =>
      cases rule with
      | select assigned => exact .getRoom assigned
  | getRoom assigned =>
      cases rule with
      | getRoom lists =>
          obtain ⟨current, object⟩ := listed lists
          exact .remove ⟨assigned, lists, object⟩ .updateAccount
  | remove houses removing =>
      cases rule with
      | @remove _ _ goal _ rule =>
          cases goal with
          | none =>
              obtain ⟨user, isUser, rfl⟩ := rule.departed houses.object removing
              exact .reply houses isUser
          | some goal => exact .remove houses (rule.removing houses.object removing)
  | reply => cases rule

theorem OutStep.departed (outing : Outing collate id base pc before)
    (rule : OutStep collate id before pc none after) : ∃ roomId room current user,
      base.Houses collate id roomId room current ∧ current.users.lookup id = some user ∧
      after = base.departed collate room id current user := by
  cases outing with
  | reply houses isUser =>
      cases rule
      exact ⟨_, _, _, _, houses, isUser, rfl⟩
  | _ => cases rule

end Out

end ChattingProgram.Server
