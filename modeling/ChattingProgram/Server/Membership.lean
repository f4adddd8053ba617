import ChattingProgram.Machine.Roster
import ChattingProgram.Server.Entry
import ChattingProgram.Server.Serial

namespace ChattingProgram.Server

open ChattingProgram.Protocol ChattingProgram.Machine

/-! # The two records of the members of a room

Who is in a room stands in `chat.account` and in `_users`.  Joins and leaves change
the one and then the other; the lists that are sent are read from the account.
-/

def utf16Units (text : List Char) : Nat :=
  (text.map fun char => if char.toNat < 0x10000 then 1 else 2).sum

/-- An id of at most 13 characters, as `WCHAR` counts them. -/
def Short (id : String) : Prop := utf16Units id.toList ≤ 13

instance (id : String) : Decidable (Short id) := inferInstanceAs (Decidable (_ ≤ 13))

theorem fetchUnits_eq (short : utf16Units text ≤ units) : fetchUnits units text = text := by
  induction text generalizing units with
  | nil => cases units <;> rfl
  | cons char rest ih =>
      simp only [utf16Units, List.map_cons, List.sum_cons] at short
      change _ + utf16Units rest ≤ units at short
      by_cases single : char.toNat < 0x10000
      · rw [if_pos single] at short
        obtain ⟨fewer, rfl⟩ : ∃ fewer, units = fewer + 1 := ⟨units - 1, by omega⟩
        have tail := ih (show utf16Units rest ≤ fewer by omega)
        cases fewer <;> simp only [fetchUnits, if_pos single, tail]
      · rw [if_neg single] at short
        obtain ⟨fewer, rfl⟩ : ∃ fewer, units = fewer + 1 + 1 := ⟨units - 2, by omega⟩
        simp only [fetchUnits, if_neg single, ih (show utf16Units rest ≤ fewer by omega)]

theorem fetchText_eq {id : String} (short : Short id) : fetchText id = id := by
  rw [fetchText, fetchUnits_eq short, String.ofList_toList]

namespace Database

variable {collate : String → String} {self : Database} {id : String} {roomId : Nat}

def registered (self : Database) (roomId : Nat) : Set String :=
  {id | ∃ row ∈ self.account, row.id = id ∧ row.currentRoomId = some roomId}

theorem registered_bare (self : Database) (roomId : Nat) :
    self.bare.registered roomId = self.registered roomId := by
  ext id
  simp [registered, bare, AccountRow.bare]

/-- The list that is read is the register, as long as no id is cut. -/
theorem mem_selectMembers (short : ∀ member ∈ self.registered roomId, Short member) :
    id ∈ self.selectMembers roomId ↔ id ∈ self.registered roomId := by
  have uncut : ∀ row ∈ self.account, row.currentRoomId = some roomId → fetchText row.id = row.id :=
    fun row member refers => fetchText_eq (short row.id ⟨row, member, rfl, refers⟩)
  simp only [selectMembers, List.mem_map, List.mem_filter, decide_eq_true_eq, registered,
    Set.mem_ofPred_eq]
  constructor
  · rintro ⟨row, ⟨member, refers⟩, rfl⟩
    exact ⟨row, member, (uncut row member refers).symm, refers⟩
  · rintro ⟨row, member, rfl, refers⟩
    exact ⟨row, ⟨member, refers⟩, uncut row member refers⟩

/-- The `UPDATE` of an account, under the id it is registered with. -/
theorem mem_registered_assign (distinct : (self.account.map fun row => collate row.id).Nodup)
    (known : ∃ row ∈ self.account, row.id = id) :
    other ∈ (self.assign collate id target).registered roomId ↔
      if other = id then target = some roomId else other ∈ self.registered roomId := by
  obtain ⟨own, ownMember, rfl⟩ := known
  have named : ∀ row ∈ self.account, collate row.id = collate own.id → row = own :=
    fun row member same => List.inj_on_of_nodup_map distinct member ownMember same
  constructor
  · rintro ⟨_, member, rfl, refers⟩
    obtain ⟨row, rowMember, rfl⟩ := List.mem_map.mp member
    by_cases same : collate row.id = collate own.id
    · cases named row rowMember same
      simpa using refers
    · have different : row.id ≠ own.id := fun equal => same (congrArg collate equal)
      simp only [if_neg same] at refers ⊢
      rw [if_neg different]
      exact ⟨row, rowMember, rfl, refers⟩
  · intro isMember
    split at isMember
    · rename_i here
      exact ⟨_, mem_assign_self ownMember rfl, here.symm, isMember⟩
    · rename_i different
      obtain ⟨row, member, rfl, refers⟩ := isMember
      exact ⟨row, mem_assign_other member fun same =>
        different (congrArg AccountRow.id (named row member same)), rfl, refers⟩

theorem registered_deleteRoom (empty : self.registered roomId = ∅) :
    (self.deleteRoom roomId).registered roomId = ∅ := by
  refine Set.eq_empty_iff_forall_notMem.mpr ?_
  rintro id ⟨row, member, rfl, refers⟩
  simp only [deleteRoom] at member
  split at member
  · obtain ⟨source, _, rfl⟩ := List.mem_map.mp member
    split at refers
    · contradiction
    · contradiction
  · exact Set.eq_empty_iff_forall_notMem.mp empty row.id ⟨row, member, rfl, refers⟩

end Database

namespace Tables

variable {tables before after : Tables} {room : Nat} {current next : Room} {id other : String}

/-- The session that `_users` has for an id. -/
def user (self : Tables) (room : Nat) (id : String) : Option Nat :=
  (self.rooms[room]?).bind fun current => current.users.lookup id

theorem user_of_object (object : tables.rooms[room]? = some current) :
    tables.user room id = current.users.lookup id := by
  simp only [user, object, Option.bind_some]

theorem setObject_self (object : tables.rooms[room]? = some current) :
    (tables.setObject room next).rooms[room]? = some next :=
  List.getElem?_set_self (List.getElem?_eq_some_iff.mp object).1

/-- A change of one `Room` that leaves its users alone. -/
theorem user_setObject (object : tables.rooms[place]? = some current)
    (same : next.users = current.users) :
    (tables.setObject place next).user room = tables.user room := by
  funext id
  by_cases here : place = room
  · subst here
    rw [user_of_object (setObject_self object), user_of_object object, same]
  · simp only [user, setObject, List.getElem?_set_ne here]

theorem user_of_setObject (isUser : (tables.setObject place next).user room id = some session)
    (object : tables.rooms[place]? = some current) (same : next.users = current.users) :
    tables.user room id = some session := by
  rw [user_setObject object same] at isUser
  exact isUser

theorem user_insert (object : tables.rooms[place]? = some current) :
    (tables.setObject place { current with users := current.users.insert id session }).user room
      other = if place = room ∧ other = id then some session else tables.user room other := by
  by_cases here : place = room
  · subst here
    rw [user_of_object (setObject_self object), user_of_object object]
    by_cases same : other = id
    · subst same
      simp
    · simp [same, AList.lookup_insert_ne same]
  · simp only [user, setObject, List.getElem?_set_ne here, here, false_and, if_false]

theorem user_erase (object : tables.rooms[place]? = some current) :
    (tables.setObject place { current with users := current.users.erase id }).user room other =
      if place = room ∧ other = id then none else tables.user room other := by
  by_cases here : place = room
  · subst here
    rw [user_of_object (setObject_self object), user_of_object object]
    by_cases same : other = id
    · subst same
      simp
    · simp [same, AList.lookup_erase_ne same]
  · simp only [user, setObject, List.getElem?_set_ne here, here, false_and, if_false]

/-- Nobody is in the room any more. -/
def Deserted (self : Tables) (room : Nat) : Prop := ∃ current, self.rooms[room]? = some current ∧
  current.users.entries = []

theorem Deserted.setObject (deserted : tables.Deserted room)
    (object : tables.rooms[place]? = some current)
    (fewer : current.users.entries = [] → next.users.entries = []) :
    (tables.setObject place next).Deserted room := by
  obtain ⟨found, here, empty⟩ := deserted
  by_cases same : place = room
  · subst same
    cases object.symm.trans here
    exact ⟨next, setObject_self object, fewer empty⟩
  · exact ⟨found, (List.getElem?_set_ne same).trans here, empty⟩

/-- No account and no name of a room is new. -/
structure Keeps (before after : Tables) : Prop where
  ids : after.db.account.map AccountRow.id = before.db.account.map AccountRow.id
  rows : ∀ row ∈ after.db.room, ∃ source ∈ before.db.room, source.roomId = row.roomId ∧
    source.roomName = row.roomName

theorem Keeps.of_db (same : after.db = before.db) : before.Keeps after where
  ids := by rw [same]
  rows := fun row member => ⟨row, same ▸ member, rfl, rfl⟩

theorem Keeps.addUserCount (same : after.db = before.db.addUserCount roomId difference) :
    before.Keeps after where
  ids := by rw [same]; rfl
  rows := by
    intro row member
    rw [same] at member
    obtain ⟨source, sourceMember, rfl⟩ := List.mem_map.mp member
    refine ⟨source, sourceMember, ?_⟩
    split <;> exact ⟨rfl, rfl⟩

theorem Keeps.updateCurrentRoom {collate : String → String} {db : Database}
    (updated : before.db.updateCurrentRoom collate id target = some db) (same : after.db = db) :
    before.Keeps after where
  ids := by
    rw [same, Database.updateCurrentRoom_eq updated, Database.assign, List.map_map]
    refine List.map_congr_left fun row _ => ?_
    by_cases named : collate row.id = collate id <;> simp [named]
  rows := by
    rw [same, Database.updateCurrentRoom_eq updated]
    exact fun row member => ⟨row, member, rfl, rfl⟩

theorem Keeps.deleteRoom (same : after.db = before.db.deleteRoom roomId) : before.Keeps after where
  ids := by
    rw [same, Database.deleteRoom]
    split
    · simp only [List.map_map]
      refine List.map_congr_left fun row _ => ?_
      by_cases refers : row.currentRoomId = some roomId <;> simp [refers]
    · rfl
  rows := by
    intro row member
    rw [same, Database.deleteRoom] at member
    split at member
    · exact ⟨row, List.mem_of_mem_filter member, rfl, rfl⟩
    · exact ⟨row, member, rfl, rfl⟩

theorem Keeps.known (keeps : before.Keeps after) (known : ∃ row ∈ before.db.account, row.id = id) :
    ∃ row ∈ after.db.account, row.id = id := by
  have same : id ∈ after.db.account.map AccountRow.id := by
    rw [keeps.ids]
    exact List.mem_map.mpr known
  exact List.mem_map.mp same

theorem Keeps.distinct {collate : String → String} (keeps : before.Keeps after)
    (distinct : (before.db.account.map fun row => collate row.id).Nodup) :
    (after.db.account.map fun row => collate row.id).Nodup := by
  have same := congrArg (List.map collate) keeps.ids
  simp only [List.map_map, Function.comp_def] at same
  rw [same]
  exact distinct

end Tables

/-! ## Where a member stands -/

def JoinPc.leg : JoinPc → Leg
  | .select | .getRoom _ | .load _ _ | .cas _ _ _ | .updateAccount _ _ | .reply _ false _ =>
      .arriving
  | .updateRoom _ _ | .selectMembers _ _ | .addUser _ _ => .joining
  | .broadcast _ _ => .spreading
  | .reply _ true _ => .answering

def RemovePc.leg : RemovePc → Leg
  | .updateAccount => .staying
  | .updateRoom | .erase => .leaving
  | .fetchSub | .cas | .select | .broadcast _ => .informing
  | .delete | .removeRoom => .gone

def OutPc.leg : OutPc → Leg
  | .select | .getRoom _ => .staying
  | .remove _ pc => pc.leg
  | .reply _ => .gone

def Process.errand : Process → Option (Errand String Nat)
  | ⟨session, .joinRoom id _ pc⟩ => some ⟨id, session, pc.leg⟩
  | ⟨session, .roomOut id pc⟩ => some ⟨id, session, pc.leg⟩
  | _ => none

/-- A join or a leave is about one room, given by its id and its object. -/
def JoinPc.About (roomId room : Nat) : JoinPc → Prop
  | .getRoom target => target = roomId
  | .load target place | .cas target place _ | .updateAccount target place
  | .updateRoom target place
  | .selectMembers target place => target = roomId ∧ place = room
  | .addUser place _ | .broadcast place _ => place = room
  | .reply place true _ => place = some room
  | .select | .reply _ false _ => True

def OutPc.About (roomId room : Nat) : OutPc → Prop
  | .getRoom target => target = roomId
  | .remove place _ => place = room
  | .select | .reply _ => True

section Rules

variable {collate : String → String} {session roomId room : Nat} {id roomName : String}
  {tables after : Tables}

theorem JoinStep.about {pc : JoinPc}
    (named : ∀ found, tables.db.selectRoomId collate roomName = some found → found = roomId)
    (lists : ∀ place, tables.listed.lookup roomId = some place → place = room)
    (about : pc.About roomId room)
    (rule : JoinStep collate session id roomName tables pc (some goal) after) :
    goal.About roomId room := by
  cases rule with
  | select found => exact named _ found
  | unknown | unlisted | refuse | lost => trivial
  | getRoom found =>
      cases about
      exact ⟨rfl, lists _ found⟩
  | load | cas | again | updateAccount | updateRoom => exact about
  | selectMembers => exact about.2
  | miss | addUser => exact about
  | broadcast => exact congrArg some about

theorem OutStep.about
    (assigned : ∀ found, tables.db.selectCurrentRoom collate id = some (some found) → pc = .select →
      found = roomId) (lists : ∀ place, tables.listed.lookup roomId = some place → place = room)
    (about : pc.About roomId room) (rule : OutStep collate id tables pc (some goal) after) :
    goal.About roomId room := by
  cases rule with
  | select found => exact assigned _ found rfl
  | getRoom found =>
      cases about
      exact lists _ found
  | @remove _ _ target _ _ =>
      cases target with
      | none => trivial
      | some target => exact about

theorem JoinStep.keeps {pc : JoinPc} {goal : Option JoinPc}
    (rule : JoinStep collate session id roomName tables pc goal after) : tables.Keeps after := by
  cases rule with
  | updateAccount updated => exact .updateCurrentRoom updated rfl
  | updateRoom => exact .addUserCount rfl
  | _ => exact .of_db rfl

theorem RemoveStep.keeps {pc : RemovePc} {goal : Option RemovePc}
    (rule : RemoveStep collate room id tables pc goal after) : tables.Keeps after := by
  cases rule with
  | updateAccount _ _ updated => exact .updateCurrentRoom updated rfl
  | updateRoom => exact .addUserCount rfl
  | delete => exact .deleteRoom rfl
  | _ => exact .of_db rfl

theorem OutStep.keeps {pc : OutPc} {goal : Option OutPc}
    (rule : OutStep collate id tables pc goal after) : tables.Keeps after := by
  cases rule with
  | remove rule => exact rule.keeps
  | _ => exact .of_db rfl

/-- `AddUser` does nothing when it finds nobody. -/
theorem JoinStep.deserted (deserted : tables.Deserted room)
    (rule : JoinStep collate session id roomName tables pc goal after) : after.Deserted room := by
  cases rule with
  | cas object => exact deserted.setObject object fun empty => empty
  | addUser object used =>
      refine Tables.Deserted.setObject deserted object ?_
      intro empty
      exact absurd empty used
  | _ => exact deserted

theorem RemoveStep.deserted (deserted : tables.Deserted room)
    (rule : RemoveStep collate place id tables pc goal after) : after.Deserted room := by
  cases rule with
  | updateAccount object | fetchSub object | destroy object | removeRoom object
  | broadcast object =>
      exact Tables.Deserted.setObject deserted object fun empty => empty
  | erase object =>
      refine Tables.Deserted.setObject deserted object ?_
      intro empty
      change List.kerase _ _ = []
      rw [empty, List.kerase_nil]
  | updateRoom | keep | delete | select => exact deserted

theorem OutStep.deserted (deserted : tables.Deserted room)
    (rule : OutStep collate id tables pc goal after) : after.Deserted room := by
  cases rule with
  | remove rule => exact rule.deserted deserted
  | _ => exact deserted

/-! ### The members that a step changes -/

theorem JoinStep.quiet (rule : JoinStep collate session id roomName tables pc goal after)
    (update : ∀ roomId room, pc ≠ .updateAccount roomId room)
    (add : ∀ room userIds, pc ≠ .addUser room userIds) (roomId room : Nat) :
    after.db.registered roomId = tables.db.registered roomId ∧
      after.user room = tables.user room := by
  cases rule with
  | cas object => exact ⟨rfl, Tables.user_setObject object rfl⟩
  | updateAccount => exact absurd rfl (update _ _)
  | miss | addUser => exact absurd rfl (add _ _)
  | _ => exact ⟨rfl, rfl⟩

theorem JoinStep.frame (rule : JoinStep collate session id roomName tables pc goal after)
    (distinct : (tables.db.account.map fun row => collate row.id).Nodup)
    (known : ∃ row ∈ tables.db.account, row.id = id) (different : other ≠ id) :
    (other ∈ after.db.registered roomId ↔ other ∈ tables.db.registered roomId) ∧
      after.user room other = tables.user room other := by
  cases pc with
  | updateAccount =>
      cases rule with
      | updateAccount updated =>
          cases Database.updateCurrentRoom_eq updated
          exact ⟨(Database.mem_registered_assign distinct known).trans (by rw [if_neg different]),
            rfl⟩
  | addUser =>
      cases rule with
      | miss => exact ⟨Iff.rfl, rfl⟩
      | addUser object =>
          exact ⟨Iff.rfl, (Tables.user_insert object).trans (if_neg fun here => different here.2)⟩
  | _ =>
      obtain ⟨registered, user⟩ := rule.quiet (by simp) (by simp) roomId room
      rw [registered, user]
      exact ⟨Iff.rfl, rfl⟩

/-- A join enters nobody but its own session. -/
theorem JoinStep.user_cases (rule : JoinStep collate session id roomName tables pc goal after)
    (isUser : after.user room id = some user) :
    user = session ∨ tables.user room id = some user := by
  cases pc with
  | updateAccount => cases rule; exact .inr isUser
  | addUser =>
      cases rule with
      | miss => exact .inr isUser
      | addUser object =>
          have entered := (Tables.user_insert object).symm.trans isUser
          split at entered
          · exact .inl (Option.some.inj entered).symm
          · exact .inr entered
  | _ => exact .inr ((rule.quiet (by simp) (by simp) 0 room).2 ▸ isUser)

theorem RemoveStep.quiet (rule : RemoveStep collate place id tables pc goal after)
    (update : pc ≠ .updateAccount) (erase : pc ≠ .erase) (delete : pc ≠ .delete)
    (roomId room : Nat) :
    after.db.registered roomId = tables.db.registered roomId ∧
      after.user room = tables.user room := by
  cases rule with
  | updateAccount => exact absurd rfl update
  | erase => exact absurd rfl erase
  | delete => exact absurd rfl delete
  | fetchSub object | destroy object | removeRoom object | broadcast object =>
      exact ⟨rfl, Tables.user_setObject object rfl⟩
  | updateRoom | keep | select => exact ⟨rfl, rfl⟩

/-- A leave enters nobody. -/
theorem RemoveStep.registered_subset (rule : RemoveStep collate place id tables pc goal after)
    (isMember : other ∈ after.db.registered roomId) : other ∈ tables.db.registered roomId := by
  obtain ⟨row, member, rfl, refers⟩ := isMember
  cases rule with
  | updateAccount _ _ updated =>
      cases Database.updateCurrentRoom_eq updated
      rcases Database.of_mem_assign member with ⟨_, cleared⟩ | ⟨_, earlier⟩
      · cases cleared.symm.trans refers
      · exact ⟨row, earlier, rfl, refers⟩
  | @delete current =>
      change row ∈ (tables.db.deleteRoom current.roomId).account at member
      simp only [Database.deleteRoom] at member
      split at member
      · obtain ⟨source, sourceMember, rfl⟩ := List.mem_map.mp member
        split at refers
        · contradiction
        · rename_i elsewhere
          rw [if_neg elsewhere]
          exact ⟨source, sourceMember, rfl, refers⟩
      · exact ⟨row, member, rfl, refers⟩
  | _ => exact ⟨row, member, rfl, refers⟩

theorem OutStep.registered_subset (rule : OutStep collate id tables pc goal after)
    (isMember : other ∈ after.db.registered roomId) : other ∈ tables.db.registered roomId := by
  cases rule with
  | remove rule => exact rule.registered_subset isMember
  | _ => exact isMember

theorem RemoveStep.user_of_after (rule : RemoveStep collate place id tables pc goal after)
    (isUser : after.user room other = some user) : tables.user room other = some user := by
  cases rule with
  | updateAccount object | fetchSub object | destroy object | removeRoom object
  | broadcast object =>
      exact Tables.user_of_setObject isUser object rfl
  | erase object =>
      have erased := (Tables.user_erase object).symm.trans isUser
      split at erased
      · contradiction
      · exact erased
  | updateRoom | keep | delete | select => exact isUser

theorem OutStep.user_of_after (rule : OutStep collate id tables pc goal after)
    (isUser : after.user room other = some user) : tables.user room other = some user := by
  cases rule with
  | remove rule => exact rule.user_of_after isUser
  | _ => exact isUser

end Rules

end ChattingProgram.Server
