import ChattingProgram.Server.Destruction
import ChattingProgram.Server.Login
import ChattingProgram.Server.Positions

namespace ChattingProgram.Server

open ChattingProgram.Protocol ChattingProgram.Machine

/-! # One request at a time

Requests that are handled as a whole, one after the other.  As long as only users
that are in no room create or join one, the four records of a membership agree:
`user_count`, `roomState`, `_users` and `current_room_id`.
-/

namespace Auth

variable {collate : String → String} {auth after : Auth}

theorem mark_names (accounts : List AuthAccount) (id : String) (isOnline : Bool) :
    (mark collate accounts id isOnline).map (fun account => collate account.id) =
      accounts.map fun account => collate account.id := by
  simp only [mark, List.map_map]
  refine List.map_congr_left fun account _ => ?_
  by_cases named : collate account.id = collate id <;> simp [named]

/-- The id of `chat.account` is a primary key. -/
theorem Move.distinct (move : Move collate actor auth after)
    (before : (auth.accounts.map fun account => collate account.id).Nodup) :
    (after.accounts.map fun account => collate account.id).Nodup := by
  cases move with
  | register unused =>
      rw [List.map_append, List.nodup_append]
      refine ⟨before, List.nodup_singleton _, ?_⟩
      intro key member other last same
      obtain ⟨account, accountMember, rfl⟩ := List.mem_map.mp member
      rw [List.map_singleton, List.mem_singleton] at last
      exact unused account accountMember (same.trans last)
  | update | logout =>
      rw [mark_names]
      exact before
  | _ => exact before

end Auth

/-- The account and `_users` agree about who is in which room. -/
structure Tables.Settled (collate : String → String) (tables : Tables) : Prop where
  accounts : (tables.db.account.map fun row => collate row.id).Nodup
  assigned : ∀ {room : Nat} {current : Room} {key : String}, tables.rooms[room]? = some current →
    key ∈ current.users → ∃ row ∈ tables.db.account, collate row.id = collate key ∧
      row.currentRoomId = some current.roomId
  housed : ∀ row ∈ tables.db.account, ∀ roomId, row.currentRoomId = some roomId →
    ∃ (room : Nat) (current : Room) (key : String), tables.rooms[room]? = some current ∧
      current.roomId = roomId ∧ key ∈ current.users ∧ collate key = collate row.id
  distinct : ∀ {room : Nat} {current : Room} {first second : String},
    tables.rooms[room]? = some current →
    first ∈ current.users → second ∈ current.users → collate first = collate second → first = second
  counted : ∀ {room : Nat} {current : Room}, tables.rooms[room]? = some current →
    current.roomState ≠ destruction → current.roomState = current.users.keys.length ∧
    current.users.entries ≠ []

namespace Tables

variable {collate : String → String} {tables : Tables} {id : String} {assigned : Option Nat}

theorem exists_account (selected : tables.db.selectCurrentRoom collate id = some assigned) :
    ∃ row ∈ tables.db.account, collate row.id = collate id ∧ row.currentRoomId = assigned := by
  obtain ⟨row, isRow, refers⟩ := Option.map_eq_some_iff.mp selected
  have named := List.find?_some isRow
  exact ⟨row, List.mem_of_find?_eq_some isRow, of_decide_eq_true named, refers⟩

/-- The account of a user, by its primary key. -/
theorem Settled.current_eq (settled : tables.Settled collate)
    (selected : tables.db.selectCurrentRoom collate id = some assigned)
    (member : row ∈ tables.db.account) (named : collate row.id = collate id) :
    row.currentRoomId = assigned := by
  obtain ⟨found, foundMember, foundNamed, refers⟩ := exists_account selected
  rw [List.inj_on_of_nodup_map settled.accounts member foundMember (named.trans foundNamed.symm)]
  exact refers

/-- A user whose account is in no room has no key in any `_users`. -/
theorem Settled.not_mem (settled : tables.Settled collate)
    (selected : tables.db.selectCurrentRoom collate id = some none) {room : Nat}
    (object : tables.rooms[room]? = some current) (isUser : key ∈ current.users) :
    collate key ≠ collate id := by
  intro same
  obtain ⟨row, member, named, refers⟩ := settled.assigned object isUser
  cases refers.symm.trans (settled.current_eq selected member (named.trans same))

end Tables

namespace Database

variable {collate : String → String} {self : Database} {id : String} {roomId : Option Nat}
  {row : AccountRow}

theorem assign_names : ((self.assign collate id roomId).account.map fun row => collate row.id) =
    self.account.map fun row => collate row.id := by
  simp only [assign, List.map_map]
  refine List.map_congr_left fun row _ => ?_
  by_cases named : collate row.id = collate id <;> simp [named]

theorem mem_assign_other (member : row ∈ self.account) (other : collate row.id ≠ collate id) :
    row ∈ (self.assign collate id roomId).account :=
  List.mem_map.mpr ⟨row, member, if_neg other⟩

theorem mem_assign_self (member : row ∈ self.account) (named : collate row.id = collate id) :
    { row with currentRoomId := roomId } ∈ (self.assign collate id roomId).account :=
  List.mem_map.mpr ⟨row, member, if_pos named⟩

theorem of_mem_assign (member : row ∈ (self.assign collate id roomId).account) :
    (collate row.id = collate id ∧ row.currentRoomId = roomId) ∨
      (collate row.id ≠ collate id ∧ row ∈ self.account) := by
  obtain ⟨source, sourceMember, rfl⟩ := List.mem_map.mp member
  by_cases named : collate source.id = collate id
  · simp [named]
  · simp [named, sourceMember]

end Database

namespace Tables

section Settled

variable {collate : String → String} {base : Tables} {id roomName : String}
  {session roomId room user : Nat} {current : Room}

theorem Settled.created (settled : base.Settled collate)
    (unhoused : base.db.selectCurrentRoom collate id = some none) :
    (base.created collate session id roomName).Settled collate := by
  have splits : ∀ {room : Nat} {current : Room},
      (base.created collate session id roomName).rooms[room]? = some current →
      base.rooms[room]? = some current ∨
          current = ⟨base.nextRoomId, AList.insert id session ∅, 1, false⟩ := by
    intro room current object
    rcases getElem?_concat_cases object with earlier | ⟨_, last⟩
    · exact .inl earlier
    · exact .inr last
  have last : (base.created collate session id roomName).rooms[base.rooms.length]? =
      some ⟨base.nextRoomId, AList.insert id session ∅, 1, false⟩ := List.getElem?_concat_length
  have only : ∀ {key : String}, key ∈ AList.insert id session (∅ : Users) → key = id := by
    intro key isUser
    rcases (AList.mem_insert _).mp isUser with same | absent
    · exact same
    · exact absurd absent (AList.notMem_empty key)
  refine ⟨?_, ?_, ?_, ?_, ?_⟩
  · change ((base.enrolled collate id roomName).account.map _).Nodup
    rw [Tables.enrolled, Database.assign_names]
    exact settled.accounts
  · intro room current key object isUser
    rcases splits object with earlier | rfl
    · obtain ⟨row, member, named, refers⟩ := settled.assigned earlier isUser
      refine ⟨row, Database.mem_assign_other member ?_, named, refers⟩
      rw [named]
      exact settled.not_mem unhoused earlier isUser
    · obtain ⟨row, member, named, _⟩ := exists_account unhoused
      refine ⟨_, Database.mem_assign_self member named, ?_, rfl⟩
      rw [only isUser]
      exact named
  · intro row member roomId refers
    rcases Database.of_mem_assign member with ⟨named, assigned⟩ | ⟨_, earlier⟩
    · cases refers.symm.trans assigned
      exact ⟨_, _, id, last, rfl, (AList.mem_insert _).mpr (.inl rfl), named.symm⟩
    · obtain ⟨room, current, key, object, facts⟩ := settled.housed row earlier roomId refers
      exact ⟨room, current, key, House.getElem?_append_kept _ object, facts⟩
  · intro room current first second object firstUser secondUser same
    rcases splits object with earlier | rfl
    · exact settled.distinct earlier firstUser secondUser same
    · rw [only firstUser, only secondUser]
  · intro room current object alive
    rcases splits object with earlier | rfl
    · exact settled.counted earlier alive
    · simp

theorem Settled.joined (settled : base.Settled collate)
    (admits : base.Admits collate roomName roomId room current) (named : current.roomId = roomId)
    (unhoused : base.db.selectCurrentRoom collate id = some none) :
    (base.joined collate session id roomId room current).Settled collate := by
  have absent : id ∉ current.users := fun isUser =>
    settled.not_mem unhoused admits.object isUser rfl
  have changed : (base.joined collate session id roomId room current).rooms[room]? =
      some { current.admitting with users := current.users.insert id session } :=
    List.getElem?_set_self (List.getElem?_eq_some_iff.mp admits.object).1
  refine ⟨?_, ?_, ?_, ?_, ?_⟩
  · change (((base.db.assign collate id (some roomId)).account).map _).Nodup
    rw [Database.assign_names]
    exact settled.accounts
  · intro place next key object isUser
    rcases getElem?_set_cases object with ⟨rfl, rfl⟩ | ⟨_, earlier⟩
    · rcases (AList.mem_insert _).mp isUser with rfl | old
      · obtain ⟨row, member, same, _⟩ := exists_account unhoused
        exact ⟨_, Database.mem_assign_self member same, same, congrArg some named.symm⟩
      · obtain ⟨row, member, same, refers⟩ := settled.assigned admits.object old
        refine ⟨row, Database.mem_assign_other member ?_, same, refers⟩
        rw [same]
        exact settled.not_mem unhoused admits.object old
    · obtain ⟨row, member, same, refers⟩ := settled.assigned earlier isUser
      refine ⟨row, Database.mem_assign_other member ?_, same, refers⟩
      rw [same]
      exact settled.not_mem unhoused earlier isUser
  · intro row member target refers
    rcases Database.of_mem_assign member with ⟨same, assigned⟩ | ⟨_, earlier⟩
    · cases refers.symm.trans assigned
      exact ⟨room, _, id, changed, named, (AList.mem_insert _).mpr (.inl rfl), same.symm⟩
    · obtain ⟨place, other, key, object, otherId, isUser, same⟩ :=
        settled.housed row earlier target refers
      by_cases here : place = room
      · subst here
        cases admits.object.symm.trans object
        exact ⟨place, _, key, changed, otherId, (AList.mem_insert _).mpr (.inr isUser), same⟩
      · refine ⟨place, other, key, ?_, otherId, isUser, same⟩
        exact (List.getElem?_set_ne (Ne.symm here)).trans object
  · intro place next first second object firstUser secondUser same
    rcases getElem?_set_cases object with ⟨rfl, rfl⟩ | ⟨_, earlier⟩
    · rcases (AList.mem_insert _).mp firstUser with rfl | firstOld
      · rcases (AList.mem_insert _).mp secondUser with rfl | secondOld
        · rfl
        · exact absurd same.symm (settled.not_mem unhoused admits.object secondOld)
      · rcases (AList.mem_insert _).mp secondUser with rfl | secondOld
        · exact absurd same (settled.not_mem unhoused admits.object firstOld)
        · exact settled.distinct admits.object firstOld secondOld same
    · exact settled.distinct earlier firstUser secondUser same
  · intro place next object alive
    rcases getElem?_set_cases object with ⟨rfl, rfl⟩ | ⟨_, earlier⟩
    · have absentKey : id ∉ current.users.keys := absent
      simp only [Room.admitting, AList.keys_insert, List.erase_of_not_mem absentKey,
        List.length_cons, (settled.counted admits.object admits.alive).1]
      exact ⟨by push_cast; rfl, by simp [AList.entries_insert]⟩
    · exact settled.counted earlier alive

/-- The last user of a room leaves no account behind. -/
theorem Settled.departed_account (settled : base.Settled collate) (isUser : id ∈ current.users)
    (object : base.rooms[room]? = some current) (alive : current.roomState ≠ destruction)
    (unique : ∀ {place : Nat} {other : Room}, base.rooms[place]? = some other →
      other.roomId = current.roomId →
      place = room) :
    (base.departed collate room id current user).db.account =
      (base.db.assign collate id none).account := by
  by_cases last : current.roomState = 1
  · have departs : base.departed collate room id current user = _ := if_pos last
    rw [departs]
    change ((base.uncounted collate id current).deleteRoom current.roomId).account = _
    simp only [Database.deleteRoom]
    split
    · have clears : ∀ row ∈ (base.uncounted collate id current).account,
          row.currentRoomId ≠ some current.roomId := by
        intro row member refers
        rcases Database.of_mem_assign member with ⟨_, assigned⟩ | ⟨other, earlier⟩
        · cases refers.symm.trans assigned
        · obtain ⟨place, otherRoom, key, otherObject, otherId, otherUser, same⟩ :=
            settled.housed row earlier _ refers
          cases unique otherObject otherId
          cases object.symm.trans otherObject
          have single : current.users.keys.length = 1 := by
            have counted := (settled.counted object alive).1
            omega
          obtain ⟨only, keys⟩ := List.length_eq_one_iff.mp single
          have isOnly : id ∈ current.users.keys := isUser
          have otherOnly : key ∈ current.users.keys := otherUser
          rw [keys, List.mem_singleton] at isOnly otherOnly
          rw [otherOnly, ← isOnly] at same
          exact other same.symm
      exact (List.map_congr_left fun row member => if_neg (clears row member)).trans
        (List.map_id' _)
    · rfl
  · have departs : base.departed collate room id current user = _ := if_neg last
    rw [departs]
    rfl

theorem Settled.departed (settled : base.Settled collate)
    (houses : base.Houses collate id roomId room current) (named : current.roomId = roomId)
    (isUser : id ∈ current.users) (alive : current.roomState ≠ destruction)
    (unique : ∀ {place : Nat} {other : Room}, base.rooms[place]? = some other →
      other.roomId = current.roomId →
      place = room) : (base.departed collate room id current user).Settled collate := by
  have account : (base.departed collate room id current user).db.account = _ :=
    settled.departed_account isUser houses.object alive unique
  have below := (List.getElem?_eq_some_iff.mp houses.object).1
  refine ⟨?_, ?_, ?_, ?_, ?_⟩
  · rw [account, Database.assign_names]
    exact settled.accounts
  · intro place next key object isKey
    rw [departed_rooms] at object
    rw [account]
    rcases getElem?_set_cases object with ⟨rfl, rfl⟩ | ⟨elsewhere, earlier⟩
    · obtain ⟨different, old⟩ := AList.mem_erase.mp isKey
      obtain ⟨row, member, same, refers⟩ := settled.assigned houses.object old
      refine ⟨row, Database.mem_assign_other member ?_, same, refers⟩
      intro equal
      exact different (settled.distinct houses.object old isUser (same.symm.trans equal))
    · obtain ⟨row, member, same, refers⟩ := settled.assigned earlier isKey
      refine ⟨row, Database.mem_assign_other member ?_, same, refers⟩
      intro equal
      have here := Option.some.inj (refers.symm.trans
        (settled.current_eq houses.assigned member equal))
      exact elsewhere (unique earlier (here.trans named.symm)).symm
  · intro row member target refers
    rw [account] at member
    rcases Database.of_mem_assign member with ⟨_, assigned⟩ | ⟨different, earlier⟩
    · cases refers.symm.trans assigned
    · obtain ⟨place, other, key, object, otherId, isKey, same⟩ :=
        settled.housed row earlier target refers
      rw [departed_rooms]
      by_cases here : place = room
      · subst here
        cases houses.object.symm.trans object
        refine ⟨place, _, key, List.getElem?_set_self below, otherId,
          AList.mem_erase.mpr ⟨?_, isKey⟩, same⟩
        rintro rfl
        exact different same.symm
      · exact ⟨place, other, key, (List.getElem?_set_ne (Ne.symm here)).trans object,
          otherId, isKey, same⟩
  · intro place next first second object firstUser secondUser same
    rw [departed_rooms] at object
    rcases getElem?_set_cases object with ⟨rfl, rfl⟩ | ⟨_, earlier⟩
    · exact settled.distinct houses.object (AList.mem_erase.mp firstUser).2
        (AList.mem_erase.mp secondUser).2 same
    · exact settled.distinct earlier firstUser secondUser same
  · intro place next object stillAlive
    rw [departed_rooms] at object
    rcases getElem?_set_cases object with ⟨rfl, rfl⟩ | ⟨_, earlier⟩
    · have shorter := Ledger.length_keys_erase isUser
      have counted := (settled.counted houses.object alive).1
      by_cases last : current.roomState = 1
      · simp [Room.without, last] at stillAlive
      · simp only [Room.without, if_neg last]
        have several : (current.users.erase id).keys.length ≠ 0 := by omega
        refine ⟨by omega, ?_⟩
        intro empty
        simp [AList.keys, empty] at several
    · exact settled.counted earlier stillAlive

/-- As many accounts refer to a room as it has users. -/
theorem Settled.length_users (settled : base.Settled collate)
    (object : base.rooms[room]? = some current)
    (unique : ∀ {place : Nat} {other : Room}, base.rooms[place]? = some other →
      other.roomId = current.roomId →
      place = room) : current.users.keys.length =
      (base.db.account.filter fun row => row.currentRoomId = some current.roomId).length := by
  have keys : (current.users.keys.map collate).Nodup := by
    refine List.Nodup.map_on ?_ current.users.keys_nodup
    intro first firstUser second secondUser same
    exact settled.distinct object firstUser secondUser same
  have accounts : ((base.db.account.filter fun row => row.currentRoomId = some current.roomId).map
      fun row => collate row.id).Nodup := settled.accounts.sublist (List.filter_sublist.map _)
  have same : (current.users.keys.map collate).Perm
      ((base.db.account.filter fun row => row.currentRoomId = some current.roomId).map fun row =>
          collate row.id) := by
    refine (List.perm_ext_iff_of_nodup keys accounts).mpr ?_
    intro name
    simp only [List.mem_map, List.mem_filter, decide_eq_true_eq]
    constructor
    · rintro ⟨key, isUser, rfl⟩
      obtain ⟨row, member, named, refers⟩ := settled.assigned object isUser
      exact ⟨row, ⟨member, refers⟩, named⟩
    · rintro ⟨row, ⟨member, refers⟩, rfl⟩
      obtain ⟨place, other, key, otherObject, otherId, isUser, named⟩ :=
        settled.housed row member _ refers
      cases unique otherObject otherId
      cases object.symm.trans otherObject
      exact ⟨key, isUser, named⟩
  simpa using same.length_eq

end Settled

end Tables

namespace ServerState

variable {collate : String → String} {self after : ServerState} {index session : Nat}

theorem run_distinct (ran : (system collate).run events fresh = some self) :
    (self.tables.db.account.map fun row => collate row.id).Nodup := by
  have distinct : (self.auth.accounts.map fun account => collate account.id).Nodup := by
    have start : (fresh.auth.accounts.map fun account => collate account.id).Nodup := List.nodup_nil
    generalize fresh = first at ran start
    induction events generalizing first with
    | nil =>
        cases ran
        exact start
    | cons event rest ih =>
        obtain ⟨next, stepped, remaining⟩ := System.run_cons_some.mp ran
        exact ih next remaining ((step_move stepped).distinct start)
  simpa [ServerState.auth, tables, Database.bare, AccountRow.bare, AccountRow.auth,
    Function.comp_def] using distinct

/-- A handler that runs alone goes from position to position until it ends. -/
theorem run_solo {Pc : Type} (wrap : Pc → Task) (Fails : Tables → Pc → Prop)
    (Step : Tables → Pc → Option Pc → Tables → Prop) (At : Pc → Tables → Prop)
    (Ends : Tables → Prop) (unfinished : ∀ pc, wrap pc ≠ .done)
    (inversion : ∀ {self after : ServerState} {pc : Pc},
      self.advance collate index session (wrap pc) = some after →
      Outcome index session self after (Fails self.tables pc) fun next tables =>
        ∃ goal, next = goal.elim .done wrap ∧ Step self.tables pc goal tables)
    (continues : ∀ {pc goal before after}, At pc before → Step before pc (some goal) after →
      At goal after)
    (ends : ∀ {pc before after}, At pc before → Step before pc none after → Ends after) {pc : Pc}
    (found : self.processes[index]? = some ⟨session, wrap pc⟩) (place : At pc self.tables)
    (ran : (system collate).run (List.replicate steps (.run index)) self = some after)
    (finished : ∀ process ∈ after.processes[index]?, process.task = .done) : Ends after.tables := by
  induction steps generalizing self pc with
  | zero =>
      cases ran
      exact absurd (finished _ found) (unfinished pc)
  | succ steps ih =>
      obtain ⟨next, stepped, remaining⟩ := System.run_cons_some.mp ran
      obtain ⟨_, stepped⟩ := advance_of_step found stepped
      rcases inversion stepped with ⟨_, cause, rfl⟩ | ⟨_, ⟨goal, rfl, rule⟩, goes⟩
      · cases steps with
        | zero =>
            cases remaining
            exact absurd (finished _ found) (unfinished pc)
        | succ steps => cases remaining
      · cases goal with
        | none =>
            cases steps with
            | zero =>
                cases remaining
                exact ends place rule
            | succ steps =>
                obtain ⟨_, stepped, _⟩ := System.run_cons_some.mp remaining
                cases (advance_of_step (goes.found found) stepped).2
        | some goal => exact ih (goes.found found) (continues place rule) remaining

/-- A create or a join that is going to be granted comes from a user in no room. -/
def Unhoused (collate : String → String) (self : ServerState) : Message → Prop
  | .cCreateRoom id roomName => self.db.selectRoomId collate roomName = none →
      self.db.selectCurrentRoom collate id = some none
  | .cJoinRoom id roomName => (self.db.selectRoomId collate roomName).isSome →
      self.db.selectCurrentRoom collate id = some none
  | .cRoomOut _ _ => True
  | _ => False

/-- Requests that are handled one after the other, each to its end. -/
inductive Serves (collate : String → String) (Allowed : ServerState → Nat → Message → Prop)
    (start : ServerState) : ServerState → Prop where
  | start : Serves collate Allowed start start
  | serve {middle after : ServerState} {session steps : Nat} {message : Message} :
      Serves collate Allowed start middle → Allowed middle session message →
      (system collate).run (.request session message ::
        List.replicate steps (.run middle.processes.length)) middle =
        some after → after.Quiescent → Serves collate Allowed start after

section Serve

variable {id roomName : String} {steps : Nat}

theorem serve_create (found : self.processes[index]? = some ⟨session, .createRoom id roomName pc⟩)
    (place : Creating collate session id roomName base pc self.tables)
    (ran : (system collate).run (List.replicate steps (.run index)) self = some after)
    (finished : ∀ process ∈ after.processes[index]?, process.task = .done) :
    after.tables = base ∨ (base.db.selectRoomId collate roomName = none ∧
      after.tables = base.created collate session id roomName) :=
  run_solo (.createRoom id roomName) (CreateFails collate roomName)
    (CreateStep collate session id roomName) (Creating collate session id roomName base) _ (by simp)
    advanceCreateRoom_tables (fun place rule => rule.creating place)
    (fun place rule => rule.created place) found
      place ran finished

theorem serve_join {base : Tables}
    (used : ∀ {roomId room current}, base.Admits collate roomName roomId room current →
      current.users.entries ≠ [])
    (found : self.processes[index]? = some ⟨session, .joinRoom id roomName pc⟩)
    (place : Joining collate session id roomName base pc self.tables)
    (ran : (system collate).run (List.replicate steps (.run index)) self = some after)
    (finished : ∀ process ∈ after.processes[index]?, process.task = .done) :
    after.tables = base ∨ ∃ roomId room current, base.Admits collate roomName roomId room current ∧
      current.users.entries ≠ [] ∧ after.tables =
        base.joined collate session id roomId room current :=
  run_solo (.joinRoom id roomName) (fun _ _ => False) (JoinStep collate session id roomName)
    (Joining collate session id roomName base) _ (by simp)
    (fun stepped => .inr (advanceJoinRoom_tables stepped))
    (fun place rule => rule.joining place (place.finds used)) (fun place rule => rule.joined place)
    found place ran finished

theorem serve_out {base : Tables}
    (listed : ∀ {roomId room}, base.listed.lookup roomId = some room →
      ∃ current, base.rooms[room]? = some current)
    (found : self.processes[index]? = some ⟨session, .roomOut id pc⟩)
    (place : Outing collate id base pc self.tables)
    (ran : (system collate).run (List.replicate steps (.run index)) self = some after)
    (finished : ∀ process ∈ after.processes[index]?, process.task = .done) :
    ∃ roomId room current user, base.Houses collate id roomId room current ∧
      current.users.lookup id = some user ∧
      after.tables = base.departed collate room id current user :=
  run_solo (.roomOut id) (OutFails collate id) (OutStep collate id)
    (Outing collate id base) _ (by simp) advanceRoomOut_tables
    (fun place rule => rule.outing place listed)
      (fun place rule => rule.departed place)
    found place ran finished

end Serve

theorem serve_settled (housed : self.Housed collate) (quiescent : self.Quiescent)
    (settled : self.tables.Settled collate) (allowed : self.Unhoused collate message)
    (ran : (system collate).run (.request session message ::
      List.replicate steps (.run self.processes.length)) self =
      some after) (finished : after.Quiescent) : after.tables.Settled collate := by
  have done : ∀ process ∈ after.processes[self.processes.length]?, process.task = .done :=
    fun process found => finished process (List.mem_of_getElem? found)
  obtain ⟨spawned, requested, ran⟩ := System.run_cons_some.mp ran
  cases message with
  | cCreateRoom id roomName =>
      obtain ⟨rfl, _⟩ := step_request rfl requested
      rcases serve_create (found_spawn ..) .select ran done with same | ⟨free, created⟩
      · rw [same]
        exact settled
      · rw [created]
        exact settled.created ((Database.bare_selectCurrentRoom ..).trans (allowed free))
  | cJoinRoom id roomName =>
      obtain ⟨rfl, _⟩ := step_request rfl requested
      rcases serve_join (fun admits => (settled.counted admits.object admits.alive).2)
        (found_spawn ..) .select ran done with same | ⟨roomId, room, current, admits, _, joined⟩
      · rw [same]
        exact settled
      · obtain ⟨other, object, named⟩ := housed.listed admits.lists
        cases admits.object.symm.trans object
        rw [joined]
        refine settled.joined admits named ((Database.bare_selectCurrentRoom ..).trans (allowed ?_))
        exact Option.isSome_of_eq_some admits.found
  | cRoomOut id roomName =>
      obtain ⟨rfl, _⟩ := step_request rfl requested
      have listed : ∀ {roomId room}, self.tables.listed.lookup roomId = some room →
          ∃ current, self.tables.rooms[room]? = some current := by
        intro roomId room lists
        obtain ⟨current, object, _⟩ := housed.listed lists
        exact ⟨current, object⟩
      obtain ⟨roomId, room, current, user, houses, isUser, departed⟩ :=
        serve_out listed (found_spawn ..) .select ran done
      obtain ⟨other, object, rfl⟩ := housed.listed houses.lists
      cases houses.object.symm.trans object
      rw [departed]
      refine settled.departed houses rfl (AList.lookup_isSome.mp (Option.isSome_of_eq_some isUser))
        (alive_of_listed housed quiescent object houses.lists) ?_
      intro place other otherObject same
      exact housed.registry.id_unique otherObject object same
  | _ => exact allowed.elim

/-- The four records of who is in which room agree. -/
structure Balanced (collate : String → String) (server : ServerState) : Prop where
  rows : ∀ row ∈ server.db.room, ∃ (room : Nat) (current : Room),
    server.listed.lookup row.roomId = some room ∧
    server.rooms[room]? = some current ∧ row.userCount = current.roomState ∧
    current.roomState = current.users.keys.length ∧ current.users.keys.length =
      (server.db.account.filter fun account => account.currentRoomId = some row.roomId).length
  listed : ∀ {roomId room : Nat}, server.listed.lookup roomId = some room → ∃ row ∈ server.db.room,
    row.roomId = roomId
  single : ∀ {first second : Nat} {left right : Room} {leftKey rightKey : String},
    server.rooms[first]? = some left →
    server.rooms[second]? = some right → leftKey ∈ left.users → rightKey ∈ right.users →
    collate leftKey = collate rightKey → first = second ∧ leftKey = rightKey
  emptied : ∀ {room : Nat} {current : Room}, server.rooms[room]? = some current →
    current.users.entries = [] →
    current.roomState = destruction ∧ (∀ row ∈ server.db.room, row.roomId ≠ current.roomId) ∧
      server.listed.lookup current.roomId = none

theorem Balanced.of_settled (housed : self.Housed collate) (quiescent : self.Quiescent)
    (settled : self.tables.Settled collate) : self.Balanced collate := by
  have unique : ∀ {room : Nat} {current : Room}, self.rooms[room]? = some current →
      ∀ {place : Nat} {other : Room}, self.rooms[place]? = some other →
      other.roomId = current.roomId → place = room :=
    fun object _ _ otherObject same => housed.registry.id_unique otherObject object same
  refine ⟨?_, fun lists => listed_row housed quiescent lists, ?_, ?_⟩
  · intro row member
    obtain ⟨room, current, lists, object, counts⟩ := row_listed housed quiescent member
    obtain ⟨other, otherObject, named⟩ := housed.listed lists
    cases object.symm.trans otherObject
    have alive := alive_of_listed housed quiescent object (named ▸ lists)
    have members := settled.length_users object (unique object)
    refine ⟨room, current, lists, object, counts.symm, (settled.counted object alive).1, ?_⟩
    rw [members, named, tables, Database.bare, List.filter_map, List.length_map]
    rfl
  · intro first second left right leftKey rightKey leftObject rightObject leftUser rightUser same
    obtain ⟨row, member, named, refers⟩ := settled.assigned leftObject leftUser
    obtain ⟨other, otherMember, otherNamed, otherRefers⟩ := settled.assigned rightObject rightUser
    cases List.inj_on_of_nodup_map settled.accounts member otherMember
      (named.trans (same.trans otherNamed.symm))
    cases unique rightObject leftObject (Option.some.inj (refers.symm.trans otherRefers))
    cases leftObject.symm.trans rightObject
    exact ⟨rfl, settled.distinct leftObject leftUser rightUser same⟩
  · intro room current object empty
    have gone : current.roomState = destruction := by
      by_contra alive
      exact (settled.counted object alive).2 empty
    refine ⟨gone, ?_, ?_⟩
    · intro row member named
      obtain ⟨place, other, lists, otherObject, _⟩ := row_listed housed quiescent member
      obtain ⟨listedRoom, listedObject, listedId⟩ := housed.listed lists
      cases otherObject.symm.trans listedObject
      cases unique object otherObject (listedId.trans named)
      cases object.symm.trans otherObject
      exact alive_of_listed housed quiescent object (named ▸ lists) gone
    · by_contra lists
      obtain ⟨place, lists⟩ := Option.ne_none_iff_exists'.mp lists
      obtain ⟨other, otherObject, named⟩ := housed.listed lists
      cases unique object otherObject named
      exact alive_of_listed housed quiescent object lists gone

theorem serves_settled {start : ServerState} (housed : start.Housed collate)
    (quiescent : start.Quiescent) (settled : start.tables.Settled collate)
    (serves : Serves collate (fun server _ message => server.Unhoused collate message)
      start state) :
    state.Housed collate ∧ state.Quiescent ∧ state.tables.Settled collate := by
  induction serves with
  | start => exact ⟨housed, quiescent, settled⟩
  | serve serves allowed ran finished ih =>
      obtain ⟨middleHoused, middleQuiescent, middleSettled⟩ := ih
      exact ⟨run_housed ran middleHoused, finished,
        serve_settled middleHoused middleQuiescent middleSettled allowed ran finished⟩

/-- Requests one at a time, from a server without rooms: as long as only users in no
room are granted a create or a join, every room counts exactly its users. -/
theorem membership_balanced {setup : List ServerEvent} {start state : ServerState}
    (reached : (system collate).run setup fresh = some start) (quiescent : start.Quiescent)
    (noRoom : start.rooms = []) (unassigned : ∀ row ∈ start.db.account, row.currentRoomId = none)
    (serves : Serves collate (fun server _ message => server.Unhoused collate message)
      start state) :
    state.Balanced collate := by
  have settled : start.tables.Settled collate := by
    refine ⟨run_distinct reached, ?_, ?_, ?_, ?_⟩
    · intro room current key object
      simp [tables, noRoom] at object
    · intro row member roomId refers
      obtain ⟨source, sourceMember, rfl⟩ := List.mem_map.mp member
      cases (unassigned source sourceMember).symm.trans refers
    · intro room current first second object
      simp [tables, noRoom] at object
    · intro room current object
      simp [tables, noRoom] at object
  obtain ⟨housed, finished, settled⟩ := serves_settled (run_housed reached fresh_housed)
    quiescent settled serves
  exact .of_settled housed finished settled

/-- One user creates a room, another joins it, and the first leaves. -/
theorem membership_balanced_two_users :
    let events := [.connect, .connect] ++ handled 0 (.cRegister "a" "p") 0 2 ++
      handled 1 (.cRegister "b" "p") 1 2
    ∃ start state, (system id).run events fresh = some start ∧
      Serves id (fun server _ message => server.Unhoused id message) start state ∧
      state.db.room = [⟨1, "r", 1⟩] ∧ state.Balanced id := by
  intro events
  obtain ⟨start, one, two, three, reached, quiescent, noRoom, unassigned, create, created,
      createDone, join, joined, joinDone, out, outDone, row⟩ : ∃ start one two three,
      (system id).run events fresh = some start ∧ start.Quiescent ∧ start.rooms = [] ∧
      (∀ row ∈ start.db.account, row.currentRoomId = none) ∧
      start.db.selectCurrentRoom id "a" = some none ∧
      (system id).run (handled 0 (.cCreateRoom "a" "r") start.processes.length 9) start =
        some one ∧ one.Quiescent ∧ one.db.selectCurrentRoom id "b" = some none ∧
      (system id).run (handled 1 (.cJoinRoom "b" "r") one.processes.length 10) one = some two ∧
      two.Quiescent ∧
      (system id).run (handled 0 (.cRoomOut "a" "r") two.processes.length 10) two = some three ∧
      three.Quiescent ∧ three.db.room = [⟨1, "r", 1⟩] :=
    ⟨_, _, _, _, rfl, by decide, rfl, by decide, rfl, rfl, by decide, rfl, rfl, by decide, rfl,
      by decide, rfl⟩
  have serves : Serves id (fun server _ message => server.Unhoused id message) start three := by
    refine .serve (.serve (.serve .start ?_ created createDone) ?_ joined joinDone) ?_ out outDone
    · exact fun _ => create
    · exact fun _ => join
    · trivial
  exact ⟨start, three, reached, serves, row,
    membership_balanced reached quiescent noRoom unassigned serves⟩

/-- A request by a user that is logged in, under their own id. -/
def Own (collate : String → String) (self : ServerState) (session : Nat) : Message → Prop
  | .cCreateRoom id _ | .cJoinRoom id _ | .cRoomOut id _ => self.sessionId session = id ∧
      ∃ row ∈ self.db.account, collate row.id = collate id ∧ row.isOnline = true
  | _ => False

/-- The user of a room joins it again and then leaves: the room counts two users where
there is one, and stays when there is none. -/
theorem membership_counted_twice :
    let events := .connect :: handled 0 (.cRegister "a" "p") 0 2 ++ handled 0 (.cLogin "a" "p") 1 4
    ∃ start twice empty, (system id).run events fresh = some start ∧ start.Quiescent ∧
      start.rooms = [] ∧ Serves id (Own id) start twice ∧ Serves id (Own id) start empty ∧
      (twice.db.room = [⟨1, "r", 2⟩] ∧
        ∃ current ∈ twice.rooms[0]?, current.roomState = 2 ∧ current.users.keys = ["a"]) ∧
      ¬ twice.Balanced id ∧
      (empty.db.room = [⟨1, "r", 1⟩] ∧ empty.listed.lookup 1 = some 0 ∧
        ∃ current ∈ empty.rooms[0]?, current.roomState = 1 ∧ current.users.keys = []) := by
  intro events
  obtain ⟨start, one, two, three, reached, quiescent, noRoom, own, create, createDone, ownAgain,
      join, joinDone, ownLeave, out, outDone, row, lists, object, left⟩ : ∃ start one two three,
      (system id).run events fresh = some start ∧ start.Quiescent ∧ start.rooms = [] ∧
      start.Own id 0 (.cCreateRoom "a" "r") ∧
      (system id).run (handled 0 (.cCreateRoom "a" "r") start.processes.length 9) start =
        some one ∧ one.Quiescent ∧ one.Own id 0 (.cJoinRoom "a" "r") ∧
      (system id).run (handled 0 (.cJoinRoom "a" "r") one.processes.length 10) one = some two ∧
      two.Quiescent ∧ two.Own id 0 (.cRoomOut "a" "r") ∧
      (system id).run (handled 0 (.cRoomOut "a" "r") two.processes.length 10) two = some three ∧
      three.Quiescent ∧ two.db.room = [⟨1, "r", 2⟩] ∧ two.listed.lookup 1 = some 0 ∧
      (∃ current ∈ two.rooms[0]?, current.roomState = 2 ∧ current.users.keys = ["a"]) ∧
      three.db.room = [⟨1, "r", 1⟩] ∧ three.listed.lookup 1 = some 0 ∧
        ∃ current ∈ three.rooms[0]?, current.roomState = 1 ∧ current.users.keys = [] :=
    ⟨_, _, _, _, rfl, by decide, rfl, ⟨rfl, _, List.mem_cons_self, rfl, rfl⟩, rfl, by decide,
      ⟨rfl, _, List.mem_cons_self, rfl, rfl⟩, rfl, by decide,
      ⟨rfl, _, List.mem_cons_self, rfl, rfl⟩,
      rfl, by decide, rfl, rfl, ⟨_, rfl, rfl, rfl⟩, rfl, rfl,
      _, rfl, rfl, rfl⟩
  have twice : Serves id (Own id) start two :=
    .serve (.serve .start own create createDone) ownAgain join joinDone
  refine ⟨start, two, three, reached, quiescent, noRoom, twice, .serve twice ownLeave out outDone,
    ⟨row, object⟩, ?_, left⟩
  intro balanced
  obtain ⟨current, isObject, counts, keys⟩ := object
  obtain ⟨room, other, otherLists, otherObject, _, users, _⟩ :=
    balanced.rows ⟨1, "r", 2⟩ (by rw [row]; exact List.mem_cons_self)
  cases lists.symm.trans otherLists
  cases Option.some.inj (otherObject.symm.trans isObject)
  rw [counts, keys] at users
  contradiction

end ServerState

end ChattingProgram.Server
