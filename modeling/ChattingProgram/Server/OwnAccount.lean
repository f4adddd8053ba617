import ChattingProgram.Server.Occupancy
import ChattingProgram.Server.Replies

namespace ChattingProgram.Server

open ChattingProgram.Protocol ChattingProgram.Machine

/-! # Whose account a handler works for

The handlers of the requests about rooms take the account from the packet.  The
session keeps the id that it has logged in with and no handler compares the two:
a session acts only for itself as long as its packets name its own account.
-/

/-- The account that the packet of a handler names. -/
def Task.account : Task → Option String
  | .createRoom id _ _ | .joinRoom id _ _ | .chatLog id _ _ | .roomOut id _ => some id
  | _ => none

/-! ## Counters -/

namespace House

variable {collate : String → String} {house after : House}

end House

/-! ## What a handler changes -/

/-- The accounts are the same, and only the own ones are in another room. -/
def Reassigns (Mine : String → Prop) (rows next : List AccountRow) : Prop :=
  List.Forall₂ (fun row new => new.id = row.id ∧
    (new.currentRoomId = row.currentRoomId ∨ Mine row.id)) rows next

section Reassigns

variable {collate : String → String} {Mine : String → Prop} {id : String}

theorem Reassigns.refl (rows : List AccountRow) : Reassigns Mine rows rows :=
  List.forall₂_same.mpr fun _ _ => ⟨rfl, .inl rfl⟩

theorem Reassigns.map {change : AccountRow → AccountRow}
    (changes : ∀ row ∈ rows, (change row).id = row.id ∧
      ((change row).currentRoomId = row.currentRoomId ∨ Mine row.id)) :
    Reassigns Mine rows (rows.map change) :=
  List.forall₂_map_right_iff.mpr (List.forall₂_same.mpr changes)

theorem Reassigns.assign {db : Database} (mine : ∀ key, collate key = collate id → Mine key) :
    Reassigns Mine db.account (db.assign collate id roomId).account := by
  refine .map ?_
  intro row _
  split
  · rename_i named
    exact ⟨rfl, .inr (mine row.id named)⟩
  · exact ⟨rfl, .inl rfl⟩

/-- The foreign key of `chat.account` takes nobody out of a room that nobody is in. -/
theorem Reassigns.deleteRoom {db : Database} (empty : db.registered roomId = ∅) :
    Reassigns Mine db.account (db.deleteRoom roomId).account := by
  simp only [Database.deleteRoom]
  split
  · refine .map ?_
    intro row member
    split
    · rename_i refers
      have isMember : row.id ∈ db.registered roomId := ⟨row, member, rfl, refers⟩
      rw [empty] at isMember
      exact isMember.elim
    · exact ⟨rfl, .inl rfl⟩
  · exact .refl _

variable {session room : Nat} {roomName : String} {tables after : Tables}
  (mine : ∀ key, collate key = collate id → Mine key)

include mine

end Reassigns

namespace ServerState

section Advance

variable {collate : String → String} {self after : ServerState}
  {index session room : Nat} {id : String}

/-! ### The log -/

theorem RemoveTurn.log (turn : RemoveTurn collate self room userId pc goal after) :
    after.db.log ⊆ self.db.log := by
  cases turn with
  | updateAccount _ _ updated =>
      cases Database.updateCurrentRoom_eq updated
      exact List.Subset.refl _
  | delete =>
      simp only [Database.deleteRoom]
      split
      · exact List.filter_subset_self _
      · exact List.Subset.refl _
  | broadcast =>
      have queues := refresh_queues self
      rw [setRoomObject, (queues ..).db]
      exact List.Subset.refl _
  | _ => exact List.Subset.refl _

theorem Turn.log (turn : Turn collate self session task next after) (member : row ∈ after.db.log) :
    row ∈ self.db.log ∨ task.account = some row.accountId := by
  cases turn with
  | register inserted =>
      simp only [Database.insertAccount, Option.ite_none_left_eq_some] at inserted
      cases inserted.2
      exact .inl member
  | insertRoom inserted =>
      cases Database.insertRoom_eq inserted
      exact .inl member
  | settle updated | enter updated =>
      cases Database.updateCurrentRoom_eq updated
      exact .inl member
  | insertLog inserted =>
      simp only [Database.insertLog, Option.ite_none_right_eq_some] at inserted
      cases inserted.2
      refine (List.mem_append.mp member).imp_right ?_
      intro new
      cases List.mem_singleton.mp new
      rfl
  | welcome | chat => exact .inl ((broadCast_queues ..).db ▸ member)
  | leave turn | drop turn => exact .inl (turn.log member)
  | _ => exact .inl member

/-! ### Packets, members and rooms -/

/-- A handler keeps the account of its packet. -/
theorem Turn.account (turn : Turn collate self session task next after)
    (named : next.account = some id) : task.account = some id := by
  cases turn with
  | @leave _ _ _ goal => cases goal <;> exact named
  | @drop _ _ goal => cases goal <;> cases named
  | _ => first | exact named | cases named

end Advance

end ServerState

/-! ## The logins of a session -/

/-- The server, with the ids that every session has logged in with. -/
structure Watched where
  server : ServerState
  logins : List (Nat × String)

/-- The login that a step completes. -/
def ServerEvent.login (server : ServerState) : ServerEvent → Option (Nat × String)
  | .run index => (server.processes[index]?).bind fun process =>
      process.task.setsId.map fun id => (process.session, id)
  | _ => none

namespace Watched

def fresh : Watched := ⟨.fresh, []⟩

def step (collate : String → String) (event : ServerEvent) (self : Watched) : Option Watched :=
  (ServerState.step collate event self.server).map fun next =>
    ⟨next, self.logins ++ (event.login self.server).toList⟩

def system (collate : String → String) : System Watched ServerEvent := ⟨step collate⟩

/-- The session has logged in to the account. -/
def Owns (collate : String → String) (self : Watched) (session : Nat) (id : String) : Prop :=
  ∃ login ∈ self.logins, login.1 = session ∧ collate login.2 = collate id

instance (collate : String → String) (self : Watched) (session : Nat) (id : String) :
    Decidable (self.Owns collate session id) := inferInstanceAs (Decidable (∃ login ∈ _, _))

/-- A request about rooms names an account that its session has logged in to. -/
def OwnRequest (collate : String → String) : ServerEvent → Watched → Prop
  | .request session message, self =>
      ∀ id ∈ (ServerState.handler message).bind Task.account, self.Owns collate session id
  | _, _ => True

/-- Requests name their own account, and no login outlasts its connection. -/
def Honest (collate : String → String) (event : ServerEvent) (self : Watched) : Prop :=
  OwnRequest collate event self ∧ ServerState.LoginInTime event self.server

instance (collate : String → String) (self : Watched) : ∀ event,
    Decidable (OwnRequest collate event self)
  | .request session message => inferInstanceAs
      (Decidable (∀ id ∈ (ServerState.handler message).bind Task.account,
      self.Owns collate session id))
  | .connect | .run _ | .disconnect _ => .isTrue trivial

instance (collate : String → String) (event : ServerEvent) (self : Watched) :
    Decidable (Honest collate event self) :=
  inferInstanceAs (Decidable (_ ∧ _))

structure Sound (collate : String → String) (watched : Watched) : Prop where
  housed : watched.server.Housed collate
  exclusive : Auth.Exclusive collate watched.server.auth
  hosted : watched.server.Hosted collate
  own : ∀ process ∈ watched.server.processes, ∀ id, process.task.account = some id →
    watched.Owns collate process.session id

variable {collate : String → String} {self after : Watched} {event : ServerEvent}

theorem step_some (stepped : (system collate).step event self = some after) :
    (ServerState.system collate).step event self.server = some after.server ∧
      after.logins = self.logins ++ (event.login self.server).toList := by
  obtain ⟨next, reached, rfl⟩ := Option.map_eq_some_iff.mp stepped
  exact ⟨reached, rfl⟩

theorem Owns.mono {id : String} {logins : List (Nat × String)}
    (grown : after.logins = self.logins ++ logins) (owns : self.Owns collate session id) :
    after.Owns collate session id := by
  obtain ⟨login, member, same⟩ := owns
  exact ⟨login, grown ▸ List.mem_append_left _ member, same⟩

/-- A process of the next state is an old one, or has the account of an old one, or of the request. -/
theorem process_cases {server : ServerState}
    (stepped : (ServerState.system collate).step event server = some next)
    (member : process ∈ next.processes) {id : String} (account : process.task.account = some id) :
    (∃ earlier ∈ server.processes, earlier.session = process.session ∧
      earlier.task.account = some id) ∨
      ∃ message, event = .request process.session message ∧
        (ServerState.handler message).bind Task.account = some id := by
  obtain ⟨index, found⟩ := List.getElem?_of_mem member
  rcases ServerState.process_of_step stepped found with earlier | ⟨message, rfl, handles⟩ | leaves |
    ⟨task, _, _, runs, turn, _⟩
  · exact .inl ⟨process, List.mem_of_getElem? earlier, rfl, account⟩
  · exact .inr ⟨message, rfl, by rw [handles]; exact account⟩
  · rw [leaves] at account
    contradiction
  · exact .inl ⟨_, List.mem_of_getElem? runs, rfl, turn.account account⟩

theorem step_sound (honest : Honest collate event self)
    (stepped : (system collate).step event self = some after) (before : self.Sound collate) :
    after.Sound collate := by
  obtain ⟨reached, grown⟩ := step_some stepped
  refine ⟨ServerState.step_housed reached before.housed,
    (ServerState.step_move reached).exclusive before.exclusive, ?_, ?_⟩
  · exact ServerState.step_hosted before.exclusive honest.2 reached before.housed before.hosted
  · intro process member id account
    rcases process_cases reached member account with
      ⟨earlier, old, same, named⟩ | ⟨message, rfl, named⟩
    · exact same ▸ (before.own earlier old id named).mono grown
    · exact Owns.mono grown (honest.1 id named)

theorem run_sound (honest : (system collate).Guarded (Honest collate) events fresh)
    (ran : (system collate).run events fresh = some self) : self.Sound collate :=
  System.run_preserves_guarded step_sound honest ran
    ⟨ServerState.fresh_housed, Auth.exclusive_empty,
    ServerState.fresh_hosted, by simp [fresh, ServerState.fresh]⟩

end Watched

end ChattingProgram.Server
