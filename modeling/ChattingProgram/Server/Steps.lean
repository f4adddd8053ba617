import ChattingProgram.Server.Handlers

namespace ChattingProgram.Server

open ChattingProgram.Protocol ChattingProgram.Machine

/-! # What a step of a handler does

One rule for every step of every handler: the task that the process goes on with,
and the state that the step leaves apart from the process itself.  Whatever the
later modules see of a step (logins, rooms, tables, queues) is read off these rules.
-/

def ClientSession.mute (self : ClientSession) : ClientSession := { self with outbox := [] }

/-- The answer to the client with which a handler ends, when it comes next. -/
def Task.reply : Task → Option Message
  | .login id pssd (.reply canLogin) => some (.sLogin canLogin id pssd)
  | .register id pssd (.reply isSuccess) => some (.sRegister isSuccess id pssd)
  | .refreshLobby (.reply rooms) =>
      some (.sRefreshLobby true (rooms.map Prod.fst) (rooms.map Prod.snd))
  | .createRoom _ roomName (.reply canCreate) => some (.sCreateRoom canCreate roomName)
  | .joinRoom _ roomName (.reply _ canJoin userIds) => some (.sJoinRoom canJoin roomName userIds)
  | .roomOut _ (.reply _) => some .sRoomOut
  | _ => none

namespace ServerState

/-! ## Queues -/

/-- Nothing but the queues of sessions has changed. -/
structure Queues (before after : ServerState) : Prop where
  rest : after = { before with sessions := after.sessions }
  sessions : after.sessions.map ClientSession.mute = before.sessions.map ClientSession.mute

theorem Queues.refl (self : ServerState) : Queues self self := ⟨rfl, rfl⟩

theorem Queues.trans (first : Queues before middle) (second : Queues middle after) :
    Queues before after where
  rest := by
    rw [second.rest, first.rest]
  sessions := second.sessions.trans first.sessions

theorem Queues.db (queues : Queues before after) : after.db = before.db := by
  rw [queues.rest]

theorem Queues.rooms (queues : Queues before after) : after.rooms = before.rooms := by
  rw [queues.rest]

theorem Queues.createLock (queues : Queues before after) :
    after.createLock = before.createLock := by
  rw [queues.rest]

theorem Queues.processes (queues : Queues before after) : after.processes = before.processes := by
  rw [queues.rest]

theorem Queues.crash (queues : Queues before after) : after.crash = before.crash := by
  rw [queues.rest]

/-- What does not look at queues is the same. -/
theorem Queues.map (queues : Queues before after) {View : Type} {view : ClientSession → View}
    (blind : ∀ current, view current.mute = view current) :
    after.sessions.map view = before.sessions.map view := by
  have factors : view = view ∘ ClientSession.mute := funext fun current => (blind current).symm
  rw [factors, ← List.map_map, ← List.map_map, queues.sessions]

theorem send_queues (self : ServerState) (message : Message) (session : Nat) :
    Queues self (self.send message session) := by
  refine ⟨rfl, ?_⟩
  simp only [send, modifySession]
  refine map_modify fun current => ?_
  split <;> rfl

theorem broadCast_queues (self : ServerState) (users : Users) (message : Message)
    (excluUser : Option Nat) : Queues self (self.broadCast users message excluUser) := by
  simp only [broadCast]
  generalize users.inOrder = entries
  induction entries generalizing self with
  | nil => exact .refl self
  | cons entry rest ih =>
      rw [List.foldl_cons]
      split
      · exact ih self
      · exact (send_queues self message entry.2).trans (ih _)

/-- `RemoveUser` sends nothing to a room that has no user left. -/
theorem refresh_queues (self : ServerState) (users : Users) (userIds : List String) :
    Queues self (if userIds.isEmpty then self
      else self.broadCast users (.sRefreshRoom userIds) none) := by
  split
  · exact .refl self
  · exact broadCast_queues ..

/-! ## Rules -/

section Rules

variable (collate : String → String) (self : ServerState) (session room : Nat) (userId : String)

/-- The steps of `RemoveUser`; without a goal it returns. -/
inductive RemoveTurn : RemovePc → Option RemovePc → ServerState → Prop where
  | updateAccount {current : Room} {db : Database} : self.rooms[room]? = some current →
      current.locked = false → self.db.updateCurrentRoom collate userId none = some db →
      RemoveTurn .updateAccount (some .updateRoom)
        ({ self with db := db }.setRoomObject room { current with locked := true })
  | updateRoom {current : Room} : self.rooms[room]? = some current →
      RemoveTurn .updateRoom (some .erase)
        { self with db := self.db.addUserCount current.roomId (-1) }
  | erase {current : Room} {user : Nat} : self.rooms[room]? = some current →
      current.users.lookup userId = some user →
      RemoveTurn .erase (some .fetchSub) ((self.setRoom user none).setRoomObject room
          { current with users := current.users.erase userId })
  | fetchSub {current : Room} : self.rooms[room]? = some current →
      RemoveTurn .fetchSub (some .cas)
        (self.setRoomObject room { current with roomState := current.roomState - 1 })
  | destroy {current : Room} : self.rooms[room]? = some current → current.roomState = 0 →
      RemoveTurn .cas (some .delete)
        (self.setRoomObject room { current with roomState := destruction })
  | keep {current : Room} : self.rooms[room]? = some current → current.roomState ≠ 0 →
      RemoveTurn .cas (some .select) self
  | delete {current : Room} : self.rooms[room]? = some current →
      RemoveTurn .delete (some .removeRoom) { self with db := self.db.deleteRoom current.roomId }
  | removeRoom {current : Room} {place : Nat} : self.rooms[room]? = some current →
      self.listed.lookup current.roomId = some place →
      RemoveTurn .removeRoom none
        ({ self with listed := self.listed.erase current.roomId }.setRoomObject room
          { current with locked := false })
  | select {current : Room} : self.rooms[room]? = some current →
      RemoveTurn .select (some (.broadcast (self.db.selectMembers current.roomId))) self
  | broadcast {current : Room} {userIds : List String} : self.rooms[room]? = some current →
      RemoveTurn (.broadcast userIds) none
        ((if userIds.isEmpty then self else self.broadCast current.users
          (.sRefreshRoom userIds) none ).setRoomObject room { current with locked := false })

/-- The assertions of `RemoveUser` and `RemoveRoom` that fail. -/
inductive RemoveStops : RemovePc → Crash → Prop where
  | find {current : Room} : self.rooms[room]? = some current → current.users.lookup userId = none →
      RemoveStops .erase .removeUserFind
  | removeRoom {current : Room} : self.rooms[room]? = some current →
      self.listed.lookup current.roomId = none →
      RemoveStops .removeRoom .removeRoomFind

/-- The steps of the handlers. -/
inductive Turn : Task → Task → ServerState → Prop where
  | reply {task : Task} {message : Message} : task.reply = some message →
      Turn task .done (self.send message session)
  -- `C_LOGIN`
  | noLogin {id pssd : String} : self.loginLock = false →
      self.db.selectOffline collate id pssd = false →
      Turn (.login id pssd .select) (.login id pssd (.reply false)) self
  | login {id pssd : String} : self.loginLock = false →
      self.db.selectOffline collate id pssd = true →
      Turn (.login id pssd .select) (.login id pssd .update) { self with loginLock := true }
  | online {id pssd : String} :
      Turn (.login id pssd .update) (.login id pssd .setId)
        { self with db := self.db.updateOnline collate id true }
  | setId {id pssd : String} :
      Turn (.login id pssd .setId) (.login id pssd (.reply true))
        ({ self with loginLock := false }.setId session id)
  -- `C_REGISTER`
  | register {id pssd : String} {db : Database} : self.db.insertAccount collate id pssd = some db →
      Turn (.register id pssd .insert) (.register id pssd (.reply true)) { self with db := db }
  | noRegister {id pssd : String} : self.db.insertAccount collate id pssd = none →
      Turn (.register id pssd .insert) (.register id pssd (.reply false)) self
  -- `C_REFRESH_LOBBY`
  | refreshLobby :
      Turn (.refreshLobby .select) (.refreshLobby (.reply self.db.selectRooms)) self
  -- `C_CREATE_ROOM`
  | noCreate {id roomName : String} : self.createLock = false →
      (self.db.selectRoomId collate roomName).isSome = true →
      Turn (.createRoom id roomName .select) (.createRoom id roomName (.reply false)) self
  | create {id roomName : String} : self.createLock = false →
      self.db.selectRoomId collate roomName = none →
      Turn (.createRoom id roomName .select) (.createRoom id roomName .insert)
        { self with createLock := true }
  | insertRoom {id roomName : String} {db : Database} :
      self.db.insertRoom collate roomName = some db →
      Turn (.createRoom id roomName .insert) (.createRoom id roomName .selectId)
        { self with db := db, createLock := false }
  | selectId {id roomName : String} {roomId : Nat} : self.db.selectRoomId collate roomName =
      some roomId → Turn (.createRoom id roomName .selectId)
        (.createRoom id roomName (.updateAccount roomId)) self
  | settle {id roomName : String} {roomId : Nat} {db : Database} :
      self.db.updateCurrentRoom collate id (some roomId) = some db →
      Turn (.createRoom id roomName (.updateAccount roomId))
        (.createRoom id roomName (.makeRoom roomId)) { self with db := db }
  | makeRoom {id roomName : String} {roomId : Nat} :
      Turn (.createRoom id roomName (.makeRoom roomId))
        (.createRoom id roomName (.fetchAdd self.rooms.length))
        { self with rooms := self.rooms ++ [⟨roomId, AList.insert id session ∅, 0, false⟩] }
  | fetchAdd {id roomName : String} {room : Nat} {current : Room} :
      self.rooms[room]? = some current →
      Turn (.createRoom id roomName (.fetchAdd room)) (.createRoom id roomName (.setRoom room))
        (self.setRoomObject room { current with roomState := current.roomState + 1 })
  | setRoom {id roomName : String} {room : Nat} :
      Turn (.createRoom id roomName (.setRoom room))
        (.createRoom id roomName (.addRoom room)) (self.setRoom session (some room))
  | addRoom {id roomName : String} {room : Nat} {current : Room} :
      self.rooms[room]? = some current →
      Turn (.createRoom id roomName (.addRoom room)) (.createRoom id roomName (.reply true))
        { self with listed := self.listed.insert current.roomId room }
  -- `C_JOIN_ROOM`
  | joinSelect {id roomName : String} {roomId : Nat} :
      self.db.selectRoomId collate roomName = some roomId →
      Turn (.joinRoom id roomName .select) (.joinRoom id roomName (.getRoom roomId)) self
  | unknown {id roomName : String} : self.db.selectRoomId collate roomName = none →
      Turn (.joinRoom id roomName .select) (.joinRoom id roomName (.reply none false [])) self
  | joinGetRoom {id roomName : String} {roomId room : Nat} : self.listed.lookup roomId = some room →
      Turn (.joinRoom id roomName (.getRoom roomId))
        (.joinRoom id roomName (.load roomId room)) self
  | unlisted {id roomName : String} {roomId : Nat} : self.listed.lookup roomId = none →
      Turn (.joinRoom id roomName (.getRoom roomId))
        (.joinRoom id roomName (.reply none false [])) self
  | load {id roomName : String} {roomId room : Nat} {current : Room} :
      self.rooms[room]? = some current → current.roomState ≠ destruction →
      Turn (.joinRoom id roomName (.load roomId room))
        (.joinRoom id roomName (.cas roomId room current.roomState)) self
  | refuse {id roomName : String} {roomId room : Nat} {current : Room} :
      self.rooms[room]? = some current → current.roomState = destruction →
      Turn (.joinRoom id roomName (.load roomId room))
        (.joinRoom id roomName (.reply (some room) false [])) self
  | cas {id roomName : String} {roomId room : Nat} {state : Int} {current : Room} :
      self.rooms[room]? = some current → current.roomState = state →
      Turn (.joinRoom id roomName (.cas roomId room state))
        (.joinRoom id roomName (.updateAccount roomId room))
        (self.setRoomObject room { current with roomState := state + 1 })
  | again {id roomName : String} {roomId room : Nat} {state : Int} {current : Room} :
      self.rooms[room]? = some current → current.roomState ≠ state →
      current.roomState ≠ destruction →
      Turn (.joinRoom id roomName (.cas roomId room state))
        (.joinRoom id roomName (.cas roomId room current.roomState)) self
  | lost {id roomName : String} {roomId room : Nat} {state : Int} {current : Room} :
      self.rooms[room]? = some current → current.roomState ≠ state →
      current.roomState = destruction →
      Turn (.joinRoom id roomName (.cas roomId room state))
        (.joinRoom id roomName (.reply (some room) false [])) self
  | enter {id roomName : String} {roomId room : Nat} {db : Database} :
      self.db.updateCurrentRoom collate id (some roomId) = some db →
      Turn (.joinRoom id roomName (.updateAccount roomId room))
        (.joinRoom id roomName (.updateRoom roomId room)) { self with db := db }
  | count {id roomName : String} {roomId room : Nat} :
      Turn (.joinRoom id roomName (.updateRoom roomId room))
        (.joinRoom id roomName (.selectMembers roomId room))
        { self with db := self.db.addUserCount roomId 1 }
  | selectMembers {id roomName : String} {roomId room : Nat} :
      Turn (.joinRoom id roomName (.selectMembers roomId room))
        (.joinRoom id roomName (.addUser room (self.db.selectMembers roomId))) self
  | miss {id roomName : String} {room : Nat} {userIds : List String} {current : Room} :
      self.rooms[room]? = some current → current.locked = false → current.users.entries = [] →
      Turn (.joinRoom id roomName (.addUser room userIds))
        (.joinRoom id roomName (.broadcast room userIds)) self
  | addUser {id roomName : String} {room : Nat} {userIds : List String} {current : Room} :
      self.rooms[room]? = some current → current.locked = false → current.users.entries ≠ [] →
      Turn (.joinRoom id roomName (.addUser room userIds))
        (.joinRoom id roomName (.broadcast room userIds))
        ((self.setRoomObject room { current with users := current.users.insert id session }).setRoom
          session (some room))
  | welcome {id roomName : String} {room : Nat} {userIds : List String} {current : Room} :
      self.rooms[room]? = some current → current.locked = false →
      Turn (.joinRoom id roomName (.broadcast room userIds))
        (.joinRoom id roomName (.reply (some room) true userIds))
        (self.broadCast current.users (.sRefreshRoom userIds) (some session))
  -- `C_CHAT_LOG`
  | chatSelect {id log : String} {roomId : Nat} : self.db.selectChatRoom collate id = some roomId →
      Turn (.chatLog id log .select) (.chatLog id log (.insert roomId)) self
  | insertLog {id log : String} {roomId : Nat} {db : Database} :
      self.db.insertLog collate id roomId log = some db →
      Turn (.chatLog id log (.insert roomId)) (.chatLog id log (.getRoom roomId))
        { self with db := db }
  | chatGetRoom {id log : String} {roomId room : Nat} : self.listed.lookup roomId = some room →
      Turn (.chatLog id log (.getRoom roomId)) (.chatLog id log (.broadcast room)) self
  | chat {id log : String} {room : Nat} {current : Room} :
      self.rooms[room]? = some current → current.locked = false →
      Turn (.chatLog id log (.broadcast room)) .done
        (self.broadCast current.users (.sChatLog id log) none)
  -- `C_ROOM_OUT`
  | outSelect {id : String} {roomId : Nat} :
      self.db.selectCurrentRoom collate id = some (some roomId) →
      Turn (.roomOut id .select) (.roomOut id (.getRoom roomId)) self
  | outGetRoom {id : String} {roomId room : Nat} : self.listed.lookup roomId = some room →
      Turn (.roomOut id (.getRoom roomId)) (.roomOut id (.remove room .updateAccount)) self
  | leave {id : String} {room : Nat} {pc : RemovePc} {goal : Option RemovePc}
      {changed : ServerState} : RemoveTurn collate self room id pc goal changed →
      Turn (.roomOut id (.remove room pc))
        (goal.elim (.roomOut id (.reply room)) fun pc => .roomOut id (.remove room pc)) changed
  -- `OnDisconnected`
  | expired : Turn (.onDisconnected .expired)
      (.onDisconnected (if (self.lockRoom session).isSome then .lock else .readId)) self
  | lock {room : Nat} : self.lockRoom session = some room →
      Turn (.onDisconnected .lock) (.onDisconnected (.remove room .updateAccount)) self
  | drop {room : Nat} {pc : RemovePc} {goal : Option RemovePc} {changed : ServerState} :
      RemoveTurn collate self room (self.sessionId session) pc goal changed →
      Turn (.onDisconnected (.remove room pc))
        (goal.elim (.onDisconnected .readId) fun pc => .onDisconnected (.remove room pc)) changed
  | readId : Turn (.onDisconnected .readId)
      (.onDisconnected (.update (self.sessionId session))) self
  | offline {id : String} : Turn (.onDisconnected (.update id)) .done
      ({ self with db := self.db.updateOnline collate id false }.modifySession session
        fun current => { current with disconnected := true })

/-- The assertions of the handlers that fail. -/
inductive Stops : Task → Crash → Prop where
  | createFetch {id roomName : String} : self.db.selectRoomId collate roomName = none →
      Stops (.createRoom id roomName .selectId) .createFetch
  | chatFetch {id log : String} : self.db.selectChatRoom collate id = none →
      Stops (.chatLog id log .select) .chatFetch
  | chatRoom {id log : String} {roomId : Nat} : self.listed.lookup roomId = none →
      Stops (.chatLog id log (.getRoom roomId)) .nullRoom
  | outFetch {id : String} : self.db.selectCurrentRoom collate id = none →
      Stops (.roomOut id .select) .roomOutFetch
  | outNull {id : String} : self.db.selectCurrentRoom collate id = some none →
      Stops (.roomOut id .select) .roomOutNull
  | outRoom {id : String} {roomId : Nat} : self.listed.lookup roomId = none →
      Stops (.roomOut id (.getRoom roomId)) .nullRoom
  | lock : self.lockRoom session = none → Stops (.onDisconnected .lock) .nullRoom
  | leave {id : String} {room : Nat} {pc : RemovePc} {cause : Crash} :
      RemoveStops self room id pc cause → Stops (.roomOut id (.remove room pc)) cause
  | drop {room : Nat} {pc : RemovePc} {cause : Crash} :
      RemoveStops self room (self.sessionId session) pc cause →
      Stops (.onDisconnected (.remove room pc)) cause

end Rules

/-! ## The handlers follow the rules -/

section

variable {collate : String → String} {self after : ServerState} {index session : Nat}

theorem advanceRemove_turn {resume : RemovePc → Task}
    (stepped : self.advanceRemove collate index session room userId resume finished pc =
      some after) :
    (∃ cause, RemoveStops self room userId pc cause ∧ after = self.crashed cause) ∨
      ∃ goal changed, RemoveTurn collate self room userId pc goal changed ∧
        after = changed.put index ⟨session, goal.elim finished resume⟩ := by
  cases pc with
  | updateAccount =>
      obtain ⟨current, object, stepped⟩ := Option.bind_eq_some_iff.mp stepped
      split at stepped
      · contradiction
      · rename_i free
        obtain ⟨db, updated, rfl⟩ := Option.map_eq_some_iff.mp stepped
        exact .inr ⟨_, _, .updateAccount object (Bool.not_eq_true _ ▸ free) updated, rfl⟩
  | updateRoom =>
      obtain ⟨current, object, ⟨⟩⟩ := Option.bind_eq_some_iff.mp stepped
      exact .inr ⟨_, _, .updateRoom object, rfl⟩
  | erase =>
      obtain ⟨current, object, stepped⟩ := Option.bind_eq_some_iff.mp stepped
      split at stepped <;> rename_i looked <;> cases stepped
      · exact .inl ⟨_, .find object looked, rfl⟩
      · exact .inr ⟨_, _, .erase object looked, rfl⟩
  | fetchSub =>
      obtain ⟨current, object, ⟨⟩⟩ := Option.bind_eq_some_iff.mp stepped
      exact .inr ⟨_, _, .fetchSub object, rfl⟩
  | cas =>
      obtain ⟨current, object, stepped⟩ := Option.bind_eq_some_iff.mp stepped
      split at stepped <;> rename_i state <;> cases stepped
      · exact .inr ⟨_, _, .destroy object state, rfl⟩
      · exact .inr ⟨_, _, .keep object state, rfl⟩
  | delete =>
      obtain ⟨current, object, ⟨⟩⟩ := Option.bind_eq_some_iff.mp stepped
      exact .inr ⟨_, _, .delete object, rfl⟩
  | removeRoom =>
      obtain ⟨current, object, stepped⟩ := Option.bind_eq_some_iff.mp stepped
      split at stepped <;> rename_i looked <;> cases stepped
      · exact .inl ⟨_, .removeRoom object looked, rfl⟩
      · exact .inr ⟨_, _, .removeRoom object looked, rfl⟩
  | select =>
      obtain ⟨current, object, ⟨⟩⟩ := Option.bind_eq_some_iff.mp stepped
      exact .inr ⟨_, _, .select object, rfl⟩
  | broadcast userIds =>
      obtain ⟨current, object, ⟨⟩⟩ := Option.bind_eq_some_iff.mp stepped
      exact .inr ⟨_, _, .broadcast object, rfl⟩

/-- A step of a process by the rules. -/
def Follows (collate : String → String) (self : ServerState) (index session : Nat) (task : Task)
    (after : ServerState) : Prop :=
  (∃ cause, Stops collate self session task cause ∧ after = self.crashed cause) ∨
    ∃ next changed, Turn collate self session task next changed ∧
    after = changed.put index ⟨session, next⟩

theorem advanceLogin_turn {id : String}
    (stepped : self.advanceLogin collate index session id pssd pc = some after) :
    Follows collate self index session (.login id pssd pc) after := by
  cases pc with
  | select =>
      simp only [advanceLogin] at stepped
      split at stepped
      · contradiction
      · rename_i free
        have unlocked : self.loginLock = false := Bool.not_eq_true _ ▸ free
        split at stepped <;> rename_i found <;> cases stepped
        · exact .inr ⟨_, _, .login unlocked found, rfl⟩
        · exact .inr ⟨_, _, .noLogin unlocked (Bool.not_eq_true _ ▸ found), rfl⟩
  | update =>
      cases stepped
      exact .inr ⟨_, _, .online, rfl⟩
  | setId =>
      cases stepped
      exact .inr ⟨_, _, .setId, rfl⟩
  | reply =>
      cases stepped
      exact .inr ⟨_, _, .reply rfl, rfl⟩

theorem advanceRegister_turn {id : String}
    (stepped : self.advanceRegister collate index session id pssd pc = some after) :
    Follows collate self index session (.register id pssd pc) after := by
  cases pc with
  | insert =>
      simp only [advanceRegister] at stepped
      split at stepped <;> rename_i inserted <;> cases stepped
      · exact .inr ⟨_, _, .register inserted, rfl⟩
      · exact .inr ⟨_, _, .noRegister inserted, rfl⟩
  | reply =>
      cases stepped
      exact .inr ⟨_, _, .reply rfl, rfl⟩

theorem advanceCreateRoom_turn {id : String}
    (stepped : self.advanceCreateRoom collate index session id roomName pc = some after) :
    Follows collate self index session (.createRoom id roomName pc) after := by
  cases pc with
  | select =>
      simp only [advanceCreateRoom] at stepped
      split at stepped
      · contradiction
      · rename_i free
        have unlocked : self.createLock = false := Bool.not_eq_true _ ▸ free
        split at stepped <;> rename_i found <;> cases stepped
        · exact .inr ⟨_, _, .noCreate unlocked found, rfl⟩
        · exact .inr ⟨_, _, .create unlocked (Option.not_isSome_iff_eq_none.mp found), rfl⟩
  | insert =>
      obtain ⟨db, inserted, rfl⟩ := Option.map_eq_some_iff.mp stepped
      exact .inr ⟨_, _, .insertRoom inserted, rfl⟩
  | selectId =>
      simp only [advanceCreateRoom] at stepped
      split at stepped <;> rename_i selected <;> cases stepped
      · exact .inl ⟨_, .createFetch selected, rfl⟩
      · exact .inr ⟨_, _, .selectId selected, rfl⟩
  | updateAccount =>
      obtain ⟨db, updated, rfl⟩ := Option.map_eq_some_iff.mp stepped
      exact .inr ⟨_, _, .settle updated, rfl⟩
  | makeRoom =>
      cases stepped
      exact .inr ⟨_, _, .makeRoom, rfl⟩
  | fetchAdd =>
      obtain ⟨current, object, ⟨⟩⟩ := Option.bind_eq_some_iff.mp stepped
      exact .inr ⟨_, _, .fetchAdd object, rfl⟩
  | setRoom =>
      cases stepped
      exact .inr ⟨_, _, .setRoom, rfl⟩
  | addRoom =>
      obtain ⟨current, object, ⟨⟩⟩ := Option.bind_eq_some_iff.mp stepped
      exact .inr ⟨_, _, .addRoom object, rfl⟩
  | reply =>
      cases stepped
      exact .inr ⟨_, _, .reply rfl, rfl⟩

theorem advanceJoinRoom_turn {id : String}
    (stepped : self.advanceJoinRoom collate index session id roomName pc = some after) :
    Follows collate self index session (.joinRoom id roomName pc) after := by
  cases pc with
  | select =>
      simp only [advanceJoinRoom] at stepped
      split at stepped <;> rename_i selected <;> cases stepped
      · exact .inr ⟨_, _, .unknown selected, rfl⟩
      · exact .inr ⟨_, _, .joinSelect selected, rfl⟩
  | getRoom =>
      simp only [advanceJoinRoom] at stepped
      split at stepped <;> rename_i looked <;> cases stepped
      · exact .inr ⟨_, _, .unlisted looked, rfl⟩
      · exact .inr ⟨_, _, .joinGetRoom looked, rfl⟩
  | load =>
      obtain ⟨current, object, stepped⟩ := Option.bind_eq_some_iff.mp stepped
      split at stepped <;> rename_i state <;> cases stepped
      · exact .inr ⟨_, _, .refuse object state, rfl⟩
      · exact .inr ⟨_, _, .load object state, rfl⟩
  | cas =>
      obtain ⟨current, object, stepped⟩ := Option.bind_eq_some_iff.mp stepped
      split at stepped <;> rename_i state
      · cases stepped
        exact .inr ⟨_, _, .cas object state, rfl⟩
      · split at stepped <;> rename_i alive <;> cases stepped
        · exact .inr ⟨_, _, .lost object state alive, rfl⟩
        · exact .inr ⟨_, _, .again object state alive, rfl⟩
  | updateAccount =>
      obtain ⟨db, updated, rfl⟩ := Option.map_eq_some_iff.mp stepped
      exact .inr ⟨_, _, .enter updated, rfl⟩
  | updateRoom =>
      cases stepped
      exact .inr ⟨_, _, .count, rfl⟩
  | selectMembers =>
      cases stepped
      exact .inr ⟨_, _, .selectMembers, rfl⟩
  | addUser =>
      obtain ⟨current, object, stepped⟩ := Option.bind_eq_some_iff.mp stepped
      split at stepped
      · contradiction
      · rename_i free
        have unlocked : current.locked = false := Bool.not_eq_true _ ▸ free
        split at stepped <;> rename_i users <;> cases stepped
        · exact .inr ⟨_, _, .miss object unlocked (List.isEmpty_iff.mp users), rfl⟩
        · exact .inr ⟨_, _, .addUser object unlocked (fun none => users (by simp [none])), rfl⟩
  | broadcast =>
      obtain ⟨current, object, stepped⟩ := Option.bind_eq_some_iff.mp stepped
      split at stepped
      · contradiction
      · rename_i free
        cases stepped
        exact .inr ⟨_, _, .welcome object (Bool.not_eq_true _ ▸ free), rfl⟩
  | reply =>
      cases stepped
      exact .inr ⟨_, _, .reply rfl, rfl⟩

theorem advanceChatLog_turn {id : String}
    (stepped : self.advanceChatLog collate index session id log pc = some after) :
    Follows collate self index session (.chatLog id log pc) after := by
  cases pc with
  | select =>
      simp only [advanceChatLog] at stepped
      split at stepped <;> rename_i selected <;> cases stepped
      · exact .inl ⟨_, .chatFetch selected, rfl⟩
      · exact .inr ⟨_, _, .chatSelect selected, rfl⟩
  | insert =>
      obtain ⟨db, inserted, rfl⟩ := Option.map_eq_some_iff.mp stepped
      exact .inr ⟨_, _, .insertLog inserted, rfl⟩
  | getRoom =>
      simp only [advanceChatLog] at stepped
      split at stepped <;> rename_i looked <;> cases stepped
      · exact .inl ⟨_, .chatRoom looked, rfl⟩
      · exact .inr ⟨_, _, .chatGetRoom looked, rfl⟩
  | broadcast =>
      obtain ⟨current, object, stepped⟩ := Option.bind_eq_some_iff.mp stepped
      split at stepped
      · contradiction
      · rename_i free
        cases stepped
        exact .inr ⟨_, _, .chat object (Bool.not_eq_true _ ▸ free), rfl⟩

theorem advanceRoomOut_turn {id : String}
    (stepped : self.advanceRoomOut collate index session id pc = some after) :
    Follows collate self index session (.roomOut id pc) after := by
  cases pc with
  | select =>
      simp only [advanceRoomOut] at stepped
      split at stepped <;> rename_i selected <;> cases stepped
      · exact .inl ⟨_, .outFetch selected, rfl⟩
      · exact .inl ⟨_, .outNull selected, rfl⟩
      · exact .inr ⟨_, _, .outSelect selected, rfl⟩
  | getRoom =>
      simp only [advanceRoomOut] at stepped
      split at stepped <;> rename_i looked <;> cases stepped
      · exact .inl ⟨_, .outRoom looked, rfl⟩
      · exact .inr ⟨_, _, .outGetRoom looked, rfl⟩
  | remove room pc =>
      simp only [advanceRoomOut] at stepped
      rcases advanceRemove_turn stepped with ⟨cause, stops, rfl⟩ | ⟨goal, changed, turn, rfl⟩
      · exact .inl ⟨cause, .leave stops, rfl⟩
      · exact .inr ⟨_, changed, .leave turn, rfl⟩
  | reply =>
      cases stepped
      exact .inr ⟨_, _, .reply rfl, rfl⟩

theorem advanceDisconnected_turn
    (stepped : self.advanceDisconnected collate index session pc = some after) :
    Follows collate self index session (.onDisconnected pc) after := by
  cases pc with
  | expired =>
      cases stepped
      exact .inr ⟨_, _, .expired, rfl⟩
  | lock =>
      simp only [advanceDisconnected] at stepped
      split at stepped <;> rename_i locked <;> cases stepped
      · exact .inl ⟨_, .lock locked, rfl⟩
      · exact .inr ⟨_, _, .lock locked, rfl⟩
  | remove room pc =>
      simp only [advanceDisconnected] at stepped
      rcases advanceRemove_turn stepped with ⟨cause, stops, rfl⟩ | ⟨goal, changed, turn, rfl⟩
      · exact .inl ⟨cause, .drop stops, rfl⟩
      · exact .inr ⟨_, changed, .drop turn, rfl⟩
  | readId =>
      cases stepped
      exact .inr ⟨_, _, .readId, rfl⟩
  | update =>
      cases stepped
      exact .inr ⟨_, _, .offline, rfl⟩

theorem advance_turn (stepped : self.advance collate index session task = some after) :
    Follows collate self index session task after := by
  cases task with
  | login => exact advanceLogin_turn stepped
  | register => exact advanceRegister_turn stepped
  | refreshLobby pc =>
      cases pc with
      | select =>
          cases stepped
          exact .inr ⟨_, _, .refreshLobby, rfl⟩
      | reply =>
          cases stepped
          exact .inr ⟨_, _, .reply rfl, rfl⟩
  | createRoom => exact advanceCreateRoom_turn stepped
  | joinRoom => exact advanceJoinRoom_turn stepped
  | chatLog => exact advanceChatLog_turn stepped
  | roomOut => exact advanceRoomOut_turn stepped
  | onDisconnected => exact advanceDisconnected_turn stepped
  | done => contradiction

/-- What an event comes to in a server that runs. -/
inductive Happens (collate : String → String) (self : ServerState) : ServerEvent →
    ServerState → Prop where
  | connect : Happens collate self .connect
      { self with sessions := self.sessions ++ [⟨none, "", true, false, []⟩] }
  | request {session : Nat} {message : Message} {task : Task} : session < self.sessions.length →
      handler message = some task →
      Happens collate self (.request session message) (self.spawn session task)
  | disconnect {session : Nat} {current : ClientSession} : self.sessions[session]? = some current →
      current.connected = true → Happens collate self (.disconnect session)
        ((self.modifySession session fun current => { current with connected := false }).spawn
          session (.onDisconnected .expired))
  | run {index session : Nat} {task : Task} {after : ServerState} :
      self.processes[index]? = some ⟨session, task⟩ →
      self.advance collate index session task = some after → Happens collate self (.run index) after

theorem step_happens (stepped : (system collate).step event self = some after) :
    self.crash = none ∧ Happens collate self event after := by
  simp only [system, step] at stepped
  split at stepped
  · contradiction
  rename_i running
  refine ⟨Option.not_isSome_iff_eq_none.mp running, ?_⟩
  cases event with
  | connect =>
      cases stepped
      exact .connect
  | request session message =>
      obtain ⟨within, stepped⟩ := Option.ite_none_right_eq_some.mp stepped
      obtain ⟨task, handles, rfl⟩ := Option.map_eq_some_iff.mp stepped
      exact .request within handles
  | disconnect session =>
      obtain ⟨current, found, stepped⟩ := Option.bind_eq_some_iff.mp stepped
      obtain ⟨connected, ⟨⟩⟩ := Option.ite_none_right_eq_some.mp stepped
      exact .disconnect found connected
  | run index =>
      obtain ⟨⟨session, task⟩, found, stepped⟩ := Option.bind_eq_some_iff.mp stepped
      exact .run found stepped

/-- A step of a process that does not fail: the process goes on with a task. -/
structure Goes (index session : Nat) (next : Task) (before after : ServerState) : Prop where
  processes : after.processes = before.processes.set index ⟨session, next⟩
  crash : after.crash = before.crash

theorem Goes.found (goes : Goes index session next self after)
    (found : self.processes[index]? = some process) :
    after.processes[index]? = some ⟨session, next⟩ := by
  rw [goes.processes]
  exact List.getElem?_set_self (List.getElem?_eq_some_iff.mp found).1

section Remove

variable {room : Nat} {userId : String} {pc : RemovePc} {goal : Option RemovePc}

theorem RemoveTurn.processes (turn : RemoveTurn collate self room userId pc goal after) :
    after.processes = self.processes := by
  cases turn with
  | broadcast =>
      have queues := refresh_queues self
      exact (queues ..).processes
  | _ => rfl

theorem RemoveTurn.crash (turn : RemoveTurn collate self room userId pc goal after) :
    after.crash = self.crash := by
  cases turn with
  | broadcast =>
      have queues := refresh_queues self
      exact (queues ..).crash
  | _ => rfl

theorem RemoveTurn.goes (turn : RemoveTurn collate self room userId pc goal changed) (next : Task) :
    Goes index session next self (changed.put index ⟨session, next⟩) :=
  ⟨congrArg (List.set · index _) turn.processes, turn.crash⟩

end Remove

theorem Turn.processes (turn : Turn collate self session task next after) :
    after.processes = self.processes := by
  cases turn with
  | leave turn | drop turn => exact turn.processes
  | welcome | chat => exact (broadCast_queues ..).processes
  | _ => rfl

theorem Turn.goes (turn : Turn collate self session task next changed) :
    Goes index session next self (changed.put index ⟨session, next⟩) := by
  refine ⟨congrArg (List.set · index _) turn.processes, ?_⟩
  cases turn with
  | leave turn | drop turn => exact turn.crash
  | welcome | chat => exact (broadCast_queues ..).crash
  | _ => rfl

/-- Where a process of the next state comes from: it was there, a request or `Disconnect`
starts it, or it is the one that steps. -/
theorem process_of_step (stepped : (system collate).step event self = some after)
    (found : after.processes[index]? = some process) :
    self.processes[index]? = some process ∨
    (∃ message, event = .request process.session message ∧ handler message = some process.task) ∨
    process.task = .onDisconnected .expired ∨
    ∃ task changed, event = .run index ∧ self.processes[index]? = some ⟨process.session, task⟩ ∧
      Turn collate self process.session task process.task changed ∧
        after = changed.put index process := by
  cases (step_happens stepped).2 with
  | connect => exact .inl found
  | request _ handles =>
      rcases getElem?_concat_cases found with earlier | ⟨_, rfl⟩
      · exact .inl earlier
      · exact .inr (.inl ⟨_, rfl, handles⟩)
  | disconnect =>
      rcases getElem?_concat_cases found with earlier | ⟨_, rfl⟩
      · exact .inl earlier
      · exact .inr (.inr (.inl rfl))
  | run runs advanced =>
      rcases advance_turn advanced with ⟨cause, _, rfl⟩ | ⟨next, changed, turn, rfl⟩
      · exact .inl found
      · rw [turn.goes.processes] at found
        rcases getElem?_set_cases found with ⟨rfl, rfl⟩ | ⟨_, earlier⟩
        · exact .inr (.inr (.inr ⟨_, changed, rfl, runs, turn, rfl⟩))
        · exact .inl earlier

end

end ServerState

end ChattingProgram.Server
