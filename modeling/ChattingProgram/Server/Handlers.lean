import ChattingProgram.Server.State

namespace ChattingProgram.Server

open ChattingProgram.Protocol ChattingProgram.Machine

/-! # The handlers

The steps of the packet handlers (`PacketRespondent`), of `Room::RemoveUser` and
of `ClientSession::OnDisconnected`.
-/

/-- The `Room` object that a local `shared_ptr` of the handler keeps alive. -/
def Task.holds : Task → Option Nat
  | .createRoom _ _ (.fetchAdd room) | .createRoom _ _ (.setRoom room)
  | .createRoom _ _ (.addRoom room) =>
      some room
  | .joinRoom _ _ (.load _ room) | .joinRoom _ _ (.cas _ room _)
  | .joinRoom _ _ (.updateAccount _ room)
  | .joinRoom _ _ (.updateRoom _ room) | .joinRoom _ _ (.selectMembers _ room)
  | .joinRoom _ _ (.addUser room _) | .joinRoom _ _ (.broadcast room _) => some room
  | .joinRoom _ _ (.reply room _ _) => room
  | .chatLog _ _ (.broadcast room) => some room
  | .roomOut _ (.remove room _) | .roomOut _ (.reply room) => some room
  | .onDisconnected (.remove room _) => some room
  | _ => none

namespace ServerState

/-- A `weak_ptr` to the object has not expired. -/
def alive (self : ServerState) (room : Nat) : Bool :=
  self.listed.entries.any (fun entry => entry.2 = room) ||
    self.processes.any (fun process => process.task.holds = some room)

section Advance

variable (collate : String → String) (self : ServerState) (index session : Nat)

/-- `Room::RemoveUser`; `resume` is the process inside it and `finished` the one
that it returns to. -/
def advanceRemove (room : Nat) (userId : String) (resume : RemovePc → Task) (finished : Task) :
    RemovePc → Option ServerState
  | .updateAccount => self.withRoom room fun current =>
      if current.locked then none
      else
        (self.db.updateCurrentRoom collate userId none).map fun db =>
          ({ self with db := db }.setRoomObject room { current with locked := true }).put index
            ⟨session, resume .updateRoom⟩
  | .updateRoom => self.withRoom room fun current =>
      some ({ self with db := self.db.addUserCount current.roomId (-1) }.put index
        ⟨session, resume .erase⟩)
  | .erase => self.withRoom room fun current =>
      match current.users.lookup userId with
      | none => some (self.crashed .removeUserFind)
      | some user =>
          some (((self.setRoom user none).setRoomObject room
            { current with users := current.users.erase userId }).put index ⟨session,
            resume .fetchSub⟩)
  | .fetchSub => self.withRoom room fun current =>
      some ((self.setRoomObject room { current with roomState := current.roomState - 1 }).put index
        ⟨session, resume .cas⟩)
  | .cas => self.withRoom room fun current =>
      if current.roomState = 0 then
        some ((self.setRoomObject room { current with roomState := destruction }).put index
          ⟨session, resume .delete⟩)
      else some (self.put index ⟨session, resume .select⟩)
  | .delete => self.withRoom room fun current =>
      some ({ self with db := self.db.deleteRoom current.roomId }.put index
        ⟨session, resume .removeRoom⟩)
  | .removeRoom => self.withRoom room fun current =>
      match self.listed.lookup current.roomId with
      | none => some (self.crashed .removeRoomFind)
      | some _ =>
          some (({ self with listed := self.listed.erase current.roomId }.setRoomObject room
            { current with locked := false }).put index ⟨session, finished⟩)
  | .select => self.withRoom room fun current =>
      some (self.put index ⟨session, resume (.broadcast (self.db.selectMembers current.roomId))⟩)
  | .broadcast userIds => self.withRoom room fun current =>
      let sent :=
        if userIds.isEmpty then self else self.broadCast current.users (.sRefreshRoom userIds) none
      some ((sent.setRoomObject room { current with locked := false }).put index
        ⟨session, finished⟩)

def advanceLogin (id pssd : String) : LoginPc → Option ServerState
  | .select =>
      if self.loginLock then none
      else if self.db.selectOffline collate id pssd then
        some ({ self with loginLock := true }.put index ⟨session, .login id pssd .update⟩)
      else some (self.put index ⟨session, .login id pssd (.reply false)⟩)
  | .update =>
      some ({ self with db := self.db.updateOnline collate id true }.put index
        ⟨session, .login id pssd .setId⟩)
  | .setId =>
      some (({ self with loginLock := false }.setId session id).put index
        ⟨session, .login id pssd (.reply true)⟩)
  | .reply canLogin =>
      some ((self.send (.sLogin canLogin id pssd) session).put index ⟨session, .done⟩)

def advanceRegister (id pssd : String) : RegisterPc → Option ServerState
  | .insert =>
      match self.db.insertAccount collate id pssd with
      | some db =>
          some ({ self with db := db }.put index ⟨session, .register id pssd (.reply true)⟩)
      | none => some (self.put index ⟨session, .register id pssd (.reply false)⟩)
  | .reply isSuccess =>
      some ((self.send (.sRegister isSuccess id pssd) session).put index ⟨session, .done⟩)

def advanceRefreshLobby : RefreshPc → Option ServerState
  | .select => some (self.put index ⟨session, .refreshLobby (.reply self.db.selectRooms)⟩)
  | .reply rooms =>
      some ((self.send (.sRefreshLobby true (rooms.map Prod.fst) (rooms.map Prod.snd)) session).put
        index ⟨session, .done⟩)

def advanceCreateRoom (id roomName : String) : CreatePc → Option ServerState
  | .select =>
      if self.createLock then none
      else if (self.db.selectRoomId collate roomName).isSome then
        some (self.put index ⟨session, .createRoom id roomName (.reply false)⟩)
      else some ({ self with
        createLock := true }.put index ⟨session, .createRoom id roomName .insert⟩)
  | .insert =>
      (self.db.insertRoom collate roomName).map fun db =>
        { self with db := db, createLock := false }.put index
          ⟨session, .createRoom id roomName .selectId⟩
  | .selectId =>
      match self.db.selectRoomId collate roomName with
      | none => some (self.crashed .createFetch)
      | some roomId =>
          some (self.put index ⟨session, .createRoom id roomName (.updateAccount roomId)⟩)
  | .updateAccount roomId =>
      (self.db.updateCurrentRoom collate id (some roomId)).map fun db =>
        { self with db := db }.put index ⟨session, .createRoom id roomName (.makeRoom roomId)⟩
  | .makeRoom roomId =>
      let room : Room := ⟨roomId, AList.insert id session ∅, 0, false⟩
      some ({ self with rooms := self.rooms ++ [room] }.put index
        ⟨session, .createRoom id roomName (.fetchAdd self.rooms.length)⟩)
  | .fetchAdd room => self.withRoom room fun current =>
      some ((self.setRoomObject room { current with roomState := current.roomState + 1 }).put index
        ⟨session, .createRoom id roomName (.setRoom room)⟩)
  | .setRoom room =>
      some ((self.setRoom session (some room)).put index
        ⟨session, .createRoom id roomName (.addRoom room)⟩)
  | .addRoom room => self.withRoom room fun current =>
      some ({ self with listed := self.listed.insert current.roomId room }.put index
        ⟨session, .createRoom id roomName (.reply true)⟩)
  | .reply canCreate =>
      some ((self.send (.sCreateRoom canCreate roomName) session).put index ⟨session, .done⟩)

def advanceJoinRoom (id roomName : String) : JoinPc → Option ServerState
  | .select =>
      some (self.put index ⟨session, .joinRoom id roomName
        (match self.db.selectRoomId collate roomName with
        | none => .reply none false []
        | some roomId => .getRoom roomId)⟩)
  | .getRoom roomId =>
      some (self.put index ⟨session, .joinRoom id roomName
        (match self.listed.lookup roomId with
        | none => .reply none false []
        | some room => .load roomId room)⟩)
  | .load roomId room => self.withRoom room fun current =>
      some (self.put index ⟨session, .joinRoom id roomName
        (if current.roomState = destruction then .reply (some room) false []
        else .cas roomId room current.roomState)⟩)
  | .cas roomId room state => self.withRoom room fun current =>
      if current.roomState = state then
        some ((self.setRoomObject room { current with roomState := state + 1 }).put index
          ⟨session, .joinRoom id roomName (.updateAccount roomId room)⟩)
      else
        some (self.put index ⟨session, .joinRoom id roomName
          (if current.roomState = destruction then .reply (some room) false []
          else .cas roomId room current.roomState)⟩)
  | .updateAccount roomId room =>
      (self.db.updateCurrentRoom collate id (some roomId)).map fun db =>
        { self with db := db }.put index ⟨session, .joinRoom id roomName (.updateRoom roomId room)⟩
  | .updateRoom roomId room =>
      some ({ self with db := self.db.addUserCount roomId 1 }.put index
        ⟨session, .joinRoom id roomName (.selectMembers roomId room)⟩)
  | .selectMembers roomId room =>
      some (self.put index ⟨session, .joinRoom id roomName
        (.addUser room (self.db.selectMembers roomId))⟩)
  | .addUser room userIds => self.withRoom room fun current =>
      if current.locked then none
      else if current.users.entries.isEmpty then
        some (self.put index ⟨session, .joinRoom id roomName (.broadcast room userIds)⟩)
      else
        some (((self.setRoomObject room { current with
          users := current.users.insert id session }).setRoom
          session (some room)).put index ⟨session, .joinRoom id roomName (.broadcast room userIds)⟩)
  | .broadcast room userIds => self.withRoom room fun current =>
      if current.locked then none
      else
        some ((self.broadCast current.users (.sRefreshRoom userIds) (some session)).put index
          ⟨session, .joinRoom id roomName (.reply (some room) true userIds)⟩)
  | .reply _ canJoin userIds =>
      some ((self.send (.sJoinRoom canJoin roomName userIds) session).put index ⟨session, .done⟩)

def advanceChatLog (id log : String) : ChatPc → Option ServerState
  | .select =>
      match self.db.selectChatRoom collate id with
      | none => some (self.crashed .chatFetch)
      | some roomId => some (self.put index ⟨session, .chatLog id log (.insert roomId)⟩)
  | .insert roomId =>
      (self.db.insertLog collate id roomId log).map fun db =>
        { self with db := db }.put index ⟨session, .chatLog id log (.getRoom roomId)⟩
  | .getRoom roomId =>
      match self.listed.lookup roomId with
      | none => some (self.crashed .nullRoom)
      | some room => some (self.put index ⟨session, .chatLog id log (.broadcast room)⟩)
  | .broadcast room => self.withRoom room fun current =>
      if current.locked then none
      else some ((self.broadCast current.users (.sChatLog id log) none).put index ⟨session, .done⟩)

def advanceRoomOut (id : String) : OutPc → Option ServerState
  | .select =>
      match self.db.selectCurrentRoom collate id with
      | none => some (self.crashed .roomOutFetch)
      | some none => some (self.crashed .roomOutNull)
      | some (some roomId) => some (self.put index ⟨session, .roomOut id (.getRoom roomId)⟩)
  | .getRoom roomId =>
      match self.listed.lookup roomId with
      | none => some (self.crashed .nullRoom)
      | some room => some (self.put index ⟨session, .roomOut id (.remove room .updateAccount)⟩)
  | .remove room pc =>
      self.advanceRemove collate index session room id (fun pc => .roomOut id (.remove room pc))
        (.roomOut id (.reply room)) pc
  | .reply _ => some ((self.send .sRoomOut session).put index ⟨session, .done⟩)

/-- The room that `_room.lock()` returns. -/
def lockRoom : Option Nat := ((self.sessions[session]?).bind ClientSession.room).filter self.alive

/-- `OnDisconnected` passes `_id` by reference: `RemoveUser` reads it anew. -/
def advanceDisconnected : DisconnectPc → Option ServerState
  | .expired =>
      some (self.put index ⟨session, .onDisconnected
        (if (self.lockRoom session).isSome then .lock else .readId)⟩)
  | .lock =>
      match self.lockRoom session with
      | none => some (self.crashed .nullRoom)
      | some room => some (self.put index ⟨session, .onDisconnected (.remove room .updateAccount)⟩)
  | .remove room pc =>
      self.advanceRemove collate index session room (self.sessionId session)
        (fun pc => .onDisconnected (.remove room pc)) (.onDisconnected .readId) pc
  | .readId => some (self.put index ⟨session, .onDisconnected (.update (self.sessionId session))⟩)
  | .update id =>
      some (({ self with db := self.db.updateOnline collate id false }.modifySession session
        fun current => { current with disconnected := true }).put index ⟨session, .done⟩)

def advance : Task → Option ServerState
  | .login id pssd pc => self.advanceLogin collate index session id pssd pc
  | .register id pssd pc => self.advanceRegister collate index session id pssd pc
  | .refreshLobby pc => self.advanceRefreshLobby index session pc
  | .createRoom id roomName pc => self.advanceCreateRoom collate index session id roomName pc
  | .joinRoom id roomName pc => self.advanceJoinRoom collate index session id roomName pc
  | .chatLog id log pc => self.advanceChatLog collate index session id log pc
  | .roomOut id pc => self.advanceRoomOut collate index session id pc
  | .onDisconnected pc => self.advanceDisconnected collate index session pc
  | .done => none

end Advance

/-- The handler that a request starts. -/
def handler : Message → Option Task
  | .cLogin id pssd => some (.login id pssd .select)
  | .cRegister id pssd => some (.register id pssd .insert)
  | .cRefreshLobby => some (.refreshLobby .select)
  | .cCreateRoom id roomName => some (.createRoom id roomName .select)
  | .cJoinRoom id roomName => some (.joinRoom id roomName .select)
  | .cChatLog id _ log => some (.chatLog id log .select)
  | .cRoomOut id _ => some (.roomOut id .select)
  | _ => none

def spawn (self : ServerState) (session : Nat) (task : Task) : ServerState :=
  { self with processes := self.processes ++ [⟨session, task⟩] }

/-- Nothing happens after a crash.  `Disconnect` starts `OnDisconnected` once for
every session. -/
def step (collate : String → String) : ServerEvent → ServerState → Option ServerState
  | event, self =>
    if self.crash.isSome then none
    else
      match event with
      | .connect => some { self with sessions := self.sessions ++ [⟨none, "", true, false, []⟩] }
      | .request session message =>
          if session < self.sessions.length then (handler message).map
            (self.spawn session) else none
      | .disconnect session =>
          (self.sessions[session]?).bind fun current =>
            if current.connected then
              some ((self.modifySession session fun current => { current with
                connected := false }).spawn session (.onDisconnected .expired))
            else none
      | .run index =>
          (self.processes[index]?).bind fun process =>
            self.advance collate index process.session process.task

def system (collate : String → String) : System ServerState ServerEvent := ⟨step collate⟩

/-- No handler is in progress. -/
def Quiescent (self : ServerState) : Prop := ∀ process ∈ self.processes, process.task = .done

instance (self : ServerState) : Decidable self.Quiescent := inferInstanceAs (Decidable (∀ _ ∈ _, _))

end ServerState

end ChattingProgram.Server
