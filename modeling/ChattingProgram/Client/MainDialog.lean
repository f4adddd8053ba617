import ChattingProgram.Machine.Run
import ChattingProgram.Protocol.Message
import Mathlib.Logic.Function.Basic

namespace ChattingProgram.Client

open ChattingProgram.Protocol ChattingProgram.Machine

/-! # The pages of the client

The thread of the user interface executes the posted `UIEvent`s; a click posts
one too.  Each model type has one static callback, which a request sets, and one
queue of answers.  The thread of the network stores an answer in the queue, runs
the callback, which posts an event, and clears it.  While `AfxMessageBox` is
shown its message loop executes further events, before the handler that showed it
goes on.
-/

namespace MainDialog

/-- The last word is the page that handles the event. -/
inductive UIEvent where
  | loginClickedLogin
  | loginCompletedLogin
  | loginCompletedLobby
  | registerClickedRegister
  | registerCompletedRegister
  | registerCompletedLobby
  | createRoomClickedLobby
  | createRoomCompletedLobby
  | createRoomCompletedRoom
  | joinRoomClickedLobby
  | joinRoomCompletedLobby
  | joinRoomCompletedRoom
  | refreshClickedLobby
  | refreshCompletedLobby
  | sendChatClickedRoom
  | sendChatCompletedRoom
  | leaveRoomClickedRoom
  | leaveRoomCompletedRoom
  | leaveRoomCompletedLobby
  | refreshRoomCompleted
deriving Repr, DecidableEq

structure AuthData where
  isSuccess : Bool
  id : String
  pasd : String
deriving Repr, DecidableEq

structure RefreshLobbyData where
  isSuccess : Bool
  roomNames : List String
  userCounts : List Int
deriving Repr, DecidableEq

structure CreateRoomData where
  isSuccess : Bool
  roomName : String
deriving Repr, DecidableEq, Inhabited

structure JoinRoomData where
  isSuccess : Bool
  roomName : String
  userIds : List String
deriving Repr, DecidableEq, Inhabited

structure ChatLogData where
  id : String
  log : String
deriving Repr, DecidableEq

/-- The model types of `RequestService<T>` and `ResponseQ<T>`. -/
inductive Service where
  | auth
  | refreshLobby
  | createRoom
  | joinRoom
  | refreshRoom
  | chatLog
  | roomOut
deriving Repr, DecidableEq

abbrev Service.Data : Service → Type
  | .auth => AuthData
  | .refreshLobby => RefreshLobbyData
  | .createRoom => CreateRoomData
  | .joinRoom => JoinRoomData
  | .refreshRoom => List String
  | .chatLog => ChatLogData
  | .roomOut => Unit

/-- The argument `isClear` with which the handlers of the packets call `Execute`. -/
def Service.isClear : Service → Bool
  | .refreshRoom | .chatLog => false
  | _ => true

/-- Requests are numbered in the order in which they are sent.  No code reads the numbers:
they say which request set a callback and which request an answer belongs to. -/
abbrev RequestNumber := Nat

structure Callback where
  /-- The event that the callback posts. -/
  event : UIEvent
  request : Option RequestNumber
deriving Repr, DecidableEq

structure Response (Data : Type) where
  data : Data
  request : Option RequestNumber
deriving Repr, DecidableEq

/-- `RequestService<T>::_callback` and `ResponseQ<T>::_lockQueue`. -/
structure Channel (Data : Type) where
  callback : Option Callback
  queue : List (Response Data)
deriving Repr, DecidableEq

/-- A posted event and the answer whose callback led to it. -/
structure Posted where
  event : UIEvent
  response : Option RequestNumber
deriving Repr, DecidableEq

/-- What the thread of the user interface does next in a handler that it has not finished. -/
inductive Frame where
  /-- The callback is set and `Send` follows. -/
  | send (message : Message)
  /-- `AfxMessageBox`, followed by a `Pop`. -/
  | messageBox (text : String) (pops : Option Service) (response : Option RequestNumber)
deriving Repr, DecidableEq

/-- The thread that handles the packets of the server. -/
inductive Network where
  | idle
  /-- The data is in the queue and `Execute` is called. -/
  | execute (service : Service) (response : Option RequestNumber)
  /-- The callback has returned and `_callback = nullptr` follows. -/
  | clear (service : Service)
deriving Repr, DecidableEq

/-- An `Execute` with the callback that it found. -/
structure Call where
  service : Service
  response : Option RequestNumber
  callback : Option Callback
deriving Repr, DecidableEq

/-- A `Front` or `Pop` in a handler that an answer led to, with the answer that it found. -/
structure Reading where
  service : Service
  response : Option RequestNumber
  found : Option (Option RequestNumber)
deriving Repr, DecidableEq

structure LoginPage where
  shown : Bool
  id : String
  pw : String
deriving Repr, DecidableEq

structure LobbyPage where
  shown : Bool
  me : String
  rooms : List (String × String)
  roomName : String
  selectedRoomName : String
deriving Repr, DecidableEq

structure RoomPage where
  shown : Bool
  roomName : String
  users : List String
  chatLines : List String
  chatText : String
deriving Repr, DecidableEq

end MainDialog

open MainDialog in
structure MainDialog where
  channel : (service : Service) → Channel service.Data
  posted : List Posted
  frames : List Frame
  network : Network
  loginPage : LoginPage
  lobbyPage : LobbyPage
  roomPage : RoomPage
  /-- What `Send` was called with. -/
  sent : List Message
  crashed : Bool
  -- what happened so far; no code reads it
  answered : List RequestNumber
  calls : List Call
  readings : List Reading

namespace MainDialog

/-- After `EventMapper::Mapping`. -/
def start : MainDialog where
  channel
    | .chatLog => ⟨some ⟨.sendChatCompletedRoom, none⟩, []⟩
    | .refreshRoom => ⟨some ⟨.refreshRoomCompleted, none⟩, []⟩
    | _ => ⟨none, []⟩
  posted := []
  frames := []
  network := .idle
  loginPage := ⟨true, "", ""⟩
  lobbyPage := ⟨false, "Me : (none)", [], "", ""⟩
  roomPage := ⟨false, "", [], [], ""⟩
  sent := []
  crashed := false
  answered := []
  calls := []
  readings := []

variable (self : MainDialog)

/-- `PostMessageW`. -/
def post (event : UIEvent) (response : Option RequestNumber) : MainDialog :=
  { self with posted := self.posted ++ [⟨event, response⟩] }

def setCallback (service : Service) (callback : Option Callback) : MainDialog :=
  { self with
    channel := Function.update self.channel service { self.channel service with callback } }

def setQueue (service : Service) (queue : List (Response service.Data)) : MainDialog :=
  { self with channel := Function.update self.channel service { self.channel service with queue } }

/-- `RequestService<T>(pkt, callback)` up to `Send`. -/
def requestService (service : Service) (message : Message) (event : UIEvent) : MainDialog :=
  { self.setCallback service (some ⟨event, some self.sent.length⟩) with
    frames := .send message :: self.frames }

/-- `ResponseQ<T>::Front`. -/
def front (service : Service) : Option service.Data :=
  (self.channel service).queue.head?.map Response.data

/-- `ResponseQ<T>::Pop`. -/
def pop (service : Service) : MainDialog := self.setQueue service (self.channel service).queue.tail

def reading (service : Service) (response : Option RequestNumber) : MainDialog :=
  { self with readings :=
      self.readings ++ [⟨service, response,
        (self.channel service).queue.head?.map Response.request⟩] }

def messageBox (text : String) (pops : Option Service)
    (response : Option RequestNumber) : MainDialog :=
  { self with frames := .messageBox text pops response :: self.frames }

/-- `ASSERT_CRASH(!isEmpty)` does not hold. -/
def crash : MainDialog := { self with crashed := true }

namespace LoginHandler

def onClickedLogin : MainDialog :=
  self.requestService .auth (.cLogin self.loginPage.id self.loginPage.pw) .loginCompletedLogin

def onLoginCompleted (response : Option RequestNumber) : MainDialog :=
  let self := self.reading .auth response
  match self.front .auth with
  | none => self.crash
  | some data =>
      if data.isSuccess then
        { self with loginPage.shown := false }.post .loginCompletedLobby response
      else
        self.messageBox "로그인 실패!." (some .auth) response

def onClickedRegister : MainDialog :=
  self.requestService .auth (.cRegister self.loginPage.id self.loginPage.pw)
    .registerCompletedRegister

def onRegisterCompleted (response : Option RequestNumber) : MainDialog :=
  let self := self.reading .auth response
  match self.front .auth with
  | none => self.crash
  | some data =>
      if data.isSuccess then
        (self.pop .auth).messageBox "회원가입이 완료되었습니다." none response
      else
        self.messageBox "회원가입 실패!." (some .auth) response

end LoginHandler

namespace LobbyHandler

def requestRefresh : MainDialog := self.requestService .refreshLobby .cRefreshLobby
  .refreshCompletedLobby

def onLoginCompleted (response : Option RequestNumber) : MainDialog :=
  let self := { self with lobbyPage.shown := true }.reading .auth response
  match self.front .auth with
  | none => requestRefresh self
  | some data => requestRefresh { self with lobbyPage.me := data.id, lobbyPage.rooms := [] }

def onRefreshClicked : MainDialog := requestRefresh self

/-- `AddRoomRow(roomName, cur, 100)`. -/
def addRoomRow (room : String × Int) : String × String :=
  (room.1, toString room.2 ++ " / " ++ toString 100)

def onRefreshCompleted (response : Option RequestNumber) : MainDialog :=
  let popped := (self.reading .refreshLobby response).pop .refreshLobby
  match self.front .refreshLobby with
  | none => popped.crash
  | some data =>
      if data.isSuccess then
        { popped with lobbyPage.rooms := (data.roomNames.zip data.userCounts).map addRoomRow }
      else
        popped

def onCreateRoomClicked : MainDialog :=
  self.requestService .createRoom (.cCreateRoom self.lobbyPage.me self.lobbyPage.roomName)
    .createRoomCompletedLobby

def onCreateRoomCompleted (response : Option RequestNumber) : MainDialog :=
  let self := self.reading .createRoom response
  match self.front .createRoom with
  | none => self.crash
  | some data =>
      if data.isSuccess then
        { self with lobbyPage.roomName := data.roomName, lobbyPage.shown := false }.post
          .createRoomCompletedRoom response
      else
        self.messageBox "생성 실패!." (some .createRoom) response

def onJoinRoomClicked : MainDialog :=
  self.requestService .joinRoom (.cJoinRoom self.lobbyPage.me self.lobbyPage.selectedRoomName)
    .joinRoomCompletedLobby

def onJoinRoomCompleted (response : Option RequestNumber) : MainDialog :=
  let self := self.reading .joinRoom response
  match self.front .joinRoom with
  | none => self.crash
  | some data =>
      if data.isSuccess then
        { self with lobbyPage.shown := false }.post .joinRoomCompletedRoom response
      else
        self.messageBox "참가 실패!." (some .joinRoom) response

def onLeaveRoomCompleted : MainDialog :=
  let self := { self with lobbyPage.shown := true, lobbyPage.rooms := [] }
  match self.front .auth with
  | none => self.crash
  | some data => requestRefresh { self with lobbyPage.me := data.id }

end LobbyHandler

namespace RoomHandler

def onCreateRoomCompleted (response : Option RequestNumber) : MainDialog :=
  let data := (self.front .createRoom).getD default
  let popped := { (self.reading .createRoom response).pop .createRoom with
    roomPage.roomName := data.roomName
    roomPage.shown := true
    roomPage.users := []
    roomPage.chatLines := [] }
  match popped.front .auth with
  | none => popped.crash
  | some authData => { popped with roomPage.users := [authData.id] }

/-- The name of the room page stays as it is. -/
def onJoinRoomCompleted (response : Option RequestNumber) : MainDialog :=
  { (self.reading .joinRoom response).pop .joinRoom with
    roomPage.shown := true
    roomPage.users := ((self.front .joinRoom).getD default).userIds
    roomPage.chatLines := [] }

def onSendChatClicked : MainDialog :=
  match self.front .auth with
  | none => self.crash
  | some data =>
      self.requestService .chatLog (.cChatLog data.id "" self.roomPage.chatText)
      .sendChatCompletedRoom

def onSendChatCompleted (response : Option RequestNumber) : MainDialog :=
  let popped := (self.reading .chatLog response).pop .chatLog
  match self.front .chatLog with
  | none => popped.crash
  | some data =>
      { popped with
        roomPage.chatLines := self.roomPage.chatLines ++ [data.id ++ " : " ++ data.log] }

def onRefreshCompleted (response : Option RequestNumber) : MainDialog :=
  { (self.reading .refreshRoom response).pop .refreshRoom with
    roomPage.users := (self.front .refreshRoom).getD [] }

def onLeaveRoomClicked : MainDialog :=
  match self.front .auth with
  | none => self.crash
  | some data =>
      self.requestService .roomOut (.cRoomOut data.id self.roomPage.roomName)
      .leaveRoomCompletedRoom

def onLeaveRoomCompleted (response : Option RequestNumber) : MainDialog :=
  { self with roomPage.chatLines := [], roomPage.users := [], roomPage.shown := false }.post
    .leaveRoomCompletedLobby response

end RoomHandler

/-- `OnUIEvent`: the handlers that `EventMapper::Mapping` enters for the events. -/
def execute (posted : Posted) : MainDialog :=
  match posted.event with
  | .loginClickedLogin => LoginHandler.onClickedLogin self
  | .loginCompletedLogin => LoginHandler.onLoginCompleted self posted.response
  | .registerClickedRegister => LoginHandler.onClickedRegister self
  | .registerCompletedRegister => LoginHandler.onRegisterCompleted self posted.response
  | .loginCompletedLobby => LobbyHandler.onLoginCompleted self posted.response
  | .refreshClickedLobby => LobbyHandler.onRefreshClicked self
  | .refreshCompletedLobby => LobbyHandler.onRefreshCompleted self posted.response
  | .createRoomClickedLobby => LobbyHandler.onCreateRoomClicked self
  | .createRoomCompletedLobby => LobbyHandler.onCreateRoomCompleted self posted.response
  | .joinRoomClickedLobby => LobbyHandler.onJoinRoomClicked self
  | .joinRoomCompletedLobby => LobbyHandler.onJoinRoomCompleted self posted.response
  | .leaveRoomCompletedLobby => LobbyHandler.onLeaveRoomCompleted self
  | .createRoomCompletedRoom => RoomHandler.onCreateRoomCompleted self posted.response
  | .joinRoomCompletedRoom => RoomHandler.onJoinRoomCompleted self posted.response
  | .sendChatClickedRoom => RoomHandler.onSendChatClicked self
  | .sendChatCompletedRoom => RoomHandler.onSendChatCompleted self posted.response
  | .refreshRoomCompleted => RoomHandler.onRefreshCompleted self posted.response
  | .leaveRoomClickedRoom => RoomHandler.onLeaveRoomClicked self
  | .leaveRoomCompletedRoom => RoomHandler.onLeaveRoomCompleted self posted.response
  -- the map has no entry
  | .registerCompletedLobby => self

/-- The buttons, with the texts that `UpdateData` takes from the controls. -/
inductive Click where
  | login (id pw : String)
  | register (id pw : String)
  | createRoom (roomName : String)
  | joinRoom (index : Nat)
  | refresh
  | send (chatText : String)
  | leave
deriving Repr, DecidableEq

/-- `CPageLogin::OnBnClickedLogin` and `CPageLogin::OnBnClickedLegister`. -/
def clickedLoginPage (id pw : String) (event : UIEvent) : Option MainDialog :=
  if self.loginPage.shown then
    let updated := { self with loginPage.id := id, loginPage.pw := pw }
    some (if id.isEmpty || pw.isEmpty then updated else updated.post event none)
  else
    none

/-- `OnBnClicked*`; a page that is hidden has no buttons to click. -/
def clicked : Click → Option MainDialog
  | .login id pw => self.clickedLoginPage id pw .loginClickedLogin
  | .register id pw => self.clickedLoginPage id pw .registerClickedRegister
  | .createRoom roomName =>
      if self.lobbyPage.shown then
        let updated := { self with lobbyPage.roomName := roomName }
        some (if roomName.isEmpty then updated else updated.post .createRoomClickedLobby none)
      else
        none
  | .joinRoom index =>
      if self.lobbyPage.shown then
        match self.lobbyPage.rooms[index]? with
        | none => some self
        | some room =>
            some ({ self with lobbyPage.selectedRoomName := room.1 }.post
              .joinRoomClickedLobby none)
      else
        none
  | .refresh => if self.lobbyPage.shown then some (self.post .refreshClickedLobby none) else none
  | .send chatText =>
      if self.roomPage.shown then
        let updated := { self with roomPage.chatText := chatText }
        some (if chatText.isEmpty then updated else updated.post .sendChatClickedRoom none)
      else
        none
  | .leave => if self.roomPage.shown then some (self.post .leaveRoomClickedRoom none) else none

/-- The thread of the user interface is in a message loop. -/
def pumping : Bool :=
  match self.frames with
  | .send _ :: _ => false
  | _ => true

/-- The innermost handler goes on. -/
def resume : Option MainDialog :=
  match self.frames with
  | [] => none
  | .send message :: rest => some { self with frames := rest, sent := self.sent ++ [message] }
  | .messageBox _ none _ :: rest => some { self with frames := rest }
  | .messageBox _ (some service) response :: rest =>
      some ({ self with frames := rest }.reading service response |>.pop service)

/-- The data that `Handle_S_*` stores. -/
def incoming : Message → Option ((service : Service) × service.Data)
  | .sLogin isSuccess id pssd => some ⟨.auth, isSuccess, id, pssd⟩
  | .sRegister isSuccess id pssd => some ⟨.auth, isSuccess, id, pssd⟩
  | .sRefreshLobby isSuccess roomNames userCounts =>
      some ⟨.refreshLobby, isSuccess, roomNames, userCounts⟩
  | .sCreateRoom isSuccess roomName => some ⟨.createRoom, isSuccess, roomName⟩
  | .sJoinRoom isSuccess roomName userIds => some ⟨.joinRoom, isSuccess, roomName, userIds⟩
  | .sRefreshRoom userIds => some ⟨.refreshRoom, userIds⟩
  | .sChatLog id log => some ⟨.chatLog, id, log⟩
  | .sRoomOut => some ⟨.roomOut, ()⟩
  | _ => none

/-- The request to which a message of the server is the answer. -/
def requestType : PacketType → Option PacketType
  | .sLogin => some .cLogin
  | .sRegister => some .cRegister
  | .sRefreshLobby => some .cRefreshLobby
  | .sCreateRoom => some .cCreateRoom
  | .sJoinRoom => some .cJoinRoom
  | .sRoomOut => some .cRoomOut
  | _ => none

/-- Answers arrive in the order of the requests: a message answers the first request of its
type that has no answer yet. -/
def answering (message : Message) : Option RequestNumber :=
  (List.range self.sent.length).find? fun request =>
    request ∉ self.answered ∧ self.sent[request]?.map Message.type = requestType message.type

/-- `Handle_S_*` up to `Execute`: the constructor of the model stores the data. -/
def receive (message : Message) : Option MainDialog :=
  match self.network, incoming message with
  | .idle, some ⟨service, data⟩ =>
      let response := self.answering message
      some { self.setQueue service ((self.channel service).queue ++ [⟨data, response⟩]) with
        network := .execute service response
        answered := self.answered ++ response.toList }
  | _, _ => none

/-- `RequestService<T>::Execute`, the two statements one after the other. -/
def executeCallback : Option MainDialog :=
  match self.network with
  | .idle => none
  | .execute service response =>
      let called : MainDialog := { self with
        network := if service.isClear then .clear service else .idle
        calls := self.calls ++ [⟨service, response, (self.channel service).callback⟩] }
      match (self.channel service).callback with
      | none => some called
      | some callback => some (called.post callback.event response)
  | .clear service => some { self.setCallback service none with network := .idle }

inductive Event where
  | click (button : Click)
  /-- A message loop executes the next posted event. -/
  | dispatch
  | resume
  | receive (message : Message)
  | network
deriving Repr, DecidableEq

def dispatch : Option MainDialog :=
  match self.posted with
  | [] => none
  | posted :: rest => some ({ self with posted := rest }.execute posted)

def step : Event → MainDialog → Option MainDialog
  | event, self =>
      if self.crashed then none
      else match event with
        | .click button => if self.pumping then self.clicked button else none
        | .dispatch => if self.pumping then self.dispatch else none
        | .resume => self.resume
        | .receive message => self.receive message
        | .network => self.executeCallback

def system : System MainDialog Event := ⟨step⟩

end MainDialog

end ChattingProgram.Client
