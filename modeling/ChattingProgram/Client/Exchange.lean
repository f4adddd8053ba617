import ChattingProgram.Client.MainDialog

namespace ChattingProgram.Client.MainDialog

open ChattingProgram.Protocol ChattingProgram.Machine

/-! # The exchange of requests and answers

What the pages do to the callbacks, the queues and the posted events, without
the contents of the pages: each step of the client is one of a few moves, and
the moves are the same for every service.
-/

/-- The service whose answer an event completes. -/
def UIEvent.completes : UIEvent → Option Service
  | .loginCompletedLogin | .registerCompletedRegister => some .auth
  | .refreshCompletedLobby => some .refreshLobby
  | .createRoomCompletedLobby | .createRoomCompletedRoom => some .createRoom
  | .joinRoomCompletedLobby | .joinRoomCompletedRoom => some .joinRoom
  | .refreshRoomCompleted => some .refreshRoom
  | .sendChatCompletedRoom => some .chatLog
  | .leaveRoomCompletedRoom | .leaveRoomCompletedLobby => some .roomOut
  | _ => none

structure Issue where
  service : Service
  type : PacketType
  completion : UIEvent

/-- The request that the handler of an event makes. -/
def UIEvent.issues : UIEvent → Option Issue
  | .loginClickedLogin => some ⟨.auth, .cLogin, .loginCompletedLogin⟩
  | .registerClickedRegister => some ⟨.auth, .cRegister, .registerCompletedRegister⟩
  | .loginCompletedLobby | .refreshClickedLobby | .leaveRoomCompletedLobby =>
      some ⟨.refreshLobby, .cRefreshLobby, .refreshCompletedLobby⟩
  | .createRoomClickedLobby => some ⟨.createRoom, .cCreateRoom, .createRoomCompletedLobby⟩
  | .joinRoomClickedLobby => some ⟨.joinRoom, .cJoinRoom, .joinRoomCompletedLobby⟩
  | .sendChatClickedRoom => some ⟨.chatLog, .cChatLog, .sendChatCompletedRoom⟩
  | .leaveRoomClickedRoom => some ⟨.roomOut, .cRoomOut, .leaveRoomCompletedRoom⟩
  | _ => none

/-- The event for the next page, where the handler leaves the answer in the queue. -/
def UIEvent.forwards : UIEvent → Option UIEvent
  | .loginCompletedLogin => some .loginCompletedLobby
  | .createRoomCompletedLobby => some .createRoomCompletedRoom
  | .joinRoomCompletedLobby => some .joinRoomCompletedRoom
  | _ => none

/-- The handler shows a message box when the request failed, and takes the answer after it. -/
def UIEvent.reports : UIEvent → Bool
  | .loginCompletedLogin | .registerCompletedRegister | .createRoomCompletedLobby
  | .joinRoomCompletedLobby => true
  | _ => false

/-- The handler takes the answer at once. -/
def UIEvent.takes : UIEvent → Bool
  | .refreshCompletedLobby | .createRoomCompletedRoom | .joinRoomCompletedRoom
  | .sendChatCompletedRoom
  | .refreshRoomCompleted => true
  | _ => false

/-- The handler asserts that `AuthModel` has the id of the user. -/
def UIEvent.readsIdentity : UIEvent → Bool
  | .leaveRoomCompletedLobby | .createRoomCompletedRoom | .sendChatClickedRoom
  | .leaveRoomClickedRoom => true
  | _ => false

/-- The handler shows a page behind the login page. -/
def UIEvent.enters : UIEvent → Bool
  | .loginCompletedLobby | .leaveRoomCompletedLobby | .createRoomCompletedRoom
  | .joinRoomCompletedRoom => true
  | _ => false

/-- The buttons of the login page. -/
def UIEvent.clickedLoginPage : UIEvent → Bool
  | .loginClickedLogin | .registerClickedRegister => true
  | _ => false

/-- The buttons of the other pages. -/
def UIEvent.clickedInside : UIEvent → Bool
  | .createRoomClickedLobby | .joinRoomClickedLobby | .refreshClickedLobby | .sendChatClickedRoom
  | .leaveRoomClickedRoom => true
  | _ => false

structure Books where
  slot : Service → Option Callback
  answers : Service → List (Option RequestNumber)
  posted : List Posted
  frames : List Frame
  network : Network
  /-- The lobby or the room page is shown. -/
  inside : Bool
  sent : List Message
  crashed : Bool
  answered : List RequestNumber
  calls : List Call
  readings : List Reading

namespace Books

variable (books : Books)

def post (event : UIEvent) (response : Option RequestNumber) : Books :=
  { books with posted := books.posted ++ [⟨event, response⟩] }

def issue (issue : Issue) (message : Message) : Books :=
  { books with
    slot := Function.update books.slot issue.service (some ⟨issue.completion, some books.sent.length⟩)
    frames := .send message :: books.frames }

def pop (service : Service) : Books :=
  { books with answers := Function.update books.answers service (books.answers service).tail }

def reading (service : Service) (response : Option RequestNumber) : Books :=
  { books with readings := books.readings ++ [⟨service, response, (books.answers service).head?⟩] }

def messageBox (text : String) (pops : Option Service) (response : Option RequestNumber) : Books :=
  { books with frames := .messageBox text pops response :: books.frames }

def display (shown : Bool) : Books := { books with inside := shown }

/-- The request that a message answers. -/
def answering (message : Message) : Option RequestNumber :=
  (List.range books.sent.length).find? fun request =>
    request ∉ books.answered ∧ books.sent[request]?.map Message.type = requestType message.type

def store (service : Service) (response : Option RequestNumber) : Books :=
  { books with
    answers := Function.update books.answers service (books.answers service ++ [response])
    network := .execute service response
    answered := books.answered ++ response.toList }

def call (service : Service) (response : Option RequestNumber) : Books :=
  { books with
    posted := books.posted ++ ((books.slot service).map fun callback =>
    ⟨callback.event, response⟩).toList
    network := if service.isClear then .clear service else .idle
    calls := books.calls ++ [⟨service, response, books.slot service⟩] }

def clear (service : Service) : Books :=
  { books with slot := Function.update books.slot service none, network := .idle }

def pumping : Prop := ∀ message rest, books.frames ≠ .send message :: rest

end Books

def books (self : MainDialog) : Books where
  slot service := (self.channel service).callback
  answers service := (self.channel service).queue.map Response.request
  posted := self.posted
  frames := self.frames
  network := self.network
  inside := self.lobbyPage.shown || self.roomPage.shown
  sent := self.sent
  crashed := self.crashed
  answered := self.answered
  calls := self.calls
  readings := self.readings

/-- What a handler does. -/
inductive Books.Handles (books : Books) (event : UIEvent)
    (response : Option RequestNumber) : Books → Prop
  | request {issue message} {shown : Bool} (issues : event.issues = some issue)
      (typed : message.type = issue.type)
      (identity : event.readsIdentity → books.answers .auth ≠ [])
      (silent : event ≠ .loginCompletedLobby) (pages : shown → books.inside ∨ event.enters) :
      Handles books event response ((books.display shown).issue issue message)
  | enterLobby (entered : event = .loginCompletedLobby) {message}
      (typed : message.type = .cRefreshLobby) : Handles books event response
        (((books.reading .auth response).display true).issue
          ⟨.refreshLobby, .cRefreshLobby, .refreshCompletedLobby⟩ message)
  | forward {service next} {shown : Bool} (completes : event.completes = some service)
      (forwards : event.forwards = some next) (found : books.answers service ≠ [])
      (pages : shown → books.inside) :
      Handles books event response (((books.reading service response).display shown).post next
      response)
  | leave {shown : Bool} (left : event = .leaveRoomCompletedRoom) (pages : shown → books.inside) :
      Handles books event response ((books.display shown).post .leaveRoomCompletedLobby response)
  | report {service text} (completes : event.completes = some service) (reports : event.reports)
      (found : books.answers service ≠ []) :
      Handles books event response ((books.reading service response).messageBox text
      (some service) response)
  | registered {text} (registers : event = .registerCompletedRegister)
      (found : books.answers .auth ≠ []) :
      Handles books event response (((books.reading .auth response).pop .auth).messageBox
      text none response)
  | take {service} {shown : Bool} (completes : event.completes = some service) (takes : event.takes)
      (pages : shown → books.inside ∨ event.enters) :
      Handles books event response (((books.reading service response).pop service).display shown)
  | ignore (unmapped : event = .registerCompletedLobby) : Handles books event response books
  | crash {after : Books}
      (fired : (∃ service, event.completes = some service ∧ books.answers service = []) ∨
        event.readsIdentity ∧ books.answers .auth = []) :
      Handles books event response after

/-- What a step of the client does. -/
inductive Books.Move (books : Books) : Event → Books → Prop
  | still {button} : Move books (.click button) books
  | click {button event} (pumping : books.pumping)
      (page : event.clickedLoginPage ∨ event.clickedInside ∧ books.inside) :
      Move books (.click button) (books.post event none)
  | dispatch {event response rest after} (pumping : books.pumping)
      (posted : books.posted = ⟨event, response⟩ :: rest)
      (handled : { books with posted := rest }.Handles event response after) :
      Move books .dispatch after
  | send {message rest} (frames : books.frames = .send message :: rest) :
      Move books .resume { books with frames := rest, sent := books.sent ++ [message] }
  | close {text response rest} (frames : books.frames = .messageBox text none response :: rest) :
      Move books .resume { books with frames := rest }
  | pop {text service response rest} (frames : books.frames =
      .messageBox text (some service) response :: rest) :
      Move books .resume (({ books with frames := rest }.reading service response).pop service)
  | receive {service data message response} (idle : books.network = .idle)
      (stores : incoming message = some ⟨service, data⟩)
      (answers : response = books.answering message) :
      Move books (.receive message) (books.store service response)
  | call {service response} (executes : books.network = .execute service response) :
      Move books .network (books.call service response)
  | clear {service} (clears : books.network = .clear service) :
      Move books .network (books.clear service)

variable (self : MainDialog)

/-- Setting one channel changes the books of its service only. -/
theorem project_update {Value : Type}
    (project : (service : Service) → Channel service.Data → Value) (service : Service)
    (channel : Channel service.Data) :
    (fun other => project other (Function.update self.channel service channel other)) =
      Function.update (fun other => project other (self.channel other)) service
        (project service channel) :=
  funext (Function.apply_update project self.channel service channel)

theorem books_setCallback (service : Service) (callback : Option Callback) :
    (self.setCallback service callback).books =
      { self.books with slot := Function.update self.books.slot service callback } := by
  have slots := project_update self (fun _ channel => channel.callback) service
    { self.channel service with callback }
  have answers := project_update self (fun _ channel => channel.queue.map Response.request) service
    { self.channel service with callback }
  simp only [Function.update_eq_self] at answers
  simp only [books, setCallback, slots, answers]

theorem books_setQueue (service : Service) (queue : List (Response service.Data)) :
    (self.setQueue service queue).books =
      { self.books with
        answers := Function.update self.books.answers service (queue.map Response.request) } := by
  have slots := project_update self (fun _ channel => channel.callback) service
    { self.channel service with queue }
  have answers := project_update self (fun _ channel => channel.queue.map Response.request) service
    { self.channel service with queue }
  simp only [Function.update_eq_self] at slots
  simp only [books, setQueue, slots, answers]

theorem books_requestService (service : Service) (message : Message) (event : UIEvent) :
    (self.requestService service message event).books =
      self.books.issue ⟨service, message.type, event⟩ message := by
  have set := books_setCallback self service (some ⟨event, some self.sent.length⟩)
  have frames : (self.requestService service message event).books =
      { (self.setCallback service (some ⟨event, some self.sent.length⟩)).books with
        frames := .send message :: self.frames } := rfl
  rw [frames, set]
  rfl

theorem books_pop (service : Service) : (self.pop service).books = self.books.pop service := by
  rw [pop, books_setQueue, List.map_tail]
  rfl

theorem books_reading (service : Service) (response : Option RequestNumber) :
    (self.reading service response).books = self.books.reading service response := by
  simp only [books, reading, Books.reading, List.head?_map]

theorem answers_of_front {service : Service} {data : service.Data}
    (found : self.front service = some data) : self.books.answers service ≠ [] := by
  intro empty
  have none : (self.channel service).queue = [] := List.map_eq_nil_iff.mp empty
  simp [front, none] at found

theorem answers_of_front_none (missing : self.front service = none) :
    self.books.answers service = [] := by
  simpa [front, books] using missing

/-- The room page is shown behind the lobby page. -/
theorem inside_of_room (shown : (false || self.roomPage.shown) = true) :
    self.books.inside = true := by
  rw [Bool.false_or] at shown
  simp [books, shown]

section Handles

variable {self : MainDialog} {event : UIEvent} {response : Option RequestNumber} {service : Service}

theorem missing_handles (completes : event.completes = some service)
    (missing : self.front service = none) : self.books.Handles event response after :=
  .crash (.inl ⟨service, completes, answers_of_front_none self missing⟩)

theorem identity_handles (reads : event.readsIdentity) (missing : self.front .auth = none) :
    self.books.Handles event response after :=
  .crash (.inr ⟨reads, answers_of_front_none self missing⟩)

theorem report_handles (completes : event.completes = some service) (reports : event.reports)
    (found : self.front service = some data) :
    self.books.Handles event response
      ((self.reading service response).messageBox text (some service) response).books := by
  have handled : self.books.Handles event response
      ((self.books.reading service response).messageBox text (some service) response) :=
    .report completes reports (answers_of_front self found)
  rw [← books_reading] at handled
  exact handled

theorem registered_handles (found : self.front .auth = some data) :
    self.books.Handles .registerCompletedRegister response
      (((self.reading .auth response).pop .auth).messageBox text none response).books := by
  have handled : self.books.Handles .registerCompletedRegister response
      (((self.books.reading .auth response).pop .auth).messageBox text none response) :=
    .registered rfl (answers_of_front self found)
  rw [← books_reading, ← books_pop] at handled
  exact handled

theorem forward_handles {displayed : MainDialog} (completes : event.completes = some service)
    (forwards : event.forwards = some next) (found : self.front service = some data)
    (pages : displayed.books.inside → self.books.inside)
    (same : displayed.books = (self.reading service response).books.display
      displayed.books.inside) :
    self.books.Handles event response (displayed.post next response).books := by
  have posted : (displayed.post next response).books = displayed.books.post next response := rfl
  rw [posted, same, books_reading]
  exact .forward completes forwards (answers_of_front self found) pages

theorem take_handles {displayed : MainDialog} (completes : event.completes = some service)
    (takes : event.takes) (pages : displayed.books.inside → self.books.inside ∨ event.enters)
    (same : displayed.books = ((self.reading service response).pop service).books.display
      displayed.books.inside) : self.books.Handles event response displayed.books := by
  rw [same, books_pop, books_reading]
  exact .take completes takes pages

theorem request_handles {message : Message} {displayed : MainDialog}
    (issues : event.issues = some ⟨service, message.type, completion⟩)
    (identity : event.readsIdentity → self.books.answers .auth ≠ [])
    (silent : event ≠ .loginCompletedLobby)
    (pages : displayed.books.inside → self.books.inside ∨ event.enters)
    (same : displayed.books = self.books.display displayed.books.inside) :
    self.books.Handles event response (displayed.requestService service message completion).books :=
      by
  rw [books_requestService, same]
  exact .request issues rfl identity silent pages

end Handles

theorem LoginHandler.onLoginCompleted_handles (response : Option RequestNumber) :
    self.books.Handles .loginCompletedLogin response
      (LoginHandler.onLoginCompleted self response).books := by
  have completes : UIEvent.completes .loginCompletedLogin = some .auth := rfl
  simp only [LoginHandler.onLoginCompleted]
  split
  next missing => exact missing_handles completes missing
  next data found =>
      split
      · exact forward_handles completes rfl found (fun shown => shown) rfl
      · exact report_handles completes rfl found

theorem LoginHandler.onRegisterCompleted_handles (response : Option RequestNumber) :
    self.books.Handles .registerCompletedRegister response
      (LoginHandler.onRegisterCompleted self response).books := by
  have completes : UIEvent.completes .registerCompletedRegister = some .auth := rfl
  simp only [LoginHandler.onRegisterCompleted]
  split
  next missing => exact missing_handles completes missing
  next data found =>
      split
      · exact registered_handles found
      · exact report_handles completes rfl found

theorem LobbyHandler.onLoginCompleted_handles (response : Option RequestNumber) :
    self.books.Handles .loginCompletedLobby response
      (LobbyHandler.onLoginCompleted self response).books := by
  have handled : ∀ displayed : MainDialog,
      displayed.books = (self.reading .auth response).books.display true →
      self.books.Handles .loginCompletedLobby response
          (LobbyHandler.requestRefresh displayed).books := by
    intro displayed same
    rw [LobbyHandler.requestRefresh, books_requestService, same, books_reading]
    exact .enterLobby rfl rfl
  simp only [LobbyHandler.onLoginCompleted]
  split
  next => exact handled _ rfl
  next => exact handled _ rfl

theorem LobbyHandler.onRefreshCompleted_handles (response : Option RequestNumber) :
    self.books.Handles .refreshCompletedLobby response
      (LobbyHandler.onRefreshCompleted self response).books := by
  have completes : UIEvent.completes .refreshCompletedLobby = some .refreshLobby := rfl
  simp only [LobbyHandler.onRefreshCompleted]
  split
  next missing => exact missing_handles completes missing
  next data found =>
      split
      · exact take_handles completes rfl .inl rfl
      · exact take_handles completes rfl .inl rfl

theorem LobbyHandler.onCreateRoomCompleted_handles (response : Option RequestNumber) :
    self.books.Handles .createRoomCompletedLobby response
      (LobbyHandler.onCreateRoomCompleted self response).books := by
  have completes : UIEvent.completes .createRoomCompletedLobby = some .createRoom := rfl
  simp only [LobbyHandler.onCreateRoomCompleted]
  split
  next missing => exact missing_handles completes missing
  next data found =>
      split
      · exact forward_handles completes rfl found (inside_of_room self) rfl
      · exact report_handles completes rfl found

theorem LobbyHandler.onJoinRoomCompleted_handles (response : Option RequestNumber) :
    self.books.Handles .joinRoomCompletedLobby response
      (LobbyHandler.onJoinRoomCompleted self response).books := by
  have completes : UIEvent.completes .joinRoomCompletedLobby = some .joinRoom := rfl
  simp only [LobbyHandler.onJoinRoomCompleted]
  split
  next missing => exact missing_handles completes missing
  next data found =>
      split
      · exact forward_handles completes rfl found (inside_of_room self) rfl
      · exact report_handles completes rfl found

theorem LobbyHandler.onLeaveRoomCompleted_handles (response : Option RequestNumber) :
    self.books.Handles .leaveRoomCompletedLobby response
      (LobbyHandler.onLeaveRoomCompleted self).books := by
  simp only [LobbyHandler.onLeaveRoomCompleted]
  split
  next missing => exact identity_handles rfl missing
  next data found =>
      exact request_handles rfl (fun _ => answers_of_front self found) nofun (fun _ => .inr rfl) rfl

theorem RoomHandler.onCreateRoomCompleted_handles (response : Option RequestNumber) :
    self.books.Handles .createRoomCompletedRoom response
      (RoomHandler.onCreateRoomCompleted self response).books := by
  have completes : UIEvent.completes .createRoomCompletedRoom = some .createRoom := rfl
  simp only [RoomHandler.onCreateRoomCompleted]
  split
  next missing =>
      have kept : self.front .auth = none := by simpa [front, pop, setQueue, reading] using missing
      exact identity_handles rfl kept
  next => exact take_handles completes rfl (fun _ => .inr rfl) rfl

theorem RoomHandler.onSendChatClicked_handles (response : Option RequestNumber) :
    self.books.Handles .sendChatClickedRoom response (RoomHandler.onSendChatClicked self).books :=
      by
  unfold RoomHandler.onSendChatClicked
  split
  next missing => exact identity_handles rfl missing
  next data found =>
      exact request_handles rfl (fun _ => answers_of_front self found) nofun .inl rfl

theorem RoomHandler.onSendChatCompleted_handles (response : Option RequestNumber) :
    self.books.Handles .sendChatCompletedRoom response
      (RoomHandler.onSendChatCompleted self response).books := by
  have completes : UIEvent.completes .sendChatCompletedRoom = some .chatLog := rfl
  simp only [RoomHandler.onSendChatCompleted]
  split
  next missing => exact missing_handles completes missing
  next => exact take_handles completes rfl .inl rfl

theorem RoomHandler.onLeaveRoomClicked_handles (response : Option RequestNumber) :
    self.books.Handles .leaveRoomClickedRoom response (RoomHandler.onLeaveRoomClicked self).books :=
      by
  unfold RoomHandler.onLeaveRoomClicked
  split
  next missing => exact identity_handles rfl missing
  next data found =>
      exact request_handles rfl (fun _ => answers_of_front self found) nofun .inl rfl

theorem RoomHandler.onLeaveRoomCompleted_handles (response : Option RequestNumber) :
    self.books.Handles .leaveRoomCompletedRoom response
      (RoomHandler.onLeaveRoomCompleted self response).books := by
  have hidden : self.lobbyPage.shown = true → self.books.inside = true := by
    intro shown
    simp [books, shown]
  have handled : self.books.Handles .leaveRoomCompletedRoom response
      ((self.books.display self.lobbyPage.shown).post .leaveRoomCompletedLobby response) :=
      .leave rfl hidden
  have same : (RoomHandler.onLeaveRoomCompleted self response).books =
      (self.books.display (self.lobbyPage.shown || false)).post .leaveRoomCompletedLobby response :=
      rfl
  rw [same, Bool.or_false]
  exact handled

theorem execute_handles (posted : Posted) :
    self.books.Handles posted.event posted.response (self.execute posted).books := by
  obtain ⟨event, response⟩ := posted
  cases event with
  | loginClickedLogin => exact request_handles rfl nofun nofun .inl rfl
  | loginCompletedLogin => exact LoginHandler.onLoginCompleted_handles self response
  | loginCompletedLobby => exact LobbyHandler.onLoginCompleted_handles self response
  | registerClickedRegister => exact request_handles rfl nofun nofun .inl rfl
  | registerCompletedRegister => exact LoginHandler.onRegisterCompleted_handles self response
  | registerCompletedLobby => exact .ignore rfl
  | createRoomClickedLobby => exact request_handles rfl nofun nofun .inl rfl
  | createRoomCompletedLobby => exact LobbyHandler.onCreateRoomCompleted_handles self response
  | createRoomCompletedRoom => exact RoomHandler.onCreateRoomCompleted_handles self response
  | joinRoomClickedLobby => exact request_handles rfl nofun nofun .inl rfl
  | joinRoomCompletedLobby => exact LobbyHandler.onJoinRoomCompleted_handles self response
  | joinRoomCompletedRoom =>
      have completes : UIEvent.completes .joinRoomCompletedRoom = some .joinRoom := rfl
      exact take_handles completes rfl (fun _ => .inr rfl) rfl
  | refreshClickedLobby => exact request_handles rfl nofun nofun .inl rfl
  | refreshCompletedLobby => exact LobbyHandler.onRefreshCompleted_handles self response
  | sendChatClickedRoom => exact RoomHandler.onSendChatClicked_handles self response
  | sendChatCompletedRoom => exact RoomHandler.onSendChatCompleted_handles self response
  | leaveRoomClickedRoom => exact RoomHandler.onLeaveRoomClicked_handles self response
  | leaveRoomCompletedRoom => exact RoomHandler.onLeaveRoomCompleted_handles self response
  | leaveRoomCompletedLobby => exact LobbyHandler.onLeaveRoomCompleted_handles self response
  | refreshRoomCompleted =>
      have completes : UIEvent.completes .refreshRoomCompleted = some .refreshRoom := rfl
      exact take_handles completes rfl .inl rfl

theorem pumping_books (pumps : self.pumping = true) : self.books.pumping := by
  intro message rest frames
  have sends : self.frames = .send message :: rest := frames
  simp [pumping, sends] at pumps

section Moves

variable {self} {after : MainDialog}

theorem post_move {event : UIEvent} {updated : MainDialog} (pumps : self.pumping = true)
    (page : event.clickedLoginPage ∨ event.clickedInside ∧ self.books.inside)
    (same : updated.books = self.books) :
    self.books.Move (.click button) (updated.post event none).books := by
  have posted : (updated.post event none).books = updated.books.post event none := rfl
  rw [posted, same]
  exact .click (pumping_books self pumps) page

theorem still_move {updated : MainDialog} (same : updated.books = self.books) :
    self.books.Move (.click button) updated.books := by
  rw [same]
  exact .still

theorem clickedLoginPage_move {id : String} {event : UIEvent} (pumps : self.pumping = true)
    (page : event.clickedLoginPage) (clicked : self.clickedLoginPage id pw event = some after) :
    self.books.Move (.click button) after.books := by
  unfold clickedLoginPage at clicked
  split at clicked
  · cases clicked
    split
    · exact still_move rfl
    · exact post_move pumps (.inl page) rfl
  · cases clicked

theorem clicked_move (pumps : self.pumping = true) (clicked : self.clicked button = some after) :
    self.books.Move (.click button) after.books := by
  have lobby : self.lobbyPage.shown = true → self.books.inside = true := by
    intro shown
    simp [books, shown]
  have room : self.roomPage.shown = true → self.books.inside = true := by
    intro shown
    simp [books, shown]
  cases button with
  | login id pw => exact clickedLoginPage_move pumps rfl clicked
  | register id pw => exact clickedLoginPage_move pumps rfl clicked
  | createRoom roomName =>
      simp only [MainDialog.clicked] at clicked
      split at clicked
      next shown =>
          cases clicked
          split
          · exact still_move rfl
          · exact post_move pumps (.inr ⟨rfl, lobby shown⟩) rfl
      next => cases clicked
  | joinRoom index =>
      simp only [MainDialog.clicked] at clicked
      split at clicked
      next shown =>
          split at clicked
          · cases clicked
            exact .still
          · cases clicked
            exact post_move pumps (.inr ⟨rfl, lobby shown⟩) rfl
      next => cases clicked
  | refresh =>
      simp only [MainDialog.clicked] at clicked
      split at clicked
      next shown =>
          cases clicked
          exact post_move pumps (.inr ⟨rfl, lobby shown⟩) rfl
      next => cases clicked
  | send chatText =>
      simp only [MainDialog.clicked] at clicked
      split at clicked
      next shown =>
          cases clicked
          split
          · exact still_move rfl
          · exact post_move pumps (.inr ⟨rfl, room shown⟩) rfl
      next => cases clicked
  | leave =>
      simp only [MainDialog.clicked] at clicked
      split at clicked
      next shown =>
          cases clicked
          exact post_move pumps (.inr ⟨rfl, room shown⟩) rfl
      next => cases clicked

theorem dispatch_move (pumps : self.pumping = true) (dispatched : self.dispatch = some after) :
    self.books.Move .dispatch after.books := by
  unfold dispatch at dispatched
  split at dispatched
  next => cases dispatched
  next posted rest queued =>
      cases dispatched
      have handled := execute_handles { self with posted := rest } posted
      exact .dispatch (pumping_books self pumps) queued handled

theorem resume_move (resumed : self.resume = some after) : self.books.Move .resume after.books := by
  unfold resume at resumed
  split at resumed
  next => cases resumed
  next message rest frames =>
      cases resumed
      exact .send frames
  next frames =>
      cases resumed
      exact .close frames
  next service response rest frames =>
      cases resumed
      rw [books_pop, books_reading]
      exact .pop frames

theorem receive_move (received : self.receive message = some after) :
    self.books.Move (.receive message) after.books := by
  unfold receive at received
  split at received
  next service data idle stores =>
      cases received
      let response := self.answering message
      have same := congrArg
        (fun stored : Books => { stored with
          network := .execute service response
          answered := self.answered ++ response.toList })
        (books_setQueue self service ((self.channel service).queue ++ [⟨data, response⟩]))
      rw [List.map_append] at same
      exact Eq.mpr (congrArg (self.books.Move (.receive message)) same) (.receive idle stores rfl)
  next => cases received

theorem executeCallback_move (executed : self.executeCallback = some after) :
    self.books.Move .network after.books := by
  unfold executeCallback at executed
  split at executed
  next => cases executed
  next service response executes =>
      have moved : self.books.Move .network _ := .call executes
      cases set : (self.channel service).callback with
      | none =>
          have empty : self.books.slot service = none := set
          simp only [set, Option.some.injEq] at executed
          subst executed
          rw [Books.call, empty, Option.map_none, Option.toList_none, List.append_nil] at moved
          exact moved
      | some callback =>
          have installed : self.books.slot service = some callback := set
          simp only [set, Option.some.injEq] at executed
          subst executed
          rw [Books.call, installed] at moved
          exact moved
  next service clears =>
      cases executed
      have same := congrArg (fun cleared : Books => { cleared with network := .idle })
        (books_setCallback self service none)
      exact Eq.mpr (congrArg (self.books.Move .network) same) (.clear clears)

end Moves

theorem step_move {event : Event} {before after : MainDialog}
    (stepped : system.step event before = some after) : before.books.Move event after.books := by
  obtain ⟨_, stepped⟩ := Option.ite_none_left_eq_some.mp stepped
  cases event with
  | click button =>
      obtain ⟨pumps, clicked⟩ := Option.ite_none_right_eq_some.mp stepped
      exact clicked_move pumps clicked
  | dispatch =>
      obtain ⟨pumps, dispatched⟩ := Option.ite_none_right_eq_some.mp stepped
      exact dispatch_move pumps dispatched
  | resume => exact resume_move stepped
  | receive message => exact receive_move stepped
  | network => exact executeCallback_move stepped

end ChattingProgram.Client.MainDialog
