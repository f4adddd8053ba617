import ChattingProgram.Server.Steps

namespace ChattingProgram.Server

open ChattingProgram.Protocol ChattingProgram.Machine

/-! # What a step sends

The next step of a handler passes a list of packets to `Send`, each to one
session.  `advance_delivers` says that nothing else reaches a queue.
-/

/-- A packet and the session it is for. -/
abbrev Post := Nat × Message

/-- The part of the posts that is for one session. -/
def handed (posts : List Post) (session : Nat) : List Message :=
  (posts.filter fun post => post.1 = session).map Prod.snd

@[simp] theorem handed_nil (session : Nat) : handed [] session = [] := rfl

theorem handed_append (first second : List Post) (session : Nat) :
    handed (first ++ second) session = handed first session ++ handed second session := by
  simp [handed]

namespace ServerState

variable (self : ServerState)

def outbox (session : Nat) : List Message :=
  ((self.sessions[session]?).map ClientSession.outbox).getD []

def isConnected (session : Nat) : Bool :=
  ((self.sessions[session]?).map ClientSession.connected).getD false

/-- The posts of `BroadCast` to the users of a room, in the order of `_users`. -/
def broadcasts (room : Nat) (message : Message) (excluUser : Option Nat) : List Post :=
  match self.rooms[room]? with
  | none => []
  | some current =>
      (current.users.inOrder.filter fun entry => excluUser ≠ some entry.2).map fun entry =>
        (entry.2, message)

end ServerState

def RemovePc.posts (self : ServerState) (room : Nat) : RemovePc → List Post
  | .broadcast userIds =>
      if userIds.isEmpty then [] else self.broadcasts room (.sRefreshRoom userIds) none
  | _ => []

/-- The posts of the next step of a handler. -/
def Task.posts (self : ServerState) (session : Nat) : Task → List Post
  | .login id pssd (.reply canLogin) => [(session, .sLogin canLogin id pssd)]
  | .register id pssd (.reply isSuccess) => [(session, .sRegister isSuccess id pssd)]
  | .refreshLobby (.reply rooms) =>
      [(session, .sRefreshLobby true (rooms.map Prod.fst) (rooms.map Prod.snd))]
  | .createRoom _ roomName (.reply canCreate) => [(session, .sCreateRoom canCreate roomName)]
  | .joinRoom _ _ (.broadcast room userIds) =>
      self.broadcasts room (.sRefreshRoom userIds) (some session)
  | .joinRoom _ roomName (.reply _ canJoin userIds) =>
      [(session, .sJoinRoom canJoin roomName userIds)]
  | .chatLog id log (.broadcast room) => self.broadcasts room (.sChatLog id log) none
  | .roomOut _ (.remove room pc) => pc.posts self room
  | .roomOut _ (.reply _) => [(session, .sRoomOut)]
  | .onDisconnected (.remove room pc) => pc.posts self room
  | _ => []

namespace ServerState

variable {self after : ServerState}

/-- The queues hold what they held and the posts, as far as the sessions are connected,
and the same sessions are. -/
structure Delivers (before : ServerState) (posts : List Post) (after : ServerState) : Prop where
  outbox : ∀ session, after.outbox session =
    before.outbox session ++ (if before.isConnected session then handed posts session else [])
  connected : ∀ session, after.isConnected session = before.isConnected session

theorem Delivers.of_sessions (same : after.sessions = self.sessions) : self.Delivers [] after where
  outbox := by
    intro session
    simp only [ServerState.outbox, same, handed_nil, ite_self, List.append_nil]
  connected := by
    intro session
    simp only [isConnected, same]

theorem getElem?_modifySession (server : ServerState) (session other : Nat)
    (change : ClientSession → ClientSession) :
    (server.modifySession session change).sessions[other]? =
      (server.sessions[other]?).map fun current =>
        if session = other then change current else current := by
  rw [modifySession, List.getElem?_modify]
  rfl

theorem isConnected_modifySession {server : ServerState} {change : ClientSession → ClientSession}
    (same : ∀ current, (change current).connected = current.connected) (other : Nat) :
    (server.modifySession session change).isConnected other = server.isConnected other := by
  simp only [isConnected, getElem?_modifySession, Option.map_map]
  congr 2
  funext current
  by_cases here : session = other <;> simp [here, same]

theorem delivers_modify {change : ClientSession → ClientSession}
    (sessions : after.sessions = (self.modifySession session change).sessions)
    (outbox : ∀ current, (change current).outbox = current.outbox)
    (connected : ∀ current, (change current).connected = current.connected) :
    self.Delivers [] after where
  outbox := by
    intro other
    simp only [ServerState.outbox, sessions, getElem?_modifySession, handed_nil, ite_self,
      List.append_nil, Option.map_map]
    congr 2
    funext current
    by_cases here : session = other <;> simp [here, outbox current]
  connected := by
    intro other
    have same : (self.modifySession session change).isConnected other = self.isConnected other :=
      isConnected_modifySession connected other
    simpa only [isConnected, sessions] using same

theorem isConnected_send (message : Message) (session other : Nat) :
    (self.send message session).isConnected other = self.isConnected other := by
  refine isConnected_modifySession ?_ other
  intro current
  split <;> rfl

theorem delivers_send (message : Message) (session : Nat) :
    self.Delivers [(session, message)] (self.send message session) where
  outbox := by
    intro other
    cases found : self.sessions[other]? with
    | none => simp [ServerState.outbox, isConnected, send, getElem?_modifySession, found]
    | some current =>
        by_cases here : session = other
        · by_cases connected : current.connected <;>
            simp [ServerState.outbox, isConnected, send, getElem?_modifySession, found, here,
            connected, handed]
        · simp [ServerState.outbox, isConnected, send, getElem?_modifySession, found, here, handed]
  connected := isConnected_send message session

theorem Delivers.trans (one : self.Delivers first middle) (two : middle.Delivers second after) :
    self.Delivers (first ++ second) after where
  outbox := by
    intro session
    rw [two.outbox session, one.outbox session, one.connected session, handed_append]
    split <;> simp
  connected := fun session => (two.connected session).trans (one.connected session)

theorem broadCast_delivers (self : ServerState) (entries : List (Sigma fun _ : String => Nat))
    (message : Message) (excluUser : Option Nat) :
    self.Delivers
      ((entries.filter fun entry => excluUser ≠ some entry.2).map fun entry => (entry.2, message))
      (entries.foldl (fun server entry =>
        if excluUser = some entry.2 then server else server.send message entry.2) self) := by
  induction entries generalizing self with
  | nil => exact .of_sessions rfl
  | cons entry rest ih =>
      rw [List.foldl_cons]
      by_cases excluded : excluUser = some entry.2
      · simpa [excluded] using ih self
      · have first : self.Delivers [(entry.2, message)] (self.send message entry.2) :=
          delivers_send message entry.2
        simpa [excluded] using first.trans (ih _)

theorem Delivers.congr {later : ServerState} (delivers : self.Delivers posts after)
    (same : later.sessions = after.sessions) : self.Delivers posts later where
  outbox := by
    intro session
    rw [← delivers.outbox session]
    simp only [ServerState.outbox, same]
  connected := by
    intro session
    rw [← delivers.connected session]
    simp only [isConnected, same]

theorem delivers_broadcasts (message : Message) (excluUser : Option Nat)
    (object : self.rooms[room]? = some current) :
    self.Delivers (self.broadcasts room message excluUser)
      (self.broadCast current.users message excluUser) := by
  simp only [broadcasts, object]
  exact broadCast_delivers self current.users.inOrder message excluUser

section Advance

variable {collate : String → String} {index session : Nat}

theorem RemoveTurn.delivers (turn : RemoveTurn collate self room userId pc goal after) :
    self.Delivers (pc.posts self room) after := by
  cases turn with
  | erase => exact delivers_modify rfl (fun _ => rfl) fun _ => rfl
  | broadcast object =>
      simp only [RemovePc.posts]
      split
      · exact .of_sessions rfl
      · exact (delivers_broadcasts _ none object).congr rfl
  | _ => exact .of_sessions rfl

theorem posts_of_reply {task : Task} (answers : task.reply = some message) :
    task.posts self session = [(session, message)] := by
  unfold Task.reply at answers
  split at answers <;> first | contradiction | (cases answers; rfl)

theorem Turn.delivers (turn : Turn collate self session task next after) :
    self.Delivers (task.posts self session) after := by
  cases turn with
  | reply answers =>
      rw [posts_of_reply answers]
      exact delivers_send ..
  | setId | setRoom | addUser | offline => exact delivers_modify rfl (fun _ => rfl) fun _ => rfl
  | welcome object | chat object => exact delivers_broadcasts _ _ object
  | leave turn | drop turn => exact turn.delivers
  | _ => exact .of_sessions rfl

theorem Stops.silent (stops : Stops collate self session task cause) :
    task.posts self session = [] := by
  cases stops with
  | leave stops | drop stops => cases stops <;> rfl
  | _ => rfl

/-- A step puts its posts, and nothing else, into the queues of the connected sessions. -/
theorem advance_delivers (stepped : self.advance collate index session task = some after) :
    self.Delivers (task.posts self session) after := by
  rcases advance_turn stepped with ⟨cause, stops, rfl⟩ | ⟨next, changed, turn, rfl⟩
  · rw [stops.silent]
    exact .of_sessions rfl
  · exact turn.delivers.congr rfl

end Advance

end ServerState

end ChattingProgram.Server
