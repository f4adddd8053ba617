import ChattingProgram.Client.MainDialog
import ChattingProgram.Server.Entry

namespace ChattingProgram.Client

open ChattingProgram.Protocol ChattingProgram.Machine ChattingProgram.Server

/-! # What the client shows of the room it enters

The room page clears its chat lines and its users when it executes the second
event of the answer.  Everything that was executed before is lost, so it is not
enough that the answer comes first: the lobby page must have executed the first
event before the network thread handles the traffic behind it.
-/

/-- The chat line of a packet. -/
def line : Message → Option String
  | .sChatLog id log => some (id ++ " : " ++ log)
  | _ => none

/-- The users that a packet lists; the client of a new room lists itself. -/
def userList (id : String) : Message → Option (List String)
  | .sCreateRoom true _ => some [id]
  | .sJoinRoom true _ userIds | .sRefreshRoom userIds => some userIds
  | _ => none

def usersAfter (id : String) (users : List String) (packets : List Message) : List String :=
  packets.foldl (fun users packet => (userList id packet).getD users) users

theorem usersAfter_concat (id : String) (users : List String) (packets : List Message)
    (packet : Message) :
    usersAfter id users (packets ++ [packet]) =
      (userList id packet).getD (usersAfter id users packets) := by
  simp [usersAfter]

def receives (events : List MainDialog.Event) : List Message :=
  events.filterMap fun
    | .receive message => some message
    | _ => none

namespace MainDialog

/-- The queues of the traffic that the page has not shown yet. -/
def trafficEvent : Message → Option UIEvent
  | .sChatLog _ _ => some .sendChatCompletedRoom
  | .sRefreshRoom _ => some .refreshRoomCompleted
  | _ => none

def chatData : Message → Option ChatLogData
  | .sChatLog id log => some ⟨id, log⟩
  | _ => none

def refreshData : Message → Option (List String)
  | .sRefreshRoom userIds => some userIds
  | _ => none

def lobbyEvent : Message → UIEvent
  | .sCreateRoom _ _ => .createRoomCompletedLobby
  | _ => .joinRoomCompletedLobby

def roomEvent : Message → UIEvent
  | .sCreateRoom _ _ => .createRoomCompletedRoom
  | _ => .joinRoomCompletedRoom

/-- The data in the queue of a service. -/
def stored (self : MainDialog) (service : Service) : List service.Data :=
  (self.channel service).queue.map Response.data

/-- The event that the callback of a service posts. -/
def callbackEvent (self : MainDialog) (service : Service) : Option UIEvent :=
  (self.channel service).callback.map Callback.event

/-- The event that the thread of the network is about to post. -/
def Network.coming (completion : Service → Option UIEvent) : Network → Option UIEvent
  | .execute service _ => completion service
  | _ => none

def coming (self : MainDialog) : Option UIEvent := self.network.coming self.callbackEvent

/-- The events that are posted or about to be. -/
def upcoming (self : MainDialog) : List UIEvent :=
  self.posted.map Posted.event ++ self.coming.toList

/-- Only the callbacks of requests are cleared. -/
structure Steady (now : MainDialog) : Prop where
  running : now.crashed = false
  chatLog : now.callbackEvent .chatLog = some .sendChatCompletedRoom
  refreshRoom : now.callbackEvent .refreshRoom = some .refreshRoomCompleted
  clears : ∀ service, now.network = .clear service → service.isClear = true

/-- The user is in the lobby, and nothing is stored, posted or shown. -/
structure Idle (user : AuthData) (client : MainDialog) : Prop where
  steady : client.Steady
  known : client.front .auth = some user
  frames : client.frames = []
  network : client.network = .idle
  posted : client.posted = []
  stored : ∀ service ∈ [Service.createRoom, .joinRoom, .chatLog, .refreshRoom],
    (client.channel service).queue = []
  chatLines : client.roomPage.chatLines = []

/-- The callback for the answer is set. -/
def Awaits (self : MainDialog) : Message → Prop
  | .sCreateRoom _ _ => self.callbackEvent .createRoom = some .createRoomCompletedLobby
  | .sJoinRoom _ _ _ => self.callbackEvent .joinRoom = some .joinRoomCompletedLobby
  | _ => True

/-- The user makes no further request, and traffic is handled only when the lobby page has
executed the answer. -/
def Prompt : Event → MainDialog → Prop
  | .click _, _ => False
  | .receive message, self => message.isTraffic = true → ∀ posted ∈ self.posted,
      posted.event ≠ .createRoomCompletedLobby ∧ posted.event ≠ .joinRoomCompletedLobby
  | _, _ => True

instance : ∀ event self, Decidable (Prompt event self)
  | .click _, _ => .isFalse id
  | .receive _, _ => inferInstanceAs (Decidable (_ → _))
  | .dispatch, _ | .resume, _ | .network, _ => .isTrue trivial

structure Backlog (user : AuthData) (ahead : List UIEvent) (late : List Message)
    (now : MainDialog) : Prop where
  steady : now.Steady
  known : now.front .auth = some user
  frames : now.frames = []
  upcoming : now.upcoming = ahead ++ late.filterMap trafficEvent
  chatLogs : now.stored .chatLog = late.filterMap chatData
  refreshRooms : now.stored .refreshRoom = late.filterMap refreshData
  traffic : ∀ packet ∈ late, packet.isTraffic = true

/-- The answer is stored, and no other. -/
def Stores (self : MainDialog) : Message → Prop
  | .sCreateRoom isSuccess roomName => self.stored .createRoom = [⟨isSuccess, roomName⟩]
  | .sJoinRoom isSuccess roomName userIds =>
      self.stored .joinRoom = [⟨isSuccess, roomName, userIds⟩]
  | _ => False

/-- Where the client stands with the packets it has received. -/
inductive Stage (user : AuthData) (client : MainDialog) : List Message → MainDialog → Prop where
  | waiting : Stage user client [] client
  | announced {ack : Message} {now : MainDialog} (backlog : now.Backlog user [lobbyEvent ack] [])
      (stores : now.Stores ack)
      (page : now.roomPage.users = client.roomPage.users ∧ now.roomPage.chatLines = []) :
      Stage user client [ack] now
  | refused {ack : Message} {now : MainDialog} (verdict : ack.entry = some false)
      (steady : now.Steady) (executed : now.upcoming = [])
      (page : now.roomPage.users = client.roomPage.users ∧ now.roomPage.chatLines = []) :
      Stage user client [ack] now
  | admitted {ack : Message} {late : List Message} {now : MainDialog}
      (verdict : ack.entry = some true) (backlog : now.Backlog user [roomEvent ack] late)
      (stores : now.Stores ack) :
      Stage user client (ack :: late) now
  | shown {ack : Message} {early late : List Message} {now : MainDialog}
      (verdict : ack.entry = some true) (backlog : now.Backlog user [] late)
      (page : now.roomPage.users = usersAfter user.id client.roomPage.users (ack :: early) ∧
        now.roomPage.chatLines = early.filterMap line) :
      Stage user client (ack :: (early ++ late)) now

variable {user : AuthData} {client now next : MainDialog} {ack : Message}

theorem front_eq (self : MainDialog) (service : Service) :
    self.front service = (self.stored service).head? :=
  List.head?_map.symm

theorem stored_setQueue (self : MainDialog) (service other : Service)
    (queue : List (Response service.Data)) :
    (self.setQueue service queue).stored other =
      Function.update self.stored service (queue.map Response.data) other := by
  by_cases same : other = service
  · subst same
    simp [stored, setQueue]
  · simp [stored, setQueue, same]

theorem callbackEvent_setQueue (self : MainDialog) (service other : Service)
    (queue : List (Response service.Data)) :
    (self.setQueue service queue).callbackEvent other = self.callbackEvent other := by
  by_cases same : other = service
  · subst same
    simp [callbackEvent, setQueue]
  · simp [callbackEvent, setQueue, same]

/-- The thread of the network stores the data of a packet. -/
theorem receive_stores {service : Service} {data : service.Data} (steady : now.Steady)
    (stores : incoming packet = some ⟨service, data⟩)
    (stepped : step (.receive packet) now = some next) :
    next.Steady ∧ next.upcoming = now.upcoming ++ (now.callbackEvent service).toList ∧
      next.stored = Function.update now.stored service (now.stored service ++ [data]) ∧
      next.frames = now.frames ∧ next.roomPage = now.roomPage := by
  obtain ⟨_, stepped⟩ := Option.ite_none_left_eq_some.mp stepped
  simp only [receive, stores] at stepped
  split at stepped <;> cases stepped
  next idle same =>
    cases same
    have completion := callbackEvent_setQueue now service
    refine ⟨⟨steady.running, (completion _ _).trans steady.chatLog,
      (completion _ _).trans steady.refreshRoom, fun _ => nofun⟩, ?_, ?_, rfl, rfl⟩
    · have coming : now.coming = none := by simp only [coming, idle, Network.coming]
      rw [upcoming, upcoming, coming, Option.toList_none, List.append_nil]
      exact congrArg (now.posted.map Posted.event ++ Option.toList ·) (completion _ _)
    · funext other
      refine (stored_setQueue now service other _).trans ?_
      rw [List.map_append]
      rfl

/-- What `Execute` does changes neither the pages nor the events that the user interface
is going to execute. -/
structure Keeps (now next : MainDialog) : Prop where
  steady : next.Steady
  upcoming : next.upcoming = now.upcoming
  stored : next.stored = now.stored
  frames : next.frames = now.frames
  roomPage : next.roomPage = now.roomPage

theorem network_keeps (steady : now.Steady) (stepped : step .network now = some next) :
    now.Keeps next := by
  obtain ⟨_, stepped⟩ := Option.ite_none_left_eq_some.mp stepped
  simp only [executeCallback] at stepped
  split at stepped
  · contradiction
  next service response executing =>
    have clears : ∀ other, (if service.isClear then Network.clear service else .idle) =
        .clear other → other.isClear = true := by
      intro other same
      split at same <;> cases same
      assumption
    have calm : (if service.isClear then Network.clear service else .idle).coming
        now.callbackEvent = none := by
      cases service.isClear <;> rfl
    split at stepped
    next unset =>
      cases stepped
      refine ⟨⟨steady.running, steady.chatLog, steady.refreshRoom, clears⟩, ?_, rfl, rfl, rfl⟩
      have coming : now.coming = none := by
        simp only [coming, executing, Network.coming, callbackEvent, unset, Option.map_none]
      rw [upcoming, upcoming, coming]
      exact congrArg (now.posted.map Posted.event ++ Option.toList ·) calm
    next callback set =>
      cases stepped
      refine ⟨⟨steady.running, steady.chatLog, steady.refreshRoom, clears⟩, ?_, rfl, rfl, rfl⟩
      have coming : now.coming = some callback.event := by
        simp only [coming, executing, Network.coming, callbackEvent, set, Option.map_some]
      rw [upcoming, upcoming, coming]
      simp only [post, List.map_append, List.append_assoc]
      refine congrArg (now.posted.map Posted.event ++ ·) ?_
      exact congrArg ([callback.event] ++ Option.toList ·) calm
  next service clearing =>
    cases stepped
    have clear := steady.clears service clearing
    have kept : ∀ other, other.isClear = false →
        (now.setCallback service none).callbackEvent other = now.callbackEvent other := by
      intro other unclear
      have different : other ≠ service := by
        rintro rfl
        simp [clear] at unclear
      simp [callbackEvent, setCallback, different]
    refine ⟨⟨steady.running, (kept _ rfl).trans steady.chatLog,
      (kept _ rfl).trans steady.refreshRoom, fun _ => nofun⟩, ?_, ?_, rfl, rfl⟩
    · simp [upcoming, coming, clearing, setCallback, Network.coming]
    · funext other
      by_cases same : other = service
      · subst same
        simp [stored, setCallback]
      · simp [stored, setCallback, same]

theorem coming_setQueue (self : MainDialog) (service : Service)
    (queue : List (Response service.Data)) : (self.setQueue service queue).coming = self.coming :=
  congrArg self.network.coming (funext fun other => callbackEvent_setQueue self service other queue)

theorem pop_keeps (steady : now.Steady) (service : Service) :
    (now.pop service).Steady ∧ (now.pop service).upcoming = now.upcoming ∧
      (now.pop service).stored = Function.update now.stored service (now.stored service).tail := by
  have completion := callbackEvent_setQueue now service
  refine ⟨⟨steady.running, (completion _ _).trans steady.chatLog,
    (completion _ _).trans steady.refreshRoom, steady.clears⟩, ?_, ?_⟩
  · exact congrArg (now.posted.map Posted.event ++ Option.toList ·) (coming_setQueue now service _)
  · funext other
    refine (stored_setQueue now service other _).trans ?_
    rw [List.map_tail]
    rfl

theorem resume_keeps (steady : now.Steady) (stepped : step .resume now = some next) :
    next.Steady ∧ next.upcoming = now.upcoming ∧ next.roomPage = now.roomPage := by
  obtain ⟨_, stepped⟩ := Option.ite_none_left_eq_some.mp stepped
  simp only [resume] at stepped
  split at stepped <;> cases stepped
  · exact ⟨⟨steady.running, steady.chatLog, steady.refreshRoom, steady.clears⟩, rfl, rfl⟩
  · exact ⟨⟨steady.running, steady.chatLog, steady.refreshRoom, steady.clears⟩, rfl, rfl⟩
  next service _ _ _ =>
    obtain ⟨⟨running, chatLog, refreshRoom, clears⟩, upcoming, _⟩ := pop_keeps steady service
    exact ⟨⟨running, chatLog, refreshRoom, clears⟩, upcoming, rfl⟩

theorem Backlog.keeps {ahead : List UIEvent} {late : List Message}
    (backlog : now.Backlog user ahead late) (keeps : now.Keeps next) :
    next.Backlog user ahead late where
  steady := keeps.steady
  known := by
    rw [front_eq, keeps.stored, ← front_eq]
    exact backlog.known
  frames := keeps.frames.trans backlog.frames
  upcoming := keeps.upcoming.trans backlog.upcoming
  chatLogs := (congrFun keeps.stored _).trans backlog.chatLogs
  refreshRooms := (congrFun keeps.stored _).trans backlog.refreshRooms
  traffic := backlog.traffic

theorem Stores.congr (stores : now.Stores ack)
    (creates : next.stored .createRoom = now.stored .createRoom)
    (joins : next.stored .joinRoom = now.stored .joinRoom) : next.Stores ack := by
  cases ack <;> simp_all [Stores]

theorem Backlog.receive {late : List Message} {packet : Message}
    (backlog : now.Backlog user ahead late) (traffic : packet.isTraffic = true)
    (stepped : step (.receive packet) now = some next) :
    next.Backlog user ahead (late ++ [packet]) ∧ next.stored .createRoom = now.stored .createRoom ∧
      next.stored .joinRoom = now.stored .joinRoom ∧ next.roomPage = now.roomPage := by
  have all : ∀ other ∈ late ++ [packet], other.isTraffic = true := by
    intro other member
    rcases List.mem_append.mp member with member | member
    · exact backlog.traffic other member
    · exact List.mem_singleton.mp member ▸ traffic
  have known := (front_eq now .auth).symm.trans backlog.known
  cases packet with
  | sChatLog id log =>
      obtain ⟨steady, upcoming, stored, frames, page⟩ := receive_stores backlog.steady rfl stepped
      refine ⟨⟨steady, ?_, frames.trans backlog.frames, ?_, ?_, ?_, all⟩, ?_, ?_, page⟩
      · simpa [front_eq, stored] using known
      · simp [upcoming, backlog.upcoming, backlog.steady.chatLog, trafficEvent]
      all_goals simp [stored, backlog.chatLogs, backlog.refreshRooms, chatData, refreshData]
  | sRefreshRoom userIds =>
      obtain ⟨steady, upcoming, stored, frames, page⟩ := receive_stores backlog.steady rfl stepped
      refine ⟨⟨steady, ?_, frames.trans backlog.frames, ?_, ?_, ?_, all⟩, ?_, ?_, page⟩
      · simpa [front_eq, stored] using known
      · simp [upcoming, backlog.upcoming, backlog.steady.refreshRoom, trafficEvent]
      all_goals simp [stored, backlog.chatLogs, backlog.refreshRooms, chatData, refreshData]
  | _ => contradiction

/-- The answer arrives. -/
theorem Stage.receive_ack {ack : Message} (idle : client.Idle user) (isEntry : ack.entry ≠ none)
    (awaits : client.Awaits ack) (stepped : step (.receive ack) client = some next) :
    Stage user client [ack] next := by
  have known := (front_eq client .auth).symm.trans idle.known
  have silent : client.upcoming = [] := by
    simp [upcoming, coming, idle.posted, idle.network, Network.coming]
  have empty : ∀ service ∈ [Service.createRoom, .joinRoom, .chatLog, .refreshRoom],
      client.stored service = [] :=
    fun service member => congrArg (List.map Response.data) (idle.stored service member)
  simp only [List.forall_mem_cons] at empty
  cases ack with
  | sCreateRoom isSuccess roomName =>
      have set : client.callbackEvent .createRoom = _ := awaits
      obtain ⟨steady, upcoming, stored, frames, page⟩ := receive_stores idle.steady rfl stepped
      refine .announced ⟨steady, ?_, frames.trans idle.frames, ?_, ?_, ?_, by simp⟩ ?_ ⟨?_, ?_⟩
      · simpa [front_eq, stored] using known
      all_goals simp [upcoming, silent, set, stored, empty, Stores, page,
        idle.chatLines, lobbyEvent]
  | sJoinRoom isSuccess roomName userIds =>
      have set : client.callbackEvent .joinRoom = _ := awaits
      obtain ⟨steady, upcoming, stored, frames, page⟩ := receive_stores idle.steady rfl stepped
      refine .announced ⟨steady, ?_, frames.trans idle.frames, ?_, ?_, ?_, by simp⟩ ?_ ⟨?_, ?_⟩
      · simpa [front_eq, stored] using known
      all_goals simp [upcoming, silent, set, stored, empty, Stores, page,
        idle.chatLines, lobbyEvent]
  | _ => exact absurd rfl isEntry

/-- Traffic arrives, behind an answer that the lobby page has executed. -/
theorem Stage.receive_traffic {packet : Message} (stage : Stage user client (ack :: received) now)
    (verdict : ack.entry = some true) (traffic : packet.isTraffic = true)
    (prompt : Prompt (.receive packet) now) (stepped : step (.receive packet) now = some next) :
    Stage user client (ack :: received ++ [packet]) next := by
  cases stage with
  | announced backlog stores =>
      -- the callback of the answer has returned, so the event of the lobby page is still posted
      have idle : now.coming = none := by
        obtain ⟨_, stepped⟩ := Option.ite_none_left_eq_some.mp stepped
        simp only [receive] at stepped
        split at stepped <;> cases stepped
        next idle _ => simp only [coming, idle, Network.coming]
      have posted := backlog.upcoming
      simp only [upcoming, idle, Option.toList_none, List.append_nil, List.filterMap_nil] at posted
      obtain ⟨event, only, named⟩ := List.map_eq_singleton_iff.mp posted
      have executed := prompt traffic event (only ▸ List.mem_singleton_self _)
      rw [named] at executed
      cases ack <;> simp [lobbyEvent] at executed verdict
  | refused refusal =>
      rw [verdict] at refusal
      contradiction
  | admitted _ backlog stores =>
      obtain ⟨backlog, creates, joins, _⟩ := backlog.receive traffic stepped
      exact .admitted verdict backlog (stores.congr creates joins)
  | @shown _ early late _ _ backlog page =>
      obtain ⟨backlog, _, _, same⟩ := backlog.receive traffic stepped
      rw [← same] at page
      have all : ack :: (early ++ late) ++ [packet] = ack :: (early ++ (late ++ [packet])) := by
        simp
      rw [all]
      exact .shown verdict backlog page

theorem dispatch_some (stepped : step .dispatch now = some next) :
    ∃ event response rest, now.posted = ⟨event, response⟩ :: rest ∧
      now.upcoming = event :: { now with posted := rest }.upcoming ∧
      next = { now with posted := rest }.execute ⟨event, response⟩ := by
  obtain ⟨_, stepped⟩ := Option.ite_none_left_eq_some.mp stepped
  obtain ⟨_, stepped⟩ := Option.ite_none_right_eq_some.mp stepped
  simp only [dispatch] at stepped
  split at stepped
  · contradiction
  next posted rest all =>
    cases stepped
    refine ⟨posted.event, posted.response, rest, all, ?_, rfl⟩
    rw [upcoming, all]
    rfl

theorem upcoming_post (silent : now.upcoming = []) :
    (now.post event response).upcoming = [event] := by
  obtain ⟨posted, coming⟩ := List.append_eq_nil_iff.mp silent
  have coming : (now.post event response).coming.toList = [] := coming
  rw [upcoming, coming, post, List.map_append, posted]
  rfl

/-- The lobby page hides and posts the event of the room page. -/
theorem Backlog.admit (service : Service) (lobbyPage : LobbyPage)
    (backlog : now.Backlog user [lobbyEvent ack] []) (stores : now.Stores ack)
    (verdict : ack.entry = some true) (silent : { now with posted := rest }.upcoming = []) :
    Stage user client [ack] ({ { now with posted := rest }.reading service response with
      lobbyPage }.post (roomEvent ack) response) := by
  obtain ⟨running, chatLog, refreshRoom, clears⟩ := backlog.steady
  exact .admitted verdict ⟨⟨running, chatLog, refreshRoom, clears⟩, backlog.known, backlog.frames,
    upcoming_post silent, backlog.chatLogs, backlog.refreshRooms, by simp⟩ stores

/-- The lobby page opens a message box. -/
theorem Backlog.refuse (service : Service) (backlog : now.Backlog user [lobbyEvent ack] [])
    (page : now.roomPage.users = client.roomPage.users ∧ now.roomPage.chatLines = [])
    (verdict : ack.entry = some false) (silent : { now with posted := rest }.upcoming = []) :
    Stage user client [ack]
      (({ now with posted := rest }.reading service response).messageBox text pops response) := by
  obtain ⟨running, chatLog, refreshRoom, clears⟩ := backlog.steady
  exact .refused verdict ⟨running, chatLog, refreshRoom, clears⟩ silent page

/-- The lobby page executes the answer. -/
theorem announced_dispatch (backlog : now.Backlog user [lobbyEvent ack] [])
    (stores : now.Stores ack)
    (page : now.roomPage.users = client.roomPage.users ∧ now.roomPage.chatLines = [])
    (stepped : step .dispatch now = some next) : Stage user client [ack] next := by
  obtain ⟨event, response, rest, _, upcoming, rfl⟩ := dispatch_some stepped
  obtain ⟨rfl, silent⟩ := List.cons.inj (backlog.upcoming.symm.trans upcoming)
  cases ack with
  | sCreateRoom isSuccess roomName =>
      have front : ({ now with posted := rest }.reading .createRoom response).front .createRoom =
          some ⟨isSuccess, roomName⟩ := (front_eq now .createRoom).trans (by rw [stores]; rfl)
      simp only [lobbyEvent, execute, LobbyHandler.onCreateRoomCompleted, front]
      cases isSuccess with
      | true => exact backlog.admit .createRoom _ stores rfl silent.symm
      | false => exact backlog.refuse .createRoom page rfl silent.symm
  | sJoinRoom isSuccess roomName userIds =>
      have front : ({ now with posted := rest }.reading .joinRoom response).front .joinRoom =
          some ⟨isSuccess, roomName, userIds⟩ :=
        (front_eq now .joinRoom).trans (by rw [stores]; rfl)
      simp only [lobbyEvent, execute, LobbyHandler.onJoinRoomCompleted, front]
      cases isSuccess with
      | true => exact backlog.admit .joinRoom _ stores rfl silent.symm
      | false => exact backlog.refuse .joinRoom page rfl silent.symm
  | _ => exact stores.elim

/-- A handler takes the data of its service and sets the room page. -/
theorem Backlog.take {late : List Message} (response : Option RequestNumber) (service : Service)
    (roomPage : RoomPage) (backlog : now.Backlog user ahead before) (other : service ≠ .auth)
    (upcoming : now.upcoming = event :: { now with posted := rest }.upcoming)
    (following : ahead ++ before.filterMap trafficEvent = event :: late.filterMap trafficEvent)
    (chatLogs : Function.update now.stored service (now.stored service).tail .chatLog =
      late.filterMap chatData)
    (refreshRooms : Function.update now.stored service (now.stored service).tail .refreshRoom =
      late.filterMap refreshData) (traffic : ∀ packet ∈ late, packet.isTraffic = true) :
    { ({ now with posted := rest }.reading service response).pop service with
      roomPage }.Backlog user [] late := by
  have same : { now with posted := rest }.Steady :=
    ⟨backlog.steady.running, backlog.steady.chatLog, backlog.steady.refreshRoom,
      backlog.steady.clears⟩
  obtain ⟨⟨running, chatLog, refreshRoom, clears⟩, popped, stored⟩ := pop_keeps same service
  refine ⟨⟨running, chatLog, refreshRoom, clears⟩, ?_, backlog.frames, ?_, ?_, ?_, traffic⟩
  · refine (front_eq _ _).trans ((congrArg List.head? (congrFun stored .auth)).trans ?_)
    rw [Function.update_of_ne other.symm]
    exact (front_eq now .auth).symm.trans backlog.known
  · exact popped.trans (List.cons.inj (upcoming.symm.trans (backlog.upcoming.trans following))).2
  · exact (congrFun stored _).trans chatLogs
  · exact (congrFun stored _).trans refreshRooms

/-- The room page executes the answer and shows an empty room. -/
theorem admitted_dispatch {ack : Message} (verdict : ack.entry = some true)
    (backlog : now.Backlog user [roomEvent ack] late) (stores : now.Stores ack)
    (stepped : step .dispatch now = some next) : Stage user client (ack :: late) next := by
  obtain ⟨event, response, rest, _, upcoming, rfl⟩ := dispatch_some stepped
  obtain ⟨rfl, _⟩ := List.cons.inj (backlog.upcoming.symm.trans upcoming)
  show Stage user client (_ :: ([] ++ late)) _
  cases ack with
  | sCreateRoom isSuccess roomName =>
      cases verdict
      have taken := fun roomPage => backlog.take response .createRoom roomPage
        (by simp) upcoming rfl backlog.chatLogs backlog.refreshRooms backlog.traffic
      simp only [roomEvent, execute, RoomHandler.onCreateRoomCompleted]
      split
      next missing => cases missing.symm.trans (taken _).known
      next found =>
        cases found.symm.trans (taken _).known
        exact .shown rfl (taken _) ⟨rfl, rfl⟩
  | sJoinRoom isSuccess roomName userIds =>
      cases verdict
      have front : now.front .joinRoom = some ⟨true, roomName, userIds⟩ :=
        (front_eq now .joinRoom).trans (by rw [stores]; rfl)
      refine .shown rfl (backlog.take response .joinRoom _ (by simp) upcoming rfl
        backlog.chatLogs backlog.refreshRooms backlog.traffic) ⟨?_, rfl⟩
      exact congrArg (fun found => (found.getD default).userIds) front
  | _ => contradiction

/-- The room page shows the next packet of the traffic. -/
theorem shown_dispatch {ack : Message} (verdict : ack.entry = some true)
    (backlog : now.Backlog user [] late)
    (page : now.roomPage.users = usersAfter user.id client.roomPage.users (ack :: early) ∧
      now.roomPage.chatLines = early.filterMap line) (stepped : step .dispatch now = some next) :
    Stage user client (ack :: (early ++ late)) next := by
  obtain ⟨event, response, rest, _, upcoming, rfl⟩ := dispatch_some stepped
  cases late with
  | nil => cases backlog.upcoming.symm.trans upcoming
  | cons packet late =>
      have traffic : ∀ other ∈ late, other.isTraffic = true := fun other member =>
        backlog.traffic other (List.mem_cons_of_mem _ member)
      have isTraffic := backlog.traffic packet List.mem_cons_self
      have chatLogs := backlog.chatLogs
      have refreshRooms := backlog.refreshRooms
      rw [List.append_cons]
      cases packet with
      | sChatLog id log =>
          obtain ⟨rfl, _⟩ := List.cons.inj (backlog.upcoming.symm.trans upcoming)
          have front : { now with posted := rest }.front .chatLog = some ⟨id, log⟩ :=
            (front_eq now .chatLog).trans (by rw [chatLogs]; rfl)
          simp only [execute, RoomHandler.onSendChatCompleted, front]
          refine .shown verdict (backlog.take response .chatLog _ (by simp) upcoming rfl
            (congrArg List.tail chatLogs) refreshRooms traffic) ⟨?_, ?_⟩
          · rw [← List.cons_append, usersAfter_concat]
            exact page.1
          · simp [page.2, line]
      | sRefreshRoom userIds =>
          obtain ⟨rfl, _⟩ := List.cons.inj (backlog.upcoming.symm.trans upcoming)
          have front : now.front .refreshRoom = some userIds :=
            (front_eq now .refreshRoom).trans (by rw [refreshRooms]; rfl)
          refine .shown verdict (backlog.take response .refreshRoom _ (by simp)
            upcoming rfl chatLogs (congrArg List.tail refreshRooms) traffic) ⟨?_, ?_⟩
          · rw [← List.cons_append, usersAfter_concat]
            exact congrArg (Option.getD · []) front
          · exact page.2.trans (by simp [line])
      | _ => contradiction

theorem Stage.dispatch (idle : client.Idle user) (stage : Stage user client received now)
    (stepped : step .dispatch now = some next) : Stage user client received next := by
  cases stage with
  | waiting =>
      obtain ⟨_, _, _, posted, _⟩ := dispatch_some stepped
      cases idle.posted.symm.trans posted
  | announced backlog stores page => exact announced_dispatch backlog stores page stepped
  | refused _ _ executed _ =>
      obtain ⟨_, _, _, _, upcoming, _⟩ := dispatch_some stepped
      cases executed.symm.trans upcoming
  | admitted verdict backlog stores => exact admitted_dispatch verdict backlog stores stepped
  | shown verdict backlog page => exact shown_dispatch verdict backlog page stepped

/-- The callback of a packet runs. -/
theorem Stage.network (idle : client.Idle user) (stage : Stage user client received now)
    (stepped : step .network now = some next) : Stage user client received next := by
  cases stage with
  | waiting => simp [step, executeCallback, idle.network] at stepped
  | announced backlog stores page =>
      have keeps := network_keeps backlog.steady stepped
      exact .announced (backlog.keeps keeps)
        (stores.congr (congrFun keeps.stored _) (congrFun keeps.stored _)) (keeps.roomPage ▸ page)
  | refused verdict steady executed page =>
      have keeps := network_keeps steady stepped
      exact .refused verdict keeps.steady (keeps.upcoming.trans executed) (keeps.roomPage ▸ page)
  | admitted verdict backlog stores =>
      have keeps := network_keeps backlog.steady stepped
      exact .admitted verdict (backlog.keeps keeps)
        (stores.congr (congrFun keeps.stored _) (congrFun keeps.stored _))
  | shown verdict backlog page =>
      have keeps := network_keeps backlog.steady stepped
      exact .shown verdict (backlog.keeps keeps) (keeps.roomPage ▸ page)

/-- The user closes the message box of a refusal. -/
theorem Stage.resume (idle : client.Idle user) (stage : Stage user client received now)
    (stepped : step .resume now = some next) : Stage user client received next := by
  have stuck : now.frames ≠ [] := by
    intro none
    simp [step, MainDialog.resume, none] at stepped
  cases stage with
  | waiting => exact absurd idle.frames stuck
  | announced backlog | admitted _ backlog | shown _ backlog => exact absurd backlog.frames stuck
  | refused verdict steady executed page =>
      obtain ⟨steady, upcoming, same⟩ := resume_keeps steady stepped
      exact .refused verdict steady (upcoming.trans executed) (same ▸ page)

section Receiving

variable {server : ServerState} {me : Nat} {task : Task} {packets : List Message}

theorem Stage.receive (answers : server.Answers me task packets) (idle : client.Idle user)
    (awaits : ∀ ack ∈ packets, ack.entry ≠ none → client.Awaits ack)
    (stage : Stage user client received now) (sent : received ++ [message] <+: packets)
    (prompt : Prompt (.receive message) now) (stepped : step (.receive message) now = some next) :
    Stage user client (received ++ [message]) next := by
  obtain ⟨later, sent⟩ := sent
  cases received with
  | nil =>
      cases stage
      have isEntry : message.entry ≠ none := by
        cases answers with
        | waits => simp at sent
        | refused verdict | accepted verdict =>
            cases sent
            simp [verdict]
      exact receive_ack idle isEntry (awaits message (by simp [← sent]) isEntry) stepped
  | cons ack received =>
      cases answers with
      | waits => simp at sent
      | refused => simp at sent
      | accepted verdict traffic =>
          obtain ⟨rfl, rest⟩ := List.cons.inj sent
          exact stage.receive_traffic verdict (traffic message (by simp [← rest])) prompt stepped

theorem run_stage (answers : server.Answers me task packets) (idle : client.Idle user)
    (awaits : ∀ ack ∈ packets, ack.entry ≠ none → client.Awaits ack)
    (stage : Stage user client received now) (sent : received ++ receives events <+: packets)
    (prompt : system.Guarded Prompt events now) (ran : system.run events now = some final) :
    Stage user client (received ++ receives events) final := by
  induction events generalizing now received with
  | nil =>
      cases ran
      simpa [receives] using stage
  | cons event rest ih =>
      obtain ⟨next, stepped, remaining⟩ := System.run_cons_some.mp ran
      have prompts := prompt.2 _ stepped
      cases event with
      | click => exact prompt.1.elim
      | receive message =>
          have same : received ++ receives (.receive message :: rest) =
              received ++ [message] ++ receives rest := by
            simp [receives]
          rw [same] at sent ⊢
          have first : received ++ [message] <+: packets := (List.prefix_append _ _).trans sent
          exact ih (stage.receive answers idle awaits first prompt.1 stepped) sent prompts remaining
      | dispatch => exact ih (stage.dispatch idle stepped) sent prompts remaining
      | resume => exact ih (stage.resume idle stepped) sent prompts remaining
      | network => exact ih (stage.network idle stepped) sent prompts remaining

/-- Once every packet is handled and every event executed the page shows all it has
received. -/
theorem Stage.page (idle : client.Idle user) (stage : Stage user client received now)
    (executed : now.upcoming = []) : now.roomPage.chatLines = received.filterMap line ∧
      now.roomPage.users = usersAfter user.id client.roomPage.users received := by
  cases stage with
  | waiting => exact ⟨idle.chatLines, rfl⟩
  | announced backlog | admitted _ backlog => cases executed.symm.trans backlog.upcoming
  | @refused ack _ verdict _ _ page =>
      have noLine : line ack = none := by cases ack <;> first | rfl | contradiction
      have noUsers : userList user.id ack = none := by
        cases ack <;> simp_all [Message.entry, userList]
      refine ⟨?_, ?_⟩
      · simp [page.2, noLine]
      · simp [page.1, usersAfter, noUsers]
  | @shown ack early late _ verdict backlog page =>
      have noLine : line ack = none := by cases ack <;> first | rfl | contradiction
      have none : late = [] := by
        cases late with
        | nil => rfl
        | cons packet late =>
            have traffic := backlog.traffic packet List.mem_cons_self
            have upcoming := executed.symm.trans backlog.upcoming
            cases packet <;> contradiction
      subst none
      refine ⟨?_, ?_⟩
      · simp [page.2, noLine]
      · simpa using page.1

theorem Stage.running (idle : client.Idle user) (stage : Stage user client received now) :
    now.crashed = false := by
  cases stage with
  | waiting => exact idle.steady.running
  | announced backlog | admitted _ backlog | shown _ backlog => exact backlog.steady.running
  | refused _ steady => exact steady.running

/-- The threads go on as long as a packet is not handled or an event not executed. -/
theorem Stage.enabled (idle : client.Idle user) (stage : Stage user client received now) :
    (now.posted ≠ [] → ∃ next, step .dispatch now = some next) ∧
      (now.network ≠ .idle → ∃ next, step .network now = some next) := by
  have running := stage.running idle
  refine ⟨?_, ?_⟩
  · intro unexecuted
    have frames : now.frames = [] := by
      cases stage with
      | waiting => exact idle.frames
      | announced backlog | admitted _ backlog | shown _ backlog => exact backlog.frames
      | refused _ _ executed =>
          exact absurd (List.map_eq_nil_iff.mp (List.append_eq_nil_iff.mp executed).1) unexecuted
    obtain ⟨posted, rest, all⟩ := List.exists_cons_of_ne_nil unexecuted
    refine ⟨{ now with posted := rest }.execute posted, ?_⟩
    rw [step, if_neg (by simp [running])]
    simp only [pumping, frames, if_true, MainDialog.dispatch, all]
  · intro busy
    simp only [step, running, executeCallback, Bool.false_eq_true, if_false]
    split
    · contradiction
    · split <;> exact ⟨_, rfl⟩
    · exact ⟨_, rfl⟩

end Receiving

end MainDialog

open ServerState in
/-- From the request of a session on, while others send and leave.  Its packets begin
with the acknowledgement exactly when no broadcast is early, and then a client that
handles them promptly shows all the chat lines and the last list of users. -/
theorem entry_acknowledged_first {collate : String → String} {start after : ServerState}
    {me : Nat} {request : Message} {task : Task} {events : List ServerEvent}
    (idle : ∀ process ∈ start.processes, process.session = me → process.task = .done)
    (connected : start.isConnected me = true) (outside : ¬ start.tables.HasUser me)
    (handles : handler request = some task) (entering : task.entering = true)
    (others : ∀ event ∈ events, event.Others me)
    (ran : (ServerState.system collate).run (.request me request :: events) start = some after) :
    ∃ packets, after.outbox me = start.outbox me ++ packets ∧
      (AckFirst packets ↔ (ServerState.system collate).Guarded
        (fun event server => ¬ Early me start.processes.length event server) events
          (start.spawn me task)) ∧
      (AckFirst packets →
        ∀ (user : MainDialog.AuthData) (client final : MainDialog)
          (clientEvents : List MainDialog.Event),
        client.Idle user → (∀ ack ∈ packets, ack.entry ≠ none → client.Awaits ack) →
        receives clientEvents <+: packets →
          MainDialog.system.Guarded MainDialog.Prompt clientEvents client →
        MainDialog.system.run clientEvents client = some final →
        final.crashed = false ∧ (final.posted ≠ [] → ∃ next, MainDialog.step .dispatch final =
          some next) ∧
        (final.network ≠ .idle → ∃ next, MainDialog.step .network final = some next) ∧
        (final.posted = [] → final.network = .idle →
          final.roomPage.chatLines = (receives clientEvents).filterMap line ∧
          final.roomPage.users = usersAfter user.id client.roomPage.users
            (receives clientEvents))) := by
  obtain ⟨started, requested, ran⟩ := System.run_cons_some.mp ran
  obtain ⟨rfl, _⟩ := step_request handles requested
  obtain ⟨packets, sent, iff, answered⟩ := ackFirst_iff idle connected outside entering others ran
  refine ⟨packets, sent, iff, ?_⟩
  intro ackFirst user client final clientEvents quiet awaits received prompt clientRan
  obtain ⟨task, answers⟩ := answered ackFirst
  have stage := MainDialog.run_stage answers quiet awaits .waiting received prompt clientRan
  refine ⟨stage.running quiet, (stage.enabled quiet).1, (stage.enabled quiet).2, ?_⟩
  intro executed handled
  exact stage.page quiet (by simp [MainDialog.upcoming, MainDialog.coming, executed, handled,
    MainDialog.Network.coming])

/-- Two users register, and the first one creates a room. -/
def roomForTwo : List ServerEvent :=
  [.connect, .connect] ++ handled 0 (.cRegister "a" "p") 0 2 ++
    handled 1 (.cRegister "b" "p") 1 2 ++ handled 0 (.cCreateRoom "a" "r") 2 9

/-- The second user logs in, sees the room and asks to join it. -/
def joining : List MainDialog.Event :=
  [.click (.login "b" "p"), .dispatch, .resume, .receive (.sLogin true "b" "p"), .network,
    .network, .dispatch, .dispatch, .resume, .receive (.sRefreshLobby true ["r"] [1]), .network,
    .network, .dispatch, .click (.joinRoom 0), .dispatch, .resume]

/-- The user of a room speaks before and after a second one joins. -/
theorem entry_acknowledged_first_two_users :
    let first := roomForTwo ++ handled 0 (.cChatLog "a" "r" "first") 3 3
    let second := runs 4 7 ++ .run 3 :: runs 4 3 ++ handled 0 (.cChatLog "a" "r" "hi") 5 4
    let clientEvents : List MainDialog.Event :=
      [.receive (.sJoinRoom true "r" ["a", "b"]), .network, .dispatch,
      .network, .receive (.sChatLog "a" "hi"), .dispatch, .network, .dispatch]
    ∃ start after client final, (ServerState.system id).run first .fresh = some start ∧
      (ServerState.system id).run (.request 1 (.cJoinRoom "b" "r") :: second) start = some after ∧
      after.outbox 1 = start.outbox 1 ++ receives clientEvents ∧
      MainDialog.system.run joining .start = some client ∧
      client.sent.getLast? = some (.cJoinRoom "b" "r") ∧
      MainDialog.system.run clientEvents client = some final ∧
      final.roomPage.chatLines = ["a : hi"] ∧ final.roomPage.users = ["a", "b"] := by
  intro first second clientEvents
  obtain ⟨start, after, reached, idle, connected, outside, ran, sent⟩ : ∃ start after,
      (ServerState.system id).run first .fresh = some start ∧
      (∀ process ∈ start.processes, process.session = 1 → process.task = .done) ∧
      start.isConnected 1 = true ∧
      ¬ start.tables.HasUser 1 ∧
      (ServerState.system id).run (.request 1 (.cJoinRoom "b" "r") :: second) start = some after ∧
      after.outbox 1 = start.outbox 1 ++ receives clientEvents :=
    ⟨_, _, rfl, by decide +kernel, by decide +kernel, by decide +kernel, rfl, by decide +kernel⟩
  obtain ⟨client, final, logged, last, quiet, awaits, prompt, clientRan, executed, handled⟩ :
      ∃ client final, MainDialog.system.run joining .start = some client ∧
      client.sent.getLast? = some (.cJoinRoom "b" "r") ∧ client.Idle ⟨true, "b", "p"⟩ ∧
      client.Awaits (.sJoinRoom true "r" ["a", "b"]) ∧
      MainDialog.system.Guarded MainDialog.Prompt clientEvents client ∧
      MainDialog.system.run clientEvents client = some final ∧ final.posted = [] ∧
          final.network = .idle := by
    refine ⟨_, _, rfl, rfl, ⟨⟨rfl, rfl, rfl, fun _ => nofun⟩, rfl, rfl, rfl, rfl, by decide, rfl⟩,
      rfl, by decide +kernel, rfl, rfl, rfl⟩
  obtain ⟨packets, queue, _, shows⟩ :=
    entry_acknowledged_first idle connected outside rfl rfl
      (by simp [second, Server.handled, runs, ServerEvent.Others]) ran
  have all : packets = receives clientEvents := List.append_cancel_left (queue.symm.trans sent)
  have answers : start.Answers 1 .done (receives clientEvents) :=
    .accepted rfl (by simp [Message.isTraffic])
  have awaited : ∀ ack ∈ packets, ack.entry ≠ none → client.Awaits ack := by
    rw [all]
    intro ack member isEntry
    rcases List.mem_pair.mp member with rfl | rfl
    · exact awaits
    · exact absurd rfl isEntry
  obtain ⟨_, _, _, shown⟩ := shows (all ▸ answers.ackFirst) _ client final
    clientEvents quiet awaited (all ▸ List.prefix_rfl) prompt clientRan
  obtain ⟨lines, users⟩ := shown executed handled
  exact ⟨start, after, client, final, reached, ran, sent, logged, last, clientRan, lines, users⟩

/-- The first user speaks between `AddUser` and the reply to the second: the page of the
second clears the line when the acknowledgement is executed.  The line is lost also
behind the acknowledgement, when it arrives before the lobby page has executed this. -/
theorem chat_before_acknowledgement :
    let chat : List MainDialog.Event := [.receive (.sChatLog "a" "hi"), .network]
    let answer : List MainDialog.Event :=
      [.receive (.sJoinRoom true "r" ["a", "b"]), .network, .network]
    (∃ start after final, (ServerState.system id).run roomForTwo .fresh = some start ∧
      start.Quiescent ∧ ¬ start.tables.HasUser 1 ∧
      (ServerState.system id).run (handled 1 (.cJoinRoom "b" "r") 3 8 ++
        handled 0 (.cChatLog "a" "r" "hi") 4 4 ++ runs 3 2) start = some after ∧
      after.outbox 1 = start.outbox 1 ++ [.sChatLog "a" "hi", .sJoinRoom true "r" ["a", "b"]] ∧
      ¬ AckFirst [.sChatLog "a" "hi", .sJoinRoom true "r" ["a", "b"]] ∧
      MainDialog.system.run (joining ++ chat ++ .dispatch :: answer ++ [.dispatch, .dispatch])
      .start = some final ∧
      final.posted = [] ∧ final.network = .idle ∧ final.roomPage.chatLines = []) ∧
    ∃ final, MainDialog.system.run (joining ++ answer ++ chat ++ [.dispatch, .dispatch, .dispatch])
      .start = some final ∧ final.posted = [] ∧ final.network = .idle ∧
      final.roomPage.chatLines = [] := by
  refine ⟨⟨_, _, _, rfl, by decide +kernel, by decide +kernel, rfl, by decide +kernel, ?_,
    rfl, rfl, rfl, rfl⟩, _, rfl, rfl, rfl, rfl⟩
  intro ackFirst
  obtain ⟨_, none, _⟩ := ackFirst [] (.sChatLog "a" "hi") _ rfl rfl
  simp at none

end ChattingProgram.Client
