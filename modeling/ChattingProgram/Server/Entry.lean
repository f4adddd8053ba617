import ChattingProgram.Server.Posts
import ChattingProgram.Server.Tables

namespace ChattingProgram.Protocol.Message

/-! # The acknowledgement of an entry

A session that creates or joins a room is a user of it before its handler has
sent the reply, so a `BroadCast` of the room may reach it first.
-/

/-- Whether an answer to `C_JOIN_ROOM` or `C_CREATE_ROOM` lets the client in. -/
def entry : Message → Option Bool
  | .sJoinRoom isSuccess _ _ | .sCreateRoom isSuccess _ => some isSuccess
  | _ => none

/-- What `BroadCast` sends. -/
def isTraffic : Message → Bool
  | .sChatLog _ _ | .sRefreshRoom _ => true
  | _ => false

end ChattingProgram.Protocol.Message

namespace ChattingProgram.Server

open ChattingProgram.Protocol ChattingProgram.Machine

/-- A successful acknowledgement comes before all traffic. -/
def AckFirst (packets : List Message) : Prop :=
  ∀ before message after, packets = before ++ message :: after → message.isTraffic = true →
    ∃ ack ∈ before, ack.entry = some true

/-- The room whose `BroadCast` is the next step of a handler. -/
def Task.broadcasting : Task → Option Nat
  | .joinRoom _ _ (.broadcast room _) | .chatLog _ _ (.broadcast room) => some room
  | .roomOut _ (.remove room (.broadcast userIds))
  | .onDisconnected (.remove room (.broadcast userIds)) =>
      if userIds.isEmpty then none else some room
  | _ => none

/-- A handler of `C_CREATE_ROOM` or `C_JOIN_ROOM`. -/
def Task.entering : Task → Bool
  | .createRoom .. | .joinRoom .. => true
  | _ => false

/-- A handler that has made its session a user of a room. -/
def Task.entered : Task → Bool
  | .createRoom _ _ (.fetchAdd _) | .createRoom _ _ (.setRoom _) | .createRoom _ _ (.addRoom _) =>
      true
  | .createRoom _ _ (.reply canCreate) => canCreate
  | .joinRoom _ _ (.broadcast _ _) => true
  | .joinRoom _ _ (.reply _ canJoin _) => canJoin
  | _ => false

/-- The next step makes the session a user of a room. -/
def Task.enrols : Task → Bool
  | .createRoom _ _ (.makeRoom _) | .joinRoom _ _ (.addUser _ _) => true
  | _ => false

def Room.HasUser (room : Room) (session : Nat) : Prop := ∃ entry ∈ room.users.entries,
  entry.2 = session

instance (room : Room) (session : Nat) : Decidable (room.HasUser session) :=
  inferInstanceAs (Decidable (∃ entry ∈ room.users.entries, entry.2 = session))

def Tables.HasUser (tables : Tables) (session : Nat) : Prop := ∃ room ∈ tables.rooms,
  room.HasUser session

instance (tables : Tables) (session : Nat) : Decidable (tables.HasUser session) :=
  inferInstanceAs (Decidable (∃ room ∈ tables.rooms, room.HasUser session))

/-- The events of others than the session, and the steps of all handlers. -/
def ServerEvent.Others (session : Nat) : ServerEvent → Prop
  | .request other _ | .disconnect other => other ≠ session
  | .connect | .run _ => True

section Users

variable {collate : String → String} {tables after : Tables} {session : Nat}

theorem hasUser_of_set {rooms : List Room} (object : rooms[room]? = some current)
    (has : ∃ other ∈ rooms.set room next, other.HasUser session)
    (fewer : next.HasUser session → current.HasUser session) :
    ∃ other ∈ rooms, other.HasUser session := by
  obtain ⟨other, member, uses⟩ := has
  rcases mem_set_cases member with rfl | ⟨_, _, still⟩
  · exact ⟨current, List.mem_of_getElem? object, fewer uses⟩
  · exact ⟨other, List.mem_of_getElem? still, uses⟩

theorem RemoveStep.hasUser {room : Nat}
    (rule : RemoveStep collate room userId tables pc goal after) (has : after.HasUser session) :
    tables.HasUser session := by
  cases rule with
  | updateRoom | keep | delete | select => exact has
  | updateAccount object | fetchSub object | destroy object | broadcast object
  | removeRoom object =>
      exact hasUser_of_set object has id
  | erase object =>
      refine hasUser_of_set object has ?_
      rintro ⟨entry, member, here⟩
      exact ⟨entry, (List.kerase_sublist _ _).subset member, here⟩

theorem OutStep.hasUser {id : String} (rule : OutStep collate id tables pc goal after)
    (has : after.HasUser session) : tables.HasUser session := by
  cases rule with
  | select | getRoom | reply => exact has
  | remove rule => exact rule.hasUser has

theorem CreateStep.hasUser {user : Nat} {id : String}
    (rule : CreateStep collate user id roomName tables pc goal after)
    (has : after.HasUser session) :
    tables.HasUser session ∨ user = session ∧ (Task.createRoom id roomName pc).enrols = true := by
  cases rule with
  | refuse | accept | insert | selectId | updateAccount | setRoom | addRoom | reply =>
      exact .inl has
  | makeRoom =>
      obtain ⟨room, member, uses⟩ := has
      rw [List.mem_append, List.mem_singleton] at member
      rcases member with member | rfl
      · exact .inl ⟨room, member, uses⟩
      · obtain ⟨entry, member, here⟩ := uses
        simp only [AList.entries_insert, AList.empty_entries, List.kerase_nil,
          List.mem_singleton] at member
        exact .inr ⟨by rw [← here, member], rfl⟩
  | fetchAdd object => exact .inl (hasUser_of_set object has fun uses => uses)

theorem JoinStep.hasUser {user : Nat} {id : String}
    (rule : JoinStep collate user id roomName tables pc goal after) (has : after.HasUser session) :
    tables.HasUser session ∨ user = session ∧ (Task.joinRoom id roomName pc).enrols = true := by
  cases rule with
  | select | unknown | getRoom | unlisted | load | refuse | again | lost | updateAccount
  | updateRoom | selectMembers
  | miss | broadcast | reply => exact .inl has
  | cas object => exact .inl (hasUser_of_set object has fun uses => uses)
  | addUser object =>
      by_cases own : user = session
      · exact .inr ⟨own, rfl⟩
      · refine .inl (hasUser_of_set object has ?_)
        rintro ⟨entry, member, here⟩
        simp only [AList.entries_insert, List.mem_cons] at member
        rcases member with rfl | member
        · exact absurd here own
        · exact ⟨entry, (List.kerase_sublist _ _).subset member, here⟩

end Users

namespace ServerState

variable {collate : String → String} {self after : ServerState} {index session : Nat}

/-! ## What reaches a session -/

theorem mem_handed : message ∈ handed posts session ↔ (session, message) ∈ posts := by
  simp only [handed, List.mem_map, List.mem_filter, decide_eq_true_eq]
  constructor
  · rintro ⟨⟨_, _⟩, ⟨member, rfl⟩, rfl⟩
    exact member
  · intro member
    exact ⟨(session, message), ⟨member, rfl⟩, rfl⟩

theorem mem_broadcasts :
    (session, sent) ∈ self.broadcasts room message excluUser ↔
      sent = message ∧ excluUser ≠ some session ∧ ∃ current, self.rooms[room]? = some current ∧
        current.HasUser session := by
  simp only [broadcasts]
  cases object : self.rooms[room]? with
  | none => simp
  | some current =>
      simp only [List.mem_map, List.mem_filter, decide_eq_true_eq, Prod.mk.injEq, Option.some.injEq,
        exists_eq_left', Room.HasUser]
      constructor
      · rintro ⟨entry, ⟨member, included⟩, rfl, rfl⟩
        exact ⟨rfl, included, entry, Users.mem_inOrder.mp member, rfl⟩
      · rintro ⟨rfl, included, entry, member, rfl⟩
        exact ⟨entry, ⟨Users.mem_inOrder.mpr member, included⟩, rfl, rfl⟩

/-- The next step of the handler is a `BroadCast` that reaches the session. -/
def Reaches (self : ServerState) (task : Task) (session : Nat) : Prop :=
  ∃ room current, task.broadcasting = some room ∧ self.rooms[room]? = some current ∧
    current.HasUser session

/-- The handlers of others send nothing but traffic. -/
theorem Reaches.of_mem_posts {task : Task} (other : session ≠ me)
    (posted : (me, message) ∈ task.posts self session) :
    message.isTraffic = true ∧ self.Reaches task me := by
  have reply : ∀ {answer}, (me, message) ∈ [(session, answer)] → False := by
    intro answer member
    rw [List.mem_singleton, Prod.mk.injEq] at member
    exact other member.1.symm
  have removes : ∀ {room : Nat} {pc : RemovePc}, (me, message) ∈ pc.posts self room →
      ∃ userIds current, pc = .broadcast userIds ∧ userIds.isEmpty = false ∧
        message = .sRefreshRoom userIds ∧
        self.rooms[room]? = some current ∧ current.HasUser me := by
    intro room pc member
    cases pc with
    | broadcast userIds =>
        simp only [RemovePc.posts] at member
        split at member
        · simp at member
        · rename_i nonempty
          obtain ⟨same, _, current, object, has⟩ := mem_broadcasts.mp member
          exact ⟨userIds, current, rfl, by simpa using nonempty, same, object, has⟩
    | _ => simp [RemovePc.posts] at member
  cases task with
  | login id pssd pc =>
      cases pc <;> first | exact absurd posted List.not_mem_nil | exact (reply posted).elim
  | register id pssd pc =>
      cases pc <;> first | exact absurd posted List.not_mem_nil | exact (reply posted).elim
  | refreshLobby pc =>
      cases pc <;> first | exact absurd posted List.not_mem_nil | exact (reply posted).elim
  | createRoom id roomName pc =>
      cases pc <;> first | exact absurd posted List.not_mem_nil | exact (reply posted).elim
  | joinRoom id roomName pc =>
      cases pc with
      | broadcast room userIds =>
          obtain ⟨rfl, _, current, object, has⟩ := mem_broadcasts.mp posted
          exact ⟨rfl, room, current, rfl, object, has⟩
      | reply => exact (reply posted).elim
      | _ => exact absurd posted List.not_mem_nil
  | chatLog id log pc =>
      cases pc with
      | broadcast room =>
          obtain ⟨rfl, _, current, object, has⟩ := mem_broadcasts.mp posted
          exact ⟨rfl, room, current, rfl, object, has⟩
      | _ => exact absurd posted List.not_mem_nil
  | roomOut id pc =>
      cases pc with
      | remove room pc =>
          obtain ⟨userIds, current, rfl, nonempty, rfl, object, has⟩ := removes posted
          exact ⟨rfl, room, current, by simp [Task.broadcasting, nonempty], object, has⟩
      | reply => exact (reply posted).elim
      | _ => exact absurd posted List.not_mem_nil
  | onDisconnected pc =>
      cases pc with
      | remove room pc =>
          obtain ⟨userIds, current, rfl, nonempty, rfl, object, has⟩ := removes posted
          exact ⟨rfl, room, current, by simp [Task.broadcasting, nonempty], object, has⟩
      | _ => exact absurd posted List.not_mem_nil
  | done => exact absurd posted List.not_mem_nil

theorem Reaches.posted (reaches : self.Reaches task me) (other : session ≠ me) :
    ∃ message, (me, message) ∈ task.posts self session := by
  obtain ⟨room, current, broadcasting, object, has⟩ := reaches
  have removes : ∀ {place : Nat} {userIds : List String},
      (if userIds.isEmpty then none else some place) = some room →
      ∃ message, (me, message) ∈ RemovePc.posts self place (.broadcast userIds) := by
    intro place userIds here
    split at here
    · contradiction
    · rename_i nonempty
      cases here
      refine ⟨.sRefreshRoom userIds, ?_⟩
      simp only [RemovePc.posts, nonempty, Bool.false_eq_true, if_false]
      exact mem_broadcasts.mpr ⟨rfl, by simp, current, object, has⟩
  cases task with
  | joinRoom id roomName pc =>
      cases pc with
      | broadcast place userIds =>
          cases broadcasting
          exact ⟨_, mem_broadcasts.mpr ⟨rfl, by simpa using other, current, object, has⟩⟩
      | _ => contradiction
  | chatLog id log pc =>
      cases pc with
      | broadcast place =>
          cases broadcasting
          exact ⟨_, mem_broadcasts.mpr ⟨rfl, by simp, current, object, has⟩⟩
      | _ => contradiction
  | roomOut id pc =>
      cases pc with
      | remove place pc => cases pc with
        | broadcast userIds => exact removes broadcasting
        | _ => contradiction
      | _ => contradiction
  | onDisconnected pc =>
      cases pc with
      | remove place pc => cases pc with
        | broadcast userIds => exact removes broadcasting
        | _ => contradiction
      | _ => contradiction
  | _ => contradiction

/-! ## The steps of a handler -/

/-- A step that does not fail: the process goes on, and nobody but its session has
become a user of a room. -/
structure Moves (index session : Nat) (task next : Task) (before after : ServerState) : Prop where
  goes : Goes index session next before after
  users : ∀ {other}, after.tables.HasUser other →
    before.tables.HasUser other ∨ session = other ∧ task.enrols = true

theorem Moves.of_rooms (goes : Goes index session next self after)
    (rooms : after.rooms = self.rooms) : Moves index session task next self after where
  goes := goes
  users := by
    rintro other ⟨room, member, has⟩
    change room ∈ after.rooms at member
    rw [rooms] at member
    exact .inl ⟨room, member, has⟩

theorem Turn.moves (turn : Turn collate self session task next changed)
    (rooms : changed.rooms = self.rooms) :
    Moves index session task next self (changed.put index ⟨session, next⟩) :=
  .of_rooms turn.goes rooms

theorem advance_moves (stepped : self.advance collate index session task = some after) :
    (∃ cause, after = self.crashed cause) ∨ ∃ next, Moves index session task next self after := by
  rcases advance_turn stepped with ⟨cause, _, rfl⟩ | ⟨next, changed, turn, rfl⟩
  · exact .inl ⟨cause, rfl⟩
  cases task with
  | createRoom =>
      rcases advanceCreateRoom_tables stepped with ⟨_, fails⟩ | ⟨next, ⟨_, _, rule⟩, goes⟩
      · exact .inl fails
      · exact .inr ⟨next, goes, rule.hasUser⟩
  | joinRoom =>
      obtain ⟨next, ⟨_, _, rule⟩, goes⟩ := advanceJoinRoom_tables stepped
      exact .inr ⟨next, goes, rule.hasUser⟩
  | roomOut =>
      rcases advanceRoomOut_tables stepped with ⟨_, fails⟩ | ⟨next, ⟨_, _, rule⟩, goes⟩
      · exact .inl fails
      · exact .inr ⟨next, goes, fun has => .inl (rule.hasUser has)⟩
  | chatLog =>
      refine .inr ⟨next, turn.moves ?_⟩
      cases turn with
      | chat => exact (broadCast_queues ..).rooms
      | _ => rfl
  | onDisconnected =>
      cases turn with
      | drop turn => exact .inr ⟨_, turn.goes _, fun has => .inl (turn.tables.hasUser has)⟩
      | _ => exact .inr ⟨_, .of_rooms ⟨rfl, rfl⟩ rfl⟩
  | login | register | refreshLobby | done =>
      refine .inr ⟨next, turn.moves ?_⟩
      cases turn <;> rfl

/-! ## The handler of the entry -/

/-- What a step of the handler makes of the entry: it goes on without a packet for its
own session, or ends with the acknowledgement. -/
inductive Advances (self : ServerState) (session : Nat) (task : Task) : Task → Prop where
  | goes {next : Task} (entering : next.entering = true)
      (silent : handed (task.posts self session) session = [])
      (stays : task.entered = true → next.entered = true) (enters : task.enrols = true →
        next.entered = true) :
      Advances self session task next
  | acknowledges {ack : Message} (posts : task.posts self session = [(session, ack)])
      (verdict : ack.entry = some task.entered) (outside : task.enrols = false) :
      Advances self session task .done

theorem CreateStep.advances {tables : Tables} {id : String}
    (rule : CreateStep collate session id roomName tables pc goal next) :
    self.Advances session (.createRoom id roomName pc)
      (goal.elim .done (.createRoom id roomName)) := by
  cases rule with
  | refuse | accept | insert | selectId | updateAccount | makeRoom | fetchAdd | setRoom | addRoom =>
      exact .goes rfl rfl (by simp [Task.entered]) (by simp [Task.entered, Task.enrols])
  | reply => exact .acknowledges rfl rfl rfl

theorem JoinStep.advances {tables : Tables} {id : String}
    (rule : JoinStep collate session id roomName tables pc goal next) :
    self.Advances session (.joinRoom id roomName pc) (goal.elim .done (.joinRoom id roomName)) := by
  cases rule with
  | select | unknown | getRoom | unlisted | load | refuse | cas | again | lost | updateAccount
  | updateRoom
  | selectMembers | miss | addUser =>
      exact .goes rfl rfl (by simp [Task.entered]) (by simp [Task.entered, Task.enrols])
  | broadcast =>
      refine .goes rfl ?_ (by simp [Task.entered]) (by simp [Task.enrols])
      -- the handler's own broadcast leaves its session out
      refine List.eq_nil_iff_forall_not_mem.mpr fun message posted => ?_
      exact (mem_broadcasts.mp (mem_handed.mp posted)).2.1 rfl
  | reply => exact .acknowledges rfl rfl rfl

theorem advance_entering {task : Task} (entering : task.entering = true)
    (stepped : self.advance collate index session task = some after) :
    (∃ cause, after = self.crashed cause) ∨
      ∃ next, Moves index session task next self after ∧ self.Advances session task next := by
  cases task with
  | createRoom =>
      rcases advanceCreateRoom_tables stepped with ⟨_, fails⟩ | ⟨_, ⟨_, rfl, rule⟩, goes⟩
      · exact .inl fails
      · exact .inr ⟨_, ⟨goes, rule.hasUser⟩, CreateStep.advances rule⟩
  | joinRoom =>
      obtain ⟨_, ⟨_, rfl, rule⟩, goes⟩ := advanceJoinRoom_tables stepped
      exact .inr ⟨_, ⟨goes, rule.hasUser⟩, JoinStep.advances rule⟩
  | _ => contradiction

/-- What the session has been sent since its request. -/
inductive Answers (server : ServerState) (me : Nat) : Task → List Message → Prop where
  | waits {task : Task} (entering : task.entering = true)
      (outside : task.entered = false → ¬ server.tables.HasUser me) : Answers server me task []
  | refused {ack : Message} (verdict : ack.entry = some false)
      (outside : ¬ server.tables.HasUser me) : Answers server me .done [ack]
  | accepted {ack : Message} {rest : List Message} (verdict : ack.entry = some true)
      (traffic : ∀ message ∈ rest, message.isTraffic = true) : Answers server me .done (ack :: rest)

structure Entry (queued : List Message) (me handler : Nat) (server : ServerState) : Prop where
  alone : ∀ {index : Nat} {process : Process}, server.processes[index]? = some process →
    index ≠ handler → process.session = me → process.task = .done
  connected : server.isConnected me = true
  own : ∃ task packets, server.processes[handler]? = some ⟨me, task⟩ ∧
    server.outbox me = queued ++ packets ∧ server.Answers me task packets

theorem Answers.ackFirst (answers : self.Answers me task packets) : AckFirst packets := by
  have silent : ∀ {ack : Message} {verdict : Bool}, ack.entry = some verdict →
      ack.isTraffic = false := by
    intro ack verdict isEntry
    cases ack <;> first | rfl | contradiction
  intro before message later split traffic
  cases answers with
  | waits => simp at split
  | refused verdict =>
      cases before with
      | nil =>
          cases split
          rw [silent verdict] at traffic
          contradiction
      | cons head tail => simp at split
  | accepted verdict =>
      cases before with
      | nil =>
          cases split
          rw [silent verdict] at traffic
          contradiction
      | cons head tail =>
          cases split
          exact ⟨_, List.mem_cons_self, verdict⟩

/-- Another handler broadcasts in a room of the session, whose own handler has not
sent its reply. -/
def Early (me handler : Nat) : ServerEvent → ServerState → Prop
  | .run index, self => index ≠ handler ∧ ∃ process own, self.processes[index]? = some process ∧
      self.Reaches process.task me ∧ self.processes[handler]? = some own ∧ own.task ≠ .done
  | _, _ => False

section Steps

variable {queued : List Message} {me handler : Nat}

theorem Reaches.hasUser (reaches : self.Reaches task me) : self.tables.HasUser me := by
  obtain ⟨room, current, _, object, has⟩ := reaches
  exact ⟨current, List.mem_of_getElem? object, has⟩

/-- A step of others: it may send traffic to the session once this has its answer. -/
theorem Entry.others (entry : self.Entry queued me handler) (more : List Message)
    (processes : ∀ process, self.processes[handler]? = some process →
      after.processes[handler]? = some process)
    (alone : ∀ {index : Nat} {process : Process}, after.processes[index]? = some process →
      index ≠ handler →
      process.session = me → process.task = .done)
    (connected : after.isConnected me = self.isConnected me)
    (outbox : after.outbox me = self.outbox me ++ more)
    (users : after.tables.HasUser me → self.tables.HasUser me)
    (traffic : ∀ message ∈ more, message.isTraffic = true ∧ self.tables.HasUser me)
    (timely : ∀ own, self.processes[handler]? = some own → own.task ≠ .done → more = []) :
    after.Entry queued me handler := by
  obtain ⟨task, packets, own, held, answers⟩ := entry.own
  refine ⟨alone, connected.trans entry.connected, task, packets ++ more, processes _ own, ?_, ?_⟩
  · rw [outbox, held, List.append_assoc]
  · cases answers with
    | waits entering outside =>
        have unfinished : task ≠ .done := by
          rintro rfl
          contradiction
        rw [timely _ own unfinished]
        exact .waits entering fun unentered has => outside unentered (users has)
    | refused verdict outside =>
        cases more with
        | nil => exact .refused verdict fun has => outside (users has)
        | cons message rest => exact absurd (traffic message List.mem_cons_self).2 outside
    | accepted verdict sent =>
        refine .accepted verdict ?_
        intro message member
        rcases List.mem_append.mp member with member | member
        · exact sent message member
        · exact (traffic message member).1

theorem session_of_connected (connected : self.isConnected me = true) :
    me < self.sessions.length := by
  by_contra absent
  simp [isConnected, List.getElem?_eq_none (Nat.le_of_not_lt absent)] at connected

/-- A step of the handler itself. -/
theorem Entry.advances (entry : self.Entry queued me handler)
    (own : self.processes[handler]? = some ⟨me, task⟩) (unfinished : task ≠ .done)
    (moves : Moves handler me task next self after)
    (delivers : self.Delivers (task.posts self me) after) (advances : self.Advances me task next) :
    after.Entry queued me handler := by
  obtain ⟨same, packets, sameOwn, held, answers⟩ := entry.own
  rw [own, Option.some.injEq, Process.mk.injEq] at sameOwn
  obtain ⟨_, rfl⟩ := sameOwn
  have sent : after.outbox me = queued ++ (packets ++ handed (task.posts self me) me) := by
    rw [delivers.outbox me, entry.connected, if_pos rfl, held, List.append_assoc]
  refine ⟨?_, (delivers.connected me).trans entry.connected, next, _,
    moves.goes.found own, sent, ?_⟩
  · intro index process found elsewhere mine
    rw [moves.goes.processes] at found
    rcases getElem?_set_cases found with ⟨rfl, _⟩ | ⟨_, still⟩
    · exact absurd rfl elsewhere
    · exact entry.alone still elsewhere mine
  · cases answers with
    | waits entering outside =>
        cases advances with
        | goes nextEntering silent stays enters =>
            rw [silent]
            refine .waits nextEntering ?_
            intro unentered has
            rcases moves.users has with has | ⟨_, enrols⟩
            · refine outside ?_ has
              by_contra entered
              rw [stays (by simpa using entered)] at unentered
              contradiction
            · rw [enters enrols] at unentered
              contradiction
        | acknowledges posts verdict unenrolled =>
            rw [posts]
            simp only [handed, List.filter_cons, decide_true, if_true, List.filter_nil,
              List.map_cons, List.map_nil, List.nil_append]
            cases entered : task.entered with
            | true => exact .accepted (entered ▸ verdict) (by simp)
            | false =>
                refine .refused (entered ▸ verdict) fun has => ?_
                rcases moves.users has with has | ⟨_, enrols⟩
                · exact outside entered has
                · simp [unenrolled] at enrols
    | refused | accepted => exact absurd rfl unfinished

theorem step_entry {event : ServerEvent} (others : event.Others me)
    (timely : ¬ Early me handler event self)
    (stepped : (system collate).step event self = some after)
    (entry : self.Entry queued me handler) : after.Entry queued me handler := by
  have present := session_of_connected entry.connected
  obtain ⟨task, packets, own, held, answers⟩ := entry.own
  have within := (List.getElem?_eq_some_iff.mp own).1
  cases (step_happens stepped).2 with
  | connect =>
      have same : (self.sessions ++ [⟨none, "", true, false, []⟩])[me]? = self.sessions[me]? :=
        List.getElem?_append_left present
      refine entry.others [] (fun _ found => found) entry.alone ?_ ?_ (fun has => has) (by simp)
        fun _ _ _ => rfl
      · simp only [isConnected, same]
      · simp only [ServerState.outbox, same, List.append_nil]
  | @request session message task _ _ =>
      refine entry.others [] ?_ ?_ rfl (List.append_nil _).symm (fun has => has) (by simp)
        fun _ _ _ => rfl
      · intro process found
        exact (List.getElem?_append_left within).trans found
      · intro index process found elsewhere mine
        rcases getElem?_concat_cases found with found | ⟨_, rfl⟩
        · exact entry.alone found elsewhere mine
        · exact absurd mine others
  | @disconnect session current _ _ =>
      have same : (self.sessions.modify session fun current => { current with
          connected := false })[me]? = self.sessions[me]? := by simp [show session ≠ me from others]
      refine entry.others [] ?_ ?_ ?_ ?_ (fun has => has) (by simp) fun _ _ _ => rfl
      · intro process found
        exact (List.getElem?_append_left within).trans found
      · intro index process found elsewhere mine
        rcases getElem?_concat_cases found with found | ⟨_, rfl⟩
        · exact entry.alone found elsewhere mine
        · exact absurd mine others
      · simp only [isConnected, spawn, modifySession, same]
      · simp only [ServerState.outbox, spawn, modifySession, same, List.append_nil]
  | @run index session running _ found stepped =>
      have crashed : ∀ {cause}, after = self.crashed cause → after.Entry queued me handler := by
        rintro cause rfl
        exact ⟨entry.alone, entry.connected, task, packets, own,
          held, by cases answers <;> constructor <;> assumption⟩
      have delivers := advance_delivers stepped
      by_cases mine : index = handler
      · subst mine
        rw [own, Option.some.injEq, Process.mk.injEq] at found
        obtain ⟨rfl, rfl⟩ := found
        have unfinished : task ≠ .done := by
          rintro rfl
          contradiction
        have entering : task.entering = true := by
          cases answers with
          | waits entering => exact entering
          | refused | accepted => exact absurd rfl unfinished
        rcases advance_entering entering stepped with ⟨cause, fails⟩ | ⟨next, moves, advances⟩
        · exact crashed fails
        · exact entry.advances own unfinished moves delivers advances
      · have other : session ≠ me := by
          rintro rfl
          rw [show running = .done from entry.alone found mine rfl] at stepped
          contradiction
        rcases advance_moves stepped with ⟨cause, fails⟩ | ⟨next, moves⟩
        · exact crashed fails
        · refine entry.others (handed (running.posts self session) me) ?_ ?_
            (delivers.connected me) ?_ ?_ ?_ ?_
          · intro process here
            rw [moves.goes.processes, List.getElem?_set_ne mine, here]
          · intro place process placed elsewhere belongs
            rw [moves.goes.processes] at placed
            rcases getElem?_set_cases placed with ⟨_, rfl⟩ | ⟨_, still⟩
            · exact absurd belongs other
            · exact entry.alone still elsewhere belongs
          · rw [delivers.outbox me, entry.connected, if_pos rfl]
          · intro has
            rcases moves.users has with has | ⟨same, _⟩
            · exact has
            · exact absurd same other
          · intro message posted
            obtain ⟨traffic, reaches⟩ := Reaches.of_mem_posts other (mem_handed.mp posted)
            exact ⟨traffic, reaches.hasUser⟩
          · intro process here unfinished
            refine List.eq_nil_iff_forall_not_mem.mpr fun message posted => timely ?_
            exact ⟨mine, _, process, found, (Reaches.of_mem_posts other (mem_handed.mp posted)).2,
              here, unfinished⟩

theorem step_outbox (stepped : (system collate).step event self = some after) (me : Nat) :
    self.outbox me <+: after.outbox me := by
  cases (step_happens stepped).2 with
  | connect =>
      rcases Nat.lt_or_ge me self.sessions.length with within | beyond
      · simp [ServerState.outbox, List.getElem?_append_left within]
      · simp [ServerState.outbox, List.getElem?_eq_none beyond]
  | @request session message task _ _ =>
      exact List.prefix_rfl
  | @disconnect session current _ _ =>
      simp only [ServerState.outbox, spawn, getElem?_modifySession, Option.map_map]
      have same : (ClientSession.outbox ∘ fun current =>
          if session = me then { current with connected := false } else current) =
              ClientSession.outbox := by
        funext current
        simp only [Function.comp_apply]
        split <;> rfl
      exact ⟨[], by rw [same, List.append_nil]⟩
  | run _ stepped => exact ⟨_, ((advance_delivers stepped).outbox me).symm⟩

theorem run_outbox (ran : (system collate).run events self = some after) (me : Nat) :
    self.outbox me <+: after.outbox me := by
  have keeps : ∀ {event before next}, (system collate).step event before = some next →
      self.outbox me <+: before.outbox me → self.outbox me <+: next.outbox me :=
    fun stepped before => before.trans (step_outbox stepped me)
  exact System.run_preserves keeps ran List.prefix_rfl

/-- What an early broadcast puts first. -/
theorem early_outbox {event : ServerEvent} (others : event.Others me)
    (early : Early me handler event self) (entry : self.Entry queued me handler)
    (stepped : (system collate).step event self = some after) :
    ∃ message rest, message.isTraffic = true ∧ after.outbox me = queued ++ message :: rest := by
  cases event with
  | run index =>
      obtain ⟨elsewhere, ⟨session, task⟩, process, found, reaches, here, unfinished⟩ := early
      obtain ⟨own, packets, isOwn, held, answers⟩ := entry.own
      rw [isOwn, Option.some.injEq] at here
      subst here
      have unanswered : packets = [] := by
        cases answers with
        | waits => rfl
        | refused | accepted => exact absurd rfl unfinished
      obtain ⟨_, moved⟩ := advance_of_step found stepped
      have other : session ≠ me := by
        rintro rfl
        have finished : task = .done := entry.alone found elsewhere rfl
        subst finished
        contradiction
      have sent := (advance_delivers moved).outbox me
      rw [entry.connected, if_pos rfl, held, unanswered, List.append_nil] at sent
      obtain ⟨message, posted⟩ := reaches.posted other
      cases posts : handed (task.posts self session) me with
      | nil =>
          have none : message ∉ handed (task.posts self session) me := by simp [posts]
          exact absurd (mem_handed.mpr posted) none
      | cons first rest =>
          have member : first ∈ handed (task.posts self session) me := by simp [posts]
          exact ⟨first, rest, (Reaches.of_mem_posts other (mem_handed.mp member)).1, posts ▸ sent⟩
  | _ => exact early.elim

theorem spawn_entry {task : Task}
    (idle : ∀ process ∈ self.processes, process.session = me → process.task = .done)
    (connected : self.isConnected me = true) (outside : ¬ self.tables.HasUser me)
    (entering : task.entering = true) :
    (self.spawn me task).Entry (self.outbox me) me self.processes.length where
  alone := by
    intro index process found elsewhere mine
    rcases getElem?_concat_cases found with found | ⟨here, _⟩
    · exact idle process (List.mem_of_getElem? found) mine
    · exact absurd here elsewhere
  connected := connected
  own := ⟨task, [], found_spawn self me task, (List.append_nil _).symm,
    .waits entering fun _ => outside⟩

/-- The packets that the session is sent from its request on: the acknowledgement is
before the traffic exactly when no broadcast of the room is early. -/
theorem ackFirst_iff {start : ServerState} {task : Task}
    (idle : ∀ process ∈ start.processes, process.session = me → process.task = .done)
    (connected : start.isConnected me = true) (outside : ¬ start.tables.HasUser me)
    (entering : task.entering = true) (others : ∀ event ∈ events, event.Others me)
    (ran : (system collate).run events (start.spawn me task) = some after) :
    ∃ packets, after.outbox me = start.outbox me ++ packets ∧
      (AckFirst packets ↔ (system collate).Guarded
        (fun event server => ¬ Early me start.processes.length event server) events
          (start.spawn me task)) ∧
      (AckFirst packets → ∃ task, after.Answers me task packets) := by
  have entry := spawn_entry idle connected outside entering
  have isOther : (system collate).Guarded (fun event _ => event.Others me) events
      (start.spawn me task) :=
    System.guarded_of_forall others
  have answered : (system collate).Guarded
      (fun event server => ¬ Early me start.processes.length event server) events
      (start.spawn me task) →
      after.Entry (start.outbox me) me start.processes.length := by
    intro timely
    exact System.run_preserves_guarded (fun guard => step_entry guard.1 guard.2) (isOther.and timely) ran entry
  obtain ⟨packets, sent⟩ : start.outbox me <+: after.outbox me := run_outbox ran me
  have timely : AckFirst packets → (system collate).Guarded
      (fun event server => ¬ Early me start.processes.length event server) events
          (start.spawn me task) := by
    intro ackFirst
    by_contra broken
    obtain ⟨first, event, rest, middle, rfl, reached, timely, early⟩ :=
    System.exists_of_not_guarded broken
    have entryMiddle : middle.Entry (start.outbox me) me start.processes.length :=
      System.run_preserves_guarded (fun guard => step_entry guard.1 guard.2)
        ((System.guarded_of_forall fun event member => others event (by simp [member])).and timely)
        reached entry
    obtain ⟨same, sameReached, remaining⟩ := System.run_append_some.mp ran
    rw [reached, Option.some.injEq] at sameReached
    subst sameReached
    obtain ⟨next, stepped, remaining⟩ := System.run_cons_some.mp remaining
    obtain ⟨message, more, traffic, queue⟩ :=
      early_outbox (others event (by simp)) (not_not.mp early) entryMiddle stepped
    obtain ⟨later, grown⟩ := run_outbox remaining me
    rw [queue, ← sent, List.append_assoc, List.append_cancel_left_eq] at grown
    obtain ⟨_, none, _⟩ := ackFirst [] message (more ++ later) (by rw [← grown]; rfl) traffic
    simp at none
  refine ⟨packets, sent.symm, ⟨timely, ?_⟩, ?_⟩
  · intro guarded
    obtain ⟨own, same, _, held, answers⟩ := (answered guarded).own
    rw [← sent, List.append_cancel_left_eq] at held
    exact held ▸ answers.ackFirst
  · intro ackFirst
    obtain ⟨own, same, _, held, answers⟩ := (answered (timely ackFirst)).own
    rw [← sent, List.append_cancel_left_eq] at held
    exact ⟨own, held ▸ answers⟩

end Steps

end ServerState

end ChattingProgram.Server
