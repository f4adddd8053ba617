import ChattingProgram.Server.Destruction
import ChattingProgram.Server.Login
import ChattingProgram.Server.Positions

namespace ChattingProgram.Server

open ChattingProgram.Protocol ChattingProgram.Machine

/-! # A handler and `OnDisconnected` of one session

One handler of a session is in progress while the connection drops.  The two run
in any order, and no other handler does.
-/

/-- The handler is on its way into a room, or out of it: `_room` does not yet tell. -/
def Task.enters : Task → Bool
  | .createRoom _ _ .insert | .createRoom _ _ .selectId | .createRoom _ _ (.updateAccount _)
  | .createRoom _ _ (.makeRoom _) | .createRoom _ _ (.fetchAdd _) | .createRoom _ _ (.setRoom _) =>
      true
  | .joinRoom _ _ (.updateAccount ..) | .joinRoom _ _ (.updateRoom ..)
  | .joinRoom _ _ (.selectMembers ..)
  | .joinRoom _ _ (.addUser ..) => true
  | .roomOut _ .select | .roomOut _ (.getRoom _) | .roomOut _ (.remove _ .updateAccount)
  | .roomOut _ (.remove _ .updateRoom) | .roomOut _ (.remove _ .erase) => true
  | _ => false

/-- `OnDisconnected` has looked at `_room`. -/
def Task.looked : Task → Bool
  | .onDisconnected .expired => false
  | .onDisconnected _ => true
  | _ => false

/-- The steps of the dropped session, in any order. -/
def ServerEvent.Concerns (session : Nat) : ServerEvent → Prop
  | .run _ => True
  | .disconnect other => other = session
  | .connect | .request .. => False

instance (session : Nat) : DecidablePred (ServerEvent.Concerns session)
  | .run _ => .isTrue trivial
  | .disconnect other => inferInstanceAs (Decidable (other = session))
  | .connect | .request .. => .isFalse fun concerns => concerns

namespace ServerState

def Looked (self : ServerState) (session : Nat) : Prop :=
  (∃ process ∈ self.processes, process.session = session ∧ process.task.looked = true) ∨
    ∃ current ∈ self.sessions[session]?, current.disconnected = true

instance (self : ServerState) (session : Nat) : Decidable (self.Looked session) :=
  inferInstanceAs (Decidable (_ ∨ _))

end ServerState

/-- A step that the dropping connection does no harm to: `OnDisconnected` looks at `_room`
when no handler is on its way, no handler is admitted after that, `RemoveRoom`
finds its room, and `AddUser` finds a user. -/
def Task.Timely (collate : String → String) (self : ServerState) (session : Nat) : Task → Prop
  | .onDisconnected .expired =>
      ∀ process ∈ self.processes, process.session = session → process.task.enters = false
  | .onDisconnected (.remove room .removeRoom) =>
      ∀ current ∈ self.rooms[room]?, (self.listed.lookup current.roomId).isSome = true
  | .createRoom _ roomName .select =>
      self.db.selectRoomId collate roomName = none → ¬ self.Looked session
  | .joinRoom _ _ (.cas _ room state) =>
      ∀ current ∈ self.rooms[room]?, current.roomState = state → ¬ self.Looked session
  | .joinRoom _ _ (.addUser room _) => ∀ current ∈ self.rooms[room]?, current.users.entries ≠ []
  | _ => True

instance (collate : String → String) (self : ServerState) (session : Nat) :
    ∀ task : Task, Decidable (task.Timely collate self session)
  | .onDisconnected .expired => inferInstanceAs
      (Decidable (∀ process ∈ self.processes, process.session = session →
      process.task.enters = false))
  | .onDisconnected (.remove room .removeRoom) => inferInstanceAs
      (Decidable (∀ current ∈ self.rooms[room]?, (self.listed.lookup current.roomId).isSome = true))
  | .createRoom _ roomName .select => inferInstanceAs
      (Decidable (self.db.selectRoomId collate roomName = none → ¬ self.Looked session))
  | .joinRoom _ _ (.cas _ room state) => inferInstanceAs
      (Decidable (∀ current ∈ self.rooms[room]?, current.roomState = state → ¬ self.Looked session))
  | .joinRoom _ _ (.addUser room _) => inferInstanceAs
      (Decidable (∀ current ∈ self.rooms[room]?, current.users.entries ≠ []))
  | .onDisconnected .lock | .onDisconnected .readId | .onDisconnected (.update _)
  | .onDisconnected (.remove _ .updateAccount) | .onDisconnected (.remove _ .updateRoom)
  | .onDisconnected (.remove _ .erase) | .onDisconnected (.remove _ .fetchSub)
  | .onDisconnected (.remove _ .cas)
  | .onDisconnected (.remove _ .delete) | .onDisconnected (.remove _ .select)
  | .onDisconnected (.remove _ (.broadcast _))
  | .createRoom _ _ .insert | .createRoom _ _ .selectId | .createRoom _ _ (.updateAccount _)
  | .createRoom _ _ (.makeRoom _) | .createRoom _ _ (.fetchAdd _) | .createRoom _ _ (.setRoom _)
  | .createRoom _ _ (.addRoom _) | .createRoom _ _ (.reply _)
  | .joinRoom _ _ .select | .joinRoom _ _ (.getRoom _) | .joinRoom _ _ (.load ..)
  | .joinRoom _ _ (.updateAccount ..) | .joinRoom _ _ (.updateRoom ..)
  | .joinRoom _ _ (.selectMembers ..)
  | .joinRoom _ _ (.broadcast ..) | .joinRoom _ _ (.reply ..)
  | .login .. | .register .. | .refreshLobby _ | .chatLog .. | .roomOut .. | .done =>
      .isTrue trivial

namespace ServerState

def Timely (collate : String → String) : ServerEvent → ServerState → Prop
  | .run index, self =>
      ∀ process ∈ self.processes[index]?, process.task.Timely collate self process.session
  | _, _ => True

instance (collate : String → String) (self : ServerState) : ∀ event,
    Decidable (Timely collate event self)
  | .run index => inferInstanceAs
      (Decidable (∀ process ∈ self.processes[index]?,
      process.task.Timely collate self process.session))
  | .connect | .request .. | .disconnect _ => .isTrue trivial

/-- The handler, and `OnDisconnected` once the connection has dropped, after the
processes of a quiescent state. -/
structure Shape (start : ServerState) (session : Nat) (id : String) (task : Task)
    (leaves : Option Task) (server : ServerState) : Prop where
  processes : server.processes =
    start.processes ++ ⟨session, task⟩ ::
    (leaves.map fun leave => (⟨session, leave⟩ : Process)).toList
  crash : server.crash = none
  session : ∃ current, server.auth.sessions[session]? = some current ∧ current.id = id ∧
    (current.connected = true ↔ leaves = none) ∧ (current.disconnected = true ↔ leaves = some .done)

variable {collate : String → String} {start self after : ServerState} {session : Nat} {id : String}
  {task next : Task} {leaves : Option Task} {leave : Task}

theorem Shape.found (shape : Shape start session id task leaves self) :
    self.processes[start.processes.length]? = some ⟨session, task⟩ := by
  rw [shape.processes]
  simp

theorem Shape.found_leave (shape : Shape start session id task (some leave) self) :
    self.processes[start.processes.length + 1]? = some ⟨session, leave⟩ := by
  rw [shape.processes]
  simp

theorem Shape.sessionId (shape : Shape start session id task leaves self) :
    self.sessionId session = id := by
  obtain ⟨current, found, named, _⟩ := shape.session
  simp only [auth, List.getElem?_map, Option.map_eq_some_iff] at found
  obtain ⟨stored, stored_found, rfl⟩ := found
  rw [ServerState.sessionId, stored_found]
  exact named

/-- The handler goes on. -/
theorem Shape.goes (shape : Shape start session id task leaves self)
    (goes : Goes start.processes.length session next self after)
    (sessions : after.auth.sessions = self.auth.sessions) :
    Shape start session id next leaves after where
  processes := by
    rw [goes.processes, shape.processes]
    simp
  crash := goes.crash.trans shape.crash
  session := by
    rw [sessions]
    exact shape.session

/-- `OnDisconnected` goes on. -/
theorem Shape.goes_leave (shape : Shape start session id task (some leave) self)
    (unfinished : leave ≠ .done)
    (goes : Goes (start.processes.length + 1) session next self after) (continues : next ≠ .done)
    (sessions : after.auth.sessions = self.auth.sessions) :
    Shape start session id task (some next) after where
  processes := by
    rw [goes.processes, shape.processes]
    simp
  crash := goes.crash.trans shape.crash
  session := by
    rw [sessions]
    simpa [unfinished, continues] using shape.session

theorem Shape.finishes (shape : Shape start session id task (some leave) self)
    (goes : Goes (start.processes.length + 1) session .done self after)
    (sessions : after.auth.sessions = self.auth.sessions.modify session
      fun current => { current with disconnected := true }) :
    Shape start session id task (some .done) after where
  processes := by
    rw [goes.processes, shape.processes]
    simp
  crash := goes.crash.trans shape.crash
  session := by
    obtain ⟨current, found, named, connected, _⟩ := shape.session
    refine ⟨{ current with disconnected := true }, ?_, named, ?_, by simp⟩
    · rw [sessions, List.getElem?_modify_eq, found]
      rfl
    · simpa using connected

theorem Shape.disconnects (shape : Shape start session id task leaves self)
    (stepped : (system collate).step (.disconnect session) self = some after) :
    leaves = none ∧ after.tables = self.tables ∧
      Shape start session id task (some (.onDisconnected .expired)) after := by
  simp only [system, step, shape.crash, Option.isSome_none, Bool.false_eq_true, if_false] at stepped
  obtain ⟨current, found, stepped⟩ := Option.bind_eq_some_iff.mp stepped
  split at stepped
  · rename_i connected
    cases stepped
    obtain ⟨view, viewFound, named, stays, ended⟩ := shape.session
    have same : view = current.auth := by
      simpa [auth, found] using viewFound.symm
    subst same
    have absent := stays.mp connected
    subst absent
    refine ⟨rfl, ?_, ?_, shape.crash, ?_⟩
    · change (self.modifySession session _).tables = _
      exact tables_modifySession (fun _ => rfl) fun _ => rfl
    · simp [spawn, modifySession, shape.processes]
    · refine ⟨{ current.auth with connected := false }, ?_, named, by simp, ?_⟩
      · simp only [auth, spawn, modifySession, List.getElem?_map, List.getElem?_modify_eq, found]
        rfl
      · simpa using ended
  · contradiction

/-- A step of the dropped session is one of the three: the connection drops, the
handler goes on, or `OnDisconnected` does. -/
theorem Shape.step_cases {event : ServerEvent} (shape : Shape start session id task leaves self)
    (quiescent : start.Quiescent) (concerns : event.Concerns session)
    (stepped : (system collate).step event self = some after) :
    event = .disconnect session ∨
    (event = .run start.processes.length ∧
      self.advance collate start.processes.length session task = some after) ∨
    ∃ leave, leaves = some leave ∧ event = .run (start.processes.length + 1) ∧
      self.advance collate (start.processes.length + 1) session leave = some after := by
  cases event with
  | connect | request => exact concerns.elim
  | disconnect other =>
      cases concerns
      exact .inl rfl
  | run index =>
      refine .inr ?_
      have fired := stepped
      simp only [system, step, shape.crash, Option.isSome_none, Bool.false_eq_true,
        if_false] at fired
      obtain ⟨process, found, advanced⟩ := Option.bind_eq_some_iff.mp fired
      rw [shape.processes] at found
      rcases Nat.lt_trichotomy index start.processes.length with earlier | rfl | later
      · rw [List.getElem?_append_left earlier] at found
        rw [quiescent process (List.mem_of_getElem? found)] at advanced
        contradiction
      · rw [← shape.processes, shape.found] at found
        cases found
        exact .inl ⟨rfl, advanced⟩
      · have below := (List.getElem?_eq_some_iff.mp found).1
        cases leaves with
        | none =>
            simp at below
            omega
        | some leave =>
            have last : index = start.processes.length + 1 := by
              simp at below
              omega
            subst last
            rw [← shape.processes, shape.found_leave] at found
            cases found
            exact .inr ⟨leave, rfl, rfl, advanced⟩

theorem lockRoom_eq_none (seat : self.tables.seats[session]? = some none) :
    self.lockRoom session = none := by
  simp only [tables, List.getElem?_map, Option.map_eq_some_iff] at seat
  obtain ⟨current, found, unseated⟩ := seat
  simp [lockRoom, found, unseated]

theorem lockRoom_eq (seat : self.tables.seats[session]? = some (some room))
    (alive : self.alive room = true) : self.lockRoom session = some room := by
  simp only [tables, List.getElem?_map, Option.map_eq_some_iff] at seat
  obtain ⟨current, found, seated⟩ := seat
  simp [lockRoom, found, seated, alive]

theorem alive_of_lookup (lists : self.listed.lookup roomId = some room) :
    self.alive room = true := by
  have listed : self.listed.entries.any (fun entry => entry.2 = room) = true := by
    rw [List.any_eq_true]
    exact ⟨⟨roomId, room⟩, AList.mem_lookup_iff.mp lists, by simp⟩
  simp [alive, listed]

theorem alive_of_holds (member : process ∈ self.processes)
    (holds : process.task.holds = some room) : self.alive room = true := by
  have held : self.processes.any (fun process => process.task.holds = some room) = true := by
    rw [List.any_eq_true]
    exact ⟨process, member, by simp [holds]⟩
  simp [alive, held]

/-- `OnDisconnected` has not looked at `_room` yet. -/
def Waits (leaves : Option Task) : Prop := leaves = none ∨ leaves = some (.onDisconnected .expired)

/-- `OnDisconnected` is done with rooms. -/
def Ends (leaves : Option Task) : Prop :=
  leaves = some (.onDisconnected .readId) ∨
    (∃ userId, leaves = some (.onDisconnected (.update userId))) ∨ leaves = some .done

theorem Shape.looked (shape : Shape start session id task leaves self) (ends : Ends leaves) :
    self.Looked session := by
  have member : ∀ leave, leaves = some leave → (⟨session, leave⟩ : Process) ∈ self.processes := by
    rintro leave rfl
    rw [shape.processes]
    simp
  rcases ends with rfl | ⟨userId, rfl⟩ | rfl
  · exact .inl ⟨_, member _ rfl, rfl, rfl⟩
  · exact .inl ⟨_, member _ rfl, rfl, rfl⟩
  · obtain ⟨view, found, _, _, ended⟩ := shape.session
    simp only [auth, List.getElem?_map, Option.map_eq_some_iff] at found
    obtain ⟨current, current_found, rfl⟩ := found
    exact .inr ⟨current, current_found, ended.mpr rfl⟩

/-- `OnDisconnected` after it is done with rooms. -/
theorem Shape.ends_step (shape : Shape start session id task (some leave) self)
    (ends : Ends (some leave))
    (stepped : self.advance collate (start.processes.length + 1) session leave = some after) :
    ∃ next, Ends (some next) ∧ after.tables = self.tables ∧
      Shape start session id task (some next) after := by
  rcases ends with same | ⟨userId, same⟩ | same
  · cases same
    cases stepped
    refine ⟨.onDisconnected (.update (self.sessionId session)), .inr (.inl ⟨_, rfl⟩), rfl, ?_⟩
    exact shape.goes_leave (by simp) ⟨rfl, rfl⟩ (by simp) rfl
  · cases same
    cases stepped
    refine ⟨.done, .inr (.inr rfl), ?_, shape.finishes ⟨rfl, rfl⟩ ?_⟩
    · rw [tables_put]
      refine Eq.trans (tables_modifySession ?_ ?_) ?_
      · exact fun _ => rfl
      · exact fun _ => rfl
      · simp only [tables, Database.bare_updateOnline]
    · exact congrArg Auth.sessions (auth_modifySession
        (fun current => { current with disconnected := true }) fun _ => rfl)
  · cases same
    contradiction

end ServerState

/-- The rest of a handler that leaves the tables alone. -/
def Task.past : Task → Bool
  | .createRoom _ _ (.reply _) | .joinRoom _ _ (.broadcast ..) | .joinRoom _ _ (.reply ..)
  | .roomOut _ (.reply _)
  | .done => true
  | _ => false

/-- The handler is at a statement that fails, and `HandleError` does not return. -/
def Task.Hangs (collate : String → String) (tables : Tables) : Task → Prop
  | .createRoom id roomName pc => CreateHangs collate id roomName tables pc
  | .joinRoom id _ pc => JoinHangs collate id tables pc
  | _ => False

/-- The only statement that fails is the `INSERT` of a name that does not fit its column. -/
def Task.Fits (collate : String → String) (tables : Tables) (task : Task) : Prop :=
  task.Hangs collate tables → ∃ id roomName, task = .createRoom id roomName .insert ∧
    30 < roomName.length

theorem Task.past_fits {collate : String → String} {task : Task} (past : task.past = true) :
    task.Fits collate tables := by
  intro hangs
  cases task with
  | createRoom id roomName pc => cases pc <;> contradiction
  | joinRoom id roomName pc => cases pc <;> contradiction
  | _ => exact hangs.elim

/-- The user is a member; `base` are the tables without what `OnDisconnected` has done. -/
structure Stays (session : Nat) (id : String) (task : Task) (base : Tables) (room : Nat)
    (current : Room) : Prop where
  object : base.rooms[room]? = some current
  user : current.users.lookup id = some session
  seat : base.seats[session]? = some (some room)
  kept : task.holds = some room ∨ base.listed.lookup current.roomId = some room
  settled : task.past = true ∨ (base.listed.lookup current.roomId = none ∧ current.roomState = 1)

/-- How a handler takes its user into a room, or out of it. -/
structure Conduct (collate : String → String) (index session : Nat) (id : String) where
  Outside : Task → Tables → Prop
  Entering : Task → Tables → Prop
  Staying : Task → Tables → Nat → Room → Prop
  unseated : ∀ {task tables}, Outside task tables → tables.seats[session]? = some none
  enters : ∀ {task tables}, Entering task tables → task.enters = true
  stays : ∀ {task base room current}, Staying task base room current →
    Stays session id task base room current
  outsideFits : ∀ {task tables}, Outside task tables → task.Fits collate tables
  enteringFits : ∀ {task tables}, Entering task tables → task.Fits collate tables
  stayingFits : ∀ {task base room current tables}, Staying task base room current →
    task.Fits collate tables
  outsideStep : ∀ {self after : ServerState} {task}, Outside task self.tables →
    task.Timely collate self session →
    self.processes[index]? = some ⟨session, task⟩ →
    self.advance collate index session task = some after →
    ∃ next, self.Goes index session next after ∧ after.auth = self.auth ∧
      (Outside next after.tables ∨ (Entering next after.tables ∧ ¬ self.Looked session))
  enteringStep : ∀ {self after : ServerState} {task}, Entering task self.tables →
    task.Timely collate self session →
    self.processes[index]? = some ⟨session, task⟩ →
    self.advance collate index session task = some after →
    ∃ next, self.Goes index session next after ∧ after.auth = self.auth ∧
      (Entering next after.tables ∨ Outside next after.tables ∨
        ∃ room current, Staying next after.tables room current)
  stayingStep : ∀ {self after : ServerState} {task base room current pc},
    Staying task base room current →
    Removing collate room id base current pc self.tables →
    self.processes[index]? = some ⟨session, task⟩ →
    self.advance collate index session task = some after →
    ∃ next changed, self.Goes index session next after ∧ after.auth = self.auth ∧
      Staying next changed room current ∧ Removing collate room id changed current pc after.tables

namespace Conduct

variable {collate : String → String} {index session : Nat} {id : String}

/-- The tables after `OnDisconnected` has taken the user out of the room. -/
def Left (conduct : Conduct collate index session id) (tables : Tables) : Prop :=
  ∃ task base room current, task.past = true ∧ conduct.Staying task base room current ∧
    tables = base.departed collate room id current session

open ServerState in
inductive Phase (conduct : Conduct collate index session id) : Task → Option Task →
    Tables → Prop where
  | outside {task : Task} {leaves : Option Task} {tables : Tables} : conduct.Outside task tables →
      Waits leaves ∨ Ends leaves → Phase conduct task leaves tables
  | entering {task : Task} {leaves : Option Task} {tables : Tables} : conduct.Entering task tables →
      Waits leaves → Phase conduct task leaves tables
  | staying {task : Task} {leaves : Option Task} {base : Tables} {room : Nat} {current : Room} :
      conduct.Staying task base room current → Waits leaves ∨
      leaves = some (.onDisconnected .lock) →
      Phase conduct task leaves base
  | removing {task : Task} {base tables : Tables} {room : Nat} {current : Room} {pc : RemovePc} :
      conduct.Staying task base room current → Removing collate room id base current pc tables →
      Phase conduct task (some (.onDisconnected (.remove room pc))) tables
  | gone {task : Task} {leaves : Option Task} {tables : Tables} : task.past = true →
      conduct.Left tables → Ends leaves → Phase conduct task leaves tables

theorem Phase.fits {conduct : Conduct collate index session id}
    (phase : conduct.Phase task leaves tables) : task.Fits collate tables := by
  cases phase with
  | outside outside _ => exact conduct.outsideFits outside
  | entering entering _ => exact conduct.enteringFits entering
  | staying staying _ | removing staying _ => exact conduct.stayingFits staying
  | gone past _ _ => exact Task.past_fits past

theorem Phase.leave_eq {conduct : Conduct collate index session id}
    (phase : conduct.Phase task (some leave) tables) :
    leave = .done ∨ ∃ pc, leave = .onDisconnected pc := by
  cases phase with
  | outside _ waits =>
      rcases waits with (same | same) | (same | ⟨userId, same⟩ | same) <;> cases same <;> simp
  | entering _ waits =>
      rcases waits with same | same <;> cases same
      exact .inr ⟨_, rfl⟩
  | staying _ looks =>
      rcases looks with (same | same) | same <;> cases same <;> exact .inr ⟨_, rfl⟩
  | removing => exact .inr ⟨_, rfl⟩
  | gone _ _ ends =>
      rcases ends with same | ⟨userId, same⟩ | same <;> cases same <;> simp

end Conduct

namespace ServerState

section Phase

variable {collate : String → String} {start self after : ServerState} {session : Nat} {id : String}
  {task : Task} {leaves : Option Task} {leave : Task}

theorem advance_past (past : task.past = true)
    (found : self.processes[index]? = some ⟨session, task⟩)
    (stepped : self.advance collate index session task = some after) :
    ∃ next, next.past = true ∧ self.Goes index session next after ∧ after.auth = self.auth ∧
      after.tables = self.tables := by
  cases task with
  | createRoom userId roomName pc =>
      have auth := advance_auth rfl found stepped
      rcases advanceCreateRoom_tables stepped with ⟨fails, _⟩ | ⟨_, ⟨goal, rfl, rule⟩, goes⟩
      · cases pc <;> simp_all [Task.past, CreateFails]
      · generalize after.tables = tables at rule
        cases rule <;> simp only [Task.past, Bool.false_eq_true] at past
        exact ⟨_, rfl, goes, auth, rfl⟩
  | joinRoom userId roomName pc =>
      have auth := advance_auth rfl found stepped
      obtain ⟨_, ⟨goal, rfl, rule⟩, goes⟩ := advanceJoinRoom_tables stepped
      generalize after.tables = tables at rule
      cases rule <;> simp only [Task.past, Bool.false_eq_true] at past
      · exact ⟨_, rfl, goes, auth, rfl⟩
      · exact ⟨_, rfl, goes, auth, rfl⟩
  | roomOut userId pc =>
      have auth := advance_auth rfl found stepped
      rcases advanceRoomOut_tables stepped with ⟨fails, _⟩ | ⟨_, ⟨goal, rfl, rule⟩, goes⟩
      · cases pc <;> simp_all [Task.past, OutFails]
      · generalize after.tables = tables at rule
        cases rule <;> simp only [Task.past, Bool.false_eq_true] at past
        exact ⟨_, rfl, goes, auth, rfl⟩
  | done => contradiction
  | _ => simp [Task.past] at past

variable {conduct : Conduct collate start.processes.length session id}

theorem phase_handler (shape : Shape start session id task leaves self)
    (phase : conduct.Phase task leaves self.tables) (timely : task.Timely collate self session)
    (stepped : self.advance collate start.processes.length session task = some after) :
    ∃ next, Shape start session id next leaves after ∧ conduct.Phase next leaves after.tables := by
  cases phase with
  | outside outside waits =>
      obtain ⟨next, goes, auth, goal⟩ := conduct.outsideStep outside timely shape.found stepped
      refine ⟨next, shape.goes goes (congrArg Auth.sessions auth), ?_⟩
      rcases goal with outside | ⟨entering, unseen⟩
      · exact .outside outside waits
      · rcases waits with waits | ends
        · exact .entering entering waits
        · exact absurd (shape.looked ends) unseen
  | entering entering waits =>
      obtain ⟨next, goes, auth, goal⟩ := conduct.enteringStep entering timely shape.found stepped
      refine ⟨next, shape.goes goes (congrArg Auth.sessions auth), ?_⟩
      rcases goal with entering | outside | ⟨room, current, staying⟩
      · exact .entering entering waits
      · exact .outside outside (.inl waits)
      · exact .staying staying (.inl waits)
  | staying staying looks =>
      obtain ⟨next, changed, goes, auth, staying, removing⟩ :=
        conduct.stayingStep staying .updateAccount shape.found stepped
      refine ⟨next, shape.goes goes (congrArg Auth.sessions auth), ?_⟩
      generalize after.tables = tables at removing
      cases removing
      exact .staying staying looks
  | removing staying removing =>
      obtain ⟨next, changed, goes, auth, staying, removing⟩ :=
        conduct.stayingStep staying removing shape.found stepped
      exact ⟨next, shape.goes goes (congrArg Auth.sessions auth), .removing staying removing⟩
  | gone past left ends =>
      obtain ⟨next, past, goes, auth, same⟩ := advance_past past shape.found stepped
      refine ⟨next, shape.goes goes (congrArg Auth.sessions auth), ?_⟩
      rw [same]
      exact .gone past left ends

/-- `_room.lock()` returns the room of a member. -/
theorem Shape.lockRoom (shape : Shape start session id task leaves self)
    (stays : Stays session id task self.tables room current) :
    self.lockRoom session = some room := by
  refine lockRoom_eq stays.seat ?_
  rcases stays.kept with holds | lists
  · exact alive_of_holds (List.mem_of_getElem? shape.found) holds
  · exact alive_of_lookup lists

theorem phase_expired (shape : Shape start session id task (some (.onDisconnected .expired)) self)
    (phase : conduct.Phase task (some (.onDisconnected .expired)) self.tables)
    (timely : (Task.onDisconnected .expired).Timely collate self session) :
    conduct.Phase task (some (.onDisconnected
      (if (self.lockRoom session).isSome then .lock else .readId)))
      self.tables := by
  cases phase with
  | outside outside _ =>
      rw [lockRoom_eq_none (conduct.unseated outside)]
      exact .outside outside (.inr (.inl rfl))
  | entering entering _ =>
      have enters := conduct.enters entering
      rw [timely _ (List.mem_of_getElem? shape.found) rfl] at enters
      contradiction
  | staying staying _ =>
      rw [shape.lockRoom (conduct.stays staying)]
      exact .staying staying (.inr rfl)
  | gone past left ends =>
      rcases ends with same | ⟨userId, same⟩ | same <;> cases same

theorem phase_lock (shape : Shape start session id task (some (.onDisconnected .lock)) self)
    (phase : conduct.Phase task (some (.onDisconnected .lock)) self.tables) :
    ∃ room, self.lockRoom session = some room ∧
      conduct.Phase task (some (.onDisconnected (.remove room .updateAccount))) self.tables := by
  cases phase with
  | staying staying _ =>
      exact ⟨_, shape.lockRoom (conduct.stays staying), .removing staying .updateAccount⟩
  | outside _ waits =>
      rcases waits with (same | same) | (same | ⟨userId, same⟩ | same) <;> cases same
  | entering _ waits =>
      rcases waits with same | same <;> cases same
  | gone past left ends =>
      rcases ends with same | ⟨userId, same⟩ | same <;> cases same

theorem phase_remove
    (shape : Shape start session id task (some (.onDisconnected (.remove room pc))) self)
    (phase : conduct.Phase task (some (.onDisconnected (.remove room pc))) self.tables)
    (timely : (Task.onDisconnected (.remove room pc)).Timely collate self session)
    (stepped : self.advance collate (start.processes.length + 1) session
      (.onDisconnected (.remove room pc)) = some after) :
    ∃ next, Shape start session id task (some next) after ∧
      conduct.Phase task (some next) after.tables := by
  cases phase with
  | removing staying removing =>
      rename_i base current
      have stays := conduct.stays staying
      simp only [advance, advanceDisconnected, shape.sessionId] at stepped
      have auth : after.auth = self.auth := by
        refine advanceRemove_auth ?_ ?_ ?_ stepped
        · exact shape.found_leave
        · exact fun _ => rfl
        · rfl
      rcases advanceRemove_tables stepped with ⟨fails, _⟩ | ⟨_, ⟨goal, rfl, rule⟩, goes⟩
      · rcases removing.fails stays.object fails with missing | ⟨rfl, _⟩
        · cases missing.symm.trans stays.user
        · obtain ⟨other, here, missing⟩ := fails
          have lists := timely other here
          rw [show self.listed.lookup other.roomId = none from missing] at lists
          contradiction
      · cases goal with
        | none =>
            obtain ⟨user, isUser, departed⟩ := rule.departed stays.object removing
            cases isUser.symm.trans stays.user
            refine ⟨_, shape.goes_leave (by simp) goes (by simp) (congrArg Auth.sessions auth), ?_⟩
            rcases stays.settled with past | ⟨unlisted, last⟩
            · exact .gone past ⟨task, base, room, current, past, staying, departed⟩ (.inl rfl)
            · exact absurd unlisted (rule.listed stays.object removing last)
        | some goal =>
            refine ⟨_, shape.goes_leave (by simp) goes (by simp) (congrArg Auth.sessions auth), ?_⟩
            exact .removing staying (rule.removing stays.object removing)
  | outside _ waits =>
      rcases waits with (same | same) | (same | ⟨userId, same⟩ | same) <;> cases same
  | entering _ waits =>
      rcases waits with same | same <;> cases same
  | staying _ looks =>
      rcases looks with (same | same) | same <;> cases same
  | gone past left ends =>
      rcases ends with same | ⟨userId, same⟩ | same <;> cases same

theorem phase_leave (shape : Shape start session id task (some leave) self)
    (phase : conduct.Phase task (some leave) self.tables)
    (timely : leave.Timely collate self session)
    (stepped : self.advance collate (start.processes.length + 1) session leave = some after) :
    ∃ next, Shape start session id task (some next) after ∧
      conduct.Phase task (some next) after.tables := by
  have ended : Ends (some leave) → ∃ next, Shape start session id task (some next) after ∧
      conduct.Phase task (some next) after.tables := by
    intro ends
    obtain ⟨next, nextEnds, same, nextShape⟩ := shape.ends_step ends stepped
    refine ⟨next, nextShape, ?_⟩
    rw [same]
    cases phase with
    | outside outside _ => exact .outside outside (.inr nextEnds)
    | gone past left _ => exact .gone past left nextEnds
    | entering _ waits =>
        rcases waits with waits | waits <;> cases waits
        rcases ends with same | ⟨userId, same⟩ | same <;> cases same
    | staying _ looks =>
        rcases looks with (looks | looks) | looks <;> cases looks <;>
          rcases ends with same | ⟨userId, same⟩ | same <;> cases same
    | removing =>
        rcases ends with same | ⟨userId, same⟩ | same <;> cases same
  rcases phase.leave_eq with rfl | ⟨pc, rfl⟩
  · exact ended (.inr (.inr rfl))
  · cases pc with
    | expired =>
        have goal := phase_expired shape phase timely
        cases stepped
        exact ⟨_, shape.goes_leave (by simp) ⟨rfl, rfl⟩ (by simp) rfl, goal⟩
    | lock =>
        obtain ⟨room, locks, goal⟩ := phase_lock shape phase
        simp only [advance, advanceDisconnected, locks] at stepped
        cases stepped
        exact ⟨_, shape.goes_leave (by simp) ⟨rfl, rfl⟩ (by simp) rfl, goal⟩
    | remove room pc => exact phase_remove shape phase timely stepped
    | readId => exact ended (.inl rfl)
    | update userId => exact ended (.inr (.inl ⟨userId, rfl⟩))

/-- The handler and `OnDisconnected` are in one of the phases. -/
def Proceeds (conduct : Conduct collate start.processes.length session id)
    (server : ServerState) : Prop :=
  ∃ task leaves, Shape start session id task leaves server ∧ conduct.Phase task leaves server.tables

theorem step_proceeds {event : ServerEvent} (quiescent : start.Quiescent)
    (concerns : event.Concerns session) (timely : Timely collate event self)
    (stepped : (system collate).step event self = some after) (before : Proceeds conduct self) :
    Proceeds conduct after := by
  obtain ⟨task, leaves, shape, phase⟩ := before
  rcases shape.step_cases quiescent concerns stepped with rfl | ⟨rfl, advanced⟩ | ⟨leave,
    rfl, rfl, advanced⟩
  · obtain ⟨rfl, same, nextShape⟩ := shape.disconnects stepped
    refine ⟨task, _, nextShape, ?_⟩
    rw [same]
    have waits : Waits (some (.onDisconnected .expired)) := .inr rfl
    cases phase with
    | outside outside _ => exact .outside outside (.inl waits)
    | entering entering _ => exact .entering entering waits
    | staying staying _ => exact .staying staying (.inl waits)
    | gone past left ends =>
        rcases ends with same | ⟨userId, same⟩ | same <;> cases same
  · obtain ⟨next, nextShape, nextPhase⟩ := phase_handler shape phase (timely _ shape.found) advanced
    exact ⟨next, leaves, nextShape, nextPhase⟩
  · obtain ⟨next, nextShape, nextPhase⟩ :=
      phase_leave shape phase (timely _ shape.found_leave) advanced
    exact ⟨task, some next, nextShape, nextPhase⟩

theorem Proceeds.fits (quiescent : start.Quiescent) (before : Proceeds conduct self) :
    ∀ process ∈ self.processes, process.task.Fits collate self.tables := by
  obtain ⟨task, leaves, shape, phase⟩ := before
  intro process member
  rw [shape.processes] at member
  rcases List.mem_append.mp member with earlier | member
  · rw [quiescent process earlier]
    exact Task.past_fits rfl
  rcases List.mem_cons.mp member with rfl | member
  · exact phase.fits
  · simp only [Option.mem_toList, Option.map_eq_some_iff] at member
    obtain ⟨leave, rfl, rfl⟩ := member
    rcases phase.leave_eq with rfl | ⟨pc, rfl⟩ <;> exact fun hangs => hangs.elim

/-- Once both have finished, the user is outside, as the handler leaves them or as
`OnDisconnected` does. -/
theorem Proceeds.finished (before : Proceeds conduct self) (quiescent : self.Quiescent)
    (ended : ∃ current ∈ self.sessions[session]?, current.disconnected = true) :
    conduct.Outside .done self.tables ∨ conduct.Left self.tables := by
  obtain ⟨task, leaves, shape, phase⟩ := before
  have done : task = .done := quiescent _ (List.mem_of_getElem? shape.found)
  have left : leaves = some .done := by
    obtain ⟨current, found, flag⟩ := ended
    obtain ⟨view, viewFound, _, _, iff⟩ := shape.session
    have same : view = current.auth := by
      have stored : self.sessions[session]? = some current := found
      simpa [auth, stored] using viewFound.symm
    subst same
    exact iff.mp flag
  subst done left
  cases phase with
  | outside outside _ => exact .inl outside
  | entering entering _ => cases conduct.enters entering
  | staying _ looks =>
      rcases looks with (same | same) | same <;> cases same
  | gone _ left _ => exact .inr left

end Phase

end ServerState

end ChattingProgram.Server
