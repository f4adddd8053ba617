import ChattingProgram.Server.Auth
import ChattingProgram.Server.Steps

namespace ChattingProgram.Server

open ChattingProgram.Protocol ChattingProgram.Machine

/-! # Logins on the server

The server makes moves of the login protocol: the login handler, the register
handler and `OnDisconnected` make one each where they touch an account or an id,
and every other step leaves the logins alone.
-/

def authStage : Task → AuthStage
  | .login id _ .update => .selected id
  | .login id _ .setId => .updated id
  | .onDisconnected (.update id) => .left id
  | .onDisconnected _ => .leaving
  | _ => .idle

def Task.authenticates : Task → Bool
  | .login .. | .register .. | .onDisconnected _ => true
  | _ => false

def ServerEvent.actor : ServerEvent → Option Nat
  | .run index => some index
  | _ => none

def AccountRow.auth (self : AccountRow) : AuthAccount := ⟨self.id, self.isOnline⟩

def ClientSession.auth (self : ClientSession) : AuthSession :=
  ⟨self.id, self.connected, self.disconnected⟩

def Process.auth (self : Process) : AuthProcess := ⟨self.session, authStage self.task⟩

namespace Database

variable {collate : String → String} {self after : Database}

theorem insertRoom_account (inserted : self.insertRoom collate roomName = some after) :
    after.account = self.account := by
  simp only [insertRoom] at inserted
  split at inserted
  · contradiction
  · cases inserted
    rfl

theorem insertLog_account {id : String}
    (inserted : self.insertLog collate id roomId message = some after) :
    after.account = self.account := by
  simp only [insertLog] at inserted
  split at inserted
  · cases inserted
    rfl
  · contradiction

theorem updateCurrentRoom_auth {id : String}
    (updated : self.updateCurrentRoom collate id roomId = some after) :
    after.account.map AccountRow.auth = self.account.map AccountRow.auth := by
  simp only [updateCurrentRoom] at updated
  split at updated
  · contradiction
  · cases updated
    rw [List.map_map]
    refine List.map_congr_left fun row _ => ?_
    simp only [Function.comp_apply]
    split <;> rfl

theorem deleteRoom_auth (roomId : Nat) :
    (self.deleteRoom roomId).account.map AccountRow.auth = self.account.map AccountRow.auth := by
  simp only [deleteRoom]
  split
  · rw [List.map_map]
    refine List.map_congr_left fun row _ => ?_
    simp only [Function.comp_apply]
    split <;> rfl
  · rfl

theorem insertAccount_auth {id : String}
    (inserted : self.insertAccount collate id password = some after) :
    (∀ account ∈ self.account.map AccountRow.auth, collate account.id ≠ collate id) ∧
      after.account.map AccountRow.auth = self.account.map AccountRow.auth ++ [⟨id, false⟩] := by
  simp only [insertAccount] at inserted
  split at inserted
  · contradiction
  · rename_i unused
    cases inserted
    constructor
    · intro account member named
      obtain ⟨row, rowMember, rfl⟩ := List.mem_map.mp member
      exact unused (.inr (.inr ⟨row, rowMember, named⟩))
    · rw [List.map_append]
      rfl

theorem updateOnline_auth (id : String) (isOnline : Bool) :
    (self.updateOnline collate id isOnline).account.map AccountRow.auth =
      Auth.mark collate (self.account.map AccountRow.auth) id isOnline := by
  simp only [updateOnline, Auth.mark, List.map_map]
  refine List.map_congr_left fun row _ => ?_
  by_cases named : collate row.id = collate id <;> simp [AccountRow.auth, named]

end Database

namespace ServerState

def auth (self : ServerState) : Auth where
  accounts := self.db.account.map AccountRow.auth
  sessions := self.sessions.map ClientSession.auth
  processes := self.processes.map Process.auth
  lock := self.loginLock

/-- A change that touches neither logins nor processes. -/
structure Quiet (before after : ServerState) : Prop where
  auth : after.auth = before.auth
  processes : after.processes = before.processes

theorem Quiet.of_same {before after : ServerState} (db : after.db.account.map AccountRow.auth =
      before.db.account.map AccountRow.auth) (sessions : after.sessions.map ClientSession.auth =
      before.sessions.map ClientSession.auth) (processes : after.processes = before.processes)
    (lock : after.loginLock = before.loginLock) : Quiet before after := by
  refine ⟨?_, processes⟩
  simp only [ServerState.auth, db, sessions, processes, lock]

theorem Quiet.trans (first : Quiet before middle) (second : Quiet middle after) :
    Quiet before after :=
  ⟨second.auth.trans first.auth, second.processes.trans first.processes⟩

theorem modifySession_quiet (self : ServerState) (session : Nat)
    {change : ClientSession → ClientSession}
    (same : ∀ current, (change current).auth = current.auth) :
    Quiet self (self.modifySession session change) :=
  .of_same rfl (map_modify same) rfl rfl

theorem setRoom_quiet (self : ServerState) (session : Nat) (room : Option Nat) :
    Quiet self (self.setRoom session room) :=
  modifySession_quiet self session fun _ => rfl

theorem Queues.quiet (queues : Queues before after) : Quiet before after := by
  refine .of_same ?_ (queues.map fun _ => rfl) ?_ ?_
  all_goals rw [queues.rest]

section Quiet

variable {collate : String → String} {self after : ServerState} {index session : Nat}

theorem Quiet.put (quiet : Quiet self changed)
    (found : self.processes[index]? = some ⟨session, task⟩)
    (same : authStage next = authStage task) :
    (changed.put index ⟨session, next⟩).auth = self.auth := by
  have unchanged : (changed.processes.set index ⟨session, next⟩).map Process.auth =
      self.processes.map Process.auth := by
    rw [quiet.processes, List.map_set]
    refine set_same ?_
    rw [List.getElem?_map, found]
    simp only [Option.map_some, Process.auth, same]
  have view := quiet.auth
  simp only [ServerState.auth, Auth.mk.injEq] at view
  simp only [ServerState.auth, ServerState.put, unchanged, view.1, view.2.1, view.2.2.2]

theorem RemoveTurn.quiet (turn : RemoveTurn collate self room userId pc goal after) :
    Quiet self after := by
  cases turn with
  | updateAccount _ _ updated =>
      exact .of_same (Database.updateCurrentRoom_auth updated) rfl rfl rfl
  | erase => exact (setRoom_quiet ..).trans (.of_same rfl rfl rfl rfl)
  | delete => exact .of_same (Database.deleteRoom_auth _) rfl rfl rfl
  | broadcast => exact (refresh_queues ..).quiet.trans (.of_same rfl rfl rfl rfl)
  | _ => exact .of_same rfl rfl rfl rfl

end Quiet

/-! ## Moves of the protocol -/

section Moves

variable {collate : String → String} {self after : ServerState} {index session : Nat}

theorem auth_found (found : self.processes[index]? = some ⟨session, task⟩) :
    self.auth.processes[index]? = some ⟨session, authStage task⟩ := by
  simp only [auth, List.getElem?_map, found, Option.map_some, Process.auth]

theorem auth_put (task : Task) : (self.put index ⟨session, task⟩).auth =
    { self.auth with processes := self.auth.processes.set index ⟨session, authStage task⟩ } := by
  simp only [auth, put, List.map_set, Process.auth]

theorem auth_modifySession {change : ClientSession → ClientSession}
    (authChange : AuthSession → AuthSession)
    (same : ∀ current, (change current).auth = authChange current.auth) :
    (self.modifySession session change).auth =
      { self.auth with sessions := self.auth.sessions.modify session authChange } := by
  simp only [auth, modifySession, Auth.mk.injEq, true_and, and_true]
  apply List.ext_getElem?
  intro place
  rw [List.getElem?_map, List.getElem?_modify, List.getElem?_modify, List.getElem?_map]
  cases self.sessions[place]? with
  | none => rfl
  | some current => by_cases here : session = place <;> simp [here, same current]

theorem Move.of_same (same : after.auth = self.auth) :
    Auth.Move collate actor self.auth after.auth := by
  rw [same]
  exact .stutter _

theorem Quiet.move {changed : ServerState} {task next : Task} (quiet : Quiet self changed)
    (found : self.processes[index]? = some ⟨session, task⟩)
    (same : authStage next = authStage task) :
    Auth.Move collate (some index) self.auth (changed.put index ⟨session, next⟩).auth :=
  Move.of_same (quiet.put found same)

theorem authStage_reply {task : Task} (answers : task.reply = some message) :
    authStage .done = authStage task := by
  unfold Task.reply at answers
  split at answers <;> first | rfl | contradiction

/-- All other handlers leave the logins alone. -/
theorem Turn.quiet (turn : Turn collate self session task next after)
    (other : task.authenticates = false) : Quiet self after ∧ authStage next = authStage task := by
  cases turn with
  | reply answers => exact ⟨(send_queues ..).quiet, authStage_reply answers⟩
  | insertRoom inserted =>
      have same := Database.insertRoom_account inserted
      exact ⟨.of_same (by rw [same]) rfl rfl rfl, rfl⟩
  | insertLog inserted =>
      have same := Database.insertLog_account inserted
      exact ⟨.of_same (by rw [same]) rfl rfl rfl, rfl⟩
  | settle updated | enter updated =>
      exact ⟨.of_same (Database.updateCurrentRoom_auth updated) rfl rfl rfl, rfl⟩
  | setRoom => exact ⟨setRoom_quiet .., rfl⟩
  | addUser =>
      refine ⟨.trans ?_ (setRoom_quiet ..), rfl⟩
      exact .of_same rfl rfl rfl rfl
  | welcome | chat => exact ⟨(broadCast_queues ..).quiet, rfl⟩
  | @leave _ _ _ goal _ turn => exact ⟨turn.quiet, by cases goal <;> rfl⟩
  | _ => first | contradiction | exact ⟨.of_same rfl rfl rfl rfl, rfl⟩

theorem Turn.move {task next : Task} (found : self.processes[index]? = some ⟨session, task⟩)
    (turn : Turn collate self session task next after) :
    Auth.Move collate (some index) self.auth (after.put index ⟨session, next⟩).auth := by
  cases other : task.authenticates with
  | false =>
      obtain ⟨quiet, same⟩ := turn.quiet other
      exact quiet.move found same
  | true =>
      cases turn with
      | reply answers => exact (send_queues ..).quiet.move found (authStage_reply answers)
      | noLogin | noRegister | lock => exact Quiet.move ⟨rfl, rfl⟩ found rfl
      | expired => exact Quiet.move ⟨rfl, rfl⟩ found (by split <;> rfl)
      | @drop _ _ goal _ turn => exact turn.quiet.move found (by cases goal <;> rfl)
      | login unlocked offline =>
          simp only [Database.selectOffline, List.any_eq_true, decide_eq_true_eq] at offline
          obtain ⟨row, member, named, _, rowOffline⟩ := offline
          rw [auth_put]
          exact .select self.auth rfl (auth_found found) unlocked (List.mem_map_of_mem member)
            named rowOffline
      | online =>
          rw [auth_put]
          simp only [auth, Database.updateOnline_auth]
          exact .update self.auth rfl (auth_found found)
      | @setId id =>
          rw [auth_put, ServerState.setId,
            auth_modifySession (fun current => { current with id := id }) fun _ => rfl]
          exact .setId self.auth rfl (auth_found found)
      | register inserted =>
          obtain ⟨unused, grown⟩ := Database.insertAccount_auth inserted
          have unmoved : self.auth.processes[index]? = some ⟨session, .idle⟩ := auth_found found
          rw [auth_put, set_same (by exact unmoved)]
          simp only [auth, grown]
          exact .register self.auth unused
      | readId =>
          rw [auth_put]
          refine .readId self.auth rfl (auth_found found) ?_
          intro current placed
          simp only [auth, List.getElem?_map, Option.map_eq_some_iff] at placed
          obtain ⟨stored, storedFound, rfl⟩ := placed
          simp only [sessionId, storedFound, Option.map_some, Option.getD_some, ClientSession.auth]
      | offline =>
          rw [auth_put, auth_modifySession
            (fun current => { current with disconnected := true }) fun _ => rfl]
          simp only [auth, Database.updateOnline_auth]
          exact .logout self.auth rfl (auth_found found)
      | _ => contradiction

theorem advance_auth {task : Task} (other : task.authenticates = false)
    (found : self.processes[index]? = some ⟨session, task⟩)
    (stepped : self.advance collate index session task = some after) : after.auth = self.auth := by
  rcases advance_turn stepped with ⟨cause, _, rfl⟩ | ⟨next, changed, turn, rfl⟩
  · rfl
  · obtain ⟨quiet, same⟩ := turn.quiet other
    exact quiet.put found same

theorem advanceRemove_auth {resume : RemovePc → Task}
    (found : self.processes[index]? = some ⟨session, resume pc⟩)
    (resumes : ∀ next, authStage (resume next) = authStage (resume pc))
    (finishes : authStage finished = authStage (resume pc))
    (stepped : self.advanceRemove collate index session room userId resume finished pc =
      some after) :
    after.auth = self.auth := by
  rcases advanceRemove_turn stepped with ⟨cause, _, rfl⟩ | ⟨goal, changed, turn, rfl⟩
  · rfl
  · refine turn.quiet.put found ?_
    cases goal with
    | none => exact finishes
    | some goal => exact resumes goal

theorem authStage_handler (handles : handler message = some task) : authStage task = .idle := by
  cases message with
  | cLogin | cRegister | cRefreshLobby | cCreateRoom | cJoinRoom | cChatLog | cRoomOut =>
      cases handles
      rfl
  | sLogin | sRegister | sRefreshLobby | sCreateRoom | sJoinRoom | sRefreshRoom | sChatLog
  | sRoomOut =>
      contradiction

theorem auth_spawn (self : ServerState) (session : Nat) (task : Task) :
    (self.spawn session task).auth =
    { self.auth with processes := self.auth.processes ++ [⟨session, authStage task⟩] } := by
  simp only [auth, spawn, List.map_append, List.map_cons, List.map_nil, Process.auth]

theorem disconnect_move (found : self.sessions[session]? = some current)
    (connected : current.connected = true) :
    Auth.Move collate none self.auth ((self.modifySession session fun current =>
      { current with connected := false }).spawn session (.onDisconnected .expired)).auth := by
  have placed : self.auth.sessions[session]? = some current.auth := by
    simp only [auth, List.getElem?_map, found, Option.map_some]
  have changed : self.auth.sessions.modify session
      (fun current => { current with connected := false }) =
      self.auth.sessions.set session { current.auth with connected := false } := by
    rw [List.modify_eq_set_getElem?, placed]
    rfl
  rw [auth_spawn, auth_modifySession (fun current => { current with connected := false })
    fun _ => rfl, changed]
  exact .disconnect self.auth placed connected

/-- Every step of the server is a move of the login protocol. -/
theorem step_move {event : ServerEvent} (stepped : step collate event self = some after) :
    Auth.Move collate event.actor self.auth after.auth := by
  cases (step_happens stepped).2 with
  | connect =>
      simp only [auth, List.map_append, List.map_cons, List.map_nil]
      exact .connect self.auth
  | @request session message task _ handles =>
      have idle := authStage_handler handles
      rw [auth_spawn, idle]
      exact .request self.auth session
  | @disconnect session current found connected =>
      exact disconnect_move found connected
  | @run index session task _ found stepped =>
      rcases advance_turn stepped with ⟨cause, _, rfl⟩ | ⟨next, changed, turn, rfl⟩
      · exact Move.of_same rfl
      · exact turn.move found

end Moves

end ServerState

end ChattingProgram.Server
