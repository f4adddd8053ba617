import ChattingProgram.Server.Entry
import ChattingProgram.Server.Login

namespace ChattingProgram.Server

open ChattingProgram.Protocol ChattingProgram.Machine

/-! # Requests and their answers

Every request but `C_CHAT_LOG` is answered by one packet to the session that sent
it, and the packet repeats fields of the request.
-/

/-- What an answer repeats of its request. -/
inductive Question where
  | login (id pssd : String)
  | register (id pssd : String)
  | refreshLobby
  | createRoom (roomName : String)
  | joinRoom (roomName : String)
  | roomOut
deriving Repr, DecidableEq

def asks : Message → Option Question
  | .cLogin id pssd => some (.login id pssd)
  | .cRegister id pssd => some (.register id pssd)
  | .cRefreshLobby => some .refreshLobby
  | .cCreateRoom _ roomName => some (.createRoom roomName)
  | .cJoinRoom _ roomName => some (.joinRoom roomName)
  | .cRoomOut .. => some .roomOut
  | _ => none

def answers : Message → Option Question
  | .sLogin _ id pssd => some (.login id pssd)
  | .sRegister _ id pssd => some (.register id pssd)
  | .sRefreshLobby .. => some .refreshLobby
  | .sCreateRoom _ roomName => some (.createRoom roomName)
  | .sJoinRoom _ roomName _ => some (.joinRoom roomName)
  | .sRoomOut => some .roomOut
  | _ => none

def Task.owes : Task → Option Question
  | .login id pssd _ => some (.login id pssd)
  | .register id pssd _ => some (.register id pssd)
  | .refreshLobby _ => some .refreshLobby
  | .createRoom _ roomName _ => some (.createRoom roomName)
  | .joinRoom _ roomName _ => some (.joinRoom roomName)
  | .roomOut .. => some .roomOut
  | .chatLog .. | .onDisconnected _ | .done => none

def ServerEvent.asks (session : Nat) : ServerEvent → List Question
  | .request other message => if other = session then (Server.asks message).toList else []
  | _ => []

/-- The questions of a session, in the order of its requests. -/
def asked (session : Nat) (events : List ServerEvent) : List Question :=
  events.flatMap (ServerEvent.asks session)

def Process.owes (session : Nat) (self : Process) : List Question :=
  if self.session = session then self.task.owes.toList else []

namespace ServerState

def answered (self : ServerState) (session : Nat) : List Question :=
  (self.outbox session).filterMap answers

def pending (self : ServerState) (session : Nat) : List Question :=
  self.processes.flatMap (Process.owes session)

end ServerState

/-- The answers among the posts for a session. -/
def answersIn (posts : List Post) (session : Nat) : List Question :=
  (handed posts session).filterMap answers

/-- The answers that a step passes to `Send` of a session that is not connected. -/
def ServerEvent.refusals (session : Nat) (self : ServerState) : ServerEvent → List Question
  | .run index =>
      if self.isConnected session then []
      else
        match self.processes[index]? with
        | none => []
        | some process => answersIn (process.task.posts self process.session) session
  | _ => []

/-- The answers that a run passes to `Send` of the session when it is not connected. -/
def refused (collate : String → String) (session : Nat) : List ServerEvent →
    ServerState → List Question
  | [], _ => []
  | event :: rest, self => event.refusals session self ++
      match ServerState.step collate event self with
      | none => []
      | some after => refused collate session rest after

/-! ## One step of a handler -/

@[simp] theorem answersIn_nil (session : Nat) : answersIn [] session = [] := rfl

@[simp] theorem answersIn_reply (session : Nat) (message : Message) :
    answersIn [(session, message)] session = (answers message).toList := by
  cases answered : answers message <;> simp [answersIn, handed, answered]

theorem asked_concat (session : Nat) (past : List ServerEvent) (event : ServerEvent) :
    asked session (past ++ [event]) = asked session past ++ event.asks session := by
  simp [asked]

theorem asks_request (handles : ServerState.handler message = some task) :
    (ServerEvent.request other message).asks session = Process.owes session ⟨other, task⟩ := by
  have same : task.owes = asks message := by cases message <;> cases handles <;> rfl
  simp [ServerEvent.asks, Process.owes, same]

theorem answersIn_traffic
    (traffic : ∀ message, (session, message) ∈ posts → message.isTraffic = true) :
    answersIn posts session = [] := by
  refine List.filterMap_eq_nil_iff.mpr ?_
  intro message member
  have sent := traffic message (ServerState.mem_handed.mp member)
  cases message with
  | sChatLog | sRefreshRoom => rfl
  | _ => contradiction

theorem answersIn_broadcasts {server : ServerState} {message : Message}
    (traffic : message.isTraffic = true) (session : Nat) :
    answersIn (server.broadcasts room message excluUser) session = [] := by
  refine answersIn_traffic ?_
  intro other member
  rw [(ServerState.mem_broadcasts.mp member).1]
  exact traffic

theorem RemovePc.answersIn_posts (server : ServerState) (room : Nat) (pc : RemovePc)
    (session : Nat) : answersIn (pc.posts server room) session = [] := by
  cases pc with
  | broadcast userIds =>
      simp only [RemovePc.posts]
      split
      · rfl
      · exact answersIn_broadcasts rfl session
  | _ => rfl

namespace ServerState

variable {collate : String → String} {self after : ServerState} {index session : Nat}

theorem owes_of_reply {task : Task} (replies : task.reply = some message) :
    task.owes = answers message := by
  unfold Task.reply at replies
  split at replies <;> cases replies <;> rfl

/-- A handler owes its answer until the step that sends it. -/
theorem Turn.owes (turn : Turn collate self session task next after) :
    task.owes.toList = answersIn (task.posts self session) session ++ next.owes.toList := by
  cases turn with
  | reply replies =>
      rw [posts_of_reply replies, answersIn_reply, owes_of_reply replies]
      exact (List.append_nil _).symm
  | welcome | chat =>
      rw [Task.posts, answersIn_broadcasts rfl]
      rfl
  | @leave _ _ _ goal | @drop _ _ goal =>
      cases goal <;> simp [Task.posts, RemovePc.answersIn_posts, Task.owes]
  | _ => rfl

/-! ## One step of the server -/

/-- What a step does to the questions of a session: the answers `now` are passed to `Send`. -/
structure Books (event : ServerEvent) (session : Nat) (before after : ServerState)
    (left now right : List Question) : Prop where
  owed : before.pending session = left ++ (now ++ right)
  moved : after.pending session = left ++ right ++ event.asks session
  told : after.answered session =
    before.answered session ++ (if before.isConnected session then now else [])
  refused : event.refusals session before = if before.isConnected session then [] else now
  present : event.asks session ≠ [] → session < before.sessions.length
  connects : after.isConnected session = true → before.isConnected session = true ∨
    before.sessions.length ≤ session
  grows : before.sessions.length ≤ after.sessions.length

theorem length_sessions (stepped : (system collate).step event self = some after) :
    self.sessions.length ≤ after.sessions.length := by
  have move := step_move stepped
  have grows : self.auth.sessions.length ≤ after.auth.sessions.length := by
    generalize after.auth = next at move
    cases move <;> simp
  simpa [auth] using grows

theorem pending_spawn (server : ServerState) (other : Nat) (task : Task) (session : Nat) :
    (server.spawn other task).pending session =
      server.pending session ++ Process.owes session ⟨other, task⟩ := by
  simp [pending, spawn]

theorem Books.of_same (stepped : (system collate).step event self = some after)
    (owed : after.pending session = self.pending session ++ event.asks session)
    (told : after.outbox session = self.outbox session)
    (silent : event.refusals session self = [])
    (present : event.asks session ≠ [] → session < self.sessions.length)
    (connects : after.isConnected session = true → self.isConnected session = true ∨
      self.sessions.length ≤ session) :
    Books event session self after (self.pending session) [] [] where
  owed := by simp
  moved := by simpa using owed
  told := by simp [answered, told]
  refused := by simp [silent]
  present := present
  connects := connects
  grows := length_sessions stepped

theorem owes_step {process : Process} {next : Task}
    (owes : process.task.owes.toList =
      answersIn (process.task.posts self process.session) process.session ++ next.owes.toList)
    (session : Nat) :
    process.owes session = answersIn (process.task.posts self process.session) session ++
      Process.owes session ⟨process.session, next⟩ := by
  by_cases own : process.session = session
  · subst own
    simpa [Process.owes] using owes
  · have silent : answersIn (process.task.posts self process.session) session = [] :=
      answersIn_traffic fun message posted => (Reaches.of_mem_posts own posted).1
    simp [Process.owes, own, silent]

theorem step_books (stepped : (system collate).step event self = some after) (session : Nat) :
    ∃ left now right, Books event session self after left now right := by
  have booked := stepped
  cases (step_happens stepped).2 with
  | connect =>
      refine ⟨_, _, _, .of_same booked (List.append_nil _).symm ?_ rfl
        (fun asks => absurd rfl asks) ?_⟩
      all_goals rcases Nat.lt_or_ge session self.sessions.length with within | beyond
      · simp only [outbox, List.getElem?_append_left within]
      · simp only [outbox, List.getElem?_append_right beyond, List.getElem?_eq_none beyond]
        cases session - self.sessions.length <;> rfl
      · simp only [isConnected, List.getElem?_append_left within]
        exact .inl
      · exact fun _ => .inr beyond
  | @request other message task present handles =>
      refine ⟨_, _, _, .of_same booked ?_ rfl rfl ?_ .inl⟩
      · rw [pending_spawn, asks_request handles]
      · intro asks
        by_cases own : other = session
        · exact own ▸ present
        · simp [ServerEvent.asks, own] at asks
  | @disconnect other current found _ =>
      refine ⟨_, _, _, .of_same booked ?_ ?_ rfl (fun asks => absurd rfl asks) ?_⟩
      · rw [pending_spawn]
        simp [pending, modifySession, Process.owes, Task.owes, ServerEvent.asks]
      all_goals simp only [outbox, isConnected, spawn, getElem?_modifySession, Option.map_map]
      all_goals cases self.sessions[session]? with
        | none => simp
        | some current => by_cases here : other = session <;> simp +contextual [here]
  | @run index actor task _ found stepped =>
      have delivers := advance_delivers stepped
      have posts : (ServerEvent.run index).refusals session self =
          if self.isConnected session then [] else answersIn (task.posts self actor) session := by
        simp only [ServerEvent.refusals, found]
      rcases advance_turn stepped with ⟨cause, stops, rfl⟩ | ⟨next, changed, turn, rfl⟩
      · refine ⟨_, _, _, .of_same booked (List.append_nil _).symm rfl ?_
          (fun asks => absurd rfl asks) .inl⟩
        simp [posts, stops.silent]
      · have goes : Goes index actor next self _ := turn.goes
        obtain ⟨left, right, owed, moved⟩ := flatMap_set (Process.owes session) found
        refine ⟨left, answersIn (task.posts self actor) session,
          Process.owes session ⟨actor, next⟩ ++ right, ?_, ?_, ?_, posts, fun asks =>
          absurd rfl asks, ?_, length_sessions booked⟩
        · rw [pending, owed, owes_step turn.owes session, List.append_assoc]
        · rw [pending, goes.processes, moved]
          exact (List.append_nil _).symm
        · rw [answered, delivers.outbox session, List.filterMap_append]
          split <;> rfl
        · rw [delivers.connected]
          exact .inl

/-! ## Every interleaving -/

theorem refused_concat (ran : (system collate).run past start = some self) :
    refused collate session (past ++ [event]) start =
      refused collate session past start ++ event.refusals session self := by
  induction past generalizing start with
  | nil =>
      cases ran
      simp only [List.nil_append, refused]
      cases step collate event self <;> simp
  | cons first rest ih =>
      obtain ⟨next, stepped, remaining⟩ := System.run_cons_some.mp ran
      have moved : step collate first start = some next := stepped
      simp only [List.cons_append, refused, moved, ih remaining, List.append_assoc]

/-- What a session has asked, and what has become of it. -/
structure Answering (collate : String → String) (session : Nat) (past : List ServerEvent)
    (server : ServerState) : Prop where
  reached : (system collate).run past fresh = some server
  settled : (server.answered session ++ server.pending session ++
    refused collate session past fresh).Perm (asked session past)
  kept : server.isConnected session = true → refused collate session past fresh = []
  absent : server.sessions.length ≤ session → asked session past = [] ∧ server.pending session = []

theorem step_answering (stepped : (system collate).step event self = some after)
    (answering : Answering collate session past self) :
    Answering collate session (past ++ [event]) after := by
  obtain ⟨left, now, right, books⟩ := step_books stepped session
  have all := answering.settled
  have owed := books.owed
  have more : refused collate session (past ++ [event]) fresh = _ :=
    refused_concat answering.reached
  rw [books.refused] at more
  -- a session that is about to connect has asked nothing
  have beyond (new : self.sessions.length ≤ session) : event.asks session = [] ∧
      refused collate session past fresh = [] ∧ left = [] ∧ now = [] ∧ right = [] := by
    obtain ⟨none, idle⟩ := answering.absent new
    rw [none, List.perm_nil] at all
    rw [idle] at owed
    simp only [List.nil_eq, List.append_eq_nil_iff] at all owed
    refine ⟨?_, all.2, owed⟩
    by_contra asks
    exact absurd (books.present asks) (Nat.not_lt.mpr new)
  constructor
  · exact System.run_append_some.mpr ⟨self, answering.reached,
      System.run_cons_some.mpr ⟨after, stepped, rfl⟩⟩
  · refine List.perm_iff_count.mpr fun question => ?_
    have counted := all.count_eq question
    rw [asked_concat, books.told, books.moved, more]
    simp only [owed, List.count_append] at counted ⊢
    split <;> simp only [List.count_nil] <;> omega
  · intro connected
    rw [more]
    rcases books.connects connected with before | new
    · simp [answering.kept before, before]
    · simp [beyond new]
  · intro new
    obtain ⟨unasked, _, rfl, _, rfl⟩ := beyond (books.grows.trans new)
    simp [asked_concat, books.moved, unasked, (answering.absent (books.grows.trans new)).1]

theorem pending_of_quiescent (quiescent : self.Quiescent) (session : Nat) :
    self.pending session = [] := by
  refine List.flatMap_eq_nil_iff.mpr ?_
  intro process member
  rw [Process.owes, quiescent process member]
  exact ite_self _

/-- No answer is made up or given twice: the answers queued for a session, those that its handlers owe,
and those whose `Send` found it disconnected are its questions.  None is refused while the session stays
connected, and handlers that are done owe nothing. -/
theorem questions_answered {events : List ServerEvent}
    (ran : (system collate).run events fresh = some self) (session : Nat) :
    (self.answered session ++ self.pending session ++ refused collate session events fresh).Perm
      (asked session events) ∧
    (self.isConnected session = true → refused collate session events fresh = []) ∧
    (self.Quiescent → self.pending session = []) := by
  have start : Answering collate session [] fresh :=
    ⟨rfl, List.Perm.refl _, fun _ => rfl, fun _ => ⟨rfl, rfl⟩⟩
  have answering : Answering collate session events self :=
    System.run_history step_answering ran start
  exact ⟨answering.settled, answering.kept, fun quiescent => pending_of_quiescent quiescent session⟩

/-- The connection drops between the two answers; another session waits for its room. -/
theorem questions_answered_dropped :
    ∃ events self, (system id).run events fresh = some self ∧ self.answered 0 = [.login "a" "p"] ∧
      refused id 0 events fresh = [.refreshLobby] ∧ self.pending 1 = [.createRoom "r"] ∧
      (self.answered 0 ++ self.pending 0 ++ refused id 0 events fresh).Perm (asked 0 events) ∧
      refused id 1 events fresh = [] := by
  obtain ⟨events, self, ran, told, lost, owed, connected⟩ : ∃ events self,
      (system id).run events fresh = some self ∧ self.answered 0 = [.login "a" "p"] ∧
      refused id 0 events fresh = [.refreshLobby] ∧ self.pending 1 = [.createRoom "r"] ∧
      self.isConnected 1 = true :=
    ⟨[.connect, .connect, .request 0 (.cLogin "a" "p"), .request 1 (.cCreateRoom "b" "r"),
      .request 0 .cRefreshLobby, .run 2, .run 1, .run 0, .run 0, .disconnect 0, .run 2], _, rfl,
      rfl, rfl, rfl, rfl⟩
  exact ⟨events, self, ran, told, lost, owed, (questions_answered ran 0).1,
    (questions_answered ran 1).2.1 connected⟩

end ServerState

end ChattingProgram.Server
