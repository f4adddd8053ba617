import ChattingProgram.Server.Naming
import ChattingProgram.Server.Online
import ChattingProgram.Server.Positions

namespace ChattingProgram.Server

open ChattingProgram.Protocol ChattingProgram.Machine

/-! # Requests that stop the server

The requests and the disconnects one after the other, each handled to its end.
A handler that runs alone comes to its end or to an assertion that fails, and
which of the two is decided by the state that the request finds.
-/

/-! The steps that are left of a handler, at most. -/

def CreatePc.rank : CreatePc → Nat
  | .select => 9
  | .insert => 8
  | .selectId => 7
  | .updateAccount _ => 6
  | .makeRoom _ => 5
  | .fetchAdd _ => 4
  | .setRoom _ => 3
  | .addRoom _ => 2
  | .reply _ => 1

def JoinPc.rank : JoinPc → Nat
  | .select => 10
  | .getRoom _ => 9
  | .load .. => 8
  | .cas .. => 7
  | .updateAccount .. => 6
  | .updateRoom .. => 5
  | .selectMembers .. => 4
  | .addUser .. => 3
  | .broadcast .. => 2
  | .reply .. => 1

def RemovePc.rank : RemovePc → Nat
  | .updateAccount => 7
  | .updateRoom => 6
  | .erase => 5
  | .fetchSub => 4
  | .cas => 3
  | .delete | .select => 2
  | .removeRoom | .broadcast _ => 1

def OutPc.rank : OutPc → Nat
  | .select => 10
  | .getRoom _ => 9
  | .remove _ pc => pc.rank + 1
  | .reply _ => 1

theorem CreateStep.descends {collate : String → String} {id : String}
    (rule : CreateStep collate session id roomName tables pc (some goal) after) :
    goal.rank < pc.rank ∧ goal ≠ .select := by
  cases rule <;> simp [CreatePc.rank]

theorem RemoveStep.descends {collate : String → String}
    (rule : RemoveStep collate room userId tables pc (some goal) after) : goal.rank < pc.rank := by
  cases rule <;> simp [RemovePc.rank]

theorem OutStep.descends {collate : String → String} {id : String}
    (rule : OutStep collate id tables pc (some goal) after) : goal.rank < pc.rank := by
  generalize target : some goal = goals at rule
  cases rule with
  | select | getRoom =>
      cases target
      simp [OutPc.rank, RemovePc.rank]
  | @remove _ _ next _ rule =>
      cases next with
      | none =>
          cases target
          simp only [OutPc.rank, Option.elim]
          cases rule <;> simp [RemovePc.rank]
      | some next =>
          cases target
          simpa [OutPc.rank] using rule.descends
  | reply => cases target

/-- No room is locked, and every room that is listed is there. -/
structure Tables.Free (tables : Tables) : Prop where
  unlocked : ∀ {room : Nat} {current : Room}, tables.rooms[room]? = some current →
    current.locked = false
  listed : ∀ {roomId room : Nat}, tables.listed.lookup roomId = some room →
    ∃ current, tables.rooms[room]? = some current

/-- What a join that runs alone refers to. -/
def JoinPc.Refers (tables : Tables) : JoinPc → Prop
  | .select | .reply .. => True
  | .getRoom roomId => ∃ row ∈ tables.db.room, row.roomId = roomId
  | .load roomId room | .updateAccount roomId room =>
      (∃ row ∈ tables.db.room, row.roomId = roomId) ∧ ∃ current, tables.rooms[room]? = some current
  | .cas roomId room state => (∃ row ∈ tables.db.room, row.roomId = roomId) ∧
      ∃ current, tables.rooms[room]? = some current ∧ current.roomState = state
  | .updateRoom _ room | .selectMembers _ room | .addUser room _ | .broadcast room _ =>
      ∃ current, tables.rooms[room]? = some current

section Join

variable {collate : String → String} {session : Nat} {id roomName : String} {tables after : Tables}
  {pc goal : JoinPc}

theorem Tables.Free.setObject {next : Room} (free : tables.Free)
    (object : tables.rooms[room]? = some current) (same : next.locked = current.locked) :
    (tables.setObject room next).Free where
  unlocked := by
    intro place other found
    rcases getElem?_set_cases found with ⟨_, rfl⟩ | ⟨_, still⟩
    · exact same.trans (free.unlocked object)
    · exact free.unlocked still
  listed := by
    intro roomId place lists
    obtain ⟨other, found⟩ := free.listed lists
    have within := (List.getElem?_eq_some_iff.mp found).1
    exact ⟨_, List.getElem?_eq_getElem (by simpa [Tables.setObject] using within)⟩

theorem JoinStep.alone (free : tables.Free) (refers : pc.Refers tables)
    (rule : JoinStep collate session id roomName tables pc (some goal) after) :
    (after.Free ∧ goal.Refers after) ∧ goal.rank < pc.rank := by
  cases rule with
  | select found =>
      obtain ⟨row, isRow, rfl⟩ := Option.map_eq_some_iff.mp found
      exact ⟨⟨free, row, List.mem_of_find?_eq_some isRow, rfl⟩, by simp [JoinPc.rank]⟩
  | unknown | unlisted | refuse | broadcast => exact ⟨⟨free, trivial⟩, by simp [JoinPc.rank]⟩
  | getRoom lists => exact ⟨⟨free, refers, free.listed lists⟩, by simp [JoinPc.rank]⟩
  | load object => exact ⟨⟨free, refers.1, _, object, rfl⟩, by simp [JoinPc.rank]⟩
  | cas object =>
      have within := (List.getElem?_eq_some_iff.mp object).1
      refine ⟨⟨free.setObject object rfl, refers.1, ?_⟩, by simp [JoinPc.rank]⟩
      exact ⟨_, List.getElem?_set_self within⟩
  | again object differs | lost object differs =>
      obtain ⟨_, current, found, same⟩ := refers
      cases found.symm.trans object
      exact absurd same differs
  | updateAccount updated => exact ⟨⟨⟨free.unlocked, free.listed⟩, refers.2⟩, by simp [JoinPc.rank]⟩
  | updateRoom => exact ⟨⟨⟨free.unlocked, free.listed⟩, refers⟩, by simp [JoinPc.rank]⟩
  | selectMembers => exact ⟨⟨free, refers⟩, by simp [JoinPc.rank]⟩
  | miss object => exact ⟨⟨free, refers⟩, by simp [JoinPc.rank]⟩
  | @addUser room _ current object =>
      have within := (List.getElem?_eq_some_iff.mp object).1
      have kept : (tables.setObject room { current with
          users := current.users.insert id session }).Free :=
        free.setObject object rfl
      exact ⟨⟨⟨kept.unlocked, kept.listed⟩, _,
        List.getElem?_set_self within⟩, by simp [JoinPc.rank]⟩

theorem JoinPc.Refers.not_hangs (refers : pc.Refers tables) : ¬ JoinHangs collate id tables pc := by
  cases pc with
  | updateAccount roomId room =>
      intro hangs
      obtain ⟨⟨row, member, same⟩, _⟩ := refers
      exact Database.updateCurrentRoom_eq_none hangs row member same
  | _ => exact fun hangs => hangs

end Join

/-- The name of a new room fits its column. -/
def ServerEvent.Fits : ServerEvent → Prop
  | .request _ (.cCreateRoom _ roomName) => roomName.length ≤ 30
  | _ => True

namespace ServerState

/-- The handler runs to its end, alone. -/
def finish (collate : String → String) (index : Nat) : Nat → ServerState → ServerState
  | 0, self => self
  | fuel + 1, self =>
      match step collate (.run index) self with
      | none => self
      | some next => finish collate index fuel next

/-- The most steps that a handler takes when it runs alone. -/
def handlerSteps : Nat := 16

/-- One request, or one disconnect, as a whole. -/
def serve (collate : String → String) : ServerEvent → ServerState → Option ServerState
  | .run _, _ => none
  | .connect, self => step collate .connect self
  | event, self => (step collate event self).map (finish collate self.processes.length handlerSteps)

def oneByOne (collate : String → String) : System ServerState ServerEvent := ⟨serve collate⟩

/-- The room that `C_ROOM_OUT` needs. -/
def HousesUser (collate : String → String) (tables : Tables) (id : String) : Prop :=
  ∃ roomId room current, tables.Houses collate id roomId room current ∧ id ∈ current.users

/-- The room that `OnDisconnected` finds has the user under the id of the session. -/
def SeatsUser (self : ServerState) (session : Nat) : Prop :=
  ∀ room ∈ self.lockRoom session, ∀ current ∈ self.rooms[room]?,
    self.sessionId session ∈ current.users

/-- The state has what the handler asserts. -/
def Harmless (collate : String → String) : ServerEvent → ServerState → Prop
  | .request _ (.cChatLog id _ _), self => (self.db.selectChatRoom collate id).isSome = true
  | .request _ (.cRoomOut id _), self => HousesUser collate self.tables id
  | .disconnect session, self => self.SeatsUser session
  | _, _ => True

variable {collate : String → String} {self middle after : ServerState}
  {index session : Nat} {Good : Prop}

/-- A handler has come to its end, or has failed where it had to. -/
def Verdict (index session : Nat) (Good : Prop) (before after : ServerState) : Prop :=
  (Good ∧ after.crash = none ∧ after.processes = before.processes.set index ⟨session, .done⟩) ∨
    (¬ Good ∧ after.crash ≠ none)

theorem finish_goes (found : self.processes[index]? = some ⟨session, task⟩)
    (running : self.crash = none)
    (advanced : self.advance collate index session task = some middle) :
    finish collate index (fuel + 1) self = finish collate index fuel middle := by
  have stepped : step collate (.run index) self = some middle := by
    simp only [step, running, Option.isSome_none, Bool.false_eq_true, if_false, found,
      Option.bind_some]
    exact advanced
  simp only [finish, stepped]

theorem finish_done (found : self.processes[index]? = some ⟨session, .done⟩) :
    finish collate index fuel self = self := by
  have stepped : step collate (.run index) self = none := by
    simp [step, found, advance]
  cases fuel with
  | zero => rfl
  | succ fuel => simp only [finish, stepped]

theorem finish_crashed (crashed : self.crash ≠ none) : finish collate index fuel self = self := by
  have stepped : step collate (.run index) self = none := by
    simp [step, Option.isSome_iff_ne_none.mpr crashed]
  cases fuel with
  | zero => rfl
  | succ fuel => simp only [finish, stepped]

theorem Verdict.of_goes (goes : Goes index session next self middle)
    (verdict : Verdict index session Good middle after) :
    Verdict index session Good self after := by
  rcases verdict with ⟨good, running, processes⟩ | failed
  · left
    refine ⟨good, running, ?_⟩
    rw [processes, goes.processes, List.set_set]
  · exact .inr failed

theorem verdict_done (found : self.processes[index]? = some ⟨session, .done⟩)
    (running : self.crash = none) (good : Good) :
    Verdict index session Good self (finish collate index fuel self) := by
  rw [finish_done found]
  exact .inl ⟨good, running, (set_same found).symm⟩

theorem verdict_step (found : self.processes[index]? = some ⟨session, task⟩)
    (running : self.crash = none)
    (advanced : self.advance collate index session task = some middle)
    (goes : Goes index session next self middle)
    (rest : middle.processes[index]? = some ⟨session, next⟩ → middle.crash = none →
      Verdict index session Good middle (finish collate index fuel middle)) :
    Verdict index session Good self (finish collate index (fuel + 1) self) := by
  rw [finish_goes found running advanced]
  exact .of_goes goes (rest (goes.found found) (goes.crash.trans running))

theorem verdict_crash (found : self.processes[index]? = some ⟨session, task⟩)
    (running : self.crash = none)
    (advanced : self.advance collate index session task = some (self.crashed cause))
    (bad : ¬ Good) : Verdict index session Good self (finish collate index (fuel + 1) self) := by
  rw [finish_goes found running advanced, finish_crashed (by simp [crashed])]
  exact .inr ⟨bad, by simp [crashed]⟩

/-- A handler that runs alone and takes every step of its positions. -/
theorem finish_solo {Pc : Type} (wrap : Pc → Task) (final : Task) (Fails : Tables → Pc → Prop)
    (Step : Tables → Pc → Option Pc → Tables → Prop) (At : Pc → Tables → Prop) (rank : Pc → Nat)
    (slack : Nat)
    (inversion : ∀ {self after : ServerState} {pc : Pc},
      self.advance collate index session (wrap pc) = some after →
      Outcome index session self after (Fails self.tables pc) fun next tables =>
        ∃ goal, next = goal.elim final wrap ∧ Step self.tables pc goal tables)
    (enabled : ∀ {self : ServerState} {pc : Pc}, At pc self.tables →
      ∃ after, self.advance collate index session (wrap pc) = some after)
    (continues : ∀ {pc goal before after}, At pc before → Step before pc (some goal) after →
      At goal after ∧ rank goal < rank pc)
    (fails : ∀ {pc tables}, At pc tables → Fails tables pc → ¬ Good)
    (ends : ∀ {pc before fuel} {self : ServerState}, At pc before →
      Step before pc none self.tables →
      slack ≤ fuel → self.processes[index]? = some ⟨session, final⟩ → self.crash = none →
      Verdict index session Good self (finish collate index fuel self)) {pc : Pc}
    (enough : rank pc + slack < fuel) (found : self.processes[index]? = some ⟨session, wrap pc⟩)
    (running : self.crash = none) (place : At pc self.tables) :
    Verdict index session Good self (finish collate index fuel self) := by
  induction fuel generalizing self pc with
  | zero => omega
  | succ fuel ih =>
      obtain ⟨after, advanced⟩ := enabled place
      rcases inversion advanced with ⟨failing, cause, rfl⟩ | ⟨_, ⟨goal, rfl, rule⟩, goes⟩
      · exact verdict_crash found running advanced (fails place failing)
      · refine verdict_step found running advanced goes fun next still => ?_
        cases goal with
        | none => exact ends place rule (by omega) next still
        | some goal =>
            obtain ⟨nextPlace, less⟩ := continues place rule
            exact ih (by omega) next still nextPlace

/-! ## The handlers one by one -/

/-- Between two requests: no handler is in progress and no lock is held. -/
structure Resting (collate : String → String) (server : ServerState) : Prop where
  housed : server.Housed collate
  quiescent : server.Quiescent
  running : server.crash = none
  createLock : server.createLock = false
  loginLock : server.loginLock = false
  unlocked : ∀ {room : Nat} {current : Room}, server.rooms[room]? = some current →
    current.locked = false

theorem Resting.of_reached (reached : (system collate).run events fresh = some self)
    (quiescent : self.Quiescent) (running : self.crash = none) : self.Resting collate where
  housed := run_housed reached fresh_housed
  quiescent := quiescent
  running := running
  createLock := by
    have held := (run_unique reached).lock
    have none : NameBook.holders self.nameBook.claims = 0 := by
      refine total_eq_zero.mpr ?_
      intro claim member
      obtain ⟨process, processMember, rfl⟩ := List.mem_map.mp member
      rw [quiescent process processMember]
      rfl
    rw [none] at held
    cases lock : self.createLock with
    | false => rfl
    | true => simp [nameBook, lock] at held
  loginLock := by
    have held := (run_exclusive reached).locked
    have none : total Auth.locks self.auth.processes = 0 := by
      refine total_eq_zero.mpr ?_
      intro claim member
      obtain ⟨process, processMember, rfl⟩ := List.mem_map.mp member
      rw [Process.auth, quiescent process processMember]
      rfl
    rw [none] at held
    cases lock : self.loginLock with
    | false => rfl
    | true => simp [ServerState.auth, lock] at held
  unlocked := by
    intro room current object
    have held := ((run_housed reached fresh_housed).sound object).lock
    simp only [House.books, Ledger.of, Ledger.holders, staff_of_quiescent quiescent] at held
    cases lock : current.locked with
    | false => rfl
    | true => simp [lock] at held

theorem login_verdict {id : String} (free : self.loginLock = false) (running : self.crash = none)
    (found : self.processes[index]? = some ⟨session, .login id pssd .select⟩) :
    Verdict index session True self (finish collate index (fuel + 4) self) := by
  have reply : ∀ {server : ServerState} {canLogin : Bool} {fuel : Nat},
      server.processes[index]? = some ⟨session, .login id pssd (.reply canLogin)⟩ →
      server.crash = none →
      Verdict index session True server (finish collate index (fuel + 1) server) :=
          fun found running =>
    verdict_step found running rfl ⟨rfl, rfl⟩ fun found running =>
    verdict_done found running trivial
  cases offline : self.db.selectOffline collate id pssd with
  | false =>
      have refused : self.advance collate index session (.login id pssd .select) =
          some (self.put index ⟨session, .login id pssd (.reply false)⟩) := by
        simp only [advance, advanceLogin, free, offline, Bool.false_eq_true, if_false]
      exact verdict_step found running refused ⟨rfl, rfl⟩ reply
  | true =>
      have selected : self.advance collate index session (.login id pssd .select) =
          some ({ self with loginLock := true }.put index ⟨session, .login id pssd .update⟩) := by
        simp only [advance, advanceLogin, free, offline, Bool.false_eq_true, if_false, if_true]
      refine verdict_step found running selected ⟨rfl, rfl⟩ fun found running => ?_
      refine verdict_step found running rfl ⟨rfl, rfl⟩ fun found running => ?_
      exact verdict_step found running rfl ⟨rfl, rfl⟩ reply

theorem register_verdict {id : String} (running : self.crash = none)
    (found : self.processes[index]? = some ⟨session, .register id pssd .insert⟩) :
    Verdict index session True self (finish collate index (fuel + 2) self) := by
  have reply : ∀ {server : ServerState} {isSuccess : Bool},
      server.processes[index]? = some ⟨session, .register id pssd (.reply isSuccess)⟩ →
      server.crash = none →
      Verdict index session True server (finish collate index (fuel + 1) server) :=
          fun found running =>
    verdict_step found running rfl ⟨rfl, rfl⟩ fun found running =>
    verdict_done found running trivial
  cases inserted : self.db.insertAccount collate id pssd with
  | none =>
      have refused : self.advance collate index session (.register id pssd .insert) =
          some (self.put index ⟨session, .register id pssd (.reply false)⟩) := by
        simp only [advance, advanceRegister, inserted]
      exact verdict_step found running refused ⟨rfl, rfl⟩ reply
  | some db =>
      have stored : self.advance collate index session (.register id pssd .insert) =
          some ({ self with db := db }.put index ⟨session, .register id pssd (.reply true)⟩) := by
        simp only [advance, advanceRegister, inserted]
      exact verdict_step found running stored ⟨rfl, rfl⟩ reply

theorem refreshLobby_verdict (running : self.crash = none)
    (found : self.processes[index]? = some ⟨session, .refreshLobby .select⟩) :
    Verdict index session True self (finish collate index (fuel + 2) self) := by
  refine verdict_step found running rfl ⟨rfl, rfl⟩ fun found running => ?_
  exact verdict_step found running rfl ⟨rfl, rfl⟩ fun found running =>
    verdict_done found running trivial

/-- A chat line needs a room of its user, which is listed then. -/
theorem chatLog_verdict {id : String}
    (found : self.processes[index]? = some ⟨session, .chatLog id log .select⟩)
    (running : self.crash = none)
    (listed : ∀ {roomId : Nat}, self.db.selectChatRoom collate id = some roomId →
      ∃ room current, self.listed.lookup roomId = some room ∧ self.rooms[room]? = some current ∧
        current.locked = false) :
    Verdict index session ((self.db.selectChatRoom collate id).isSome = true) self
      (finish collate index (fuel + 4) self) := by
  cases selected : self.db.selectChatRoom collate id with
  | none =>
      have fails : self.advance collate index session (.chatLog id log .select) =
          some (self.crashed .chatFetch) := by
        simp only [advance, advanceChatLog, selected]
      exact verdict_crash found running fails (by simp)
  | some roomId =>
      obtain ⟨room, current, lists, object, unlocked⟩ := listed selected
      obtain ⟨db, inserted⟩ : ∃ db, self.db.insertLog collate id roomId log = some db := by
        obtain ⟨assigned, account, rows⟩ := Option.bind_eq_some_iff.mp selected
        obtain ⟨row, isRow, _⟩ := Option.map_eq_some_iff.mp account
        have named := List.find?_some isRow
        simp only [Option.filter_eq_some_iff, decide_eq_true_eq] at rows
        have both : (∃ row ∈ self.db.account, collate row.id = collate id) ∧
            ∃ row ∈ self.db.room, row.roomId = roomId :=
          ⟨⟨row, List.mem_of_find?_eq_some isRow, by simpa using named⟩, rows.2⟩
        exact ⟨_, if_pos both⟩
      let chosen := self.put index ⟨session, .chatLog id log (.insert roomId)⟩
      let logged := { chosen with db := db }.put index ⟨session, .chatLog id log (.getRoom roomId)⟩
      let ready := logged.put index ⟨session, .chatLog id log (.broadcast room)⟩
      have select : self.advance collate index session (.chatLog id log .select) = some chosen := by
        simp only [advance, advanceChatLog, selected, chosen]
      have insert : chosen.advance collate index session (.chatLog id log (.insert roomId)) =
          some logged := by
        simp only [advance, advanceChatLog, logged]
        rw [show chosen.db.insertLog collate id roomId log = some db from inserted]
        rfl
      have getRoom : logged.advance collate index session (.chatLog id log (.getRoom roomId)) =
          some ready := by
        simp only [advance, advanceChatLog, ready]
        rw [show logged.listed.lookup roomId = some room from lists]
      have broadcast : ready.advance collate index session (.chatLog id log (.broadcast room)) =
          some ((ready.broadCast current.users (.sChatLog id log) none).put index
              ⟨session, .done⟩) := by
        simp only [advance, advanceChatLog, withRoom]
        rw [show ready.rooms[room]? = some current from object]
        simp [unlocked]
      have queues := broadCast_queues ready current.users (.sChatLog id log) none
      refine verdict_step found running select ⟨rfl, rfl⟩ fun found running => ?_
      refine verdict_step found running insert ⟨rfl, rfl⟩ fun found running => ?_
      refine verdict_step found running getRoom ⟨rfl, rfl⟩ fun found running => ?_
      refine verdict_step found running broadcast ⟨?_, queues.crash⟩ fun found running =>
        verdict_done found running rfl
      exact congrArg (List.set · index _) queues.processes

/-- An `UPDATE` of the room of an account returns for the whole database as it does for the tables. -/
theorem updateCurrentRoom_returns {id : String}
    (returns : self.tables.db.updateCurrentRoom collate id roomId ≠ none) :
    ∃ db, self.db.updateCurrentRoom collate id roomId = some db := by
  refine Option.ne_none_iff_exists'.mp fun fails => returns ?_
  rw [tables, Database.bare_updateCurrentRoom, fails]
  rfl

theorem advanceCreateRoom_enabled {id : String} (selected : pc ≠ .select)
    (returns : ¬ CreateHangs collate id roomName self.tables pc)
    (objects : ∀ {room : Nat}, pc = .fetchAdd room ∨ pc = .addRoom room →
      ∃ current, self.rooms[room]? = some current) :
    ∃ after, self.advanceCreateRoom collate index session id roomName pc = some after := by
  cases pc with
  | select => contradiction
  | insert =>
      obtain ⟨db, inserted⟩ : ∃ db, self.db.insertRoom collate roomName = some db := by
        refine Option.ne_none_iff_exists'.mp fun fails => returns ?_
        rw [CreateHangs, tables, Database.bare_insertRoom, fails]
        rfl
      exact ⟨_, by rw [advanceCreateRoom, inserted]; rfl⟩
  | updateAccount =>
      obtain ⟨db, updated⟩ := updateCurrentRoom_returns returns
      exact ⟨_, by rw [advanceCreateRoom, updated]; rfl⟩
  | selectId =>
      simp only [advanceCreateRoom]
      split <;> exact ⟨_, rfl⟩
  | makeRoom | setRoom | reply => exact ⟨_, rfl⟩
  | fetchAdd =>
      obtain ⟨current, object⟩ := objects (.inl rfl)
      exact ⟨_, by simp only [advanceCreateRoom, withRoom, object]; rfl⟩
  | addRoom =>
      obtain ⟨current, object⟩ := objects (.inr rfl)
      exact ⟨_, by simp only [advanceCreateRoom, withRoom, object]; rfl⟩

theorem create_verdict {id roomName : String} (resting : self.createLock = false)
    (running : self.crash = none) (fits : roomName.length ≤ 30)
    (found : self.processes[index]? = some ⟨session, .createRoom id roomName .select⟩) :
    Verdict index session True self (finish collate index handlerSteps self) := by
  have solo : ∀ {server : ServerState} {pc : CreatePc} {base : Tables},
      server.processes[index]? = some ⟨session, .createRoom id roomName pc⟩ → server.crash = none →
      Creating collate session id roomName base pc server.tables → pc ≠ .select →
      Verdict index session True server (finish collate index 15 server) := by
    intro server pc base found running place selected
    refine finish_solo (.createRoom id roomName) .done (CreateFails collate roomName)
      (CreateStep collate session id roomName)
      (fun pc tables => Creating collate session id roomName base pc tables ∧
      pc ≠ .select) CreatePc.rank 0 advanceCreateRoom_tables ?_ ?_ ?_ ?_ ?_ found running ⟨place,
      selected⟩
    · rintro server pc ⟨place, selected⟩
      refine advanceCreateRoom_enabled selected (fun hangs => ?_) ?_
      · have long := (place.hangs hangs).2
        omega
      rintro room (rfl | rfl)
      all_goals
        generalize tables : server.tables = current at place
        cases place
        have rooms := congrArg Tables.rooms tables
        exact ⟨_, (congrArg (fun rooms : List Room => rooms[base.rooms.length]?) rooms).trans
          List.getElem?_concat_length⟩
    · rintro pc goal before after ⟨place, _⟩ rule
      exact ⟨⟨rule.creating place, rule.descends.2⟩, rule.descends.1⟩
    · rintro pc tables ⟨place, _⟩ failing
      exact absurd failing place.not_fails
    · intro _ _ _ _ _ _ _ found running
      exact verdict_done found running trivial
    · cases pc <;> simp [CreatePc.rank] at selected ⊢
  cases taken : (self.db.selectRoomId collate roomName).isSome with
  | true =>
      have refused : self.advance collate index session (.createRoom id roomName .select) =
          some (self.put index ⟨session, .createRoom id roomName (.reply false)⟩) := by
        simp only [advance, advanceCreateRoom, resting, taken, Bool.false_eq_true,
        if_false, if_true]
      refine verdict_step found running refused ⟨rfl, rfl⟩ fun found running => ?_
      exact solo found running .refused (by simp)
  | false =>
      have accepted : self.advance collate index session (.createRoom id roomName .select) =
          some ({ self with
              createLock := true }.put index ⟨session, .createRoom id roomName .insert⟩) := by
        simp only [advance, advanceCreateRoom, resting, taken, Bool.false_eq_true, if_false]
      refine verdict_step found running accepted ⟨rfl, rfl⟩ fun found running => ?_
      have unused : self.db.selectRoomId collate roomName = none := by simpa using taken
      exact solo found running (.insert unused) (by simp)

theorem join_verdict {id roomName : String} (free : self.tables.Free) (running : self.crash = none)
    (found : self.processes[index]? = some ⟨session, .joinRoom id roomName .select⟩) :
    Verdict index session True self (finish collate index handlerSteps self) := by
  refine finish_solo (.joinRoom id roomName) .done (fun _ _ => False)
    (JoinStep collate session id roomName) (fun pc tables => tables.Free ∧ pc.Refers tables)
    JoinPc.rank 0 (fun stepped => .inr (advanceJoinRoom_tables stepped)) ?_ ?_ ?_ ?_ (by decide)
    found
      running ⟨free, trivial⟩
  · rintro server pc ⟨free, refers⟩
    cases pc with
    | select | getRoom | updateRoom | selectMembers | reply => exact ⟨_, rfl⟩
    | load =>
        obtain ⟨_, current, object⟩ := refers
        have object : server.rooms[_]? = some current := object
        exact ⟨_, by simp only [advance, advanceJoinRoom, withRoom, object]; rfl⟩
    | cas =>
        obtain ⟨_, current, object, same⟩ := refers
        have object : server.rooms[_]? = some current := object
        exact ⟨_, by simp only [advance, advanceJoinRoom, withRoom, object, Option.bind_some,
          if_pos same]; rfl⟩
    | updateAccount =>
        obtain ⟨db, updated⟩ := updateCurrentRoom_returns refers.not_hangs
        exact ⟨_, by rw [advance, advanceJoinRoom, updated]; rfl⟩
    | addUser | broadcast =>
        obtain ⟨current, object⟩ := refers
        have unlocked := free.unlocked object
        have object : server.rooms[_]? = some current := object
        simp only [advance, advanceJoinRoom, withRoom, object, Option.bind_some, unlocked,
          Bool.false_eq_true, if_false]
        first | exact ⟨_, rfl⟩ | (split <;> exact ⟨_, rfl⟩)
  · rintro pc goal before after ⟨free, refers⟩ rule
    exact rule.alone free refers
  · exact fun _ failing => failing.elim
  · intro _ _ _ _ _ _ _ found running
    exact verdict_done found running trivial

theorem advanceRemove_enabled {resume : RemovePc → Task}
    (object : self.rooms[room]? = some current)
    (unlocked : pc = .updateAccount → current.locked = false) :
    ∃ after, self.advanceRemove collate index session room userId resume finished pc = some after :=
      by
  cases pc with
  | updateAccount =>
      simp only [advanceRemove, withRoom, object, Option.bind_some, unlocked rfl,
        Bool.false_eq_true, if_false]
      have clears : self.db.updateCurrentRoom collate userId none = some _ := if_neg (by simp)
      exact ⟨_, by rw [clears]; rfl⟩
  | updateRoom | fetchSub | delete | select | broadcast =>
      simp only [advanceRemove, withRoom, object, Option.bind_some]
      exact ⟨_, rfl⟩
  | erase | removeRoom =>
      simp only [advanceRemove, withRoom, object, Option.bind_some]
      split <;> exact ⟨_, rfl⟩
  | cas =>
      simp only [advanceRemove, withRoom, object, Option.bind_some]
      split <;> exact ⟨_, rfl⟩

/-- `RemoveUser` stays with the room that it was called on. -/
theorem removing_enabled {id : String} {resume : RemovePc → Task} {base : Tables}
    (free : base.Free) (object : base.rooms[room]? = some current)
    (removing : Removing collate room id base current pc self.tables) :
    ∃ after, self.advanceRemove collate index session room userId resume finished pc = some after :=
      by
  obtain ⟨_, next, nextObject, _⟩ := removing.keeps object
  refine advanceRemove_enabled nextObject ?_
  rintro rfl
  generalize self.tables = tables at removing nextObject
  cases removing
  exact free.unlocked nextObject

theorem out_verdict {id : String}
    (found : self.processes[index]? = some ⟨session, .roomOut id .select⟩)
    (free : self.tables.Free) (running : self.crash = none)
    (named : ∀ {roomId room : Nat} {current : Room}, self.listed.lookup roomId = some room →
      self.rooms[room]? = some current → current.roomId = roomId) :
    Verdict index session (HousesUser collate self.tables id) self
      (finish collate index handlerSteps self) := by
  refine finish_solo (.roomOut id) .done (OutFails collate id) (OutStep collate id)
    (Outing collate id self.tables) OutPc.rank 0 advanceRoomOut_tables ?_ ?_ ?_ ?_ (by decide)
    found running .select
  · intro server pc place
    cases pc with
    | select | getRoom =>
        simp only [advance, advanceRoomOut]
        split <;> exact ⟨_, rfl⟩
    | remove room pc =>
        generalize tables : server.tables = now at place
        cases place with
        | remove houses removing =>
            simp only [advance, advanceRoomOut]
            exact removing_enabled free houses.object (tables ▸ removing)
    | reply => exact ⟨_, rfl⟩
  · intro pc goal before after place rule
    exact ⟨rule.outing place free.listed, rule.descends⟩
  · rintro pc tables place failing ⟨roomId, room, current, houses, isUser⟩
    cases place with
    | select => exact failing roomId houses.assigned
    | getRoom assigned =>
        cases houses.assigned.symm.trans assigned
        cases failing.symm.trans houses.lists
    | remove inside removing =>
        cases houses.assigned.symm.trans inside.assigned
        cases houses.lists.symm.trans inside.lists
        cases houses.object.symm.trans inside.object
        rcases removing.fails inside.object failing with missing | ⟨_, unlisted⟩
        · exact AList.lookup_eq_none.mp missing isUser
        · rw [named houses.lists houses.object] at unlisted
          cases unlisted.symm.trans houses.lists
    | reply => exact failing
  · intro pc before fuel server place rule _ found running
    obtain ⟨roomId, room, current, user, houses, isUser, _⟩ := rule.departed place
    refine verdict_done found running ⟨roomId, room, current, houses, ?_⟩
    exact AList.lookup_isSome.mp (Option.isSome_of_eq_some isUser)

theorem alive_of_holdless (holdless : ∀ process ∈ self.processes, process.task.holds = none)
    (room : Nat) : self.alive room = self.listed.entries.any fun entry => entry.2 = room := by
  have none : self.processes.any (fun process => process.task.holds = some room) = false := by
    refine List.any_eq_false.mpr fun process member => ?_
    simp [holdless process member]
  rw [alive, none, Bool.or_false]

theorem holdless_put {task : Task}
    (holdless : ∀ process ∈ self.processes, process.task.holds = none) (none : task.holds = none) :
    ∀ process ∈ (self.put index ⟨session, task⟩).processes, process.task.holds = Option.none := by
  intro process member
  rcases List.mem_or_eq_of_mem_set member with old | rfl
  · exact holdless process old
  · exact none

theorem lockRoom_put {task : Task}
    (holdless : ∀ process ∈ self.processes, process.task.holds = none) (none : task.holds = none)
    (other : Nat) : (self.put index ⟨session, task⟩).lockRoom other = self.lockRoom other := by
  have same : (self.put index ⟨session, task⟩).alive = self.alive := by
    funext room
    rw [alive_of_holdless holdless, alive_of_holdless (holdless_put holdless none)]
    rfl
  rw [lockRoom, lockRoom, same]
  rfl

theorem readId_verdict (enough : 2 ≤ fuel) (good : Good)
    (found : self.processes[index]? = some ⟨session, .onDisconnected .readId⟩)
    (running : self.crash = none) :
    Verdict index session Good self (finish collate index fuel self) := by
  obtain ⟨fuel, rfl⟩ := Nat.exists_eq_add_of_le' enough
  refine verdict_step found running rfl ⟨rfl, rfl⟩ fun found running => ?_
  exact verdict_step found running rfl ⟨rfl, rfl⟩ fun found running =>
    verdict_done found running good

/-- `RemoveUser` in `OnDisconnected` reads the id of the session. -/
theorem remove_verdict {current : Room} (enough : RemovePc.updateAccount.rank + 2 < fuel)
    (free : self.tables.Free) (running : self.crash = none)
    (object : self.rooms[room]? = some current)
    (lists : self.listed.lookup current.roomId = some room)
    (found : self.processes[index]? = some
      ⟨session, .onDisconnected (.remove room .updateAccount)⟩) :
    Verdict index session (self.sessionId session ∈ current.users) self
      (finish collate index fuel self) := by
  let id := self.tables.name session
  have isId : self.sessionId session = id := (name_eq_sessionId self session).symm
  refine finish_solo (fun pc => .onDisconnected (.remove room pc)) (.onDisconnected .readId)
    (fun tables pc => RemoveFails room (tables.name session) tables pc)
    (fun before pc goal after => RemoveStep collate room (before.name session) before pc goal after)
    (fun pc tables => Removing collate room id self.tables current pc tables ∧
    tables.name session = id) RemovePc.rank 2 ?_ ?_ ?_ ?_ ?_ enough found running ⟨.updateAccount,
    rfl⟩
  · intro server after pc advanced
    simp only [advance, advanceDisconnected] at advanced
    rw [name_eq_sessionId]
    exact advanceRemove_tables advanced
  · rintro server pc ⟨removing, _⟩
    simp only [advance, advanceDisconnected]
    exact removing_enabled free object removing
  · rintro pc goal before after ⟨removing, named⟩ rule
    rw [named] at rule
    refine ⟨⟨rule.removing object removing, ?_⟩, rule.descends⟩
    rw [Tables.name, rule.names]
    exact named
  · rintro pc tables ⟨removing, named⟩ failing isUser
    rw [named] at failing
    rw [isId] at isUser
    rcases removing.fails object failing with missing | ⟨_, unlisted⟩
    · exact AList.lookup_eq_none.mp missing isUser
    · cases unlisted.symm.trans lists
  · rintro pc before fuel server ⟨removing, named⟩ rule slack found running
    rw [named] at rule
    obtain ⟨user, isUser, _⟩ := rule.departed object removing
    refine readId_verdict slack ?_ found running
    rw [isId]
    exact AList.lookup_isSome.mp (Option.isSome_of_eq_some isUser)

theorem disconnect_verdict
    (found : self.processes[index]? = some ⟨session, .onDisconnected .expired⟩)
    (free : self.tables.Free) (running : self.crash = none)
    (named : ∀ {roomId room : Nat} {current : Room}, self.listed.lookup roomId = some room →
      self.rooms[room]? = some current → current.roomId = roomId)
    (holdless : ∀ process ∈ self.processes, process.task.holds = none) :
    Verdict index session (self.SeatsUser session) self (finish collate index handlerSteps self) :=
      by
  cases seat : self.lockRoom session with
  | none =>
      have expired : self.advance collate index session (.onDisconnected .expired) =
          some (self.put index ⟨session, .onDisconnected .readId⟩) := by
        simp [advance, advanceDisconnected, seat]
      refine verdict_step found running expired ⟨rfl, rfl⟩ (readId_verdict (by decide) ?_)
      intro room isSeat
      cases seat.symm.trans isSeat
  | some room =>
      obtain ⟨_, isAlive⟩ := Option.filter_eq_some_iff.mp seat
      rw [alive_of_holdless holdless, List.any_eq_true] at isAlive
      obtain ⟨⟨roomId, place⟩, member, same⟩ := isAlive
      cases of_decide_eq_true same
      have lists : self.listed.lookup roomId = some place := AList.mem_lookup_iff.mpr member
      obtain ⟨current, object⟩ := free.listed lists
      have isRoom := named lists object
      have object : self.rooms[place]? = some current := object
      have only : self.SeatsUser session ↔ self.sessionId session ∈ current.users := by
        constructor
        · exact fun seats => seats place seat current object
        · intro isUser room isSeat other found
          cases seat.symm.trans isSeat
          cases object.symm.trans found
          exact isUser
      let looked := self.put index ⟨session, .onDisconnected .lock⟩
      let locked := looked.put index ⟨session, .onDisconnected (.remove place .updateAccount)⟩
      have expired : self.advance collate index session (.onDisconnected .expired) =
          some looked := by
        simp [advance, advanceDisconnected, seat, looked]
      have lock : looked.advance collate index session (.onDisconnected .lock) = some locked := by
        have still : looked.lockRoom session = some place :=
          (lockRoom_put holdless rfl session).trans seat
        simp only [advance, advanceDisconnected, still, locked]
      rw [only]
      refine verdict_step found running expired ⟨rfl, rfl⟩ fun found running => ?_
      refine verdict_step found running lock ⟨rfl, rfl⟩ fun found running => ?_
      have removed : Verdict index session (locked.sessionId session ∈ current.users) locked
          (finish collate index 14 locked) :=
          remove_verdict (by decide) free running object (isRoom ▸ lists) found
      exact removed

/-! ## One request after the other -/

theorem finish_run (collate : String → String) (index fuel : Nat) (self : ServerState) :
    ∃ events, (system collate).run events self = some (finish collate index fuel self) := by
  induction fuel generalizing self with
  | zero => exact ⟨[], rfl⟩
  | succ fuel ih =>
      simp only [finish]
      split
      · exact ⟨[], rfl⟩
      · rename_i next stepped
        obtain ⟨events, ran⟩ := ih next
        exact ⟨.run index :: events, System.run_cons_some.mpr ⟨next, stepped, ran⟩⟩

theorem serve_run (served : serve collate event self = some after) :
    ∃ events, (system collate).run events self = some after := by
  cases event with
  | run => contradiction
  | connect => exact ⟨[.connect], System.run_cons_some.mpr ⟨after, served, rfl⟩⟩
  | request session message =>
      obtain ⟨started, stepped, rfl⟩ := Option.map_eq_some_iff.mp served
      obtain ⟨events, ran⟩ := finish_run collate self.processes.length handlerSteps started
      exact ⟨.request session message :: events, System.run_cons_some.mpr ⟨started, stepped, ran⟩⟩
  | disconnect session =>
      obtain ⟨started, stepped, rfl⟩ := Option.map_eq_some_iff.mp served
      obtain ⟨events, ran⟩ := finish_run collate self.processes.length handlerSteps started
      exact ⟨.disconnect session :: events, System.run_cons_some.mpr ⟨started, stepped, ran⟩⟩

theorem Verdict.settles (verdict : Verdict self.processes.length session Good spawned after)
    (quiescent : self.Quiescent)
    (processes : spawned.processes = self.processes ++ [⟨session, task⟩]) :
    (after.crash = none ↔ Good) ∧ (after.crash = none → after.Quiescent) := by
  rcases verdict with ⟨good, running, finished⟩ | ⟨bad, crashed⟩
  · refine ⟨⟨fun _ => good, fun _ => running⟩, fun _ process member => ?_⟩
    rw [finished, processes, List.set_append_right _ _ (Nat.le_refl _)] at member
    rcases List.mem_append.mp member with old | new
    · exact quiescent process old
    · rw [Nat.sub_self, List.set_cons_zero, List.mem_singleton] at new
      rw [new]
  · exact ⟨⟨fun running => absurd running crashed, fun good => absurd good bad⟩,
      fun running => absurd running crashed⟩

theorem Resting.free (resting : self.Resting collate) : self.tables.Free where
  unlocked := resting.unlocked
  listed := by
    intro roomId room lists
    obtain ⟨current, object, _⟩ := resting.housed.listed lists
    exact ⟨current, object⟩

theorem Resting.named (resting : self.Resting collate)
    (lists : self.listed.lookup roomId = some room) (object : self.rooms[room]? = some current) :
    current.roomId = roomId := by
  obtain ⟨other, found, same⟩ := resting.housed.listed lists
  cases object.symm.trans found
  exact same

theorem Resting.chat_listed (resting : self.Resting collate) {id : String}
    (selected : self.db.selectChatRoom collate id = some roomId) :
    ∃ room current, self.listed.lookup roomId = some room ∧ self.rooms[room]? = some current ∧
      current.locked = false := by
  obtain ⟨assigned, _, rows⟩ := Option.bind_eq_some_iff.mp selected
  obtain ⟨_, exists_⟩ := Option.filter_eq_some_iff.mp rows
  obtain ⟨row, member, rfl⟩ := of_decide_eq_true exists_
  obtain ⟨room, current, lists, object, _⟩ := row_listed resting.housed resting.quiescent member
  exact ⟨room, current, lists, object, resting.unlocked object⟩

theorem Resting.holdless (resting : self.Resting collate) :
    ∀ process ∈ self.processes, process.task.holds = none := by
  intro process member
  rw [resting.quiescent process member]
  rfl

/-- The connection has dropped, and `OnDisconnected` starts. -/
def dropped (self : ServerState) (session : Nat) : ServerState :=
  (self.modifySession session fun current => { current with connected := false }).spawn session
    (.onDisconnected .expired)

theorem Resting.holdless_dropped (resting : self.Resting collate) (session : Nat) :
    ∀ process ∈ (self.dropped session).processes, process.task.holds = none := by
  intro process member
  rcases List.mem_append.mp member with old | new
  · exact resting.holdless process old
  · rw [List.mem_singleton.mp new]
    rfl

/-- `OnDisconnected` sees the session and the rooms that the connection left. -/
theorem seatsUser_dropped (resting : self.Resting collate) (session : Nat) :
    (self.dropped session).SeatsUser session ↔ self.SeatsUser session := by
  have alive : (self.dropped session).alive = self.alive := by
    funext room
    rw [alive_of_holdless (resting.holdless_dropped session), alive_of_holdless resting.holdless]
    rfl
  have found : (self.dropped session).sessions[session]? =
      (self.sessions[session]?).map fun current => { current with connected := false } := by
    simp [dropped, spawn, modifySession]
  have lock : (self.dropped session).lockRoom session = self.lockRoom session := by
    simp only [lockRoom, found, alive]
    cases self.sessions[session]? <;> rfl
  have named : (self.dropped session).sessionId session = self.sessionId session := by
    simp only [sessionId, found]
    cases self.sessions[session]? <;> rfl
  rw [SeatsUser, SeatsUser, lock, named]
  rfl

theorem dropped_verdict (resting : self.Resting collate) (session : Nat) :
    Verdict self.processes.length session (Harmless collate (.disconnect session) self)
      (self.dropped session)
      (finish collate self.processes.length handlerSteps (self.dropped session)) := by
  have found : (self.dropped session).processes[self.processes.length]? =
      some ⟨session, .onDisconnected .expired⟩ := by
    simp [dropped, spawn, modifySession]
  have free : (self.dropped session).tables.Free := ⟨resting.unlocked, resting.free.listed⟩
  rw [Harmless, ← seatsUser_dropped resting session]
  exact disconnect_verdict found free resting.running resting.named
    (resting.holdless_dropped session)

theorem request_verdict (resting : self.Resting collate)
    (fits : (ServerEvent.request session message).Fits) (handles : handler message = some task) :
    Verdict self.processes.length session (Harmless collate (.request session message) self)
      (self.spawn session task)
      (finish collate self.processes.length handlerSteps (self.spawn session task)) := by
  have found := found_spawn self session task
  cases message <;> cases handles
  case cLogin => exact login_verdict resting.loginLock resting.running found
  case cRegister => exact register_verdict resting.running found
  case cRefreshLobby => exact refreshLobby_verdict resting.running found
  case cCreateRoom => exact create_verdict resting.createLock resting.running fits found
  case cJoinRoom => exact join_verdict resting.free resting.running found
  case cChatLog => exact chatLog_verdict found resting.running resting.chat_listed
  case cRoomOut => exact out_verdict found resting.free resting.running resting.named

/-- Whether a request stops the server is decided by the state that it finds. -/
theorem serve_crash_iff {event : ServerEvent} (resting : self.Resting collate) (fits : event.Fits)
    (served : serve collate event self = some after) :
    (after.crash = none ↔ Harmless collate event self) ∧ (after.crash = none → after.Quiescent) :=
      by
  have running := resting.running
  cases event with
  | run => contradiction
  | connect =>
      simp only [serve, step, running, Option.isSome_none, Bool.false_eq_true, if_false,
        Option.some.injEq] at served
      subst served
      exact ⟨⟨fun _ => trivial, fun _ => rfl⟩, fun _ => resting.quiescent⟩
  | request session message =>
      obtain ⟨started, stepped, rfl⟩ := Option.map_eq_some_iff.mp served
      simp only [step, running, Option.isSome_none, Bool.false_eq_true, if_false] at stepped
      split at stepped
      · obtain ⟨task, handles, rfl⟩ := Option.map_eq_some_iff.mp stepped
        exact (request_verdict resting fits handles).settles resting.quiescent rfl
      · contradiction
  | disconnect session =>
      obtain ⟨started, stepped, rfl⟩ := Option.map_eq_some_iff.mp served
      simp only [step, running, Option.isSome_none, Bool.false_eq_true, if_false] at stepped
      obtain ⟨current, found, stepped⟩ := Option.bind_eq_some_iff.mp stepped
      split at stepped
      · cases stepped
        exact (dropped_verdict resting session).settles resting.quiescent rfl
      · contradiction

theorem serve_of_crashed (crashed : self.crash ≠ none) : serve collate event self = none := by
  have stopped : ∀ event, step collate event self = none := fun event => by
    simp [step, Option.isSome_iff_ne_none.mpr crashed]
  cases event <;> simp [serve, stopped]

theorem run_crash_iff (reached : (system collate).run setup fresh = some self)
    (quiescent : self.Quiescent) (running : self.crash = none)
    (fits : ∀ event ∈ events, event.Fits) (ran : (oneByOne collate).run events self = some state) :
    (state.crash = none ↔ (oneByOne collate).Guarded (Harmless collate) events self) ∧
      (state.crash = none → state.Resting collate) := by
  induction events generalizing self setup with
  | nil =>
      cases ran
      exact ⟨⟨fun _ => trivial, fun _ => running⟩, fun _ => .of_reached reached quiescent running⟩
  | cons event rest ih =>
      obtain ⟨next, served, remaining⟩ := System.run_cons_some.mp ran
      have restFits : ∀ event ∈ rest, event.Fits := fun event member =>
        fits event (List.mem_cons_of_mem _ member)
      obtain ⟨decided, settles⟩ := serve_crash_iff (.of_reached reached quiescent running)
        (fits event List.mem_cons_self) served
      by_cases survives : next.crash = none
      · obtain ⟨events, continued⟩ := serve_run served
        obtain ⟨iff, resting⟩ := ih (System.run_append_some.mpr ⟨self, reached, continued⟩)
          (settles survives) survives restFits remaining
        refine ⟨iff.trans ⟨fun guarded => ⟨decided.mp survives, ?_⟩,
          fun guarded => guarded.2 next served⟩, resting⟩
        intro other otherServed
        cases served.symm.trans otherServed
        exact guarded
      · -- nothing is served after the crash, so this was the last request
        cases rest with
        | nil =>
            cases remaining
            exact ⟨⟨fun still => absurd still survives,
              fun guarded => absurd (decided.mpr guarded.1) survives⟩,
              fun still => absurd still survives⟩
        | cons other rest =>
            obtain ⟨_, impossible, _⟩ := System.run_cons_some.mp remaining
            cases (serve_of_crashed survives).symm.trans impossible

/-- A request or a disconnect that can come. -/
def Comes (self : ServerState) : ServerEvent → Prop
  | .connect => True
  | .request session message => session < self.sessions.length ∧ (handler message).isSome = true
  | .disconnect session => self.isConnected session = true
  | .run _ => False

/-- Requests and disconnects one at a time, in any order: the server runs on exactly when
every one of them finds what its handler asserts, and then the next is handled. -/
theorem requests_crash_iff {events : List ServerEvent} {state : ServerState}
    (fits : ∀ event ∈ events, event.Fits) (ran : (oneByOne collate).run events fresh = some state) :
    (state.crash = none ↔ (oneByOne collate).Guarded (Harmless collate) events fresh) ∧
    (state.crash = none → state.Quiescent ∧ ∀ event, state.Comes event → event.Fits →
      ∃ after, serve collate event state = some after ∧
        (after.crash = none ↔ Harmless collate event state)) := by
  have start : (system collate).run [] fresh = some fresh := rfl
  obtain ⟨iff, resting⟩ := run_crash_iff start (by decide) rfl fits ran
  refine ⟨iff, fun running => ⟨(resting running).quiescent, ?_⟩⟩
  intro event comes eventFits
  obtain ⟨after, served⟩ : ∃ after, serve collate event state = some after := by
    cases event with
    | run => exact comes.elim
    | connect => exact ⟨_, by simp only [serve, step, running]; rfl⟩
    | request session message =>
        obtain ⟨task, handles⟩ := Option.isSome_iff_exists.mp comes.2
        exact ⟨_, by simp only [serve, step, running, comes.1, handles]; rfl⟩
    | disconnect session =>
        obtain ⟨current, found, connected⟩ : ∃ current, state.sessions[session]? = some current ∧
            current.connected = true := by
          have isConnected : state.isConnected session = true := comes
          cases found : state.sessions[session]? with
          | none => simp [ServerState.isConnected, found] at isConnected
          | some current =>
              exact ⟨current, rfl, by simpa [ServerState.isConnected, found] using isConnected⟩
        exact ⟨_, by simp only [serve, step, running, found, Option.bind_some, connected]; rfl⟩
  exact ⟨after, served, (serve_crash_iff (resting running) eventFits served).1⟩

/-- Two users, a room, a chat line; one leaves and the connection of the other drops. -/
theorem requests_crash_iff_two_users :
    let events : List ServerEvent := [.connect, .connect, .request 0 (.cRegister "a" "p"),
      .request 1 (.cRegister "b" "p"), .request 0 (.cLogin "a" "p"), .request 1 (.cLogin "b" "p"),
      .request 0 (.cCreateRoom "a" "r"), .request 1 (.cJoinRoom "b" "r"),
      .request 1 (.cChatLog "b" "r" "hi"), .request 0 (.cRoomOut "a" "r"), .disconnect 1]
    ∃ state, (oneByOne id).run events fresh = some state ∧ state.crash = none ∧ state.Quiescent ∧
      (oneByOne id).Guarded (Harmless id) events fresh := by
  intro events
  obtain ⟨state, ran, running⟩ : ∃ state, (oneByOne id).run events fresh = some state ∧
      state.crash = none :=
    ⟨_, rfl, rfl⟩
  have short : "r".length ≤ 30 := by decide
  have fits : ∀ event ∈ events, event.Fits := by simp [events, ServerEvent.Fits, short]
  obtain ⟨iff, quiescent⟩ := requests_crash_iff fits ran
  exact ⟨state, ran, running, (quiescent running).1, iff.mp running⟩

/-- A chat line from the lobby, a leave from the lobby, and a second login of the session
of a user in a room before its connection drops. -/
theorem requests_stop_the_server :
    let login : List ServerEvent :=
      [.connect, .request 0 (.cRegister "a" "p"), .request 0 (.cLogin "a" "p")]
    (∃ state, (oneByOne id).run (login ++ [.request 0 (.cChatLog "a" "r" "hi")]) fresh =
      some state ∧ state.crash = some .chatFetch) ∧
    (∃ state, (oneByOne id).run (login ++ [.request 0 (.cRoomOut "a" "r")]) fresh =
      some state ∧ state.crash = some .roomOutNull) ∧
    ∃ state, (oneByOne id).run (login ++ [.request 0 (.cRegister "b" "p"),
      .request 0 (.cCreateRoom "a" "r"), .request 0 (.cLogin "b" "p"), .disconnect 0]) fresh =
      some state ∧ state.crash = some .removeUserFind :=
  ⟨⟨_, rfl, rfl⟩, ⟨_, rfl, rfl⟩, _, rfl, rfl⟩

end ServerState

end ChattingProgram.Server
