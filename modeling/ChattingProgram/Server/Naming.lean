import ChattingProgram.Server.Destruction
import ChattingProgram.Server.Entry

namespace ChattingProgram.Server

open ChattingProgram.Protocol ChattingProgram.Machine

/-! # The names of rooms

A create handler looks its name up and inserts it under one lock, so no name is
inserted twice; what it does afterwards is without a lock, and it is its row that
nobody else touches until there is a `Room`.
-/

/-- The names of the table, and those that handlers have looked up. -/
structure NameBook where
  names : List String
  lock : Bool
  claims : List (Option String)

namespace NameBook

inductive Move (collate : String → String) : NameBook → NameBook → Prop where
  | other (book : NameBook) {names : List String} : names.Sublist book.names →
      Move collate book { book with names := names }
  | spawn (book : NameBook) : Move collate book { book with claims := book.claims ++ [none] }
  | select (book : NameBook) {index : Nat} {name : String} :
      book.claims[index]? = some none → book.lock = false →
      (∀ other ∈ book.names, collate other ≠ collate name) →
      Move collate book { book with lock := true, claims := book.claims.set index (some name) }
  | insert (book : NameBook) {index : Nat} {name : String} :
      book.claims[index]? = some (some name) →
      Move collate book
        { names := book.names ++ [name], lock := false, claims := book.claims.set index none }

def holders (claims : List (Option String)) : Nat :=
  total (fun claim => if claim.isSome then 1 else 0) claims

structure Unique (collate : String → String) (book : NameBook) : Prop where
  distinct : (book.names.map collate).Nodup
  lock : holders book.claims = if book.lock then 1 else 0
  free : ∀ {name : String}, some name ∈ book.claims → ∀ other ∈ book.names,
    collate other ≠ collate name

variable {collate : String → String} {book after : NameBook}

theorem not_mem_of_holders {claims : List (Option String)} (none : holders claims = 0)
    (name : String) : some name ∉ claims := by
  intro member
  have weight := total_eq_zero.mp none (some name) member
  simp at weight

theorem Unique.select (before : Unique collate book) (found : book.claims[index]? = some none)
    (unlocked : book.lock = false) (unused : ∀ other ∈ book.names, collate other ≠ collate name) :
    Unique collate { book with lock := true, claims := book.claims.set index (some name) } where
  distinct := before.distinct
  lock := by
    have count := before.lock
    have moved := total_set (fun claim : Option String => if claim.isSome then 1 else 0)
      (some name) found
    simp only [unlocked, holders, Option.isSome_some, Option.isSome_none, Bool.false_eq_true,
      if_false, if_true] at count moved ⊢
    omega
  free := by
    intro other member
    have count := before.lock
    simp only [unlocked, Bool.false_eq_true, if_false] at count
    rcases List.mem_or_eq_of_mem_set member with earlier | same
    · exact absurd earlier (not_mem_of_holders count other)
    · exact Option.some.inj same ▸ unused

theorem Unique.insert (before : Unique collate book)
    (found : book.claims[index]? = some (some name)) :
    Unique collate { names := book.names ++ [name], lock := false, claims := book.claims.set index none } := by
  have unused := before.free (List.mem_of_getElem? found)
  have released : holders (book.claims.set index none) = 0 := by
    have count := before.lock
    have moved := total_set (fun claim : Option String => if claim.isSome then 1 else 0) none found
    simp only [holders, Option.isSome_some, Option.isSome_none, Bool.false_eq_true,
      if_false, if_true] at count moved ⊢
    split at count <;> omega
  refine ⟨?_, released, ?_⟩
  · rw [List.map_append, List.nodup_append]
    refine ⟨before.distinct, by simp, ?_⟩
    intro key member other last same
    obtain ⟨first, firstMember, rfl⟩ := List.mem_map.mp member
    exact unused first firstMember (same.trans (by simpa using last))
  · intro other member
    exact absurd member (not_mem_of_holders released other)

theorem Move.unique (move : Move collate book after) (before : Unique collate book) :
    Unique collate after := by
  cases move with
  | other fewer =>
      refine ⟨before.distinct.sublist (fewer.map collate), before.lock, ?_⟩
      intro name member other present
      exact before.free member other (fewer.subset present)
  | spawn =>
      refine ⟨before.distinct, ?_, ?_⟩
      · simpa [holders] using before.lock
      · intro name member
        exact before.free (by simpa using member)
  | select found unlocked unused => exact before.select found unlocked unused
  | insert found => exact before.insert found

end NameBook

def Task.creating : Task → Bool
  | .createRoom .. => true
  | _ => false

/-- The name that a handler has looked up and not yet inserted. -/
def Task.claims : Task → Option String
  | .createRoom _ roomName .insert => some roomName
  | _ => none

def ServerState.nameBook (self : ServerState) : NameBook where
  names := self.db.room.map RoomRow.roomName
  lock := self.createLock
  claims := self.processes.map fun process => process.task.claims

theorem RowEffect.names_sublist (effect : RowEffect) (roomId : Nat) (rows : List RoomRow) :
    ((effect.apply roomId rows).map RoomRow.roomName).Sublist (rows.map RoomRow.roomName) := by
  cases effect with
  | same => exact List.Sublist.refl _
  | add difference =>
      have same : (RowEffect.apply roomId (.add difference) rows).map RoomRow.roomName =
          rows.map RoomRow.roomName := by
        simp only [RowEffect.apply, List.map_map]
        refine List.map_congr_left fun row _ => ?_
        simp only [Function.comp_apply]
        split <;> rfl
      rw [same]
  | delete => exact List.filter_sublist.map _

def CreatePc.hasInserted : CreatePc → Bool
  | .select | .insert => false
  | .selectId | .updateAccount _ | .makeRoom _ | .fetchAdd _ | .setRoom _ | .addRoom _ => true
  | .reply canCreate => canCreate

/-- The row that a handler goes on with after its `INSERT`: the one that its `SELECT`
returns, the one in its variable, the one of its `Room`. -/
def Tables.createRow (collate : String → String) (tables : Tables) (roomName : String) : CreatePc →
    Option Nat
  | .selectId => tables.db.selectRoomId collate roomName
  | .updateAccount roomId | .makeRoom roomId => some roomId
  | .fetchAdd room | .setRoom room | .addRoom room => (tables.rooms[room]?).map Room.roomId
  | .select | .insert | .reply _ => none

theorem CreateStep.createRow {collate : String → String} {id : String}
    (rule : CreateStep collate session id roomName tables pc (some next) after)
    (row : tables.createRow collate roomName pc = some roomId) :
    next = .reply true ∨ after.createRow collate roomName next = some roomId := by
  cases rule with
  | refuse | accept | insert => contradiction
  | selectId selected => exact .inr (selected.symm.trans row)
  | updateAccount => exact .inr row
  | makeRoom => exact .inr (by simpa [Tables.createRow] using row)
  | fetchAdd object =>
      right
      have within := (List.getElem?_eq_some_iff.mp object).1
      simpa [Tables.createRow, Tables.setObject, object, List.getElem?_set_self within] using row
  | setRoom => exact .inr row
  | addRoom => exact .inl rfl

namespace ServerState

variable {collate : String → String} {self middle after : ServerState} {index session : Nat}

/-- The names were there before, and the lock is where it was. -/
structure Nameless (before after : ServerState) : Prop where
  lock : after.createLock = before.createLock
  names : (after.db.room.map RoomRow.roomName).Sublist (before.db.room.map RoomRow.roomName)

theorem Nameless.of_room (lock : after.createLock = self.createLock)
    (room : after.db.room = self.db.room) : Nameless self after :=
  ⟨lock, by rw [room]⟩

theorem Queues.nameless (queues : Queues self after) : Nameless self after :=
  .of_room queues.createLock (by rw [queues.db])

theorem RemoveTurn.nameless (turn : RemoveTurn collate self room userId pc goal after) :
    Nameless self after := by
  cases turn with
  | updateAccount _ _ updated => exact .of_room rfl (Database.updateCurrentRoom_room updated).1
  | @updateRoom current =>
      exact ⟨rfl, RowEffect.names_sublist (.add (-1)) current.roomId self.db.room⟩
  | @delete current =>
      refine ⟨rfl, ?_⟩
      rw [(Database.deleteRoom_room self.db current.roomId).1]
      exact RowEffect.names_sublist .delete current.roomId self.db.room
  | broadcast =>
      have queues := refresh_queues self
      exact ⟨(queues ..).nameless.lock, (queues ..).nameless.names⟩
  | _ => exact .of_room rfl rfl

theorem nameBook_found (found : self.processes[index]? = some ⟨session, task⟩) :
    self.nameBook.claims[index]? = some task.claims := by
  simp [nameBook, found]

theorem nameBook_put (task : Task) : (self.put index ⟨session, task⟩).nameBook =
    { self.nameBook with claims := self.nameBook.claims.set index task.claims } := by
  simp [nameBook, put, List.map_set]

theorem Nameless.move {task next : Task} (nameless : Nameless self after)
    (same : after.processes = self.processes)
    (found : self.processes[index]? = some ⟨session, task⟩) (claims : next.claims = task.claims) :
    NameBook.Move collate self.nameBook (after.put index ⟨session, next⟩).nameBook := by
  have still := set_same (nameBook_found found)
  have view : (after.put index ⟨session, next⟩).nameBook =
      { self.nameBook with names := after.db.room.map RoomRow.roomName } := by
    rw [nameBook_put, claims]
    simpa [nameBook, nameless.lock, same] using still
  rw [view]
  exact .other self.nameBook nameless.names

theorem claims_of_reply {task : Task} (answers : task.reply = some message) :
    Task.done.claims = task.claims := by
  unfold Task.reply at answers
  split at answers <;> first | rfl | contradiction

theorem Turn.names (found : self.processes[index]? = some ⟨session, task⟩)
    (turn : Turn collate self session task next after) :
    NameBook.Move collate self.nameBook (after.put index ⟨session, next⟩).nameBook := by
  have same := turn.processes
  cases turn with
  | create unlocked unused =>
      rw [nameBook_put]
      refine .select self.nameBook (nameBook_found found) unlocked ?_
      intro other member named
      obtain ⟨row, rowMember, rfl⟩ := List.mem_map.mp member
      simp only [Database.selectRoomId, Option.map_eq_none_iff, List.find?_eq_none,
        decide_eq_true_eq] at unused
      exact unused row rowMember named
  | @insertRoom _ roomName db inserted =>
      have names : db.room.map RoomRow.roomName = self.nameBook.names ++ [roomName] := by
        simp [nameBook, (Database.insertRoom_room inserted).2.1]
      have moved : NameBook.Move collate self.nameBook _ :=
        .insert self.nameBook (nameBook_found found)
      rw [nameBook_put]
      simpa only [nameBook, names, Task.claims] using moved
  | reply answers => exact (send_queues ..).nameless.move same found (claims_of_reply answers)
  | register inserted =>
      exact Nameless.move (.of_room rfl (Database.insertAccount_room inserted).1) same found rfl
  | settle updated | enter updated =>
      exact Nameless.move (.of_room rfl (Database.updateCurrentRoom_room updated).1) same found rfl
  | @count _ _ roomId =>
      exact Nameless.move ⟨rfl, RowEffect.names_sublist (.add 1) roomId self.db.room⟩ same found rfl
  | insertLog inserted =>
      exact Nameless.move (.of_room rfl (Database.insertLog_room inserted).1) same found rfl
  | welcome | chat => exact (broadCast_queues ..).nameless.move same found rfl
  | @leave _ _ _ goal _ turn | @drop _ _ goal _ turn =>
      exact turn.nameless.move same found (by cases goal <;> rfl)
  | _ => exact Nameless.move (.of_room rfl rfl) same found rfl

/-- No other handler becomes a create handler. -/
theorem Turn.creating (turn : Turn collate self session task next after)
    (creates : next.creating = true) : task.creating = true := by
  cases turn with
  | @leave _ _ _ goal | @drop _ _ goal => cases goal <;> contradiction
  | _ => first | rfl | contradiction

theorem claims_handler (handles : handler message = some task) : task.claims = none := by
  cases message <;> cases handles <;> rfl

theorem nameBook_spawn (self : ServerState) (session : Nat) (task : Task) :
    (self.spawn session task).nameBook =
    { self.nameBook with claims := self.nameBook.claims ++ [task.claims] } := by
  simp [nameBook, spawn]

theorem step_nameBook (stepped : (system collate).step event self = some after) :
    NameBook.Move collate self.nameBook after.nameBook := by
  cases (step_happens stepped).2 with
  | connect => exact .other self.nameBook (List.Sublist.refl _)
  | @request session message task _ handles =>
      rw [nameBook_spawn, claims_handler handles]
      exact .spawn self.nameBook
  | @disconnect session current found _ =>
      rw [nameBook_spawn]
      exact .spawn self.nameBook
  | @run index session task _ found stepped =>
      rcases advance_turn stepped with ⟨cause, _, rfl⟩ | ⟨next, changed, turn, rfl⟩
      · exact .other self.nameBook (List.Sublist.refl _)
      · exact turn.names found

theorem run_unique (ran : (system collate).run events fresh = some self) :
    self.nameBook.Unique collate := by
  have keeps : ∀ {event before next}, (system collate).step event before = some next →
      before.nameBook.Unique collate → next.nameBook.Unique collate :=
    fun stepped unique => (step_nameBook stepped).unique unique
  exact System.run_preserves keeps ran ⟨List.nodup_nil, rfl, by simp [nameBook, fresh]⟩

/-! ## One create handler -/

theorem step_process (stepped : (system collate).step event self = some after)
    (found : self.processes[index]? = some process) :
    after.processes[index]? = some process ∨ event = .run index := by
  have within := (List.getElem?_eq_some_iff.mp found).1
  cases (step_happens stepped).2 with
  | connect => exact .inl found
  | @request session message task _ _ =>
      exact .inl ((List.getElem?_append_left within).trans found)
  | @disconnect session current _ _ =>
      exact .inl ((List.getElem?_append_left within).trans found)
  | @run place _ _ _ _ stepped =>
      by_cases here : place = index
      · exact .inr (here ▸ rfl)
      · rcases advance_moves stepped with ⟨cause, rfl⟩ | ⟨next, moves⟩
        · exact .inl found
        · rw [moves.goes.processes, List.getElem?_set_ne here]
          exact .inl found

/-- The row of a handler stays the same under all steps that are not its own. -/
theorem createRow_kept {id : String} (housed : self.Housed collate)
    (stepped : (system collate).step event self = some after)
    (found : self.processes[index]? = some ⟨session, .createRoom id roomName pc⟩)
    (row : self.tables.createRow collate roomName pc = some roomId) :
    after.tables.createRow collate roomName pc = some roomId := by
  have move := step_house housed stepped
  have member := List.mem_of_getElem? (house_found found)
  cases pc with
  | selectId => exact move.keeps_builds housed member row
  | updateAccount | makeRoom => exact row
  | fetchAdd room | setRoom room | addRoom room =>
      obtain ⟨current, object, rfl⟩ := Option.map_eq_some_iff.mp row
      obtain ⟨next, nextObject, same⟩ := move.keeps_room object
      have found : after.tables.rooms[room]? = some next := nextObject
      simp only [Tables.createRow, found, Option.map_some, same]
  | select | insert | reply => contradiction

/-- A handler that has inserted a row works with that row until it has answered. -/
def Owns (collate : String → String) (index session : Nat) (id roomName : String) (roomId : Nat)
    (server : ServerState) : Prop :=
  server.processes[index]? = some ⟨session, .done⟩ ∨
    ∃ pc, server.processes[index]? = some ⟨session, .createRoom id roomName pc⟩ ∧
      (pc = .reply true ∨ server.tables.createRow collate roomName pc = some roomId)

theorem step_owns {id : String} (housed : self.Housed collate)
    (stepped : (system collate).step event self = some after)
    (owns : self.Owns collate index session id roomName roomId) :
    after.Owns collate index session id roomName roomId := by
  rcases owns with finished | ⟨pc, found, row⟩
  · rcases step_process stepped finished with kept | rfl
    · exact .inl kept
    · exact absurd (advance_of_step finished stepped).2 (by simp [advance])
  · rcases step_process stepped found with kept | rfl
    · refine .inr ⟨pc, kept, row.imp_right ?_⟩
      exact createRow_kept housed stepped found
    · rcases advanceCreateRoom_tables (advance_of_step found stepped).2 with
        ⟨_, _, rfl⟩ | ⟨_, ⟨goal, rfl, rule⟩, goes⟩
      · exact .inr ⟨pc, found, row⟩
      · have next := goes.found found
        cases goal with
        | none => exact .inl next
        | some goal =>
            refine .inr ⟨goal, next, ?_⟩
            rcases row with rfl | row
            · generalize after.tables = tables at rule
              cases rule
            · exact rule.createRow row

theorem run_owns {id : String} (housed : self.Housed collate)
    (ran : (system collate).run events self = some after)
    (owns : self.Owns collate index session id roomName roomId) :
    after.Owns collate index session id roomName roomId := by
  have keeps : ∀ {event before next}, (system collate).step event before = some next →
      before.Housed collate ∧ before.Owns collate index session id roomName roomId →
      next.Housed collate ∧ next.Owns collate index session id roomName roomId :=
    fun stepped both => ⟨step_housed stepped both.1, step_owns both.1 stepped both.2⟩
  exact (System.run_preserves keeps ran ⟨housed, owns⟩).2

theorem insert_owns {id : String} (unique : self.nameBook.Unique collate)
    (found : self.processes[index]? = some ⟨session, .createRoom id roomName .insert⟩)
    (stepped : (system collate).step (.run index) self = some after) :
    after.crash = none ∧ after.db.room = self.db.room ++ [⟨self.db.nextRoomId, roomName, 1⟩] ∧
      after.Owns collate index session id roomName self.db.nextRoomId := by
  have unused := unique.free (List.mem_of_getElem? (nameBook_found found))
  obtain ⟨running, advanced⟩ := advance_of_step found stepped
  obtain ⟨db, inserted, rfl⟩ := Option.map_eq_some_iff.mp advanced
  obtain ⟨_, rows, _⟩ := Database.insertRoom_room inserted
  have within := (List.getElem?_eq_some_iff.mp found).1
  refine ⟨running, rows, .inr ⟨.selectId, List.getElem?_set_self within, .inr ?_⟩⟩
  have absent : self.db.room.find? (fun row => collate row.roomName = collate roomName) = none := by
    refine List.find?_eq_none.mpr fun row member => ?_
    simpa using unused row.roomName (List.mem_map_of_mem member)
  change db.selectRoomId collate roomName = _
  simp [Database.selectRoomId, rows, List.find?_append, absent]

/-- How a create handler comes to a point: it was there, it starts, or it steps. -/
theorem step_create {id : String} (stepped : (system collate).step event self = some after)
    (found : after.processes[index]? = some ⟨session, .createRoom id roomName pc⟩) :
    self.processes[index]? = some ⟨session, .createRoom id roomName pc⟩ ∨ pc = .select ∨
      event = .run index ∧ ∃ prior, self.processes[index]? =
        some ⟨session, .createRoom id roomName prior⟩ ∧
        CreateStep collate session id roomName self.tables prior (some pc) after.tables := by
  rcases process_of_step stepped found with earlier | ⟨message, _, handles⟩ | impossible |
    ⟨task, changed, rfl, runs, turn, rfl⟩
  · exact .inl earlier
  · cases message <;> cases handles
    exact .inr (.inl rfl)
  · contradiction
  · cases task with
    | createRoom =>
        obtain ⟨goal, same, rule⟩ := turn.createTables
        cases goal with
        | none => cases same
        | some goal =>
            cases same
            exact .inr (.inr ⟨rfl, _, runs, rule⟩)
    | _ => cases turn.creating rfl

/-- A handler that answers with success has inserted its own row. -/
theorem run_inserts {id : String} (ran : (system collate).run events fresh = some self)
    (found : self.processes[index]? = some ⟨session, .createRoom id roomName pc⟩)
    (inserted : pc.hasInserted = true) :
    ∃ first rest before next, events = first ++ .run index :: rest ∧
      (system collate).run first fresh = some before ∧
      before.processes[index]? = some ⟨session, .createRoom id roomName .insert⟩ ∧
      (system collate).step (.run index) before = some next ∧
      next.db.room = before.db.room ++ [⟨before.db.nextRoomId, roomName, 1⟩] := by
  obtain ⟨first, event, rest, before, next, rfl, reached, stepped, _, outside, pc,
      nextFound, isInserted⟩ :=
    System.exists_entry (fun server : ServerState => ∃ pc, server.processes[index]? =
      some ⟨session, .createRoom id roomName pc⟩ ∧ pc.hasInserted = true) ran (by simp [fresh]) ⟨pc,
      found, inserted⟩
  rcases step_create stepped nextFound with still | rfl | ⟨rfl, prior, priorFound, rule⟩
  · exact absurd ⟨pc, still, isInserted⟩ outside
  · contradiction
  · have notYet : ¬ prior.hasInserted = true := fun already => outside ⟨prior, priorFound, already⟩
    generalize made : next.tables = tables at rule
    cases rule with
    | refuse | accept => contradiction
    | @insert db inserts =>
        have rows : next.db.room = db.room := congrArg (fun tables => tables.db.room) made
        exact ⟨first, rest, before, next, rfl, reached, priorFound, stepped,
          rows.trans (Database.insertRoom_room inserts).2.1⟩
    | selectId | updateAccount | makeRoom | fetchAdd | setRoom | addRoom => exact absurd rfl notYet

/-- A handler that answers without success has found a row of the name. -/
theorem run_refuses {id : String} (ran : (system collate).run events fresh = some self)
    (found : self.processes[index]? = some ⟨session, .createRoom id roomName (.reply false)⟩) :
    ∃ first rest before, events = first ++ .run index :: rest ∧
      (system collate).run first fresh = some before ∧
      before.processes[index]? = some ⟨session, .createRoom id roomName .select⟩ ∧
      ∃ row ∈ before.db.room, collate row.roomName = collate roomName := by
  obtain ⟨first, event, rest, before, next, rfl, reached, stepped, _, outside, nextFound⟩ :=
    System.exists_entry (fun server : ServerState => server.processes[index]? =
      some ⟨session, .createRoom id roomName (.reply false)⟩) ran (by simp [fresh]) found
  rcases step_create stepped nextFound with still | impossible | ⟨rfl, prior, priorFound, rule⟩
  · exact absurd still outside
  · contradiction
  · generalize next.tables = tables at rule
    cases rule with
    | refuse exists_ =>
        obtain ⟨row, member, named⟩ : ∃ row ∈ before.db.room, collate row.roomName =
            collate roomName := by
          simpa [Database.selectRoomId, tables, Database.bare] using exists_
        exact ⟨first, rest, before, rfl, reached, priorFound, row, member, named⟩

theorem row_eq_of_name (unique : self.nameBook.Unique collate) (firstRow : first ∈ self.db.room)
    (secondRow : second ∈ self.db.room) (same : collate first.roomName = collate second.roomName) :
    first = second := by
  have distinct : (self.db.room.map fun row => collate row.roomName).Nodup := by
    simpa [nameBook, Function.comp_def] using unique.distinct
  exact List.inj_on_of_nodup_map distinct firstRow secondRow same

/-- Room names, in every state that the server reaches. -/
theorem room_names_unique {events : List ServerEvent} {state : ServerState}
    (ran : (system collate).run events fresh = some state) :
    -- one row per name
    (state.db.room.map fun row => collate row.roomName).Nodup ∧
    -- a room that is not destroyed has a row, and no other room has one of that name
    (∀ (room : Nat) (current : Room), state.rooms[room]? = some current →
      current.roomState ≠ destruction → ∃ row ∈ state.db.room, row.roomId = current.roomId ∧
        ∀ (other : Nat) (otherRoom : Room) (otherRow : RoomRow), state.rooms[other]? =
          some otherRoom → otherRow ∈ state.db.room → otherRow.roomId = otherRoom.roomId →
          collate otherRow.roomName = collate row.roomName → other = room) ∧
    (∀ (index session : Nat) (id roomName : String),
      state.processes[index]? = some ⟨session, .createRoom id roomName .insert⟩ →
      -- the INSERT does not violate the unique key: it returns
      (∀ row ∈ state.db.room, collate row.roomName ≠ collate roomName) ∧
      (roomName.length ≤ 30 → state.crash = none →
        ∃ next, (system collate).step (.run index) state = some next) ∧
      -- the SELECT returns its row, and so does what follows work with it
      ∀ next, (system collate).step (.run index) state = some next →
        next.crash = none ∧ next.db.room = state.db.room ++ [⟨state.db.nextRoomId, roomName, 1⟩] ∧
        ∀ (later : List ServerEvent) (future : ServerState) (pc : CreatePc),
          (system collate).run later next = some future →
          future.processes[index]? = some ⟨session, .createRoom id roomName pc⟩ →
          (pc = .selectId → future.db.selectRoomId collate roomName = some state.db.nextRoomId) ∧
          (pc = .reply true ∨ future.tables.createRow collate roomName pc =
          some state.db.nextRoomId)) ∧
    (∀ (index session : Nat) (id roomName : String) (canCreate : Bool),
      state.processes[index]? = some ⟨session, .createRoom id roomName (.reply canCreate)⟩ →
      -- success only after the own INSERT
      (canCreate = true → ∃ first rest before next, events = first ++ .run index :: rest ∧
        (system collate).run first fresh = some before ∧
        before.processes[index]? = some ⟨session, .createRoom id roomName .insert⟩ ∧
        (system collate).step (.run index) before = some next ∧
        next.db.room = before.db.room ++ [⟨before.db.nextRoomId, roomName, 1⟩]) ∧
      -- refusal only by a row that the own SELECT found
      (canCreate = false → ∃ first rest before, events = first ++ .run index :: rest ∧
        (system collate).run first fresh = some before ∧
        before.processes[index]? = some ⟨session, .createRoom id roomName .select⟩ ∧
        ∃ row ∈ before.db.room, collate row.roomName = collate roomName)) := by
  have housed : state.Housed collate := run_housed ran fresh_housed
  have unique := run_unique ran
  refine ⟨?_, ?_, ?_, ?_⟩
  · simpa [nameBook, Function.comp_def] using unique.distinct
  · intro room current object alive
    obtain ⟨row, member, same, _⟩ := House.exists_of_userCount ((housed.sound object).row alive)
    refine ⟨row, member, same, ?_⟩
    intro other otherRoom otherRow otherObject otherMember otherSame named
    cases row_eq_of_name unique otherMember member named
    exact housed.registry.id_unique otherObject object (otherSame.symm.trans same)
  · intro index session id roomName found
    have unused : ∀ row ∈ state.db.room, collate row.roomName ≠ collate roomName :=
        fun row member =>
      unique.free (List.mem_of_getElem? (nameBook_found found)) row.roomName
      (List.mem_map_of_mem member)
    refine ⟨unused, ?_, ?_⟩
    · intro short running
      have admissible : ¬ (30 < roomName.length ∨ ∃ row ∈ state.db.room, collate row.roomName =
          collate roomName) := by
        rintro (long | ⟨row, member, same⟩)
        · omega
        · exact unused row member same
      have inserts : state.db.insertRoom collate roomName = some _ := if_neg admissible
      exact ⟨_, step_of_advance running found (by rw [advance, advanceCreateRoom, inserts]; rfl)⟩
    · intro next stepped
      obtain ⟨running, rows, owns⟩ := insert_owns unique found stepped
      refine ⟨running, rows, ?_⟩
      intro later future pc continued futureFound
      rcases run_owns (step_housed stepped housed) continued owns with
        finished | ⟨same, sameFound, row⟩
      · cases finished.symm.trans futureFound
      · cases sameFound.symm.trans futureFound
        refine ⟨?_, row⟩
        rintro rfl
        rcases row with impossible | row
        · contradiction
        · exact row
  · intro index session id roomName canCreate found
    refine ⟨?_, ?_⟩
    · rintro rfl
      exact run_inserts ran found rfl
    · rintro rfl
      exact run_refuses ran found

/-- Of two handlers that create a room of one name, the second comes to its `SELECT` after
the `INSERT` of the first. -/
theorem room_names_unique_two_creators :
    let events := [.connect, .connect] ++ handled 0 (.cRegister "a" "p") 0 2 ++
      handled 1 (.cRegister "b" "p") 1 2 ++ [.request 0 (.cCreateRoom "a" "r"),
      .request 1 (.cCreateRoom "b" "r"), .run 2, .run 2, .run 3] ++ runs 2 6
    ∃ state, (system id).run events fresh = some state ∧
      state.processes[2]? = some ⟨0, .createRoom "a" "r" (.reply true)⟩ ∧
      state.processes[3]? = some ⟨1, .createRoom "b" "r" (.reply false)⟩ ∧
      (state.db.room.map fun row => row.roomName).Nodup ∧
      ∃ first rest before, events = first ++ .run 3 :: rest ∧
        (system id).run first fresh = some before ∧ ∃ row ∈ before.db.room, row.roomName = "r" := by
  intro events
  obtain ⟨state, ran, created, refused⟩ : ∃ state, (system id).run events fresh = some state ∧
      state.processes[2]? = some ⟨0, .createRoom "a" "r" (.reply true)⟩ ∧
      state.processes[3]? = some ⟨1, .createRoom "b" "r" (.reply false)⟩ := ⟨_, rfl, rfl, rfl⟩
  obtain ⟨distinct, _, _, answers⟩ := room_names_unique ran
  obtain ⟨first, rest, before, split, reached, _, row, member, named⟩ :=
    (answers 3 1 "b" "r" false refused).2 rfl
  exact ⟨state, ran, created, refused, distinct, first, rest, before, split, reached,
    row, member, named⟩

end ServerState

end ChattingProgram.Server
