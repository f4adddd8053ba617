import ChattingProgram.Core.SendPipeline
import ChattingProgram.Server.BroadCast
import ChattingProgram.Server.Posts

namespace ChattingProgram.Server

open ChattingProgram.Core ChattingProgram.Machine ChattingProgram.Protocol

/-! # One order for all members of a room

A thread in the loop of `BroadCast` has the lock of the room, so `_users` stays
as it was, and no later broadcast of the room has begun.  Whatever the loop
pushes to a session therefore comes after everything that earlier broadcasts of
the room have pushed there, and a session transmits in the order of its pushes.
-/

variable {Packet : Type}

/-- The sessions that `BroadCast` passes the packet to, in the order of `_users`. -/
def recipients (entries : List (Sigma fun _ : String => Nat)) (excluUser : Option Nat) : List Nat :=
  (entries.filter fun entry => excluUser ≠ some entry.2).map fun entry => entry.2

theorem recipients_concat {entries : List (Sigma fun _ : String => Nat)} (excluUser : Option Nat)
    (found : entries[it]? = some entry) :
    recipients (entries.take (it + 1)) excluUser =
      recipients (entries.take it) excluUser ++
        (if excluUser = some entry.2 then [] else [entry.2]) := by
  rw [List.take_add_one, found, Option.toList_some]
  by_cases excluded : excluUser = some entry.2
  · simp [recipients, List.filter_append, excluded]
  · simp [recipients, List.filter_append, excluded]

/-- The server's model sends to the same sessions, in one step. -/
theorem ServerState.broadcasts_recipients {self : ServerState} (message : Message)
    (excluUser : Option Nat) (object : self.rooms[room]? = some current) :
    self.broadcasts room message excluUser =
      (recipients current.users.inOrder excluUser).map fun session => (session, message) := by
  simp only [broadcasts, object, recipients, List.map_map, Function.comp_def]

namespace RoomPc

/-- The guards of the room's `_lock` on the stack of a thread. -/
def depth (room : Nat) : RoomPc Packet → Nat
  | .erase other _ _ | .refresh other _ | .unlock other => if other = room then 1 else 0
  | .broadCast other _ _ inRemove => if other = room then inRemove.toNat else 0
  | .visit other _ _ inRemove | .send other _ _ _ _ inRemove =>
      if other = room then inRemove.toNat + 1 else 0
  | .returned | .addUser _ _ _ | .removeUser _ _ _ => 0

/-- The loop that a thread is in: the room, the call and the users it is through with. -/
def loop : RoomPc Packet → Option (Nat × Nat × Nat)
  | .visit room cast it _ => some (room, cast, it)
  | .send room cast it _ _ _ => some (room, cast, it + 1)
  | _ => none

theorem depth_of_loop {pc : RoomPc Packet} {cast : Nat}
    (looping : pc.loop = some (room, cast, seen)) : 0 < pc.depth room := by
  cases pc <;> simp only [loop, Option.some.injEq, Prod.mk.injEq, reduceCtorEq] at looping
  · obtain ⟨rfl, _⟩ := looping
    simp [depth]
  · obtain ⟨rfl, _⟩ := looping
    simp [depth]

end RoomPc

namespace Broadcasting

/-! ## The locks -/

structure Locked (state : Broadcasting Packet) : Prop where
  guards : ∀ {room thread : Nat} {current : SharedRoom} {pc : RoomPc Packet},
    state.rooms[room]? = some current →
    state.threads[thread]? = some pc →
    pc.depth room = if current.holder = some thread then current.depth else 0
  present : ∀ {room holder : Nat} {current : SharedRoom}, state.rooms[room]? = some current →
    current.holder = some holder → holder < state.threads.length
  inside : ∀ {room thread : Nat} {pc : RoomPc Packet}, state.threads[thread]? = some pc →
    0 < pc.depth room → room < state.rooms.length

variable {self after : Broadcasting Packet} {thread : Nat} {pc next : RoomPc Packet}

theorem Locked.holder (locked : self.Locked) (object : self.rooms[room]? = some current)
    (found : self.threads[thread]? = some pc) (inner : 0 < pc.depth room) :
    current.holder = some thread ∧ current.depth = pc.depth room := by
  have guards := locked.guards object found
  split at guards
  · rename_i holds
    exact ⟨holds, guards.symm⟩
  · omega

/-- What a step of a thread may do to a room: nothing to the lock, or take or give
back a guard. -/
inductive Guards (thread room : Nat) (pc next : RoomPc Packet)
    (current changed : SharedRoom) : Prop where
  | same (holder : changed.holder = current.holder) (count : changed.depth = current.depth)
      (depth : next.depth room = pc.depth room)
  | moved (before : current.holder = none ∨ current.holder = some thread)
      (after : changed.holder = none ∨ changed.holder = some thread)
      (depth : next.depth room = if changed.holder = some thread then changed.depth else 0)

theorem Locked.move (locked : self.Locked) (found : self.threads[thread]? = some pc)
    (threads : after.threads = self.threads.set thread next)
    (length : after.rooms.length = self.rooms.length)
    (inside : ∀ {room}, 0 < next.depth room → room < self.rooms.length)
    (change : ∀ {room changed}, after.rooms[room]? = some changed →
      ∃ current, self.rooms[room]? = some current ∧ Guards thread room pc next current changed) :
    after.Locked := by
  have within : thread < self.threads.length := (List.getElem?_eq_some_iff.mp found).1
  refine ⟨?_, ?_, ?_⟩
  · intro room other changed otherPc object foundOther
    obtain ⟨current, before, guards⟩ := change object
    rw [threads] at foundOther
    rcases getElem?_set_cases foundOther with ⟨rfl, rfl⟩ | ⟨elsewhere, still⟩
    · cases guards with
      | same holder count depth => rw [depth, holder, count, locked.guards before found]
      | moved _ _ depth => exact depth
    · have guarded := locked.guards before still
      cases guards with
      | same holder count _ => rw [guarded, holder, count]
      | moved held holds _ =>
          have others : current.holder ≠ some other := by
            rcases held with held | held <;> simp [held, elsewhere]
          have still : changed.holder ≠ some other := by
            rcases holds with holds | holds <;> simp [holds, elsewhere]
          rw [guarded, if_neg others, if_neg still]
  · intro room holder changed object holds
    obtain ⟨current, before, guards⟩ := change object
    rw [threads, List.length_set]
    cases guards with
    | same same _ _ => exact locked.present before (same.symm.trans holds)
    | moved _ now _ =>
        rcases now with now | now
        · simp [now] at holds
        · rw [now, Option.some.injEq] at holds
          exact holds ▸ within
  · intro room other otherPc foundOther inner
    rw [threads] at foundOther
    rw [length]
    rcases getElem?_set_cases foundOther with ⟨_, rfl⟩ | ⟨_, still⟩
    · exact inside inner
    · exact locked.inside still inner

theorem Locked.still (locked : self.Locked) (found : self.threads[thread]? = some pc)
    (threads : after.threads = self.threads.set thread next) (rooms : after.rooms = self.rooms)
    (same : ∀ room, next.depth room = pc.depth room) : after.Locked := by
  refine locked.move found threads (by rw [rooms]) ?_ ?_
  · intro room inner
    exact locked.inside found (same room ▸ inner)
  · intro room changed object
    exact ⟨changed, rooms ▸ object, .same rfl rfl (same room)⟩

theorem Locked.update (locked : self.Locked) (found : self.threads[thread]? = some pc)
    (object : self.rooms[room]? = some current)
    (threads : after.threads = self.threads.set thread next)
    (rooms : after.rooms = self.rooms.set room changed)
    (elsewhere : ∀ {other}, room ≠ other → next.depth other = pc.depth other)
    (here : Guards thread room pc next current changed) : after.Locked := by
  refine locked.move found threads (by rw [rooms, List.length_set]) ?_ ?_
  · intro other inner
    by_cases same : room = other
    · exact same ▸ (List.getElem?_eq_some_iff.mp object).1
    · exact locked.inside found (elsewhere same ▸ inner)
  · intro other otherChanged otherObject
    rw [rooms] at otherObject
    rcases getElem?_set_cases otherObject with ⟨rfl, rfl⟩ | ⟨apart, still⟩
    · exact ⟨current, object, here⟩
    · exact ⟨otherChanged, still, .same rfl rfl (elsewhere apart)⟩

theorem writeLock_free {current : SharedRoom} (taken : current.writeLock thread = some changed) :
    (current.holder = none ∨ current.holder = some thread) ∧ changed.users = current.users := by
  simp only [SharedRoom.writeLock] at taken
  split at taken
  · rename_i free
    cases taken
    exact ⟨.inl free, rfl⟩
  · rename_i holder holds
    split at taken
    · rename_i same
      cases taken
      exact ⟨.inr (same ▸ holds), rfl⟩
    · contradiction

theorem writeLock_guards (locked : self.Locked) (found : self.threads[thread]? = some pc)
    (object : self.rooms[room]? = some current) (taken : current.writeLock thread = some changed)
    (deeper : next.depth room = pc.depth room + 1) :
    Guards thread room pc next current changed := by
  have guards := locked.guards object found
  simp only [SharedRoom.writeLock] at taken
  split at taken
  · rename_i free
    cases taken
    refine .moved (.inl free) (.inr rfl) ?_
    simpa [free, deeper] using guards
  · rename_i holder holds
    split at taken
    · rename_i same
      subst same
      cases taken
      refine .moved (.inr holds) (.inr holds) ?_
      simp only [holds, if_true] at guards ⊢
      rw [deeper, guards]
    · contradiction

theorem writeUnlock_guards (locked : self.Locked) (found : self.threads[thread]? = some pc)
    (object : self.rooms[room]? = some current) (higher : pc.depth room = next.depth room + 1) :
    Guards thread room pc next current current.writeUnlock := by
  obtain ⟨holds, count⟩ := locked.holder object found (by omega)
  simp only [SharedRoom.writeUnlock]
  split
  · rename_i single
    refine .moved (.inr holds) (.inl rfl) ?_
    simp only [reduceCtorEq, if_false]
    omega
  · refine .moved (.inr holds) (.inr holds) ?_
    simp only [holds, if_true]
    omega

/-! ## The loops -/

def loops (self : Broadcasting Packet) (thread : Nat) : Option (Nat × Nat × Nat) :=
  (self.threads[thread]?).bind RoomPc.loop

theorem loops_move (found : self.threads[thread]? = some pc)
    (threads : after.threads = self.threads.set thread next) (other : Nat) :
    after.loops other = if thread = other then next.loop else self.loops other := by
  have within : thread < self.threads.length := (List.getElem?_eq_some_iff.mp found).1
  simp only [loops, threads, List.getElem?_set, within, if_true]
  split <;> rfl

/-- How far the loop of a call has come. -/
structure Progress (state : Broadcasting Packet) (room cast seen : Nat) : Prop where
  object : ∃ current call, state.rooms[room]? = some current ∧ state.casts[cast]? = some call ∧
    call.room = room ∧ call.finished = false ∧ call.users = current.users ∧
    call.handed = recipients (call.users.inOrder.take seen) call.excluUser
  last : ∀ {other : Nat} {call : Cast Packet}, state.casts[other]? = some call →
    call.room = room → other ≤ cast

structure Looped (state : Broadcasting Packet) : Prop where
  progress : ∀ {thread room cast seen : Nat}, state.loops thread = some (room, cast, seen) →
    state.Progress room cast seen
  running : ∀ {cast : Nat} {call : Cast Packet}, state.casts[cast]? = some call →
    call.finished = false → ∃ thread seen, state.loops thread = some (call.room, cast, seen)
  complete : ∀ {cast : Nat} {call : Cast Packet}, state.casts[cast]? = some call →
    call.finished = true → call.handed = recipients call.users.inOrder call.excluUser

/-- A thread in a loop has the lock of the room. -/
theorem Locked.of_loops (locked : self.Locked) {cast : Nat}
    (looping : self.loops thread = some (room, cast, seen))
    (object : self.rooms[room]? = some current) : current.holder = some thread := by
  obtain ⟨pc, found, loop⟩ := Option.bind_eq_some_iff.mp looping
  exact (locked.holder object found (RoomPc.depth_of_loop loop)).1

/-- Two threads in loops over the users of one room are one. -/
theorem Locked.loops_same (locked : self.Locked) {cast otherCast : Nat}
    (looping : self.loops thread = some (room, cast, seen))
    (loopingOther : self.loops other = some (room, otherCast, otherSeen))
    (object : self.rooms[room]? = some current) : other = thread := by
  have holds := locked.of_loops looping object
  rw [locked.of_loops loopingOther object, Option.some.injEq] at holds
  exact holds

/-- Two threads in the loop of one call are one. -/
theorem Looped.same (looped : self.Looped) (locked : self.Locked) {room cast : Nat}
    (looping : self.loops thread = some (room, cast, seen))
    (loopingOther : self.loops other = some (otherRoom, cast, otherSeen)) : other = thread := by
  obtain ⟨⟨current, call, object, foundCall, here, _⟩, _⟩ := looped.progress looping
  obtain ⟨⟨_, otherCall, _, foundOtherCall, there, _⟩, _⟩ := looped.progress loopingOther
  rw [foundCall, Option.some.injEq] at foundOtherCall
  subst foundOtherCall
  rw [here] at there
  subst there
  exact locked.loops_same looping loopingOther object

/-- Steps that leave the calls of `BroadCast` alone. -/
theorem Looped.bystander (looped : self.Looped)
    (loops : ∀ other, after.loops other = self.loops other) (casts : after.casts = self.casts)
    (users : ∀ {other room cast seen : Nat} {current : SharedRoom},
      self.loops other = some (room, cast, seen) →
      self.rooms[room]? = some current →
      ∃ changed : SharedRoom, after.rooms[room]? = some changed ∧ changed.users = current.users) :
    after.Looped := by
  refine ⟨?_, ?_, ?_⟩
  · intro other room cast seen looping
    rw [loops] at looping
    obtain ⟨⟨current, call, object, foundCall, here, unfinished, sameUsers, handed⟩, last⟩ :=
      looped.progress looping
    obtain ⟨changed, objectAfter, unchanged⟩ := users looping object
    refine ⟨⟨changed, call, objectAfter, casts ▸ foundCall, here, unfinished, ?_, handed⟩, ?_⟩
    · rw [unchanged, sameUsers]
    · rw [casts]
      exact last
  · intro cast call foundCall unfinished
    rw [casts] at foundCall
    simp only [loops]
    exact looped.running foundCall unfinished
  · intro cast call foundCall
    rw [casts] at foundCall
    exact looped.complete foundCall

/-- `BroadCast` takes the lock and begins its loop. -/
theorem Looped.begin (looped : self.Looped) (locked : self.Locked) {current : SharedRoom}
    (outside : self.loops thread = none) (object : self.rooms[room]? = some current)
    (free : current.holder = none ∨ current.holder = some thread)
    (loops : ∀ other, after.loops other =
      if thread = other then some (room, self.casts.length, 0) else self.loops other)
    (rooms : after.rooms = self.rooms.set room changed) (users : changed.users = current.users)
    (casts : after.casts = self.casts ++ [call])
    (started : call.room = room ∧ call.users = current.users ∧ call.handed = [] ∧
      call.finished = false) : after.Looped := by
  obtain ⟨callRoom, callUsers, callHanded, callFinished⟩ := started
  have place : after.rooms[room]? = some changed := by
    rw [rooms, List.getElem?_set_self (List.getElem?_eq_some_iff.mp object).1]
  have fresh : after.casts[self.casts.length]? = some call := by
    rw [casts, List.getElem?_concat_length]
  have older : ∀ {cast : Nat} {call : Cast Packet}, self.casts[cast]? = some call →
      after.casts[cast]? = some call := by
    intro cast call foundCall
    rw [casts, List.getElem?_append_left (List.getElem?_eq_some_iff.mp foundCall).1, foundCall]
  -- nobody else is in a loop of this room
  have elsewhere : ∀ {other otherRoom cast seen : Nat},
      self.loops other = some (otherRoom, cast, seen) → otherRoom ≠ room := by
    rintro other _ cast seen looping rfl
    have holds := locked.of_loops looping object
    rcases free with free | free
    · simp [free] at holds
    · rw [free, Option.some.injEq] at holds
      rw [← holds, outside] at looping
      contradiction
  refine ⟨?_, ?_, ?_⟩
  · intro other otherRoom cast seen looping
    rw [loops] at looping
    split at looping
    · obtain ⟨rfl, rfl, rfl⟩ := looping
      refine ⟨⟨changed, call, place, fresh, callRoom, callFinished, by rw [users, callUsers], ?_⟩,
        ?_⟩
      · simp [callHanded, recipients]
      · intro old oldCall foundOld _
        have bound := (List.getElem?_eq_some_iff.mp foundOld).1
        rw [casts, List.length_append, List.length_singleton] at bound
        omega
    · obtain ⟨⟨otherCurrent, otherCall, otherObject, foundCall, here, rest⟩, last⟩ :=
        looped.progress looping
      have apart := elsewhere looping
      refine ⟨⟨otherCurrent, otherCall, ?_, older foundCall, here, rest⟩, ?_⟩
      · rw [rooms, List.getElem?_set_ne apart.symm, otherObject]
      · intro old oldCall foundOld same
        rw [casts] at foundOld
        rcases getElem?_concat_cases foundOld with foundOld | ⟨_, rfl⟩
        · exact last foundOld same
        · exact absurd (same.symm.trans callRoom) apart
  · intro cast oldCall foundCall unfinished
    rw [casts] at foundCall
    rcases getElem?_concat_cases foundCall with foundCall | ⟨rfl, rfl⟩
    · obtain ⟨other, seen, looping⟩ := looped.running foundCall unfinished
      refine ⟨other, seen, ?_⟩
      rw [loops, if_neg, looping]
      rintro rfl
      rw [outside] at looping
      contradiction
    · exact ⟨thread, 0, by rw [loops, if_pos rfl, callRoom]⟩
  · intro cast oldCall foundCall finished
    rw [casts] at foundCall
    rcases getElem?_concat_cases foundCall with foundCall | ⟨rfl, rfl⟩
    · exact looped.complete foundCall finished
    · simp [callFinished] at finished

/-- The other calls are in their loops as before. -/
theorem Looped.running_other (looped : self.Looped) {cast : Nat} {next : Option (Nat × Nat × Nat)}
    (looping : self.loops thread = some (room, cast, it))
    (loops : ∀ other, after.loops other = if thread = other then next else self.loops other)
    (different : cast ≠ otherCast) (still : self.casts[otherCast]? = some otherCall)
    (unfinished : otherCall.finished = false) :
    ∃ other seen, after.loops other = some (otherCall.room, otherCast, seen) := by
  obtain ⟨other, seen, loopingOther⟩ := looped.running still unfinished
  refine ⟨other, seen, ?_⟩
  rw [loops, if_neg, loopingOther]
  rintro rfl
  rw [looping] at loopingOther
  obtain ⟨_, rfl, _⟩ := loopingOther
  exact different rfl

/-- One turn of the loop: the next user is skipped or handed the packet. -/
theorem Looped.turn (looped : self.Looped) (locked : self.Locked) {cast : Nat}
    {call : Cast Packet} (looping : self.loops thread = some (room, cast, it))
    (foundCall : self.casts[cast]? = some call)
    (loops : ∀ other, after.loops other =
      if thread = other then some (room, cast, it + 1) else self.loops other)
    (rooms : after.rooms = self.rooms) (casts : after.casts = self.casts.set cast turned)
    (same : turned.room = call.room ∧ turned.users = call.users ∧
      turned.excluUser = call.excluUser ∧ turned.finished = call.finished)
    (handed : turned.handed = recipients (call.users.inOrder.take (it + 1)) call.excluUser) :
    after.Looped := by
  obtain ⟨sameRoom, sameUsers, sameExclu, sameFinished⟩ := same
  obtain ⟨⟨current, _, object, foundSame, here, unfinished, users, _⟩, last⟩ :=
    looped.progress looping
  rw [foundCall, Option.some.injEq] at foundSame
  subst foundSame
  have within : cast < self.casts.length := (List.getElem?_eq_some_iff.mp foundCall).1
  have stands : ∀ {other : Nat} {old : Cast Packet}, after.casts[other]? = some old →
      ∃ before : Cast Packet, self.casts[other]? = some before ∧ before.room = old.room := by
    intro other old foundOld
    rw [casts] at foundOld
    rcases getElem?_set_cases foundOld with ⟨rfl, rfl⟩ | ⟨_, still⟩
    · exact ⟨call, foundCall, sameRoom.symm⟩
    · exact ⟨old, still, rfl⟩
  refine ⟨?_, ?_, ?_⟩
  · intro other otherRoom otherCast seen loopingOther
    rw [loops] at loopingOther
    split at loopingOther
    · obtain ⟨rfl, rfl, rfl⟩ := loopingOther
      refine ⟨⟨current, turned, rooms ▸ object, ?_, sameRoom.trans here,
        sameFinished.trans unfinished, sameUsers.trans users, ?_⟩, ?_⟩
      · rw [casts, List.getElem?_set_self within]
      · rw [handed, sameUsers, sameExclu]
      · intro old oldCall foundOld oldRoom
        obtain ⟨before, foundBefore, sameOld⟩ := stands foundOld
        exact last foundBefore (sameOld.trans oldRoom)
    · rename_i apart
      obtain ⟨⟨otherCurrent, otherCall, otherObject, foundOther, rest⟩, lastOther⟩ :=
        looped.progress loopingOther
      have different : cast ≠ otherCast := by
        rintro rfl
        exact apart (looped.same locked looping loopingOther).symm
      refine ⟨⟨otherCurrent, otherCall, rooms ▸ otherObject, ?_, rest⟩, ?_⟩
      · rw [casts, List.getElem?_set_ne different, foundOther]
      · intro old oldCall foundOld oldRoom
        obtain ⟨before, foundBefore, sameOld⟩ := stands foundOld
        exact lastOther foundBefore (sameOld.trans oldRoom)
  · intro otherCast otherCall foundOther unfinishedOther
    rw [casts] at foundOther
    rcases getElem?_set_cases foundOther with ⟨rfl, rfl⟩ | ⟨different, still⟩
    · exact ⟨thread, it + 1, by rw [loops, if_pos rfl, sameRoom, here]⟩
    · exact looped.running_other looping loops different still unfinishedOther
  · intro otherCast otherCall foundOther finished
    rw [casts] at foundOther
    rcases getElem?_set_cases foundOther with ⟨rfl, rfl⟩ | ⟨_, still⟩
    · rw [sameFinished, unfinished] at finished
      contradiction
    · exact looped.complete still finished

/-- The loop is through and `BroadCast` gives the lock back. -/
theorem Looped.finish (looped : self.Looped) (locked : self.Locked) {cast : Nat}
    {call : Cast Packet} (looping : self.loops thread = some (room, cast, it))
    (object : self.rooms[room]? = some current) (foundCall : self.casts[cast]? = some call)
    (through : current.users.inOrder[it]? = none)
    (loops : ∀ other, after.loops other = if thread = other then none else self.loops other)
    (rooms : after.rooms = self.rooms.set room changed)
    (casts : after.casts = self.casts.set cast { call with finished := true }) : after.Looped := by
  obtain ⟨⟨_, _, sameObject, foundSame, here, unfinished, users, handed⟩, last⟩ :=
    looped.progress looping
  rw [object, Option.some.injEq] at sameObject
  subst sameObject
  rw [foundCall, Option.some.injEq] at foundSame
  subst foundSame
  refine ⟨?_, ?_, ?_⟩
  · intro other otherRoom otherCast seen loopingOther
    rw [loops] at loopingOther
    split at loopingOther
    · contradiction
    · rename_i apart
      obtain ⟨⟨otherCurrent, otherCall, otherObject, foundOther, otherHere, rest⟩, lastOther⟩ :=
        looped.progress loopingOther
      have different : cast ≠ otherCast := by
        rintro rfl
        exact apart (looped.same locked looping loopingOther).symm
      have otherwhere : room ≠ otherRoom := by
        rintro rfl
        exact apart (locked.loops_same looping loopingOther object).symm
      refine ⟨⟨otherCurrent, otherCall, ?_, ?_, otherHere, rest⟩, ?_⟩
      · rw [rooms, List.getElem?_set_ne otherwhere, otherObject]
      · rw [casts, List.getElem?_set_ne different, foundOther]
      · intro old oldCall foundOld oldRoom
        rw [casts] at foundOld
        rcases getElem?_set_cases foundOld with ⟨rfl, rfl⟩ | ⟨_, still⟩
        · exact absurd (here.symm.trans oldRoom) otherwhere
        · exact lastOther still oldRoom
  · intro otherCast otherCall foundOther unfinishedOther
    rw [casts] at foundOther
    rcases getElem?_set_cases foundOther with ⟨rfl, rfl⟩ | ⟨different, still⟩
    · contradiction
    · exact looped.running_other looping loops different still unfinishedOther
  · intro otherCast otherCall foundOther finished
    rw [casts] at foundOther
    rcases getElem?_set_cases foundOther with ⟨rfl, rfl⟩ | ⟨_, still⟩
    · rw [List.getElem?_eq_none_iff, ← users] at through
      simpa only [List.take_of_length_le through] using handed
    · exact looped.complete still finished

/-! ## The queues of the sessions -/

def roomOf (casts : List (Cast Packet)) (cast : Nat) : Option Nat := (casts[cast]?).map Cast.room

/-- Of two parcels of one room the first is of the earlier broadcast, or both are
of the same. -/
def InOrder (casts : List (Cast Packet)) (first second : Parcel Packet) : Prop :=
  ∀ ⦃earlier later : Nat⦄, first.cast = some earlier → second.cast = some later →
    roomOf casts earlier = roomOf casts later → earlier ≤ later

/-- The parcel was made in a call of `BroadCast` for its packet. -/
def Known (casts : List (Cast Packet)) (parcel : Parcel Packet) : Prop :=
  ∀ ⦃cast : Nat⦄, parcel.cast = some cast → ∃ call, casts[cast]? = some call ∧
    call.packet = parcel.packet

/-- How often the loop of a call has called the `Send` of a session. -/
def handedTo (casts : List (Cast Packet)) (cast session : Nat) : Nat :=
  ((casts[cast]?).map fun call => call.handed.count session).getD 0

def waiting (cast : Nat) (pc : SendPc (Parcel Packet)) : Nat :=
  if (SendState.pending pc).bind Parcel.cast = some cast then 1 else 0

def copies (cast : Nat) (parcels : List (Parcel Packet)) : Nat := parcels.countP fun parcel =>
  parcel.cast = some cast

/-- The calls may have grown, and have come further. -/
def Extends (before after : List (Cast Packet)) : Prop :=
  ∀ ⦃cast : Nat⦄ ⦃call : Cast Packet⦄, before[cast]? = some call →
    ∃ later, after[cast]? = some later ∧ later.room = call.room ∧ later.packet = call.packet

theorem Extends.set {casts : List (Cast Packet)} {cast : Nat} {later : Cast Packet}
    (found : casts[cast]? = some call) (room : later.room = call.room)
    (packet : later.packet = call.packet) : Extends casts (casts.set cast later) := by
  intro other old foundOld
  by_cases here : cast = other
  · subst here
    rw [found, Option.some.injEq] at foundOld
    subst foundOld
    exact ⟨later, List.getElem?_set_self (List.getElem?_eq_some_iff.mp found).1, room, packet⟩
  · exact ⟨old, by rw [List.getElem?_set_ne here, foundOld], rfl, rfl⟩

theorem Extends.append (casts more : List (Cast Packet)) : Extends casts (casts ++ more) := by
  intro cast call found
  exact ⟨call, by rw [List.getElem?_append_left (List.getElem?_eq_some_iff.mp found).1,
    found], rfl, rfl⟩

theorem Known.extends {after : List (Cast Packet)} (known : Known before parcel)
    (grown : Extends before after) : Known after parcel := by
  intro cast tagged
  obtain ⟨call, found, packet⟩ := known tagged
  obtain ⟨later, foundLater, _, samePacket⟩ := grown found
  exact ⟨later, foundLater, samePacket.trans packet⟩

theorem roomOf_extends {after : List (Cast Packet)} (grown : Extends before after) {cast : Nat}
    (found : before[cast]? = some call) : roomOf after cast = roomOf before cast := by
  obtain ⟨later, foundLater, room, _⟩ := grown found
  simp only [roomOf, found, foundLater, Option.map_some, room]

theorem InOrder.extends {after : List (Cast Packet)} {first : Parcel Packet}
    (ordered : InOrder before first second) (grown : Extends before after)
    (knownFirst : Known before first) (knownSecond : Known before second) :
    InOrder after first second := by
  intro earlier later taggedFirst taggedSecond sameRoom
  obtain ⟨_, foundFirst, _⟩ := knownFirst taggedFirst
  obtain ⟨_, foundSecond, _⟩ := knownSecond taggedSecond
  rw [roomOf_extends grown foundFirst, roomOf_extends grown foundSecond] at sameRoom
  exact ordered taggedFirst taggedSecond sameRoom

/-- Some thread is in the loop of the call and waits for this `Send` of the session. -/
def Calls (self : Broadcasting Packet) (session call cast : Nat) : Prop :=
  ∃ (thread room it : Nat) (inRemove : Bool),
    self.threads[thread]? = some (RoomPc.send room cast it session call inRemove)

/-- What holds of the pipeline of one session. -/
structure Queued (state : Broadcasting Packet) (session : Nat)
    (sender : SendState (Parcel Packet)) : Prop where
  pipeline : sender.Pipeline
  caller : ∀ {call : Nat} {pc : SendPc (Parcel Packet)} {parcel : Parcel Packet} {cast : Nat},
    sender.threads[call]? = some pc → SendState.pending pc = some parcel → parcel.cast = some cast →
    state.Calls session call cast
  fresh : ∀ {pc : SendPc (Parcel Packet)} {parcel : Parcel Packet}, pc ∈ sender.threads →
    SendState.pending pc = some parcel → Known state.casts parcel
  known : ∀ parcel ∈ sender.pushed, Known state.casts parcel
  ordered : sender.pushed.Pairwise (InOrder state.casts)
  counted : sender.connected = true → ∀ cast,
    copies cast sender.pushed + total (waiting cast) sender.threads =
    handedTo state.casts cast session

structure Sent (state : Broadcasting Packet) : Prop where
  queued : ∀ {session : Nat} {sender : SendState (Parcel Packet)},
    state.sessions[session]? = some sender → state.Queued session sender
  absent : ∀ {session : Nat}, state.sessions.length ≤ session →
    ∀ cast, handedTo state.casts cast session = 0

/-- Steps that leave the sessions alone. -/
theorem Queued.bystander {sender : SendState (Parcel Packet)}
    (queued : self.Queued session sender) (grown : Extends self.casts after.casts)
    (handed : ∀ cast, handedTo after.casts cast session = handedTo self.casts cast session)
    (callers : ∀ {call cast : Nat} {pc : SendPc (Parcel Packet)}, self.Calls session call cast →
      sender.threads[call]? = some pc → SendState.pending pc ≠ none →
      after.Calls session call cast) :
    after.Queued session sender where
  pipeline := queued.pipeline
  caller := by
    intro call pc parcel cast found pending tagged
    exact callers (queued.caller found pending tagged) found (by simp [pending])
  fresh := fun member pending => (queued.fresh member pending).extends grown
  known := fun parcel member => (queued.known parcel member).extends grown
  ordered := queued.ordered.imp_of_mem fun {_ _} first second ordered =>
    ordered.extends grown (queued.known _ first) (queued.known _ second)
  counted := by
    intro connected cast
    rw [handed]
    exact queued.counted connected cast

/-- The broadcast that a `Send` in progress belongs to is the last of its room. -/
theorem Looped.last_of_calls (looped : self.Looped) {cast : Nat}
    (calls : self.Calls session call cast)
    (sameRoom : roomOf self.casts other = roomOf self.casts cast) : other ≤ cast := by
  obtain ⟨thread, room, it, inRemove, found⟩ := calls
  have looping : self.loops thread = some (room, cast, it + 1) := by
    simp [loops, found, RoomPc.loop]
  obtain ⟨⟨_, running, _, foundCall, here, _⟩, last⟩ := looped.progress looping
  simp only [roomOf, foundCall, Option.map_some, here, Option.map_eq_some_iff] at sameRoom
  obtain ⟨old, foundOld, oldRoom⟩ := sameRoom
  exact last foundOld oldRoom

theorem waiting_of_pending_none {cast : Nat} {pc : SendPc (Parcel Packet)}
    (none : SendState.pending pc = none) : waiting cast pc = 0 := by
  simp [waiting, none]

theorem copies_concat (cast : Nat) (parcels : List (Parcel Packet)) (parcel : Parcel Packet) :
    copies cast (parcels ++ [parcel]) =
      copies cast parcels + if parcel.cast = some cast then 1 else 0 := by
  simp [copies, List.countP_append, List.countP_cons]

/-- A step of the pipeline that is no call of `Send`. -/
theorem Queued.pushes (looped : self.Looped) {moved : SendState (Parcel Packet)}
    (queued : self.Queued session sender) (pipeline : moved.Pipeline)
    (pushes : sender.Pushes moved) : self.Queued session moved := by
  have caller : ∀ {call : Nat} {pc : SendPc (Parcel Packet)} {parcel : Parcel Packet} {cast : Nat},
      moved.threads[call]? = some pc → SendState.pending pc = some parcel →
      parcel.cast = some cast →
      self.Calls session call cast := by
    intro call pc parcel cast found waits tagged
    obtain ⟨before, foundBefore, waited⟩ := pushes.pending_before found waits
    exact queued.caller foundBefore waited tagged
  have fresh : ∀ {pc : SendPc (Parcel Packet)} {parcel : Parcel Packet}, pc ∈ moved.threads →
      SendState.pending pc = some parcel → Known self.casts parcel := by
    intro pc parcel member waits
    obtain ⟨call, found⟩ := List.mem_iff_getElem?.mp member
    obtain ⟨before, foundBefore, waited⟩ := pushes.pending_before found waits
    exact queued.fresh (List.mem_of_getElem? foundBefore) waited
  cases pushes with
  | push call parcel pc found done threads pushed connected =>
      have waits : SendState.pending (.sendPush parcel) = some parcel := rfl
      refine ⟨pipeline, caller, fresh, ?_, ?_, ?_⟩
      · intro other member
        rw [pushed, List.mem_append, List.mem_singleton] at member
        rcases member with member | rfl
        · exact queued.known other member
        · exact queued.fresh (List.mem_of_getElem? found) waits
      · -- the broadcast is the last of its room, so nothing of the room stands behind it
        rw [pushed, List.pairwise_append]
        refine ⟨queued.ordered, List.pairwise_singleton _ _, ?_⟩
        rintro first _ last member earlier later _ tagged sameRoom
        rw [List.mem_singleton] at member
        subst member
        exact looped.last_of_calls (queued.caller found waits tagged) sameRoom
      · intro still cast
        rw [connected] at still
        have before := queued.counted still cast
        have moves := total_set (waiting cast) pc found
        rw [waiting_of_pending_none done] at moves
        have weight : waiting cast (.sendPush parcel) =
            if parcel.cast = some cast then 1 else 0 := rfl
        rw [pushed, threads, copies_concat]
        omega
  | giveUp call threads pushed disconnected =>
      refine ⟨pipeline, caller, fresh, pushed ▸ queued.known, pushed ▸ queued.ordered, ?_⟩
      intro still
      rw [disconnected] at still
      contradiction
  | move call before pc found threads same pushed connected =>
      refine ⟨pipeline, caller, fresh, pushed ▸ queued.known, pushed ▸ queued.ordered, ?_⟩
      intro still cast
      rw [pushed, threads, total_set_same (waiting cast) found (by simp only [waiting, same])]
      exact queued.counted (connected still) cast
  | spawn pc idle threads pushed connected =>
      refine ⟨pipeline, caller, fresh, pushed ▸ queued.known, pushed ▸ queued.ordered, ?_⟩
      intro still cast
      rw [pushed, threads, total_append, total_cons, total_nil, waiting_of_pending_none idle]
      exact queued.counted (connected still) cast
  | stay threads pushed connected =>
      refine ⟨pipeline, caller, fresh, pushed ▸ queued.known, pushed ▸ queued.ordered, ?_⟩
      intro still cast
      rw [pushed, threads]
      exact queued.counted (connected still) cast

/-- A call of `Send`, by a handler or by the loop of a broadcast. -/
theorem Queued.call {sender : SendState (Parcel Packet)} {parcel : Parcel Packet}
    (queued : self.Queued session sender) (grown : Extends self.casts after.casts)
    (kept : ∀ {call cast : Nat}, self.Calls session call cast → after.Calls session call cast)
    (caller : ∀ {cast : Nat}, parcel.cast = some cast →
      after.Calls session sender.threads.length cast) (known : Known after.casts parcel)
    (handed : ∀ cast, handedTo after.casts cast session =
      handedTo self.casts cast session + if parcel.cast = some cast then 1 else 0) :
    after.Queued session { sender with threads := sender.threads ++ [.send parcel] } where
  pipeline := by
    have stepped : SendState.step (.call parcel) sender =
        some { sender with threads := sender.threads ++ [.send parcel] } := rfl
    have succeeds : SendState.Succeeds (.call parcel) := trivial
    exact SendState.step_pipeline succeeds stepped queued.pipeline
  caller := by
    intro call pc other cast found waits tagged
    rcases getElem?_concat_cases found with still | ⟨rfl, rfl⟩
    · exact kept (queued.caller still waits tagged)
    · simp only [SendState.pending, Option.some.injEq] at waits
      subst waits
      exact caller tagged
  fresh := by
    intro pc other member waits
    rw [List.mem_append, List.mem_singleton] at member
    rcases member with member | rfl
    · exact (queued.fresh member waits).extends grown
    · simp only [SendState.pending, Option.some.injEq] at waits
      exact waits ▸ known
  known := fun other member => (queued.known other member).extends grown
  ordered := queued.ordered.imp_of_mem fun {_ _} first second ordered =>
    ordered.extends grown (queued.known _ first) (queued.known _ second)
  counted := by
    intro connected cast
    have before := queued.counted connected cast
    have weight : waiting cast (.send parcel) = if parcel.cast = some cast then 1 else 0 := rfl
    change copies cast sender.pushed + total (waiting cast) (sender.threads ++ [.send parcel]) = _
    rw [handed, total_append, total_cons, total_nil, weight]
    omega

theorem Calls.move {session call cast : Nat} (calls : self.Calls session call cast)
    (found : self.threads[thread]? = some pc)
    (threads : after.threads = self.threads.set thread next)
    (other : ∀ room it inRemove, pc ≠ .send room cast it session call inRemove) :
    after.Calls session call cast := by
  obtain ⟨caller, room, it, inRemove, foundCaller⟩ := calls
  refine ⟨caller, room, it, inRemove, ?_⟩
  rw [threads, List.getElem?_set_ne, foundCaller]
  rintro rfl
  rw [found, Option.some.injEq] at foundCaller
  exact other _ _ _ foundCaller

theorem handedTo_set {casts : List (Cast Packet)} {cast : Nat} (found : casts[cast]? = some call)
    (other session : Nat) :
    handedTo (casts.set cast later) other session =
      if cast = other then later.handed.count session else handedTo casts other session := by
  simp only [handedTo, List.getElem?_set, (List.getElem?_eq_some_iff.mp found).1, if_true]
  split <;> rfl

/-- A thread moves and no session does. -/
theorem Sent.bystander (sent : self.Sent) (found : self.threads[thread]? = some pc)
    (threads : after.threads = self.threads.set thread next)
    (sessions : after.sessions = self.sessions) (grown : Extends self.casts after.casts)
    (handed : ∀ cast session, handedTo after.casts cast session = handedTo self.casts cast session)
    (calls : ∀ room cast it session call inRemove, pc = .send room cast it session call inRemove →
      ∃ sender, self.sessions[session]? = some sender ∧ sender.threads[call]? = some .returned) :
    after.Sent := by
  refine ⟨?_, fun beyond cast => (handed cast _).trans (sent.absent (sessions ▸ beyond) cast)⟩
  intro session sender foundSender
  rw [sessions] at foundSender
  refine (sent.queued foundSender).bystander grown (fun cast => handed cast session) ?_
  intro call cast callPc caller foundCall waits
  refine caller.move found threads ?_
  intro room it inRemove here
  obtain ⟨same, foundSame, returned⟩ := calls room cast it session call inRemove here
  rw [foundSender, Option.some.injEq] at foundSame
  subst foundSame
  rw [foundCall, Option.some.injEq] at returned
  exact waits (by simp [returned, SendState.pending])

structure Sound (state : Broadcasting Packet) : Prop where
  locked : state.Locked
  looped : state.Looped
  sent : state.Sent

/-- Taking or giving back a guard, or changing `_users` under one, outside of every
loop of `BroadCast`. -/
theorem Sound.update (sound : self.Sound) (found : self.threads[thread]? = some pc)
    {current : SharedRoom} (object : self.rooms[room]? = some current)
    (free : current.holder = none ∨ current.holder = some thread) (outside : pc.loop = none)
    (stays : next.loop = none)
    (elsewhere : ∀ {other}, room ≠ other → next.depth other = pc.depth other)
    (here : Guards thread room pc next current changed) :
    ((self.setRoom room changed).goto thread next).Sound where
  locked := sound.locked.update found object rfl rfl elsewhere here
  looped := by
    refine sound.looped.bystander ?_ rfl ?_
    · intro other
      rw [loops_move found rfl]
      split
      · rename_i same
        simp [stays, ← same, loops, found, outside]
      · rfl
    · intro other otherRoom cast seen otherCurrent looping otherObject
      refine ⟨otherCurrent, ?_, rfl⟩
      change (self.rooms.set room changed)[otherRoom]? = _
      rw [List.getElem?_set_ne, otherObject]
      rintro rfl
      rw [object, Option.some.injEq] at otherObject
      subst otherObject
      have holds := sound.locked.of_loops looping object
      rcases free with free | free
      · simp [free] at holds
      · rw [free, Option.some.injEq] at holds
        subst holds
        simp [loops, found, outside] at looping
  sent := by
    refine sound.sent.bystander found rfl rfl (fun _ _ found => ⟨_, found, rfl, rfl⟩)
      (fun _ _ => rfl) ?_
    rintro room cast it session call inRemove rfl
    simp [RoomPc.loop] at outside

theorem addUser_sound (sound : self.Sound)
    (found : self.threads[thread]? = some (.addUser room userId user))
    (stepped : self.advance thread (.addUser room userId user) = some after) : after.Sound := by
  simp only [advance, withRoom, Option.bind_eq_some_iff] at stepped
  obtain ⟨current, object, stepped⟩ := stepped
  split at stepped
  · contradiction
  · rename_i unheld
    cases stepped
    have free : current.holder = none := by simpa using unheld
    refine sound.update found object (.inl free) rfl rfl (fun _ => rfl) (.same ?_ ?_ rfl)
    · split <;> rfl
    · split <;> rfl

theorem removeUser_sound (sound : self.Sound)
    (found : self.threads[thread]? = some (.removeUser room userId refresh))
    (stepped : self.advance thread (.removeUser room userId refresh) = some after) :
    after.Sound := by
  simp only [advance, withRoom, Option.bind_eq_some_iff, Option.map_eq_some_iff] at stepped
  obtain ⟨current, object, changed, taken, rfl⟩ := stepped
  refine sound.update found object (writeLock_free taken).1 rfl rfl ?_ ?_
  · intro other apart
    simp [RoomPc.depth, apart]
  · exact writeLock_guards sound.locked found object taken (by simp [RoomPc.depth])

theorem erase_sound (sound : self.Sound)
    (found : self.threads[thread]? = some (.erase room userId refresh))
    (stepped : self.advance thread (.erase room userId refresh) = some after) : after.Sound := by
  simp only [advance, withRoom, Option.bind_eq_some_iff] at stepped
  obtain ⟨current, object, stepped⟩ := stepped
  split at stepped
  · contradiction
  · cases stepped
    have holds := (sound.locked.holder object found (by simp [RoomPc.depth])).1
    exact sound.update found object (.inr holds) rfl rfl (fun _ => rfl) (.same rfl rfl rfl)

theorem unlock_sound (sound : self.Sound) (found : self.threads[thread]? = some (.unlock room))
    (stepped : self.advance thread (.unlock room) = some after) : after.Sound := by
  simp only [advance, withRoom, Option.bind_eq_some_iff] at stepped
  obtain ⟨current, object, stepped⟩ := stepped
  cases stepped
  have holds := (sound.locked.holder object found (by simp [RoomPc.depth])).1
  refine sound.update found object (.inr holds) rfl rfl ?_ ?_
  · intro other apart
    simp [RoomPc.depth, apart]
  · exact writeUnlock_guards sound.locked found object (by simp [RoomPc.depth])

/-- A thread moves and touches neither a room nor a session nor a call. -/
theorem Sound.goto (sound : self.Sound) (found : self.threads[thread]? = some pc)
    (depth : ∀ room, next.depth room = pc.depth room) (loop : next.loop = pc.loop)
    (calls : ∀ room cast it session call inRemove, pc = .send room cast it session call inRemove →
      ∃ sender, self.sessions[session]? = some sender ∧ sender.threads[call]? = some .returned) :
    (self.goto thread next).Sound where
  locked := sound.locked.still found rfl rfl depth
  looped := by
    refine sound.looped.bystander ?_ rfl fun {_ _ _ _ current} _ object => ⟨current, object, rfl⟩
    intro other
    rw [loops_move found rfl]
    split
    · rename_i same
      simp [loop, ← same, loops, found]
    · rfl
  sent := sound.sent.bystander found rfl rfl (fun _ _ found => ⟨_, found, rfl, rfl⟩)
    (fun _ _ => rfl) calls

theorem refresh_sound (sound : self.Sound)
    (found : self.threads[thread]? = some (.refresh room refresh))
    (stepped : self.advance thread (.refresh room refresh) = some after) : after.Sound := by
  cases stepped
  refine sound.goto found ?_ ?_ (by simp)
  · intro other
    cases refresh <;> simp [RoomPc.depth]
  · cases refresh <;> rfl

theorem send_sound (sound : self.Sound) {cast : Nat}
    (found : self.threads[thread]? = some (.send room cast it user call inRemove))
    (stepped : self.advance thread (.send room cast it user call inRemove) = some after) :
    after.Sound := by
  simp only [advance, Option.bind_eq_some_iff] at stepped
  obtain ⟨sender, foundSender, stepped⟩ := stepped
  split at stepped
  · rename_i returned
    cases stepped
    refine sound.goto found (fun _ => rfl) rfl ?_
    rintro _ _ _ _ _ _ ⟨⟩
    exact ⟨sender, foundSender, returned⟩
  · contradiction

theorem loops_of_found {cast : Nat} (found : self.threads[thread]? = some pc)
    (looping : pc.loop = some (room, cast, seen)) :
    self.loops thread = some (room, cast, seen) := by
  simp [loops, found, looping]

theorem broadCast_sound (sound : self.Sound)
    (found : self.threads[thread]? = some (.broadCast room packet excluUser inRemove))
    (stepped : self.advance thread (.broadCast room packet excluUser inRemove) = some after) :
    after.Sound := by
  simp only [advance, withRoom, Option.bind_eq_some_iff, Option.map_eq_some_iff] at stepped
  obtain ⟨current, object, changed, taken, rfl⟩ := stepped
  obtain ⟨free, users⟩ := writeLock_free taken
  refine ⟨?_, ?_, ?_⟩
  · refine sound.locked.update found object rfl rfl ?_ ?_
    · intro other apart
      simp [RoomPc.depth, apart]
    · exact writeLock_guards sound.locked found object taken (by simp [RoomPc.depth])
  · have outside : self.loops thread = none := by simp [loops, found, RoomPc.loop]
    refine sound.looped.begin sound.locked outside object free ?_ rfl users rfl ⟨rfl, rfl, rfl, rfl⟩
    intro other
    rw [loops_move found rfl]
    rfl
  · refine sound.sent.bystander found rfl rfl (Extends.append _ _) ?_ (by simp)
    intro cast session
    change handedTo (self.casts ++ [_]) cast session = _
    simp only [handedTo]
    rcases Nat.lt_trichotomy cast self.casts.length with before | rfl | beyond
    · rw [List.getElem?_append_left before]
    · simp
    · rw [List.getElem?_eq_none (by simp; omega), List.getElem?_eq_none (by omega)]

theorem finish_sound (sound : self.Sound) {cast : Nat}
    (found : self.threads[thread]? = some (.visit room cast it inRemove))
    (object : self.rooms[room]? = some current) (foundCall : self.casts[cast]? = some call)
    (through : current.users.inOrder[it]? = none) :
    (((self.setRoom room current.writeUnlock).setCast cast { call with finished := true }).goto
      thread (if inRemove then .unlock room else .returned)).Sound := by
  refine ⟨?_, ?_, ?_⟩
  · refine sound.locked.update found object rfl rfl ?_ ?_
    · intro other apart
      cases inRemove <;> simp [RoomPc.depth, apart]
    · refine writeUnlock_guards sound.locked found object ?_
      cases inRemove <;> simp [RoomPc.depth]
  · refine sound.looped.finish sound.locked (loops_of_found found rfl) object foundCall
      through ?_ rfl rfl
    intro other
    rw [loops_move found rfl]
    cases inRemove <;> rfl
  · refine sound.sent.bystander found rfl rfl (Extends.set foundCall rfl rfl) ?_ (by simp)
    intro other session
    change handedTo (self.casts.set cast _) other session = _
    rw [handedTo_set foundCall]
    split
    · rename_i same
      simp [handedTo, ← same, foundCall]
    · rfl

theorem skip_sound (sound : self.Sound) {room cast : Nat}
    (found : self.threads[thread]? = some (.visit room cast it inRemove))
    (object : self.rooms[room]? = some current) (foundCall : self.casts[cast]? = some call)
    (visited : current.users.inOrder[it]? = some entry) (excluded : call.excluUser = some entry.2) :
    (self.goto thread (.visit room cast (it + 1) inRemove)).Sound := by
  obtain ⟨⟨_, _, sameObject, foundSame, _, _, users, handed⟩, _⟩ :=
    sound.looped.progress (loops_of_found found rfl)
  rw [object, Option.some.injEq] at sameObject
  subst sameObject
  rw [foundCall, Option.some.injEq] at foundSame
  subst foundSame
  refine ⟨?_, ?_, ?_⟩
  · exact sound.locked.still found rfl rfl fun _ => rfl
  · refine sound.looped.turn sound.locked (loops_of_found found rfl) foundCall ?_ rfl
      (set_same foundCall).symm ⟨rfl, rfl, rfl, rfl⟩ ?_
    · intro other
      rw [loops_move found rfl]
      rfl
    · rw [recipients_concat call.excluUser (users ▸ visited), if_pos excluded,
        List.append_nil, handed]
  · exact sound.sent.bystander found rfl rfl (fun _ _ found => ⟨_, found, rfl, rfl⟩)
      (fun _ _ => rfl) (by simp)

theorem hand_sound (sound : self.Sound) {room cast : Nat}
    (found : self.threads[thread]? = some (.visit room cast it inRemove))
    (object : self.rooms[room]? = some current) (foundCall : self.casts[cast]? = some call)
    (visited : current.users.inOrder[it]? = some entry) (included : call.excluUser ≠ some entry.2)
    (foundSender : self.sessions[entry.2]? = some sender)
    (threads : after.threads = self.threads.set thread
      (.send room cast it entry.2 sender.threads.length inRemove))
    (rooms : after.rooms = self.rooms)
    (casts : after.casts = self.casts.set cast { call with handed := call.handed ++ [entry.2] })
    (sessions : after.sessions = self.sessions.set entry.2
      { sender with threads := sender.threads ++ [.send ⟨some cast, call.packet⟩] }) :
    after.Sound := by
  obtain ⟨⟨_, _, sameObject, foundSame, _, _, users, handed⟩, _⟩ :=
    sound.looped.progress (loops_of_found found rfl)
  rw [object, Option.some.injEq] at sameObject
  subst sameObject
  rw [foundCall, Option.some.injEq] at foundSame
  subst foundSame
  have within : thread < self.threads.length := (List.getElem?_eq_some_iff.mp found).1
  have grown : Extends self.casts after.casts := casts ▸ Extends.set foundCall rfl rfl
  have kept : ∀ {session other otherCast : Nat}, self.Calls session other otherCast →
      after.Calls session other otherCast := fun calls => calls.move found threads (by simp)
  have counts : ∀ other session, handedTo after.casts other session =
      handedTo self.casts other session + if cast = other ∧ entry.2 = session then 1 else 0 := by
    intro other session
    rw [casts, handedTo_set foundCall]
    by_cases same : cast = other
    · subst same
      simp [handedTo, foundCall, List.count_singleton]
    · simp [same]
  refine ⟨?_, ?_, ?_, ?_⟩
  · exact sound.locked.still found threads rooms fun _ => rfl
  · refine sound.looped.turn sound.locked (loops_of_found found rfl) foundCall
      (loops_move found threads) rooms casts ⟨rfl, rfl, rfl, rfl⟩ ?_
    rw [recipients_concat call.excluUser (users ▸ visited), if_neg included, handed]
  · intro session other foundOther
    rw [sessions] at foundOther
    rcases getElem?_set_cases foundOther with ⟨rfl, rfl⟩ | ⟨apart, still⟩
    · refine (sound.sent.queued foundSender).call grown kept ?_ ?_ ?_
      · rintro _ ⟨⟩
        refine ⟨thread, room, it, inRemove, ?_⟩
        rw [threads, List.getElem?_set_self within]
      · rintro _ ⟨⟩
        refine ⟨{ call with handed := call.handed ++ [entry.2] }, ?_, rfl⟩
        rw [casts, List.getElem?_set_self (List.getElem?_eq_some_iff.mp foundCall).1]
      · intro otherCast
        simp [counts]
    · refine (sound.sent.queued still).bystander grown ?_ fun calls _ _ => kept calls
      intro otherCast
      simp [counts, apart]
  · intro session beyond otherCast
    rw [sessions, List.length_set] at beyond
    have present := (List.getElem?_eq_some_iff.mp foundSender).1
    rw [counts, sound.sent.absent beyond, if_neg (by omega)]

theorem visit_sound (sound : self.Sound) {cast : Nat}
    (found : self.threads[thread]? = some (.visit room cast it inRemove))
    (stepped : self.advance thread (.visit room cast it inRemove) = some after) : after.Sound := by
  simp only [advance, withRoom, Option.bind_eq_some_iff] at stepped
  obtain ⟨current, object, call, foundCall, stepped⟩ := stepped
  split at stepped
  · rename_i through
    cases stepped
    exact finish_sound sound found object foundCall through
  · rename_i entry visited
    split at stepped
    · rename_i excluded
      cases stepped
      exact skip_sound sound found object foundCall visited excluded
    · rename_i included
      simp only [Option.bind_eq_some_iff, Option.map_eq_some_iff, pump] at stepped
      obtain ⟨sender, foundSender, sent, ⟨same, foundSame, next, called, rfl⟩, rfl⟩ := stepped
      rw [foundSender, Option.some.injEq] at foundSame
      subst foundSame
      cases called
      exact hand_sound sound found object foundCall visited included foundSender rfl rfl rfl rfl

theorem advance_sound (sound : self.Sound) (found : self.threads[thread]? = some pc)
    (stepped : self.advance thread pc = some after) : after.Sound := by
  cases pc with
  | returned => cases stepped
  | addUser room userId user => exact addUser_sound sound found stepped
  | removeUser room userId refresh => exact removeUser_sound sound found stepped
  | erase room userId refresh => exact erase_sound sound found stepped
  | refresh room refresh => exact refresh_sound sound found stepped
  | unlock room => exact unlock_sound sound found stepped
  | broadCast room packet excluUser inRemove => exact broadCast_sound sound found stepped
  | visit room cast it inRemove => exact visit_sound sound found stepped
  | send room cast it user call inRemove => exact send_sound sound found stepped

theorem makeRoom_sound (sound : self.Sound) (users : Users) :
    Sound { self with rooms := self.rooms ++ [⟨users, none, 0⟩] } where
  locked := by
    refine ⟨?_, ?_, ?_⟩
    · intro room thread current pc object found
      rcases getElem?_concat_cases object with object | ⟨rfl, rfl⟩
      · exact sound.locked.guards object found
      · simp only [reduceCtorEq, if_false]
        by_contra inner
        exact absurd (sound.locked.inside found (Nat.pos_of_ne_zero inner)) (Nat.lt_irrefl _)
    · intro room holder current object holds
      rcases getElem?_concat_cases object with object | ⟨rfl, rfl⟩
      · exact sound.locked.present object holds
      · contradiction
    · intro room thread pc found inner
      have bound := sound.locked.inside found inner
      simp only [List.length_append, List.length_singleton]
      omega
  looped := by
    refine sound.looped.bystander (fun _ => rfl) rfl ?_
    intro other room cast seen current _ object
    exact ⟨current, by rw [List.getElem?_append_left (List.getElem?_eq_some_iff.mp object).1,
      object], rfl⟩
  sent := by
    refine ⟨?_, sound.sent.absent⟩
    intro session sender found
    exact (sound.sent.queued found).bystander (fun _ _ found => ⟨_, found, rfl, rfl⟩) (fun _ => rfl)
      fun calls _ _ => calls

theorem call_sound (sound : self.Sound) (call : RoomCall Packet) :
    Sound { self with threads := self.threads ++ [call.start] } := by
  have depth : ∀ room, call.start.depth room = 0 := by
    intro room
    cases call <;> simp [RoomCall.start, RoomPc.depth]
  have outside : call.start.loop = none := by cases call <;> rfl
  refine ⟨⟨?_, ?_, ?_⟩, ?_, ?_, sound.sent.absent⟩
  · intro room thread current pc object found
    rcases getElem?_concat_cases found with found | ⟨rfl, rfl⟩
    · exact sound.locked.guards object found
    · rw [depth, if_neg]
      intro holds
      exact absurd (sound.locked.present object holds) (Nat.lt_irrefl _)
  · intro room holder current object holds
    have bound := sound.locked.present object holds
    simp only [List.length_append, List.length_singleton]
    omega
  · intro room thread pc found inner
    rcases getElem?_concat_cases found with found | ⟨rfl, rfl⟩
    · exact sound.locked.inside found inner
    · simp [depth] at inner
  · refine sound.looped.bystander ?_ rfl fun {_ _ _ _ current} _ object => ⟨current, object, rfl⟩
    intro other
    simp only [loops]
    rcases Nat.lt_trichotomy other self.threads.length with before | rfl | beyond
    · rw [List.getElem?_append_left before]
    · simp [outside]
    · rw [List.getElem?_eq_none (by simp; omega), List.getElem?_eq_none (by omega)]
  · intro session sender found
    refine (sound.sent.queued found).bystander (fun _ _ found => ⟨_, found, rfl, rfl⟩)
      (fun _ => rfl) ?_
    rintro other cast pc ⟨thread, room, it, inRemove, foundThread⟩ _ _
    refine ⟨thread, room, it, inRemove, ?_⟩
    rw [List.getElem?_append_left (List.getElem?_eq_some_iff.mp foundThread).1, foundThread]

/-- Steps of the sessions alone. -/
theorem Sound.sessions (sound : self.Sound) {sessions : List (SendState (Parcel Packet))}
    (longer : self.sessions.length ≤ sessions.length)
    (queued : ∀ {session sender}, sessions[session]? = some sender → self.Queued session sender) :
    Sound { self with sessions } where
  locked := ⟨sound.locked.guards, sound.locked.present, sound.locked.inside⟩
  looped := sound.looped.bystander (fun _ => rfl) rfl fun {_ _ _ _ current} _ object =>
    ⟨current, object, rfl⟩
  sent := by
    refine ⟨?_, fun beyond => sound.sent.absent (longer.trans beyond)⟩
    intro session sender found
    exact (queued found).bystander (fun _ _ found => ⟨_, found, rfl, rfl⟩) (fun _ => rfl)
      fun calls _ _ => calls

theorem fresh_queued (unhanded : ∀ cast, handedTo self.casts cast session = 0) :
    self.Queued session SendState.fresh where
  pipeline := SendState.fresh_pipeline
  caller := by simp [SendState.fresh]
  fresh := by simp [SendState.fresh]
  known := by simp [SendState.fresh]
  ordered := .nil
  counted := by
    intro _ cast
    simp [unhanded, SendState.fresh, copies]

theorem connect_sound (sound : self.Sound) :
    Sound { self with sessions := self.sessions ++ [.fresh] } := by
  refine sound.sessions (by simp) ?_
  intro session sender found
  rcases getElem?_concat_cases found with found | ⟨rfl, rfl⟩
  · exact sound.sent.queued found
  · exact fresh_queued (sound.sent.absent (Nat.le_refl _))

theorem pump_sound (sound : self.Sound)
    (queued : ∀ {sender next}, self.Queued session sender →
      SendState.step event sender = some next →
      self.Queued session next) (stepped : self.pump session event = some after) : after.Sound := by
  simp only [pump, Option.bind_eq_some_iff, Option.map_eq_some_iff] at stepped
  obtain ⟨sender, found, next, moved, rfl⟩ := stepped
  refine sound.sessions (by simp) ?_
  intro other otherSender foundOther
  rcases getElem?_set_cases foundOther with ⟨rfl, rfl⟩ | ⟨_, still⟩
  · exact queued (sound.sent.queued found) moved
  · exact sound.sent.queued still

/-- Every event but a failing `WSASend`. -/
def Succeeds : RoomEvent Packet → Prop
  | .pipeline _ event => SendState.Succeeds event
  | _ => True

theorem step_sound (succeeds : Succeeds event) (stepped : step event self = some after)
    (sound : self.Sound) : after.Sound := by
  cases event with
  | connect =>
      cases stepped
      exact connect_sound sound
  | makeRoom userId user =>
      cases stepped
      exact makeRoom_sound sound _
  | call call =>
      cases stepped
      exact call_sound sound call
  | run thread =>
      obtain ⟨pc, found, moved⟩ := Option.bind_eq_some_iff.mp stepped
      exact advance_sound sound found moved
  | send session packet =>
      refine pump_sound sound ?_ stepped
      intro sender next queued called
      cases called
      refine queued.call (fun _ _ found => ⟨_, found, rfl, rfl⟩) id ?_ ?_ ?_ <;> simp [Known]
  | pipeline session event =>
      have internal : ∀ parcel, event ≠ .call parcel := by
        rintro parcel rfl
        cases stepped
      have pumped : self.pump session event = some after := by
        cases event with
        | call parcel => exact absurd rfl (internal parcel)
        | _ => exact stepped
      refine pump_sound sound ?_ pumped
      intro sender next queued moved
      exact queued.pushes sound.looped (SendState.step_pipeline succeeds moved queued.pipeline)
        (SendState.step_pushes internal moved)

theorem fresh_sound : (fresh : Broadcasting Packet).Sound where
  locked := by constructor <;> simp [fresh]
  looped := by constructor <;> simp [fresh, loops]
  sent := by constructor <;> simp [fresh, handedTo]

theorem run_sound (succeed : ∀ event ∈ events, Succeeds event)
    (ran : system.run events fresh = some after) : after.Sound :=
  System.run_preserves_guarded step_sound (System.guarded_of_forall succeed) ran fresh_sound

/-! ## What the members see -/

/-- The packet was passed once to every session of `_users` but the excluded one, and
to no other. -/
def ExactlyOnce (call : Cast Packet) : Prop :=
  ∀ session, call.handed.count session =
    if call.excluUser ≠ some session ∧ ∃ entry ∈ call.users.entries, entry.2 = session then 1 else 0

theorem mem_recipients :
    session ∈ recipients entries excluUser ↔ excluUser ≠ some session ∧
      ∃ entry ∈ entries, entry.2 = session := by
  simp only [recipients, List.mem_map, List.mem_filter, decide_eq_true_eq]
  constructor
  · rintro ⟨entry, ⟨member, included⟩, rfl⟩
    exact ⟨included, entry, member, rfl⟩
  · rintro ⟨included, entry, member, rfl⟩
    exact ⟨entry, ⟨member, included⟩, rfl⟩

theorem exactlyOnce_iff {call : Cast Packet}
    (handed : call.handed = recipients call.users.inOrder call.excluUser) :
    ExactlyOnce call ↔ (recipients call.users.inOrder call.excluUser).Nodup := by
  simp only [ExactlyOnce, handed, ← Users.mem_inOrder, ← mem_recipients]
  constructor
  · intro once
    refine List.nodup_iff_count_le_one.mpr fun session => ?_
    rw [once session]
    split <;> omega
  · intro distinct session
    by_cases member : session ∈ recipients call.users.inOrder call.excluUser
    · rw [if_pos member, List.count_eq_one_of_mem distinct member]
    · rw [if_neg member, List.count_eq_zero_of_not_mem member]

/-- The parcels that a session has handed to `WSASend`, in this order. -/
def transmitted (sender : SendState (Parcel Packet)) : List (Parcel Packet) := sender.handed.flatten

/-- A packet of the broadcast is in this place. -/
def At (parcels : List (Parcel Packet)) (place cast : Nat) : Prop :=
  (parcels[place]?).bind Parcel.cast = some cast

theorem Queued.transmitted_ordered (queued : self.Queued session sender) :
    (transmitted sender).Pairwise (InOrder self.casts) := by
  have ordered := queued.ordered
  rw [← queued.pipeline.ledger, List.append_assoc, List.pairwise_append] at ordered
  exact ordered.1

/-- Where the packets of two broadcasts of a room stand is decided by which was first. -/
theorem At.lt_iff {parcels : List (Parcel Packet)} {casts : List (Cast Packet)}
    (ordered : parcels.Pairwise (InOrder casts)) (atFirst : At parcels first earlier)
    (atSecond : At parcels second later) (different : earlier ≠ later)
    (sameRoom : roomOf casts earlier = roomOf casts later) : first < second ↔ earlier < later := by
  obtain ⟨firstParcel, foundFirst, taggedFirst⟩ := Option.bind_eq_some_iff.mp atFirst
  obtain ⟨secondParcel, foundSecond, taggedSecond⟩ := Option.bind_eq_some_iff.mp atSecond
  obtain ⟨firstBound, rfl⟩ := List.getElem?_eq_some_iff.mp foundFirst
  obtain ⟨secondBound, rfl⟩ := List.getElem?_eq_some_iff.mp foundSecond
  have places := List.pairwise_iff_getElem.mp ordered
  constructor
  · intro before
    have order := places first second firstBound secondBound before taggedFirst
      taggedSecond sameRoom
    omega
  · intro before
    by_contra behind
    rcases Nat.lt_or_eq_of_le (Nat.le_of_not_lt behind) with after | rfl
    · have order := places second first secondBound firstBound after taggedSecond
        taggedFirst sameRoom.symm
      omega
    · rw [taggedFirst, Option.some.injEq] at taggedSecond
      exact different taggedSecond

/-- In every run in which no `WSASend` fails at once:

* while a broadcast is in progress its thread has the lock, `_users` is what it was,
  and the first users have been served; a finished one has passed the packet on once
  for every entry of `_users` but those of the excluded session, and this is once to
  every such session exactly when none has two ids;
* as long as a session is connected every packet passed to it is transmitted, drained,
  queued or about to be queued, and what it transmits are the packets of the
  broadcasts;
* two broadcasts of one room stand in the same order wherever both are transmitted. -/
theorem members_see_one_order {events : List (RoomEvent Packet)} {state : Broadcasting Packet}
    (succeed : ∀ event ∈ events, Succeeds event) (ran : system.run events fresh = some state) :
    (∀ (cast : Nat) (call : Cast Packet), state.casts[cast]? = some call →
      (call.finished = false → ∃ current seen, state.rooms[call.room]? = some current ∧
        current.holder.isSome ∧
        current.users = call.users ∧ call.handed =
          recipients (call.users.inOrder.take seen) call.excluUser) ∧
      (call.finished = true → call.handed = recipients call.users.inOrder call.excluUser ∧
        (ExactlyOnce call ↔ (recipients call.users.inOrder call.excluUser).Nodup))) ∧
    (∀ (session : Nat) (sender : SendState (Parcel Packet)), state.sessions[session]? =
      some sender →
      (∀ parcel ∈ transmitted sender, Known state.casts parcel) ∧
      (sender.connected = true → ∀ (cast : Nat) (call : Cast Packet), state.casts[cast]? =
        some call →
        copies cast (transmitted sender) + copies cast sender.inTransit +
          copies cast sender.sendQueue + total (waiting cast) sender.threads =
          call.handed.count session)) ∧
    (∀ one other : SendState (Parcel Packet), one ∈ state.sessions → other ∈ state.sessions →
      ∀ (first second : Nat) (firstCall secondCall : Cast Packet), state.casts[first]? =
        some firstCall →
        state.casts[second]? = some secondCall → firstCall.room = secondCall.room → first ≠ second →
        ∀ i j k l : Nat, At (transmitted one) i first → At (transmitted one) j second →
          At (transmitted other) k first → At (transmitted other) l second → (i < j ↔ k < l)) := by
  have sound := run_sound succeed ran
  refine ⟨?_, ?_, ?_⟩
  · intro cast call foundCall
    refine ⟨?_, ?_⟩
    · intro unfinished
      obtain ⟨thread, seen, looping⟩ := sound.looped.running foundCall unfinished
      obtain ⟨⟨current, same, object, foundSame, _, _, users, handed⟩, _⟩ :=
        sound.looped.progress looping
      rw [foundCall, Option.some.injEq] at foundSame
      subst foundSame
      refine ⟨current, seen, object, ?_, users.symm, handed⟩
      rw [sound.locked.of_loops looping object]
      rfl
    · intro finished
      have handed := sound.looped.complete foundCall finished
      exact ⟨handed, exactlyOnce_iff handed⟩
  · intro session sender found
    have queued := sound.sent.queued found
    have ledger := queued.pipeline.ledger
    refine ⟨?_, ?_⟩
    · intro parcel member
      refine queued.known parcel ?_
      rw [← ledger, List.append_assoc]
      exact List.mem_append_left _ member
    · intro connected cast call foundCall
      have counted := queued.counted connected cast
      rw [← ledger] at counted
      simp only [handedTo, foundCall, Option.map_some, Option.getD_some] at counted
      simpa only [copies, transmitted, List.countP_append] using counted
  · intro one other memberOne memberOther first second firstCall secondCall foundFirst
      foundSecond sameRoom different i j k l oneFirst oneSecond otherFirst otherSecond
    obtain ⟨oneSession, foundOne⟩ := List.mem_iff_getElem?.mp memberOne
    obtain ⟨otherSession, foundOther⟩ := List.mem_iff_getElem?.mp memberOther
    have rooms : roomOf state.casts first = roomOf state.casts second := by
      simp only [roomOf, foundFirst, foundSecond, Option.map_some, sameRoom]
    rw [At.lt_iff (sound.sent.queued foundOne).transmitted_ordered oneFirst oneSecond
      different rooms, At.lt_iff (sound.sent.queued foundOther).transmitted_ordered otherFirst
      otherSecond
        different rooms]

/-- Two users, two broadcasts: the second waits for the lock, and its packet is
queued behind the first's. -/
theorem members_see_one_order_two_chats :
    let sends (session thread : Nat) : List (RoomEvent Nat) :=
      List.replicate 6 (.pipeline session (.run thread))
    let broadcast : List (RoomEvent Nat) :=
      [.run 1, .run 1] ++ sends 0 0 ++ [.run 1, .run 1] ++ sends 1 0 ++
      [.run 1, .run 1]
    let again : List (RoomEvent Nat) := [.run 2, .run 2, .pipeline 0 (.run 1),
      .pipeline 0 (.run 1), .run 2, .run 2, .pipeline 1 (.run 1), .pipeline 1 (.run 1), .run 2,
      .run 2]
    let completed (session : Nat) : List (RoomEvent Nat) :=
      .pipeline session (.complete 0 5) :: List.replicate 9 (.pipeline session (.run 2))
    let events : List (RoomEvent Nat) :=
      [RoomEvent.connect, .connect, .makeRoom "a" 0, .call (.addUser 0 "b" 1), .run 0,
      .call (.broadCast 0 7 none), .call (.broadCast 0 8 none)] ++ broadcast ++ again ++
        completed 0 ++ completed 1
    ∃ state one other, system.run events fresh = some state ∧ state.sessions = [one, other] ∧
      transmitted one = [⟨some 0, 7⟩, ⟨some 1, 8⟩] ∧
      transmitted other = [⟨some 0, 7⟩, ⟨some 1, 8⟩] ∧
      (∀ call ∈ state.casts, ExactlyOnce call) ∧
      ∀ i j k l, At (transmitted one) i 0 → At (transmitted one) j 1 → At (transmitted other) k 0 →
        At (transmitted other) l 1 → (i < j ↔ k < l) := by
  intro sends broadcast again completed events
  have succeed : ∀ event ∈ events, Succeeds event := by
    simp [events, broadcast, again, completed, sends, Succeeds, SendState.Succeeds]
  obtain ⟨state, one, other, first, second, ran, sessions, transmittedOne, transmittedOther, casts,
      firstDone, secondDone, firstUsers, secondUsers, sameRoom⟩ : ∃ state one other first second,
      system.run events fresh = some state ∧
      state.sessions = [one, other] ∧ transmitted one = [⟨some 0, 7⟩, ⟨some 1, 8⟩] ∧
      transmitted other = [⟨some 0, 7⟩, ⟨some 1, 8⟩] ∧ state.casts = [first, second] ∧
      first.finished = true ∧
      second.finished = true ∧ (recipients first.users.inOrder first.excluUser).Nodup ∧
      (recipients second.users.inOrder second.excluUser).Nodup ∧ first.room = second.room :=
    ⟨_, _, _, _, _, rfl, rfl, rfl, rfl, rfl, rfl, rfl, by decide, by decide, rfl⟩
  obtain ⟨handed, _, ordered⟩ := members_see_one_order succeed ran
  refine ⟨state, one, other, ran, sessions, transmittedOne, transmittedOther, ?_, ?_⟩
  · intro call member
    rw [casts, List.mem_cons, List.mem_singleton] at member
    rcases member with rfl | rfl
    · exact ((handed 0 call (by rw [casts]; rfl)).2 firstDone).2.mpr firstUsers
    · exact ((handed 1 call (by rw [casts]; rfl)).2 secondDone).2.mpr secondUsers
  · exact ordered one other (by simp [sessions]) (by simp [sessions]) 0 1 first second
      (by rw [casts]; rfl) (by rw [casts]; rfl) sameRoom (by decide)

/-- The creator of a room joins it under a second id: the session stands in `_users`
twice, and every chat line is passed to it twice. -/
theorem chat_handed_twice :
    (∃ (before after : ServerState) (current : Room),
      (ServerState.system id).run (.connect :: handled 0 (.cRegister "a" "p") 0 2 ++
        handled 0 (.cCreateRoom "a" "r") 1 9 ++ handled 0 (.cJoinRoom "b" "r") 2 10 ++
        handled 0 (.cChatLog "a" "r" "hi") 3 3) .fresh = some before ∧
      before.rooms[0]? = some current ∧ current.users.inOrder = [⟨"a", 0⟩, ⟨"b", 0⟩] ∧
      ServerState.step id (.run 3) before = some after ∧
      after.outbox 0 = before.outbox 0 ++ [.sChatLog "a" "hi", .sChatLog "a" "hi"]) ∧
    ∃ (state : Broadcasting Nat) (call : Cast Nat),
      system.run ([RoomEvent.connect, .makeRoom "a" 0, .call (.addUser 0 "b" 0), .run 0,
        .call (.broadCast 0 7 none), .run 1, .run 1] ++ List.replicate 6
        (RoomEvent.pipeline 0 (.run 0)) ++
        [RoomEvent.run 1, .run 1, .pipeline 0 (.run 1), .pipeline 0 (.run 1), .run 1, .run 1])
        fresh = some state ∧
      state.casts = [call] ∧ call.finished = true ∧ call.handed = [0, 0] ∧ ¬ ExactlyOnce call := by
  refine ⟨⟨_, _, _, rfl, rfl, rfl, rfl, rfl⟩, _, _, rfl, rfl, rfl, rfl, ?_⟩
  intro once
  have twice : 2 = if _ then 1 else 0 := once 0
  split at twice <;> contradiction

end Broadcasting

end ChattingProgram.Server
