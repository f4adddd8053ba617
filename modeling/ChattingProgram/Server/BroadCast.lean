import ChattingProgram.Core.SendQueue
import ChattingProgram.Server.State

namespace ChattingProgram.Server

open ChattingProgram.Core ChattingProgram.Machine

/-! # `BroadCast` user by user

`Room::AddUser`, `RemoveUser` and `BroadCast` run on any number of threads, which
may call them and `Session::Send` at any time.  Each session has its whole send
pipeline, and the loop of `BroadCast` waits for every `Send` to return.  A section
under `_lock` that sends nothing is one step.
-/

/-- A send buffer.  `MakeSendBuffer` makes one for every `Send`; `cast` is the call
of `BroadCast` it was made in. -/
structure Parcel (Packet : Type) where
  cast : Option Nat
  packet : Packet
deriving Repr, DecidableEq

structure SharedRoom where
  users : Users
  -- the thread that has _lock, and how many guards of it are on its stack
  holder : Option Nat
  depth : Nat

/-- A call of `BroadCast`: its arguments, and the history of its loop. -/
structure Cast (Packet : Type) where
  room : Nat
  packet : Packet
  excluUser : Option Nat
  /-- `_users` when the lock was taken. -/
  users : Users
  /-- The sessions whose `Send` was called. -/
  handed : List Nat
  finished : Bool

/-- Where a thread stands.  `inRemove` tells that `RemoveUser` called `BroadCast`. -/
inductive RoomPc (Packet : Type) where
  | returned
  | addUser (room : Nat) (userId : String) (user : Nat)
  -- RemoveUser; refresh is the S_REFRESH_ROOM that the database gives it to send
  | removeUser (room : Nat) (userId : String) (refresh : Option Packet)
  | erase (room : Nat) (userId : String) (refresh : Option Packet)
  | refresh (room : Nat) (refresh : Option Packet)
  | unlock (room : Nat)
  -- BroadCast
  | broadCast (room : Nat) (packet : Packet) (excluUser : Option Nat) (inRemove : Bool)
  | visit (room cast it : Nat) (inRemove : Bool)
  | send (room cast it user thread : Nat) (inRemove : Bool)
deriving Repr, DecidableEq

inductive RoomCall (Packet : Type) where
  | addUser (room : Nat) (userId : String) (user : Nat)
  | removeUser (room : Nat) (userId : String) (refresh : Option Packet)
  | broadCast (room : Nat) (packet : Packet) (excluUser : Option Nat)
deriving Repr, DecidableEq

def RoomCall.start {Packet : Type} : RoomCall Packet → RoomPc Packet
  | .addUser room userId user => .addUser room userId user
  | .removeUser room userId refresh => .removeUser room userId refresh
  | .broadCast room packet excluUser => .broadCast room packet excluUser false

structure Broadcasting (Packet : Type) where
  rooms : List SharedRoom
  sessions : List (SendState (Parcel Packet))
  threads : List (RoomPc Packet)
  casts : List (Cast Packet)

inductive RoomEvent (Packet : Type) where
  | connect
  /-- The constructor of `Room`. -/
  | makeRoom (userId : String) (user : Nat)
  | call (call : RoomCall Packet)
  | run (thread : Nat)
  /-- Some handler calls `Send` by itself. -/
  | send (session : Nat) (packet : Packet)
  /-- A step of the send pipeline of a session. -/
  | pipeline (session : Nat) (event : SendEvent (Parcel Packet))
deriving Repr, DecidableEq

namespace SharedRoom

/-- `WriteLock`, which the holder may take again. -/
def writeLock (self : SharedRoom) (thread : Nat) : Option SharedRoom :=
  match self.holder with
  | none => some { self with holder := some thread, depth := 1 }
  | some holder => if holder = thread then some { self with depth := self.depth + 1 } else none

def writeUnlock (self : SharedRoom) : SharedRoom :=
  if self.depth = 1 then { self with holder := none, depth := 0 } else { self with
    depth := self.depth - 1 }

end SharedRoom

namespace Broadcasting

variable {Packet : Type}

def fresh : Broadcasting Packet := ⟨[], [], [], []⟩

variable (self : Broadcasting Packet)

def goto (thread : Nat) (pc : RoomPc Packet) : Broadcasting Packet :=
  { self with threads := self.threads.set thread pc }

def setRoom (room : Nat) (next : SharedRoom) : Broadcasting Packet :=
  { self with rooms := self.rooms.set room next }

def setCast (cast : Nat) (next : Cast Packet) : Broadcasting Packet :=
  { self with casts := self.casts.set cast next }

def withRoom (room : Nat) (use : SharedRoom → Option (Broadcasting Packet)) :
    Option (Broadcasting Packet) :=
  (self.rooms[room]?).bind use

/-- A step of the send pipeline of one session. -/
def pump (session : Nat) (event : SendEvent (Parcel Packet)) : Option (Broadcasting Packet) :=
  (self.sessions[session]?).bind fun sender =>
    (SendState.step event sender).map fun next =>
      { self with sessions := self.sessions.set session next }

/-- One step of a thread; `none` while it waits for `_lock` or for `Send`. -/
def advance (thread : Nat) : RoomPc Packet → Option (Broadcasting Packet)
  | .returned => none
  | .addUser room userId user => self.withRoom room fun current =>
      if current.holder.isSome then none
      else
        let next :=
          if current.users.entries.isEmpty then current
          else { current with users := current.users.insert userId user }
        some ((self.setRoom room next).goto thread .returned)
  | .removeUser room userId refresh => self.withRoom room fun current =>
      (current.writeLock thread).map fun next =>
        (self.setRoom room next).goto thread (.erase room userId refresh)
  | .erase room userId refresh => self.withRoom room fun current =>
      -- the assertion
      if (current.users.lookup userId).isNone then none
      else
        some ((self.setRoom room { current with users := current.users.erase userId }).goto thread
          (.refresh room refresh))
  | .refresh room refresh =>
      some (self.goto thread
        (match refresh with
        | none => .unlock room
        | some packet => .broadCast room packet none true))
  | .unlock room => self.withRoom room fun current =>
      some ((self.setRoom room current.writeUnlock).goto thread .returned)
  | .broadCast room packet excluUser inRemove => self.withRoom room fun current =>
      (current.writeLock thread).map fun next =>
        let cast : Cast Packet := ⟨room, packet, excluUser, current.users, [], false⟩
        { self.setRoom room next with casts := self.casts ++ [cast] }.goto thread
          (.visit room self.casts.length 0 inRemove)
  | .visit room cast it inRemove => self.withRoom room fun current =>
      (self.casts[cast]?).bind fun call =>
        match current.users.inOrder[it]? with
        | none =>
            some (((self.setRoom room current.writeUnlock).setCast cast { call with
              finished := true }).goto thread (if inRemove then .unlock room else .returned))
        | some entry =>
            if call.excluUser = some entry.2 then some
              (self.goto thread (.visit room cast (it + 1) inRemove))
            else
              (self.sessions[entry.2]?).bind fun sender =>
                (self.pump entry.2 (.call ⟨some cast, call.packet⟩)).map fun sent =>
                  (sent.setCast cast { call with handed := call.handed ++ [entry.2] }).goto thread
                    (.send room cast it entry.2 sender.threads.length inRemove)
  | .send room cast it user call inRemove =>
      (self.sessions[user]?).bind fun sender =>
        match sender.threads[call]? with
        | some .returned => some (self.goto thread (.visit room cast (it + 1) inRemove))
        | _ => none

def step : RoomEvent Packet → Broadcasting Packet → Option (Broadcasting Packet)
  | .connect, self => some { self with sessions := self.sessions ++ [.fresh] }
  | .makeRoom userId user, self =>
      some { self with rooms := self.rooms ++ [⟨AList.insert userId user ∅, none, 0⟩] }
  | .call call, self => some { self with threads := self.threads ++ [call.start] }
  | .run thread, self => (self.threads[thread]?).bind (self.advance thread)
  | .send session packet, self => self.pump session (.call ⟨none, packet⟩)
  | .pipeline session event, self =>
      match event with
      | .call _ => none
      | _ => self.pump session event

def system : System (Broadcasting Packet) (RoomEvent Packet) := ⟨step⟩

end Broadcasting

end ChattingProgram.Server
