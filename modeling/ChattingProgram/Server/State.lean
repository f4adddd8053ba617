import Mathlib.Data.List.AList
import Mathlib.Data.List.Sort
import ChattingProgram.Machine.Run
import ChattingProgram.Machine.Pool
import ChattingProgram.Protocol.Message
import ChattingProgram.Server.Database

namespace ChattingProgram.Server

open ChattingProgram.Protocol

/-! # The state of the server

Sessions and `Room` objects are the ones ever made, addressed by their position.
A handler is a process: the steps it still has to take, with its local
variables.  A step is one SQL statement, one atomic operation, one access to a
session or to `_rooms`, or one section under a lock; a lock that is held over
several steps is a flag.  A statement that fails never returns from
`HandleError`: its handler has no step, and stays.
-/

/-- `std::map<const string, shared_ptr<PacketSession>>` -/
abbrev Users := AList fun _ : String => Nat

/-- The entries by ascending key, as an iterator of the map visits them. -/
def Users.inOrder (self : Users) : List (Sigma fun _ : String => Nat) :=
  self.entries.insertionSort fun first second => first.1 ≤ second.1

theorem Users.perm_inOrder (self : Users) : self.inOrder.Perm self.entries :=
  List.perm_insertionSort _ self.entries

theorem Users.mem_inOrder {self : Users} : entry ∈ self.inOrder ↔ entry ∈ self.entries :=
  self.perm_inOrder.mem_iff

structure Room where
  roomId : Nat
  users : Users
  /-- An `atomic<int>`; `Destruction` is -1, `Empty` is 0. -/
  roomState : Int
  locked : Bool

def destruction : Int := -1

structure ClientSession where
  /-- The weak pointer `_room`. -/
  room : Option Nat
  id : String
  connected : Bool
  /-- `OnDisconnected` has returned. -/
  disconnected : Bool
  /-- The packets that `Send` has queued. -/
  outbox : List Message
deriving Repr, DecidableEq

/-- The rest of `Room::RemoveUser`. -/
inductive RemovePc where
  | updateAccount
  | updateRoom
  | erase
  | fetchSub
  | cas
  | delete
  | removeRoom
  | select
  | broadcast (userIds : List String)
deriving Repr, DecidableEq

inductive CreatePc where
  | select
  | insert
  | selectId
  | updateAccount (roomId : Nat)
  | makeRoom (roomId : Nat)
  | fetchAdd (room : Nat)
  | setRoom (room : Nat)
  | addRoom (room : Nat)
  | reply (canCreate : Bool)
deriving Repr, DecidableEq

inductive JoinPc where
  | select
  | getRoom (roomId : Nat)
  | load (roomId room : Nat)
  | cas (roomId room : Nat) (state : Int)
  | updateAccount (roomId room : Nat)
  | updateRoom (roomId room : Nat)
  | selectMembers (roomId room : Nat)
  | addUser (room : Nat) (userIds : List String)
  | broadcast (room : Nat) (userIds : List String)
  | reply (room : Option Nat) (canJoin : Bool) (userIds : List String)
deriving Repr, DecidableEq

inductive OutPc where
  | select
  | getRoom (roomId : Nat)
  | remove (room : Nat) (pc : RemovePc)
  | reply (room : Nat)
deriving Repr, DecidableEq

inductive ChatPc where
  | select
  | insert (roomId : Nat)
  | getRoom (roomId : Nat)
  | broadcast (room : Nat)
deriving Repr, DecidableEq

inductive LoginPc where
  | select
  | update
  | setId
  | reply (canLogin : Bool)
deriving Repr, DecidableEq

inductive RegisterPc where
  | insert
  | reply (isSuccess : Bool)
deriving Repr, DecidableEq

inductive RefreshPc where
  | select
  | reply (rooms : List (String × Int))
deriving Repr, DecidableEq

inductive DisconnectPc where
  | expired
  | lock
  | remove (room : Nat) (pc : RemovePc)
  | readId
  | update (id : String)
deriving Repr, DecidableEq

inductive Task where
  | login (id pssd : String) (pc : LoginPc)
  | register (id pssd : String) (pc : RegisterPc)
  | refreshLobby (pc : RefreshPc)
  | createRoom (id roomName : String) (pc : CreatePc)
  | joinRoom (id roomName : String) (pc : JoinPc)
  | chatLog (id log : String) (pc : ChatPc)
  | roomOut (id : String) (pc : OutPc)
  | onDisconnected (pc : DisconnectPc)
  | done
deriving Repr, DecidableEq

structure Process where
  session : Nat
  task : Task
deriving Repr, DecidableEq

/-- The failing `ASSERT_CRASH` or the null pointer that stops the server. -/
inductive Crash where
  | createFetch
  | chatFetch
  | roomOutFetch
  | roomOutNull
  | nullRoom
  | removeUserFind
  | removeRoomFind
deriving Repr, DecidableEq

structure ServerState where
  db : Database
  rooms : List Room
  /-- `RoomHandler::_rooms` -/
  listed : AList fun _ : Nat => Nat
  sessions : List ClientSession
  createLock : Bool
  loginLock : Bool
  processes : List Process
  crash : Option Crash

inductive ServerEvent where
  | connect
  | request (session : Nat) (message : Message)
  | disconnect (session : Nat)
  | run (process : Nat)
deriving Repr, DecidableEq

def runs (process steps : Nat) : List ServerEvent := List.replicate steps (.run process)

/-- A request and the first steps of its handler. -/
def handled (session : Nat) (message : Message) (process steps : Nat) : List ServerEvent :=
  .request session message :: runs process steps

namespace ServerState

def fresh : ServerState where
  db := .fresh
  rooms := []
  listed := ∅
  sessions := []
  createLock := false
  loginLock := false
  processes := []
  crash := none

variable (self : ServerState)

def put (index : Nat) (process : Process) : ServerState :=
  { self with processes := self.processes.set index process }

def crashed (cause : Crash) : ServerState := { self with crash := some cause }

def setRoomObject (room : Nat) (next : Room) : ServerState :=
  { self with rooms := self.rooms.set room next }

def withRoom (room : Nat) (use : Room → Option ServerState) : Option ServerState :=
  (self.rooms[room]?).bind use

def modifySession (session : Nat) (change : ClientSession → ClientSession) : ServerState :=
  { self with sessions := self.sessions.modify session change }

/-- `ClientSession::SetRoom` -/
def setRoom (session : Nat) (room : Option Nat) : ServerState :=
  self.modifySession session fun current => { current with room := room }

/-- `ClientSession::SetId` -/
def setId (session : Nat) (id : String) : ServerState :=
  self.modifySession session fun current => { current with id := id }

/-- `Session::Send`, as far as the queue of a connected session. -/
def send (message : Message) (session : Nat) : ServerState :=
  self.modifySession session fun current =>
    if current.connected then { current with outbox := current.outbox ++ [message] } else current

def sessionId (session : Nat) : String := ((self.sessions[session]?).map ClientSession.id).getD ""

/-- `Room::BroadCast` to the users of a room. -/
def broadCast (users : Users) (message : Message) (excluUser : Option Nat) : ServerState :=
  users.inOrder.foldl
    (fun server entry => if excluUser = some entry.2 then server else server.send message entry.2)
    self

end ServerState

end ChattingProgram.Server
