import ChattingProgram.Machine.Program

namespace ChattingProgram.Server

open ChattingProgram.Machine

/-! # The code that the worker threads run

The functions of the server with their lock guards, their uses of the connection
pool and their branches; a statement that does neither is `work`, an SQL
statement `query`.  Which rooms and sessions a function meets is left open.
-/

/-- The `Lock` objects. -/
inductive ServerLock where
  /-- `PacketRespondent<C_LOGIN>::_lock` -/
  | login
  /-- `PacketRespondent<C_CREATE_ROOM>::_lock` -/
  | create
  | room (room : Nat)
  | roomHandler
  | session (session : Nat)
  | service
  | sendBufferManager
  | dbConnectionPool
  /-- `_jobs` of a `JobQueue` -/
  | jobs (queue : Nat)
  | priorityJobs (queue : Nat)
  | globalJobQueues
deriving Repr, DecidableEq

inductive ServerOp where
  | work
  | query
  /-- `_connections.back()` and `pop_back` -/
  | pop
  /-- `_connections.push_back(dbConn)` -/
  | push
  /-- A job of a packet, or `OnDisconnected`, begins. -/
  | enter
  | leave
deriving Repr, DecidableEq

abbrev ServerCode := Code ServerLock ServerOp

/-- What a worker thread is doing: in a handler, the variables `dbConn`, the latest
first; `none` is `nullptr`. -/
inductive Worker where
  | outside
  | handling (dbConns : List (Option Nat))
deriving Repr, DecidableEq

/-- `DBConnectionPool::_connections` -/
abbrev Connections := List (Option Nat)

namespace Worker

def perform : ServerOp → Connections → Worker → Connections × Worker
  | .work, connections, worker | .query, connections, worker => (connections, worker)
  | .enter, connections, _ => (connections, .handling [])
  | .leave, connections, _ => (connections, .outside)
  | .pop, connections, .handling dbConns =>
      -- an empty pool gives nullptr
      (connections.dropLast, .handling (connections.getLast?.join :: dbConns))
  | .push, connections, .handling (dbConn :: dbConns) =>
      (connections ++ [dbConn], .handling dbConns)
  | .pop, connections, .outside | .push, connections, .outside => (connections, .outside)
  | .push, connections, .handling [] => (connections, .handling [])

end Worker

namespace Workers

def work : ServerCode := .op .work

def query : ServerCode := .op .query

def optional (code : ServerCode) : ServerCode := .either .skip code

/-! ## ServerCore -/

/-- `DBConnectionPool::Pop` -/
def pop : ServerCode := .guard .dbConnectionPool (.op .pop)

/-- `DBConnectionPool::Push` -/
def push : ServerCode := .guard .dbConnectionPool (.op .push)

/-- `SendBufferManager::Pop` -/
def popChunk : ServerCode := .guard .sendBufferManager work

/-- `SendBufferManager::PushGlobal` -/
def pushGlobal : ServerCode := .guard .sendBufferManager work

/-- References to send buffers go away, and with the last one of a chunk the chunk
goes back.  A session that goes away takes its queue with it. -/
def dropBuffers : ServerCode := .loop pushGlobal

/-- `SendBufferManager::Open` -/
def openBuffer : ServerCode := .block [
  optional (.block [popChunk, work]),
  optional (.block [popChunk, dropBuffers, work]),
  work]

def makeSendBuffer : ServerCode := .block [openBuffer, work]

/-- `Session::Disconnect`; `RegisterDisconnect` takes no lock. -/
def disconnect : ServerCode := .block [work, optional work]

def handleError : ServerCode := optional disconnect

def registerSend (session : Nat) : ServerCode := optional (.block [
  work,
  .guard (.session session) (.loop work),
  work,
  optional (.block [handleError, work, dropBuffers, work])])

/-- `Session::Send`; at its end the caller's buffer goes away. -/
def send (session : Nat) : ServerCode := .block [
  optional (.block [.guard (.session session) work, optional (registerSend session)]),
  dropBuffers]

def processSend (session : Nat) : ServerCode := .block [
  work,
  dropBuffers,
  .either disconnect (.guard (.session session) (.either work (registerSend session)))]

def registerRecv : ServerCode := optional (.block [work, optional (.block [handleError, work])])

def addSession : ServerCode := .guard .service work

def releaseSession : ServerCode := .guard .service (.block [work, dropBuffers])

/-- `ProcessConnect`; `OnConnected` of the server does nothing. -/
def processConnect : ServerCode := .block [work, addSession, registerRecv]

/-- `Listener::ProcessAccept` with the `RegisterAccept` that ends it. -/
def processAccept : ServerCode := .block [work, optional processConnect, .loop work, dropBuffers]

/-! ## Rooms -/

/-- The constructor of `Room`. -/
def makeRoom (room : Nat) : ServerCode := .guard (.room room) work

def addUser (room : Nat) : ServerCode := .guard (.room room) (optional (.block [work, dropBuffers]))

def broadCast (room : Nat) : ServerCode :=
  .guard (.room room) (.loop (.pick fun user => optional (.block [makeSendBuffer, send user])))

def addRoom : ServerCode := .guard .roomHandler work

def removeRoom : ServerCode := .guard .roomHandler work

def removeUser (room : Nat) : ServerCode := .guard (.room room) (.block [
  pop,
  query,
  query,
  work,
  dropBuffers,
  work,
  .either (.block [query, removeRoom]) (.block [query, optional (broadCast room)]),
  push])

/-! ## Handlers -/

/-- What `RESPONSE_START` and `RESPONSE_END` put around the body of a handler. -/
def respond (body : ServerCode) : ServerCode := .block [.op .enter, pop, body, push, .op .leave]

def reply (session : Nat) : ServerCode := .block [makeSendBuffer, send session]

def login (session : Nat) : ServerCode := respond (.block [
  .guard .login (.block [query, optional (.block [query, work])]),
  reply session])

def register (session : Nat) : ServerCode := respond (.block [query, reply session])

def refreshLobby (session : Nat) : ServerCode := respond (.block [query, reply session])

def createRoom (session : Nat) : ServerCode := respond (.block [
  .guard .create (.block [query, optional query]),
  optional (.block [query, query, .pick makeRoom, work, work, addRoom]),
  reply session])

def joinRoom (session : Nat) : ServerCode := respond (.block [
  query,
  .pick fun room => .block [
    -- GetRoom and the loop of compare_exchange_strong
    optional (.block [work, .loop work]),
    optional (.block [query, query, query, addUser room, broadCast room])],
  reply session])

def chatLog : ServerCode := respond (.block [query, query, work, .pick broadCast])

def roomOut (session : Nat) : ServerCode :=
  respond (.block [query, work, .pick removeUser, reply session])

def onDisconnected : ServerCode := .block [
  .op .enter, optional (.pick removeUser), pop, query, push, .op .leave]

/-- `ReleaseSession` follows when `OnDisconnected` has returned. -/
def processDisconnect : ServerCode := .block [work, onDisconnected, releaseSession, dropBuffers]

/-- The callback of a job: the handler of any packet of any session. -/
def job : ServerCode := .pick fun session => .pick fun kind =>
  match kind with
  | 0 => login session
  | 1 => register session
  | 2 => refreshLobby session
  | 3 => createRoom session
  | 4 => joinRoom session
  | 5 => chatLog
  | _ => roomOut session

/-! ## Job queues and the loop of a worker -/

def globalPush : ServerCode := .guard .globalJobQueues work

def globalPop : ServerCode := .guard .globalJobQueues work

/-- `LockQueue::PopAll` calls `Pop` under its own lock. -/
def popAll (queue : Nat) : ServerCode := .guard (.jobs queue) (.loop (.guard (.jobs queue) work))

/-- `JobQueue::Execute` -/
def executeJobs (queue : Nat) : ServerCode := .loop (.block [
  popAll queue,
  .loop job,
  .loop (.block [.guard (.priorityJobs queue) work,
    optional (.block [job, .guard (.priorityJobs queue) work])]),
  work,
  optional globalPush,
  dropBuffers])

/-- `JobQueue::Push` -/
def pushJob (queue : Nat) : ServerCode := .block [
  work,
  .either (.guard (.jobs queue) work) (.guard (.priorityJobs queue) work),
  optional (.either (executeJobs queue) globalPush)]

/-- `HandlePacket` up to the end of the `PacketRespondent`: a packet that does not
parse does nothing. -/
def handlePacket : ServerCode := optional
  (.pick fun queue => .block [pushJob queue, globalPush, dropBuffers])

def processRecv : ServerCode := .block [
  work,
  .either disconnect (.block [work, .loop handlePacket,
    .either disconnect (.block [work, registerRecv])])]

/-- `IocpCore::Dispatch`: no completion, or one of any kind for any session. -/
def dispatch : ServerCode := optional (.pick fun session => .pick fun kind =>
  match kind with
  | 0 => processConnect
  | 1 => processDisconnect
  | 2 => processRecv
  | 3 => processSend session
  | _ => processAccept)

def excuteGlobalJobs : ServerCode := .loop (.block [globalPop, .pick executeJobs])

def workerThread : ServerCode := .loop (.block [dispatch, excuteGlobalJobs])

abbrev ServerThreads := Threads ServerLock ServerOp Connections Worker

def system : System ServerThreads Turn := Threads.system Worker.perform

/-- The pool after `Connect`, and the threads before their first round. -/
def start (workers connections : Nat) : ServerThreads where
  shared := (List.range connections).map some
  threads := List.replicate workers ⟨[.code workerThread], .outside⟩

end Workers

end ChattingProgram.Server
