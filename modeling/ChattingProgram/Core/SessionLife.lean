import Mathlib.Data.Finset.Card
import ChattingProgram.Core.SendQueue

namespace ChattingProgram.Core

open ChattingProgram.Machine

/-! # The life of the sessions of a service

Connecting, receiving, sending and disconnecting, as far as they decide whether a
session is connected, which of its operations are under way and whether the
service knows it.  A step is one atomic operation, one call of the socket
library, or one statement under the lock of the service.  Sessions are addressed
by their position; other threads get at a session only after `AddSession`, through
`_sessions` or through its callbacks.
-/

inductive ServiceType where
  | server
  | client
deriving Repr, DecidableEq

/-- Where a thread stands in the functions of a session. -/
inductive LifePc where
  | returned
  -- ProcessConnect, with the two statements of AddSession
  | connect
  | addCount
  | addInsert
  -- RegisterRecv
  | registerRecv
  | wsaRecv
  -- ProcessRecv
  | recv (numOfBytes : Nat)
  | onWrite
  | onRecv
  | onRead
  -- RegisterSend
  | registerSend
  | wsaSend
  -- ProcessSend; queued tells that _sendQueue is not empty
  | processSend (numOfBytes : Nat) (queued : Bool)
  | handleError (errorCode : Nat)
  -- Disconnect
  | disconnect
  | registerDisconnect
  -- ProcessDisconnect, with the two statements of ReleaseSession
  | onDisconnected
  | releaseErase
  | releaseCount
deriving Repr, DecidableEq

structure SessionThread where
  session : Nat
  pc : LifePc
deriving Repr, DecidableEq

structure SessionLife where
  connected : Bool
  -- the calls whose completion has not been dispatched
  connecting : Nat
  receives : Nat
  sends : Nat
  disconnects : Nat
  -- history: calls of ConnectEx or AcceptEx and those of them that succeeded, how
  -- often _connected was set, the session added, DisconnectEx called, OnDisconnected run
  attempts : Nat
  established : Nat
  links : Nat
  additions : Nat
  calls : Nat
  ends : Nat
deriving Repr, DecidableEq

structure Service where
  serviceType : ServiceType
  sessions : Finset Nat
  /-- An `int32_t`. -/
  sessionCount : Int
  /-- `_lock` is held over the statements of `AddSession` and `ReleaseSession`. -/
  locked : Bool
  /-- The sessions that `CreateSession` has made. -/
  lives : List SessionLife
  threads : List SessionThread
  /-- The `ASSERT_CRASH` in `ReleaseSession` has fired. -/
  crash : Bool
deriving DecidableEq

inductive LifeEvent where
  | create
  /-- `ConnectEx` or `AcceptEx` is under way; a session is given to one call. -/
  | register (session : Nat)
  /-- Its completion, successful or not; `accepts` tells that the listener could set
  up the accepted socket. -/
  | connectComplete (session : Nat) (success accepts : Bool)
  | recvComplete (session numOfBytes : Nat)
  | sendComplete (session numOfBytes : Nat) (queued : Bool)
  | disconnectComplete (session : Nat)
  /-- A thread calls `Send`. -/
  | send (session : Nat)
  | run (thread : Nat)
  /-- The call of this thread fails at once, or finds no room in the receive buffer. -/
  | fail (thread errorCode : Nat)
deriving Repr, DecidableEq

namespace Service

def fresh (serviceType : ServiceType) : Service where
  serviceType := serviceType
  sessions := ∅
  sessionCount := 0
  locked := false
  lives := []
  threads := []
  crash := false

variable (self : Service)

def put (thread session : Nat) (pc : LifePc) : Service :=
  { self with threads := self.threads.set thread ⟨session, pc⟩ }

def spawn (session : Nat) (pc : LifePc) : Service :=
  { self with threads := self.threads ++ [⟨session, pc⟩] }

def setLife (session : Nat) (life : SessionLife) : Service :=
  { self with lives := self.lives.set session life }

/-- One step of a thread whose call succeeds; `none` while it waits for the lock. -/
def advance (thread session : Nat) (life : SessionLife) : LifePc → Option Service
  | .returned => none
  | .connect =>
      some ((self.setLife session { life with connected := true, links := life.links + 1 }).put
        thread session .addCount)
  | .addCount =>
      if self.locked then none
      else some ({ self with locked := true, sessionCount := self.sessionCount + 1 }.put thread
        session .addInsert)
  | .addInsert =>
      let added := { self with locked := false, sessions := insert session self.sessions }
      -- OnConnected, then RegisterRecv
      some ((added.setLife session { life with additions := life.additions + 1 }).put thread
        session .registerRecv)
  | .registerRecv => some (self.put thread session (if life.connected then .wsaRecv else .returned))
  | .wsaRecv =>
      some ((self.setLife session { life with receives := life.receives + 1 }).put thread
        session .returned)
  | .recv numOfBytes =>
      some (self.put thread session (if numOfBytes = 0 then .disconnect else .onWrite))
  | .onWrite => some (self.put thread session .onRecv)
  | .onRecv => some (self.put thread session .onRead)
  | .onRead => some (self.put thread session .registerRecv)
  | .registerSend => some (self.put thread session (if life.connected then .wsaSend else .returned))
  | .wsaSend =>
      some ((self.setLife session { life with sends := life.sends + 1 }).put thread
        session .returned)
  | .processSend numOfBytes queued =>
      some (self.put thread session
        (if numOfBytes = 0 then .disconnect else if queued then .registerSend else .returned))
  | .handleError errorCode =>
      some (self.put thread session (if SendState.disconnects errorCode then
        .disconnect else .returned))
  | .disconnect =>
      -- _connected.exchange(false)
      if life.connected then
        some ((self.setLife session { life with connected := false }).put thread session
          .registerDisconnect)
      else some (self.put thread session .returned)
  | .registerDisconnect =>
      some ((self.setLife session { life with
        calls := life.calls + 1, disconnects := life.disconnects + 1 }).put
        thread session .returned)
  | .onDisconnected =>
      some ((self.setLife session { life with ends := life.ends + 1 }).put thread
        session .releaseErase)
  | .releaseErase =>
      if self.locked then none
      else if session ∈ self.sessions then
        some ({ self with locked := true, sessions := self.sessions.erase session }.put thread
          session .releaseCount)
      else some { self with crash := true }
  | .releaseCount =>
      some ({ self with locked := false, sessionCount := self.sessionCount - 1 }.put thread
        session .returned)

/-- The step of a thread whose call fails. -/
def refuse (thread session errorCode : Nat) (life : SessionLife) : LifePc → Option Service
  | .wsaRecv | .wsaSend => some (self.put thread session (.handleError errorCode))
  | .onWrite | .onRead => some (self.put thread session .disconnect)
  | .registerDisconnect =>
      -- Disconnect ignores what RegisterDisconnect returns
      some ((self.setLife session { life with calls := life.calls + 1 }).put thread
        session .returned)
  | _ => none

/-- A thread and the session that it works on. -/
def withThread (thread : Nat) (use : Nat → SessionLife → LifePc → Option Service) :
    Option Service :=
  (self.threads[thread]?).bind fun current =>
    (self.lives[current.session]?).bind fun life => use current.session life current.pc

def step : LifeEvent → Service → Option Service
  | event, self =>
    if self.crash then none
    else
      match event with
      | .create => some { self with lives := self.lives ++ [⟨false, 0, 0, 0, 0, 0, 0, 0, 0, 0, 0⟩] }
      | .register session =>
          (self.lives[session]?).bind fun life =>
            if life.attempts = 0 then some
              (self.setLife session { life with attempts := 1, connecting := 1 })
            else none
      | .connectComplete session success accepts =>
          (self.lives[session]?).bind fun life =>
            if life.connecting = 0 then none
            else
              let completed := self.setLife session { life with
                connecting := life.connecting - 1
                established := life.established + if success then 1 else 0 }
              -- Session::Dispatch does not look at the outcome
              if self.serviceType = .client ∨
                accepts then some (completed.spawn session .connect) else some completed
      | .recvComplete session numOfBytes =>
          (self.lives[session]?).bind fun life =>
            if life.receives = 0 then none
            else some ((self.setLife session { life with receives := life.receives - 1 }).spawn
              session (.recv numOfBytes))
      | .sendComplete session numOfBytes queued =>
          (self.lives[session]?).bind fun life =>
            if life.sends = 0 then none
            else some ((self.setLife session { life with sends := life.sends - 1 }).spawn session
              (.processSend numOfBytes queued))
      | .disconnectComplete session =>
          (self.lives[session]?).bind fun life =>
            if life.disconnects = 0 then none
            else some ((self.setLife session { life with
              disconnects := life.disconnects - 1 }).spawn session .onDisconnected)
      | .send session =>
          (self.lives[session]?).bind fun life =>
            if life.additions = 0 then none else some (self.spawn session .registerSend)
      | .run thread =>
          self.withThread thread fun session life pc => self.advance thread session life pc
      | .fail thread errorCode =>
          self.withThread thread fun session life pc => self.refuse thread session errorCode life pc

def system : System Service LifeEvent := ⟨step⟩

end Service

end ChattingProgram.Core
