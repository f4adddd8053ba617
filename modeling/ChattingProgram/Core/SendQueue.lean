import ChattingProgram.Machine.Run
import ChattingProgram.Machine.Pool

namespace ChattingProgram.Core

open ChattingProgram.Machine

/-! # The send pipeline of one session

`Send`, `RegisterSend` and `ProcessSend` run on any number of threads.  Between
two constructors of `SendPc` a thread does one step that other threads can see:
one access to `_connected` or to `_sendEvent`, one section under `_lock`, or one
call of `WSASend`.
-/

/-- Where a thread stands.  `inLock` tells that `RegisterSend` was called by
`ProcessSend`, which keeps `_lock` until it returns. -/
inductive SendPc (Buffer : Type) where
  | returned
  -- Send
  | send (buffer : Buffer)
  | sendPush (buffer : Buffer)
  -- RegisterSend
  | register (inLock : Bool)
  | registerOwner (inLock : Bool)
  | registerDrain (inLock : Bool)
  | registerSend (inLock : Bool)
  -- RegisterSend after WSASend has failed at once
  | failed (inLock : Bool) (errorCode : Nat)
  | failedOwner (inLock : Bool)
  | failedClear (inLock : Bool)
  | failedStore (inLock : Bool)
  -- ProcessSend
  | process (numOfBytes : Nat)
  | processClear (numOfBytes : Nat)
  | processBytes (numOfBytes : Nat)
  | processLock
  | unlock
deriving Repr, DecidableEq

structure SendState (Buffer : Type) where
  connected : Bool
  sendQueue : List Buffer
  sendRegistered : Bool
  -- the thread that holds _lock over several steps
  lock : Option Nat
  -- _sendEvent
  owner : Bool
  sendBuffers : List Buffer
  -- the WSASend calls whose completion has not been dispatched
  outstanding : List (List Buffer)
  threads : List (SendPc Buffer)
  -- history: what Send has pushed, and the batches handed to WSASend
  pushed : List Buffer
  handed : List (List Buffer)
deriving Repr, DecidableEq

inductive SendEvent (Buffer : Type) where
  /-- A thread calls `Send`. -/
  | call (buffer : Buffer)
  | run (thread : Nat)
  /-- The `WSASend` of this thread fails at once. -/
  | fail (thread errorCode : Nat)
  /-- A completion of an outstanding `WSASend` is dispatched. -/
  | complete (call numOfBytes : Nat)
  /-- Some thread calls `Disconnect`. -/
  | disconnect
deriving Repr, DecidableEq

namespace SendState

variable {Buffer : Type}

def fresh : SendState Buffer where
  connected := true
  sendQueue := []
  sendRegistered := false
  lock := none
  owner := false
  sendBuffers := []
  outstanding := []
  threads := []
  pushed := []
  handed := []

def goto (self : SendState Buffer) (thread : Nat) (pc : SendPc Buffer) : SendState Buffer :=
  { self with threads := self.threads.set thread pc }

/-- Returning from `RegisterSend`: to `Send`, which is done, or to the section
of `ProcessSend` that called it. -/
def afterRegister : Bool → SendPc Buffer
  | false => .returned
  | true => .unlock

/-- `WSAECONNRESET` and `WSAECONNABORTED`, the errors on which `HandleError`
disconnects. -/
def disconnects (errorCode : Nat) : Bool := errorCode = 10054 || errorCode = 10053

def mayLock (self : SendState Buffer) (inLock : Bool) (thread : Nat) : Bool :=
  if inLock then self.lock = some thread else self.lock.isNone

/-- One step of a thread; `none` while it waits for `_lock`. -/
def advance (self : SendState Buffer) (thread : Nat) : SendPc Buffer → Option (SendState Buffer)
  | .returned => none
  | .send buffer =>
      some (self.goto thread (if self.connected then .sendPush buffer else .returned))
  | .sendPush buffer =>
      -- push and exchange happen in one section under _lock
      if self.lock.isSome then none
      else
        let next := { self with
          sendQueue := self.sendQueue ++ [buffer], pushed := self.pushed ++ [buffer],
          sendRegistered := true }
        some (next.goto thread (if self.sendRegistered then .returned else .register false))
  | .register inLock =>
      some (self.goto thread
        (if self.connected then .registerOwner inLock else afterRegister inLock))
  | .registerOwner inLock =>
      some ({ self with owner := true }.goto thread (.registerDrain inLock))
  | .registerDrain inLock =>
      if self.mayLock inLock thread then
        let next := { self with
          sendBuffers := self.sendBuffers ++ self.sendQueue, sendQueue := [] }
        some (next.goto thread (.registerSend inLock))
      else none
  | .registerSend inLock =>
      let next := { self with
        outstanding := self.outstanding ++ [self.sendBuffers],
        handed := self.handed ++ [self.sendBuffers] }
      some (next.goto thread (afterRegister inLock))
  | .failed inLock errorCode =>
      let next := { self with connected := self.connected && !disconnects errorCode }
      some (next.goto thread (.failedOwner inLock))
  | .failedOwner inLock =>
      some ({ self with owner := false }.goto thread (.failedClear inLock))
  | .failedClear inLock =>
      some ({ self with sendBuffers := [] }.goto thread (.failedStore inLock))
  | .failedStore inLock =>
      some ({ self with sendRegistered := false }.goto thread (afterRegister inLock))
  | .process numOfBytes =>
      some ({ self with owner := false }.goto thread (.processClear numOfBytes))
  | .processClear numOfBytes =>
      some ({ self with sendBuffers := [] }.goto thread (.processBytes numOfBytes))
  | .processBytes numOfBytes =>
      if numOfBytes = 0 then some ({ self with connected := false }.goto thread .returned)
      else some (self.goto thread .processLock)
  | .processLock =>
      if self.lock.isSome then none
      else if self.sendQueue.isEmpty then
        some ({ self with sendRegistered := false }.goto thread .returned)
      else some ({ self with lock := some thread }.goto thread (.register true))
  | .unlock => some ({ self with lock := none }.goto thread .returned)

def step : SendEvent Buffer → SendState Buffer → Option (SendState Buffer)
  | .call buffer, self => some { self with threads := self.threads ++ [.send buffer] }
  | .run thread, self => (self.threads[thread]?).bind (self.advance thread)
  | .fail thread errorCode, self =>
      match self.threads[thread]? with
      | some (.registerSend inLock) => some (self.goto thread (.failed inLock errorCode))
      | _ => none
  | .complete call numOfBytes, self =>
      if call < self.outstanding.length then
        some { self with
          outstanding := self.outstanding.eraseIdx call
          threads := self.threads ++ [.process numOfBytes] }
      else none
  | .disconnect, self => some { self with connected := false }

def system : System (SendState Buffer) (SendEvent Buffer) := ⟨step⟩

end SendState

end ChattingProgram.Core
