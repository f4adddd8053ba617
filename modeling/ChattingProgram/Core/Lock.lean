import ChattingProgram.Machine.Run
import ChattingProgram.Machine.Pool

namespace ChattingProgram.Core

open ChattingProgram.Machine

/-! # The read-write lock

The release build of `Lock`, used by any number of threads.  Between two
constructors of `LockPc` a thread does one operation on one of the four atomics.
The position of a thread is its `LThreadId`.
-/

inductive LockPc where
  | returned
  -- WriteLock
  | writeOwner
  | addRecursion
  | addPending
  | writeCas
  | storeOwner
  | storeRecursion
  | subPending
  -- WriteUnLock
  | unlockOwner
  | subRecursion
  | clearOwner
  | exchangeState
  -- ReadLock
  | readOwner
  | loadPending
  | loadState
  | readCas (expected : Int)
  -- ReadUnLock
  | unreadOwner
  | subState
deriving Repr, DecidableEq

/-- An acquisition that has not been given back.  `_lockState` does not count a read
that its thread took while it was the owner. -/
inductive Hold where
  | write
  | read (counted : Bool)
deriving Repr, DecidableEq

def Hold.isRead : Hold → Bool
  | .write => false
  | .read _ => true

structure LockThread where
  pc : LockPc
  /-- The outstanding acquisitions, the latest first. -/
  holds : List Hold
deriving Repr, DecidableEq

inductive LockCrash where
  | invalidUnlock
  | recursionUnderflow
  | stateUnderflow
deriving Repr, DecidableEq

structure Lock where
  writerPending : UInt16
  writeRecursion : UInt16
  lockState : Int
  ownerThreadId : Int
  threads : List LockThread
  crash : Option LockCrash
deriving Repr, DecidableEq

inductive LockCall where
  | writeLock
  | writeUnLock
  | readLock
  | readUnLock
deriving Repr, DecidableEq

inductive LockEvent where
  /-- A thread that has not used the lock yet. -/
  | spawn
  | call (thread : Nat) (function : LockCall)
  | run (thread : Nat)
deriving Repr, DecidableEq

def writeState : Int := -1

def nottingState : Int := 0

def LockCall.start : LockCall → LockPc
  | .writeLock => .writeOwner
  | .writeUnLock => .unlockOwner
  | .readLock => .readOwner
  | .readUnLock => .unreadOwner

namespace Lock

def fresh : Lock where
  writerPending := 0
  writeRecursion := 0
  lockState := nottingState
  ownerThreadId := -1
  threads := []
  crash := none

def goto (self : Lock) (thread : Nat) (pc : LockPc) (holds : List Hold) : Lock :=
  { self with threads := self.threads.set thread ⟨pc, holds⟩ }

def crashed (self : Lock) (cause : LockCrash) : Lock := { self with crash := some cause }

/-- One operation of a thread.  A turn of a waiting loop that changes nothing leads back
to its start. -/
def advance (self : Lock) (thread : Nat) (holds : List Hold) : LockPc → Option Lock
  | .returned => none
  | .writeOwner =>
      some (self.goto thread (if self.ownerThreadId = thread then .addRecursion else .addPending)
        holds)
  | .addRecursion =>
      some ({ self with writeRecursion := self.writeRecursion + 1 }.goto thread .returned
        (.write :: holds))
  | .addPending =>
      some ({ self with writerPending := self.writerPending + 1 }.goto thread .writeCas holds)
  | .writeCas =>
      if self.lockState = nottingState then
        some ({ self with lockState := writeState }.goto thread .storeOwner holds)
      else some (self.goto thread .writeCas holds)
  | .storeOwner => some ({ self with ownerThreadId := thread }.goto thread .storeRecursion holds)
  | .storeRecursion => some ({ self with writeRecursion := 1 }.goto thread .subPending holds)
  | .subPending =>
      some ({ self with writerPending := self.writerPending - 1 }.goto thread .returned
        (.write :: holds))
  | .unlockOwner =>
      if self.ownerThreadId = thread then some (self.goto thread .subRecursion holds)
      else some (self.crashed .invalidUnlock)
  | .subRecursion =>
      let next := { self with writeRecursion := self.writeRecursion - 1 }
      if self.writeRecursion = 0 then some (next.crashed .recursionUnderflow)
      else if self.writeRecursion = 1 then some (next.goto thread .clearOwner holds)
      else some (next.goto thread .returned (holds.erase .write))
  | .clearOwner => some ({ self with ownerThreadId := -1 }.goto thread .exchangeState holds)
  | .exchangeState =>
      some ({ self with lockState := nottingState }.goto thread .returned (holds.erase .write))
  | .readOwner =>
      if self.ownerThreadId = thread then some (self.goto thread .returned (.read false :: holds))
      else some (self.goto thread .loadPending holds)
  | .loadPending =>
      some (self.goto thread (if 0 < self.writerPending then .loadPending else .loadState) holds)
  | .loadState =>
      some (self.goto thread
        (if self.lockState = writeState then .loadPending else .readCas self.lockState) holds)
  | .readCas expected =>
      -- expected + 1 is a signed addition: it has no result at INT_MAX
      if expected = 2 ^ 31 - 1 then none
      else if self.lockState = expected then
        some ({ self with lockState := expected + 1 }.goto thread .returned (.read true :: holds))
      else some (self.goto thread .loadPending holds)
  | .unreadOwner =>
      if self.ownerThreadId = thread then some
        (self.goto thread .returned (holds.erase (.read false)))
      else some (self.goto thread .subState holds)
  | .subState =>
      let next := { self with lockState := self.lockState - 1 }
      if self.lockState ≤ 0 then some (next.crashed .stateUnderflow)
      else some (next.goto thread .returned (holds.erase (.read true)))

/-- Nothing happens after a crash. -/
def step : LockEvent → Lock → Option Lock
  | event, self =>
    if self.crash.isSome then none
    else
      match event with
      | .spawn => some { self with threads := self.threads ++ [⟨.returned, []⟩] }
      | .call thread function =>
          (self.threads[thread]?).bind fun current =>
            if current.pc = .returned then some
              (self.goto thread function.start current.holds) else none
      | .run thread =>
          (self.threads[thread]?).bind fun current => self.advance thread current.holds current.pc

def system : System Lock LockEvent := ⟨step⟩

end Lock

/-- The guards give back the acquisition they took last, and nest to a depth below 2^16. -/
def LockCall.Nests (holds : List Hold) : LockCall → Prop
  | .writeLock | .readLock => holds.length + 1 < 2 ^ 16
  | .writeUnLock => holds.head? = some .write
  | .readUnLock => holds.head?.any Hold.isRead

def Lock.Nested : LockEvent → Lock → Prop
  | .call thread function, self => ∀ current ∈ self.threads[thread]?, function.Nests current.holds
  | _, _ => True

instance (holds : List Hold) (function : LockCall) : Decidable (function.Nests holds) :=
  match function with
  | .writeLock | .readLock => inferInstanceAs (Decidable (_ < _))
  | .writeUnLock => inferInstanceAs (Decidable (_ = _))
  | .readUnLock => inferInstanceAs (Decidable (_ = _))

instance (event : LockEvent) (self : Lock) : Decidable (Lock.Nested event self) :=
  match event with
  | .call _ _ => inferInstanceAs (Decidable (∀ _ ∈ _, _))
  | .spawn | .run _ => inferInstanceAs (Decidable True)

end ChattingProgram.Core
