import ChattingProgram.Machine.Run
import ChattingProgram.Machine.Pool

namespace ChattingProgram.Core

open ChattingProgram.Machine

/-! # Job queues

`Push`, `Execute` and `ExcuteGlobalJobs` on any number of threads.  A thread is a
stack of calls, because a job that runs may call them again.  Between two
constructors of a position a thread does one step that other threads can see: one
operation on `_jobCount`, one section of a `LockQueue`, or the start or the end of a
job.  What a thread reads from the clock comes with the event.
-/

/-- `PriorityLockQueue` compares the pointers to the jobs, so a job has an address. -/
structure Job (Callback : Type) where
  callback : Callback
  executeTick : Nat
  address : Nat
deriving Repr, DecidableEq

structure JobQueue (Callback : Type) where
  /-- An `atomic<uint32_t>`. -/
  jobCount : Nat
  jobs : List (Job Callback)
  priorityJobs : List (Job Callback)
  -- history: what Push has counted, what has entered _jobs, and what has been started
  pushed : List (Job Callback)
  entered : List (Job Callback)
  ran : List (Job Callback)
  ranDelayed : List (Job Callback)
deriving Repr, DecidableEq

inductive PushPc where
  | fetchAdd
  | insert (prevCount : Nat)
  | globalPush
deriving Repr, DecidableEq

/-- `rest` is what the loop over `jobs` has not started, `jobCount` the local variable. -/
inductive ExecutePc (Callback : Type) where
  | popAll
  | next (rest : List (Job Callback)) (jobCount : Nat)
  | running (job : Job Callback) (rest : List (Job Callback)) (jobCount : Nat)
  | top (jobCount : Nat)
  | tick (job : Job Callback) (jobCount : Nat)
  | runningDelayed (job : Job Callback) (jobCount : Nat)
  | pop (jobCount : Nat)
  | fetchSub (jobCount : Nat)
  | endTick
  | globalPush
deriving Repr, DecidableEq

inductive GlobalPc where
  | pop
  | endTick
deriving Repr, DecidableEq

/-- A call that has not returned. -/
inductive Frame (Callback : Type) where
  | push (queue : Nat) (job : Job Callback) (pc : PushPc)
  | execute (queue : Nat) (pc : ExecutePc Callback)
  | excuteGlobalJobs (pc : GlobalPc)
deriving Repr, DecidableEq

structure Worker (Callback : Type) where
  /-- `LCurrentJobQueue` -/
  currentJobQueue : Option Nat
  /-- `LEndTickCount` -/
  endTickCount : Nat
  frames : List (Frame Callback)
deriving Repr, DecidableEq

structure Scheduler (Callback : Type) where
  queues : List (JobQueue Callback)
  /-- `JobQueue::GJobQueues` -/
  globalQueues : List Nat
  workers : List (Worker Callback)
deriving Repr, DecidableEq

inductive JobEvent (Callback : Type) where
  | spawn
  | newQueue
  | setEndTick (worker tick : Nat)
  | push (worker queue : Nat) (job : Job Callback)
  | globalPush (worker queue : Nat)
  | excuteGlobalJobs (worker : Nat)
  /-- The next step of a thread, which reads `tick` if it reads the clock. -/
  | run (worker tick : Nat)
deriving Repr, DecidableEq

namespace JobQueue

variable {Callback : Type}

def new : JobQueue Callback where
  jobCount := 0
  jobs := []
  priorityJobs := []
  pushed := []
  entered := []
  ran := []
  ranDelayed := []

/-- `_priorityJobs.Top()`: `std::less` puts the largest address on top. -/
def topJob : List (Job Callback) → Option (Job Callback)
  | [] => none
  | job :: rest =>
      match topJob rest with
      | none => some job
      | some other => if other.address < job.address then some job else some other

/-- `_priorityJobs.Pop()` -/
def popJob (jobs : List (Job Callback)) : List (Job Callback) :=
  match topJob jobs with
  | none => []
  | some job => jobs.eraseP fun other => other.address = job.address

end JobQueue

/-- The caller's code is in control: outside of all calls or inside a job. -/
def Worker.mayCall {Callback : Type} (self : Worker Callback) : Bool :=
  match self.frames with
  | [] | .execute _ (.running _ _ _) :: _ | .execute _ (.runningDelayed _ _) :: _ => true
  | _ => false

namespace Scheduler

variable {Callback : Type}

def fresh : Scheduler Callback := ⟨[], [], []⟩

section Step

variable (self : Scheduler Callback)

def put (place : Nat) (worker : Worker Callback) : Scheduler Callback :=
  { self with workers := self.workers.set place worker }

def withQueue (queue : Nat) (change : JobQueue Callback → JobQueue Callback) : Scheduler Callback :=
  { self with queues := self.queues.modify queue change }

def addGlobal (queue : Nat) : Scheduler Callback :=
  { self with globalQueues := self.globalQueues ++ [queue] }

/-- `Push`; it has the only thread that finds a count of 0 execute the queue. -/
def advancePush (place tick : Nat) (worker : Worker Callback)
    (rest : List (Frame Callback)) (queue : Nat)
    (current : JobQueue Callback) (job : Job Callback) : PushPc → Scheduler Callback
  | .fetchAdd =>
      (self.withQueue queue fun current =>
        { current with jobCount := current.jobCount + 1, pushed := current.pushed ++ [job] }).put
          place { worker with frames := .push queue job (.insert current.jobCount) :: rest }
  | .insert prevCount =>
      let inserted := self.withQueue queue fun current =>
        if job.executeTick ≤ tick then
          { current with jobs := current.jobs ++ [job], entered := current.entered ++ [job] }
        else { current with priorityJobs := job :: current.priorityJobs }
      if prevCount = 0 then
        match worker.currentJobQueue with
        | none =>
            inserted.put place
              { worker with
                currentJobQueue := some queue, frames := .execute queue .popAll :: rest }
        | some _ => inserted.put place { worker with frames := .push queue job .globalPush :: rest }
      else inserted.put place { worker with frames := rest }
  | .globalPush => (self.addGlobal queue).put place { worker with frames := rest }

def advanceExecute (place tick : Nat) (worker : Worker Callback)
    (rest : List (Frame Callback)) (queue : Nat)
    (current : JobQueue Callback) : ExecutePc Callback → Scheduler Callback
  | .popAll =>
      (self.withQueue queue fun current => { current with jobs := [] }).put place
        { worker with frames := .execute queue (.next current.jobs current.jobs.length) :: rest }
  | .next (job :: jobs) jobCount =>
      (self.withQueue queue fun current => { current with ran := current.ran ++ [job] }).put place
        { worker with frames := .execute queue (.running job jobs jobCount) :: rest }
  | .next [] jobCount =>
      self.put place { worker with frames := .execute queue (.top jobCount) :: rest }
  | .running _ jobs jobCount =>
      self.put place { worker with frames := .execute queue (.next jobs jobCount) :: rest }
  | .top jobCount =>
      match JobQueue.topJob current.priorityJobs with
      | none => self.put place { worker with frames := .execute queue (.fetchSub jobCount) :: rest }
      | some job =>
          self.put place { worker with frames := .execute queue (.tick job jobCount) :: rest }
  | .tick job jobCount =>
      if tick < job.executeTick then
        self.put place { worker with frames := .execute queue (.fetchSub jobCount) :: rest }
      else
        (self.withQueue queue fun current => { current with
          ranDelayed := current.ranDelayed ++ [job] }).put place
          { worker with frames := .execute queue (.runningDelayed job jobCount) :: rest }
  | .runningDelayed _ jobCount =>
      self.put place { worker with frames := .execute queue (.pop jobCount) :: rest }
  | .pop jobCount =>
      (self.withQueue queue fun current =>
        { current with priorityJobs := JobQueue.popJob current.priorityJobs }).put place
          { worker with frames := .execute queue (.top (jobCount + 1)) :: rest }
  | .fetchSub jobCount =>
      let subtracted := self.withQueue queue fun current =>
        { current with jobCount := current.jobCount - jobCount }
      if current.jobCount = jobCount then
        subtracted.put place { worker with currentJobQueue := none, frames := rest }
      else subtracted.put place { worker with frames := .execute queue .endTick :: rest }
  | .endTick =>
      if worker.endTickCount ≤ tick then
        self.put place { worker with frames := .execute queue .globalPush :: rest }
      else self.put place { worker with frames := .execute queue .popAll :: rest }
  | .globalPush =>
      (self.addGlobal queue).put place { worker with currentJobQueue := none, frames := rest }

def advanceGlobal (place tick : Nat) (worker : Worker Callback) (rest : List (Frame Callback)) :
    GlobalPc → Scheduler Callback
  | .pop =>
      match self.globalQueues with
      | [] => self.put place { worker with frames := rest }
      | queue :: others =>
          { self with globalQueues := others }.put place
            { worker with
              currentJobQueue := some queue
              frames := .execute queue .popAll :: .excuteGlobalJobs .endTick :: rest }
  | .endTick =>
      if worker.endTickCount ≤ tick then self.put place { worker with frames := rest }
      else self.put place { worker with frames := .excuteGlobalJobs .pop :: rest }

def advance (place tick : Nat) (worker : Worker Callback) (rest : List (Frame Callback)) :
    Frame Callback → Option (Scheduler Callback)
  | .push queue job pc =>
      (self.queues[queue]?).map fun current =>
        self.advancePush place tick worker rest queue current job pc
  | .execute queue pc =>
      (self.queues[queue]?).map fun current =>
        self.advanceExecute place tick worker rest queue current pc
  | .excuteGlobalJobs pc => some (self.advanceGlobal place tick worker rest pc)

/-- A thread enters a call. -/
def call (place : Nat) (frame : Frame Callback) : Option (Scheduler Callback) :=
  (self.workers[place]?).bind fun worker =>
    if worker.mayCall then some (self.put place { worker with
      frames := frame :: worker.frames }) else none

end Step

def step : JobEvent Callback → Scheduler Callback → Option (Scheduler Callback)
  | .spawn, self => some { self with workers := self.workers ++ [⟨none, 0, []⟩] }
  | .newQueue, self => some { self with queues := self.queues ++ [.new] }
  | .setEndTick place tick, self =>
      (self.workers[place]?).bind fun worker =>
        if worker.mayCall then some (self.put place { worker with endTickCount := tick }) else none
  | .push place queue job, self =>
      if queue < self.queues.length then self.call place (.push queue job .fetchAdd) else none
  | .globalPush place queue, self =>
      (self.workers[place]?).bind fun worker =>
        if worker.mayCall ∧ queue < self.queues.length then some (self.addGlobal queue) else none
  | .excuteGlobalJobs place, self => self.call place (.excuteGlobalJobs .pop)
  | .run place tick, self =>
      (self.workers[place]?).bind fun worker =>
        match worker.frames with
        | [] => none
        | frame :: rest => self.advance place tick worker rest frame

def system : System (Scheduler Callback) (JobEvent Callback) := ⟨step⟩

end Scheduler

end ChattingProgram.Core
