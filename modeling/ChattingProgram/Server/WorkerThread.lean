import ChattingProgram.Core.JobQueue

namespace ChattingProgram.Server

open ChattingProgram.Core ChattingProgram.Machine

/-! # The worker threads

`WorkerThread` loops over `Dispatch` and `ExcuteGlobalJobs`.  A completed receive
hands packets to `OnRecvPacket`, one after another, and only then asks for the next
receive.  A packet that parses as a request gets a job and a `JobQueue` of its own
(`RESPONSE_START`, `RESPONSE_END`).
-/

/-- Where a worker stands; `rest` are the packets that `OnRecv` has not passed on. -/
inductive WorkerStage (Packet : Type) where
  | dispatch
  | onRecv (session : Nat) (rest : List Packet)
  /-- In `jobQueue->Push(job)`. -/
  | push (session : Nat) (packet : Packet) (queue : Nat) (rest : List Packet)
  /-- Before `JobQueue::GlobalPush(jobQueue)`, after which `OnRecvPacket` returns. -/
  | globalPush (session : Nat) (packet : Packet) (queue : Nat) (rest : List Packet)
  | excuteGlobalJobs
deriving Repr, DecidableEq

structure Receiver (Packet : Type) where
  /-- A `WSARecv` is outstanding. -/
  outstanding : Bool
  -- history: the packets in the order of the stream, and the callbacks begun and ended
  arrived : List Packet
  started : List Packet
  finished : List Packet
deriving Repr, DecidableEq

/-- The callback of a request knows its session and its packet. -/
structure WorkerThreads (Packet : Type) where
  clock : Nat
  scheduler : Scheduler (Nat × Packet)
  stages : List (WorkerStage Packet)
  sessions : List (Receiver Packet)
deriving Repr, DecidableEq

inductive WorkerEvent (Packet : Type) where
  | spawn
  | connect
  /-- The clock advances. -/
  | elapse
  /-- `Dispatch` times out or handles a completion of another kind. -/
  | dispatch (worker : Nat)
  /-- `Dispatch` handles the receive of a session, with the packets that are complete then. -/
  | receive (worker session : Nat) (packets : List Packet)
  | run (worker : Nat)
  /-- The session does not receive again. -/
  | disconnect (worker : Nat)
deriving Repr, DecidableEq

def workerTick : Nat := 64

namespace WorkerThreads

variable {Packet : Type}

def fresh : WorkerThreads Packet := ⟨0, .fresh, [], []⟩

/-- The callback that the next step of a call begins. -/
def begins (clock : Nat) : Frame (Nat × Packet) → Option (Nat × Packet)
  | .execute _ (.next (job :: _) _) => some job.callback
  | .execute _ (.tick job _) => if clock < job.executeTick then none else some job.callback
  | _ => none

/-- The callback that the next step of a call ends. -/
def ends : Frame (Nat × Packet) → Option (Nat × Packet)
  | .execute _ (.running job _ _) | .execute _ (.runningDelayed job _) => some job.callback
  | _ => none

section Step

variable (self : WorkerThreads Packet)

def goto (place : Nat) (stage : WorkerStage Packet) : WorkerThreads Packet :=
  { self with stages := self.stages.set place stage }

def modifySession (session : Nat) (change : Receiver Packet → Receiver Packet) :
    WorkerThreads Packet :=
  { self with sessions := self.sessions.modify session change }

/-- The history of a step of the call on top of a worker's stack. -/
def record (frame : Frame (Nat × Packet)) : WorkerThreads Packet :=
  match begins self.clock frame, ends frame with
  | some (session, packet), _ =>
      self.modifySession session fun current =>
        { current with started := current.started ++ [packet] }
  | none, some (session, packet) =>
      self.modifySession session fun current =>
        { current with finished := current.finished ++ [packet] }
  | none, none => self

/-- One step of the job queues on a worker, which goes on to `next` when its last call
has returned. -/
def runJobs (place : Nat) (next : WorkerStage Packet) : Option (WorkerThreads Packet) :=
  (self.scheduler.workers[place]?).bind fun worker =>
    worker.frames.head?.bind fun frame =>
      (Scheduler.step (.run place self.clock) self.scheduler).map fun scheduler =>
        let stepped := { self.record frame with scheduler := scheduler }
        if (scheduler.workers[place]?).any fun worker =>
          worker.frames.isEmpty then stepped.goto place next else stepped

/-- `ExcuteGlobalJobs` at the end of a turn of the loop. -/
def enterGlobalJobs (place : Nat) : Option (WorkerThreads Packet) :=
  (Scheduler.step (.excuteGlobalJobs place) self.scheduler).map fun scheduler =>
    { self with scheduler := scheduler }.goto place .excuteGlobalJobs

/-- The next turn of the loop begins. -/
def setEndTick (place : Nat) : Option (WorkerThreads Packet) :=
  (Scheduler.step (.setEndTick place (self.clock + workerTick)) self.scheduler).map fun scheduler =>
    { self with scheduler := scheduler }

/-- `RESPONSE_END`: a job that is due now, for a new queue. -/
def respond (place session : Nat) (packet : Packet) (rest : List Packet) :
    Option (WorkerThreads Packet) :=
  let queue := self.scheduler.queues.length
  (Scheduler.step .newQueue self.scheduler).bind fun scheduler =>
    (Scheduler.step (.push place queue ⟨(session, packet), self.clock, queue⟩) scheduler).map
        fun scheduler =>
      { self with scheduler := scheduler }.goto place (.push session packet queue rest)

/-- `isRequest`: the packet parses and a `PacketRespondent` takes it. -/
def advance (isRequest : Packet → Bool) (place : Nat) : WorkerStage Packet →
    Option (WorkerThreads Packet)
  | .dispatch => none
  | .onRecv session [] =>
      -- RegisterRecv
      (self.modifySession session fun current => { current with
        outstanding := true }).enterGlobalJobs place
  | .onRecv session (packet :: rest) =>
      if isRequest packet then self.respond place session packet rest
      else some (self.goto place (.onRecv session rest))
  | .push session packet queue rest => self.runJobs place (.globalPush session packet queue rest)
  | .globalPush session _ queue rest =>
      (Scheduler.step (.globalPush place queue) self.scheduler).map fun scheduler =>
        { self with scheduler := scheduler }.goto place (.onRecv session rest)
  | .excuteGlobalJobs => self.runJobs place .dispatch

end Step

def step (isRequest : Packet → Bool) : WorkerEvent Packet → WorkerThreads Packet →
    Option (WorkerThreads Packet)
  | .spawn, self =>
      (Scheduler.step .spawn self.scheduler).map fun scheduler =>
        { self with scheduler := scheduler, stages := self.stages ++ [.dispatch] }
  | .connect, self => some { self with sessions := self.sessions ++ [⟨true, [], [], []⟩] }
  | .elapse, self => some { self with clock := self.clock + 1 }
  | .dispatch place, self =>
      match self.stages[place]? with
      | some .dispatch => (self.setEndTick place).bind fun ticked => ticked.enterGlobalJobs place
      | _ => none
  | .receive place session packets, self =>
      match self.stages[place]?, self.sessions[session]? with
      | some .dispatch, some current =>
          if current.outstanding then
            (self.setEndTick place).map fun ticked =>
              (ticked.modifySession session fun current =>
                { current with outstanding := false, arrived := current.arrived ++ packets }).goto
                  place (.onRecv session packets)
          else none
      | _, _ => none
  | .run place, self => (self.stages[place]?).bind (self.advance isRequest place)
  | .disconnect place, self =>
      match self.stages[place]? with
      | some (.onRecv _ []) => self.enterGlobalJobs place
      | _ => none

def system (isRequest : Packet → Bool) : System (WorkerThreads Packet) (WorkerEvent Packet) :=
  ⟨step isRequest⟩

end WorkerThreads

end ChattingProgram.Server
