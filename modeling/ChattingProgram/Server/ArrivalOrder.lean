import ChattingProgram.Core.JobSerial
import ChattingProgram.Server.WorkerThread

namespace ChattingProgram.Server

open ChattingProgram.Core ChattingProgram.Machine

/-! # Requests in the order of arrival

A worker that handles a packet is alone with the queue it has made until its `Push`
has returned; an entry of `GJobQueues` is a queue whose job is done.
-/

variable {Packet : Type}

/-- The job of a request has not begun, is running or has ended. -/
inductive Phase where
  | before
  | during
  | after
deriving DecidableEq

def Phase.running (packet : Packet) : Phase → List Packet
  | .during => [packet]
  | _ => []

def Phase.pending (packet : Packet) (rest : List Packet) : Phase → List Packet
  | .before => packet :: rest
  | _ => rest

/-- What the queue of a request contains. -/
structure Loaded (count : Nat) (jobs : List (Job (Nat × Packet)))
    (queue : JobQueue (Nat × Packet)) : Prop where
  jobCount : queue.jobCount = count
  jobs : queue.jobs = jobs
  priorityJobs : queue.priorityJobs = []

/-- The positions of a worker inside the `Push` of a request. -/
inductive Pushing (queue : Nat) (job : Job (Nat × Packet)) :
    Worker (Nat × Packet) → JobQueue (Nat × Packet) → Phase → Prop where
  | fetchAdd {tick current} (loaded : Loaded 0 [] current) :
      Pushing queue job ⟨none, tick, [.push queue job .fetchAdd]⟩ current .before
  | insert {tick current} (loaded : Loaded 1 [] current) :
      Pushing queue job ⟨none, tick, [.push queue job (.insert 0)]⟩ current .before
  | popAll {tick current} (loaded : Loaded 1 [job] current) :
      Pushing queue job ⟨some queue, tick, [.execute queue .popAll]⟩ current .before
  | next {tick current} (loaded : Loaded 1 [] current) :
      Pushing queue job ⟨some queue, tick, [.execute queue (.next [job] 1)]⟩ current .before
  | running {tick current} (loaded : Loaded 1 [] current) :
      Pushing queue job ⟨some queue, tick, [.execute queue (.running job [] 1)]⟩ current .during
  | last {tick current} (loaded : Loaded 1 [] current) :
      Pushing queue job ⟨some queue, tick, [.execute queue (.next [] 1)]⟩ current .after
  | top {tick current} (loaded : Loaded 1 [] current) :
      Pushing queue job ⟨some queue, tick, [.execute queue (.top 1)]⟩ current .after
  | fetchSub {tick current} (loaded : Loaded 1 [] current) :
      Pushing queue job ⟨some queue, tick, [.execute queue (.fetchSub 1)]⟩ current .after

/-- `Execute` of a queue without jobs. -/
inductive Vacant : ExecutePc (Nat × Packet) → Prop where
  | popAll : Vacant .popAll
  | next : Vacant (.next [] 0)
  | top : Vacant (.top 0)
  | fetchSub : Vacant (.fetchSub 0)

/-- The positions of a worker inside `ExcuteGlobalJobs`. -/
inductive Clearing (queues : List (JobQueue (Nat × Packet))) : Worker (Nat × Packet) → Prop where
  | pop {tick} : Clearing queues ⟨none, tick, [.excuteGlobalJobs .pop]⟩
  | endTick {tick} : Clearing queues ⟨none, tick, [.excuteGlobalJobs .endTick]⟩
  | execute {tick queue current pc} (object : queues[queue]? = some current)
      (loaded : Loaded 0 [] current) (vacant : Vacant pc) :
      Clearing queues ⟨some queue, tick, [.execute queue pc, .excuteGlobalJobs .endTick]⟩

/-- No call is in progress. -/
structure Resting (worker : Worker (Nat × Packet)) : Prop where
  frames : worker.frames = []
  currentJobQueue : worker.currentJobQueue = none

/-- The callbacks that ended, the one that runs and those to come are the requests in the
order in which they arrived. -/
structure Receiver.At (isRequest : Packet → Bool) (running pending : List Packet)
    (receiver : Receiver Packet) : Prop where
  started : receiver.started = receiver.finished ++ running
  arrived : receiver.arrived.filter isRequest = receiver.finished ++ running ++ pending

/-- The queue that only this worker knows. -/
def WorkerStage.owned : WorkerStage Packet → Option Nat
  | .push _ _ queue _ | .globalPush _ _ queue _ => some queue
  | _ => none

/-- The session whose packets the worker handles. -/
def WorkerStage.handles : WorkerStage Packet → Option Nat
  | .onRecv session _ | .push session _ _ _ | .globalPush session _ _ _ => some session
  | _ => none

def Uses (worker : Worker (Nat × Packet)) (queue : Nat) : Prop := ∃ frame ∈ worker.frames,
  frame.subject = some queue

namespace WorkerThreads

variable (isRequest : Packet → Bool)

/-- A worker at a stage. -/
def Fits (self : WorkerThreads Packet) (worker : Worker (Nat × Packet)) : WorkerStage Packet → Prop
  | .dispatch => Resting worker
  | .onRecv session rest =>
      Resting worker ∧ ∃ receiver, self.sessions[session]? = some receiver ∧
        receiver.At isRequest [] (rest.filter isRequest)
  | .push session packet queue rest =>
      ∃ job current phase receiver, job.callback = (session, packet) ∧
        job.executeTick ≤ self.clock ∧
        self.scheduler.queues[queue]? = some current ∧ Pushing queue job worker current phase ∧
        self.sessions[session]? = some receiver ∧
        receiver.At isRequest (phase.running packet)
          (phase.pending packet (rest.filter isRequest)) ∧
        (phase = .after → receiver.finished.getLast? = some packet)
  | .globalPush session packet queue rest =>
      Resting worker ∧ (∃ current, self.scheduler.queues[queue]? = some current ∧
        Loaded 0 [] current) ∧
        ∃ receiver, self.sessions[session]? = some receiver ∧
          receiver.At isRequest [] (rest.filter isRequest) ∧
          receiver.finished.getLast? = some packet
  | .excuteGlobalJobs => Clearing self.scheduler.queues worker

structure Steady (threads : WorkerThreads Packet) : Prop where
  paired : threads.stages.length = threads.scheduler.workers.length
  fits : ∀ {place : Nat} {stage worker}, threads.stages[place]? = some stage →
    threads.scheduler.workers[place]? = some worker → threads.Fits isRequest worker stage
  apart : ∀ {place other : Nat} {stage otherStage worker queue},
    threads.stages[place]? = some stage →
    stage.owned = some queue → place ≠ other → threads.stages[other]? = some otherStage →
    threads.scheduler.workers[other]? = some worker → otherStage.owned ≠ some queue ∧
    ¬ Uses worker queue
  unlisted : ∀ {place : Nat} {stage queue}, threads.stages[place]? = some stage →
    stage.owned = some queue → queue ∉ threads.scheduler.globalQueues
  spent : ∀ queue ∈ threads.scheduler.globalQueues, ∃ current,
    threads.scheduler.queues[queue]? = some current ∧ Loaded 0 [] current
  single : ∀ {place other : Nat} {stage otherStage session}, threads.stages[place]? = some stage →
    threads.stages[other]? = some otherStage → stage.handles = some session →
    otherStage.handles = some session →
    place = other
  busy : ∀ {place : Nat} {stage session receiver}, threads.stages[place]? = some stage →
    stage.handles = some session →
    threads.sessions[session]? = some receiver → receiver.outstanding = false
  idle : ∀ {session : Nat} {receiver}, threads.sessions[session]? = some receiver →
    (∀ stage ∈ threads.stages, stage.handles ≠ some session) → receiver.At isRequest [] []

variable {isRequest} {self after : WorkerThreads Packet} {place : Nat}
  {stage next : WorkerStage Packet} {worker nextWorker : Worker (Nat × Packet)}

theorem uses_of_pushing (pushing : Pushing queue job worker current phase) :
    Uses worker other ↔ other = queue := by
  cases pushing <;> simp [Uses, Frame.subject, eq_comm]

theorem not_uses (resting : Resting worker) (queue : Nat) : ¬ Uses worker queue := by
  simp [Uses, resting.frames]

theorem Fits.known (fits : self.Fits isRequest worker stage)
    (concerned : stage.owned = some queue ∨ Uses worker queue) :
    queue < self.scheduler.queues.length := by
  cases stage with
  | dispatch => exact absurd concerned (by simp [WorkerStage.owned, not_uses fits])
  | onRecv session rest => exact absurd concerned (by simp [WorkerStage.owned, not_uses fits.1])
  | push session packet own rest =>
      obtain ⟨job, current, phase, receiver, _, _, object, pushing, _⟩ := fits
      have same : queue = own := by
        simpa [WorkerStage.owned, uses_of_pushing pushing, eq_comm] using concerned
      rw [same]
      exact (List.getElem?_eq_some_iff.mp object).1
  | globalPush session packet own rest =>
      obtain ⟨resting, ⟨current, object, _⟩, _⟩ := fits
      have same : queue = own := by
        simpa [WorkerStage.owned, not_uses resting, eq_comm] using concerned
      rw [same]
      exact (List.getElem?_eq_some_iff.mp object).1
  | excuteGlobalJobs =>
      cases fits with
      | pop => simp [WorkerStage.owned, Uses, Frame.subject] at concerned
      | endTick => simp [WorkerStage.owned, Uses, Frame.subject] at concerned
      | execute object loaded vacant =>
          simp only [WorkerStage.owned, reduceCtorEq, Uses, List.mem_cons, List.not_mem_nil,
            or_false, false_or, exists_eq_or_imp, exists_eq_left, Frame.subject,
            Option.some.injEq] at concerned
          rw [← concerned]
          exact (List.getElem?_eq_some_iff.mp object).1

theorem Fits.receives (fits : self.Fits isRequest worker stage)
    (handles : stage.handles = some session) :
    ∃ receiver, self.sessions[session]? = some receiver := by
  cases stage with
  | dispatch => contradiction
  | onRecv other rest =>
      cases handles
      obtain ⟨_, receiver, receives, _⟩ := fits
      exact ⟨receiver, receives⟩
  | push other packet queue rest =>
      cases handles
      obtain ⟨_, _, _, receiver, _, _, _, _, receives, _⟩ := fits
      exact ⟨receiver, receives⟩
  | globalPush other packet queue rest =>
      cases handles
      obtain ⟨_, _, receiver, receives, _⟩ := fits
      exact ⟨receiver, receives⟩
  | excuteGlobalJobs => contradiction

/-- The facts about a worker survive what the others do. -/
theorem Fits.frame (fits : self.Fits isRequest worker stage) (clock : self.clock ≤ after.clock)
    (queues : ∀ queue, stage.owned = some queue ∨ Uses worker queue →
      after.scheduler.queues[queue]? = self.scheduler.queues[queue]?)
    (sessions : ∀ session, stage.handles = some session →
      after.sessions[session]? = self.sessions[session]?) : after.Fits isRequest worker stage := by
  cases stage with
  | dispatch => exact fits
  | onRecv session rest =>
      refine ⟨fits.1, ?_⟩
      rw [sessions session rfl]
      exact fits.2
  | push session packet queue rest =>
      obtain ⟨job, current, phase, receiver, callback, due, object, pushing, found, facts⟩ := fits
      refine ⟨job, current, phase, receiver, callback, due.trans clock, ?_, pushing, ?_, facts⟩
      · rw [queues queue (.inl rfl)]
        exact object
      · rw [sessions session rfl]
        exact found
  | globalPush session packet queue rest =>
      obtain ⟨resting, object, found⟩ := fits
      rw [← queues queue (.inl rfl)] at object
      rw [← sessions session rfl] at found
      exact ⟨resting, object, found⟩
  | excuteGlobalJobs =>
      cases fits with
      | pop => exact .pop
      | endTick => exact .endTick
      | execute object loaded vacant =>
          refine .execute ?_ loaded vacant
          rw [queues _ (.inr ⟨_, List.mem_cons_self, rfl⟩)]
          exact object

theorem Steady.worker_of (steady : self.Steady isRequest)
    (found : self.stages[place]? = some stage) :
    ∃ worker, self.scheduler.workers[place]? = some worker := by
  have within := (List.getElem?_eq_some_iff.mp found).1
  rw [steady.paired] at within
  exact ⟨_, List.getElem?_eq_getElem within⟩

/-- What a step of one worker does. -/
structure Move (isRequest : Packet → Bool) (place : Nat) (stage next : WorkerStage Packet)
    (worker nextWorker : Worker (Nat × Packet)) (before after : WorkerThreads Packet) : Prop where
  found : before.stages[place]? = some stage
  foundWorker : before.scheduler.workers[place]? = some worker
  stages : after.stages = before.stages.set place next
  workers : after.scheduler.workers = before.scheduler.workers.set place nextWorker
  clock : before.clock ≤ after.clock
  queues : ∀ queue, stage.owned ≠ some queue → queue < before.scheduler.queues.length →
    after.scheduler.queues[queue]? = before.scheduler.queues[queue]?
  uses : ∀ queue, next.owned = some queue ∨ Uses nextWorker queue →
    (stage.owned = some queue ∨ Uses worker queue) ∨
    before.scheduler.queues.length ≤ queue ∨ queue ∈ before.scheduler.globalQueues
  owns : ∀ queue, next.owned = some queue → stage.owned = some queue ∨
    before.scheduler.queues.length ≤ queue
  entries : ∀ queue ∈ after.scheduler.globalQueues, queue ∈ before.scheduler.globalQueues ∨
    (stage.owned = some queue ∧ next.owned = none ∧
      ∃ current, after.scheduler.queues[queue]? = some current ∧ Loaded 0 [] current)
  sessions : ∀ session, stage.handles ≠ some session → next.handles ≠ some session →
    after.sessions[session]? = before.sessions[session]?
  takes : ∀ session, next.handles = some session → stage.handles = some session ∨
    ∃ receiver, before.sessions[session]? = some receiver ∧ receiver.outstanding = true
  busy : ∀ session receiver, next.handles = some session →
    after.sessions[session]? = some receiver → receiver.outstanding = false
  leaves : ∀ session receiver, stage.handles = some session → next.handles ≠ some session →
    after.sessions[session]? = some receiver → receiver.At isRequest [] []
  fits : after.Fits isRequest nextWorker next

namespace Move

variable (move : Move isRequest place stage next worker nextWorker self after)
  (steady : self.Steady isRequest)

include move

theorem stage_cases (found : after.stages[other]? = some otherStage)
    (foundWorker : after.scheduler.workers[other]? = some otherWorker) :
    (other = place ∧ otherStage = next ∧ otherWorker = nextWorker) ∨
      (place ≠ other ∧ self.stages[other]? = some otherStage ∧
        self.scheduler.workers[other]? = some otherWorker) := by
  rw [move.stages] at found
  rw [move.workers] at foundWorker
  rcases getElem?_set_cases found with ⟨here, rfl⟩ | ⟨elsewhere, same⟩
  · rcases getElem?_set_cases foundWorker with ⟨_, rfl⟩ | ⟨elsewhere, _⟩
    · exact .inl ⟨here, rfl, rfl⟩
    · exact absurd here.symm elsewhere
  · rcases getElem?_set_cases foundWorker with ⟨here, _⟩ | ⟨_, sameWorker⟩
    · exact absurd here.symm elsewhere
    · exact .inr ⟨elsewhere, same, sameWorker⟩

include steady

theorem newcomer (elsewhere : place ≠ other) (found : self.stages[other]? = some otherStage)
    (handles : otherStage.handles = some session) : next.handles ≠ some session := by
  intro mine
  rcases move.takes session mine with before | ⟨receiver, receives, outstanding⟩
  · exact elsewhere (steady.single move.found found before handles)
  · rw [steady.busy found handles receives] at outstanding
    contradiction

/-- A session that another worker handles is left alone. -/
theorem sessions_same (elsewhere : place ≠ other) (found : self.stages[other]? = some otherStage)
    (handles : otherStage.handles = some session) :
    after.sessions[session]? = self.sessions[session]? := by
  refine move.sessions session ?_ (move.newcomer steady elsewhere found handles)
  intro mine
  exact elsewhere (steady.single move.found found mine handles)

/-- The queues and the session of another worker are out of reach. -/
theorem bystander (elsewhere : place ≠ other) (found : self.stages[other]? = some otherStage)
    (foundWorker : self.scheduler.workers[other]? = some otherWorker) :
    after.Fits isRequest otherWorker otherStage := by
  have fits := steady.fits found foundWorker
  refine fits.frame move.clock ?_ ?_
  · intro queue concerned
    refine move.queues queue ?_ (fits.known concerned)
    intro owned
    have apart := steady.apart move.found owned elsewhere found foundWorker
    exact concerned.elim apart.1 apart.2
  · intro session handles
    exact move.sessions_same steady elsewhere found handles

theorem apart {second : Nat} (foundLeft : after.stages[first]? = some left)
    (owned : left.owned = some queue) (different : first ≠ second)
    (foundRight : after.stages[second]? = some right)
    (foundWorker : after.scheduler.workers[second]? = some rightWorker) :
    right.owned ≠ some queue ∧ ¬ Uses rightWorker queue := by
  rw [move.stages] at foundLeft
  rcases move.stage_cases foundRight foundWorker with ⟨rfl, rfl, rfl⟩ | ⟨elsewhere,
    foundRight, foundWorker⟩
  · obtain ⟨leftHere, _⟩ | ⟨_, foundLeft⟩ := getElem?_set_cases foundLeft
    · exact absurd leftHere different
    · rw [← not_or]
      intro concerned
      have apart := steady.apart foundLeft owned different move.found move.foundWorker
      obtain ⟨leftWorker, foundLeftWorker⟩ := steady.worker_of foundLeft
      have known := (steady.fits foundLeft foundLeftWorker).known (.inl owned)
      rcases move.uses queue concerned with before | fresh | listed
      · exact before.elim apart.1 apart.2
      · omega
      · exact steady.unlisted foundLeft owned listed
  · rcases getElem?_set_cases foundLeft with ⟨rfl, rfl⟩ | ⟨_, foundLeft⟩
    · rcases move.owns queue owned with before | fresh
      · exact steady.apart move.found before different foundRight foundWorker
      · rw [← not_or]
        intro concerned
        have known := (steady.fits foundRight foundWorker).known concerned
        omega
    · exact steady.apart foundLeft owned different foundRight foundWorker

theorem unlisted {other : Nat} (found : after.stages[other]? = some otherStage)
    (owned : otherStage.owned = some queue) : queue ∉ after.scheduler.globalQueues := by
  intro listed
  rw [move.stages] at found
  rcases getElem?_set_cases found with ⟨rfl, rfl⟩ | ⟨elsewhere, found⟩
  · rcases move.entries queue listed with before | ⟨_, released, _⟩
    · rcases move.owns queue owned with same | fresh
      · exact steady.unlisted move.found same before
      · obtain ⟨current, object, _⟩ := steady.spent queue before
        have within := (List.getElem?_eq_some_iff.mp object).1
        omega
    · rw [released] at owned
      contradiction
  · rcases move.entries queue listed with before | ⟨mine, _⟩
    · exact steady.unlisted found owned before
    · exact (steady.apart found owned (Ne.symm elsewhere) move.found move.foundWorker).1 mine

theorem spent (listed : queue ∈ after.scheduler.globalQueues) :
    ∃ current, after.scheduler.queues[queue]? = some current ∧ Loaded 0 [] current := by
  rcases move.entries queue listed with before | ⟨_, _, object⟩
  · obtain ⟨current, object, loaded⟩ := steady.spent queue before
    refine ⟨current, ?_, loaded⟩
    rw [move.queues queue (fun owned => steady.unlisted move.found owned before)
      (List.getElem?_eq_some_iff.mp object).1]
    exact object
  · exact object

theorem single {second : Nat} (foundLeft : after.stages[first]? = some left)
    (foundRight : after.stages[second]? = some right) (handlesLeft : left.handles = some session)
    (handlesRight : right.handles = some session) : first = second := by
  rw [move.stages] at foundLeft foundRight
  rcases getElem?_set_cases foundLeft with ⟨hereLeft, isLeft⟩ | ⟨awayLeft, sameLeft⟩
  · rcases getElem?_set_cases foundRight with ⟨hereRight, _⟩ | ⟨awayRight, sameRight⟩
    · rw [hereLeft, hereRight]
    · exact absurd (isLeft ▸ handlesLeft) (move.newcomer steady awayRight sameRight handlesRight)
  · rcases getElem?_set_cases foundRight with ⟨_, isRight⟩ | ⟨_, sameRight⟩
    · exact absurd (isRight ▸ handlesRight) (move.newcomer steady awayLeft sameLeft handlesLeft)
    · exact steady.single sameLeft sameRight handlesLeft handlesRight

theorem idle (found : after.sessions[session]? = some receiver)
    (unhandled : ∀ stage ∈ after.stages, stage.handles ≠ some session) :
    receiver.At isRequest [] [] := by
  have within := (List.getElem?_eq_some_iff.mp move.found).1
  have left : next.handles ≠ some session := by
    refine unhandled next ?_
    rw [move.stages]
    exact List.mem_set within next
  by_cases handled : stage.handles = some session
  · exact move.leaves session receiver handled left found
  · rw [move.sessions session handled left] at found
    refine steady.idle found fun other member => ?_
    obtain ⟨elsewhere, foundOther⟩ := List.mem_iff_getElem?.mp member
    by_cases here : elsewhere = place
    · subst here
      cases foundOther.symm.trans move.found
      exact handled
    · refine unhandled other ?_
      rw [move.stages]
      exact List.mem_iff_getElem?.mpr ⟨elsewhere, by rw [List.getElem?_set_ne (Ne.symm here)]; exact foundOther⟩

theorem steady_after : after.Steady isRequest := by
  constructor
  · rw [move.stages, move.workers, List.length_set, List.length_set]
    exact steady.paired
  · intro other otherStage otherWorker found foundWorker
    rcases move.stage_cases found foundWorker with ⟨_, rfl, rfl⟩ | ⟨elsewhere, found, foundWorker⟩
    · exact move.fits
    · exact move.bystander steady elsewhere found foundWorker
  · exact move.apart steady
  · exact move.unlisted steady
  · intro queue listed
    exact move.spent steady listed
  · exact move.single steady
  · intro other otherStage session receiver found handles receives
    rw [move.stages] at found
    rcases getElem?_set_cases found with ⟨_, rfl⟩ | ⟨elsewhere, same⟩
    · exact move.busy session receiver handles receives
    · rw [move.sessions_same steady elsewhere same handles] at receives
      exact steady.busy same handles receives
  · exact move.idle steady

end Move

/-- A move that is about no queue. -/
theorem Steady.plain (steady : self.Steady isRequest) (found : self.stages[place]? = some stage)
    (foundWorker : self.scheduler.workers[place]? = some worker) (next : WorkerStage Packet)
    (nextWorker : Worker (Nat × Packet)) (stages : after.stages = self.stages.set place next)
    (scheduler : after.scheduler = self.scheduler.put place nextWorker)
    (clock : after.clock = self.clock) (unowned : next.owned = none)
    (unused : ∀ queue, ¬ Uses nextWorker queue)
    (sessions : ∀ session, stage.handles ≠ some session → next.handles ≠ some session →
      after.sessions[session]? = self.sessions[session]?)
    (takes : ∀ session, next.handles = some session → stage.handles = some session ∨
      ∃ receiver, self.sessions[session]? = some receiver ∧ receiver.outstanding = true)
    (busy : ∀ session receiver, next.handles = some session →
      after.sessions[session]? = some receiver →
      receiver.outstanding = false)
    (leaves : ∀ session receiver, stage.handles = some session → next.handles ≠ some session →
      after.sessions[session]? = some receiver → receiver.At isRequest [] [])
    (fits : after.Fits isRequest nextWorker next) : after.Steady isRequest := by
  have move : Move isRequest place stage next worker nextWorker self after := {
    found := found
    foundWorker := foundWorker
    stages := stages
    workers := by rw [scheduler]; rfl
    clock := clock.ge
    queues := by rw [scheduler]; exact fun _ _ _ => rfl
    uses := by
      intro queue concerned
      simp [unowned, unused queue] at concerned
    owns := by simp [unowned]
    entries := by rw [scheduler]; exact fun _ => .inl
    sessions := sessions
    takes := takes
    busy := busy
    leaves := leaves
    fits := fits }
  exact move.steady_after steady

section Steps

variable {session queue : Nat} {packet : Packet} {rest : List Packet}
  {job : Job (Nat × Packet)} {phase : Phase}
  {current : JobQueue (Nat × Packet)} {scheduler : Scheduler (Nat × Packet)} {clock : Nat}

/-- How the next step of a call changes the phase of a job. -/
inductive Turns (clock : Nat) (job : Job (Nat × Packet)) (frame : Frame (Nat × Packet)) : Phase →
    Phase → Prop where
  | stays {same : Phase} (unbegun : begins clock frame = none) (unended : ends frame = none) :
      Turns clock job frame same same
  | starts (begun : begins clock frame = some job.callback) : Turns clock job frame .before .during
  | finishes (unbegun : begins clock frame = none) (ended : ends frame = some job.callback) :
      Turns clock job frame .during .after

theorem withQueue_id (scheduler : Scheduler (Nat × Packet)) (queue : Nat) :
    scheduler.withQueue queue id = scheduler := by
  rw [Scheduler.withQueue, List.modify_id]

/-- How many steps the `Push` of a request takes from here. -/
def stepsLeft (worker : Worker (Nat × Packet)) : Nat :=
  match worker.frames with
  | .push _ _ .fetchAdd :: _ => 8
  | .push _ _ (.insert _) :: _ => 7
  | .execute _ .popAll :: _ => 6
  | .execute _ (.next (_ :: _) _) :: _ => 5
  | .execute _ (.running _ _ _) :: _ => 4
  | .execute _ (.next [] _) :: _ => 3
  | .execute _ (.top _) :: _ => 2
  | .execute _ (.fetchSub _) :: _ => 1
  | _ => 0

/-- A step inside of the `Push` of a request. -/
theorem run_pushing (foundWorker : scheduler.workers[place]? = some worker)
    (object : scheduler.queues[queue]? = some current) (due : job.executeTick ≤ clock)
    (pushing : Pushing queue job worker current phase) :
    ∃ change nextWorker frame, worker.frames.head? = some frame ∧
      Scheduler.step (.run place clock) scheduler =
        some ((scheduler.withQueue queue change).put place nextWorker) ∧
      stepsLeft nextWorker + 1 = stepsLeft worker ∧
      ((∃ nextPhase, Pushing queue job nextWorker (change current) nextPhase ∧
        nextWorker.frames ≠ [] ∧
          Turns clock job frame phase nextPhase) ∨
        (phase = .after ∧ Resting nextWorker ∧ Loaded 0 [] (change current) ∧
          Turns clock job frame phase phase)) := by
  cases pushing with
  | fetchAdd loaded =>
      rename_i tick
      refine ⟨fun current => { current with
        jobCount := current.jobCount + 1, pushed := current.pushed ++ [job] },
        ⟨none, tick, [.push queue job (.insert 0)]⟩, _, rfl, ?_, rfl,
        .inl ⟨.before, .insert ⟨by simp [loaded.jobCount], loaded.jobs, loaded.priorityJobs⟩,
        by simp, .stays rfl rfl⟩⟩
      simp [Scheduler.step, foundWorker, Scheduler.advance, object, Scheduler.advancePush,
        loaded.jobCount]
  | insert loaded =>
      rename_i tick
      refine ⟨fun current => { current with
        jobs := current.jobs ++ [job], entered := current.entered ++ [job] },
        ⟨some queue, tick, [.execute queue .popAll]⟩, _, rfl, ?_, rfl,
        .inl ⟨.before, .popAll ⟨loaded.jobCount, by simp [loaded.jobs], loaded.priorityJobs⟩,
        by simp, .stays rfl rfl⟩⟩
      simp [Scheduler.step, foundWorker, Scheduler.advance, object, Scheduler.advancePush, due]
  | popAll loaded =>
      rename_i tick
      refine ⟨fun current => { current with jobs := [] },
        ⟨some queue, tick, [.execute queue (.next [job] 1)]⟩, _, rfl, ?_, rfl,
        .inl ⟨.before, .next ⟨loaded.jobCount, rfl, loaded.priorityJobs⟩, by simp, .stays rfl rfl⟩⟩
      simp [Scheduler.step, foundWorker, Scheduler.advance, object,
        Scheduler.advanceExecute, loaded.jobs]
  | next loaded =>
      rename_i tick
      refine ⟨fun current => { current with ran := current.ran ++ [job] },
        ⟨some queue, tick, [.execute queue (.running job [] 1)]⟩, _, rfl, ?_, rfl,
        .inl ⟨.during, .running ⟨loaded.jobCount, loaded.jobs,
        loaded.priorityJobs⟩, by simp, .starts rfl⟩⟩
      simp [Scheduler.step, foundWorker, Scheduler.advance, object, Scheduler.advanceExecute]
  | running loaded =>
      rename_i tick
      refine ⟨id, ⟨some queue, tick, [.execute queue (.next [] 1)]⟩, _, rfl, ?_, rfl,
        .inl ⟨.after, .last loaded, by simp, .finishes rfl rfl⟩⟩
      simp [Scheduler.step, foundWorker, Scheduler.advance, object,
        Scheduler.advanceExecute, withQueue_id]
  | last loaded =>
      rename_i tick
      refine ⟨id, ⟨some queue, tick, [.execute queue (.top 1)]⟩, _, rfl, ?_, rfl,
        .inl ⟨.after, .top loaded, by simp, .stays rfl rfl⟩⟩
      simp [Scheduler.step, foundWorker, Scheduler.advance, object,
        Scheduler.advanceExecute, withQueue_id]
  | top loaded =>
      rename_i tick
      refine ⟨id, ⟨some queue, tick, [.execute queue (.fetchSub 1)]⟩, _, rfl, ?_, rfl,
        .inl ⟨.after, .fetchSub loaded, by simp, .stays rfl rfl⟩⟩
      simp [Scheduler.step, foundWorker, Scheduler.advance, object, Scheduler.advanceExecute,
        loaded.priorityJobs, JobQueue.topJob, withQueue_id]
  | fetchSub loaded =>
      rename_i tick
      refine ⟨fun current => { current with jobCount := current.jobCount - 1 }, ⟨none, tick, []⟩,
        _, rfl, ?_, rfl, .inr ⟨rfl, ⟨rfl, rfl⟩,
        ⟨by simp [loaded.jobCount], loaded.jobs, loaded.priorityJobs⟩,
        .stays rfl rfl⟩⟩
      simp [Scheduler.step, foundWorker, Scheduler.advance, object, Scheduler.advanceExecute,
        loaded.jobCount]

theorem withQueue_same {change : JobQueue (Nat × Packet) → JobQueue (Nat × Packet)}
    (object : scheduler.queues[queue]? = some current) (same : change current = current) :
    scheduler.withQueue queue change = scheduler := by
  have queues : scheduler.queues.modify queue change = scheduler.queues := by
    apply List.ext_getElem?
    intro other
    rw [List.getElem?_modify]
    by_cases here : queue = other
    · subst here
      simp [object, same]
    · simp [here]
  rw [Scheduler.withQueue, queues]

/-- A step inside of `ExcuteGlobalJobs`: it runs no job and pushes no queue. -/
theorem run_clearing (foundWorker : scheduler.workers[place]? = some worker)
    (spent : ∀ queue ∈ scheduler.globalQueues, ∃ current, scheduler.queues[queue]? = some current ∧
      Loaded 0 [] current) (clearing : Clearing scheduler.queues worker) :
    ∃ globals nextWorker frame, worker.frames.head? = some frame ∧
      Scheduler.step (.run place clock) scheduler =
        some ({ scheduler with globalQueues := globals }.put place nextWorker) ∧
      globals ⊆ scheduler.globalQueues ∧ begins clock frame = none ∧ ends frame = none ∧
      (Resting nextWorker ∨ (Clearing scheduler.queues nextWorker ∧ nextWorker.frames ≠ [] ∧
        ∀ queue, Uses nextWorker queue → Uses worker queue ∨ queue ∈ scheduler.globalQueues)) := by
  cases clearing with
  | pop =>
      rename_i tick
      cases entries : scheduler.globalQueues with
      | nil =>
          refine ⟨[], ⟨none, tick, []⟩, _, rfl, ?_, by simp, rfl, rfl, .inl ⟨rfl, rfl⟩⟩
          simp [Scheduler.step, foundWorker, Scheduler.advance, Scheduler.advanceGlobal,
            entries, Scheduler.put]
      | cons queue others =>
          obtain ⟨current, object, loaded⟩ := spent queue (by simp [entries])
          refine ⟨others, ⟨some queue, tick, [.execute queue .popAll, .excuteGlobalJobs .endTick]⟩,
            _, rfl, ?_, by simp, rfl, rfl, .inr ⟨.execute object loaded .popAll, by simp, ?_⟩⟩
          · simp [Scheduler.step, foundWorker, Scheduler.advance, Scheduler.advanceGlobal, entries]
          · simp [Uses, Frame.subject]
  | endTick =>
      rename_i tick
      by_cases late : tick ≤ clock
      · refine ⟨scheduler.globalQueues, ⟨none, tick, []⟩, _, rfl,
          ?_, by simp, rfl, rfl, .inl ⟨rfl, rfl⟩⟩
        simp [Scheduler.step, foundWorker, Scheduler.advance, Scheduler.advanceGlobal, late]
      · refine ⟨scheduler.globalQueues, ⟨none, tick, [.excuteGlobalJobs .pop]⟩, _, rfl,
          ?_, by simp, rfl, rfl, .inr ⟨.pop, by simp, by simp [Uses, Frame.subject]⟩⟩
        simp [Scheduler.step, foundWorker, Scheduler.advance, Scheduler.advanceGlobal, late]
  | execute object loaded vacant =>
      rename_i tick queue current pc
      cases vacant with
      | popAll =>
          refine ⟨scheduler.globalQueues,
            ⟨some queue, tick, [.execute queue (.next [] 0), .excuteGlobalJobs .endTick]⟩, _,
            rfl, ?_, by simp, rfl, rfl, .inr ⟨.execute object loaded .next, by simp, by simp [Uses,
              Frame.subject]⟩⟩
          have same : scheduler.withQueue queue (fun current => { current with jobs := [] }) =
              scheduler :=
            withQueue_same object (by simp [← loaded.jobs])
          simp [Scheduler.step, foundWorker, Scheduler.advance, object, Scheduler.advanceExecute,
            loaded.jobs, same]
      | next =>
          refine ⟨scheduler.globalQueues,
            ⟨some queue, tick, [.execute queue (.top 0), .excuteGlobalJobs .endTick]⟩, _,
            rfl, ?_, by simp, rfl, rfl, .inr ⟨.execute object loaded .top, by simp, by simp [Uses,
              Frame.subject]⟩⟩
          simp [Scheduler.step, foundWorker, Scheduler.advance, object, Scheduler.advanceExecute]
      | top =>
          refine ⟨scheduler.globalQueues,
            ⟨some queue, tick, [.execute queue (.fetchSub 0), .excuteGlobalJobs .endTick]⟩, _,
            rfl, ?_, by simp, rfl, rfl, .inr ⟨.execute object loaded
              .fetchSub, by simp, by simp [Uses, Frame.subject]⟩⟩
          simp [Scheduler.step, foundWorker, Scheduler.advance, object, Scheduler.advanceExecute,
            loaded.priorityJobs, JobQueue.topJob]
      | fetchSub =>
          refine ⟨scheduler.globalQueues, ⟨none, tick, [.excuteGlobalJobs .endTick]⟩, _, rfl,
            ?_, by simp, rfl, rfl, .inr ⟨.endTick, by simp, by simp [Uses, Frame.subject]⟩⟩
          have same : scheduler.withQueue queue
              (fun current => { current with jobCount := current.jobCount - 0 }) =
              scheduler := withQueue_same object rfl
          simp only [Scheduler.step, foundWorker, Option.bind_some, Scheduler.advance, object,
            Option.map_some, Scheduler.advanceExecute, loaded.jobCount, if_true, same]

theorem record_none (unbegun : begins self.clock frame = none) (unended : ends frame = none) :
    self.record frame = self := by
  simp [record, unbegun, unended]

/-- The history of the session follows the phase of the job. -/
theorem record_turns (turns : Turns self.clock job frame phase nextPhase)
    (callback : job.callback = (session, packet))
    (found : self.sessions[session]? = some receiver)
    (facts : receiver.At isRequest (phase.running packet) (phase.pending packet rest))
    (last : phase = .after → receiver.finished.getLast? = some packet) :
    (∀ other, other ≠ session → (self.record frame).sessions[other]? = self.sessions[other]?) ∧
      ∃ recorded, (self.record frame).sessions[session]? = some recorded ∧
        recorded.outstanding = receiver.outstanding ∧
        recorded.At isRequest (nextPhase.running packet) (nextPhase.pending packet rest) ∧
        (nextPhase = .after → recorded.finished.getLast? = some packet) := by
  cases turns with
  | stays unbegun unended =>
      rw [record_none unbegun unended]
      exact ⟨fun _ _ => rfl, receiver, found, rfl, facts, last⟩
  | starts begun =>
      rw [callback] at begun
      simp only [record, begun, modifySession, List.getElem?_modify]
      refine ⟨fun other different => by simp [Ne.symm different],
        { receiver with
          started := receiver.started ++ [packet] }, by simp [found], rfl, ⟨?_, ?_⟩, by simp⟩
      · simpa [Phase.running] using facts.started
      · simpa [Phase.running, Phase.pending] using facts.arrived
  | finishes unbegun ended =>
      rw [callback] at ended
      simp only [record, unbegun, ended, modifySession, List.getElem?_modify]
      refine ⟨fun other different => by simp [Ne.symm different],
        { receiver with
          finished := receiver.finished ++ [packet] }, by simp [found], rfl, ⟨?_, ?_⟩, by simp⟩
      · simpa [Phase.running] using facts.started
      · simpa [Phase.running, Phase.pending] using facts.arrived

/-- The outcome of `runJobs`, from the step of the job queues. -/
theorem runJobs_eq {base : Scheduler (Nat × Packet)} (next : WorkerStage Packet)
    (foundWorker : self.scheduler.workers[place]? = some worker)
    (top : worker.frames.head? = some frame)
    (stepped : Scheduler.step (.run place self.clock) self.scheduler =
      some (base.put place nextWorker)) (workers : base.workers = self.scheduler.workers) :
    self.runJobs place next = some (if nextWorker.frames.isEmpty then
        { self.record frame with scheduler := base.put place nextWorker }.goto place next
      else { self.record frame with scheduler := base.put place nextWorker }) := by
  have within := (List.getElem?_eq_some_iff.mp foundWorker).1
  have moved : (base.put place nextWorker).workers[place]? = some nextWorker := by
    rw [Scheduler.put, workers, List.getElem?_set_self within]
  simp only [runJobs, foundWorker, top, stepped, Option.bind_some, Option.map_some, moved,
    Option.any_some]

theorem record_stages (self : WorkerThreads Packet) (frame : Frame (Nat × Packet)) :
    (self.record frame).stages = self.stages ∧ (self.record frame).clock = self.clock := by
  unfold record
  split <;> exact ⟨rfl, rfl⟩

/-- The worker keeps its session and its queue. -/
theorem Steady.keeps (steady : self.Steady isRequest) (next : WorkerStage Packet)
    {change : JobQueue (Nat × Packet) → JobQueue (Nat × Packet)} {receiver : Receiver Packet}
    (found : self.stages[place]? = some (.push session packet queue rest))
    (foundWorker : self.scheduler.workers[place]? = some worker)
    (stages : after.stages = self.stages.set place next)
    (scheduler : after.scheduler = (self.scheduler.withQueue queue change).put place nextWorker)
    (clock : after.clock = self.clock) (owned : next.owned = some queue)
    (handles : next.handles = some session)
    (uses : ∀ other, Uses nextWorker other → other = queue)
    (sessions : ∀ other, other ≠ session → after.sessions[other]? = self.sessions[other]?)
    (receives : after.sessions[session]? = some receiver) (taken : receiver.outstanding = false)
    (fits : after.Fits isRequest nextWorker next) : after.Steady isRequest := by
  have move : Move isRequest place (.push session packet queue rest) next worker nextWorker self after := {
    found := found
    foundWorker := foundWorker
    stages := stages
    workers := by rw [scheduler]; rfl
    clock := clock.ge
    queues := by
      intro other unowned _
      have apart : queue ≠ other := fun same => unowned (congrArg some same)
      simp [scheduler, Scheduler.put, Scheduler.withQueue, apart]
    uses := by
      intro other concerned
      rw [owned] at concerned
      exact .inl (.inl (concerned.elim id fun used => congrArg some (uses other used).symm))
    owns := by
      intro other owns
      rw [owned] at owns
      exact .inl owns
    entries := by
      intro other listed
      rw [scheduler] at listed
      exact .inl listed
    sessions := by
      intro other unhandled _
      exact sessions other fun same => unhandled (congrArg some same.symm)
    takes := by
      intro other taken
      rw [handles] at taken
      exact .inl taken
    busy := by
      intro other current taken found
      rw [handles] at taken
      cases taken
      cases receives.symm.trans found
      assumption
    leaves := by
      intro other current before left
      rw [handles] at left
      exact absurd before left
    fits := fits }
  exact move.steady_after steady

/-- A step of a worker in the `Push` of a request. -/
theorem push_steady (steady : self.Steady isRequest)
    (found : self.stages[place]? = some (.push session packet queue rest))
    (stepped : self.runJobs place (.globalPush session packet queue rest) = some after) :
    after.Steady isRequest := by
  obtain ⟨worker, foundWorker⟩ := steady.worker_of found
  obtain ⟨job, current, phase, receiver, callback, due, object, pushing, receives, facts, last⟩ :=
    steady.fits found foundWorker
  obtain ⟨change, nextWorker, frame, top, run, _, outcome⟩ :=
    run_pushing foundWorker object due pushing
  have became := Option.some.inj (stepped.symm.trans (runJobs_eq _ foundWorker top run rfl))
  obtain ⟨stages, clock⟩ := record_stages self frame
  have taken := steady.busy found rfl receives
  have changed : ((self.scheduler.withQueue queue change).put place nextWorker).queues[queue]? =
      some (change current) := by
    simp [Scheduler.put, Scheduler.withQueue, object]
  rcases outcome with ⟨nextPhase, pushingAfter, continues, turns⟩ | ⟨rfl, resting, loaded, turns⟩
  · obtain ⟨sessions, recorded, receivesAfter, same, factsAfter, lastAfter⟩ :=
      record_turns turns callback receives facts last
    rw [if_neg (by simp [continues])] at became
    subst became
    refine steady.keeps (.push session packet queue rest) found foundWorker ?_ rfl clock
      rfl rfl ?_ sessions receivesAfter (same.trans taken) ?_
    · rw [set_same found]
      exact stages
    · exact fun other used => (uses_of_pushing pushingAfter).mp used
    · exact ⟨job, change current, nextPhase, recorded, callback, due.trans clock.ge, changed,
        pushingAfter, receivesAfter, factsAfter, lastAfter⟩
  · obtain ⟨sessions, recorded, receivesAfter, same, factsAfter, lastAfter⟩ :=
      record_turns turns callback receives facts last
    rw [if_pos (by simp [resting.frames])] at became
    subst became
    refine steady.keeps (.globalPush session packet queue rest) found foundWorker ?_ rfl clock
      rfl rfl ?_ sessions receivesAfter (same.trans taken) ?_
    · rw [← stages]
      rfl
    · exact fun other used => absurd used (not_uses resting other)
    · exact ⟨resting, ⟨change current, changed, loaded⟩, recorded, receivesAfter,
        factsAfter, lastAfter rfl⟩

/-- The worker enters `ExcuteGlobalJobs` and is done with its session. -/
theorem enterGlobalJobs_steady {base : WorkerThreads Packet} (steady : self.Steady isRequest)
    (found : self.stages[place]? = some stage)
    (foundWorker : self.scheduler.workers[place]? = some worker) (resting : Resting worker)
    (entered : base.enterGlobalJobs place = some after) (tick : Nat)
    (scheduler : base.scheduler = self.scheduler.put place { worker with endTickCount := tick })
    (stages : base.stages = self.stages) (clock : base.clock = self.clock)
    (sessions : ∀ session, stage.handles ≠ some session →
      base.sessions[session]? = self.sessions[session]?)
    (leaves : ∀ session receiver, stage.handles = some session →
      base.sessions[session]? = some receiver →
      receiver.At isRequest [] []) : after.Steady isRequest := by
  have within := (List.getElem?_eq_some_iff.mp foundWorker).1
  have called : Scheduler.step (.excuteGlobalJobs place) base.scheduler =
      some (self.scheduler.put place ⟨none, tick, [.excuteGlobalJobs .pop]⟩) := by
    simp [Scheduler.step, Scheduler.call, scheduler, Scheduler.put,
      List.getElem?_set_self within, Worker.mayCall, resting.frames, resting.currentJobQueue]
  simp only [enterGlobalJobs, called, Option.map_some, Option.some.injEq] at entered
  subst entered
  refine steady.plain found foundWorker .excuteGlobalJobs _ ?_ rfl clock rfl ?_ ?_ ?_ ?_ ?_ .pop
  · rw [← stages]
    rfl
  · simp [Uses, Frame.subject]
  · exact fun session unhandled _ => sessions session unhandled
  · simp [WorkerStage.handles]
  · simp [WorkerStage.handles]
  · exact fun session receiver handled _ => leaves session receiver handled

theorem put_same (foundWorker : scheduler.workers[place]? = some worker) :
    scheduler.put place worker = scheduler := by
  rw [Scheduler.put, set_same foundWorker]

theorem setEndTick_eq (foundWorker : self.scheduler.workers[place]? = some worker)
    (resting : Resting worker) :
    self.setEndTick place = some { self with
      scheduler := self.scheduler.put place { worker with
        endTickCount := self.clock + workerTick } } := by
  simp [setEndTick, Scheduler.step, foundWorker, Worker.mayCall, resting.frames]

theorem dispatch_steady (steady : self.Steady isRequest)
    (found : self.stages[place]? = some .dispatch)
    (stepped : ((self.setEndTick place).bind fun ticked => ticked.enterGlobalJobs place) =
      some after) : after.Steady isRequest := by
  obtain ⟨worker, foundWorker⟩ := steady.worker_of found
  have resting : Resting worker := steady.fits found foundWorker
  rw [setEndTick_eq foundWorker resting, Option.bind_some] at stepped
  refine enterGlobalJobs_steady steady found foundWorker resting stepped _ rfl rfl rfl
    (fun _ _ => rfl) ?_
  simp [WorkerStage.handles]

/-- The last packet of a receive is done. -/
theorem onRecv_done {base : WorkerThreads Packet} (steady : self.Steady isRequest)
    (found : self.stages[place]? = some (.onRecv session []))
    (entered : base.enterGlobalJobs place = some after)
    (scheduler : base.scheduler = self.scheduler) (stages : base.stages = self.stages)
    (clock : base.clock = self.clock)
    (sessions : ∀ other, other ≠ session → base.sessions[other]? = self.sessions[other]?)
    (kept : ∀ receiver, base.sessions[session]? = some receiver →
      ∃ before, self.sessions[session]? = some before ∧
      receiver.arrived = before.arrived ∧ receiver.started = before.started ∧
        receiver.finished = before.finished) : after.Steady isRequest := by
  obtain ⟨worker, foundWorker⟩ := steady.worker_of found
  obtain ⟨resting, receiver, receives, facts⟩ := steady.fits found foundWorker
  refine enterGlobalJobs_steady steady found foundWorker resting entered worker.endTickCount ?_
    stages clock ?_ ?_
  · exact scheduler.trans (put_same foundWorker).symm
  · exact fun other unhandled => sessions other fun same => unhandled (congrArg some same.symm)
  · intro other current handled foundAfter
    cases handled
    obtain ⟨before, foundBefore, arrived, started, finished⟩ := kept current foundAfter
    cases receives.symm.trans foundBefore
    constructor
    · rw [started, finished]
      exact facts.started
    · rw [arrived, finished]
      exact facts.arrived

theorem receive_steady (steady : self.Steady isRequest)
    (found : self.stages[place]? = some .dispatch)
    (receives : self.sessions[session]? = some receiver)
    (outstanding : receiver.outstanding = true)
    (stepped : ((self.setEndTick place).map fun ticked =>
      (ticked.modifySession session fun current =>
        { current with outstanding := false, arrived := current.arrived ++ packets }).goto place
          (.onRecv session packets)) = some after) : after.Steady isRequest := by
  obtain ⟨worker, foundWorker⟩ := steady.worker_of found
  have resting : Resting worker := steady.fits found foundWorker
  rw [setEndTick_eq foundWorker resting, Option.map_some, Option.some.injEq] at stepped
  subst stepped
  have unhandled : ∀ stage ∈ self.stages, stage.handles ≠ some session := by
    intro stage member handles
    obtain ⟨other, foundOther⟩ := List.mem_iff_getElem?.mp member
    rw [steady.busy foundOther handles receives] at outstanding
    contradiction
  have facts := steady.idle receives unhandled
  have received : (self.sessions.modify session fun current =>
      { current with outstanding := false, arrived := current.arrived ++ packets })[session]? =
        some { receiver with outstanding := false, arrived := receiver.arrived ++ packets } := by
    simp [receives]
  refine steady.plain found foundWorker (.onRecv session packets) _ rfl rfl rfl rfl
    ?_ ?_ ?_ ?_ ?_ ?_
  · exact fun queue => not_uses ⟨resting.frames, resting.currentJobQueue⟩ queue
  · intro other _ different
    have apart : session ≠ other := fun same => different (congrArg some same)
    simp [modifySession, goto, apart]
  · intro other takes
    cases takes
    exact .inr ⟨receiver, receives, outstanding⟩
  · intro other current takes foundAfter
    cases takes
    cases received.symm.trans foundAfter
    rfl
  · simp [WorkerStage.handles]
  · refine ⟨⟨resting.frames, resting.currentJobQueue⟩, _, received, ⟨facts.started, ?_⟩⟩
    simpa using facts.arrived

/-- A packet that is no request. -/
theorem skip_steady (steady : self.Steady isRequest)
    (found : self.stages[place]? = some (.onRecv session (packet :: rest)))
    (other : isRequest packet = false) :
    (self.goto place (.onRecv session rest)).Steady isRequest := by
  obtain ⟨worker, foundWorker⟩ := steady.worker_of found
  obtain ⟨resting, receiver, receives, facts⟩ := steady.fits found foundWorker
  refine steady.plain found foundWorker (.onRecv session rest) worker rfl ?_ rfl rfl
    (not_uses resting) ?_ ?_ ?_ ?_ ?_
  · exact (put_same foundWorker).symm
  · exact fun _ _ _ => rfl
  · exact fun _ takes => .inl takes
  · intro session receiver takes foundAfter
    exact steady.busy found takes foundAfter
  · intro session receiver before left
    exact absurd before left
  · refine ⟨resting, receiver, receives, ?_⟩
    rwa [List.filter_cons_of_neg (by simp [other])] at facts

theorem respond_eq (session : Nat) (packet : Packet) (rest : List Packet)
    (foundWorker : self.scheduler.workers[place]? = some worker) (resting : Resting worker) :
    self.respond place session packet rest = some { self with
      scheduler := { self.scheduler with queues := self.scheduler.queues ++ [JobQueue.new] }.put
        place ⟨none, worker.endTickCount, [.push self.scheduler.queues.length
          ⟨(session, packet), self.clock, self.scheduler.queues.length⟩ .fetchAdd]⟩
      stages := self.stages.set place (.push session packet self.scheduler.queues.length rest) } :=
        by
  simp [respond, Scheduler.step, Scheduler.call, foundWorker, Worker.mayCall, resting.frames,
    goto, Scheduler.put, resting.currentJobQueue]

/-- `RESPONSE_END` makes a queue that no other worker knows. -/
theorem respond_steady (steady : self.Steady isRequest)
    (found : self.stages[place]? = some (.onRecv session (packet :: rest)))
    (request : isRequest packet = true)
    (stepped : self.respond place session packet rest = some after) : after.Steady isRequest := by
  obtain ⟨worker, foundWorker⟩ := steady.worker_of found
  obtain ⟨resting, receiver, receives, facts⟩ := steady.fits found foundWorker
  let queue := self.scheduler.queues.length
  let job : Job (Nat × Packet) := ⟨(session, packet), self.clock, queue⟩
  let nextWorker : Worker (Nat × Packet) := ⟨none, worker.endTickCount, [.push queue job .fetchAdd]⟩
  obtain ⟨stages, scheduler, clock, sessions⟩ : after.stages =
      self.stages.set place (.push session packet queue rest) ∧
      after.scheduler = { self.scheduler with
        queues := self.scheduler.queues ++ [JobQueue.new] }.put place nextWorker ∧
      after.clock = self.clock ∧ after.sessions = self.sessions := by
    cases stepped.symm.trans (respond_eq session packet rest foundWorker resting)
    exact ⟨rfl, rfl, rfl, rfl⟩
  have object : after.scheduler.queues[queue]? = some JobQueue.new := by
    rw [scheduler]
    simp [Scheduler.put, queue]
  have move : Move isRequest place (.onRecv session (packet :: rest))
      (.push session packet queue rest) worker nextWorker self after := {
    found := found
    foundWorker := foundWorker
    stages := stages
    workers := by rw [scheduler]; rfl
    clock := clock.ge
    queues := by
      intro other _ within
      rw [scheduler]
      exact List.getElem?_append_left within
    uses := by
      intro other concerned
      have same : queue = other := by
        simpa [WorkerStage.owned, Uses, nextWorker, Frame.subject] using concerned
      exact .inr (.inl same.le)
    owns := by
      intro other owns
      cases owns
      exact .inr le_rfl
    entries := by rw [scheduler]; exact fun _ => .inl
    sessions := by rw [sessions]; exact fun _ _ _ => rfl
    takes := fun _ takes => .inl takes
    busy := by
      intro other receiver takes foundAfter
      rw [sessions] at foundAfter
      exact steady.busy found takes foundAfter
    leaves := fun _ _ before left => absurd before left
    fits := by
      refine ⟨job, JobQueue.new, .before, receiver, rfl, clock.ge, object,
        .fetchAdd ⟨rfl, rfl, rfl⟩, ?_, ?_, by simp⟩
      · rw [sessions]
        exact receives
      · rwa [List.filter_cons_of_pos request] at facts }
  exact move.steady_after steady

/-- The second push of the queue; its job is done. -/
theorem globalPush_steady (steady : self.Steady isRequest)
    (found : self.stages[place]? = some (.globalPush session packet queue rest))
    (stepped : ((Scheduler.step (.globalPush place queue) self.scheduler).map fun scheduler =>
      { self with scheduler := scheduler }.goto place (.onRecv session rest)) = some after) :
    after.Steady isRequest := by
  obtain ⟨worker, foundWorker⟩ := steady.worker_of found
  obtain ⟨resting, ⟨current, object, loaded⟩, receiver, receives, facts, _⟩ :=
    steady.fits found foundWorker
  have within := (List.getElem?_eq_some_iff.mp object).1
  obtain ⟨stages, scheduler, clock, sessions⟩ : after.stages =
      self.stages.set place (.onRecv session rest) ∧
      after.scheduler = self.scheduler.addGlobal queue ∧ after.clock = self.clock ∧
          after.sessions = self.sessions := by
    simp [Scheduler.step, foundWorker, Worker.mayCall, resting.frames, within, goto] at stepped
    subst stepped
    exact ⟨rfl, rfl, rfl, rfl⟩
  have objectAfter : after.scheduler.queues[queue]? = some current := by
    rw [scheduler]
    exact object
  have move : Move isRequest place (.globalPush session packet queue rest) (.onRecv session rest)
      worker worker self after := {
    found := found
    foundWorker := foundWorker
    stages := stages
    workers := by rw [scheduler]; exact (set_same foundWorker).symm
    clock := clock.ge
    queues := by rw [scheduler]; exact fun _ _ _ => rfl
    uses := by
      intro other concerned
      simp [WorkerStage.owned, not_uses resting other] at concerned
    owns := by simp [WorkerStage.owned]
    entries := by
      intro other listed
      rw [scheduler] at listed
      rcases List.mem_append.mp listed with before | added
      · exact .inl before
      · rw [List.mem_singleton.mp added]
        exact .inr ⟨rfl, rfl, current, objectAfter, loaded⟩
    sessions := by rw [sessions]; exact fun _ _ _ => rfl
    takes := fun _ takes => .inl takes
    busy := by
      intro other receiver takes foundAfter
      rw [sessions] at foundAfter
      exact steady.busy found takes foundAfter
    leaves := fun _ _ before left => absurd before left
    fits := ⟨resting, receiver, by rw [sessions]; exact receives, facts⟩ }
  exact move.steady_after steady

theorem clear_steady (steady : self.Steady isRequest)
    (found : self.stages[place]? = some .excuteGlobalJobs)
    (stepped : self.runJobs place .dispatch = some after) : after.Steady isRequest := by
  obtain ⟨worker, foundWorker⟩ := steady.worker_of found
  have clearing : Clearing self.scheduler.queues worker := steady.fits found foundWorker
  obtain ⟨globals, nextWorker, frame, top, run, subset, unbegun, unended, outcome⟩ :=
    run_clearing foundWorker steady.spent clearing
  have became := Option.some.inj (stepped.symm.trans (runJobs_eq _ foundWorker top run rfl))
  rw [record_none unbegun unended] at became
  have moves : ∀ (next : WorkerStage Packet) {after : WorkerThreads Packet},
      after.stages = self.stages.set place next →
      after.scheduler = { self.scheduler with globalQueues := globals }.put place nextWorker →
      after.clock = self.clock → after.sessions = self.sessions → next.owned = none →
      next.handles = none →
      (∀ queue, Uses nextWorker queue → Uses worker queue ∨ queue ∈ self.scheduler.globalQueues) →
      after.Fits isRequest nextWorker next → after.Steady isRequest := by
    intro next after stages scheduler clock sessions unowned unhandled uses fits
    have move : Move isRequest place .excuteGlobalJobs next worker nextWorker self after := {
      found := found
      foundWorker := foundWorker
      stages := stages
      workers := by rw [scheduler]; rfl
      clock := clock.ge
      queues := by rw [scheduler]; exact fun _ _ _ => rfl
      uses := by
        intro queue concerned
        rw [unowned] at concerned
        rcases concerned with impossible | used
        · contradiction
        · exact (uses queue used).elim (fun before => .inl (.inr before)) fun listed =>
            .inr (.inr listed)
      owns := by simp [unowned]
      entries := by rw [scheduler]; exact fun queue listed => .inl (subset listed)
      sessions := by rw [sessions]; exact fun _ _ _ => rfl
      takes := by simp [unhandled]
      busy := by simp [unhandled]
      leaves := by simp [WorkerStage.handles]
      fits := fits }
    exact move.steady_after steady
  rcases outcome with resting | ⟨clearingAfter, continues, uses⟩
  · rw [if_pos (by simp [resting.frames])] at became
    subst became
    refine moves .dispatch rfl rfl rfl rfl rfl rfl ?_ resting
    exact fun queue used => absurd used (not_uses resting queue)
  · rw [if_neg (by simp [continues])] at became
    subst became
    exact moves .excuteGlobalJobs (set_same found).symm rfl rfl rfl rfl rfl uses clearingAfter

end Steps

theorem fresh_steady : (fresh : WorkerThreads Packet).Steady isRequest := by
  constructor
  · rfl
  all_goals intros; simp_all [fresh, Scheduler.fresh]

theorem spawn_steady (steady : self.Steady isRequest)
    (stages : after.stages = self.stages ++ [.dispatch])
    (scheduler : after.scheduler = { self.scheduler with
      workers := self.scheduler.workers ++ [⟨none, 0, []⟩] }) (clock : after.clock = self.clock)
    (sessions : after.sessions = self.sessions) : after.Steady isRequest := by
  have cases : ∀ {place : Nat} {stage : WorkerStage Packet}, after.stages[place]? = some stage →
      self.stages[place]? = some stage ∨ stage = .dispatch := by
    intro place stage found
    rw [stages] at found
    exact (getElem?_concat_cases found).imp_right And.right
  have workers : ∀ {place : Nat} {stage : WorkerStage Packet} {worker : Worker (Nat × Packet)},
      after.stages[place]? = some stage → after.scheduler.workers[place]? = some worker →
      (self.stages[place]? = some stage ∧ self.scheduler.workers[place]? = some worker) ∨
        (stage = .dispatch ∧ worker = ⟨none, 0, []⟩) := by
    intro place stage worker found foundWorker
    rw [stages] at found
    rw [scheduler] at foundWorker
    have paired := steady.paired
    rcases getElem?_concat_cases found with before | ⟨last, rfl⟩
    · rcases getElem?_concat_cases foundWorker with beforeWorker | ⟨lastWorker, _⟩
      · exact .inl ⟨before, beforeWorker⟩
      · have within := (List.getElem?_eq_some_iff.mp before).1
        omega
    · rcases getElem?_concat_cases foundWorker with beforeWorker | ⟨_, rfl⟩
      · have within := (List.getElem?_eq_some_iff.mp beforeWorker).1
        omega
      · exact .inr ⟨rfl, rfl⟩
  have same : after.scheduler.queues = self.scheduler.queues := by rw [scheduler]
  have globals : after.scheduler.globalQueues = self.scheduler.globalQueues := by rw [scheduler]
  constructor
  · rw [stages, scheduler]
    simp [steady.paired]
  · intro place stage worker found foundWorker
    rcases workers found foundWorker with ⟨before, beforeWorker⟩ | ⟨rfl, rfl⟩
    · exact (steady.fits before beforeWorker).frame clock.ge (fun _ _ => by rw [same]) fun _
        _ => by rw [sessions]
    · exact ⟨rfl, rfl⟩
  · intro place other stage otherStage worker queue found owned different foundOther foundWorker
    rcases cases found with before | rfl
    · rcases workers foundOther foundWorker with ⟨beforeOther, beforeWorker⟩ | ⟨rfl, rfl⟩
      · exact steady.apart before owned different beforeOther beforeWorker
      · simp [WorkerStage.owned, Uses]
    · contradiction
  · intro place stage queue found owned
    rw [globals]
    rcases cases found with before | rfl
    · exact steady.unlisted before owned
    · contradiction
  · rw [globals, same]
    exact steady.spent
  · intro place other stage otherStage session found foundOther handles handlesOther
    rcases cases found with before | rfl
    · rcases cases foundOther with beforeOther | rfl
      · exact steady.single before beforeOther handles handlesOther
      · contradiction
    · contradiction
  · intro place stage session receiver found handles receives
    rw [sessions] at receives
    rcases cases found with before | rfl
    · exact steady.busy before handles receives
    · contradiction
  · intro session receiver receives unhandled
    rw [sessions] at receives
    refine steady.idle receives fun stage member => unhandled stage ?_
    rw [stages]
    exact List.mem_append_left _ member

theorem connect_steady (steady : self.Steady isRequest) :
    { self with sessions := self.sessions ++ [⟨true, [], [], []⟩] : WorkerThreads Packet }.Steady
      isRequest := by
  have within : ∀ {place : Nat} {stage : WorkerStage Packet} {session : Nat},
      self.stages[place]? = some stage →
      stage.handles = some session → session < self.sessions.length := by
    intro place stage session found handles
    obtain ⟨worker, foundWorker⟩ := steady.worker_of found
    obtain ⟨receiver, receives⟩ := (steady.fits found foundWorker).receives handles
    exact (List.getElem?_eq_some_iff.mp receives).1
  constructor
  · exact steady.paired
  · intro place stage worker found foundWorker
    refine (steady.fits found foundWorker).frame le_rfl (fun _ _ => rfl) ?_
    intro session handles
    exact List.getElem?_append_left (within found handles)
  · exact steady.apart
  · exact steady.unlisted
  · exact steady.spent
  · exact steady.single
  · intro place stage session receiver found handles receives
    rw [List.getElem?_append_left (within found handles)] at receives
    exact steady.busy found handles receives
  · intro session receiver receives unhandled
    rcases getElem?_concat_cases receives with before | ⟨_, rfl⟩
    · exact steady.idle before unhandled
    · exact ⟨rfl, rfl⟩

theorem step_steady (stepped : (system isRequest).step event self = some after)
    (steady : self.Steady isRequest) : after.Steady isRequest := by
  cases event with
  | spawn =>
      cases stepped
      exact spawn_steady steady rfl rfl rfl rfl
  | connect =>
      cases stepped
      exact connect_steady steady
  | elapse =>
      cases stepped
      refine { steady with fits := ?_ }
      intro place stage worker found foundWorker
      exact (steady.fits found foundWorker).frame (Nat.le_succ _) (fun _ _ => rfl) fun _ _ => rfl
  | dispatch place =>
      simp only [system, step] at stepped
      split at stepped
      · rename_i found
        exact dispatch_steady steady found stepped
      · contradiction
  | receive place session packets =>
      simp only [system, step] at stepped
      split at stepped
      · rename_i current found receives
        split at stepped
        · rename_i outstanding
          exact receive_steady steady found receives outstanding stepped
        · contradiction
      · contradiction
  | run place =>
      obtain ⟨stage, found, stepped⟩ := Option.bind_eq_some_iff.mp stepped
      cases stage with
      | dispatch => contradiction
      | onRecv session rest =>
          cases rest with
          | nil =>
              refine onRecv_done steady found stepped rfl rfl rfl ?_ ?_
              · intro other different
                simp [modifySession, Ne.symm different]
              · intro receiver receives
                simp only [modifySession, List.getElem?_modify, if_true, Option.map_eq_map,
                  Option.map_eq_some_iff] at receives
                obtain ⟨before, receivesBefore, rfl⟩ := receives
                exact ⟨before, receivesBefore, rfl, rfl, rfl⟩
          | cons packet rest =>
              simp only [advance] at stepped
              split at stepped
              · rename_i request
                exact respond_steady steady found request stepped
              · rename_i other
                cases stepped
                exact skip_steady steady found (by simpa using other)
      | push session packet queue rest => exact push_steady steady found stepped
      | globalPush session packet queue rest => exact globalPush_steady steady found stepped
      | excuteGlobalJobs => exact clear_steady steady found stepped
  | disconnect place =>
      simp only [system, step] at stepped
      split at stepped
      · rename_i session found
        refine onRecv_done steady found stepped rfl rfl rfl (fun _ _ => rfl) ?_
        exact fun receiver receives => ⟨receiver, receives, rfl, rfl, rfl⟩
      · contradiction

theorem run_steady (ran : (system isRequest).run events fresh = some self) :
    self.Steady isRequest :=
  System.run_preserves step_steady ran fresh_steady

theorem push_completes (steady : self.Steady isRequest)
    (found : self.stages[place]? = some (.push session packet queue rest))
    (foundWorker : self.scheduler.workers[place]? = some worker) :
    ∃ after, (system isRequest).run (List.replicate (stepsLeft worker) (.run place)) self =
      some after ∧
      after.Steady isRequest ∧ after.stages[place]? =
        some (.globalPush session packet queue rest) := by
  -- on the steps that the Push has left
  generalize left : stepsLeft worker = count
  induction count generalizing self worker with
  | zero =>
      obtain ⟨job, current, phase, receiver, _, _, _, pushing, _⟩ := steady.fits found foundWorker
      cases pushing <;> simp [stepsLeft] at left
  | succ count ih =>
      obtain ⟨job, current, phase, receiver, callback, due, object, pushing, _⟩ :=
        steady.fits found foundWorker
      obtain ⟨change, nextWorker, frame, top, run, less, outcome⟩ :=
        run_pushing foundWorker object due pushing
      have ran := runJobs_eq (.globalPush session packet queue rest) foundWorker top run rfl
      have runs : (system isRequest).step (.run place) self =
          self.runJobs place (.globalPush session packet queue rest) := by
        simp [system, step, found, advance]
      have stepped := runs.trans ran
      have next := push_steady steady found ran
      obtain ⟨stages, _⟩ := record_stages self frame
      rw [List.replicate_succ]
      rcases outcome with ⟨_, _, continues, _⟩ | ⟨_, resting, _⟩
      · rw [if_neg (by simp [continues])] at stepped next
        have moved := List.getElem?_set_self (a := nextWorker)
          (List.getElem?_eq_some_iff.mp foundWorker).1
        obtain ⟨after, completed, facts⟩ := ih next (stages ▸ found) moved (by omega)
        exact ⟨after, System.run_cons_some.mpr ⟨_, stepped, completed⟩, facts⟩
      · rw [if_pos (by simp [resting.frames])] at stepped next
        have done : stepsLeft nextWorker = 0 := by simp [stepsLeft, resting.frames]
        have last : count = 0 := by omega
        subst last
        refine ⟨_, System.run_cons_some.mpr ⟨_, stepped, rfl⟩, next, ?_⟩
        simp only [goto, stages]
        exact List.getElem?_set_self (List.getElem?_eq_some_iff.mp found).1

/-- A worker that handles a request has finished it after ten steps of its own. -/
theorem request_completes (steady : self.Steady isRequest)
    (found : self.stages[place]? = some (.onRecv session (packet :: rest)))
    (request : isRequest packet = true) :
    ∃ after, (system isRequest).run (List.replicate 10 (.run place)) self = some after ∧
      after.stages[place]? = some (.onRecv session rest) := by
  obtain ⟨worker, foundWorker⟩ := steady.worker_of found
  have resting : Resting worker := (steady.fits found foundWorker).1
  have responded := respond_eq session packet rest foundWorker resting
  have entered : (system isRequest).step (.run place) self =
      self.respond place session packet rest := by
    simp [system, step, found, advance, request]
  have pushing := respond_steady steady found request responded
  obtain ⟨pushed, completed, steadyAfter, foundAfter⟩ := push_completes pushing
    (List.getElem?_set_self (List.getElem?_eq_some_iff.mp found).1)
    (List.getElem?_set_self (List.getElem?_eq_some_iff.mp foundWorker).1)
  obtain ⟨last, foundLast⟩ := steadyAfter.worker_of foundAfter
  obtain ⟨rested, ⟨current, object, _⟩, _⟩ := steadyAfter.fits foundAfter foundLast
  have within := (List.getElem?_eq_some_iff.mp object).1
  obtain ⟨after, returned, foundReturned⟩ : ∃ after,
      (system isRequest).step (.run place) pushed = some after ∧
      after.stages[place]? = some (.onRecv session rest) := by
    refine ⟨{ pushed with
      scheduler := pushed.scheduler.addGlobal self.scheduler.queues.length
      stages := pushed.stages.set place (.onRecv session rest) }, ?_, ?_⟩
    · simp [system, step, foundAfter, advance, Scheduler.step, foundLast, Worker.mayCall,
    rested.frames, within, goto]
    · exact List.getElem?_set_self (List.getElem?_eq_some_iff.mp foundAfter).1
  refine ⟨after, ?_, foundReturned⟩
  change (system isRequest).run (.run place :: (List.replicate 8 (.run place) ++ [.run place]))
    self = _
  refine System.run_cons_some.mpr ⟨_, entered.trans responded,
    System.run_append_some.mpr ⟨pushed, completed, ?_⟩⟩
  exact System.run_cons_some.mpr ⟨_, returned, rfl⟩

theorem clearing_runs_nothing (clearing : Clearing queues worker) (member : frame ∈ worker.frames)
    (clock : Nat) :
    begins clock frame = none ∧ ends frame = none ∧ ∀ queue, frame.about queue = 0 := by
  cases clearing with
  | pop =>
      rw [List.mem_singleton.mp member]
      exact ⟨rfl, rfl, fun _ => rfl⟩
  | endTick =>
      rw [List.mem_singleton.mp member]
      exact ⟨rfl, rfl, fun _ => rfl⟩
  | execute object loaded vacant =>
      simp only [List.mem_cons, List.not_mem_nil, or_false] at member
      rcases member with rfl | rfl
      · cases vacant <;> exact ⟨rfl, rfl, fun _ => rfl⟩
      · exact ⟨rfl, rfl, fun _ => rfl⟩

theorem Steady.sequential (steady : self.Steady isRequest) {session : Nat}
    (receives : self.sessions[session]? = some receiver) :
    ∃ running pending, receiver.At isRequest running pending ∧
      (running = [] ∨ ∃ packet, running = [packet]) := by
  by_cases handled : ∃ stage ∈ self.stages, stage.handles = some session
  · obtain ⟨stage, member, handles⟩ := handled
    obtain ⟨place, found⟩ := List.mem_iff_getElem?.mp member
    obtain ⟨worker, foundWorker⟩ := steady.worker_of found
    have fits := steady.fits found foundWorker
    cases stage with
    | dispatch => contradiction
    | excuteGlobalJobs => contradiction
    | onRecv other rest =>
        cases handles
        obtain ⟨_, current, foundCurrent, facts⟩ := fits
        cases receives.symm.trans foundCurrent
        exact ⟨_, _, facts, .inl rfl⟩
    | push other packet queue rest =>
        cases handles
        obtain ⟨_, _, phase, current, _, _, _, _, foundCurrent, facts, _⟩ := fits
        cases receives.symm.trans foundCurrent
        refine ⟨_, _, facts, ?_⟩
        cases phase with
        | during => exact .inr ⟨packet, rfl⟩
        | before => exact .inl rfl
        | after => exact .inl rfl
    | globalPush other packet queue rest =>
        cases handles
        obtain ⟨_, _, current, foundCurrent, facts, _⟩ := fits
        cases receives.symm.trans foundCurrent
        exact ⟨_, _, facts, .inl rfl⟩
  · refine ⟨_, _, steady.idle receives ?_, .inl rfl⟩
    exact fun stage member handles => handled ⟨stage, member, handles⟩

/-- In every state that the workers reach. -/
theorem requests_in_order {events : List (WorkerEvent Packet)}
  (ran : (system isRequest).run events fresh = some self) :
    -- a worker that enters a packet handler is inside of no queue
    (∀ (place session : Nat) (packet : Packet) (rest : List Packet)
      (worker : Worker (Nat × Packet)), self.stages[place]? =
      some (.onRecv session (packet :: rest)) →
      self.scheduler.workers[place]? = some worker →
      worker.currentJobQueue = none) ∧
    -- when the Push of a request returns its callback has ended, as have those of the packets before it
    (∀ (place session queue : Nat) (packet : Packet) (rest : List Packet),
      self.stages[place]? = some (.globalPush session packet queue rest) →
      ∃ receiver, self.sessions[session]? = some receiver ∧ receiver.started = receiver.finished ∧
        receiver.finished.getLast? = some packet ∧
        receiver.arrived.filter isRequest = receiver.finished ++ rest.filter isRequest) ∧
    -- between two packets the callbacks of those handled have run once each
    (∀ (place session : Nat) (rest : List Packet), self.stages[place]? =
      some (.onRecv session rest) →
      ∃ receiver, self.sessions[session]? = some receiver ∧ receiver.started = receiver.finished ∧
        receiver.arrived.filter isRequest = receiver.finished ++ rest.filter isRequest) ∧
    -- the entries of GJobQueues are empty queues, and executing them starts and pushes nothing
    (∀ queue ∈ self.scheduler.globalQueues, ∃ current,
      self.scheduler.queues[queue]? = some current ∧
      current.jobCount = 0 ∧ current.jobs = [] ∧ current.priorityJobs = []) ∧
    (∀ (place : Nat) (worker : Worker (Nat × Packet)), self.stages[place]? =
      some .excuteGlobalJobs → self.scheduler.workers[place]? = some worker →
      ∀ frame ∈ worker.frames, begins self.clock frame = none ∧ ends frame = none ∧
      ∀ queue, frame.about queue = 0) ∧
    -- the callbacks of a session run one after another in the order of arrival
    (∀ (session : Nat) (receiver : Receiver Packet), self.sessions[session]? = some receiver →
      receiver.started <+: receiver.arrived.filter isRequest ∧
      (receiver.started = receiver.finished ∨
      ∃ packet, receiver.started = receiver.finished ++ [packet])) ∧
    -- a request that a worker has begun to handle gets there
    (∀ (place session : Nat) (packet : Packet) (rest : List Packet),
      self.stages[place]? = some (.onRecv session (packet :: rest)) → isRequest packet = true →
      ∃ after, (system isRequest).run (List.replicate 10 (.run place)) self = some after ∧
        after.stages[place]? = some (.onRecv session rest)) := by
  have steady := run_steady ran
  refine ⟨?_, ?_, ?_, ?_, ?_, ?_, ?_⟩
  · intro place session packet rest worker found foundWorker
    exact (steady.fits found foundWorker).1.currentJobQueue
  · intro place session queue packet rest found
    obtain ⟨worker, foundWorker⟩ := steady.worker_of found
    obtain ⟨_, _, receiver, receives, facts, last⟩ := steady.fits found foundWorker
    exact ⟨receiver, receives, by simpa using facts.started, last, by simpa using facts.arrived⟩
  · intro place session rest found
    obtain ⟨worker, foundWorker⟩ := steady.worker_of found
    obtain ⟨_, receiver, receives, facts⟩ := steady.fits found foundWorker
    exact ⟨receiver, receives, by simpa using facts.started, by simpa using facts.arrived⟩
  · intro queue listed
    obtain ⟨current, object, loaded⟩ := steady.spent queue listed
    exact ⟨current, object, loaded.jobCount, loaded.jobs, loaded.priorityJobs⟩
  · intro place worker found foundWorker frame member
    have clearing : Clearing self.scheduler.queues worker := steady.fits found foundWorker
    exact clearing_runs_nothing clearing member self.clock
  · intro session receiver receives
    obtain ⟨running, pending, facts, few⟩ := steady.sequential receives
    constructor
    · rw [facts.started, facts.arrived]
      exact List.prefix_append ..
    · rcases few with rfl | ⟨packet, rfl⟩
      · exact .inl (by simpa using facts.started)
      · exact .inr ⟨packet, facts.started⟩
  · intro place session packet rest found request
    exact request_completes steady found request

/-- Two workers, one session with two requests and a packet that is none. -/
theorem requests_in_order_two_requests :
    let events : List (WorkerEvent Nat) :=
      [WorkerEvent.spawn, .spawn, .connect, .receive 0 0 [1, 0, 2]] ++
      List.replicate 10 (WorkerEvent.run 0) ++ [WorkerEvent.elapse, .dispatch 1] ++
      List.replicate 5 (WorkerEvent.run 1) ++ List.replicate 9 (WorkerEvent.run 0)
    ∃ threads receiver, (system fun packet => packet != 0).run events fresh = some threads ∧
      threads.sessions[0]? = some receiver ∧ receiver.started = [1, 2] ∧
      receiver.started <+: receiver.arrived.filter fun packet => packet != 0 := by
  intro events
  obtain ⟨threads, receiver, ran, found, started⟩ : ∃ threads receiver,
      (system fun packet => packet != 0).run events fresh = some threads ∧
        threads.sessions[0]? = some receiver ∧ receiver.started = [1, 2] := ⟨_, _, rfl, rfl, rfl⟩
  obtain ⟨_, _, _, _, _, sequential, _⟩ := requests_in_order ran
  exact ⟨threads, receiver, ran, found, started, (sequential 0 receiver found).1⟩

end WorkerThreads

end ChattingProgram.Server
