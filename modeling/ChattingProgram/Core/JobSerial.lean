import ChattingProgram.Core.JobTokens

namespace ChattingProgram.Core

open ChattingProgram.Machine

/-! # Serialised jobs

Jobs that are due when they are pushed: no job is delayed, so what holds of all runs says
that the jobs of a queue run one after another, in the order in which they entered it.
-/

variable {Callback : Type}

/-- What holds of a queue, with the entries of `GJobQueues` and the calls in progress. -/
structure Serial (queue : Nat) (globals : List Nat) (frames : List (Frame Callback))
    (current : JobQueue Callback) : Prop where
  holder : total (Frame.token queue) frames + globals.count queue =
    if current.jobCount = 0 then 0 else 1
  count : current.jobCount =
    (frames.flatMap (Frame.inserting queue)).length + current.jobs.length +
    total (Frame.taken queue) frames
  order : current.entered = current.ran ++ frames.flatMap (Frame.waiting queue) ++ current.jobs
  pushed : current.pushed.Perm (current.entered ++ frames.flatMap (Frame.inserting queue))
  undelayed : current.priorityJobs = [] ∧ current.ranDelayed = []
  plain : ∀ frame ∈ frames, frame.delayed queue = false

/-- Where no job may be delayed, none is. -/
theorem Timed.serial (timed : Timed (fun _ => False) queue globals frames current) :
    Serial queue globals frames current := by
  have undelayed : current.priorityJobs = [] ∧ current.ranDelayed = [] := by
    have none := List.eq_nil_iff_forall_not_mem.mpr timed.delayed
    exact List.append_eq_nil_iff.mp none
  have plain : ∀ frame ∈ frames, frame.delayed queue = false := by
    intro frame member
    have knows := timed.knows frame member
    rw [undelayed.1] at knows
    cases frame with
    | push _ _ _ | excuteGlobalJobs _ => rfl
    | execute place pc => cases pc <;> simp_all [Frame.Knows, Frame.delayed, JobQueue.topJob]
  constructor
  · exact timed.holder
  · simpa [undelayed.1] using timed.count
  · exact timed.order
  · obtain ⟨removed, pushed, ran⟩ := timed.pushed
    rw [undelayed.2] at ran
    have none := (List.append_eq_nil_iff.mp ran.nil_eq.symm).1
    simpa [undelayed.1, none] using pushed
  · exact undelayed
  · exact plain

/-- The job that the next step of the thread inserts. -/
def Worker.inserts (worker : Worker Callback) : Option (Job Callback) :=
  match worker.frames with
  | .push _ job (.insert _) :: _ => some job
  | _ => none

/-- The thread is in a job of the queue. -/
def Worker.runs (queue : Nat) (worker : Worker Callback) : Bool :=
  worker.frames.any (Frame.runs queue)

namespace Scheduler

structure Orderly (scheduler : Scheduler Callback) : Prop where
  serial : ∀ {queue current}, scheduler.queues[queue]? = some current →
    Serial queue scheduler.globalQueues scheduler.frames current
  known : ∀ frame ∈ scheduler.frames, ∀ queue ∈ frame.subject, queue < scheduler.queues.length
  listed : ∀ queue ∈ scheduler.globalQueues, queue < scheduler.queues.length

variable {self : Scheduler Callback} {queue : Nat} {worker : Worker Callback}

/-- `GlobalPush` is called by `Push` and `Execute` only, and a job is due when `Push`
reads the clock. -/
def Disciplined : JobEvent Callback → Scheduler Callback → Prop
  | .globalPush _ _, _ => False
  | .run place tick, self =>
      ∀ worker ∈ self.workers[place]?, ∀ job ∈ worker.inserts, job.executeTick ≤ tick
  | _, _ => True

instance (event : JobEvent Callback) (self : Scheduler Callback) :
    Decidable (Disciplined event self) :=
  match event with
  | .globalPush _ _ => inferInstanceAs (Decidable False)
  | .run place _ =>
      inferInstanceAs (Decidable (∀ worker ∈ self.workers[place]?, ∀ job ∈ worker.inserts, _))
  | .spawn | .newQueue | .setEndTick _ _ | .push _ _ _ | .excuteGlobalJobs _ =>
      inferInstanceAs (Decidable True)

theorem Disciplined.timely (disciplined : Disciplined event self) :
    Timely (fun _ => False) event self := by
  cases event with
  | globalPush _ _ => exact disciplined
  | run place tick =>
      intro worker found entry delayed
      have due := disciplined worker found
      unfold Worker.delays at delayed
      split at delayed
      · rename_i stack
        split at delayed
        · contradiction
        · rename_i later
          exact absurd (due _ (by simp [Worker.inserts, stack])) later
      · contradiction
  | _ => trivial

theorem run_orderly (disciplined : system.Guarded Disciplined events fresh)
    (ran : system.run events fresh = some self) : self.Orderly := by
  have regular := run_regular (disciplined.mono fun met => Disciplined.timely met) ran
  exact ⟨fun object => (regular.timed object).serial, regular.known, regular.listed⟩

theorem token_of_runs (runs : worker.runs queue) : 0 < total (Frame.token queue) worker.frames := by
  obtain ⟨frame, member, inJob⟩ := List.any_eq_true.mp runs
  by_contra none
  have without := total_eq_zero.mp (Nat.eq_zero_of_not_pos none) frame member
  rw [(Frame.untaken without).2.2.1] at inJob
  contradiction

/-- In every state that threads reach which push due jobs, execute them and push more
from inside of them. -/
theorem jobs_serialised {events : List (JobEvent Callback)} {current : JobQueue Callback}
    (disciplined : system.Guarded Disciplined events fresh)
    (reached : system.run events fresh = some self) (object : self.queues[queue]? = some current) :
    (∀ (first second : Nat) (left right : Worker Callback), self.workers[first]? = some left →
      self.workers[second]? = some right → left.runs queue → right.runs queue → first = second) ∧
    (current.ran <+: current.entered ∧ current.ran.Subperm current.pushed ∧
      current.ranDelayed = []) ∧
    current.jobCount = (self.frames.flatMap (Frame.inserting queue)).length + current.jobs.length +
      total (Frame.taken queue) self.frames ∧
    (0 < current.jobCount → total (Frame.executing queue) self.frames +
      total (Frame.about queue) self.frames + self.globalQueues.count queue = 1) := by
  have serial := (run_orderly disciplined reached).serial object
  have holder := serial.holder
  refine ⟨?_, ⟨?_, ?_, serial.undelayed.2⟩, serial.count, ?_⟩
  · intro first second left right foundLeft foundRight runsLeft runsRight
    by_contra different
    have both := weight_add_le_total (fun worker => total (Frame.token queue) worker.frames)
      foundLeft foundRight different
    have leftToken := token_of_runs runsLeft
    have rightToken := token_of_runs runsRight
    rw [frames, total_flatMap] at holder
    split at holder <;> omega
  · rw [serial.order, List.append_assoc]
    exact List.prefix_append ..
  · have started : current.ran.Subperm current.entered := by
      rw [serial.order, List.append_assoc]
      exact (List.sublist_append_left ..).subperm
    refine started.trans (List.Subperm.trans ?_ serial.pushed.symm.subperm)
    exact (List.sublist_append_left ..).subperm
  · intro counted
    have both : total (Frame.token queue) self.frames =
        total (Frame.executing queue) self.frames + total (Frame.about queue) self.frames := by
      rw [← total_add]
      rfl
    rw [if_neg (by omega)] at holder
    omega

/-- A job that runs on one thread pushes a job to another queue; a second thread takes that
queue from `GJobQueues` and runs it. -/
theorem jobs_serialised_nested_push :
    let events : List (JobEvent Unit) :=
      [.spawn, .spawn, .newQueue, .newQueue, .push 0 0 ⟨(), 3, 0⟩, .run 0 5,
      .run 0 5, .run 0 5, .run 0 5, .push 0 1 ⟨(), 5, 1⟩, .run 0 6, .run 0 6, .run 0 6,
        .excuteGlobalJobs 1, .run 1 6,
      .run 1 6, .run 1 6]
    ∃ scheduler, system.run events fresh = some scheduler ∧
      scheduler.workers.map (Worker.runs 0) = [true, false] ∧
      scheduler.workers.map (Worker.runs 1) = [false, true] ∧
      total (Frame.executing 1) scheduler.frames + total (Frame.about 1) scheduler.frames +
        scheduler.globalQueues.count 1 = 1 := by
  intro events
  obtain ⟨scheduler, current, reached, object, counted, runs⟩ : ∃ scheduler current,
      system.run events fresh = some scheduler ∧ scheduler.queues[1]? = some current ∧
      0 < current.jobCount ∧
      scheduler.workers.map (Worker.runs 0) = [true, false] ∧
      scheduler.workers.map (Worker.runs 1) = [false, true] := ⟨_, _, rfl, rfl, by decide, rfl, rfl⟩
  obtain ⟨_, _, _, holder⟩ := jobs_serialised (by decide) reached object
  exact ⟨scheduler, reached, runs.1, runs.2, holder counted⟩

end Scheduler

end ChattingProgram.Core
