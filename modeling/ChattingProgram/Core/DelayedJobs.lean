import ChattingProgram.Core.JobTokens

namespace ChattingProgram.Core

open ChattingProgram.Machine

/-! # Delayed jobs

`_priorityJobs` is ordered by the addresses of the jobs: `std::less` compares the
pointers, and `Job::operator<` is not called.  So a job that is pushed while another one
runs can come on top of it and is popped in its place, and a job that is due waits behind
one that is not.
-/

variable {Callback : Type}

/-! ## Every delayed job runs once -/

namespace Scheduler

/-- `GlobalPush` is called by `Push` and `Execute` only. -/
def Internal : JobEvent Callback → Prop
  | .globalPush _ _ => False
  | _ => True

/-- What the next step of a thread puts into `_priorityJobs` is an object of its own: at its
address there is no other job. -/
def Addressed : JobEvent Callback → Scheduler Callback → Prop
  | .run place tick, self =>
      ∀ worker ∈ self.workers[place]?, ∀ entry ∈ worker.delays tick,
        ∀ current ∈ self.queues[entry.1]?, ∀ other ∈ current.priorityJobs,
        other.address = entry.2.address → other = entry.2
  | _, _ => True

/-- What is put into `_priorityJobs` while the executor is between `Top` and `Pop` has no
higher address than the job on top. -/
def Unovertaken : JobEvent Callback → Scheduler Callback → Prop
  | .run place tick, self =>
      ∀ worker ∈ self.workers[place]?, ∀ entry ∈ worker.delays tick,
        ∀ current ∈ self.queues[entry.1]?, ∀ frame ∈ self.frames, frame.delayed entry.1 = true →
          ∀ top ∈ JobQueue.topJob current.priorityJobs, entry.2.address ≤ top.address
  | _, _ => True

instance (event : JobEvent Callback) : Decidable (Internal event) :=
  match event with
  | .globalPush _ _ => inferInstanceAs (Decidable False)
  | .spawn | .newQueue | .setEndTick _ _ | .push _ _ _ | .excuteGlobalJobs _ | .run _ _ =>
      inferInstanceAs (Decidable True)

instance [DecidableEq Callback] (event : JobEvent Callback) (self : Scheduler Callback) :
    Decidable (Addressed event self) :=
  match event with
  | .run place tick =>
      inferInstanceAs (Decidable (∀ worker ∈ self.workers[place]?, ∀ entry ∈ worker.delays tick, _))
  | .spawn | .newQueue | .setEndTick _ _ | .push _ _ _ | .globalPush _ _ | .excuteGlobalJobs _ =>
      inferInstanceAs (Decidable True)

instance (event : JobEvent Callback) (self : Scheduler Callback) :
    Decidable (Unovertaken event self) :=
  match event with
  | .run place tick =>
      inferInstanceAs (Decidable (∀ worker ∈ self.workers[place]?, ∀ entry ∈ worker.delays tick, _))
  | .spawn | .newQueue | .setEndTick _ _ | .push _ _ _ | .globalPush _ _ | .excuteGlobalJobs _ =>
      inferInstanceAs (Decidable True)

/-- The jobs of a queue that were pushed are about to be inserted, have entered `_jobs`, lie in
`_priorityJobs`, or were removed from it.  What was removed has been run, no job is run more
often than it was pushed, and `_jobCount` was lowered by no more than the jobs that were run
and removed. -/
def ExactlyOnce (self : Scheduler Callback) (queue : Nat) (current : JobQueue Callback) : Prop :=
  ∃ removed,
    current.pushed.Perm
      (current.entered ++ self.frames.flatMap (Frame.inserting queue) ++
      current.priorityJobs ++ removed) ∧
    removed.Subperm current.ranDelayed ∧
    (current.ran ++ current.ranDelayed).Subperm current.pushed ∧
    current.pushed.length ≤ current.jobCount + (current.ran.length + removed.length)

end Scheduler

theorem Frame.unpopped_subperm {frame : Frame Callback} :
    (frame.unpopped queue jobs).Subperm jobs := by
  have top : (JobQueue.topJob jobs).toList.Subperm jobs := by
    cases found : JobQueue.topJob jobs with
    | none => exact List.nil_subperm
    | some job => exact List.singleton_subperm_iff.mpr (JobQueue.topJob_mem found)
  unfold unpopped
  split
  · split
    · exact top
    · exact List.nil_subperm
  · split
    · exact top
    · exact List.nil_subperm
  · exact List.nil_subperm

namespace Timed

variable {Delayed : Job Callback → Prop} {queue : Nat} {globals : List Nat}
  {frames : List (Frame Callback)} {current : JobQueue Callback}

/-- At most one job has been run and not popped. -/
theorem unpopped_subperm (single : total (Frame.token queue) frames ≤ 1) :
    (frames.flatMap (Frame.unpopped queue jobs)).Subperm jobs := by
  have empty : ∀ {rest : List (Frame Callback)}, total (Frame.token queue) rest = 0 →
      rest.flatMap (Frame.unpopped queue jobs) = [] := by
    intro rest none
    refine List.flatMap_eq_nil_iff.mpr fun frame member => ?_
    obtain ⟨_, idle, _, plain⟩ := Frame.untaken (total_eq_zero.mp none frame member)
    exact (Frame.plain_knows plain idle jobs).1
  induction frames with
  | nil => exact List.nil_subperm
  | cons frame rest ih =>
      rw [total_cons] at single
      rw [List.flatMap_cons]
      by_cases without : frame.token queue = 0
      · have none : [frame].flatMap (Frame.unpopped queue jobs) = [] := empty (by simp [without])
        rw [List.flatMap_singleton] at none
        rw [none, List.nil_append]
        exact ih (by omega)
      · rw [empty (by omega), List.append_nil]
        exact Frame.unpopped_subperm

theorem waiting_le_taken (knows : ∀ frame ∈ frames, frame.Knows queue jobs) :
    (frames.flatMap (Frame.waiting queue)).length ≤ total (Frame.taken queue) frames := by
  induction frames with
  | nil => exact Nat.le_refl 0
  | cons frame rest ih =>
      rw [List.forall_mem_cons] at knows
      have later := ih knows.2
      have here : (frame.waiting queue).length ≤ frame.taken queue := by
        cases frame with
        | push _ _ _ | excuteGlobalJobs _ => simp [Frame.waiting]
        | execute place pc =>
            by_cases same : place = queue
            · cases pc with
              | next jobs jobCount => simpa [Frame.waiting, Frame.taken, same] using knows.1 same
              | running job jobs jobCount =>
                  simpa [Frame.waiting, Frame.taken, same] using knows.1 same
              | _ => simp [Frame.waiting]
            · cases pc <;> simp [Frame.waiting, same]
      rw [List.flatMap_cons, List.length_append, total_cons]
      omega

end Timed

namespace Scheduler

variable {self : Scheduler Callback} {queue : Nat} {current : JobQueue Callback}

theorem Regular.exactlyOnce {Delayed : Job Callback → Prop} (regular : self.Regular Delayed)
    (object : self.queues[queue]? = some current) : self.ExactlyOnce queue current := by
  have timed := regular.timed object
  obtain ⟨removed, pushed, ran⟩ := timed.pushed
  have unpopped : (self.frames.flatMap (Frame.unpopped queue current.priorityJobs)).Subperm
      current.priorityJobs := by
    refine Timed.unpopped_subperm ?_
    have holder := timed.holder
    split at holder <;> omega
  refine ⟨removed, pushed, ?_, ?_, ?_⟩
  · exact (List.sublist_append_left ..).subperm.trans ran.symm.subperm
  · rw [← Multiset.coe_le, Multiset.le_iff_exists_add] at unpopped ⊢
    obtain ⟨others, split⟩ := unpopped
    refine ⟨self.frames.flatMap (Frame.waiting queue) + current.jobs +
      self.frames.flatMap (Frame.inserting queue) + others, ?_⟩
    rw [← Multiset.coe_eq_coe] at pushed ran
    rw [timed.order] at pushed
    simp only [← Multiset.coe_add] at pushed ran split ⊢
    rw [pushed, ran, split]
    ac_rfl
  · have length := pushed.length_eq
    have count := timed.count
    have waiting := Timed.waiting_le_taken timed.knows
    rw [timed.order] at length
    simp only [List.length_append] at length
    omega

/-- In every state that any threads reach which push jobs and execute them, if no job that is
pushed between the executor's `Top` and `Pop` has a higher address than the job that runs. -/
theorem delayed_jobs_once {events : List (JobEvent Callback)}
    (internal : ∀ event ∈ events, Internal event)
    (addressed : system.Guarded Addressed events fresh)
    (unovertaken : system.Guarded Unovertaken events fresh)
    (reached : system.run events fresh = some self) (object : self.queues[queue]? = some current) :
    self.ExactlyOnce queue current := by
  have guarded := (System.guarded_of_forall internal).and (addressed.and unovertaken)
  have timely : system.Guarded (Timely fun _ => True) events fresh := by
    refine guarded.mono ?_
    rintro event state ⟨inside, own, below⟩
    cases event with
    | globalPush _ _ => exact inside
    | run place tick =>
        intro worker found entry delayed current object
        exact ⟨trivial, own worker found entry delayed current object,
          below worker found entry delayed current object⟩
    | _ => trivial
  exact (run_regular timely reached).exactlyOnce object

/-- A job that is due at 10 is delayed and runs; while it runs, a second thread pushes one
for 20. -/
def overlapping (first second : Nat) : List (JobEvent Unit) :=
  [.spawn, .spawn, .newQueue, .push 0 0 ⟨(), 10, first⟩, .run 0 5, .run 0 5, .run 0 5, .run 0 5,
    .run 0 5, .run 0 10, .push 1 0 ⟨(), 20, second⟩, .run 1 10, .run 1 10, .run 0 10, .run 0 10]

theorem delayed_jobs_once_lower_address :
    ∃ scheduler, ∃ current : JobQueue Unit, system.run (overlapping 2 1) fresh = some scheduler ∧
      scheduler.queues[0]? = some current ∧ current.ranDelayed = [⟨(), 10, 2⟩] ∧
      current.priorityJobs = [⟨(), 20, 1⟩] ∧ scheduler.ExactlyOnce 0 current := by
  obtain ⟨scheduler, current, reached, object, ran, waits⟩ : ∃ scheduler, ∃ current : JobQueue Unit,
      system.run (overlapping 2 1) fresh = some scheduler ∧ scheduler.queues[0]? = some current ∧
      current.ranDelayed = [⟨(), 10, 2⟩] ∧
      current.priorityJobs = [⟨(), 20, 1⟩] := ⟨_, _, rfl, rfl, rfl, rfl⟩
  exact ⟨scheduler, current, reached, object, ran, waits,
    delayed_jobs_once (by decide) (by decide) (by decide) reached object⟩

/-- A job that has gone from the queue and has not been run was lost. -/
theorem not_exactlyOnce_of_lost (pushed : job ∈ current.pushed)
    (gone : job ∉ current.entered ++ self.frames.flatMap (Frame.inserting queue) ++
      current.priorityJobs) (unrun : job ∉ current.ranDelayed) :
    ¬ self.ExactlyOnce queue current := by
  rintro ⟨removed, all, executed, _, _⟩
  rcases List.mem_append.mp (all.subset pushed) with present | lost
  · exact gone present
  · exact unrun (executed.subset lost)

/-- The job that is pushed has the higher address: it is popped and never runs, and the first
one runs again. -/
theorem delayed_job_popped_unrun :
    ∃ scheduler, ∃ current : JobQueue Unit,
      system.run (overlapping 1 2 ++ [.run 0 10, .run 0 10]) fresh = some scheduler ∧
      (∀ event ∈ overlapping 1 2 ++ [.run 0 10, .run 0 10], Internal event) ∧
      system.Guarded Addressed (overlapping 1 2 ++ [.run 0 10, .run 0 10]) fresh ∧
      scheduler.queues[0]? = some current ∧ current.pushed = [⟨(), 10, 1⟩, ⟨(), 20, 2⟩] ∧
      current.ranDelayed = [⟨(), 10, 1⟩, ⟨(), 10, 1⟩] ∧ ¬ scheduler.ExactlyOnce 0 current := by
  obtain ⟨scheduler, current, reached, object, pushed, entered, inserting, waits, ran⟩ :
      ∃ scheduler, ∃ current : JobQueue Unit,
        system.run (overlapping 1 2 ++ [.run 0 10, .run 0 10]) fresh = some scheduler ∧
        scheduler.queues[0]? = some current ∧ current.pushed = [⟨(), 10, 1⟩, ⟨(), 20, 2⟩] ∧
        current.entered = [] ∧
        scheduler.frames.flatMap (Frame.inserting 0) = [] ∧ current.priorityJobs = [⟨(), 10, 1⟩] ∧
        current.ranDelayed = [⟨(), 10, 1⟩, ⟨(), 10, 1⟩] := ⟨_, _, rfl, rfl, rfl, rfl, rfl, rfl, rfl⟩
  refine ⟨scheduler, current, reached, by decide, by decide, object, pushed, ran, ?_⟩
  have second : (⟨(), 20, 2⟩ : Job Unit) ∈ current.pushed := by simp [pushed]
  refine not_exactlyOnce_of_lost second ?_ ?_
  · simp [entered, inserting, waits]
  · simp [ran]

end Scheduler

/-! ## The loop over the delayed jobs -/

namespace JobQueue

/-- What the loop has run, what it leaves, and the last value that it has read from the clock. -/
structure DelayedRun (Callback : Type) where
  ran : List (Job Callback)
  remaining : List (Job Callback)
  lastTick : Option Nat
deriving Repr, DecidableEq

/-- The loop of `Execute` over `_priorityJobs` while nothing is pushed, with a bound on its
turns.  `clock` gives the values of `GetTickCount64`, one for each turn. -/
def delayedLoop (clock : Nat → Nat) : Nat → Nat → Option Nat → List (Job Callback) →
    Option (DelayedRun Callback)
  | 0, _, _, _ => none
  | turns + 1, reading, lastTick, jobs =>
      match topJob jobs with
      | none => some ⟨[], jobs, lastTick⟩
      | some job =>
          if clock reading < job.executeTick then some ⟨[], jobs, some (clock reading)⟩
          else
            (delayedLoop clock turns (reading + 1) (some (clock reading)) (popJob jobs)).map
                fun later =>
              { later with ran := job :: later.ran }

def executeDelayed (clock : Nat → Nat) (jobs : List (Job Callback)) :
    Option (DelayedRun Callback) :=
  delayedLoop clock (jobs.length + 1) 0 none jobs

/-- The jobs run in the order of their ticks, and what is left is not due. -/
def DelayedRun.InTime (run : DelayedRun Callback) : Prop :=
  run.ran.Pairwise (fun first second => first.executeTick ≤ second.executeTick) ∧
    ∀ job ∈ run.remaining, ∀ tick ∈ run.lastTick, ¬ job.executeTick ≤ tick

theorem topJob_max {jobs : List (Job Callback)} (found : topJob jobs = some top)
    (member : job ∈ jobs) : job.address ≤ top.address := by
  induction jobs generalizing top with
  | nil => simp at member
  | cons first rest ih =>
      simp only [topJob] at found
      cases below : topJob rest with
      | none =>
          rw [below] at found
          cases found
          rw [topJob_eq_none.mp below, List.mem_singleton] at member
          rw [member]
      | some other =>
          simp only [below] at found
          split at found
          · rename_i higher
            cases found
            rcases List.mem_cons.mp member with rfl | later
            · exact Nat.le_refl _
            · exact Nat.le_trans (ih below later) (Nat.le_of_lt higher)
          · rename_i lower
            cases found
            rcases List.mem_cons.mp member with rfl | later
            · exact Nat.le_of_not_lt lower
            · exact ih below later

/-- `Pop` leaves the jobs below the one on top. -/
theorem popJob_below {jobs : List (Job Callback)} {top : Job Callback}
    (distinct : (jobs.map Job.address).Nodup) (found : topJob jobs = some top) :
    jobs.Perm (top :: popJob jobs) ∧ ((popJob jobs).map Job.address).Nodup ∧
      ∀ job ∈ popJob jobs, job.address < top.address := by
  have split := perm_popJob found fun first inFirst second inSecond =>
    List.inj_on_of_nodup_map distinct inFirst inSecond
  have distinctAfter := (split.map Job.address).nodup_iff.mp distinct
  rw [List.map_cons, List.nodup_cons] at distinctAfter
  refine ⟨split, distinctAfter.2, ?_⟩
  intro job member
  have most := topJob_max found (split.symm.subset (List.mem_cons_of_mem top member))
  have different : job.address ≠ top.address := by
    intro same
    exact distinctAfter.1 (same ▸ List.mem_map_of_mem member)
  omega

/-- The loop ends after it has run the jobs from the highest address downwards, up to the first
one that is not due. -/
theorem delayedLoop_spec {clock : Nat → Nat} {jobs : List (Job Callback)}
    (distinct : (jobs.map Job.address).Nodup) (enough : jobs.length < turns) :
    ∃ run : DelayedRun Callback, delayedLoop clock turns reading lastTick jobs = some run ∧
      jobs.Perm (run.ran ++ run.remaining) ∧
      run.ran.Pairwise (fun first second => second.address < first.address) ∧
      (run.remaining = [] ∨ ∃ top place, topJob run.remaining = some top ∧
        run.lastTick = some (clock place) ∧
        clock place < top.executeTick) := by
  induction turns generalizing jobs reading lastTick with
  | zero => omega
  | succ turns ih =>
      simp only [delayedLoop]
      cases found : topJob jobs with
      | none =>
          have empty := topJob_eq_none.mp found
          exact ⟨_, rfl, by simp, by simp, .inl empty⟩
      | some top =>
          dsimp only
          by_cases later : clock reading < top.executeTick
          · rw [if_pos later]
            exact ⟨_, rfl, by simp, by simp, .inr ⟨top, reading, found, rfl, later⟩⟩
          · rw [if_neg later]
            obtain ⟨split, distinctAfter, below⟩ := popJob_below distinct found
            have shorter := split.length_eq
            rw [List.length_cons] at shorter
            obtain ⟨run, looped, all, ordered, ended⟩ : ∃ run : DelayedRun Callback,
                delayedLoop clock turns (reading + 1) (some (clock reading)) (popJob jobs) =
                    some run ∧ _ :=
              ih distinctAfter (by omega)
            refine ⟨{ run with ran := top :: run.ran }, by rw [looped]; rfl, ?_, ?_, ended⟩
            · exact split.trans (all.cons top)
            · refine List.pairwise_cons.mpr ⟨?_, ordered⟩
              intro job member
              exact below job (all.symm.subset (List.mem_append_left _ member))

/-- The steps of a thread that runs through the loop. -/
def delayedEvents (clock : Nat → Nat) (place : Nat) : Nat → Nat → List (Job Callback) →
    List (JobEvent Callback)
  | 0, _, _ => []
  | turns + 1, reading, jobs =>
      let step := .run place (clock reading)
      match topJob jobs with
      | none => [step]
      | some job =>
          if clock reading < job.executeTick then [step, step]
          else [step, step, step, step] ++
            delayedEvents clock place turns (reading + 1) (popJob jobs)

end JobQueue

namespace Scheduler

variable {self : Scheduler Callback} {place queue tick : Nat} {worker next : Worker Callback}
  {rest : List (Frame Callback)} {current : JobQueue Callback}

/-- A thread, and a queue. -/
def Shows (self : Scheduler Callback) (place : Nat) (worker : Worker Callback) (queue : Nat)
    (current : JobQueue Callback) : Prop :=
  self.workers[place]? = some worker ∧ self.queues[queue]? = some current

theorem Shows.put (shows : self.Shows place worker queue current) :
    (self.put place next).Shows place next queue current :=
  ⟨List.getElem?_set_self (List.getElem?_eq_some_iff.mp shows.1).1, shows.2⟩

theorem Shows.change (shows : self.Shows place worker queue current)
    (change : JobQueue Callback → JobQueue Callback) :
    ((self.withQueue queue change).put place next).Shows place next queue (change current) := by
  refine ⟨List.getElem?_set_self (List.getElem?_eq_some_iff.mp shows.1).1, ?_⟩
  change (self.queues.modify queue change)[queue]? = some (change current)
  rw [List.getElem?_modify_eq, shows.2]
  rfl

theorem Shows.executes (shows : self.Shows place worker queue current)
    (stack : worker.frames = .execute queue pc :: rest) :
    system.step (.run place tick) self =
      some (self.advanceExecute place tick worker rest queue current pc) := by
  simp only [system, step, shows.1, Option.bind_some, stack, advance, shows.2, Option.map_some]

theorem Shows.looks (shows : self.Shows place worker queue current)
    (stack : worker.frames = .execute queue (.top jobCount) :: rest)
    (found : JobQueue.topJob current.priorityJobs = some job) :
    ∃ after, system.step (.run place tick) self = some after ∧
      after.Shows place { worker with frames := .execute queue (.tick job jobCount) :: rest }
        queue current := by
  refine ⟨_, shows.executes stack, ?_⟩
  simp only [advanceExecute, found]
  exact shows.put

/-- One turn of the loop: the job on top is due, is run and popped. -/
theorem Shows.turns (shows : self.Shows place worker queue current)
    (stack : worker.frames = .execute queue (.top jobCount) :: rest)
    (found : JobQueue.topJob current.priorityJobs = some job) (due : ¬ tick < job.executeTick) :
    ∃ after, system.run [.run place tick, .run place tick, .run place tick, .run place tick] self =
      some after ∧
      after.Shows place { worker with frames := .execute queue (.top (jobCount + 1)) :: rest }
        queue { current with
          priorityJobs := JobQueue.popJob current.priorityJobs,
          ranDelayed := current.ranDelayed ++ [job] } := by
  obtain ⟨looked, first, atTick⟩ : ∃ after, system.step (.run place tick) self = some after ∧
    _ := shows.looks stack found
  obtain ⟨started, second, running⟩ : ∃ after, system.step (.run place tick) looked = some after ∧
      after.Shows place { worker with
        frames := .execute queue (.runningDelayed job jobCount) :: rest } queue
        { current with ranDelayed := current.ranDelayed ++ [job] } := by
    refine ⟨_, atTick.executes rfl, ?_⟩
    simp only [advanceExecute, due, if_false]
    exact atTick.change fun current => { current with ranDelayed := current.ranDelayed ++ [job] }
  obtain ⟨done, third, atPop⟩ : ∃ after, system.step (.run place tick) started = some after ∧
      after.Shows place { worker with frames := .execute queue (.pop jobCount) :: rest } queue
        { current with ranDelayed := current.ranDelayed ++ [job] } :=
        ⟨_, running.executes rfl, running.put⟩
  refine ⟨_, ?_, atPop.change fun current => { current with
    priorityJobs := JobQueue.popJob current.priorityJobs }⟩
  simp only [System.run, first, second, third, Option.bind_some, atPop.executes rfl]
  rfl

/-- A thread that alone takes steps goes through `Execute` as the loop does. -/
theorem run_delayedEvents {clock : Nat → Nat}
    (looped : JobQueue.delayedLoop clock turns reading lastTick current.priorityJobs = some run)
    (shows : self.Shows place worker queue current)
    (stack : worker.frames = .execute queue (.top jobCount) :: rest) :
    ∃ final, system.run (JobQueue.delayedEvents clock place turns reading current.priorityJobs)
      self = some final ∧
      final.Shows place
        { worker with frames := .execute queue (.fetchSub (jobCount + run.ran.length)) :: rest }
        queue { current with
          priorityJobs := run.remaining, ranDelayed := current.ranDelayed ++ run.ran } := by
  induction turns generalizing self worker current reading jobCount lastTick run with
  | zero => contradiction
  | succ turns ih =>
      simp only [JobQueue.delayedLoop] at looped
      simp only [JobQueue.delayedEvents]
      cases found : JobQueue.topJob current.priorityJobs with
      | none =>
          simp only [found] at looped
          cases looped
          refine ⟨_, System.run_cons_some.mpr ⟨_, shows.executes stack, rfl⟩, ?_⟩
          simp only [advanceExecute, found, List.length_nil, Nat.add_zero, List.append_nil]
          exact shows.put
      | some job =>
          simp only [found] at looped ⊢
          by_cases later : clock reading < job.executeTick
          · rw [if_pos later] at looped ⊢
            cases looped
            obtain ⟨looked, first, atTick⟩ := shows.looks stack found
            refine ⟨_, System.run_cons_some.mpr ⟨looked, first,
              System.run_cons_some.mpr ⟨_, atTick.executes rfl, rfl⟩⟩, ?_⟩
            simp only [advanceExecute, later, if_true, List.length_nil, Nat.add_zero,
              List.append_nil]
            exact atTick.put
          · rw [if_neg later] at looped ⊢
            obtain ⟨behind, continued, rfl⟩ := Option.map_eq_some_iff.mp looped
            obtain ⟨after, turned, atTop⟩ := shows.turns stack found later
            obtain ⟨final, ran, ended⟩ := ih continued atTop rfl
            refine ⟨final, System.run_append_some.mpr ⟨after, turned, ran⟩, ?_⟩
            simp only [List.append_assoc, List.cons_append, List.nil_append, Nat.add_assoc,
              List.length_cons, Nat.add_comm 1] at ended ⊢
            exact ended

end Scheduler

namespace JobQueue

/-- Whatever the clock shows, the delayed jobs run in time if and only if their ticks ascend as
their addresses descend. -/
theorem delayed_in_time_iff (jobs : List (Job Callback)) (distinct : (jobs.map Job.address).Nodup) :
    (∀ clock, Monotone clock → ∃ run, executeDelayed clock jobs = some run ∧ run.InTime) ↔
      ∀ first ∈ jobs, ∀ second ∈ jobs, second.address < first.address →
        first.executeTick ≤ second.executeTick := by
  have loops : ∀ clock : Nat → Nat, _ := fun clock =>
    (delayedLoop_spec distinct (Nat.lt_succ_self _) : ∃ run,
      executeDelayed clock jobs = some run ∧ _)
  constructor
  · intro inTime first inFirst second inSecond higher
    -- a clock that shows every job to be due: all of them run, by their addresses
    obtain ⟨run, looped, all, ordered, ended⟩ := loops fun _ => total Job.executeTick jobs
    obtain ⟨same, returned, ascends, _⟩ :=
      inTime (fun _ => total Job.executeTick jobs) monotone_const
    cases looped.symm.trans returned
    have due : run.remaining = [] := by
      rcases ended with empty | ⟨top, _, onTop, _, early⟩
      · exact empty
      · have member := all.symm.subset (List.mem_append_right _ (topJob_mem onTop))
        exact absurd early (Nat.not_lt.mpr (weight_le_total Job.executeTick member))
    rw [due, List.append_nil] at all
    obtain ⟨left, _, rfl⟩ := List.getElem_of_mem (all.subset inFirst)
    obtain ⟨right, _, rfl⟩ := List.getElem_of_mem (all.subset inSecond)
    rcases Nat.lt_trichotomy left right with before | rfl | after
    · exact List.pairwise_iff_getElem.mp ascends left right _ _ before
    · omega
    · have lower := List.pairwise_iff_getElem.mp ordered right left (by assumption)
        (by assumption) after
      omega
  · intro descends clock _
    obtain ⟨run, looped, all, ordered, ended⟩ := loops clock
    have inside : ∀ job ∈ run.ran ++ run.remaining, job ∈ jobs := fun job member =>
      all.symm.subset member
    refine ⟨run, looped, ?_, ?_⟩
    · refine ordered.imp_of_mem ?_
      intro first second inFirst inSecond higher
      exact descends first (inside first (by simp [inFirst])) second
        (inside second (by simp [inSecond])) higher
    · intro job member tick last
      rcases ended with empty | ⟨top, place, onTop, read, early⟩
      · simp [empty] at member
      · cases read.symm.trans last
        have most := topJob_max onTop member
        have inJobs := inside job (by simp [member])
        have topInJobs := inside top (by simp [topJob_mem onTop])
        by_cases below : job.address < top.address
        · have ordering := descends top topInJobs job inJobs below
          omega
        · have itself := List.inj_on_of_nodup_map distinct inJobs topInJobs (by omega)
          rw [itself]
          omega

theorem delayed_in_time_two_jobs :
    (([⟨(), 9, 1⟩, ⟨(), 5, 2⟩] : List (Job Unit)).map Job.address).Nodup ∧
      ∃ run, executeDelayed (fun _ => 7) [⟨(), 9, 1⟩, ⟨(), 5, 2⟩] = some run ∧ run.InTime :=
  ⟨by decide, (delayed_in_time_iff _ (by decide)).mpr (by decide) (fun _ => 7) monotone_const⟩

/-- At 50, a job that was due at 5 waits behind one for 100 that has the higher address. -/
theorem delayed_job_held_back :
    ∃ run, executeDelayed (fun _ => 50) [⟨(), 5, 1⟩, ⟨(), 100, 2⟩] = some run ∧ run.ran = [] ∧
      run.lastTick = some 50 ∧ ⟨(), 5, 1⟩ ∈ run.remaining := by
  decide

end JobQueue

end ChattingProgram.Core
