import Mathlib.Algebra.Order.Group.Multiset
import ChattingProgram.Core.JobQueue

namespace ChattingProgram.Core

open ChattingProgram.Machine

/-! # The right to execute a queue

The right to execute a queue is a token: a thread that found a count of 0 has it, the
executor has it, or an entry of `GJobQueues` stands for it.  The calls in progress on
all threads form one pool, in which a step replaces one call.

Delayed jobs lie in `_priorityJobs`.  The executor runs the one on top and pops the top
when it is done, so as long as nothing comes on top in between it pops what it has run.
-/

variable {Callback : Type}

namespace JobQueue

theorem topJob_eq_none {jobs : List (Job Callback)} : topJob jobs = none ↔ jobs = [] := by
  cases jobs with
  | nil => simp [topJob]
  | cons job rest =>
      simp only [topJob, reduceCtorEq, iff_false]
      split
      · simp
      · split <;> simp

theorem topJob_mem {jobs : List (Job Callback)} (found : topJob jobs = some top) : top ∈ jobs := by
  induction jobs generalizing top with
  | nil => simp [topJob] at found
  | cons job rest ih =>
      simp only [topJob] at found
      split at found
      · simp_all
      · rename_i other below
        split at found
        · simp_all
        · cases found
          exact List.mem_cons_of_mem _ (ih below)

/-- A job whose address is not larger goes below. -/
theorem topJob_cons {jobs : List (Job Callback)} {job : Job Callback}
    (found : topJob jobs = some top) (below : job.address ≤ top.address) :
    topJob (job :: jobs) = some top := by
  simp only [topJob, found, Nat.not_lt.mpr below, if_false]

/-- Where an address belongs to one job, `Pop` takes away the job on top. -/
theorem perm_popJob {jobs : List (Job Callback)} (found : topJob jobs = some top)
    (addressed : ∀ first ∈ jobs, ∀ second ∈ jobs, first.address = second.address → first = second) :
    jobs.Perm (top :: popJob jobs) := by
  have member := topJob_mem found
  obtain ⟨gone, left, right, _, same, split, erased⟩ :=
    List.exists_of_eraseP (p := fun other => decide (other.address = top.address)) member (by simp)
  have itself : gone = top := addressed gone (by simp [split]) top member (by simpa using same)
  simp only [popJob, found, erased]
  rw [split, itself]
  exact List.perm_middle

end JobQueue

namespace Frame

variable (queue : Nat)

/-- The thread executes the queue. -/
def executing : Frame Callback → Nat
  | .execute _ .globalPush => 0
  | .execute other _ => if other = queue then 1 else 0
  | _ => 0

/-- The thread is about to execute the queue or to push it globally. -/
def about : Frame Callback → Nat
  | .push other _ (.insert 0) | .push other _ .globalPush | .execute other .globalPush =>
      if other = queue then 1 else 0
  | _ => 0

def token (frame : Frame Callback) : Nat := frame.executing queue + frame.about queue

/-- The job that is counted and not inserted. -/
def inserting : Frame Callback → List (Job Callback)
  | .push other job (.insert _) => if other = queue then [job] else []
  | _ => []

/-- How many jobs the executor has taken and not subtracted. -/
def taken : Frame Callback → Nat
  | .execute other (.next _ jobCount) | .execute other (.running _ _ jobCount)
  | .execute other (.top jobCount)
  | .execute other (.tick _ jobCount) | .execute other (.runningDelayed _ jobCount)
  | .execute other (.pop jobCount)
  | .execute other (.fetchSub jobCount) => if other = queue then jobCount else 0
  | _ => 0

/-- The jobs that the executor has taken and not started. -/
def waiting : Frame Callback → List (Job Callback)
  | .execute other (.next rest _) | .execute other (.running _ rest _) =>
      if other = queue then rest else []
  | _ => []

/-- The thread is at a delayed job. -/
def delayed : Frame Callback → Bool
  | .execute other (.tick _ _) | .execute other (.runningDelayed _ _) | .execute other (.pop _) =>
      other = queue
  | _ => false

/-- The thread runs a job of the queue. -/
def runs : Frame Callback → Bool
  | .execute other (.running _ _ _) | .execute other (.runningDelayed _ _) => other = queue
  | _ => false

/-- The job that has been run and is still in `_priorityJobs`, where it is on top. -/
def unpopped (jobs : List (Job Callback)) : Frame Callback → List (Job Callback)
  | .execute other (.runningDelayed _ _) | .execute other (.pop _) =>
      if other = queue then (JobQueue.topJob jobs).toList else []
  | _ => []

/-- What a thread knows at its position: it has counted the jobs that it has not started, and
the delayed job that it is at is on top. -/
def Knows (jobs : List (Job Callback)) : Frame Callback → Prop
  | .execute other (.next rest jobCount) | .execute other (.running _ rest jobCount) =>
      other = queue → rest.length ≤ jobCount
  | .execute other (.tick job _) | .execute other (.runningDelayed job _) =>
      other = queue → JobQueue.topJob jobs = some job
  | .execute other (.pop _) => other = queue → (JobQueue.topJob jobs).isSome
  | _ => True

/-- The queue that a call is about. -/
def subject : Frame Callback → Option Nat
  | .push other _ _ | .execute other _ => some other
  | .excuteGlobalJobs _ => none

/-- The call has nothing of the queue but perhaps its token. -/
def Light (frame : Frame Callback) : Prop :=
  frame.inserting queue = [] ∧ frame.taken queue = 0 ∧ frame.waiting queue = [] ∧
    frame.delayed queue = false

variable {queue}

theorem elsewhere {frame : Frame Callback} (other : frame.subject ≠ some queue) :
    frame.token queue = 0 ∧ frame.Light queue := by
  unfold Light
  cases frame with
  | push place job pc =>
      have different : place ≠ queue := fun same => other (congrArg some same)
      cases pc with
      | insert prevCount =>
          cases prevCount <;> simp [token, executing, about, inserting, taken, waiting,
            delayed, different]
      | _ => simp [token, executing, about, inserting, taken, waiting, delayed, different]
  | execute place pc =>
      have different : place ≠ queue := fun same => other (congrArg some same)
      cases pc with
      | _ => simp [token, executing, about, inserting, taken, waiting, delayed, different]
  | excuteGlobalJobs pc => simp [token, executing, about, inserting, taken, waiting, delayed]

/-- Only the executor has taken jobs. -/
theorem untaken {frame : Frame Callback} (without : frame.token queue = 0) :
    frame.taken queue = 0 ∧ frame.waiting queue = [] ∧ frame.runs queue = false ∧
      frame.delayed queue = false := by
  cases frame with
  | push place job pc => simp [taken, waiting, runs, delayed]
  | excuteGlobalJobs pc => simp [taken, waiting, runs, delayed]
  | execute place pc =>
      cases pc <;> simp_all [token, executing, about, taken, waiting, runs, delayed]

/-- Only a thread at a delayed job looks at what is on top. -/
theorem unpopped_congr {frame : Frame Callback}
    (same : frame.delayed queue = true → JobQueue.topJob jobsAfter = JobQueue.topJob jobs) :
    frame.unpopped queue jobsAfter = frame.unpopped queue jobs := by
  cases frame with
  | push place job pc => rfl
  | excuteGlobalJobs pc => rfl
  | execute place pc =>
      by_cases here : place = queue
      · cases pc with
        | runningDelayed job jobCount => simp [unpopped, same (by simp [delayed, here])]
        | pop jobCount => simp [unpopped, same (by simp [delayed, here])]
        | _ => rfl
      · cases pc <;> simp [unpopped, here]

/-- A thread at a delayed job has one on top. -/
theorem Knows.top {frame : Frame Callback} (knows : frame.Knows queue jobs)
    (atDelayed : frame.delayed queue = true) : ∃ job, JobQueue.topJob jobs = some job := by
  cases frame with
  | push place job pc => contradiction
  | excuteGlobalJobs pc => contradiction
  | execute place pc =>
      cases pc with
      | tick job jobCount => exact ⟨job, knows (of_decide_eq_true atDelayed)⟩
      | runningDelayed job jobCount => exact ⟨job, knows (of_decide_eq_true atDelayed)⟩
      | pop jobCount => exact Option.isSome_iff_exists.mp (knows (of_decide_eq_true atDelayed))
      | _ => contradiction

theorem Knows.congr {frame : Frame Callback} (knows : frame.Knows queue jobs)
    (same : frame.delayed queue = true → JobQueue.topJob jobsAfter = JobQueue.topJob jobs) :
    frame.Knows queue jobsAfter := by
  cases frame with
  | push place job pc => trivial
  | excuteGlobalJobs pc => trivial
  | execute place pc =>
      cases pc with
      | tick job jobCount =>
          intro here
          rw [same (by simp [delayed, here])]
          exact knows here
      | runningDelayed job jobCount =>
          intro here
          rw [same (by simp [delayed, here])]
          exact knows here
      | pop jobCount =>
          intro here
          rw [same (by simp [delayed, here])]
          exact knows here
      | _ => trivial

theorem plain_knows {frame : Frame Callback} (plain : frame.delayed queue = false)
    (idle : frame.waiting queue = []) (jobs : List (Job Callback)) :
    frame.unpopped queue jobs = [] ∧ frame.Knows queue jobs := by
  cases frame with
  | push place job pc => exact ⟨rfl, trivial⟩
  | excuteGlobalJobs pc => exact ⟨rfl, trivial⟩
  | execute place pc => cases pc <;> simp_all [unpopped, Knows, delayed, waiting]

end Frame


/-- What holds of a queue, with the entries of `GJobQueues` and the calls in progress.
`Delayed` is what is known of every job that was put into `_priorityJobs`. -/
structure Timed (Delayed : Job Callback → Prop) (queue : Nat) (globals : List Nat)
    (frames : List (Frame Callback)) (current : JobQueue Callback) : Prop where
  holder : total (Frame.token queue) frames + globals.count queue =
    if current.jobCount = 0 then 0 else 1
  count : current.jobCount = (frames.flatMap (Frame.inserting queue)).length + current.jobs.length +
    current.priorityJobs.length + total (Frame.taken queue) frames
  bounded : current.jobCount ≤ current.pushed.length
  order : current.entered = current.ran ++ frames.flatMap (Frame.waiting queue) ++ current.jobs
  /-- What was pushed and is nowhere any more has been removed from `_priorityJobs`. -/
  pushed : ∃ removed,
    current.pushed.Perm
      (current.entered ++ frames.flatMap (Frame.inserting queue) ++
      current.priorityJobs ++ removed) ∧
    current.ranDelayed.Perm (removed ++ frames.flatMap (Frame.unpopped queue current.priorityJobs))
  addressed : ∀ first ∈ current.priorityJobs, ∀ second ∈ current.priorityJobs,
    first.address = second.address → first = second
  delayed : ∀ job ∈ current.priorityJobs ++ current.ranDelayed, Delayed job
  knows : ∀ frame ∈ frames, frame.Knows queue current.priorityJobs

namespace Timed

variable {Delayed : Job Callback → Prop} {queue : Nat} {globals globalsAfter : List Nat}
  {left right gone come : List (Frame Callback)} {current : JobQueue Callback}

theorem knows_after (timed : Timed Delayed queue globals (left ++ (gone ++ right)) current)
    (top : ∀ frame ∈ come, frame.Knows queue current.priorityJobs) :
    ∀ frame ∈ left ++ (come ++ right), frame.Knows queue current.priorityJobs := by
  intro frame member
  simp only [List.mem_append] at member
  rcases member with inLeft | inCome | inRight
  · exact timed.knows frame (by simp [inLeft])
  · exact top frame inCome
  · exact timed.knows frame (by simp [inRight])

/-- The token may change its place; nothing else does. -/
theorem quiet (timed : Timed Delayed queue globals (left ++ (gone ++ right)) current)
    (token : total (Frame.token queue) come + globalsAfter.count queue =
      total (Frame.token queue) gone + globals.count queue)
    (inserting : come.flatMap (Frame.inserting queue) = gone.flatMap (Frame.inserting queue))
    (taken : total (Frame.taken queue) come = total (Frame.taken queue) gone)
    (waiting : come.flatMap (Frame.waiting queue) = gone.flatMap (Frame.waiting queue))
    (unpopped : come.flatMap (Frame.unpopped queue current.priorityJobs) =
      gone.flatMap (Frame.unpopped queue current.priorityJobs))
    (top : ∀ frame ∈ come, frame.Knows queue current.priorityJobs) :
    Timed Delayed queue globalsAfter (left ++ (come ++ right)) current := by
  constructor
  · rw [← timed.holder]
    simp only [total_append]
    omega
  · rw [timed.count]
    simp only [List.flatMap_append, total_append, inserting, taken]
  · exact timed.bounded
  · rw [timed.order]
    simp only [List.flatMap_append, waiting]
  · obtain ⟨removed, pushed, ran⟩ := timed.pushed
    refine ⟨removed, ?_, ?_⟩
    · simpa only [List.flatMap_append, inserting] using pushed
    · simpa only [List.flatMap_append, unpopped] using ran
  · exact timed.addressed
  · exact timed.delayed
  · exact timed.knows_after top

theorem light (light : ∀ frame ∈ gone, frame.Light queue) :
    gone.flatMap (Frame.inserting queue) = [] ∧ total (Frame.taken queue) gone = 0 ∧
      gone.flatMap (Frame.waiting queue) = [] ∧ ∀ jobs : List (Job Callback),
        gone.flatMap (Frame.unpopped queue jobs) = [] ∧ ∀ frame ∈ gone, frame.Knows queue jobs := by
  refine ⟨List.flatMap_eq_nil_iff.mpr ?_, total_eq_zero.mpr ?_,
    List.flatMap_eq_nil_iff.mpr ?_, fun jobs => ?_⟩
  · exact fun frame member => (light frame member).1
  · exact fun frame member => (light frame member).2.1
  · exact fun frame member => (light frame member).2.2.1
  · have knows : ∀ frame ∈ _, _ := fun frame member =>
      Frame.plain_knows (light frame member).2.2.2 (light frame member).2.2.1 jobs
    exact ⟨List.flatMap_eq_nil_iff.mpr fun frame member => (knows frame member).1,
      fun frame member => (knows frame member).2⟩

theorem none_elsewhere (other : ∀ frame ∈ gone, frame.subject ≠ some queue) :
    total (Frame.token queue) gone = 0 ∧ ∀ frame ∈ gone, frame.Light queue := by
  refine ⟨total_eq_zero.mpr ?_, ?_⟩
  · exact fun frame member => (Frame.elsewhere (other frame member)).1
  · exact fun frame member => (Frame.elsewhere (other frame member)).2

theorem new (unknown : ∀ frame ∈ frames, frame.subject ≠ some queue) (unlisted : queue ∉ globals) :
    Timed Delayed queue globals frames JobQueue.new := by
  obtain ⟨token, unconcerned⟩ := none_elsewhere unknown
  obtain ⟨inserting, taken, waiting, plain⟩ := light unconcerned
  obtain ⟨unpopped, top⟩ := plain []
  constructor
  · rw [token, List.count_eq_zero_of_not_mem unlisted]
    rfl
  · simp [JobQueue.new, inserting, taken]
  · simp [JobQueue.new]
  · simp [JobQueue.new, waiting]
  · exact ⟨[], by simp [JobQueue.new, inserting], by simp [JobQueue.new, unpopped]⟩
  · simp [JobQueue.new]
  · simp [JobQueue.new]
  · exact top

/-- A step about other queues. -/
theorem bystander (timed : Timed Delayed queue globals (left ++ (gone ++ right)) current)
    (before : ∀ frame ∈ gone, frame.subject ≠ some queue)
    (after : ∀ frame ∈ come, frame.subject ≠ some queue)
    (entries : globalsAfter.count queue = globals.count queue) :
    Timed Delayed queue globalsAfter (left ++ (come ++ right)) current := by
  obtain ⟨token, lightBefore⟩ := none_elsewhere before
  obtain ⟨inserting, taken, waiting, plain⟩ := light lightBefore
  obtain ⟨tokenAfter, lightAfter⟩ := none_elsewhere after
  obtain ⟨insertingAfter, takenAfter, waitingAfter, plainAfter⟩ := light lightAfter
  refine timed.quiet ?_ ?_ ?_ ?_ ?_ (plainAfter _).2
  · omega
  · rw [inserting, insertingAfter]
  · omega
  · rw [waiting, waitingAfter]
  · rw [(plain _).1, (plainAfter _).1]

/-- The holder of the token is the only executor. -/
theorem alone (timed : Timed Delayed queue globals (left ++ ([frame] ++ right)) current)
    (holds : frame.token queue = 1) :
    current.jobCount ≠ 0 ∧ globals.count queue = 0 ∧ total (Frame.token queue) (left ++ right) = 0 ∧
      total (Frame.taken queue) (left ++ right) = 0 ∧ left.flatMap (Frame.waiting queue) = [] ∧
      right.flatMap (Frame.waiting queue) = [] := by
  have holder := timed.holder
  simp only [total_append, total_cons, total_nil, holds] at holder
  have counted : current.jobCount ≠ 0 := by
    intro zero
    rw [if_pos zero] at holder
    omega
  rw [if_neg counted] at holder
  have others : total (Frame.token queue) (left ++ right) = 0 := by
    rw [total_append]
    omega
  have without := total_eq_zero.mp others
  refine ⟨counted, by omega, others, total_eq_zero.mpr ?_, List.flatMap_eq_nil_iff.mpr ?_,
    List.flatMap_eq_nil_iff.mpr ?_⟩
  · exact fun frame member => (Frame.untaken (without frame member)).1
  · exact fun frame member => (Frame.untaken (without frame (by simp [member]))).2.1
  · exact fun frame member => (Frame.untaken (without frame (by simp [member]))).2.1

/-- The threads beside the executor have started nothing of the queue. -/
theorem alone_plain (timed : Timed Delayed queue globals (left ++ ([frame] ++ right)) current)
    (holds : frame.token queue = 1) :
    ∀ other, other ∈ left ∨ other ∈ right → ∀ jobs : List (Job Callback),
      other.unpopped queue jobs = [] ∧ other.Knows queue jobs := by
  obtain ⟨_, _, others, _⟩ := timed.alone holds
  intro other member
  obtain ⟨_, idle, _, plain⟩ := Frame.untaken
    (total_eq_zero.mp others other (List.mem_append.mpr member))
  exact Frame.plain_knows plain idle

theorem fetchAdd
    (timed : Timed Delayed queue globals (left ++ ([Frame.push queue job .fetchAdd] ++ right))
      current) :
    Timed Delayed queue globals (left ++
      ([Frame.push queue job (.insert current.jobCount)] ++ right))
      { current with jobCount := current.jobCount + 1, pushed := current.pushed ++ [job] } := by
  have holder := timed.holder
  have count := timed.count
  simp only [total_append, total_cons, total_nil, Frame.token, Frame.executing,
    Frame.about, Frame.taken, Frame.inserting, List.flatMap_append, List.flatMap_cons,
    List.flatMap_nil, List.length_append, List.nil_append] at holder count
  constructor
  · have became : Frame.token queue (.push queue job (.insert current.jobCount)) =
        if current.jobCount = 0 then 1 else 0 := by
      cases current.jobCount <;> simp [Frame.token, Frame.executing, Frame.about]
    simp only [total_append, total_cons, total_nil, became, Nat.add_one_ne_zero, if_false]
    split at holder
    · rename_i zero
      rw [if_pos zero]
      omega
    · rename_i positive
      rw [if_neg positive]
      omega
  · simp only [total_append, total_cons, total_nil, Frame.taken, Frame.inserting,
      List.flatMap_append, List.flatMap_cons, List.flatMap_nil, if_true, List.length_append,
      List.length_singleton,
        List.length_nil]
    omega
  · simpa using timed.bounded
  · simpa [Frame.waiting] using timed.order
  · obtain ⟨removed, pushed, ran⟩ := timed.pushed
    refine ⟨removed, ?_, by simpa [Frame.unpopped] using ran⟩
    rw [← Multiset.coe_eq_coe] at pushed ⊢
    simp only [List.flatMap_append, List.flatMap_cons, List.flatMap_nil, Frame.inserting, if_true,
      List.append_nil, List.nil_append, ← Multiset.coe_add] at pushed ⊢
    rw [pushed]
    ac_rfl
  · exact timed.addressed
  · exact timed.delayed
  · exact timed.knows_after (by simp [Frame.Knows])

/-- The calls that stand for an insertion: the thread that found a count of 0 keeps the token. -/
theorem insert_holder
    (timed : Timed Delayed queue globals
      (left ++ ([Frame.push queue job (.insert prevCount)] ++ right)) current)
    (token : total (Frame.token queue) come = if prevCount = 0 then 1 else 0) :
    total (Frame.token queue) (left ++ (come ++ right)) + globals.count queue =
      if current.jobCount = 0 then 0 else 1 := by
  have became : Frame.token queue (.push queue job (.insert prevCount)) =
      if prevCount = 0 then 1 else 0 := by
    cases prevCount <;> simp [Frame.token, Frame.executing, Frame.about]
  have holder := timed.holder
  simp only [total_append, total_cons, total_nil, became, token] at holder ⊢
  exact holder

/-- The job enters `_jobs`. -/
theorem insert
    (timed : Timed Delayed queue globals
      (left ++ ([Frame.push queue job (.insert prevCount)] ++ right)) current)
    (token : total (Frame.token queue) come = if prevCount = 0 then 1 else 0)
    (unladen : ∀ frame ∈ come, frame.Light queue) :
    Timed Delayed queue globals (left ++ (come ++ right))
      { current with jobs := current.jobs ++ [job], entered := current.entered ++ [job] } := by
  obtain ⟨inserting, taken, waiting, plain⟩ := light unladen
  obtain ⟨unpopped, top⟩ := plain current.priorityJobs
  constructor
  · exact timed.insert_holder token
  · have count := timed.count
    simp only [total_append, total_cons, total_nil, Frame.taken, Frame.inserting,
      List.flatMap_append, List.flatMap_cons, List.flatMap_nil, if_true, List.length_append,
      List.length_singleton, List.length_nil, inserting, taken] at count ⊢
    omega
  · exact timed.bounded
  · have order := timed.order
    simp only [List.flatMap_append, List.flatMap_cons, List.flatMap_nil, Frame.waiting, waiting,
      List.append_nil, List.nil_append] at order ⊢
    rw [order]
    simp only [List.append_assoc]
  · obtain ⟨removed, pushed, ran⟩ := timed.pushed
    refine ⟨removed, ?_, by simpa [Frame.unpopped, unpopped] using ran⟩
    rw [← Multiset.coe_eq_coe] at pushed ⊢
    simp only [List.flatMap_append, List.flatMap_cons, List.flatMap_nil, Frame.inserting,
      if_true, inserting, List.append_nil, List.nil_append, ← Multiset.coe_add] at pushed ⊢
    rw [pushed]
    ac_rfl
  · exact timed.addressed
  · exact timed.delayed
  · exact timed.knows_after top

/-- The job enters `_priorityJobs`, below the job that the executor may be at. -/
theorem delay
    (timed : Timed Delayed queue globals
      (left ++ ([Frame.push queue job (.insert prevCount)] ++ right)) current)
    (token : total (Frame.token queue) come = if prevCount = 0 then 1 else 0)
    (unladen : ∀ frame ∈ come, frame.Light queue) (allowed : Delayed job)
    (addressed : ∀ other ∈ current.priorityJobs, other.address = job.address → other = job)
    (below : ∀ frame ∈ left ++ right, frame.delayed queue = true →
      ∀ top ∈ JobQueue.topJob current.priorityJobs, job.address ≤ top.address) :
    Timed Delayed queue globals (left ++ (come ++ right))
      { current with priorityJobs := job :: current.priorityJobs } := by
  obtain ⟨inserting, taken, waiting, plain⟩ := light unladen
  obtain ⟨unpopped, top⟩ := plain (job :: current.priorityJobs)
  -- what the executor finds on top is what it was
  have same : ∀ frame ∈ left ++ right, frame.delayed queue = true →
      JobQueue.topJob (job :: current.priorityJobs) = JobQueue.topJob current.priorityJobs := by
    intro frame member atDelayed
    have present : frame ∈ left ++ ([Frame.push queue job (.insert prevCount)] ++ right) := by
      rcases List.mem_append.mp member with inLeft | inRight
      · exact List.mem_append_left _ inLeft
      · exact List.mem_append_right _ (List.mem_append_right _ inRight)
    obtain ⟨first, found⟩ := (timed.knows frame present).top atDelayed
    rw [JobQueue.topJob_cons found (below frame member atDelayed first found), found]
  constructor
  · exact timed.insert_holder token
  · have count := timed.count
    simp only [total_append, total_cons, total_nil, Frame.taken, Frame.inserting,
      List.flatMap_append, List.flatMap_cons, List.flatMap_nil, if_true, List.length_append,
      List.length_nil, List.length_cons, inserting, taken] at count ⊢
    omega
  · exact timed.bounded
  · have order := timed.order
    simp only [List.flatMap_append, List.flatMap_cons, List.flatMap_nil, Frame.waiting, waiting,
      List.append_nil, List.nil_append] at order ⊢
    exact order
  · obtain ⟨removed, pushed, ran⟩ := timed.pushed
    refine ⟨removed, ?_, ?_⟩
    · rw [← Multiset.coe_eq_coe] at pushed ⊢
      rw [← List.singleton_append]
      simp only [List.flatMap_append, List.flatMap_cons, List.flatMap_nil, Frame.inserting,
        if_true, inserting, List.append_nil, List.nil_append, ← Multiset.coe_add] at pushed ⊢
      rw [pushed]
      ac_rfl
    · have sameLeft : left.flatMap (Frame.unpopped queue (job :: current.priorityJobs)) =
          left.flatMap (Frame.unpopped queue current.priorityJobs) :=
        List.flatMap_congr fun frame member => Frame.unpopped_congr (same frame (by simp [member]))
      have sameRight : right.flatMap (Frame.unpopped queue (job :: current.priorityJobs)) =
          right.flatMap (Frame.unpopped queue current.priorityJobs) :=
        List.flatMap_congr fun frame member => Frame.unpopped_congr (same frame (by simp [member]))
      simpa [Frame.unpopped, unpopped, sameLeft, sameRight] using ran
  · intro first inFirst second inSecond equal
    rcases List.mem_cons.mp inFirst with rfl | oldFirst
    · rcases List.mem_cons.mp inSecond with rfl | oldSecond
      · rfl
      · exact (addressed second oldSecond equal.symm).symm
    · rcases List.mem_cons.mp inSecond with rfl | oldSecond
      · exact addressed first oldFirst equal
      · exact timed.addressed first oldFirst second oldSecond equal
  · intro other member
    rcases List.mem_cons.mp member with rfl | old
    · exact allowed
    · exact timed.delayed other old
  · intro frame member
    simp only [List.mem_append] at member
    rcases member with inLeft | inCome | inRight
    · exact (timed.knows frame (by simp [inLeft])).congr (same frame (by simp [inLeft]))
    · exact top frame inCome
    · exact (timed.knows frame (by simp [inRight])).congr (same frame (by simp [inRight]))

theorem popAll
    (timed : Timed Delayed queue globals
      (left ++ ([Frame.execute queue .popAll] ++ right)) current) :
    Timed Delayed queue globals
      (left ++ ([Frame.execute queue (.next current.jobs current.jobs.length)] ++ right))
        { current with jobs := [] } := by
  obtain ⟨_, _, _, untaken, leftNone, rightNone⟩ :=
    timed.alone (by simp [Frame.token, Frame.executing, Frame.about])
  constructor
  · simpa [Frame.token, Frame.executing, Frame.about] using timed.holder
  · have count := timed.count
    simp only [total_append, total_cons, total_nil, Frame.taken, Frame.inserting,
      List.flatMap_append, List.flatMap_cons, List.flatMap_nil, if_true, List.length_append,
      List.length_nil] at count untaken ⊢
    omega
  · exact timed.bounded
  · have order := timed.order
    simp only [List.flatMap_append, List.flatMap_cons, List.flatMap_nil, Frame.waiting, leftNone,
      rightNone, if_true, List.append_nil, List.nil_append] at order ⊢
    exact order
  · simpa [Frame.inserting, Frame.unpopped] using timed.pushed
  · exact timed.addressed
  · exact timed.delayed
  · exact timed.knows_after (by simp [Frame.Knows])

theorem start
    (timed : Timed Delayed queue globals
      (left ++ ([Frame.execute queue (.next (job :: rest) jobCount)] ++ right)) current) :
    Timed Delayed queue globals (left ++
      ([Frame.execute queue (.running job rest jobCount)] ++ right))
      { current with ran := current.ran ++ [job] } := by
  obtain ⟨_, _, _, _, leftNone, rightNone⟩ :=
    timed.alone (by simp [Frame.token, Frame.executing, Frame.about])
  constructor
  · simpa [Frame.token, Frame.executing, Frame.about] using timed.holder
  · simpa [Frame.taken, Frame.inserting] using timed.count
  · exact timed.bounded
  · have order := timed.order
    simp only [List.flatMap_append, List.flatMap_cons, List.flatMap_nil, Frame.waiting, leftNone,
      rightNone, if_true, List.append_nil, List.nil_append] at order ⊢
    rw [order]
    simp only [List.append_assoc, List.cons_append, List.nil_append]
  · simpa [Frame.inserting, Frame.unpopped] using timed.pushed
  · exact timed.addressed
  · exact timed.delayed
  · have counted : (job :: rest).length ≤ jobCount :=
      timed.knows (.execute queue (.next (job :: rest) jobCount)) (by simp) rfl
    refine timed.knows_after ?_
    simpa [Frame.Knows] using Nat.le_of_succ_le counted

/-- The job on top is run; it stays in `_priorityJobs` until it is done. -/
theorem startDelayed
    (timed : Timed Delayed queue globals
      (left ++ ([Frame.execute queue (.tick job jobCount)] ++ right)) current) :
    Timed Delayed queue globals (left ++
      ([Frame.execute queue (.runningDelayed job jobCount)] ++ right))
      { current with ranDelayed := current.ranDelayed ++ [job] } := by
  have top : JobQueue.topJob current.priorityJobs = some job :=
    timed.knows (.execute queue (.tick job jobCount)) (by simp) rfl
  constructor
  · simpa [Frame.token, Frame.executing, Frame.about] using timed.holder
  · simpa [Frame.taken, Frame.inserting] using timed.count
  · exact timed.bounded
  · simpa [Frame.waiting] using timed.order
  · obtain ⟨removed, pushed, ran⟩ := timed.pushed
    refine ⟨removed, by simpa [Frame.inserting] using pushed, ?_⟩
    rw [← Multiset.coe_eq_coe] at ran ⊢
    simp only [List.flatMap_append, List.flatMap_cons, List.flatMap_nil,
      Frame.unpopped, if_true, top, Option.toList_some, List.append_nil, List.nil_append,
      ← Multiset.coe_add] at ran ⊢
    rw [ran]
    ac_rfl
  · exact timed.addressed
  · intro other member
    simp only [← List.append_assoc, List.mem_append, List.mem_singleton] at member
    rcases member with old | rfl
    · exact timed.delayed other (List.mem_append.mpr old)
    · exact timed.delayed other (List.mem_append_left _ (JobQueue.topJob_mem top))
  · exact timed.knows_after (by simp [Frame.Knows, top])

/-- The job that was run is still on top and goes. -/
theorem pop {jobCount : Nat}
    (timed : Timed Delayed queue globals (left ++ ([Frame.execute queue (.pop jobCount)] ++ right))
      current) :
    Timed Delayed queue globals (left ++ ([Frame.execute queue (.top (jobCount + 1))] ++ right))
      { current with priorityJobs := JobQueue.popJob current.priorityJobs } := by
  have plain := timed.alone_plain (by simp [Frame.token, Frame.executing, Frame.about])
  obtain ⟨job, top⟩ : ∃ job, JobQueue.topJob current.priorityJobs = some job :=
    Option.isSome_iff_exists.mp (timed.knows (.execute queue (.pop jobCount)) (by simp) rfl)
  have split := JobQueue.perm_popJob top timed.addressed
  have inside : ∀ other ∈ JobQueue.popJob current.priorityJobs, other ∈ current.priorityJobs := by
    intro other member
    exact split.symm.subset (List.mem_cons_of_mem job member)
  have none : ∀ jobs : List (Job Callback), left.flatMap (Frame.unpopped queue jobs) = [] ∧
      right.flatMap (Frame.unpopped queue jobs) = [] := by
    intro jobs
    constructor
    · exact List.flatMap_eq_nil_iff.mpr fun frame member => (plain frame (.inl member) jobs).1
    · exact List.flatMap_eq_nil_iff.mpr fun frame member => (plain frame (.inr member) jobs).1
  constructor
  · simpa [Frame.token, Frame.executing, Frame.about] using timed.holder
  · have count := timed.count
    have shorter := split.length_eq
    simp only [total_append, total_cons, total_nil, Frame.taken, Frame.inserting,
      List.flatMap_append, List.flatMap_cons, List.flatMap_nil, if_true, List.length_append,
      List.length_nil, List.length_cons] at count shorter ⊢
    omega
  · exact timed.bounded
  · simpa [Frame.waiting] using timed.order
  · obtain ⟨removed, pushed, ran⟩ := timed.pushed
    refine ⟨removed ++ [job], ?_, ?_⟩
    · rw [← List.singleton_append] at split
      rw [← Multiset.coe_eq_coe] at pushed split ⊢
      simp only [List.flatMap_append, List.flatMap_cons, List.flatMap_nil, Frame.inserting,
        List.nil_append, ← Multiset.coe_add] at pushed split ⊢
      rw [pushed, split]
      ac_rfl
    · simpa [Frame.unpopped, top, (none _).1, (none _).2] using ran
  · intro first inFirst second inSecond
    exact timed.addressed first (inside first inFirst) second (inside second inSecond)
  · intro other member
    rcases List.mem_append.mp member with remains | old
    · exact timed.delayed other (List.mem_append_left _ (inside other remains))
    · exact timed.delayed other (List.mem_append_right _ old)
  · intro frame member
    simp only [List.mem_append, List.mem_singleton] at member
    rcases member with inLeft | rfl | inRight
    · exact (plain frame (.inl inLeft) _).2
    · trivial
    · exact (plain frame (.inr inRight) _).2

theorem fetchSub
    (timed : Timed Delayed queue globals
      (left ++ ([Frame.execute queue (.fetchSub jobCount)] ++ right)) current)
    (token : total (Frame.token queue) come = if current.jobCount = jobCount then 0 else 1)
    (unladen : ∀ frame ∈ come, frame.Light queue) :
    Timed Delayed queue globals (left ++ (come ++ right)) { current with
      jobCount := current.jobCount - jobCount } := by
  obtain ⟨inserting, taken, waiting, plain⟩ := light unladen
  obtain ⟨unpopped, top⟩ := plain current.priorityJobs
  obtain ⟨positive, unlisted, others, untaken, _, _⟩ :=
    timed.alone (by simp [Frame.token, Frame.executing, Frame.about])
  have count := timed.count
  simp only [total_append, total_cons, total_nil, Frame.taken, Frame.inserting, List.flatMap_append,
    List.flatMap_cons, List.flatMap_nil, if_true, List.length_append, List.length_nil] at count untaken others
  constructor
  · simp only [total_append, token, unlisted]
    by_cases all : current.jobCount = jobCount
    · rw [if_pos all, if_pos (by omega)]
      omega
    · rw [if_neg all, if_neg (by omega)]
      omega
  · simp only [total_append, List.flatMap_append, List.length_append, inserting, taken,
      List.length_nil]
    omega
  · exact (Nat.sub_le _ _).trans timed.bounded
  · simpa [Frame.waiting, waiting] using timed.order
  · simpa [Frame.inserting, inserting, Frame.unpopped, unpopped] using timed.pushed
  · exact timed.addressed
  · exact timed.delayed
  · exact timed.knows_after top

end Timed

namespace Scheduler

/-- The calls in progress on all threads. -/
def frames (self : Scheduler Callback) : List (Frame Callback) := self.workers.flatMap Worker.frames

structure Regular (Delayed : Job Callback → Prop) (scheduler : Scheduler Callback) : Prop where
  timed : ∀ {queue current}, scheduler.queues[queue]? = some current →
    Timed Delayed queue scheduler.globalQueues scheduler.frames current
  known : ∀ frame ∈ scheduler.frames, ∀ queue ∈ frame.subject, queue < scheduler.queues.length
  listed : ∀ queue ∈ scheduler.globalQueues, queue < scheduler.queues.length

variable {Delayed : Job Callback → Prop} {self base : Scheduler Callback} {place queue : Nat}
  {worker next : Worker Callback}
  {rest : List (Frame Callback)} {current : JobQueue Callback}

theorem fresh_regular : (fresh : Scheduler Callback).Regular Delayed := by
  refine ⟨?_, ?_, ?_⟩
  · intro queue current found
    simp [fresh] at found
  · intro frame member
    simp [fresh, frames] at member
  · intro queue member
    simp [fresh] at member

/-- A step of one thread: it replaces the calls on top of its stack. -/
theorem Regular.moved (regular : self.Regular Delayed) (gone come : List (Frame Callback))
    (found : self.workers[place]? = some worker) (stack : worker.frames = gone ++ rest)
    (workers : base.workers = self.workers) (stackAfter : next.frames = come ++ rest)
    (size : base.queues.length = self.queues.length)
    (known : ∀ frame ∈ come, ∀ queue ∈ frame.subject, queue < self.queues.length)
    (listed : ∀ queue ∈ base.globalQueues, queue < self.queues.length)
    (timed : ∀ {left right queue current}, self.frames = left ++ (gone ++ right) →
      base.queues[queue]? = some current →
        Timed Delayed queue base.globalQueues (left ++ (come ++ right)) current) :
    (base.put place next).Regular Delayed := by
  obtain ⟨left, right, before, after⟩ := flatMap_set Worker.frames found
  have split : self.frames = left ++ (gone ++ (rest ++ right)) := by
    rw [frames, before, stack, List.append_assoc]
  have splitAfter : (base.put place next).frames = left ++ (come ++ (rest ++ right)) := by
    rw [frames, put, workers, after next, stackAfter, List.append_assoc]
  refine ⟨?_, ?_, ?_⟩
  · intro queue current object
    rw [splitAfter]
    exact timed split object
  · intro frame member queue subject
    change queue < base.queues.length
    rw [size]
    rw [splitAfter] at member
    simp only [List.mem_append] at member
    rcases member with inLeft | inCome | inRest
    · exact regular.known frame (by simp [split, inLeft]) queue subject
    · exact known frame inCome queue subject
    · exact regular.known frame (by simp [split, inRest]) queue subject
  · intro queue member
    change queue < base.queues.length
    rw [size]
    exact listed queue member

/-- A step about one queue. -/
theorem Regular.act (regular : self.Regular Delayed) (gone come : List (Frame Callback))
    (found : self.workers[place]? = some worker) (stack : worker.frames = gone ++ rest)
    (object : self.queues[queue]? = some current) {change : JobQueue Callback → JobQueue Callback}
    (workers : base.workers = self.workers)
    (queues : base.queues = self.queues.modify queue change)
    (global : base.globalQueues = globals) (stackAfter : next.frames = come ++ rest)
    (before : ∀ frame ∈ gone, ∀ other ∈ frame.subject, other = queue)
    (after : ∀ frame ∈ come, ∀ other ∈ frame.subject, other = queue)
    (entries : ∀ other, other ≠ queue → globals.count other = self.globalQueues.count other)
    (own : ∀ {left right}, self.frames = left ++ (gone ++ right) →
      Timed Delayed queue self.globalQueues (left ++ (gone ++ right)) current →
      Timed Delayed queue globals (left ++ (come ++ right)) (change current)) :
    (base.put place next).Regular Delayed := by
  have within := (List.getElem?_eq_some_iff.mp object).1
  refine regular.moved gone come found stack workers stackAfter
    (by rw [queues, List.length_modify]) ?_ ?_ ?_
  · intro frame member other subject
    rw [after frame member other subject]
    exact within
  · intro other member
    by_cases same : other = queue
    · rw [same]
      exact within
    · rw [global, ← List.count_pos_iff, entries other same, List.count_pos_iff] at member
      exact regular.listed other member
  · intro left right other changed split foundAfter
    rw [queues, List.getElem?_modify] at foundAfter
    rw [global]
    by_cases same : queue = other
    · subst same
      simp only [if_true, object, Option.map_eq_map, Option.map_some] at foundAfter
      cases foundAfter
      have timed := regular.timed object
      rw [split] at timed
      exact own split timed
    · obtain ⟨unchanged, foundBefore, rfl⟩ := Option.map_eq_some_iff.mp foundAfter
      rw [if_neg same]
      have timed := regular.timed foundBefore
      rw [split] at timed
      refine timed.bystander ?_ ?_ (entries other (Ne.symm same))
      · intro frame member subject
        exact same (before frame member other subject).symm
      · intro frame member subject
        exact same (after frame member other subject).symm

/-- A step inside one call that leaves the queue and `GJobQueues` alone. -/
theorem Regular.proceeds (regular : self.Regular Delayed)
    (found : self.workers[place]? = some worker) (stack : worker.frames = frame :: rest)
    (object : self.queues[queue]? = some current) (stackAfter : next.frames = frameAfter :: rest)
    (before : frame.subject = some queue) (after : frameAfter.subject = some queue)
    (token : frameAfter.token queue = frame.token queue)
    (inserting : frameAfter.inserting queue = frame.inserting queue)
    (taken : frameAfter.taken queue = frame.taken queue)
    (waiting : frameAfter.waiting queue = frame.waiting queue)
    (unpopped : frameAfter.unpopped queue current.priorityJobs =
      frame.unpopped queue current.priorityJobs)
    (top : frame.Knows queue current.priorityJobs → frameAfter.Knows queue current.priorityJobs) :
    (self.put place next).Regular Delayed := by
  refine regular.act [frame] [frameAfter] found stack object rfl
    (List.modify_id ..).symm rfl stackAfter ?_ ?_ (fun _ _ => rfl) ?_
  · simp [before]
  · simp [after]
  · intro left right _ timed
    refine timed.quiet ?_ ?_ ?_ ?_ ?_ ?_
    · simp [token]
    · simp [inserting]
    · simp [taken]
    · simp [waiting]
    · simp [unpopped]
    · simpa using top (timed.knows frame (by simp))

/-- The thread hands its token to an entry of `GJobQueues` and returns. -/
theorem Regular.handsOver (regular : self.Regular Delayed)
    (found : self.workers[place]? = some worker) (stack : worker.frames = frame :: rest)
    (object : self.queues[queue]? = some current) (stackAfter : next.frames = rest)
    (before : frame.subject = some queue) (token : frame.token queue = 1)
    (inserting : frame.inserting queue = []) (taken : frame.taken queue = 0)
    (waiting : frame.waiting queue = []) (plain : frame.delayed queue = false) :
    ((self.addGlobal queue).put place next).Regular Delayed := by
  refine regular.act [frame] [] found stack object rfl (List.modify_id ..).symm rfl stackAfter
    ?_ (by simp) ?_ ?_
  · simp [before]
  · intro other different
    simp [addGlobal, Ne.symm different]
  · intro left right _ timed
    refine timed.quiet ?_ ?_ ?_ ?_ ?_ (by simp)
    · simp [addGlobal, token, Nat.add_comm]
    · simp [inserting]
    · simp [taken]
    · simp [waiting]
    · simp [(Frame.plain_knows plain waiting current.priorityJobs).1]

/-- What `_priorityJobs` asks of a job that is put into it: it meets `Delayed`, its address is
its own, and it does not come on top of the job that the executor is at. -/
def Admits (Delayed : Job Callback → Prop) (self : Scheduler Callback) (queue : Nat)
    (job : Job Callback) : Prop :=
  ∀ current ∈ self.queues[queue]?, Delayed job ∧
    (∀ other ∈ current.priorityJobs, other.address = job.address → other = job) ∧
    ∀ frame ∈ self.frames, frame.delayed queue = true →
      ∀ top ∈ JobQueue.topJob current.priorityJobs, job.address ≤ top.address

theorem advancePush_regular (regular : self.Regular Delayed)
    (found : self.workers[place]? = some worker)
    (stack : worker.frames = .push queue job pc :: rest)
    (object : self.queues[queue]? = some current)
    (admits : ∀ prevCount, pc = .insert prevCount → tick < job.executeTick →
      self.Admits Delayed queue job) :
    (self.advancePush place tick worker rest queue current job pc).Regular Delayed := by
  cases pc with
  | fetchAdd =>
      refine regular.act [.push queue job .fetchAdd]
        [.push queue job (.insert current.jobCount)] found stack
        object rfl rfl rfl rfl ?_ ?_ (fun _ _ => rfl) (fun _ => Timed.fetchAdd)
      · simp [Frame.subject]
      · simp [Frame.subject]
  | insert prevCount =>
      have inserts : ∀ (come : List (Frame Callback)) {next : Worker Callback},
          next.frames = come ++ rest → (∀ frame ∈ come, ∀ other ∈ frame.subject, other = queue) →
          total (Frame.token queue) come = (if prevCount = 0 then 1 else 0) →
          (∀ frame ∈ come, frame.Light queue) →
          ((self.withQueue queue fun current =>
            if job.executeTick ≤ tick then
              { current with jobs := current.jobs ++ [job], entered := current.entered ++ [job] }
            else { current with priorityJobs := job :: current.priorityJobs }).put place
                next).Regular Delayed := by
        intro come next stackAfter after token unladen
        refine regular.act [.push queue job (.insert prevCount)] come found stack object rfl rfl rfl
          stackAfter ?_ after (fun _ _ => rfl) ?_
        · simp [Frame.subject]
        · intro left right split timed
          by_cases due : job.executeTick ≤ tick
          · rw [if_pos due]
            exact timed.insert token unladen
          · rw [if_neg due]
            obtain ⟨allowed, addressed, below⟩ :=
              admits prevCount rfl (Nat.lt_of_not_le due) current object
            refine timed.delay token unladen allowed addressed ?_
            intro frame member
            refine below frame ?_
            rw [split]
            simp only [List.mem_append] at member ⊢
            tauto
      simp only [advancePush]
      split
      · rename_i first
        split
        · refine inserts [.execute queue .popAll] rfl ?_ ?_ ?_
          · simp [Frame.subject]
          · simp [Frame.token, Frame.executing, Frame.about, first]
          · simp [Frame.Light, Frame.inserting, Frame.taken, Frame.waiting, Frame.delayed]
        · refine inserts [.push queue job .globalPush] rfl ?_ ?_ ?_
          · simp [Frame.subject]
          · simp [Frame.token, Frame.executing, Frame.about, first]
          · simp [Frame.Light, Frame.inserting, Frame.taken, Frame.waiting, Frame.delayed]
      · rename_i later
        exact inserts [] rfl (by simp) (by simp [later]) (by simp)
  | globalPush =>
      refine regular.handsOver found stack object rfl rfl ?_ rfl rfl rfl rfl
      simp [Frame.token, Frame.executing, Frame.about]

theorem advanceExecute_regular (regular : self.Regular Delayed)
    (found : self.workers[place]? = some worker)
    (stack : worker.frames = .execute queue pc :: rest)
    (object : self.queues[queue]? = some current) :
    (self.advanceExecute place tick worker rest queue current pc).Regular Delayed := by
  cases pc with
  | popAll =>
      refine regular.act [.execute queue .popAll]
        [.execute queue (.next current.jobs current.jobs.length)] found stack
        object rfl rfl rfl rfl ?_ ?_ (fun _ _ => rfl) (fun _ => Timed.popAll)
      · simp [Frame.subject]
      · simp [Frame.subject]
  | next jobs jobCount =>
      cases jobs with
      | nil =>
          exact regular.proceeds found stack object rfl rfl rfl rfl rfl rfl
            (by simp [Frame.waiting]) rfl (fun _ => trivial)
      | cons job jobs =>
          refine regular.act [.execute queue (.next (job :: jobs) jobCount)]
            [.execute queue (.running job jobs jobCount)] found stack object rfl rfl rfl rfl ?_ ?_
            (fun _ _ => rfl) (fun _ => Timed.start)
          · simp [Frame.subject]
          · simp [Frame.subject]
  | running job jobs jobCount =>
      exact regular.proceeds found stack object rfl rfl rfl rfl rfl rfl rfl rfl (fun knows => knows)
  | top jobCount =>
      simp only [advanceExecute]
      split
      · exact regular.proceeds found stack object rfl rfl rfl rfl rfl rfl rfl rfl (fun _ => trivial)
      · rename_i job top
        exact regular.proceeds found stack object rfl rfl rfl rfl rfl rfl rfl rfl (fun _ _ => top)
  | tick job jobCount =>
      simp only [advanceExecute]
      split
      · exact regular.proceeds found stack object rfl rfl rfl rfl rfl rfl rfl rfl (fun _ => trivial)
      · refine regular.act [.execute queue (.tick job jobCount)]
          [.execute queue (.runningDelayed job jobCount)] found
          stack object rfl rfl rfl rfl ?_ ?_ (fun _ _ => rfl) (fun _ => Timed.startDelayed)
        · simp [Frame.subject]
        · simp [Frame.subject]
  | runningDelayed job jobCount =>
      refine regular.proceeds found stack object rfl rfl rfl rfl rfl rfl rfl rfl ?_
      intro knows here
      rw [knows here]
      rfl
  | pop jobCount =>
      refine regular.act [.execute queue (.pop jobCount)] [.execute queue (.top (jobCount + 1))]
        found stack object rfl rfl rfl rfl ?_ ?_ (fun _ _ => rfl) (fun _ => Timed.pop)
      · simp [Frame.subject]
      · simp [Frame.subject]
  | fetchSub jobCount =>
      simp only [advanceExecute]
      split
      · rename_i all
        refine regular.act [.execute queue (.fetchSub jobCount)] [] found stack object rfl rfl rfl
          rfl ?_ (by simp) (fun _ _ => rfl) fun _ timed => timed.fetchSub (by simp [all]) (by simp)
        simp [Frame.subject]
      · rename_i more
        refine regular.act [.execute queue (.fetchSub jobCount)] [.execute queue .endTick] found
          stack object rfl rfl rfl rfl ?_ ?_ (fun _ _ => rfl) fun _ timed => timed.fetchSub ?_ ?_
        · simp [Frame.subject]
        · simp [Frame.subject]
        · simp [Frame.token, Frame.executing, Frame.about, more]
        · simp [Frame.Light, Frame.inserting, Frame.taken, Frame.waiting, Frame.delayed]
  | endTick =>
      simp only [advanceExecute]
      split
      · refine regular.proceeds found stack object rfl rfl rfl ?_ rfl rfl rfl rfl (fun _ => trivial)
        simp [Frame.token, Frame.executing, Frame.about]
      · exact regular.proceeds found stack object rfl rfl rfl rfl rfl rfl rfl rfl (fun _ => trivial)
  | globalPush =>
      refine regular.handsOver found stack object rfl rfl ?_ rfl rfl rfl rfl
      simp [Frame.token, Frame.executing, Frame.about]

/-- A step of a thread that is about no queue. -/
theorem Regular.bystands (regular : self.Regular Delayed) (gone come : List (Frame Callback))
    (found : self.workers[place]? = some worker) (stack : worker.frames = gone ++ rest)
    (stackAfter : next.frames = come ++ rest) (before : ∀ frame ∈ gone, frame.subject = none)
    (after : ∀ frame ∈ come, frame.subject = none) : (self.put place next).Regular Delayed := by
  refine regular.moved gone come found stack rfl stackAfter rfl ?_ regular.listed ?_
  · intro frame member queue subject
    rw [after frame member] at subject
    contradiction
  · intro left right queue current split object
    have timed := regular.timed object
    rw [split] at timed
    refine timed.bystander ?_ ?_ rfl
    · simp +contextual [before]
    · simp +contextual [after]

theorem advanceGlobal_regular (regular : self.Regular Delayed)
    (found : self.workers[place]? = some worker)
    (stack : worker.frames = .excuteGlobalJobs pc :: rest) :
    (self.advanceGlobal place tick worker rest pc).Regular Delayed := by
  cases pc with
  | pop =>
      simp only [advanceGlobal]
      split
      · exact regular.bystands [.excuteGlobalJobs .pop] [] found stack rfl
          (by simp [Frame.subject]) (by simp)
      · rename_i queue others entries
        have within : queue < self.queues.length := regular.listed queue (by simp [entries])
        refine regular.act [.excuteGlobalJobs .pop]
          [.execute queue .popAll, .excuteGlobalJobs .endTick] found stack
          (List.getElem?_eq_getElem within) rfl (List.modify_id ..).symm rfl rfl ?_ ?_ ?_ ?_
        · simp [Frame.subject]
        · simp [Frame.subject]
        · intro other different
          simp [entries, Ne.symm different]
        · intro left right _ timed
          refine timed.quiet ?_ ?_ ?_ ?_ ?_ ?_
          · simp [Frame.token, Frame.executing, Frame.about, entries, Nat.add_comm]
          · simp [Frame.inserting]
          · simp [Frame.taken]
          · simp [Frame.waiting]
          · simp [Frame.unpopped]
          · simp [Frame.Knows]
  | endTick =>
      simp only [advanceGlobal]
      split
      · exact regular.bystands [.excuteGlobalJobs .endTick] [] found stack rfl
          (by simp [Frame.subject]) (by simp)
      · refine regular.bystands [.excuteGlobalJobs .endTick] [.excuteGlobalJobs .pop]
          found stack rfl ?_ ?_
        · simp [Frame.subject]
        · simp [Frame.subject]

end Scheduler

/-- The job that the next step of the thread puts into `_priorityJobs`, and the queue. -/
def Worker.delays (tick : Nat) (worker : Worker Callback) : Option (Nat × Job Callback) :=
  match worker.frames with
  | .push queue job (.insert _) :: _ => if job.executeTick ≤ tick then none else some (queue, job)
  | _ => none

namespace Scheduler

/-- `GlobalPush` is called by `Push` and `Execute` only, and what is put into `_priorityJobs`
is admitted there. -/
def Timely (Delayed : Job Callback → Prop) : JobEvent Callback → Scheduler Callback → Prop
  | .globalPush _ _, _ => False
  | .run place tick, self =>
      ∀ worker ∈ self.workers[place]?, ∀ entry ∈ worker.delays tick,
        self.Admits Delayed entry.1 entry.2
  | _, _ => True

variable {Delayed : Job Callback → Prop} {self after : Scheduler Callback} {place queue : Nat}
  {worker : Worker Callback}

theorem call_regular (regular : self.Regular Delayed)
    (called : self.call place frame = some after)
    (known : ∀ queue ∈ frame.subject, queue < self.queues.length)
    (blank : ∀ queue, frame.token queue = 0 ∧ frame.Light queue) : after.Regular Delayed := by
  obtain ⟨worker, found, called⟩ := Option.bind_eq_some_iff.mp called
  split at called
  · cases called
    refine regular.moved [] [frame] found rfl rfl rfl rfl ?_ regular.listed ?_
    · simpa using known
    · intro left right queue current split object
      have timed := regular.timed object
      rw [split] at timed
      obtain ⟨token, inserting, taken, waiting, plain⟩ := blank queue
      obtain ⟨unpopped, top⟩ := Frame.plain_knows plain waiting current.priorityJobs
      refine timed.quiet ?_ ?_ ?_ ?_ ?_ ?_
      · simp [token]
      · simp [inserting]
      · simp [taken]
      · simp [waiting]
      · simp [unpopped]
      · simpa using top
  · contradiction

theorem step_regular (timely : Timely Delayed event self)
    (stepped : system.step event self = some after) (regular : self.Regular Delayed) :
    after.Regular Delayed := by
  cases event with
  | spawn =>
      cases stepped
      have same : (⟨self.queues, self.globalQueues, self.workers ++ [⟨none, 0, []⟩]⟩ :
          Scheduler Callback).frames = self.frames := by
        simp [frames]
      constructor
      · rw [same]
        exact regular.timed
      · rw [same]
        exact regular.known
      · exact regular.listed
  | newQueue =>
      cases stepped
      constructor
      · intro queue current found
        rcases getElem?_concat_cases found with before | ⟨rfl, rfl⟩
        · exact regular.timed before
        · refine Timed.new ?_ ?_
          · intro frame member subject
            exact Nat.lt_irrefl _ (regular.known frame member _ subject)
          · intro listed
            exact Nat.lt_irrefl _ (regular.listed _ listed)
      · intro frame member queue subject
        have known := regular.known frame member queue subject
        simp only [List.length_append, List.length_singleton]
        omega
      · intro queue member
        have listed := regular.listed queue member
        simp only [List.length_append, List.length_singleton]
        omega
  | setEndTick place tick =>
      obtain ⟨worker, found, stepped⟩ := Option.bind_eq_some_iff.mp stepped
      split at stepped
      · cases stepped
        exact regular.bystands [] [] found rfl rfl (by simp) (by simp)
      · contradiction
  | push place queue job =>
      simp only [system, step] at stepped
      split at stepped
      · rename_i within
        refine call_regular regular stepped (by simpa [Frame.subject] using within) ?_
        intro other
        exact ⟨rfl, rfl, rfl, rfl, rfl⟩
      · contradiction
  | globalPush place queue => contradiction
  | excuteGlobalJobs place =>
      refine call_regular regular stepped (by simp [Frame.subject]) ?_
      intro other
      exact ⟨rfl, rfl, rfl, rfl, rfl⟩
  | run place tick =>
      obtain ⟨worker, found, stepped⟩ := Option.bind_eq_some_iff.mp stepped
      have admits := timely worker found
      split at stepped
      · contradiction
      · rename_i frame rest stack
        cases frame with
        | push queue job pc =>
            obtain ⟨current, object, rfl⟩ := Option.map_eq_some_iff.mp stepped
            refine advancePush_regular regular found stack object ?_
            rintro prevCount rfl later
            exact admits (queue, job) (by simp [Worker.delays, stack, Nat.not_le.mpr later])
        | execute queue pc =>
            obtain ⟨current, object, rfl⟩ := Option.map_eq_some_iff.mp stepped
            exact advanceExecute_regular regular found stack object
        | excuteGlobalJobs pc =>
            cases stepped
            exact advanceGlobal_regular regular found stack

theorem run_regular (timely : system.Guarded (Timely Delayed) events fresh)
    (ran : system.run events fresh = some self) : self.Regular Delayed :=
  System.run_preserves_guarded step_regular timely ran fresh_regular

/-- `_jobCount` is an `atomic<uint32_t>`: while fewer than 2^32 jobs have been pushed,
`fetch_add` does not wrap, and `fetch_sub` never takes more than is counted. -/
theorem jobCount_fits (timely : system.Guarded (Timely Delayed) events fresh)
    (ran : system.run events fresh = some self) (object : self.queues[queue]? = some current)
    (few : current.pushed.length < 2 ^ 32) :
    current.jobCount < 2 ^ 32 ∧ ∀ frame ∈ self.frames, frame.taken queue ≤ current.jobCount := by
  have timed := (run_regular timely ran).timed object
  refine ⟨Nat.lt_of_le_of_lt timed.bounded few, ?_⟩
  intro frame member
  rw [timed.count]
  exact Nat.le_add_left_of_le (weight_le_total (Frame.taken queue) member)

end Scheduler

end ChattingProgram.Core
