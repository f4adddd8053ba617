import ChattingProgram.Server.Workers

namespace ChattingProgram.Server.Workers

open ChattingProgram.Machine

/-! # The order of the locks

Login, create, service and room locks are taken with nothing held, the lock of
`RoomHandler` and of a session under a room's, and the locks of the queues, the
connection pool and the send buffer manager under any of these.
-/

def rank : ServerLock → Nat
  | .login | .create | .service | .room _ => 0
  | .roomHandler | .session _ => 1
  | .sendBufferManager | .dbConnectionPool | .jobs _ | .priorityJobs _ | .globalJobQueues => 2

theorem rank_le (lock : ServerLock) : rank lock ≤ 2 := by
  cases lock <;> simp [rank]

variable {locks : List ServerLock}

theorem optional_ordered : (optional code).Ordered rank locks ↔ code.Ordered rank locks := by
  simp [optional, Code.Ordered]

theorem work_ordered : work.Ordered rank locks := trivial

theorem query_ordered : query.Ordered rank locks := trivial

/-- A scope that calls nothing may take a lock above all that are held. -/
theorem leaf_ordered (below : ∀ other ∈ locks, rank other < rank lock) :
    (Code.guard lock (.op op)).Ordered rank locks := ⟨.inr below, trivial⟩

/-! ## Send buffers and sessions -/

/-- Nothing but login, create, service, room, `RoomHandler` and session locks is held. -/
def Inner (locks : List ServerLock) : Prop := ∀ other ∈ locks, rank other < 2

theorem dropBuffers_ordered (inner : Inner locks) : dropBuffers.Ordered rank locks :=
  leaf_ordered inner

theorem makeSendBuffer_ordered (inner : Inner locks) : makeSendBuffer.Ordered rank locks := by
  have chunk : popChunk.Ordered rank locks := leaf_ordered inner
  have drop := dropBuffers_ordered inner
  simp [makeSendBuffer, openBuffer, Code.ordered_block, optional_ordered, chunk, drop, work_ordered]

theorem handleError_ordered : handleError.Ordered rank locks := by
  simp [handleError, disconnect, Code.ordered_block, optional_ordered, work_ordered]

theorem registerSend_ordered (inner : Inner locks)
    (takes : .session session ∈ locks ∨ ∀ other ∈ locks, rank other < 1) :
    (registerSend session).Ordered rank locks := by
  have drain : (Code.guard (.session session) (.loop work)).Ordered rank locks := ⟨takes, trivial⟩
  have drop := dropBuffers_ordered inner
  simp [registerSend, Code.ordered_block, optional_ordered, drain, drop, work_ordered,
    handleError_ordered]

theorem Inner.of_outer (outer : ∀ other ∈ locks, rank other < 1) : Inner locks := by
  intro other member
  have low := outer other member
  omega

theorem send_ordered (outer : ∀ other ∈ locks, rank other < 1) :
    (send session).Ordered rank locks := by
  have inner := Inner.of_outer outer
  have section' : (Code.guard (.session session) work).Ordered rank locks := leaf_ordered outer
  have registers : (registerSend session).Ordered rank locks :=
    registerSend_ordered inner (.inr outer)
  have drop := dropBuffers_ordered inner
  simp [send, Code.ordered_block, optional_ordered, section', registers, drop]

/-- `RegisterSend` is called under the lock of the session and takes it again. -/
theorem processSend_ordered (session : Nat) : (processSend session).Ordered rank [] := by
  have registers : (registerSend session).Ordered rank [.session session] :=
    registerSend_ordered (by simp [Inner, rank]) (.inl (by simp))
  have drop : dropBuffers.Ordered rank [] := dropBuffers_ordered (by simp [Inner])
  simp [processSend, disconnect, Code.ordered_block, Code.Ordered, optional_ordered, work_ordered,
    drop, registers]

/-! ## Rooms -/

/-- A broadcast is the outermost call on its room or comes from `RemoveUser`. -/
theorem broadCast_ordered (takes : locks = [] ∨ locks = [.room room]) :
    (broadCast room).Ordered rank locks := by
  have outer : ∀ other ∈ .room room :: locks, rank other < 1 := by
    rcases takes with rfl | rfl <;> simp [rank]
  have make := makeSendBuffer_ordered (Inner.of_outer outer)
  refine ⟨by rcases takes with rfl | rfl <;> simp, ?_⟩
  intro user
  simp only [optional_ordered, Code.ordered_block, List.mem_cons, List.not_mem_nil, or_false,
    forall_eq_or_imp, forall_eq]
  exact ⟨make, send_ordered outer⟩

theorem addUser_ordered (room : Nat) : (addUser room).Ordered rank [] := by
  have drop : dropBuffers.Ordered rank [.room room] := dropBuffers_ordered (by simp [Inner, rank])
  simp [addUser, Code.Ordered, optional_ordered, Code.ordered_block, work_ordered, drop]

theorem removeUser_ordered (room : Nat) : (removeUser room).Ordered rank [] := by
  have inner : Inner [.room room] := by simp [Inner, rank]
  have pops : pop.Ordered rank [.room room] := leaf_ordered inner
  have pushes : push.Ordered rank [.room room] := leaf_ordered inner
  have drop := dropBuffers_ordered inner
  have removes : removeRoom.Ordered rank [.room room] := leaf_ordered (by simp [rank])
  have casts : (broadCast room).Ordered rank [.room room] := broadCast_ordered (.inr rfl)
  simp [removeUser, Code.Ordered, optional_ordered, Code.ordered_block, work_ordered,
    query_ordered, pops, pushes, drop, removes, casts]

/-! ## Handlers -/

theorem reply_ordered (session : Nat) : (reply session).Ordered rank [] := by
  have make : makeSendBuffer.Ordered rank [] := makeSendBuffer_ordered (by simp [Inner])
  have sends : (send session).Ordered rank [] := send_ordered (by simp)
  simp [reply, Code.ordered_block, make, sends]

theorem respond_ordered : (respond body).Ordered rank [] ↔ body.Ordered rank [] := by
  have pops : pop.Ordered rank [] := leaf_ordered (by simp)
  have pushes : push.Ordered rank [] := leaf_ordered (by simp)
  simp [respond, Code.ordered_block, Code.Ordered, pops, pushes]

theorem job_ordered : job.Ordered rank [] := by
  intro session kind
  have replies := reply_ordered session
  have lists : addRoom.Ordered rank [] := leaf_ordered (by simp)
  have makes : ∀ room, (makeRoom room).Ordered rank [] := fun room => leaf_ordered (by simp)
  have casts : ∀ room, (broadCast room).Ordered rank [] := fun room => broadCast_ordered (.inl rfl)
  have logs : (login session).Ordered rank [] := by
    simp [login, respond_ordered, Code.ordered_block, Code.Ordered, optional_ordered,
      query_ordered, work_ordered, replies]
  have registers : (register session).Ordered rank [] := by
    simp [register, respond_ordered, Code.ordered_block, query_ordered, replies]
  have creates : (createRoom session).Ordered rank [] := by
    simp [createRoom, respond_ordered, Code.ordered_block, Code.Ordered,
      optional_ordered, query_ordered, work_ordered, replies, lists, makes]
  have joins : (joinRoom session).Ordered rank [] := by
    simp [joinRoom, respond_ordered, Code.ordered_block, Code.Ordered,
      optional_ordered, query_ordered, work_ordered, replies, casts, addUser_ordered]
  have chats : chatLog.Ordered rank [] := by
    simp [chatLog, respond_ordered, Code.ordered_block, Code.Ordered, query_ordered,
      work_ordered, casts]
  have leaves : (roomOut session).Ordered rank [] := by
    simp [roomOut, respond_ordered, Code.ordered_block, Code.Ordered, query_ordered,
      work_ordered, replies, removeUser_ordered]
  beta_reduce
  split
  · exact logs
  · exact registers
  · exact registers
  · exact creates
  · exact joins
  · exact chats
  · exact leaves

theorem processDisconnect_ordered : processDisconnect.Ordered rank [] := by
  have pops : pop.Ordered rank [] := leaf_ordered (by simp)
  have pushes : push.Ordered rank [] := leaf_ordered (by simp)
  have drop : dropBuffers.Ordered rank [] := dropBuffers_ordered (by simp [Inner])
  have dropUnder : dropBuffers.Ordered rank [.service] :=
    dropBuffers_ordered (by simp [Inner, rank])
  simp [processDisconnect, onDisconnected, releaseSession, Code.ordered_block, Code.Ordered,
    optional_ordered, query_ordered, work_ordered, pops, pushes, drop, dropUnder,
    removeUser_ordered]

/-! ## The worker -/

theorem executeJobs_ordered (queue : Nat) : (executeJobs queue).Ordered rank [] := by
  have drop : dropBuffers.Ordered rank [] := dropBuffers_ordered (by simp [Inner])
  simp [executeJobs, popAll, globalPush, Code.ordered_block, Code.Ordered, optional_ordered,
    work_ordered, drop, job_ordered]

theorem handlePacket_ordered : handlePacket.Ordered rank [] := by
  have drop : dropBuffers.Ordered rank [] := dropBuffers_ordered (by simp [Inner])
  simp [handlePacket, pushJob, globalPush, Code.ordered_block, Code.Ordered, optional_ordered,
    work_ordered, drop, executeJobs_ordered]

theorem processConnect_ordered : processConnect.Ordered rank [] := by
  simp [processConnect, addSession, registerRecv, Code.ordered_block, Code.Ordered,
    optional_ordered, work_ordered, handleError_ordered]

theorem processRecv_ordered : processRecv.Ordered rank [] := by
  simp [processRecv, disconnect, registerRecv, Code.ordered_block, Code.Ordered,
    optional_ordered, work_ordered, handleError_ordered, handlePacket_ordered]

theorem dispatch_ordered : dispatch.Ordered rank [] := by
  have drop : dropBuffers.Ordered rank [] := dropBuffers_ordered (by simp [Inner])
  have accepts : processAccept.Ordered rank [] := by
    simp [processAccept, Code.ordered_block, Code.Ordered, optional_ordered, work_ordered, drop,
      processConnect_ordered]
  refine optional_ordered.mpr ?_
  intro session kind
  beta_reduce
  split
  · exact processConnect_ordered
  · exact processDisconnect_ordered
  · exact processRecv_ordered
  · exact processSend_ordered session
  · exact accepts

theorem workerThread_ordered : workerThread.Ordered rank [] := by
  have pops : globalPop.Ordered rank [] := leaf_ordered (by simp)
  simp [workerThread, excuteGlobalJobs, Code.ordered_block, Code.Ordered, pops, dispatch_ordered,
    executeJobs_ordered]

/-- Any number of worker threads, in any interleaving: no set of threads waits for
locks that the set itself holds. -/
theorem no_deadlock {workers connections : Nat} {turns : List Turn} {state : ServerThreads}
    (ran : system.run turns (start workers connections) = some state) (waiting : Set Nat) :
    ¬ state.Deadlocked waiting := by
  have disciplined : (start workers connections).Disciplined rank := by
    refine Threads.disciplined_of_ordered ?_ ?_
    · intro thread member
      rw [List.eq_of_mem_replicate member]
      exact ⟨workerThread_ordered, trivial⟩
    · intro thread member
      rw [List.eq_of_mem_replicate member]
      rfl
  exact (Threads.run_disciplined ran disciplined).not_deadlocked rank_le waiting

/-- Two workers complete a send of the same session; the second one waits for the
lock of the session. -/
theorem no_deadlock_second_waits :
    let choices := [1, 0, 1, 0, 3, 0, 0, 0, 0, 1]
    let turns := (choices ++ [0]).map (Turn.mk 0) ++ choices.map (Turn.mk 1)
    ∃ state, system.run turns (start 2 30) = some state ∧ state.WaitsFor 1 (.session 0) ∧
      ¬ state.Deadlocked Set.univ := by
  intro choices turns
  obtain ⟨state, ran, waits⟩ : ∃ state, system.run turns (start 2 30) = some state ∧
      state.WaitsFor 1 (.session 0) :=
    ⟨_, rfl, _, _, _, rfl, rfl, 0, by decide, _, rfl, by simp [held, Frame.lock]⟩
  exact ⟨state, ran, waits, no_deadlock ran Set.univ⟩

end ChattingProgram.Server.Workers
