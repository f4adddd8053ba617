import Mathlib.Data.List.Nodup
import ChattingProgram.Server.Workers

namespace ChattingProgram.Server.Workers

open ChattingProgram.Machine

/-! # The connection pool

A worker takes a connection only in a handler, and a second one only in
`RemoveUser`.  What the workers hold together with the pool is always the
connections that `Connect` made.
-/

/-- How deep a worker is: outside, in a handler, with one connection, with two. -/
def level : Worker → Nat
  | .outside => 0
  | .handling dbConns => dbConns.length + 1

def change : ServerOp → Nat → Nat → Prop
  | .work, before, after | .query, before, after => before = after
  | .enter, before, after => before = 0 ∧ after = 1
  | .leave, before, after => before = 1 ∧ after = 0
  | .pop, before, after => 1 ≤ before ∧ before ≤ 2 ∧ after = before + 1
  | .push, before, after => 2 ≤ before ∧ after + 1 = before

theorem performs (op : ServerOp) (connections : Connections) (worker : Worker) (goal : Nat)
    (changed : change op (level worker) goal) :
    level (Worker.perform op connections worker).2 = goal := by
  cases op with
  | work => exact changed
  | query => exact changed
  | enter => exact changed.2.symm
  | leave => exact changed.2.symm
  | pop =>
      cases worker with
      | outside => simp [change, level] at changed
      | handling dbConns => exact changed.2.2.symm
  | push =>
      cases worker with
      | outside => simp [change, level] at changed
      | handling dbConns =>
          cases dbConns with
          | nil => simp [change, level] at changed
          | cons dbConn dbConns =>
              have after := changed.2
              simp only [level, List.length_cons] at after
              simp only [Worker.perform, level]
              omega

/-! ## The functions come back to the level they start at -/

/-- The operations that have nothing to do with connections. -/
def Plain (op : ServerOp) : Prop := op = .work ∨ op = .query

theorem plain_accounts {code : ServerCode} (plain : code.Only Plain) (before : Nat) :
    code.Accounts change before before := by
  refine plain.accounts ?_ before
  rintro op (rfl | rfl) _ <;> rfl

theorem plain_then {first : ServerCode} (plain : first.Only Plain)
    (later : (Code.block rest).Accounts change before after) :
    (Code.block (first :: rest)).Accounts change before after :=
  (Code.accounts_block_cons first rest).mpr ⟨before, plain_accounts plain before, later⟩

theorem plain_work : work.Only Plain := .inl rfl

theorem plain_query : query.Only Plain := .inr rfl

theorem plain_dropBuffers : dropBuffers.Only Plain := .inl rfl

theorem plain_makeSendBuffer : makeSendBuffer.Only Plain := by
  simp [makeSendBuffer, openBuffer, popChunk, optional, Code.only_block, Code.Only, plain_work,
    plain_dropBuffers]

theorem plain_registerSend (session : Nat) : (registerSend session).Only Plain := by
  simp [registerSend, handleError, disconnect, optional, Code.only_block, Code.Only, plain_work,
    plain_dropBuffers]

theorem plain_send (session : Nat) : (send session).Only Plain := by
  simp [send, optional, Code.only_block, Code.Only, plain_work, plain_dropBuffers,
    plain_registerSend]

theorem plain_reply (session : Nat) : (reply session).Only Plain := by
  simp [reply, Code.only_block, plain_makeSendBuffer, plain_send]

theorem plain_broadCast (room : Nat) : (broadCast room).Only Plain := by
  simp [broadCast, optional, Code.only_block, Code.Only, plain_makeSendBuffer, plain_send]

/-- `RemoveUser` takes one connection and gives it back. -/
theorem removeUser_accounts (room : Nat) (inside : 1 ≤ before) (shallow : before ≤ 2) :
    (removeUser room).Accounts change before before := by
  have decides : (Code.either (.block [query, removeRoom])
      (.block [query, optional (broadCast room)])).Only Plain := by
    simp [removeRoom, optional, Code.only_block, Code.Only, plain_work, plain_query,
    plain_broadCast]
  have pushes : (Code.block [push]).Accounts change (before + 1) before := ⟨by omega, rfl⟩
  refine (Code.accounts_block_cons _ _).mpr ⟨before + 1, ⟨inside, shallow, rfl⟩, ?_⟩
  exact plain_then plain_query (plain_then plain_query
    (plain_then plain_work (plain_then plain_dropBuffers
    (plain_then plain_work (plain_then decides pushes)))))

/-- A handler has one connection while its body runs. -/
theorem respond_accounts {body : ServerCode} (steady : body.Accounts change 2 2) :
    (respond body).Accounts change 0 0 := by
  simp only [respond, Code.accounts_block_cons, Code.accounts_block_nil]
  exact ⟨1, ⟨rfl, rfl⟩, 2, ⟨by omega, by omega, rfl⟩, 2, steady, 1, ⟨by omega, rfl⟩, 0,
    ⟨rfl, rfl⟩, rfl⟩

theorem job_accounts : job.Accounts change 0 0 := by
  intro session kind
  have plain : ∀ {body : ServerCode}, body.Only Plain → (respond body).Accounts change 0 0 :=
    fun only => respond_accounts (plain_accounts only 2)
  have replies := plain_reply session
  have leaves : (roomOut session).Accounts change 0 0 := by
    refine respond_accounts (plain_then plain_query (plain_then plain_work ?_))
    refine (Code.accounts_block_cons _ _).mpr ⟨2, ?_, plain_accounts replies 2⟩
    exact fun room => removeUser_accounts room (by omega) (by omega)
  beta_reduce
  split
  · exact plain (by simp [optional, Code.only_block, Code.Only, plain_work, plain_query, replies])
  · exact plain (by simp [Code.only_block, plain_query, replies])
  · exact plain (by simp [Code.only_block, plain_query, replies])
  · exact plain (by simp [makeRoom, addRoom, optional, Code.only_block, Code.Only, plain_work,
      plain_query, replies])
  · exact plain (by simp [addUser, optional, Code.only_block, Code.Only, plain_work, plain_query,
      plain_dropBuffers, plain_broadCast, replies])
  · exact plain (by simp [Code.only_block, Code.Only, plain_work, plain_query, plain_broadCast])
  · exact leaves

theorem onDisconnected_accounts : onDisconnected.Accounts change 0 0 := by
  have leaves : (optional (.pick removeUser)).Accounts change 1 1 :=
    ⟨rfl, fun room => removeUser_accounts room (by omega) (by omega)⟩
  simp only [onDisconnected, Code.accounts_block_cons, Code.accounts_block_nil]
  exact ⟨1, ⟨rfl, rfl⟩, 1, leaves, 2, ⟨by omega, by omega, rfl⟩, 2, rfl, 1, ⟨by omega, rfl⟩, 0,
    ⟨rfl, rfl⟩, rfl⟩

/-! ## The worker -/

theorem executeJobs_accounts (queue : Nat) : (executeJobs queue).Accounts change 0 0 := by
  have waits : (Code.block [.guard (.priorityJobs queue) work,
      optional (.block [job, .guard (.priorityJobs queue) work])]).Accounts change 0 0 :=
    ⟨0, rfl, rfl, 0, job_accounts, rfl⟩
  refine ⟨rfl, Code.accounts_block ?_⟩
  simp only [List.mem_cons, List.not_mem_nil, or_false, forall_eq_or_imp, forall_eq]
  exact ⟨⟨rfl, rfl⟩, ⟨rfl, job_accounts⟩, ⟨rfl, waits⟩, rfl, ⟨rfl, rfl⟩,
    plain_accounts plain_dropBuffers 0⟩

theorem handlePacket_accounts : handlePacket.Accounts change 0 0 := by
  refine ⟨rfl, fun queue => Code.accounts_block ?_⟩
  have pushes : (pushJob queue).Accounts change 0 0 := by
    refine Code.accounts_block ?_
    simp only [List.mem_cons, List.not_mem_nil, or_false, forall_eq_or_imp, forall_eq]
    exact ⟨rfl, ⟨rfl, rfl⟩, rfl, executeJobs_accounts queue, rfl⟩
  simp only [List.mem_cons, List.not_mem_nil, or_false, forall_eq_or_imp, forall_eq]
  exact ⟨pushes, rfl, plain_accounts plain_dropBuffers 0⟩

theorem plain_registerRecv : registerRecv.Only Plain := by
  simp [registerRecv, handleError, disconnect, optional, Code.only_block, Code.Only, plain_work]

theorem plain_disconnect : disconnect.Only Plain := by
  simp [disconnect, optional, Code.only_block, Code.Only, plain_work]

theorem processRecv_accounts : processRecv.Accounts change 0 0 := by
  have tail : (Code.either disconnect (.block [work, registerRecv])).Only Plain := by
    simp [Code.only_block, Code.Only, plain_work, plain_disconnect, plain_registerRecv]
  refine plain_then plain_work ⟨plain_accounts plain_disconnect 0, plain_then plain_work ?_⟩
  exact ⟨0, ⟨rfl, handlePacket_accounts⟩, plain_accounts tail 0⟩

theorem plain_processConnect : processConnect.Only Plain := by
  simp [processConnect, addSession, Code.only_block, Code.Only, plain_work, plain_registerRecv]

theorem dispatch_accounts : dispatch.Accounts change 0 0 := by
  have releases : releaseSession.Only Plain := by
    simp [releaseSession, Code.only_block, Code.Only, plain_work, plain_dropBuffers]
  have disconnects : processDisconnect.Accounts change 0 0 := by
    refine plain_then plain_work ((Code.accounts_block_cons _ _).mpr
      ⟨0, onDisconnected_accounts, ?_⟩)
    exact plain_then releases (plain_accounts plain_dropBuffers 0)
  refine ⟨rfl, fun session kind => ?_⟩
  beta_reduce
  split
  · exact plain_accounts plain_processConnect 0
  · exact disconnects
  · exact processRecv_accounts
  · exact plain_accounts (by simp [processSend, Code.only_block, Code.Only, plain_work,
      plain_disconnect, plain_dropBuffers, plain_registerSend]) 0
  · exact plain_accounts (by simp [processAccept, optional, Code.only_block, Code.Only, plain_work,
      plain_dropBuffers, plain_processConnect]) 0

theorem workerThread_accounts : workerThread.Accounts change 0 0 := by
  have jobs : excuteGlobalJobs.Accounts change 0 0 := ⟨rfl, 0, rfl, executeJobs_accounts⟩
  exact ⟨rfl, 0, dispatch_accounts, jobs⟩

/-! ## Conservation -/

def dbConns : Worker → List (Option Nat)
  | .outside => []
  | .handling dbConns => dbConns

def heldBy (thread : Thread ServerLock ServerOp Worker) : List (Option Nat) := dbConns thread.locals

/-- The connections in the pool and with the workers are the ones there are, and no
worker has more than two. -/
structure Conserved (workers connections : Nat) (state : ServerThreads) : Prop where
  accounted : state.Accounted change level 0
  workers : state.threads.length = workers
  shallow : ∀ thread ∈ state.threads, (heldBy thread).length ≤ 2
  kept : (state.shared ++ state.threads.flatMap heldBy).Perm ((List.range connections).map some)

variable {workers connections : Nat} {turn : Turn} {state after : ServerThreads}

theorem Conserved.pool_ne_nil (conserved : Conserved workers connections state)
    (enough : 2 * workers < connections) : state.shared ≠ [] := by
  have lengths := conserved.kept.length_eq
  have bound := total_le (fun thread => (heldBy thread).length) conserved.shallow
  have count : (state.threads.flatMap heldBy).length =
      total (fun thread => (heldBy thread).length) state.threads := by
    simp [List.length_flatMap, total]
  simp only [List.length_append, List.length_map, List.length_range, count] at lengths
  rw [conserved.workers] at bound
  intro empty
  rw [empty, List.length_nil] at lengths
  omega

/-- An operation at a level that allows it moves connections between the pool and the
worker. -/
theorem perform_trades (changed : change op (level worker) goal) (occupied : pool ≠ [])
    (shallow : (dbConns worker).length ≤ 2) :
    ((Worker.perform op pool worker).1 ++ dbConns (Worker.perform op pool worker).2).Perm
      (pool ++ dbConns worker) ∧
      (dbConns (Worker.perform op pool worker).2).length ≤ 2 := by
  cases op with
  | work | query => exact ⟨.refl _, shallow⟩
  | enter =>
      cases worker with
      | outside => exact ⟨.refl _, by simp [Worker.perform, dbConns]⟩
      | handling conns => simp [change, level] at changed
  | leave =>
      cases worker with
      | outside => simp [change, level] at changed
      | handling conns =>
          have none : conns = [] := by simpa [change, level] using changed.1
          subst none
          exact ⟨.refl _, by simp [Worker.perform, dbConns]⟩
  | pop =>
      cases worker with
      | outside => simp [change, level] at changed
      | handling conns =>
          have room : conns.length + 1 ≤ 2 := changed.2.1
          have last : pool.getLast?.join = pool.getLast occupied := by
            rw [List.getLast?_eq_some_getLast occupied]; rfl
          simp only [Worker.perform, dbConns, last, List.length_cons]
          refine ⟨?_, room⟩
          have split := List.dropLast_append_getLast occupied
          nth_rewrite 3 [← split]
          rw [List.append_assoc]
          exact .refl _
  | push =>
      cases worker with
      | outside => simp [change, level] at changed
      | handling conns =>
          cases conns with
          | nil => simp [change, level] at changed
          | cons dbConn rest =>
              simp only [dbConns, List.length_cons] at shallow
              refine ⟨?_, by simp only [Worker.perform, dbConns]; omega⟩
              simp only [Worker.perform, dbConns, List.append_assoc]
              exact .refl _

theorem Conserved.step (enough : 2 * workers < connections)
    (stepped : system.step turn state = some after)
    (conserved : Conserved workers connections state) : Conserved workers connections after := by
  obtain ⟨thread, frames, locals, found, threads, does⟩ := conserved.accounted.operates stepped
  have accounted : after.Accounted change level 0 :=
    Threads.step_accounted performs stepped conserved.accounted
  have occupied := conserved.pool_ne_nil enough
  obtain ⟨left, right, before, moved⟩ := flatMap_set heldBy found
  have kept := conserved.kept
  have mine := conserved.shallow thread (List.mem_of_getElem? found)
  -- what the step does to the pool and to the variables of its thread
  have trade : (after.shared ++ dbConns locals).Perm (state.shared ++ heldBy thread) ∧
      (dbConns locals).length ≤ 2 := by
    rcases does with ⟨shared, rfl⟩ | ⟨op, goal, changed, performed⟩
    · exact ⟨by rw [shared]; exact .refl _, mine⟩
    · obtain ⟨shared, known⟩ := Prod.mk.inj performed
      rw [shared, known]
      exact perform_trades changed occupied mine
  refine ⟨accounted, ?_, ?_, ?_⟩
  · rw [threads, List.length_set]
    exact conserved.workers
  · intro other member
    rw [threads] at member
    rcases mem_set_cases member with rfl | ⟨_, _, elsewhere⟩
    · exact trade.2
    · exact conserved.shallow other (List.mem_of_getElem? elsewhere)
  · refine .trans ?_ kept
    rw [threads, moved, before]
    have counts := List.perm_iff_count.mp trade.1
    refine List.perm_iff_count.mpr fun connection => ?_
    have same := counts connection
    simp only [List.count_append, heldBy] at same ⊢
    omega

theorem conserved_start (workers connections : Nat) :
    Conserved workers connections (start workers connections) := by
  have idle : ∀ thread ∈ (start workers connections).threads,
      thread = ⟨[.code workerThread], .outside⟩ :=
    fun _ member => List.eq_of_mem_replicate member
  have none : (start workers connections).threads.flatMap heldBy = [] := by
    refine List.flatMap_eq_nil_iff.mpr ?_
    intro thread member
    rw [idle thread member]
    rfl
  refine ⟨?_, List.length_replicate, ?_, ?_⟩
  · intro thread member
    rw [idle thread member]
    exact ⟨0, workerThread_accounts, rfl⟩
  · intro thread member
    rw [idle thread member]
    exact Nat.zero_le 2
  · rw [none, List.append_nil]
    exact .refl _

/-- The 11 workers and 30 connections of `main`, in any interleaving: no `Pop` has
given `nullptr`, no connection is with two users or with one and in the pool, and
the pool is full when no handler runs. -/
theorem connections_suffice {turns : List Turn} {state : ServerThreads}
    (ran : system.run turns (start 11 30) = some state) :
    (∀ thread ∈ state.threads, none ∉ heldBy thread) ∧
      (state.shared ++ state.threads.flatMap heldBy).Nodup ∧
      ((∀ thread ∈ state.threads, thread.locals = .outside) →
        state.shared.Perm ((List.range 30).map some)) := by
  have conserved : Conserved 11 30 state :=
    System.run_preserves (Conserved.step (by decide)) ran (conserved_start 11 30)
  refine ⟨?_, ?_, ?_⟩
  · intro thread member null
    have present : none ∈ state.shared ++ state.threads.flatMap heldBy :=
      List.mem_append_right _ (List.mem_flatMap.mpr ⟨thread, member, null⟩)
    simpa using conserved.kept.subset present
  · refine conserved.kept.nodup_iff.mpr ?_
    exact List.Nodup.map (Option.some_injective Nat) List.nodup_range
  · intro quiet
    have empty : state.threads.flatMap heldBy = [] := by
      refine List.flatMap_eq_nil_iff.mpr ?_
      intro thread member
      rw [heldBy, quiet thread member]
      rfl
    have kept := conserved.kept
    rw [empty, List.append_nil] at kept
    exact kept

/-- A worker in the `RemoveUser` of a `C_ROOM_OUT` holds two connections. -/
theorem connections_suffice_room_out :
    let receive := [1, 0, 1, 0, 2, 0, 0, 1, 0, 0, 0, 1, 1, 0, 0, 0, 0, 0, 0, 0, 0, 0, 1, 0]
    let roomOut := [1, 0, 0, 0, 0, 0, 1, 0, 6, 0, 0, 0, 0, 0, 0, 0, 0, 0, 0, 0, 0, 0, 0, 0, 0, 0]
    ∃ state, system.run ((receive ++ roomOut).map (Turn.mk 0)) (start 11 30) = some state ∧
      (state.threads.map heldBy).head? = some [some 28, some 29] ∧
      (state.shared ++ state.threads.flatMap heldBy).Nodup := by
  intro receive roomOut
  obtain ⟨state, ran, holds⟩ : ∃ state,
      system.run ((receive ++ roomOut).map (Turn.mk 0)) (start 11 30) = some state ∧
        (state.threads.map heldBy).head? = some [some 28, some 29] := ⟨_, rfl, rfl⟩
  exact ⟨state, ran, holds, (connections_suffice ran).2.1⟩

end ChattingProgram.Server.Workers
