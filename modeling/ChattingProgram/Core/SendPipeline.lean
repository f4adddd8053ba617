import ChattingProgram.Core.SendQueue

namespace ChattingProgram.Core.SendState

open ChattingProgram.Machine

variable {Buffer : Type}

/-! # One `WSASend` at a time

The right to call `WSASend` is a token.  It is taken with `_sendRegistered`,
rides on the outstanding `WSASend`, comes back with its completion and is given
up with the flag.  At most one thread carries it, and what that thread has done
so far fixes the contents of `_sendEvent`.
-/

/-- What the token carrier has done so far. -/
inductive Stage where
  | registering
  | draining
  | sending
  | failing
  | completing
  | cleared
deriving Repr, DecidableEq

def stage : SendPc Buffer → Option Stage
  | .returned | .send _ | .sendPush _ | .unlock => none
  | .register _ | .registerOwner _ => some .registering
  | .registerDrain _ => some .draining
  | .registerSend _ => some .sending
  | .failed _ _ | .failedOwner _ | .failedClear _ | .failedStore _ => some .failing
  | .process _ | .processClear _ => some .completing
  | .processBytes _ | .processLock => some .cleared

@[simp] theorem stage_afterRegister (inLock : Bool) :
    stage (afterRegister inLock : SendPc Buffer) = none := by
  cases inLock <;> rfl

/-- The batch that a carrier has drained from the queue and not yet handed to
`WSASend`. -/
def drained : List Stage → List Buffer → List Buffer
  | [.sending], buffers => buffers
  | _, _ => []

def inTransit (self : SendState Buffer) : List Buffer :=
  drained (tokens stage self.threads) self.sendBuffers

def Carries (self : SendState Buffer) : Stage → Prop
  | .registering => self.sendQueue ≠ [] ∧ self.sendBuffers = []
  | .draining => self.sendQueue ≠ [] ∧ self.sendBuffers = [] ∧ self.owner = true
  | .sending => self.sendBuffers ≠ [] ∧ self.owner = true
  | .failing => False
  | .completing => True
  | .cleared => self.sendBuffers = []

/-- Where the token is: with nobody, with a thread, on the network, or given up
for good because the session is disconnected. -/
inductive Phase (self : SendState Buffer) : Prop where
  | idle (registered : self.sendRegistered = false) (carriers : tokens stage self.threads = [])
      (outstanding : self.outstanding = []) (queue : self.sendQueue = [])
      (buffers : self.sendBuffers = [])
  | held (current : Stage) (registered : self.sendRegistered = true)
      (carriers : tokens stage self.threads = [current]) (outstanding : self.outstanding = [])
      (carries : self.Carries current)
  | network (batch : List Buffer) (registered : self.sendRegistered = true)
      (carriers : tokens stage self.threads = []) (outstanding : self.outstanding = [batch])
      (owner : self.owner = true) (buffers : self.sendBuffers = batch) (nonempty : batch ≠ [])
  | lost (registered : self.sendRegistered = true) (disconnected : self.connected = false)
      (carriers : tokens stage self.threads = []) (outstanding : self.outstanding = [])

structure Pipeline (state : SendState Buffer) : Prop where
  phase : state.Phase
  nonempty : ∀ batch ∈ state.handed, batch ≠ []
  ledger : state.handed.flatten ++ state.inTransit ++ state.sendQueue = state.pushed

theorem Pipeline.of_carriers {self : SendState Buffer}
    (same : tokens stage self.threads = carriers) (phase : self.Phase)
    (nonempty : ∀ batch ∈ self.handed, batch ≠ [])
    (ledger : self.handed.flatten ++ drained carriers self.sendBuffers ++ self.sendQueue =
      self.pushed) : self.Pipeline :=
  ⟨phase, nonempty, by rw [inTransit, same]; exact ledger⟩

theorem fresh_pipeline : (fresh : SendState Buffer).Pipeline :=
  ⟨.idle rfl rfl rfl rfl rfl, by simp [fresh], rfl⟩

/-- In its own step the carrier is the only one, and it was in the stage its
position tells. -/
theorem Pipeline.carrier {self : SendState Buffer} (valid : self.Pipeline)
    (found : self.threads[thread]? = some pc) (holds : stage pc = some current) :
    self.sendRegistered = true ∧ self.outstanding = [] ∧ self.Carries current ∧
      self.handed.flatten ++ drained [current] self.sendBuffers ++ self.sendQueue = self.pushed ∧
      ∀ next, tokens stage (self.threads.set thread next) = (stage next).toList := by
  have present : current ∈ tokens stage self.threads :=
    List.mem_filterMap.mpr ⟨pc, List.mem_of_getElem? found, holds⟩
  cases valid.phase with
  | idle _ carriers => simp [carriers] at present
  | network _ _ carriers => simp [carriers] at present
  | lost _ _ carriers => simp [carriers] at present
  | held only registered carriers outstanding carries =>
      have moved := fun next => tokens_set_holder next found holds carriers
      obtain ⟨same, _⟩ := moved .returned
      subst same
      have ledger := valid.ledger
      rw [inTransit, carriers] at ledger
      exact ⟨registered, outstanding, carries, ledger, fun next => (moved next).2⟩

/-- Steps that move no token and touch nothing but `_lock`. -/
theorem Pipeline.bystander {self : SendState Buffer} (valid : self.Pipeline)
    {threads : List (SendPc Buffer)} (lock : Option Nat)
    (same : tokens stage threads = tokens stage self.threads) :
    Pipeline { self with threads, lock } where
  phase := by
    cases valid.phase with
    | idle registered carriers outstanding queue buffers =>
        exact .idle registered (same.trans carriers) outstanding queue buffers
    | held current registered carriers outstanding carries =>
        refine .held current registered (same.trans carriers) outstanding ?_
        cases current <;> exact carries
    | network batch registered carriers outstanding owner buffers nonempty =>
        exact .network batch registered (same.trans carriers) outstanding owner buffers nonempty
    | lost registered disconnected carriers outstanding =>
        exact .lost registered disconnected (same.trans carriers) outstanding
  nonempty := valid.nonempty
  ledger := by
    have ledger := valid.ledger
    rw [inTransit] at ledger ⊢
    rwa [same]

/-- The section of `Send` under `_lock`: the flag decides who carries the token. -/
theorem push_pipeline {self : SendState Buffer} (valid : self.Pipeline)
    (found : self.threads[thread]? = some (.sendPush buffer)) :
    Pipeline ({ self with
      sendQueue := self.sendQueue ++ [buffer], pushed := self.pushed ++ [buffer],
      sendRegistered := true }.goto thread
        (if self.sendRegistered then .returned else .register false)) := by
  have ledger := valid.ledger
  rw [inTransit] at ledger
  cases registered : self.sendRegistered with
  | false =>
      cases valid.phase with
      | held _ taken | network _ taken | lost taken => simp [registered] at taken
      | idle _ carriers outstanding queue buffers =>
          have moved : tokens stage (self.threads.set thread (.register false)) = [.registering] :=
            tokens_set_of_nil _ found carriers
          refine .of_carriers moved
            (.held .registering rfl moved outstanding ⟨by simp [goto], buffers⟩) valid.nonempty ?_
          rw [carriers] at ledger
          simpa [goto, drained, List.append_assoc] using congrArg (· ++ [buffer]) ledger
  | true =>
      have moved : tokens stage (self.threads.set thread .returned) = tokens stage self.threads :=
        tokens_set_bystander found rfl rfl
      refine .of_carriers moved ?_ valid.nonempty ?_
      · cases valid.phase with
        | idle free => simp [registered] at free
        | held current _ carriers outstanding carries =>
            refine .held current rfl (moved.trans carriers) outstanding ?_
            cases current with
            | registering | draining => exact ⟨by simp [goto], carries.2⟩
            | sending | completing | cleared | failing => exact carries
        | network batch _ carriers outstanding owner buffers nonempty =>
            exact .network batch rfl (moved.trans carriers) outstanding owner buffers nonempty
        | lost _ disconnected carriers outstanding =>
            exact .lost rfl disconnected (moved.trans carriers) outstanding
      · simpa [goto, List.append_assoc] using congrArg (· ++ [buffer]) ledger

/-- The carrier's steps: each position of `RegisterSend` and `ProcessSend` hands
the token to the next position, to the network, or back with the flag. -/
theorem carrier_pipeline {self : SendState Buffer} (valid : self.Pipeline)
    (found : self.threads[thread]? = some pc) (holds : stage pc = some current)
    (stepped : self.advance thread pc = some next) : next.Pipeline := by
  obtain ⟨registered, outstanding, carries, ledger, moved⟩ := valid.carrier found holds
  have nonempty := valid.nonempty
  cases pc with
  | returned | send _ | sendPush _ | unlock => simp [stage] at holds
  | failed _ _ | failedOwner _ | failedClear _ | failedStore _ =>
      cases holds
      exact carries.elim
  | register inLock =>
      cases holds
      simp only [advance, Option.some.injEq] at stepped
      subst stepped
      cases connected : self.connected with
      | true =>
          have still := moved (.registerOwner inLock)
          exact .of_carriers still (.held .registering registered still outstanding carries)
            nonempty ledger
      | false =>
          have gone : tokens stage (self.threads.set thread (afterRegister inLock)) = [] :=
            (moved _).trans (by rw [stage_afterRegister]; rfl)
          exact .of_carriers gone (.lost registered connected gone outstanding) nonempty ledger
  | registerOwner inLock =>
      cases holds
      cases stepped
      have still := moved (.registerDrain inLock)
      exact .of_carriers still
        (.held .draining registered still outstanding ⟨carries.1, carries.2, rfl⟩) nonempty ledger
  | registerDrain inLock =>
      cases holds
      obtain ⟨queued, buffers, owner⟩ := carries
      simp only [advance] at stepped
      split at stepped
      · cases stepped
        have still : tokens stage (self.threads.set thread (.registerSend inLock)) = [.sending] :=
          moved _
        refine .of_carriers still
          (.held .sending registered still outstanding ⟨by simp [goto, queued], owner⟩) nonempty ?_
        simpa [goto, drained, buffers] using ledger
      · contradiction
  | registerSend inLock =>
      cases holds
      obtain ⟨buffers, owner⟩ := carries
      cases stepped
      have gone : tokens stage (self.threads.set thread (afterRegister inLock)) = [] :=
        (moved _).trans (by rw [stage_afterRegister]; rfl)
      have batch : self.outstanding ++ [self.sendBuffers] = [self.sendBuffers] := by
        rw [outstanding, List.nil_append]
      refine .of_carriers gone (.network self.sendBuffers registered gone batch owner rfl buffers)
        ?_ ?_
      · intro batch member
        rcases List.mem_append.mp member with earlier | last
        · exact nonempty batch earlier
        · rw [List.mem_singleton.mp last]
          exact buffers
      · simpa [goto, drained] using ledger
  | process numOfBytes =>
      cases holds
      cases stepped
      have still := moved (.processClear numOfBytes)
      exact .of_carriers still (.held .completing registered still outstanding trivial) nonempty
        ledger
  | processClear numOfBytes =>
      cases holds
      cases stepped
      have still := moved (.processBytes numOfBytes)
      exact .of_carriers still (.held .cleared registered still outstanding rfl) nonempty ledger
  | processBytes numOfBytes =>
      cases holds
      simp only [advance] at stepped
      split at stepped
      · cases stepped
        have gone := moved .returned
        exact .of_carriers gone (.lost registered rfl gone outstanding) nonempty ledger
      · cases stepped
        have still := moved .processLock
        exact .of_carriers still (.held .cleared registered still outstanding carries) nonempty
          ledger
  | processLock =>
      cases holds
      simp only [advance] at stepped
      split at stepped
      · contradiction
      · split at stepped
        · rename_i empty
          cases stepped
          have gone := moved .returned
          exact .of_carriers gone
            (.idle rfl gone outstanding (List.isEmpty_iff.mp empty) carries) nonempty ledger
        · rename_i occupied
          cases stepped
          have still := moved (.register true)
          exact .of_carriers still (.held .registering registered still outstanding
            ⟨fun empty => occupied (List.isEmpty_iff.mpr empty), carries⟩) nonempty ledger

theorem advance_pipeline {self next : SendState Buffer} (valid : self.Pipeline)
    (found : self.threads[thread]? = some pc) (stepped : self.advance thread pc = some next) :
    next.Pipeline := by
  cases holds : stage pc with
  | some current => exact carrier_pipeline valid found holds stepped
  | none =>
      cases pc with
      | returned => simp [advance] at stepped
      | send buffer =>
          cases stepped
          exact valid.bystander self.lock (tokens_set_bystander found rfl (by split <;> rfl))
      | sendPush buffer =>
          simp only [advance] at stepped
          split at stepped
          · contradiction
          · cases stepped
            exact push_pipeline valid found
      | unlock =>
          cases stepped
          exact valid.bystander none (tokens_set_bystander found rfl rfl)
      | _ => simp [stage] at holds

/-- The dispatched completion takes the token from the network. -/
theorem complete_pipeline {self : SendState Buffer} (valid : self.Pipeline)
    (within : call < self.outstanding.length) :
    Pipeline { self with
      outstanding := self.outstanding.eraseIdx call
      threads := self.threads ++ [.process numOfBytes] } := by
  have ledger := valid.ledger
  cases valid.phase with
  | idle _ _ outstanding | held _ _ _ outstanding | lost _ _ _ outstanding =>
      simp [outstanding] at within
  | network batch registered carriers outstanding owner buffers nonempty =>
      have taken : tokens stage (self.threads ++ [.process numOfBytes]) = [.completing] := by
        rw [tokens_append, carriers]
        rfl
      have first : call = 0 := by
        rw [outstanding, List.length_singleton] at within
        omega
      have none : self.outstanding.eraseIdx call = [] := by
        rw [outstanding, first]
        rfl
      rw [inTransit, carriers] at ledger
      exact .of_carriers taken (.held .completing registered taken none trivial)
        valid.nonempty ledger

/-- Every event but a failing `WSASend`. -/
def Succeeds : SendEvent Buffer → Prop
  | .fail _ _ => False
  | _ => True

theorem step_pipeline (succeeds : Succeeds event) (stepped : step event self = some next)
    (valid : self.Pipeline) : next.Pipeline := by
  cases event with
  | call buffer =>
      cases stepped
      refine valid.bystander self.lock ?_
      rw [tokens_append]
      exact List.append_nil _
  | run thread =>
      obtain ⟨pc, found, advanced⟩ := Option.bind_eq_some_iff.mp stepped
      exact advance_pipeline valid found advanced
  | fail thread errorCode => exact succeeds.elim
  | complete call numOfBytes =>
      simp only [step] at stepped
      split at stepped
      · rename_i within
        cases stepped
        exact complete_pipeline valid within
      · contradiction
  | disconnect =>
      cases stepped
      refine ⟨?_, valid.nonempty, valid.ledger⟩
      cases valid.phase with
      | idle registered carriers outstanding queue buffers =>
          exact .idle registered carriers outstanding queue buffers
      | held current registered carriers outstanding carries =>
          refine .held current registered carriers outstanding ?_
          cases current <;> exact carries
      | network batch registered carriers outstanding owner buffers nonempty =>
          exact .network batch registered carriers outstanding owner buffers nonempty
      | lost registered _ carriers outstanding => exact .lost registered rfl carriers outstanding

theorem Pipeline.outstanding_le_one {self : SendState Buffer} (valid : self.Pipeline) :
    self.outstanding.length ≤ 1 := by
  cases valid.phase with
  | idle _ _ outstanding | held _ _ _ outstanding | lost _ _ _ outstanding => simp [outstanding]
  | network _ _ _ outstanding => simp [outstanding]

theorem Pipeline.outstanding_batch {self : SendState Buffer} (valid : self.Pipeline)
    (member : batch ∈ self.outstanding) : self.owner = true ∧ self.sendBuffers = batch := by
  cases valid.phase with
  | idle _ _ outstanding | held _ _ _ outstanding | lost _ _ _ outstanding =>
      simp [outstanding] at member
  | network only _ _ outstanding owner buffers =>
      rw [outstanding, List.mem_singleton] at member
      exact ⟨owner, buffers.trans member.symm⟩

theorem Pipeline.inTransit_nil {self : SendState Buffer} (valid : self.Pipeline)
    (nobody : ∀ inLock, .registerSend inLock ∉ self.threads) : self.inTransit = [] := by
  cases valid.phase with
  | idle _ carriers | network _ _ carriers | lost _ _ carriers => rw [inTransit, carriers]; rfl
  | held current _ carriers =>
      rw [inTransit, carriers]
      cases current with
      | sending =>
          have present : Stage.sending ∈ tokens stage self.threads := by simp [carriers]
          obtain ⟨pc, member, holds⟩ := List.mem_filterMap.mp present
          cases pc with
          | registerSend inLock => exact absurd member (nobody inLock)
          | _ => simp [stage] at holds
      | _ => rfl

/-- A token that no thread carries is on the network as long as the session is
connected, so queued buffers are never left without a `WSASend` to follow. -/
theorem Pipeline.no_lost_wakeup {self : SendState Buffer} (valid : self.Pipeline)
    (connected : self.connected = true) (queued : self.sendQueue ≠ [])
    (quiet : ∀ pc ∈ self.threads, pc = .returned) : self.outstanding ≠ [] := by
  cases valid.phase with
  | idle _ _ _ queue => exact absurd queue queued
  | lost _ disconnected => simp [connected] at disconnected
  | network batch _ _ outstanding => simp [outstanding]
  | held current _ carriers =>
      have present : current ∈ tokens stage self.threads := by simp [carriers]
      obtain ⟨pc, member, holds⟩ := List.mem_filterMap.mp present
      rw [quiet pc member] at holds
      simp [stage] at holds

theorem run_pipeline (succeed : ∀ event ∈ events, Succeeds event)
    (ran : system.run events fresh = some state) : state.Pipeline := by
  have guarded : system.Guarded (fun event _ => Succeeds event) events fresh :=
    System.guarded_of_forall succeed
  exact System.run_preserves_guarded step_pipeline guarded ran fresh_pipeline

/-- In every state of every run in which no `WSASend` fails at once: one
`WSASend` is outstanding at most, it owns `_sendEvent`, no batch is empty, no
buffer is lost, duplicated or reordered, and no wake-up is lost. -/
theorem send_pipeline {events : List (SendEvent Buffer)} {state : SendState Buffer}
    (succeed : ∀ event ∈ events, Succeeds event) (ran : system.run events fresh = some state) :
    state.outstanding.length ≤ 1 ∧
      (∀ batch ∈ state.outstanding, state.owner = true ∧ state.sendBuffers = batch) ∧
      (∀ batch ∈ state.handed, batch ≠ []) ∧
      state.handed.flatten ++ state.inTransit ++ state.sendQueue = state.pushed ∧
      ((∀ inLock, .registerSend inLock ∉ state.threads) → state.inTransit = []) ∧
      (state.connected = true → state.sendQueue ≠ [] →
        (∀ pc ∈ state.threads, pc = .returned) → state.outstanding ≠ []) := by
  have valid := run_pipeline succeed ran
  exact ⟨valid.outstanding_le_one, fun _ => valid.outstanding_batch, valid.nonempty, valid.ledger,
    valid.inTransit_nil, valid.no_lost_wakeup⟩

/-- Two senders; the second buffer waits for the completion of the first and is
then handed over by `ProcessSend`. -/
theorem send_pipeline_two_senders :
    let events : List (SendEvent Nat) := [.call 7, .run 0, .run 0, .run 0, .run 0, .run 0, .run 0,
      .call 8, .run 1, .run 1, .complete 0 5, .run 2, .run 2, .run 2, .run 2, .run 2, .run 2,
      .run 2, .run 2, .run 2]
    ∃ state, system.run events fresh = some state ∧ state.handed = [[7], [8]] ∧
      state.outstanding.length ≤ 1 ∧ state.handed.flatten ++ state.inTransit ++ state.sendQueue =
        state.pushed := by
  intro events
  have succeed : ∀ event ∈ events, Succeeds event := by simp [events, Succeeds]
  obtain ⟨state, ran, handed⟩ : ∃ state, system.run events fresh = some state ∧
      state.handed = [[7], [8]] := ⟨_, rfl, rfl⟩
  obtain ⟨single, _, _, ledger, _⟩ := send_pipeline succeed ran
  exact ⟨state, ran, handed, single, ledger⟩

/-! ## Who pushes -/

/-- The buffer that a call of `Send` has not pushed yet. -/
def pending : SendPc Buffer → Option Buffer
  | .send buffer | .sendPush buffer => some buffer
  | _ => none

@[simp] theorem pending_afterRegister (inLock : Bool) :
    pending (afterRegister inLock : SendPc Buffer) = none := by
  cases inLock <;> rfl

/-- A call of `Send` pushes its buffer, finds the session disconnected, or has
nothing to do with the step. -/
inductive Pushes (self next : SendState Buffer) : Prop where
  | push (thread : Nat) (buffer : Buffer) (pc : SendPc Buffer)
      (found : self.threads[thread]? = some (.sendPush buffer)) (done : pending pc = none)
      (threads : next.threads = self.threads.set thread pc)
      (pushed : next.pushed = self.pushed ++ [buffer])
      (connected : next.connected = self.connected)
  | giveUp (thread : Nat) (threads : next.threads = self.threads.set thread .returned)
      (pushed : next.pushed = self.pushed) (disconnected : next.connected = false)
  | move (thread : Nat) (before pc : SendPc Buffer) (found : self.threads[thread]? = some before)
      (threads : next.threads = self.threads.set thread pc) (same : pending pc = pending before)
      (pushed : next.pushed = self.pushed) (connected : next.connected = true →
      self.connected = true)
  | spawn (pc : SendPc Buffer) (idle : pending pc = none)
      (threads : next.threads = self.threads ++ [pc])
      (pushed : next.pushed = self.pushed) (connected : next.connected = true →
      self.connected = true)
  | stay (threads : next.threads = self.threads) (pushed : next.pushed = self.pushed)
      (connected : next.connected = true → self.connected = true)

/-- The step begins no call of `Send`. -/
theorem Pushes.pending_before {self : SendState Buffer} (pushes : self.Pushes next) {thread : Nat}
    (found : next.threads[thread]? = some pc) (waits : pending pc = some buffer) :
    ∃ before, self.threads[thread]? = some before ∧ pending before = some buffer := by
  cases pushes with
  | push _ _ _ _ done threads _ _ =>
      rw [threads] at found
      rcases getElem?_set_cases found with ⟨_, rfl⟩ | ⟨_, still⟩
      · simp [done] at waits
      · exact ⟨pc, still, waits⟩
  | giveUp _ threads _ _ =>
      rw [threads] at found
      rcases getElem?_set_cases found with ⟨_, rfl⟩ | ⟨_, still⟩
      · simp [pending] at waits
      · exact ⟨pc, still, waits⟩
  | move _ before _ foundBefore threads same _ _ =>
      rw [threads] at found
      rcases getElem?_set_cases found with ⟨rfl, rfl⟩ | ⟨_, still⟩
      · exact ⟨before, foundBefore, same ▸ waits⟩
      · exact ⟨pc, still, waits⟩
  | spawn _ idle threads _ _ =>
      rw [threads] at found
      rcases getElem?_concat_cases found with still | ⟨_, rfl⟩
      · exact ⟨pc, still, waits⟩
      · simp [idle] at waits
  | stay threads _ _ => exact ⟨pc, threads ▸ found, waits⟩

theorem advance_pushes {self : SendState Buffer} (found : self.threads[thread]? = some pc)
    (stepped : self.advance thread pc = some next) : self.Pushes next := by
  cases pc with
  | returned => cases stepped
  | send buffer =>
      cases stepped
      by_cases connected : self.connected
      · simp only [connected, if_true]
        exact .move thread _ (.sendPush buffer) found rfl rfl rfl fun _ => connected
      · simp only [connected, Bool.false_eq_true, if_false]
        exact .giveUp thread rfl rfl (by simpa [goto] using connected)
  | sendPush buffer =>
      simp only [advance] at stepped
      split at stepped
      · contradiction
      · cases stepped
        refine .push thread buffer _ found ?_ rfl rfl rfl
        split <;> rfl
  | register inLock =>
      cases stepped
      refine .move thread _ _ found rfl ?_ rfl id
      split
      · rfl
      · exact pending_afterRegister inLock
  | registerOwner inLock => cases stepped; exact .move thread _ _ found rfl rfl rfl id
  | registerDrain inLock =>
      simp only [advance] at stepped
      split at stepped
      · cases stepped
        exact .move thread _ _ found rfl rfl rfl id
      · contradiction
  | registerSend inLock =>
      cases stepped
      exact .move thread _ _ found rfl (pending_afterRegister inLock) rfl id
  | failed inLock errorCode =>
      cases stepped
      refine .move thread _ _ found rfl rfl rfl ?_
      intro still
      simp only [goto, Bool.and_eq_true] at still
      exact still.1
  | failedOwner inLock => cases stepped; exact .move thread _ _ found rfl rfl rfl id
  | failedClear inLock => cases stepped; exact .move thread _ _ found rfl rfl rfl id
  | failedStore inLock =>
      cases stepped
      exact .move thread _ _ found rfl (pending_afterRegister inLock) rfl id
  | process numOfBytes => cases stepped; exact .move thread _ _ found rfl rfl rfl id
  | processClear numOfBytes => cases stepped; exact .move thread _ _ found rfl rfl rfl id
  | processBytes numOfBytes =>
      simp only [advance] at stepped
      split at stepped
      · cases stepped
        exact .move thread _ _ found rfl rfl rfl (by simp [goto])
      · cases stepped
        exact .move thread _ _ found rfl rfl rfl id
  | processLock =>
      simp only [advance] at stepped
      split at stepped
      · contradiction
      · split at stepped <;> cases stepped <;> exact .move thread _ _ found rfl rfl rfl id
  | unlock => cases stepped; exact .move thread _ _ found rfl rfl rfl id

theorem step_pushes {next : SendState Buffer} (internal : ∀ buffer, event ≠ .call buffer)
    (stepped : step event self = some next) : self.Pushes next := by
  cases event with
  | call buffer => exact absurd rfl (internal buffer)
  | run thread =>
      obtain ⟨pc, found, moved⟩ := Option.bind_eq_some_iff.mp stepped
      exact advance_pushes found moved
  | fail thread errorCode =>
      simp only [step] at stepped
      split at stepped
      · rename_i inLock found
        cases stepped
        exact .move thread _ _ found rfl rfl rfl id
      · contradiction
  | complete call numOfBytes =>
      simp only [step] at stepped
      split at stepped
      · cases stepped
        exact .spawn _ rfl rfl rfl id
      · contradiction
  | disconnect =>
      cases stepped
      exact .stay rfl rfl (by simp)

end ChattingProgram.Core.SendState
