import ChattingProgram.Core.SendPipeline

namespace ChattingProgram.Core.SendState

open ChattingProgram.Machine

variable {Buffer : Type}

/-! # A `WSASend` that fails at once

The failure branch of `RegisterSend` throws its batch away and gives the flag
back without looking at `_sendQueue`.  The history `pushed` is read by no step,
so the pipeline of the surviving buffers is the pipeline of a session to which
only these were ever sent.
-/

/-- The buffers that were handed over or still can be. -/
def surviving (self : SendState Buffer) : List Buffer :=
  self.handed.flatten ++ self.inTransit ++ self.sendQueue

/-- What a step pushes does not depend on what was pushed before it. -/
theorem advance_rebase {self : SendState Buffer} (stepped : self.advance thread pc = some next) :
    ∃ more, next.pushed = self.pushed ++ more ∧
      ∀ kept, advance { self with pushed := kept } thread pc =
        some { next with pushed := kept ++ more } := by
  cases pc with
  | returned => cases stepped
  | sendPush buffer =>
      simp only [advance] at stepped ⊢
      split at stepped
      · contradiction
      · rename_i unlocked
        cases stepped
        exact ⟨[buffer], rfl, fun kept => if_neg unlocked⟩
  | registerDrain inLock =>
      simp only [advance] at stepped ⊢
      split at stepped
      · rename_i allowed
        cases stepped
        exact ⟨[], by simp [goto], fun kept => (if_pos allowed).trans (by simp [goto])⟩
      · contradiction
  | processBytes numOfBytes =>
      simp only [advance] at stepped ⊢
      split at stepped <;> cases stepped <;>
        exact ⟨[], by simp [goto], fun kept => by simp_all [goto]⟩
  | processLock =>
      simp only [advance] at stepped ⊢
      split at stepped
      · contradiction
      · split at stepped <;> cases stepped <;>
          exact ⟨[], by simp [goto], fun kept => by simp_all [goto]⟩
  | _ =>
      cases stepped
      exact ⟨[], by simp [goto], fun kept => by simp [advance, goto]⟩

theorem step_rebase (stepped : step event self = some next) :
    ∃ more, next.pushed = self.pushed ++ more ∧
      ∀ kept, step event { self with pushed := kept } = some { next with pushed := kept ++ more } :=
        by
  cases event with
  | call buffer => cases stepped; exact ⟨[], by simp, fun kept => by simp [step]⟩
  | run thread =>
      obtain ⟨pc, found, advanced⟩ := Option.bind_eq_some_iff.mp stepped
      obtain ⟨more, pushed, rebased⟩ := advance_rebase advanced
      exact ⟨more, pushed, fun kept => Option.bind_eq_some_iff.mpr ⟨pc, found, rebased kept⟩⟩
  | fail thread errorCode =>
      simp only [step] at stepped ⊢
      split at stepped
      · cases stepped
        exact ⟨[], by simp [goto], fun kept => by simp [goto]⟩
      · contradiction
  | complete call numOfBytes =>
      simp only [step] at stepped ⊢
      split at stepped
      · rename_i within
        cases stepped
        exact ⟨[], by simp, fun kept => (if_pos within).trans (by simp)⟩
      · contradiction
  | disconnect => cases stepped; exact ⟨[], by simp, fun kept => by simp [step]⟩

/-- The pipeline of the surviving buffers, and the two positions outside it: a
thread in the failure branch, and a flag that was given back over a queue. -/
inductive Course (self : SendState Buffer) : Prop where
  | flowing (phase : self.Phase)
  | failing (thread : Nat) (pc : SendPc Buffer) (found : self.threads[thread]? = some pc)
      (registered : self.sendRegistered = true) (carriers : tokens stage self.threads = [.failing])
      (outstanding : self.outstanding = []) (holds : stage pc = some .failing)
      (cleared : ∀ inLock, pc = .failedStore inLock → self.sendBuffers = [])
  | stalled (registered : self.sendRegistered = false) (carriers : tokens stage self.threads = [])
      (outstanding : self.outstanding = []) (buffers : self.sendBuffers = [])

structure Leaky (state : SendState Buffer) : Prop where
  course : state.Course
  nonempty : ∀ batch ∈ state.handed, batch ≠ []

theorem fresh_leaky : (fresh : SendState Buffer).Leaky :=
  ⟨.flowing fresh_pipeline.phase, fresh_pipeline.nonempty⟩

/-- The calls of `WSASend` that fail in a step. -/
def failures : SendEvent Buffer → Nat
  | .fail _ _ => 1
  | _ => 0

/-- A step keeps the surviving buffers up with the pushed ones, up to the ones it
loses. -/
structure Leaks (event : SendEvent Buffer) (before after : SendState Buffer) : Prop where
  leaky : after.Leaky
  lost : after.surviving.length + before.pushed.length + failures event ≤
    before.surviving.length + after.pushed.length

theorem Phase.rebase {self : SendState Buffer} (phase : self.Phase) (kept : List Buffer) :
    Phase { self with pushed := kept } := by
  cases phase with
  | idle registered carriers outstanding queue buffers =>
      exact .idle registered carriers outstanding queue buffers
  | held current registered carriers outstanding carries =>
      refine .held current registered carriers outstanding ?_
      cases current <;> exact carries
  | network batch registered carriers outstanding owner buffers nonempty =>
      exact .network batch registered carriers outstanding owner buffers nonempty
  | lost registered disconnected carriers outstanding =>
      exact .lost registered disconnected carriers outstanding

theorem Leaks.of_pipeline (succeeds : Succeeds event) (stepped : step event self = some next)
    (phase : self.Phase) (nonempty : ∀ batch ∈ self.handed, batch ≠ []) :
    Leaks event self next := by
  obtain ⟨more, pushed, rebased⟩ := step_rebase stepped
  have valid : Pipeline { self with pushed := self.surviving } :=
    ⟨phase.rebase self.surviving, nonempty, rfl⟩
  have after := step_pipeline succeeds (rebased self.surviving) valid
  have kept : next.surviving = self.surviving ++ more := after.ledger
  have none : failures event = 0 := by
    cases event with
    | fail _ _ => exact succeeds.elim
    | _ => rfl
  refine ⟨⟨.flowing (after.phase.rebase next.pushed), after.nonempty⟩, ?_⟩
  rw [kept, pushed, none, List.length_append, List.length_append]
  omega

/-- The failing call loses a batch, and batches are not empty. -/
theorem Leaks.of_fail {self : SendState Buffer}
    (found : self.threads[thread]? = some (.registerSend inLock)) (phase : self.Phase)
    (nonempty : ∀ batch ∈ self.handed, batch ≠ []) :
    Leaks (.fail thread errorCode) self (self.goto thread (.failed inLock errorCode)) := by
  have valid : Pipeline { self with pushed := self.surviving } :=
    ⟨phase.rebase self.surviving, nonempty, rfl⟩
  obtain ⟨registered, outstanding, ⟨buffers, _⟩, ledger, moved⟩ := valid.carrier found rfl
  have within : thread < self.threads.length := (List.getElem?_eq_some_iff.mp found).1
  have carriers : tokens stage (self.threads.set thread (.failed inLock errorCode)) =
    [.failing] := moved _
  have course : Course (self.goto thread (.failed inLock errorCode)) :=
    .failing thread _ (List.getElem?_set_self within) registered carriers outstanding rfl (by simp)
  refine ⟨⟨course, nonempty⟩, ?_⟩
  have before : self.surviving = self.handed.flatten ++ self.sendBuffers ++
    self.sendQueue := ledger.symm
  have after : surviving (self.goto thread (.failed inLock errorCode)) =
      self.handed.flatten ++ self.sendQueue := by
    simp only [surviving, inTransit, goto, carriers, drained, List.append_nil]
  have occupied : 0 < self.sendBuffers.length := List.length_pos_of_ne_nil buffers
  rw [after, before]
  simp only [failures, goto, List.length_append]
  omega

theorem surviving_of_carriers {self : SendState Buffer}
    (same : tokens stage self.threads = carriers) :
    self.surviving = self.handed.flatten ++ drained carriers self.sendBuffers ++ self.sendQueue :=
      by
  rw [surviving, inTransit, same]

/-- The steps of the thread in the failure branch. -/
theorem Leaks.of_failing {self : SendState Buffer} (none : failures event = 0)
    (found : self.threads[thread]? = some pc) (stepped : self.advance thread pc = some next)
    (nonempty : ∀ batch ∈ self.handed, batch ≠ []) (registered : self.sendRegistered = true)
    (carriers : tokens stage self.threads = [.failing]) (outstanding : self.outstanding = [])
    (holds : stage pc = some .failing)
    (cleared : ∀ inLock, pc = .failedStore inLock → self.sendBuffers = []) :
    Leaks event self next := by
  have within : thread < self.threads.length := (List.getElem?_eq_some_iff.mp found).1
  have moved := fun after => (tokens_set_holder after found holds carriers).2
  have before := surviving_of_carriers carriers
  -- three steps stay in the branch, the last one gives the flag back
  cases pc with
  | failed inLock errorCode =>
      cases stepped
      have still := moved (.failedOwner inLock)
      refine ⟨⟨.failing thread _ (List.getElem?_set_self within) registered still
        outstanding rfl (by simp), nonempty⟩, ?_⟩
      rw [none, before, surviving_of_carriers still]
      exact Nat.le_refl _
  | failedOwner inLock =>
      cases stepped
      have still := moved (.failedClear inLock)
      refine ⟨⟨.failing thread _ (List.getElem?_set_self within) registered still
        outstanding rfl (by simp), nonempty⟩, ?_⟩
      rw [none, before, surviving_of_carriers still]
      exact Nat.le_refl _
  | failedClear inLock =>
      cases stepped
      have still := moved (.failedStore inLock)
      refine ⟨⟨.failing thread _ (List.getElem?_set_self within) registered still outstanding rfl
        (fun _ _ => rfl), nonempty⟩, ?_⟩
      rw [none, before, surviving_of_carriers still]
      exact Nat.le_refl _
  | failedStore inLock =>
      cases stepped
      have gone : tokens stage (self.threads.set thread (afterRegister inLock)) = [] :=
        (moved _).trans (by rw [stage_afterRegister]; rfl)
      refine ⟨⟨.stalled rfl gone outstanding (cleared inLock rfl), nonempty⟩, ?_⟩
      rw [none, before, surviving_of_carriers gone]
      exact Nat.le_refl _
  | _ => simp [stage] at holds

/-- Steps of a thread outside the pipeline that touch nothing but `_lock`. -/
theorem Leaks.of_bystander {self : SendState Buffer} {threads : List (SendPc Buffer)}
    (none : failures event = 0) (lock : Option Nat) (connected : Bool)
    (same : tokens stage threads = tokens stage self.threads)
    (keeps : ∀ (thread : Nat) (pc : SendPc Buffer), self.threads[thread]? = some pc →
      stage pc = some .failing →
      threads[thread]? = some pc) (nonempty : ∀ batch ∈ self.handed, batch ≠ [])
    (course : self.Course) (broken : ¬ self.Phase) :
    Leaks event self { self with threads, lock, connected } := by
  have after : surviving { self with threads, lock, connected } = self.surviving :=
    surviving_of_carriers same
  refine ⟨⟨?_, nonempty⟩, ?_⟩
  · cases course with
    | flowing phase => exact absurd phase broken
    | failing thread pc found registered carriers outstanding holds cleared =>
        exact .failing thread pc (keeps thread pc found holds) registered
          (same.trans carriers) outstanding holds cleared
    | stalled registered carriers outstanding buffers =>
        exact .stalled registered (same.trans carriers) outstanding buffers
  · rw [none, after]
    exact Nat.le_refl _

/-- `Send` finds the flag set by the failing thread and leaves its buffer to it,
or finds it given back and takes the queue over. -/
theorem Leaks.of_push {self : SendState Buffer} (none : failures event = 0)
    (found : self.threads[thread]? = some (.sendPush buffer))
    (nonempty : ∀ batch ∈ self.handed, batch ≠ []) (course : self.Course) (broken : ¬ self.Phase) :
    Leaks event self ({ self with
      sendQueue := self.sendQueue ++ [buffer], pushed := self.pushed ++ [buffer],
      sendRegistered := true }.goto thread
        (if self.sendRegistered then .returned else .register false)) := by
  cases course with
  | flowing phase => exact absurd phase broken
  | failing other pc foundOther registered carriers outstanding holds cleared =>
      have same : tokens stage (self.threads.set thread .returned) = [.failing] :=
        (tokens_set_bystander found rfl rfl).trans carriers
      have apart : thread ≠ other := by
        intro here
        subst here
        cases found.symm.trans foundOther
        simp [stage] at holds
      have still : (self.threads.set thread .returned)[other]? = some pc := by
        rw [List.getElem?_set_ne apart]
        exact foundOther
      simp only [registered, if_true]
      refine ⟨⟨.failing other pc still rfl same outstanding holds cleared, nonempty⟩, ?_⟩
      rw [none, surviving_of_carriers carriers, surviving_of_carriers same]
      simp only [goto, drained, List.length_append]
      omega
  | stalled registered carriers outstanding buffers =>
      have moved : tokens stage (self.threads.set thread (.register false)) = [.registering] :=
        tokens_set_of_nil _ found carriers
      simp only [registered, Bool.false_eq_true, if_false]
      refine ⟨⟨.flowing (.held .registering rfl moved outstanding ⟨by simp [goto], buffers⟩),
        nonempty⟩, ?_⟩
      rw [none, surviving_of_carriers carriers, surviving_of_carriers moved]
      simp only [goto, drained, List.length_append]
      omega

theorem Leaks.of_run {self next : SendState Buffer} (none : failures event = 0)
    (found : self.threads[thread]? = some pc) (stepped : self.advance thread pc = some next)
    (nonempty : ∀ batch ∈ self.handed, batch ≠ []) (course : self.Course) (broken : ¬ self.Phase) :
    Leaks event self next := by
  cases holds : stage pc with
  | some current =>
      cases course with
      | flowing phase => exact absurd phase broken
      | failing other pc' foundOther registered carriers outstanding holdsOther cleared =>
          have here := holder_unique carriers found holds foundOther holdsOther
          subst here
          cases found.symm.trans foundOther
          exact .of_failing none found stepped nonempty registered carriers outstanding
            holdsOther cleared
      | stalled _ carriers =>
          have present : current ∈ tokens stage self.threads :=
            List.mem_filterMap.mpr ⟨pc, List.mem_of_getElem? found, holds⟩
          simp [carriers] at present
  | none =>
      have keeps : ∀ after (other : Nat) (pc' : SendPc Buffer), self.threads[other]? = some pc' →
          stage pc' = some .failing → (self.threads.set thread after)[other]? = some pc' := by
        intro after other pc' foundOther fails
        have apart : thread ≠ other := by
          intro here
          subst here
          cases found.symm.trans foundOther
          simp [holds] at fails
        rw [List.getElem?_set_ne apart]
        exact foundOther
      cases pc with
      | returned => cases stepped
      | send buffer =>
          cases stepped
          exact .of_bystander none self.lock self.connected
            (tokens_set_bystander found rfl (by split <;> rfl)) (keeps _) nonempty course broken
      | sendPush buffer =>
          simp only [advance] at stepped
          split at stepped
          · contradiction
          · cases stepped
            exact .of_push none found nonempty course broken
      | unlock =>
          cases stepped
          exact .of_bystander none Option.none self.connected
            (tokens_set_bystander found rfl rfl) (keeps _) nonempty course broken
      | _ => simp [stage] at holds

theorem step_leaky {self : SendState Buffer} (stepped : step event self = some next)
    (leaky : self.Leaky) : Leaks event self next := by
  obtain ⟨course, nonempty⟩ := leaky
  by_cases phase : self.Phase
  · cases event with
    | fail thread errorCode =>
        simp only [step] at stepped
        split at stepped
        · rename_i inLock found
          cases stepped
          exact .of_fail found phase nonempty
        · contradiction
    | _ => exact .of_pipeline trivial stepped phase nonempty
  · -- outside the pipeline nothing is outstanding and no thread is about to call WSASend
    have idle : self.outstanding = [] ∧ .sending ∉ tokens stage self.threads := by
      cases course with
      | flowing flows => exact absurd flows phase
      | failing _ _ _ _ carriers outstanding => exact ⟨outstanding, by simp [carriers]⟩
      | stalled _ carriers outstanding => exact ⟨outstanding, by simp [carriers]⟩
    cases event with
    | call buffer =>
        cases stepped
        refine .of_bystander rfl self.lock self.connected
          (by rw [tokens_append]; exact List.append_nil _) ?_ nonempty course phase
        intro thread pc found _
        rw [List.getElem?_append_left (List.getElem?_eq_some_iff.mp found).1]
        exact found
    | run thread =>
        obtain ⟨pc, found, advanced⟩ := Option.bind_eq_some_iff.mp stepped
        exact .of_run rfl found advanced nonempty course phase
    | fail thread errorCode =>
        simp only [step] at stepped
        split at stepped
        · rename_i inLock found
          have present : Stage.sending ∈ tokens stage self.threads :=
            List.mem_filterMap.mpr ⟨_, List.mem_of_getElem? found, rfl⟩
          exact absurd present idle.2
        · contradiction
    | complete call numOfBytes =>
        simp [step, idle.1] at stepped
    | disconnect =>
        cases stepped
        exact .of_bystander rfl self.lock false rfl (fun _ _ found _ => found) nonempty course phase

/-- Every failed call has cost a buffer at least. -/
theorem run_leaky (ran : system.run events before = some state) (leaky : before.Leaky) :
    state.Leaky ∧ state.surviving.length + before.pushed.length + total failures events ≤
      before.surviving.length + state.pushed.length := by
  induction events generalizing before with
  | nil =>
      cases ran
      exact ⟨leaky, by simp⟩
  | cons event rest ih =>
      obtain ⟨next, stepped, remaining⟩ := System.run_cons_some.mp ran
      obtain ⟨nextLeaky, lost⟩ := step_leaky stepped leaky
      obtain ⟨stateLeaky, later⟩ := ih remaining nextLeaky
      refine ⟨stateLeaky, ?_⟩
      simp only [total_cons]
      omega

/-- A `WSASend` that fails with one of the two codes ends the session in the next
step of its thread. -/
inductive Ending (self : SendState Buffer) : Prop where
  | closed (disconnected : self.connected = false)
  | closing (thread : Nat) (inLock : Bool) (errorCode : Nat)
      (found : self.threads[thread]? = some (.failed inLock errorCode))
      (fatal : disconnects errorCode = true)

theorem step_connected (stepped : step event self = some next) (connected : next.connected = true) :
    self.connected = true := by
  cases event with
  | call buffer => cases stepped; exact connected
  | _ =>
      cases step_pushes (by simp) stepped with
      | push _ _ _ _ _ _ _ same => rw [← same]; exact connected
      | giveUp _ _ _ disconnected => simp [connected] at disconnected
      | move _ _ _ _ _ _ _ still | spawn _ _ _ _ still | stay _ _ still => exact still connected

theorem advance_threads {self : SendState Buffer} (stepped : self.advance thread pc = some next) :
    ∃ after, next.threads = self.threads.set thread after := by
  cases pc with
  | returned => cases stepped
  | sendPush buffer | registerDrain inLock | processBytes numOfBytes =>
      simp only [advance] at stepped
      split at stepped <;> cases stepped <;> exact ⟨_, rfl⟩
  | processLock =>
      simp only [advance] at stepped
      split at stepped
      · contradiction
      · split at stepped <;> cases stepped <;> exact ⟨_, rfl⟩
  | _ => cases stepped; exact ⟨_, rfl⟩

theorem step_ending (stepped : step event self = some next) (ending : self.Ending) :
    next.Ending := by
  cases ending with
  | closed disconnected =>
      cases still : next.connected with
      | false => exact .closed still
      | true => simp [step_connected stepped still] at disconnected
  | closing thread inLock errorCode found fatal =>
      cases event with
      | call buffer =>
          cases stepped
          refine .closing thread inLock errorCode ?_ fatal
          rw [List.getElem?_append_left (List.getElem?_eq_some_iff.mp found).1]
          exact found
      | run other =>
          obtain ⟨pc, foundOther, advanced⟩ := Option.bind_eq_some_iff.mp stepped
          by_cases here : other = thread
          · subst here
            cases found.symm.trans foundOther
            cases advanced
            exact .closed (by simp [goto, fatal])
          · obtain ⟨after, threads⟩ := advance_threads advanced
            refine .closing thread inLock errorCode ?_ fatal
            rw [threads, List.getElem?_set_ne here]
            exact found
      | fail other code =>
          simp only [step] at stepped
          split at stepped
          · rename_i _ foundOther
            cases stepped
            have apart : other ≠ thread := by
              intro here
              subst here
              cases found.symm.trans foundOther
            refine .closing thread inLock errorCode ?_ fatal
            rw [goto, List.getElem?_set_ne apart]
            exact found
          · contradiction
      | complete call numOfBytes =>
          simp only [step] at stepped
          split at stepped
          · cases stepped
            refine .closing thread inLock errorCode ?_ fatal
            rw [List.getElem?_append_left (List.getElem?_eq_some_iff.mp found).1]
            exact found
          · contradiction
      | disconnect =>
          cases stepped
          exact .closed rfl

/-- A run that comes to rest with the session connected has seen no fatal failure. -/
theorem not_fatal_of_rest (ran : system.run events before = some state)
    (connected : state.connected = true) (quiet : ∀ pc ∈ state.threads, pc = .returned)
    (failed : .fail thread errorCode ∈ events) : disconnects errorCode = false := by
  obtain ⟨first, rest, rfl⟩ := List.append_of_mem failed
  obtain ⟨middle, _, later⟩ := System.run_append_some.mp ran
  obtain ⟨next, stepped, remaining⟩ := System.run_cons_some.mp later
  have stepped : step (.fail thread errorCode) middle = some next := stepped
  simp only [step] at stepped
  split at stepped
  · rename_i inLock found
    cases stepped
    by_contra fatal
    have within := (List.getElem?_eq_some_iff.mp found).1
    have closing : (middle.goto thread (.failed inLock errorCode)).Ending :=
      .closing thread inLock errorCode (List.getElem?_set_self within) (by simpa using fatal)
    cases System.run_preserves step_ending remaining closing with
    | closed disconnected => simp [connected] at disconnected
    | closing place _ _ found _ => cases quiet _ (List.mem_of_getElem? found)
  · contradiction

/-- The session at rest and connected: what `Send` accepted is with a successful
`WSASend` or queued behind an outstanding one exactly if every `WSASend` that
failed did so with an error on which `HandleError` disconnects. -/
theorem nothing_lost_iff {events : List (SendEvent Buffer)} {state : SendState Buffer}
    (ran : system.run events fresh = some state) (connected : state.connected = true)
    (quiet : ∀ pc ∈ state.threads, pc = .returned) :
    (state.handed.flatten ++ state.sendQueue = state.pushed ∧
        (state.sendQueue ≠ [] → state.outstanding ≠ [])) ↔
      ∀ thread errorCode, .fail thread errorCode ∈ events → disconnects errorCode = true := by
  have idle : state.inTransit = [] := by
    have none : tokens stage state.threads = [] := by
      refine List.filterMap_eq_nil_iff.mpr ?_
      intro pc member
      rw [quiet pc member]
      rfl
    rw [inTransit, none]
    rfl
  constructor
  · intro kept thread errorCode failed
    obtain ⟨_, bound⟩ := run_leaky ran fresh_leaky
    have counted : 1 ≤ total failures events := weight_le_total failures failed
    have lengths := congrArg List.length kept.1
    simp only [surviving, idle, List.append_nil, lengths] at bound
    simp only [fresh, inTransit, tokens, List.filterMap_nil, drained, List.flatten_nil,
      List.append_nil, List.length_nil] at bound
    omega
  · intro fatal
    have succeed : ∀ event ∈ events, Succeeds event := by
      intro event member
      cases event with
      | fail thread errorCode =>
          have harmless := not_fatal_of_rest ran connected quiet member
          simp [fatal thread errorCode member] at harmless
      | _ => trivial
    have valid := run_pipeline succeed ran
    have ledger := valid.ledger
    rw [idle, List.append_nil] at ledger
    exact ⟨ledger, fun queued => valid.no_lost_wakeup connected queued quiet⟩

/-- Two buffers sent without a failure, the second still on its way. -/
theorem nothing_lost_iff_two_sent :
    let events : List (SendEvent Nat) := [.call 7, .run 0, .run 0, .run 0, .run 0, .run 0, .run 0,
      .complete 0 5, .run 1, .run 1, .run 1, .run 1, .call 8, .run 2, .run 2, .run 2,
      .run 2, .run 2, .run 2]
    ∃ state, system.run events fresh = some state ∧ state.pushed = [7, 8] ∧
      state.handed.flatten ++ state.sendQueue = state.pushed := by
  intro events
  obtain ⟨state, ran, connected, quiet, pushed⟩ : ∃ state, system.run events fresh = some state ∧
      state.connected = true ∧ (∀ pc ∈ state.threads, pc = .returned) ∧ state.pushed = [7, 8] :=
    ⟨_, rfl, rfl, by decide, rfl⟩
  have kept := (nothing_lost_iff ran connected quiet).mpr (by simp [events])
  exact ⟨state, ran, pushed, kept.1⟩

/-- `WSASend` fails for want of buffer space (`WSAENOBUFS`) while a second thread
sends: the first buffer is gone, the second is queued with nothing to wake it. -/
theorem failed_send_loses_buffer :
    let events : List (SendEvent Nat) := [.call 7, .run 0, .run 0, .run 0, .run 0, .run 0,
      .call 8, .run 1, .run 1, .fail 0 10055, .run 0, .run 0, .run 0, .run 0]
    ∃ state, system.run events fresh = some state ∧ state.connected = true ∧
      (∀ pc ∈ state.threads, pc = .returned) ∧ state.pushed = [7, 8] ∧ state.handed = [] ∧
      state.sendQueue = [8] ∧ state.outstanding = [] := by
  exact ⟨_, rfl, rfl, by decide, rfl, rfl, rfl, rfl⟩

end ChattingProgram.Core.SendState
