import ChattingProgram.Core.SessionBooks

namespace ChattingProgram.Core

open ChattingProgram.Machine

/-! # Sessions that come and go

Every step of a service is an act of one session.  What the books of a session say
holds for all sessions at once, whatever the threads of the others do.
-/

namespace Service

open SessionLife

/-- The threads at a stage of a session. -/
def staff (threads : List SessionThread) (session : Nat) (at_ : Stage) : Nat :=
  total (fun thread => if thread.session = session ∧ stage thread.pc = at_ then 1 else 0) threads

variable {self after : Service} {event : LifeEvent} {index session : Nat} {pc next : LifePc}

theorem staff_shifts (next : LifePc) (found : self.threads[index]? = some ⟨session, pc⟩) :
    Shifts (stage pc) (stage next) (staff self.threads session)
      (staff (self.threads.set index ⟨session, next⟩) session) := by
  intro at_ _
  have moved := total_set (fun thread : SessionThread => if thread.session = session ∧
    stage thread.pc = at_ then 1 else 0) ⟨session, next⟩ found
  simpa [staff] using moved

theorem staff_elsewhere (next : LifePc) (found : self.threads[index]? = some ⟨session, pc⟩)
    (apart : other ≠ session) :
    staff (self.threads.set index ⟨session, next⟩) other = staff self.threads other := by
  funext at_
  refine total_set_same _ found ?_
  simp [Ne.symm apart]

theorem staff_pos (found : self.threads[index]? = some ⟨session, pc⟩) :
    0 < staff self.threads session (stage pc) := by
  have weight := weight_le_total
    (fun thread : SessionThread => if thread.session = session ∧
    stage thread.pc = stage pc then 1 else 0) (List.mem_of_getElem? found)
  simp only [true_and, if_true] at weight
  exact weight

theorem spawn_shifts (next : LifePc) : Shifts .away (stage next) (staff self.threads session)
    (staff (self.threads ++ [⟨session, next⟩]) session) := by
  intro at_ present
  simp [staff, Ne.symm present]

theorem spawn_elsewhere (next : LifePc) (apart : other ≠ session) :
    staff (self.threads ++ [⟨session, next⟩]) other = staff self.threads other := by
  funext at_
  simp [staff, Ne.symm apart]

/-- A step changes the life of one session. -/
structure Changes (self after : Service) (orderly : Bool) (session : Nat)
    (life : SessionLife) : Prop where
  found : self.lives[session]? = some life
  crash : after.crash = self.crash
  others : ∀ other ≠ session, (other ∈ after.sessions ↔ other ∈ self.sessions) ∧
    staff after.threads other = staff self.threads other
  acts : ∃ source target next, after.lives = self.lives.set session next ∧
    Shifts source target (staff self.threads session) (staff after.threads session) ∧
    Act orderly source target life next (session ∈ self.sessions) (session ∈ after.sessions)

inductive Outcome (self after : Service) (orderly : Bool) : Prop where
  | create (lives : after.lives = self.lives ++ [⟨false, 0, 0, 0, 0, 0, 0, 0, 0, 0, 0⟩])
      (threads : after.threads = self.threads) (sessions : after.sessions = self.sessions)
      (crash : after.crash = self.crash)
  | release (session : Nat) (life : SessionLife) (found : self.lives[session]? = some life)
      (busy : 0 < staff self.threads session .erasing) (absent : session ∉ self.sessions)
  | act (session : Nat) (life : SessionLife) (changes : self.Changes after orderly session life)

/-- A thread goes on with the record of its session and `_sessions` changed. -/
theorem outcome_put (next : LifePc) (found : self.threads[index]? = some ⟨session, pc⟩)
    (living : self.lives[session]? = some life)
    (lives : after.lives = self.lives.set session changed)
    (threads : after.threads = self.threads.set index ⟨session, next⟩)
    (crash : after.crash = self.crash)
    (others : ∀ other ≠ session, (other ∈ after.sessions ↔ other ∈ self.sessions))
    (act : Act orderly (stage pc) (stage next) life changed (session ∈ self.sessions)
      (session ∈ after.sessions)) : self.Outcome after orderly := by
  refine .act session life ⟨living, crash, ?_, stage pc, stage next, changed, lives, ?_, act⟩
  · intro other apart
    refine ⟨others other apart, ?_⟩
    rw [threads]
    exact staff_elsewhere next found apart
  · rw [threads]
    exact staff_shifts next found

theorem put_same (living : self.lives[session]? = some life) :
    self.lives = self.lives.set session life := (set_same living).symm

theorem advance_outcome (found : self.threads[index]? = some ⟨session, pc⟩)
    (living : self.lives[session]? = some life)
    (stepped : self.advance index session life pc = some after) : self.Outcome after true := by
  have same := put_same living
  -- a step that leaves the record of the session and _sessions alone
  have moves : ∀ next, Act true (stage pc) (stage next) life life (session ∈ self.sessions)
      (session ∈ self.sessions) → self.Outcome (self.put index session next) true :=
    fun next act => outcome_put next found living same rfl rfl (fun _ _ => Iff.rfl) act
  -- a step that changes the record of the session
  have writes : ∀ next changed,
      Act true (stage pc) (stage next) life changed (session ∈ self.sessions)
      (session ∈ self.sessions) →
      self.Outcome ((self.setLife session changed).put index session next) true :=
    fun next changed act => outcome_put next found living rfl rfl rfl (fun _ _ => Iff.rfl) act
  cases pc with
  | returned => cases stepped
  | connect => cases stepped; exact writes _ _ .connect
  | addCount =>
      simp only [advance] at stepped
      split at stepped
      · contradiction
      · cases stepped
        exact outcome_put .addInsert found living same rfl rfl (fun _ _ => Iff.rfl) .addCount
  | addInsert =>
      cases stepped
      refine outcome_put .registerRecv found living rfl rfl rfl ?_ ?_
      · intro other apart
        simp [put, setLife, apart]
      · simp only [put, setLife, Finset.mem_insert_self, decide_true]
        exact .addInsert
  | registerRecv =>
      cases stepped
      cases connected : life.connected with
      | true => exact moves .wsaRecv .receive
      | false => exact moves .returned (.recvQuit connected)
  | wsaRecv => cases stepped; exact writes _ _ .recvPost
  | recv numOfBytes =>
      cases stepped
      split
      · exact moves .disconnect .recvDrop
      · exact moves .onWrite .receive
  | onWrite => cases stepped; exact moves .onRecv .receive
  | onRecv => cases stepped; exact moves .onRead .receive
  | onRead => cases stepped; exact moves .registerRecv .receive
  | registerSend =>
      cases stepped
      split
      · exact moves .wsaSend .send
      · exact moves .returned .sendQuit
  | wsaSend => cases stepped; exact writes _ _ .sendPost
  | processSend numOfBytes queued =>
      cases stepped
      split
      · exact moves .disconnect .sendDrop
      · split
        · exact moves .registerSend .send
        · exact moves .returned .sendQuit
  | handleError errorCode =>
      cases stepped
      cases fatal : SendState.disconnects errorCode with
      | true => exact moves .disconnect (by simp only [stage, fatal, if_true]; exact .handle)
      | false => exact moves .returned (by simp only [stage, fatal]; exact .sendQuit)
  | disconnect =>
      simp only [advance] at stepped
      split at stepped
      · rename_i connected
        cases stepped
        exact writes _ _ (.exchange connected)
      · rename_i disconnected
        cases stepped
        exact moves _ (.already (by simpa using disconnected))
  | registerDisconnect => cases stepped; exact writes _ _ .issue
  | onDisconnected => cases stepped; exact writes _ _ .onDisconnected
  | releaseErase =>
      simp only [advance] at stepped
      split at stepped
      · contradiction
      · split at stepped
        · rename_i present
          cases stepped
          refine outcome_put .releaseCount found living same rfl rfl ?_ ?_
          · intro other apart
            simp [put, apart]
          · simp only [put, present, Finset.notMem_erase, decide_true, decide_false]
            exact .erase
        · rename_i absent
          exact .release session life living (staff_pos found) absent
  | releaseCount =>
      cases stepped
      exact outcome_put .returned found living same rfl rfl (fun _ _ => Iff.rfl) .count

/-- A connect that is taken for a successful one is one, a `WSARecv` fails only with an
error on which the session disconnects, and `DisconnectEx` does not fail. -/
def Orderly : LifeEvent → Service → Prop
  | .connectComplete _ success accepts, self =>
      self.serviceType = .client ∨ accepts = true → success = true
  | .fail thread errorCode, self => ∀ current ∈ self.threads[thread]?,
      (current.pc = .wsaRecv → SendState.disconnects errorCode = true) ∧
      current.pc ≠ .registerDisconnect
  | _, _ => True

instance (self : Service) : ∀ event, Decidable (Orderly event self)
  | .connectComplete _ success accepts =>
      inferInstanceAs (Decidable (self.serviceType = .client ∨ accepts = true → success = true))
  | .fail thread errorCode => inferInstanceAs (Decidable (∀ current ∈ self.threads[thread]?,
      (current.pc = .wsaRecv → SendState.disconnects errorCode = true) ∧
      current.pc ≠ .registerDisconnect))
  | .create | .register _ | .recvComplete _ _ | .sendComplete _ _ _ | .disconnectComplete _
  | .send _ | .run _ =>
      .isTrue trivial

theorem refuse_outcome (found : self.threads[index]? = some ⟨session, pc⟩)
    (living : self.lives[session]? = some life)
    (stepped : self.refuse index session errorCode life pc = some after) :
    ∃ orderly, self.Outcome after orderly ∧
      (Orderly (.fail index errorCode) self → orderly = true) := by
  have same := put_same living
  have moves : ∀ orderly next,
      Act orderly (stage pc) (stage next) life life (session ∈ self.sessions)
      (session ∈ self.sessions) →
      self.Outcome (self.put index session next) orderly :=
    fun orderly next act => outcome_put next found living same rfl rfl (fun _ _ => Iff.rfl) act
  cases pc with
  | wsaRecv =>
      cases stepped
      cases fatal : SendState.disconnects errorCode with
      | true =>
          exact ⟨true, moves true _ (by simp only [stage, fatal, if_true]; exact .recvDrop),
            fun _ => rfl⟩
      | false =>
          refine ⟨false, moves false _ (by simp only [stage, fatal]; exact .recvLost), ?_⟩
          intro orderly
          have fails := (orderly _ found).1 rfl
          simp [fatal] at fails
  | wsaSend =>
      cases stepped
      refine ⟨true, moves true _ ?_, fun _ => rfl⟩
      simp only [stage]
      split
      · exact .sendDrop
      · exact .send
  | onWrite => cases stepped; exact ⟨true, moves true _ .recvDrop, fun _ => rfl⟩
  | onRead => cases stepped; exact ⟨true, moves true _ .recvDrop, fun _ => rfl⟩
  | registerDisconnect =>
      cases stepped
      refine ⟨false, outcome_put _ found living rfl rfl rfl (fun _ _ => Iff.rfl) .issueFails, ?_⟩
      intro orderly
      exact absurd rfl (orderly _ found).2
  | _ => cases stepped

/-- A completion starts a thread, or a call changes the record of a session. -/
theorem outcome_spawn (next : LifePc) (living : self.lives[session]? = some life)
    (act : Act orderly .away (stage next) life changed (session ∈ self.sessions)
      (session ∈ self.sessions)) :
    self.Outcome ((self.setLife session changed).spawn session next) orderly := by
  refine .act session life ⟨living, rfl, ?_, .away, stage next, changed, rfl,
    spawn_shifts next, act⟩
  intro other apart
  exact ⟨Iff.rfl, spawn_elsewhere next apart⟩

theorem outcome_setLife (living : self.lives[session]? = some life)
    (act : Act orderly .away .away life changed (session ∈ self.sessions)
      (session ∈ self.sessions)) :
    self.Outcome (self.setLife session changed) orderly := by
  refine .act session life ⟨living, rfl, fun _ _ => ⟨Iff.rfl, rfl⟩, .away, .away,
    changed, rfl, ?_, act⟩
  intro at_ present
  simp [setLife, Ne.symm present]

theorem step_outcome (stepped : step event self = some after) :
    ∃ orderly, self.Outcome after orderly ∧ (Orderly event self → orderly = true) := by
  simp only [step] at stepped
  split at stepped
  · contradiction
  cases event with
  | create => cases stepped; exact ⟨true, .create rfl rfl rfl rfl, fun _ => rfl⟩
  | register session =>
      obtain ⟨life, living, stepped⟩ := Option.bind_eq_some_iff.mp stepped
      split at stepped
      · rename_i unattempted
        cases stepped
        exact ⟨true, outcome_setLife living (.register unattempted), fun _ => rfl⟩
      · contradiction
  | connectComplete session success accepts =>
      obtain ⟨life, living, stepped⟩ := Option.bind_eq_some_iff.mp stepped
      split at stepped
      · contradiction
      · rename_i under
        have count : (if success then 1 else 0) = success.toNat := by cases success <;> rfl
        simp only [count] at stepped
        split at stepped
        · rename_i proceeds
          cases stepped
          exact ⟨success, outcome_spawn .connect living (.connected success under),
            fun orderly => orderly proceeds⟩
        · cases stepped
          exact ⟨true, outcome_setLife living (.unaccepted success under), fun _ => rfl⟩
  | recvComplete session numOfBytes =>
      obtain ⟨life, living, stepped⟩ := Option.bind_eq_some_iff.mp stepped
      split at stepped
      · contradiction
      · rename_i under
        cases stepped
        exact ⟨true, outcome_spawn (.recv numOfBytes) living (.recvComplete under), fun _ => rfl⟩
  | sendComplete session numOfBytes queued =>
      obtain ⟨life, living, stepped⟩ := Option.bind_eq_some_iff.mp stepped
      split at stepped
      · contradiction
      · rename_i under
        cases stepped
        exact ⟨true, outcome_spawn (.processSend numOfBytes queued) living (.sendComplete under),
          fun _ => rfl⟩
  | disconnectComplete session =>
      obtain ⟨life, living, stepped⟩ := Option.bind_eq_some_iff.mp stepped
      split at stepped
      · contradiction
      · rename_i under
        cases stepped
        exact ⟨true, outcome_spawn .onDisconnected living (.disconnectComplete under), fun _ => rfl⟩
  | send session =>
      obtain ⟨life, living, stepped⟩ := Option.bind_eq_some_iff.mp stepped
      split at stepped
      · contradiction
      · rename_i known
        cases stepped
        have same : self.spawn session .registerSend =
            (self.setLife session life).spawn session .registerSend := by
          rw [setLife, ← put_same living]
        rw [same]
        exact ⟨true, outcome_spawn .registerSend living (.call known), fun _ => rfl⟩
  | run thread =>
      obtain ⟨⟨session, pc⟩, found, stepped⟩ := Option.bind_eq_some_iff.mp stepped
      obtain ⟨life, living, stepped⟩ := Option.bind_eq_some_iff.mp stepped
      exact ⟨true, advance_outcome found living stepped, fun _ => rfl⟩
  | fail thread errorCode =>
      obtain ⟨⟨session, pc⟩, found, stepped⟩ := Option.bind_eq_some_iff.mp stepped
      obtain ⟨life, living, stepped⟩ := Option.bind_eq_some_iff.mp stepped
      exact refuse_outcome found living stepped

/-! ## Whole runs -/

structure Booked (state : Service) : Prop where
  running : state.crash = false
  books : ∀ {session life}, state.lives[session]? = some life →
    Sound life (session ∈ state.sessions) (staff state.threads session)
  unborn : ∀ session, state.lives.length ≤ session →
    session ∉ state.sessions ∧ ∀ at_, staff state.threads session at_ = 0

/-- What `ReleaseSession` asserts. -/
theorem Booked.present (booked : self.Booked) (found : self.lives[session]? = some life)
    (busy : 0 < staff self.threads session .erasing) : session ∈ self.sessions := by
  obtain ⟨once, opened, added, closed, ended, listed, erased, received, known⟩ := booked.books found
  by_contra absent
  simp only [absent, decide_false, Bool.toNat_false] at listed
  by_cases unknown : life.additions = 0
  · have none := known unknown
    omega
  · omega

theorem step_booked (stepped : system.step event self = some after) (booked : self.Booked) :
    after.Booked := by
  obtain ⟨orderly, outcome, _⟩ := step_outcome stepped
  cases outcome with
  | release session life found busy absent => exact absurd (booked.present found busy) absent
  | create lives threads sessions crash =>
      refine ⟨crash.trans booked.running, ?_, ?_⟩
      · intro session life found
        rw [lives] at found
        rw [threads, sessions]
        rcases getElem?_concat_cases found with old | ⟨rfl, rfl⟩
        · exact booked.books old
        · obtain ⟨absent, idle⟩ := booked.unborn self.lives.length (Nat.le_refl _)
          simp only [absent, decide_false]
          constructor <;> simp [idle]
      · intro session beyond
        rw [lives, List.length_append] at beyond
        rw [threads, sessions]
        exact booked.unborn session (by omega)
  | act session life changes =>
      obtain ⟨found, crash, others, source, target, next, lives, shifts, act⟩ := changes
      refine ⟨crash.trans booked.running, ?_, ?_⟩
      · intro place other here
        rw [lives] at here
        rcases getElem?_set_cases here with ⟨rfl, rfl⟩ | ⟨apart, elsewhere⟩
        · exact sound_act act shifts (booked.books found)
        · obtain ⟨same, staffed⟩ := others place (Ne.symm apart)
          simp only [same, staffed]
          exact booked.books elsewhere
      · intro place beyond
        rw [lives, List.length_set] at beyond
        have apart : place ≠ session := by
          rintro rfl
          have within := (List.getElem?_eq_some_iff.mp found).1
          omega
        obtain ⟨same, staffed⟩ := others place apart
        rw [same, staffed]
        exact booked.unborn place beyond

theorem fresh_booked (serviceType : ServiceType) : (fresh serviceType).Booked :=
  ⟨rfl, by simp [fresh], by simp [fresh, staff]⟩

theorem run_booked {serviceType : ServiceType}
    (ran : system.run events (fresh serviceType) = some self) : self.Booked :=
  System.run_preserves step_booked ran (fresh_booked serviceType)

/-! ## `_sessionCount` -/

/-- The threads between the two statements of `AddSession` or of `ReleaseSession`. -/
def inside (threads : List SessionThread) : Nat :=
  total (fun thread => if thread.pc = .addInsert ∨ thread.pc = .releaseCount then 1 else 0) threads

structure Counted (state : Service) : Prop where
  lock : inside state.threads = state.locked.toNat
  count : state.sessionCount = state.sessions.card + inside state.threads

/-- A thread that is not between the two statements goes on and does not get there. -/
theorem Counted.move (counted : self.Counted) (next : LifePc) (lives : List SessionLife)
    (found : self.threads[index]? = some ⟨session, pc⟩)
    (before : pc ≠ .addInsert ∧ pc ≠ .releaseCount)
    (later : next ≠ .addInsert ∧ next ≠ .releaseCount) :
    Counted { self with lives := lives, threads := self.threads.set index ⟨session, next⟩ } := by
  have same : inside (self.threads.set index ⟨session, next⟩) = inside self.threads := by
    refine total_set_same _ found ?_
    simp [before, later]
  exact ⟨same.trans counted.lock, by rw [same]; exact counted.count⟩

theorem Counted.spawn (counted : self.Counted) (next : LifePc) (lives : List SessionLife)
    (later : next ≠ .addInsert ∧ next ≠ .releaseCount) :
    Counted { self with lives := lives, threads := self.threads ++ [⟨session, next⟩] } := by
  have same : inside (self.threads ++ [⟨session, next⟩]) = inside self.threads := by
    simp [inside, later]
  exact ⟨same.trans counted.lock, by rw [same]; exact counted.count⟩

theorem advance_counted (booked : self.Booked) (counted : self.Counted)
    (found : self.threads[index]? = some ⟨session, pc⟩)
    (living : self.lives[session]? = some life)
    (stepped : self.advance index session life pc = some after) : after.Counted := by
  have moved := fun next => total_set
    (fun thread : SessionThread => if thread.pc = .addInsert ∨
    thread.pc = .releaseCount then 1 else 0)
    (⟨session, next⟩ : SessionThread) found
  obtain ⟨lock, count⟩ := counted
  cases pc with
  | returned => cases stepped
  | addCount =>
      simp only [advance] at stepped
      split at stepped
      · contradiction
      · rename_i unlocked
        cases stepped
        have grown : inside (self.threads.set index ⟨session, .addInsert⟩) =
            inside self.threads + 1 := by
          simpa [inside] using moved .addInsert
        simp only [unlocked, Bool.toNat_false] at lock
        refine ⟨?_, ?_⟩
        · simp only [put, grown, lock, Bool.toNat_true]
        · simp only [put, grown, count]
          omega
  | addInsert =>
      cases stepped
      have shrunk : inside (self.threads.set index ⟨session, .registerRecv⟩) + 1 =
          inside self.threads := by
        simpa [inside] using moved .registerRecv
      have absent : session ∉ self.sessions := by
        obtain ⟨once, opened, added, closed, ended, listed, erased, received, known⟩ :=
          booked.books living
        have busy : 0 < staff self.threads session .inserting := staff_pos found
        intro present
        simp only [present, decide_true, Bool.toNat_true] at listed
        have none := known (by omega)
        omega
      have locked := self.locked.toNat_le
      refine ⟨?_, ?_⟩
      · simp only [put, setLife, Bool.toNat_false]
        omega
      · simp only [put, setLife, Finset.card_insert_of_notMem absent, count]
        omega
  | releaseErase =>
      simp only [advance] at stepped
      split at stepped
      · contradiction
      · rename_i unlocked
        split at stepped
        · rename_i present
          cases stepped
          have grown : inside (self.threads.set index ⟨session, .releaseCount⟩) =
              inside self.threads + 1 := by
            simpa [inside] using moved .releaseCount
          have occupied := Finset.card_pos.mpr ⟨session, present⟩
          simp only [unlocked, Bool.toNat_false] at lock
          refine ⟨?_, ?_⟩
          · simp only [put, grown, lock, Bool.toNat_true]
          · simp only [put, grown, count, Finset.card_erase_of_mem present]
            omega
        · rename_i absent
          exact absurd (booked.present living (staff_pos found)) absent
  | releaseCount =>
      cases stepped
      have shrunk : inside (self.threads.set index ⟨session, .returned⟩) + 1 =
          inside self.threads := by
        simpa [inside] using moved .returned
      have locked := self.locked.toNat_le
      refine ⟨?_, ?_⟩
      · simp only [put, Bool.toNat_false]
        omega
      · simp only [put, count]
        omega
  | disconnect =>
      simp only [advance] at stepped
      split at stepped <;> cases stepped <;>
        exact Counted.move ⟨lock, count⟩ _ _ found (by simp) (by simp)
  | registerRecv | recv _ | registerSend | handleError _ =>
      cases stepped
      refine Counted.move ⟨lock, count⟩ _ _ found (by simp) ?_
      split <;> simp
  | processSend _ _ =>
      cases stepped
      refine Counted.move ⟨lock, count⟩ _ _ found (by simp) ?_
      split
      · simp
      · split <;> simp
  | _ =>
      cases stepped
      exact Counted.move ⟨lock, count⟩ _ _ found (by simp) (by simp)

theorem refuse_counted (counted : self.Counted)
    (found : self.threads[index]? = some ⟨session, pc⟩)
    (stepped : self.refuse index session errorCode life pc = some after) : after.Counted := by
  cases pc with
  | wsaRecv | wsaSend | onWrite | onRead | registerDisconnect =>
      cases stepped
      exact counted.move _ _ found (by simp) (by simp)
  | _ => cases stepped

theorem step_counted (booked : self.Booked) (stepped : step event self = some after)
    (counted : self.Counted) : after.Counted := by
  simp only [step] at stepped
  split at stepped
  · contradiction
  cases event with
  | create => cases stepped; exact ⟨counted.lock, counted.count⟩
  | register session =>
      obtain ⟨life, living, stepped⟩ := Option.bind_eq_some_iff.mp stepped
      split at stepped
      · cases stepped
        exact ⟨counted.lock, counted.count⟩
      · contradiction
  | connectComplete session success accepts =>
      obtain ⟨life, living, stepped⟩ := Option.bind_eq_some_iff.mp stepped
      split at stepped
      · contradiction
      · split at stepped <;> cases stepped
        · exact counted.spawn _ _ (by simp)
        · exact ⟨counted.lock, counted.count⟩
  | recvComplete session _ | sendComplete session _ _ | disconnectComplete session | send session =>
      obtain ⟨life, living, stepped⟩ := Option.bind_eq_some_iff.mp stepped
      split at stepped
      · contradiction
      · cases stepped
        exact counted.spawn _ _ (by simp)
  | run thread =>
      obtain ⟨⟨session, pc⟩, found, stepped⟩ := Option.bind_eq_some_iff.mp stepped
      obtain ⟨life, living, stepped⟩ := Option.bind_eq_some_iff.mp stepped
      exact advance_counted booked counted found living stepped
  | fail thread errorCode =>
      obtain ⟨⟨session, pc⟩, found, stepped⟩ := Option.bind_eq_some_iff.mp stepped
      obtain ⟨life, living, stepped⟩ := Option.bind_eq_some_iff.mp stepped
      exact refuse_counted counted found stepped

theorem run_counted {serviceType : ServiceType}
    (ran : system.run events (fresh serviceType) = some self) : self.Counted := by
  have keeps : ∀ {event before next}, system.step event before = some next →
      before.Booked ∧ before.Counted → next.Booked ∧ next.Counted :=
    fun stepped both => ⟨step_booked stepped both.1, step_counted both.1 stepped both.2⟩
  have start : (fresh serviceType).Booked ∧ (fresh serviceType).Counted :=
    ⟨fresh_booked serviceType, rfl, rfl⟩
  exact (System.run_preserves keeps ran start).2

/-- `_sessionCount` is an `int32_t`, and `CreateSession` has made every session that it counts. -/
theorem sessionCount_fits {serviceType : ServiceType}
    (ran : system.run events (fresh serviceType) = some self)
    (few : self.lives.length + 1 < 2 ^ 31) :
    0 ≤ self.sessionCount ∧ self.sessionCount < 2 ^ 31 := by
  obtain ⟨lock, count⟩ := run_counted ran
  have made : self.sessions ⊆ Finset.range self.lives.length := by
    intro session present
    by_contra unmade
    rw [Finset.mem_range, Nat.not_lt] at unmade
    exact ((run_booked ran).unborn session unmade).1 present
  have few_sessions := Finset.card_le_card made
  rw [Finset.card_range] at few_sessions
  have one := Bool.toNat_le self.locked
  omega

/-- Any number of sessions, in any interleaving of completions and of the threads that
send and disconnect: `ReleaseSession` finds its session, the count is right outside
`AddSession` and `ReleaseSession`, and a session has at most one `DisconnectEx`, one
`OnDisconnected` after its `AddSession`, and one receive, under way or in a thread that
has not yet called `WSARecv` again. -/
theorem lifecycle_safe {serviceType : ServiceType} {events : List LifeEvent} {state : Service}
    (ran : system.run events (fresh serviceType) = some state) :
    state.crash = false ∧
      ((∀ thread ∈ state.threads, thread.pc ≠ .addInsert ∧ thread.pc ≠ .releaseCount) →
        state.sessionCount = state.sessions.card) ∧
      ∀ session life, state.lives[session]? = some life →
        life.calls ≤ 1 ∧ life.ends ≤ 1 ∧ (0 < life.ends → life.additions = 1) ∧
          life.receives + staff state.threads session .receiving ≤ 1 := by
  have booked := run_booked ran
  have counted := run_counted ran
  refine ⟨booked.running, ?_, ?_⟩
  · intro outside
    have none : inside state.threads = 0 := by
      refine total_eq_zero.mpr ?_
      intro thread member
      simp [outside thread member]
    have count := counted.count
    rw [none] at count
    simpa using count
  · intro session life found
    obtain ⟨once, opened, added, closed, ended, listed, erased, received, known⟩ :=
      booked.books found
    refine ⟨by omega, by omega, ?_, by omega⟩
    intro ran
    by_cases unknown : life.additions = 0
    · have none := known unknown
      omega
    · omega

/-- A receive of 0 bytes and a failed send disconnect a session at the same time. -/
theorem lifecycle_safe_two_disconnects :
    let events : List LifeEvent := [.create, .register 0, .connectComplete 0 true true,
      .run 0, .run 0, .run 0, .run 0, .run 0, .send 0, .run 1, .recvComplete 0 0, .run 2,
      .fail 1 10054, .run 1,
        .run 2, .run 1, .run 2,
      .disconnectComplete 0, .run 3, .run 3, .run 3]
    ∃ state, system.run events (fresh .server) = some state ∧
      state.lives.map SessionLife.ends = [1] ∧ state.sessionCount = 0 ∧ state.crash = false := by
  intro events
  obtain ⟨state, ran, ends, count⟩ : ∃ state, system.run events (fresh .server) = some state ∧
      state.lives.map SessionLife.ends = [1] ∧ state.sessionCount = 0 := ⟨_, rfl, rfl, rfl⟩
  exact ⟨state, ran, ends, count, (lifecycle_safe ran).1⟩

/-! ## Zombies -/

/-- Nothing of the session is running and no `DisconnectEx` waits for its completion. -/
def AtRest (self : Service) (session : Nat) (life : SessionLife) : Prop :=
  life.disconnects = 0 ∧ ∀ thread ∈ self.threads, thread.session = session → thread.pc = .returned

inductive Condition where
  | neverConnected
  | live
  | gone
deriving Repr, DecidableEq

def Fits (self : Service) (session : Nat) (life : SessionLife) : Condition → Prop
  | .neverConnected => life.links = 0 ∧ session ∉ self.sessions
  | .live =>
      life.connected = true ∧ 0 < life.established ∧ session ∈ self.sessions ∧ 0 < life.receives
  | .gone => life.connected = false ∧ life.ends = 1 ∧ session ∉ self.sessions

theorem step_watched (stepped : system.step event self = some after)
    (orderly : Orderly event self) (booked : self.Booked)
    (watched : ∀ session life, self.lives[session]? = some life →
      Watched life (staff self.threads session)) :
    ∀ session life, after.lives[session]? = some life →
      Watched life (staff after.threads session) := by
  obtain ⟨met, outcome, meets⟩ := step_outcome stepped
  cases meets orderly
  intro place other here
  cases outcome with
  | release session life found busy absent => exact absurd (booked.present found busy) absent
  | create lives threads sessions crash =>
      rw [lives] at here
      rw [threads]
      rcases getElem?_concat_cases here with old | ⟨rfl, rfl⟩
      · exact watched place other old
      · obtain ⟨_, idle⟩ := booked.unborn self.lives.length (Nat.le_refl _)
        constructor <;> simp [idle]
  | act session life changes =>
      obtain ⟨found, crash, others, source, target, next, lives, shifts, act⟩ := changes
      rw [lives] at here
      rcases getElem?_set_cases here with ⟨rfl, rfl⟩ | ⟨apart, elsewhere⟩
      · exact watched_act act shifts (watched place life found) (booked.books found)
      · rw [(others place (Ne.symm apart)).2]
        exact watched place other elsewhere

theorem staff_of_rest (rest : self.AtRest session life) (busy : at_ ≠ .away) :
    staff self.threads session at_ = 0 := by
  refine total_eq_zero.mpr ?_
  intro thread member
  refine if_neg ?_
  rintro ⟨mine, here⟩
  rw [rest.2 thread member mine] at here
  exact busy here.symm

/-- In every run whose steps are orderly, a session at rest was never connected, or is
connected and receiving, or is disconnected and gone. -/
theorem no_zombie {serviceType : ServiceType} {events : List LifeEvent} {state : Service}
    {session : Nat} {life : SessionLife}
    (orderly : system.Guarded Orderly events (fresh serviceType))
    (ran : system.run events (fresh serviceType) = some state)
    (found : state.lives[session]? = some life) (rest : state.AtRest session life) :
    ∃! condition, state.Fits session life condition := by
  have keeps : ∀ {event before next}, Orderly event before → system.step event before = some next →
      (before.Booked ∧ ∀ session life, before.lives[session]? = some life →
        Watched life (staff before.threads session)) →
      (next.Booked ∧ ∀ session life, next.lives[session]? = some life →
          Watched life (staff next.threads session)) :=
    fun orderly stepped both => ⟨step_booked stepped both.1,
    step_watched stepped orderly both.1 both.2⟩
  obtain ⟨booked, watched⟩ := System.run_preserves_guarded keeps orderly ran
    ⟨fresh_booked serviceType, by simp [fresh]⟩
  obtain ⟨once, opened, added, closed, ended, listed, erased, received, known⟩ := booked.books found
  obtain ⟨established, issued, receives⟩ := watched session life found
  have idle : ∀ at_, at_ ≠ Stage.away → staff state.threads session at_ = 0 := fun _ =>
    staff_of_rest rest
  simp only [idle _ (by decide : Stage.opening ≠ .away), idle _ (by decide : Stage.adding ≠ .away),
    idle _ (by decide : Stage.inserting ≠ .away), idle _ (by decide : Stage.receiving ≠ .away),
    idle _ (by decide : Stage.leaving ≠ .away), idle _ (by decide : Stage.closing ≠ .away),
    idle _ (by decide : Stage.ending ≠ .away), idle _ (by decide : Stage.erasing ≠ .away),
    rest.1] at *
  have flag := life.connected.toNat_le
  have presence : (decide (session ∈ state.sessions)).toNat =
      if session ∈ state.sessions then 1 else 0 := by
    split <;> simp_all
  rw [presence] at listed
  -- the links and the flag decide which condition it is, and exclude the others
  by_cases linked : life.links = 0
  · have unknown := known (by omega)
    have absent : session ∉ state.sessions := by
      intro present
      rw [if_pos present] at listed
      omega
    refine ⟨.neverConnected, ⟨linked, absent⟩, ?_⟩
    intro condition fits
    cases condition with
    | neverConnected => rfl
    | live => exact absurd fits.2.2.1 absent
    | gone =>
        have ran := fits.2.1
        omega
  · cases connected : life.connected with
    | true =>
        rw [connected, Bool.toNat_true] at closed
        have present : session ∈ state.sessions := by
          by_contra absent
          rw [if_neg absent] at listed
          omega
        have receiving := receives connected (by omega)
        refine ⟨.live, ⟨connected, by omega, present, by omega⟩, ?_⟩
        intro condition fits
        cases condition with
        | neverConnected => exact absurd fits.1 linked
        | live => rfl
        | gone => exact absurd (connected.symm.trans fits.1) (by decide)
    | false =>
        rw [connected, Bool.toNat_false] at closed
        have absent : session ∉ state.sessions := by
          intro present
          rw [if_pos present] at listed
          omega
        refine ⟨.gone, ⟨connected, by omega, absent⟩, ?_⟩
        intro condition fits
        cases condition with
        | neverConnected => exact absurd fits.1 linked
        | live => exact absurd fits.2.2.1 absent
        | gone => rfl

/-- A session that connects, receives a packet, receives 0 bytes and goes. -/
theorem no_zombie_whole_life :
    let events : List LifeEvent := [.create, .register 0, .connectComplete 0 true true,
      .run 0, .run 0, .run 0, .run 0, .run 0, .recvComplete 0 12, .run 1, .run 1, .run 1, .run 1,
      .run 1, .run 1,
        .recvComplete 0 0,
      .run 2, .run 2, .run 2, .disconnectComplete 0, .run 3, .run 3, .run 3]
    ∃ state life, system.run events (fresh .server) = some state ∧ state.lives[0]? = some life ∧
      state.Fits 0 life .gone ∧ ∃! condition, state.Fits 0 life condition := by
  intro events
  have orderly : system.Guarded Orderly events (fresh .server) := by decide
  obtain ⟨state, life, ran, found, rest, gone⟩ : ∃ state life,
      system.run events (fresh .server) = some state ∧
      state.lives[0]? = some life ∧ state.AtRest 0 life ∧ state.Fits 0 life .gone :=
    ⟨_, _, rfl, rfl, ⟨rfl, by decide⟩, rfl, rfl, by decide⟩
  exact ⟨state, life, ran, found, gone, no_zombie orderly ran found rest⟩

/-- `ConnectEx` fails, and so does the `WSARecv` that follows (`WSAENOTCONN`): the session
counts as connected and stays in `_sessions` with nothing under way. -/
theorem failed_connect_leaves_zombie :
    let events : List LifeEvent := [.create, .register 0, .connectComplete 0 false false,
      .run 0, .run 0, .run 0, .run 0, .fail 0 10057, .run 0]
    ∃ state life, system.run events (fresh .client) = some state ∧ state.lives[0]? = some life ∧
      state.AtRest 0 life ∧ life.connected = true ∧ 0 ∈ state.sessions ∧ life.receives = 0 ∧
      ∀ condition, ¬ state.Fits 0 life condition := by
  refine ⟨_, _, rfl, rfl, ⟨rfl, by decide⟩, rfl, by decide, rfl, ?_⟩
  intro condition fits
  cases condition with
  | neverConnected => exact absurd fits.1 (by decide)
  | live => exact absurd fits.2.1 (by decide)
  | gone => exact absurd fits.1 (by decide)

end Service

end ChattingProgram.Core
