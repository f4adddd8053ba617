import ChattingProgram.Core.LockExclusion

namespace ChattingProgram.Core

open ChattingProgram.Machine

/-! # Nested acquisitions

A thread that holds the lock takes its next acquisition without the others.  The lock
does not know its readers, so a reader that reads again waits behind a writer, and the
writer waits for the reader.
-/

namespace LockThread

variable (thread : LockThread)

def inReadLock : Bool :=
  match thread.pc with
  | .readOwner | .loadPending | .loadState | .readCas _ => true
  | _ => false

def acquires : Bool := thread.inWriteLock || thread.inReadLock

/-- A read that is counted again. -/
def rereads : Bool := thread.inReadLock && thread.countedReads != 0

def holdsLock : Bool := thread.possesses || thread.holds != []

end LockThread

/-- What a thread that never asks for a write inside its reads finds at a position, while
there are fewer than 2^31 - 1 reads. -/
def LockPc.Plain (holds : List Hold) : LockPc → Prop
  | .writeOwner => holds = [] ∨ .write ∈ holds
  | .addPending | .writeCas | .storeOwner | .storeRecursion | .subPending => holds = []
  | .readCas expected => expected + 1 < 2 ^ 31
  | _ => True

/-- A CAS that counts one more read leaves room for the next. -/
def LockPc.Leaves : LockPc → Prop
  | .readCas expected => expected + 2 < 2 ^ 31
  | _ => True

instance (pc : LockPc) : Decidable pc.Leaves :=
  match pc with
  | .readCas _ => inferInstanceAs (Decidable (_ < _))
  | .returned | .writeOwner | .addRecursion | .addPending | .writeCas | .storeOwner
  | .storeRecursion | .subPending
  | .unlockOwner | .subRecursion | .clearOwner | .exchangeState | .readOwner | .loadPending
  | .loadState
  | .unreadOwner | .subState => inferInstanceAs (Decidable True)

namespace Lock

/-- Writes are taken by threads that hold nothing or write already. -/
def NoUpgrade : LockEvent → Lock → Prop
  | .call place .writeLock, self =>
      ∀ current ∈ self.threads[place]?, current.holds = [] ∨ .write ∈ current.holds
  | _, _ => True

/-- A thread reads again only while there is no writer, and a writer comes only while no
thread reads again. -/
def Unhindered : LockEvent → Lock → Prop
  | .call place .readLock, self =>
      ∀ current ∈ self.threads[place]?, current.countedReads ≠ 0 → ∀ thread ∈ self.threads,
        ¬ thread.inWriteLock
  | .call _ .writeLock, self => ∀ thread ∈ self.threads, ¬ thread.rereads
  | .run place, self => ∀ current ∈ self.threads[place]?, current.pc.Leaves
  | _, _ => True

instance (event : LockEvent) (self : Lock) : Decidable (NoUpgrade event self) :=
  match event with
  | .call _ .writeLock => inferInstanceAs (Decidable (∀ _ ∈ _, _))
  | .call _ .readLock | .call _ .readUnLock | .call _ .writeUnLock | .spawn | .run _ =>
      inferInstanceAs (Decidable True)

instance (event : LockEvent) (self : Lock) : Decidable (Unhindered event self) :=
  match event with
  | .call _ .readLock => inferInstanceAs (Decidable (∀ _ ∈ _, _ → _))
  | .call _ .writeLock => inferInstanceAs (Decidable (∀ _ ∈ _, _))
  | .run _ => inferInstanceAs (Decidable (∀ _ ∈ _, _))
  | .call _ .readUnLock | .call _ .writeUnLock | .spawn => inferInstanceAs (Decidable True)

/-- The steps of a thread, taken alone, bring it back to its caller with these acquisitions. -/
def Returns (self : Lock) (place : Nat) (holds : List Hold) : Prop :=
  ∃ steps after, system.run (List.replicate steps (.run place)) self = some after ∧
    after.threads[place]? = some ⟨.returned, holds⟩

/-- The thread returns, and with one more acquisition if it asked for one. -/
def Granted (self : Lock) (place : Nat) (thread : LockThread) : Prop :=
  ∃ holds, self.Returns place holds ∧ (thread.acquires → ∃ hold, holds = hold :: thread.holds)

/-- The thread gives everything back without the others. -/
def Unlocks (self : Lock) (place : Nat) : Prop :=
  ∃ events after,
    (∀ event ∈ events, event = .run place ∨ event = .call place .writeUnLock ∨
    event = .call place .readUnLock) ∧
    system.run events self = some after ∧ after.threads[place]? = some ⟨.returned, []⟩

variable {self base after : Lock} {place : Nat} {pc next : LockPc} {holds rest final : List Hold}
  {thread : LockThread}

/-! ## The steps of one thread -/

def Stands (self : Lock) (place : Nat) (pc : LockPc) (holds : List Hold) : Prop :=
  self.crash = none ∧ self.threads[place]? = some ⟨pc, holds⟩

namespace Stands

theorem moved (stands : self.Stands place pc holds) (crash : base.crash = self.crash)
    (threads : base.threads = self.threads) :
    (base.goto place next final).Stands place next final := by
  refine ⟨crash.trans stands.1, ?_⟩
  rw [goto, threads]
  exact List.getElem?_set_self (List.getElem?_eq_some_iff.mp stands.2).1

theorem returns (stands : self.Stands place .returned holds) : self.Returns place holds :=
  ⟨0, self, rfl, stands.2⟩

theorem step (stands : self.Stands place pc holds) (acts : self.advance place holds pc = some after)
    (later : after.Returns place final) : self.Returns place final := by
  obtain ⟨steps, last, ran, ended⟩ := later
  refine ⟨steps + 1, last, ?_, ended⟩
  rw [List.replicate_succ]
  refine System.run_cons_some.mpr ⟨after, ?_, ran⟩
  simp [system, Lock.step, stands.1, stands.2, acts]

theorem subPending (stands : self.Stands place .subPending holds) :
    self.Returns place (.write :: holds) :=
  stands.step rfl (returns (moved stands rfl rfl))

theorem storeRecursion (stands : self.Stands place .storeRecursion holds) :
    self.Returns place (.write :: holds) :=
  stands.step rfl (subPending (moved stands rfl rfl))

theorem storeOwner (stands : self.Stands place .storeOwner holds) :
    self.Returns place (.write :: holds) :=
  stands.step rfl (storeRecursion (moved stands rfl rfl))

theorem writeCas (stands : self.Stands place .writeCas holds)
    (unlocked : self.lockState = nottingState) : self.Returns place (.write :: holds) :=
  stands.step (if_pos unlocked) (storeOwner (moved stands rfl rfl))

theorem addPending (stands : self.Stands place .addPending holds)
    (unlocked : self.lockState = nottingState) : self.Returns place (.write :: holds) :=
  stands.step rfl (writeCas (moved stands rfl rfl) unlocked)

theorem addRecursion (stands : self.Stands place .addRecursion holds) :
    self.Returns place (.write :: holds) :=
  stands.step rfl (returns (moved stands rfl rfl))

theorem writeOwner (stands : self.Stands place .writeOwner holds)
    (admits : self.ownerThreadId = place ∨ self.lockState = nottingState) :
    self.Returns place (.write :: holds) := by
  refine stands.step rfl ?_
  by_cases mine : self.ownerThreadId = place
  · rw [if_pos mine]
    exact addRecursion (moved stands rfl rfl)
  · rw [if_neg mine]
    exact addPending (moved stands rfl rfl) (admits.resolve_left mine)

theorem readCas_counts (stands : self.Stands place (.readCas self.lockState) holds)
    (range : self.lockState + 1 < 2 ^ 31) : self.Returns place (.read true :: holds) := by
  have bounded : self.lockState ≠ 2 ^ 31 - 1 := by omega
  exact stands.step ((if_neg bounded).trans (if_pos rfl)) (returns (moved stands rfl rfl))

theorem loadState (stands : self.Stands place .loadState holds)
    (unwritten : self.lockState ≠ writeState) (range : self.lockState + 1 < 2 ^ 31) :
    self.Returns place (.read true :: holds) := by
  refine stands.step rfl ?_
  rw [if_neg unwritten]
  exact readCas_counts (moved stands rfl rfl) range

theorem loadPending (stands : self.Stands place .loadPending holds)
    (unpended : self.writerPending = 0) (unwritten : self.lockState ≠ writeState)
    (range : self.lockState + 1 < 2 ^ 31) : self.Returns place (.read true :: holds) := by
  refine stands.step rfl ?_
  rw [if_neg (by simp [unpended])]
  exact loadState (moved stands rfl rfl) unwritten range

theorem readCas (stands : self.Stands place (.readCas expected) holds)
    (expects : expected + 1 < 2 ^ 31) (unpended : self.writerPending = 0)
    (unwritten : self.lockState ≠ writeState) (range : self.lockState + 1 < 2 ^ 31) :
    self.Returns place (.read true :: holds) := by
  by_cases same : self.lockState = expected
  · subst same
    exact stands.readCas_counts range
  · have bounded : expected ≠ 2 ^ 31 - 1 := by omega
    exact stands.step ((if_neg bounded).trans (if_neg same))
      (loadPending (moved stands rfl rfl) unpended unwritten range)

theorem readOwner_mine (stands : self.Stands place .readOwner holds)
    (mine : self.ownerThreadId = place) : self.Returns place (.read false :: holds) :=
  stands.step (if_pos mine) (returns (moved stands rfl rfl))

theorem readOwner (stands : self.Stands place .readOwner holds)
    (foreign : self.ownerThreadId ≠ place) (unpended : self.writerPending = 0)
    (unwritten : self.lockState ≠ writeState) (range : self.lockState + 1 < 2 ^ 31) :
    self.Returns place (.read true :: holds) :=
  stands.step (if_neg foreign) (loadPending (moved stands rfl rfl) unpended unwritten range)

theorem exchangeState (stands : self.Stands place .exchangeState (.write :: rest)) :
    self.Returns place rest :=
  stands.step rfl (returns (moved stands rfl rfl))

theorem clearOwner (stands : self.Stands place .clearOwner (.write :: rest)) :
    self.Returns place rest :=
  stands.step rfl (exchangeState (moved stands rfl rfl))

theorem subRecursion (stands : self.Stands place .subRecursion (.write :: rest))
    (entered : self.writeRecursion ≠ 0) : self.Returns place rest := by
  by_cases last : self.writeRecursion = 1
  · exact stands.step ((if_neg entered).trans (if_pos last)) (clearOwner (moved stands rfl rfl))
  · exact stands.step ((if_neg entered).trans (if_neg last)) (returns (moved stands rfl rfl))

theorem unlockOwner (stands : self.Stands place .unlockOwner (.write :: rest))
    (mine : self.ownerThreadId = place) (entered : self.writeRecursion ≠ 0) :
    self.Returns place rest :=
  stands.step (if_pos mine) (subRecursion (moved stands rfl rfl) entered)

theorem subState (stands : self.Stands place .subState (.read true :: rest))
    (shared : 0 < self.lockState) : self.Returns place rest := by
  exact stands.step (if_neg (Int.not_le.mpr shared)) (returns (moved stands rfl rfl))

end Stands

theorem Granted.of_returns (outside : thread.acquires = false)
    (returns : self.Returns place holds) : self.Granted place thread := by
  refine ⟨holds, returns, ?_⟩
  rw [outside]
  intro acquires
  contradiction

theorem Granted.of_acquired (returns : self.Returns place (hold :: thread.holds)) :
    self.Granted place thread :=
  ⟨_, returns, fun _ => ⟨hold, rfl⟩⟩

/-! ## Giving back -/

theorem Sound.stands (sound : self.Sound) (found : self.threads[place]? = some ⟨pc, holds⟩) :
    self.Stands place pc holds :=
  ⟨sound.uncrashed, found⟩

theorem Sound.entered (sound : self.Sound) (found : self.threads[place]? = some thread)
    (owns : thread.owns) (stored : thread.pc ≠ .storeRecursion) (deep : thread.recursion ≠ 0) :
    self.writeRecursion ≠ 0 := by
  intro zero
  have recursion := (sound.fits found).recursion owns stored
  rw [zero] at recursion
  exact deep recursion.symm

theorem Sound.subRecursion (sound : self.Sound)
    (found : self.threads[place]? = some ⟨.subRecursion, .write :: rest⟩) :
    self.Returns place rest := by
  refine (sound.stands found).subRecursion (sound.entered found ?_ (by simp) ?_)
  · simp [LockThread.owns, LockThread.possesses]
  · simp [LockThread.recursion, LockThread.writeDepth]

theorem Sound.unlockOwner (sound : self.Sound)
    (found : self.threads[place]? = some ⟨.unlockOwner, .write :: rest⟩) :
    self.Returns place rest := by
  have owns : (LockThread.mk .unlockOwner (.write :: rest)).owns := by
    simp [LockThread.owns, LockThread.possesses]
  refine (sound.stands found).unlockOwner ((sound.fits found).owner.mpr owns)
    (sound.entered found owns (by simp) ?_)
  simp [LockThread.recursion, LockThread.writeDepth]

theorem Sound.shared (sound : self.Sound) (found : self.threads[place]? = some thread)
    (counted : 0 < thread.countedReads) : 0 < self.lockState := by
  have reads := weight_le_total LockThread.countedReads (List.mem_of_getElem? found)
  exact (sound.claims.shared (by omega)).2

theorem Sound.subState (sound : self.Sound)
    (found : self.threads[place]? = some ⟨.subState, .read true :: rest⟩) :
    self.Returns place rest :=
  (sound.stands found).subState (sound.shared found (by simp [LockThread.countedReads]))

theorem Sound.unreadOwner (sound : self.Sound)
    (found : self.threads[place]? = some ⟨.unreadOwner, hold :: rest⟩) :
    self.Returns place rest := by
  have stands := sound.stands found
  obtain ⟨counted, below, top, owner⟩ := sound.unread_top found
  cases top
  cases counted with
  | true =>
      have reads : 0 < (LockThread.mk .unreadOwner (.read true :: rest)).countedReads := by
        simp [LockThread.countedReads]
      have foreign : self.ownerThreadId ≠ place := by simp [owner]
      exact stands.step (if_neg foreign)
        (Stands.subState (stands.moved rfl rfl) (sound.shared found reads))
  | false =>
      refine stands.step (if_pos (owner.mpr rfl)) (Stands.returns ?_)
      rw [List.erase_cons_head]
      exact stands.moved rfl rfl

/-- A thread returns from an unlock without the others. -/
theorem Sound.gives_back (sound : self.Sound)
    (found : self.threads[place]? = some ⟨.returned, hold :: rest⟩) :
    ∃ function : LockCall, (function = .writeUnLock ∨ function = .readUnLock) ∧
      function.Nests (hold :: rest) ∧
      (self.goto place function.start (hold :: rest)).Returns place rest := by
  have within : ∀ pc, (self.goto place pc (hold :: rest)).threads[place]? =
      some ⟨pc, hold :: rest⟩ := fun pc =>
    ((sound.stands found).moved rfl rfl).2
  cases hold with
  | write =>
      exact ⟨.writeUnLock, .inl rfl, rfl, (sound.call found rfl (by rfl)).unlockOwner (within _)⟩
  | read counted =>
      exact ⟨.readUnLock, .inr rfl, rfl, (sound.call found rfl (by rfl)).unreadOwner (within _)⟩

theorem Sound.runs (sound : self.Sound)
    (ran : system.run (List.replicate steps (.run place)) self = some after) : after.Sound := by
  induction steps generalizing self with
  | zero =>
      cases ran
      exact sound
  | succ steps ih =>
      rw [List.replicate_succ] at ran
      obtain ⟨next, stepped, remaining⟩ := System.run_cons_some.mp ran
      have nested : Nested (.run place) self := trivial
      exact ih (step_sound nested stepped sound) remaining

theorem Sound.unlocks (sound : self.Sound)
    (found : self.threads[place]? = some ⟨.returned, holds⟩) : self.Unlocks place := by
  induction holds generalizing self with
  | nil => exact ⟨[], self, by simp, rfl, found⟩
  | cons hold rest ih =>
      obtain ⟨function, unlocks, nests, steps, middle, ran, ended⟩ := sound.gives_back found
      obtain ⟨events, after, own, remaining, freed⟩ :=
        ih ((sound.call found rfl nests).runs ran) ended
      have called : system.step (.call place function) self =
          some (self.goto place function.start (hold :: rest)) := by
        simp [system, Lock.step, sound.uncrashed, found]
      refine ⟨.call place function :: (List.replicate steps (.run place) ++ events),
        after, ?_, ?_, freed⟩
      · intro event member
        rcases List.mem_cons.mp member with rfl | later
        · rcases unlocks with rfl | rfl
          · simp
          · simp
        · rcases List.mem_append.mp later with running | after
          · exact .inl (List.eq_of_mem_replicate running)
          · exact own event after
      · exact System.run_cons_some.mpr ⟨_, called,
          System.run_append_some.mpr ⟨middle, ran, remaining⟩⟩

/-! ## What holds along the runs -/

/-- No thread reads again next to a writer. -/
structure Unblocked (lock : Lock) : Prop where
  sound : lock.Sound
  apart : ∀ reader ∈ lock.threads, reader.rereads → ∀ writer ∈ lock.threads, ¬ writer.inWriteLock
  range : lock.lockState + 1 < 2 ^ 31
  plain : ∀ thread ∈ lock.threads, thread.pc.Plain thread.holds

theorem fresh_unblocked : fresh.Unblocked := by
  refine ⟨fresh_sound, ?_, by decide, ?_⟩
  · intro reader member
    contradiction
  · intro thread member
    contradiction

/-- A step of a thread inside a call. -/
structure Moved (before after : Lock) (place : Nat) (thread next : LockThread) : Prop where
  threads : after.threads = before.threads.set place next
  writing : next.inWriteLock = false ∨ thread.inWriteLock
  rereading : next.rereads = false ∨ next.rereads = thread.rereads
  plain : next.pc.Plain next.holds
  range : after.lockState + 1 < 2 ^ 31

theorem advance_moved (sound : self.Sound) (found : self.threads[place]? = some ⟨pc, holds⟩)
    (plain : pc.Plain holds) (leaves : pc.Leaves) (range : self.lockState + 1 < 2 ^ 31)
    (stepped : self.advance place holds pc = some after) (uncrashed : after.crash = none) :
    ∃ next, Moved self after place ⟨pc, holds⟩ next := by
  cases pc with
  | returned => contradiction
  | writeOwner =>
      have owner : self.ownerThreadId = place ↔ Hold.write ∈ holds := by
        simpa [LockThread.owns, LockThread.possesses] using (sound.fits found).owner
      cases stepped
      by_cases mine : self.ownerThreadId = place
      · rw [if_pos mine]
        exact ⟨_, rfl, .inr rfl, .inl rfl, trivial, range⟩
      · rw [if_neg mine]
        exact ⟨_, rfl, .inr rfl, .inl rfl,
          plain.resolve_right fun held => mine (owner.mpr held), range⟩
  | addRecursion =>
      cases stepped
      exact ⟨_, rfl, .inl rfl, .inl rfl, trivial, range⟩
  | addPending =>
      cases stepped
      exact ⟨_, rfl, .inr rfl, .inl rfl, plain, range⟩
  | writeCas =>
      simp only [advance] at stepped
      split at stepped
      · cases stepped
        exact ⟨_, rfl, .inr rfl, .inl rfl, plain, by simp [goto, writeState]⟩
      · cases stepped
        exact ⟨_, rfl, .inr rfl, .inl rfl, plain, range⟩
  | storeOwner =>
      cases stepped
      exact ⟨_, rfl, .inr rfl, .inl rfl, plain, range⟩
  | storeRecursion =>
      cases stepped
      exact ⟨_, rfl, .inr rfl, .inl rfl, plain, range⟩
  | subPending =>
      cases stepped
      exact ⟨_, rfl, .inl rfl, .inl rfl, trivial, range⟩
  | unlockOwner =>
      simp only [advance] at stepped
      split at stepped
      · cases stepped
        exact ⟨_, rfl, .inl rfl, .inl rfl, trivial, range⟩
      · cases stepped
        contradiction
  | subRecursion =>
      simp only [advance] at stepped
      split at stepped
      · cases stepped
        contradiction
      · split at stepped
        · cases stepped
          exact ⟨_, rfl, .inl rfl, .inl rfl, trivial, range⟩
        · cases stepped
          exact ⟨_, rfl, .inl rfl, .inl rfl, trivial, range⟩
  | clearOwner =>
      cases stepped
      exact ⟨_, rfl, .inl rfl, .inl rfl, trivial, range⟩
  | exchangeState =>
      cases stepped
      exact ⟨_, rfl, .inl rfl, .inl rfl, trivial, by simp [goto, nottingState]⟩
  | readOwner =>
      simp only [advance] at stepped
      split at stepped
      · cases stepped
        exact ⟨_, rfl, .inl rfl, .inl rfl, trivial, range⟩
      · cases stepped
        exact ⟨_, rfl, .inl rfl, .inr rfl, trivial, range⟩
  | loadPending =>
      cases stepped
      split
      · exact ⟨_, rfl, .inl rfl, .inr rfl, trivial, range⟩
      · exact ⟨_, rfl, .inl rfl, .inr rfl, trivial, range⟩
  | loadState =>
      cases stepped
      split
      · exact ⟨_, rfl, .inl rfl, .inr rfl, trivial, range⟩
      · exact ⟨_, rfl, .inl rfl, .inr rfl, range, range⟩
  | readCas expected =>
      have room : expected + 2 < 2 ^ 31 := leaves
      simp only [advance] at stepped
      split at stepped
      · contradiction
      · split at stepped
        · cases stepped
          refine ⟨_, rfl, .inl rfl, .inl rfl, trivial, ?_⟩
          change expected + 1 + 1 < 2 ^ 31
          omega
        · cases stepped
          exact ⟨_, rfl, .inl rfl, .inr rfl, trivial, range⟩
  | unreadOwner =>
      simp only [advance] at stepped
      split at stepped
      · cases stepped
        exact ⟨_, rfl, .inl rfl, .inl rfl, trivial, range⟩
      · cases stepped
        exact ⟨_, rfl, .inl rfl, .inl rfl, trivial, range⟩
  | subState =>
      simp only [advance] at stepped
      split at stepped
      · cases stepped
        contradiction
      · cases stepped
        refine ⟨_, rfl, .inl rfl, .inl rfl, trivial, ?_⟩
        change self.lockState - 1 + 1 < 2 ^ 31
        omega

theorem Unblocked.plain_set {next : LockThread} (unblocked : self.Unblocked)
    (plain : next.pc.Plain next.holds) :
    ∀ thread ∈ self.threads.set place next, thread.pc.Plain thread.holds := by
  intro thread member
  rcases List.mem_or_eq_of_mem_set member with other | rfl
  · exact unblocked.plain thread other
  · exact plain

theorem Unblocked.moved {next : LockThread} (unblocked : self.Unblocked) (sound : after.Sound)
    (found : self.threads[place]? = some thread) (moved : Moved self after place thread next) :
    after.Unblocked := by
  have member := List.mem_of_getElem? found
  refine ⟨sound, ?_, moved.range, ?_⟩
  · rw [moved.threads]
    intro reader reads rereads writer writes writing
    have before : ∃ reader ∈ self.threads, reader.rereads := by
      rcases List.mem_or_eq_of_mem_set reads with other | rfl
      · exact ⟨reader, other, rereads⟩
      · rcases moved.rereading with ended | same
        · rw [ended] at rereads
          contradiction
        · exact ⟨thread, member, same ▸ rereads⟩
    obtain ⟨first, present, again⟩ := before
    rcases List.mem_or_eq_of_mem_set writes with other | rfl
    · exact unblocked.apart first present again writer other writing
    · rcases moved.writing with ended | wrote
      · rw [ended] at writing
        contradiction
      · exact unblocked.apart first present again thread member wrote
  · rw [moved.threads]
    exact unblocked.plain_set moved.plain

theorem Unblocked.call {function : LockCall} (unblocked : self.Unblocked)
    (found : self.threads[place]? = some ⟨.returned, holds⟩) (nests : function.Nests holds)
    (noUpgrade : NoUpgrade (.call place function) self)
    (unhindered : Unhindered (.call place function) self) :
    (self.goto place function.start holds).Unblocked := by
  have sound := unblocked.sound.call found rfl nests
  have member := List.mem_of_getElem? found
  cases function with
  | writeLock =>
      refine ⟨sound, ?_, unblocked.range, unblocked.plain_set (noUpgrade ⟨.returned, holds⟩ found)⟩
      intro reader reads rereads
      rcases List.mem_or_eq_of_mem_set reads with other | rfl
      · exact absurd rereads (unhindered reader other)
      · contradiction
  | readLock =>
      refine ⟨sound, ?_, unblocked.range, unblocked.plain_set trivial⟩
      intro reader reads rereads writer writes writing
      rcases List.mem_or_eq_of_mem_set writes with otherWriter | rfl
      · rcases List.mem_or_eq_of_mem_set reads with other | rfl
        · exact unblocked.apart reader other rereads writer otherWriter writing
        · have counted : (LockThread.mk .returned holds).countedReads ≠ 0 := by
            simpa [LockThread.rereads, LockThread.inReadLock, LockCall.start,
              LockThread.countedReads] using rereads
          exact unhindered ⟨.returned, holds⟩ found counted writer otherWriter writing
      · contradiction
  | writeUnLock =>
      exact unblocked.moved sound found ⟨rfl, .inl rfl, .inl rfl, trivial, unblocked.range⟩
  | readUnLock =>
      exact unblocked.moved sound found ⟨rfl, .inl rfl, .inl rfl, trivial, unblocked.range⟩

theorem Unblocked.spawn (unblocked : self.Unblocked) :
    { self with threads := self.threads ++ [⟨.returned, []⟩] : Lock }.Unblocked := by
  refine ⟨unblocked.sound.spawn, ?_, unblocked.range, ?_⟩
  · intro reader reads rereads writer writes writing
    have otherReader : reader ∈ self.threads := by
      rcases List.mem_append.mp reads with other | new
      · exact other
      · cases List.mem_singleton.mp new
        contradiction
    rcases List.mem_append.mp writes with other | new
    · exact unblocked.apart reader otherReader rereads writer other writing
    · cases List.mem_singleton.mp new
      contradiction
  · intro thread member
    rcases List.mem_append.mp member with other | new
    · exact unblocked.plain thread other
    · cases List.mem_singleton.mp new
      trivial

/-- The usage of the lock in which nested acquisitions are granted. -/
def Usage (event : LockEvent) (self : Lock) : Prop :=
  Nested event self ∧ NoUpgrade event self ∧ Unhindered event self

theorem step_unblocked (usage : Usage event self) (stepped : system.step event self = some after)
    (unblocked : self.Unblocked) : after.Unblocked := by
  obtain ⟨nested, noUpgrade, unhindered⟩ := usage
  have sound := step_sound nested stepped unblocked.sound
  simp only [system, step] at stepped
  rw [if_neg (by simp [unblocked.sound.uncrashed])] at stepped
  cases event with
  | spawn =>
      cases stepped
      exact unblocked.spawn
  | call place function =>
      obtain ⟨⟨pc, holds⟩, found, stepped⟩ := Option.bind_eq_some_iff.mp stepped
      split at stepped
      · rename_i idle
        cases idle
        cases stepped
        exact unblocked.call found (nested _ found) noUpgrade unhindered
      · contradiction
  | run place =>
      obtain ⟨⟨pc, holds⟩, found, stepped⟩ := Option.bind_eq_some_iff.mp stepped
      have plain := unblocked.plain _ (List.mem_of_getElem? found)
      obtain ⟨next, moved⟩ :=
        advance_moved unblocked.sound found plain (unhindered _ found) unblocked.range
          stepped sound.uncrashed
      exact unblocked.moved sound found moved

theorem run_unblocked (usage : system.Guarded Usage events fresh)
    (ran : system.run events fresh = some self) : self.Unblocked :=
  System.run_preserves_guarded step_unblocked usage ran fresh_unblocked

/-! ## Progress -/

/-- Where a read comes through: no writer is counted and none has the lock. -/
theorem Unblocked.reads (unblocked : self.Unblocked) (found : self.threads[place]? = some thread)
    (inside : thread.inReadLock) (foreign : self.ownerThreadId ≠ place)
    (unpended : self.writerPending = 0) (unwritten : self.lockState ≠ writeState) :
    self.Returns place (.read true :: thread.holds) := by
  obtain ⟨pc, holds⟩ := thread
  have stands := unblocked.sound.stands found
  have range := unblocked.range
  have plain := unblocked.plain _ (List.mem_of_getElem? found)
  cases pc with
  | readOwner => exact stands.readOwner foreign unpended unwritten range
  | loadPending => exact stands.loadPending unpended unwritten range
  | loadState => exact stands.loadState unwritten range
  | readCas expected => exact stands.readCas plain unpended unwritten range
  | _ => contradiction

theorem Stacked.counted (stacked : Stacked holds) (held : holds ≠ []) (unwritten : .write ∉ holds) :
    0 < holds.count (.read true) := by
  obtain ⟨hold, member⟩ := List.exists_mem_of_ne_nil holds held
  cases hold with
  | write => contradiction
  | read counted =>
      cases counted with
      | false => exact absurd (Stacked.write_of_uncounted stacked member) unwritten
      | true => exact List.count_pos_iff.mpr member

/-- A thread that has a read and no write reads again. -/
theorem Unblocked.rereads (unblocked : self.Unblocked) (found : self.threads[place]? = some thread)
    (inside : thread.inReadLock) (held : thread.holds ≠ []) (unwritten : .write ∉ thread.holds)
    (foreign : self.ownerThreadId ≠ place) : self.Returns place (.read true :: thread.holds) := by
  have member := List.mem_of_getElem? found
  have counted : 0 < thread.countedReads :=
    Stacked.counted (unblocked.sound.fits found).stacked held unwritten
  have again : thread.rereads := by
    simp only [LockThread.rereads, inside, Bool.true_and, bne_iff_ne]
    omega
  have shared := unblocked.sound.shared found counted
  refine unblocked.reads found inside foreign (unblocked.sound.unpended ?_) ?_
  · exact unblocked.apart thread member again
  · simp only [writeState]
    omega

/-- Inside `ReadLock` a thread finds itself in `_ownerThreadId` if it writes. -/
theorem Sound.reading_owner (sound : self.Sound) (found : self.threads[place]? = some thread)
    (inside : thread.inReadLock) : self.ownerThreadId = place ↔ .write ∈ thread.holds := by
  obtain ⟨pc, holds⟩ := thread
  have owner := (sound.fits found).owner
  cases pc with
  | readOwner | loadPending | loadState | readCas expected =>
      simpa [LockThread.owns, LockThread.possesses] using owner
  | _ => contradiction

theorem Unblocked.reading_granted (unblocked : self.Unblocked)
    (found : self.threads[place]? = some thread) (inside : thread.inReadLock)
    (held : thread.holds ≠ []) : self.Granted place thread := by
  have owner := unblocked.sound.reading_owner found inside
  by_cases mine : self.ownerThreadId = place
  · obtain ⟨pc, holds⟩ := thread
    have suits := (unblocked.sound.fits found).suits
    cases pc with
    | readOwner => exact .of_acquired ((unblocked.sound.stands found).readOwner_mine mine)
    | loadPending | loadState => exact absurd (owner.mp mine) suits
    | readCas expected => exact absurd (owner.mp mine) suits.1
    | _ => contradiction
  · have unwritten : Hold.write ∉ thread.holds := fun written => mine (owner.mpr written)
    exact .of_acquired (unblocked.rereads found inside held unwritten mine)

theorem Unblocked.granted (unblocked : self.Unblocked) (found : self.threads[place]? = some thread)
    (holding : thread.holdsLock) : self.Granted place thread := by
  obtain ⟨pc, holds⟩ := thread
  have sound := unblocked.sound
  have stands := sound.stands found
  have fits := sound.fits found
  have plain := unblocked.plain _ (List.mem_of_getElem? found)
  cases pc with
  | returned => exact .of_returns rfl stands.returns
  | writeOwner =>
      have owner : self.ownerThreadId = place ↔ Hold.write ∈ holds := by
        simpa [LockThread.owns, LockThread.possesses] using fits.owner
      have written : Hold.write ∈ holds := by
        rcases plain with rfl | written
        · contradiction
        · exact written
      exact .of_acquired (stands.writeOwner (.inl (owner.mpr written)))
  | addRecursion => exact .of_acquired stands.addRecursion
  | addPending | writeCas =>
      cases (show holds = [] from plain)
      contradiction
  | storeOwner => exact .of_acquired stands.storeOwner
  | storeRecursion => exact .of_acquired stands.storeRecursion
  | subPending => exact .of_acquired stands.subPending
  | unlockOwner =>
      obtain ⟨rest, rfl⟩ : ∃ rest, holds = .write :: rest := List.head?_eq_some_iff.mp fits.suits
      exact .of_returns rfl (sound.unlockOwner found)
  | subRecursion =>
      obtain ⟨rest, rfl⟩ : ∃ rest, holds = .write :: rest := List.head?_eq_some_iff.mp fits.suits
      exact .of_returns rfl (sound.subRecursion found)
  | clearOwner =>
      obtain ⟨rest, rfl⟩ : ∃ rest, holds = .write :: rest := List.head?_eq_some_iff.mp fits.suits.1
      exact .of_returns rfl stands.clearOwner
  | exchangeState =>
      obtain ⟨rest, rfl⟩ : ∃ rest, holds = .write :: rest := List.head?_eq_some_iff.mp fits.suits.1
      exact .of_returns rfl stands.exchangeState
  | readOwner | loadPending | loadState | readCas expected =>
      refine unblocked.reading_granted found rfl ?_
      rintro rfl
      contradiction
  | unreadOwner =>
      obtain ⟨counted, rest, rfl, _⟩ := sound.unread_top found
      exact .of_returns rfl (sound.unreadOwner found)
  | subState =>
      obtain ⟨rest, rfl⟩ : ∃ rest, holds = .read true :: rest :=
        List.head?_eq_some_iff.mp fits.suits
      exact .of_returns rfl (sound.subState found)

theorem unheld (nothing : ¬ thread.holdsLock) : thread.possesses = false ∧ thread.holds = [] := by
  simpa [LockThread.holdsLock] using nothing

theorem Sound.unlocked (sound : self.Sound) (nobody : ∀ thread ∈ self.threads, ¬ thread.holdsLock) :
    self.lockState = nottingState := by
  have possessions : total LockThread.possession self.threads = 0 := by
    refine total_eq_zero.mpr fun thread member => ?_
    rw [LockThread.possession, (unheld (nobody thread member)).1, Bool.toNat_false]
  have reads : total LockThread.countedReads self.threads = 0 := by
    refine total_eq_zero.mpr fun thread member => ?_
    rw [LockThread.countedReads, (unheld (nobody thread member)).2, List.count_nil]
  have claims := sound.claims
  simp only [Claims, possessions, reads] at claims
  simp only [nottingState]
  omega

/-- Nobody has the lock: a thread inside `WriteLock` takes it. -/
theorem Unblocked.write_granted (unblocked : self.Unblocked)
    (found : self.threads[place]? = some thread) (inside : thread.inWriteLock)
    (unheld : ¬ thread.holdsLock) (unlocked : self.lockState = nottingState) :
    self.Granted place thread := by
  obtain ⟨pc, holds⟩ := thread
  have stands := unblocked.sound.stands found
  have suits := (unblocked.sound.fits found).suits
  cases pc with
  | writeOwner => exact .of_acquired (stands.writeOwner (.inr unlocked))
  | addPending => exact .of_acquired (stands.addPending unlocked)
  | writeCas => exact .of_acquired (stands.writeCas unlocked)
  | addRecursion =>
      exact absurd (by simp [LockThread.holdsLock, LockThread.possesses, suits.2]) unheld
  | storeOwner | storeRecursion | subPending => exact absurd rfl unheld
  | _ => contradiction

theorem Unblocked.some_granted (unblocked : self.Unblocked)
    (waits : ∃ thread ∈ self.threads, thread.acquires) :
    ∃ place thread, self.threads[place]? = some thread ∧ (thread.holdsLock ∨ thread.acquires) ∧
      self.Granted place thread := by
  by_cases held : ∃ thread ∈ self.threads, thread.holdsLock
  · obtain ⟨thread, member, holding⟩ := held
    obtain ⟨place, found⟩ := List.mem_iff_getElem?.mp member
    exact ⟨place, thread, found, .inl holding, unblocked.granted found holding⟩
  · have nobody : ∀ thread ∈ self.threads, ¬ thread.holdsLock := by
      intro thread member holding
      exact held ⟨thread, member, holding⟩
    have unlocked := unblocked.sound.unlocked nobody
    by_cases writes : ∃ thread ∈ self.threads, thread.inWriteLock
    · obtain ⟨thread, member, inside⟩ := writes
      obtain ⟨place, found⟩ := List.mem_iff_getElem?.mp member
      refine ⟨place, thread, found, .inr ?_,
        unblocked.write_granted found inside (nobody thread member) unlocked⟩
      simp [LockThread.acquires, inside]
    · obtain ⟨thread, member, acquires⟩ := waits
      obtain ⟨place, found⟩ := List.mem_iff_getElem?.mp member
      have outside : ∀ thread ∈ self.threads, ¬ thread.inWriteLock := by
        intro thread member inside
        exact writes ⟨thread, member, inside⟩
      have inside : thread.inReadLock := by
        simpa [LockThread.acquires, outside thread member] using acquires
      have foreign : self.ownerThreadId ≠ place := by
        intro mine
        have written := (unblocked.sound.reading_owner found inside).mp mine
        rw [(unheld (nobody thread member)).2] at written
        contradiction
      have unwritten : self.lockState ≠ writeState := by
        rw [unlocked]
        decide
      have reads := unblocked.reads found inside foreign
        (unblocked.sound.unpended outside) unwritten
      exact ⟨place, thread, found, .inr acquires, .of_acquired reads⟩

theorem Unblocked.unlocks (unblocked : self.Unblocked) (found : self.threads[place]? = some thread)
    (holding : thread.holdsLock) : self.Unlocks place := by
  obtain ⟨holds, ⟨steps, middle, ran, returned⟩, _⟩ := unblocked.granted found holding
  obtain ⟨events, after, own, remaining, freed⟩ := (unblocked.sound.runs ran).unlocks returned
  have whole := System.run_append_some.mpr ⟨middle, ran, remaining⟩
  refine ⟨List.replicate steps (.run place) ++ events, after, ?_, whole, freed⟩
  intro event member
  rcases List.mem_append.mp member with running | later
  · exact .inl (List.eq_of_mem_replicate running)
  · exact own event later

/-- In every state that any number of threads reach, if no thread reads again next to a
writer: a thread that holds the lock is granted what it asks for and gives everything back by
its own steps, and where a thread waits, some thread comes through. -/
theorem lock_never_blocks {events : List LockEvent} (nested : system.Guarded Nested events fresh)
    (noUpgrade : system.Guarded NoUpgrade events fresh)
    (unhindered : system.Guarded Unhindered events fresh)
    (ran : system.run events fresh = some self) :
    (∀ (place : Nat) (thread : LockThread), self.threads[place]? = some thread → thread.holdsLock →
      self.Granted place thread ∧ self.Unlocks place) ∧
    ((∃ thread ∈ self.threads, thread.acquires) →
      ∃ place thread, self.threads[place]? = some thread ∧
      (thread.holdsLock ∨ thread.acquires) ∧ self.Granted place thread) := by
  have unblocked := run_unblocked (nested.and (noUpgrade.and unhindered)) ran
  refine ⟨?_, unblocked.some_granted⟩
  intro place thread found holding
  exact ⟨unblocked.granted found holding, unblocked.unlocks found holding⟩

/-- A writer reads inside its write while a second writer waits. -/
def readsInWrite : List LockEvent :=
  [LockEvent.spawn, .spawn, .call 0 .writeLock] ++ List.replicate 6 (LockEvent.run 0) ++
    [LockEvent.call 1 .writeLock, .run 1, .run 1, .run 1, .call 0 .readLock]

theorem lock_never_blocks_read_in_write :
    ∃ lock, system.run readsInWrite fresh = some lock ∧
      lock.threads = [⟨.readOwner, [.write]⟩, ⟨.writeCas, []⟩] ∧
        lock.Granted 0 ⟨.readOwner, [.write]⟩ := by
  obtain ⟨lock, ran, threads⟩ : ∃ lock, system.run readsInWrite fresh = some lock ∧
      lock.threads = [⟨.readOwner, [.write]⟩, ⟨.writeCas, []⟩] := ⟨_, rfl, rfl⟩
  have found : lock.threads[0]? = some ⟨.readOwner, [.write]⟩ := by rw [threads]; rfl
  obtain ⟨holders, _⟩ := lock_never_blocks (by decide) (by decide) (by decide) ran
  exact ⟨lock, ran, threads, (holders 0 _ found (by decide)).1⟩

/-- A thread reads, a writer comes, and the thread reads again. -/
def readsAgain : List LockEvent :=
  [LockEvent.spawn, .spawn, .call 0 .readLock] ++ List.replicate 4 (LockEvent.run 0) ++
    [LockEvent.call 1 .writeLock, .run 1, .run 1, .call 0 .readLock, .run 0]

/-- The reader and the writer wait for ever. -/
theorem lock_blocks_reader :
    ∃ lock, system.run readsAgain fresh = some lock ∧ system.Guarded Nested readsAgain fresh ∧
      system.Guarded NoUpgrade readsAgain fresh ∧
      lock.threads = [⟨.loadPending, [.read true]⟩, ⟨.writeCas, []⟩] ∧
        ¬ lock.Granted 0 ⟨.loadPending, [.read true]⟩ ∧
      ∀ places : List Nat, (∀ place ∈ places, place < 2) →
        system.run (places.map .run) lock = some lock := by
  obtain ⟨lock, ran, threads, first, second⟩ : ∃ lock, system.run readsAgain fresh = some lock ∧
      lock.threads = [⟨.loadPending, [.read true]⟩, ⟨.writeCas, []⟩] ∧
      system.step (.run 0) lock = some lock ∧ system.step (.run 1) lock = some lock :=
      ⟨_, rfl, rfl, rfl, rfl⟩
  have stuck : ∀ place < 2, system.step (.run place) lock = some lock := by
    intro place within
    obtain rfl | rfl : place = 0 ∨ place = 1 := by omega
    · exact first
    · exact second
  have endless : ∀ places : List Nat, (∀ place ∈ places, place < 2) →
      system.run (places.map .run) lock = some lock := by
    intro places within
    refine System.run_stuck fun event member => ?_
    obtain ⟨place, present, rfl⟩ := List.mem_map.mp member
    exact stuck place (within place present)
  refine ⟨lock, ran, by decide, by decide, threads, ?_, endless⟩
  rintro ⟨holds, ⟨steps, after, own, returned⟩, _⟩
  have only : ∀ place ∈ List.replicate steps 0, place < 2 := by
    intro place member
    rw [List.eq_of_mem_replicate member]
    decide
  rw [← List.map_replicate, endless _ only] at own
  cases own
  rw [threads] at returned
  cases returned

end Lock

end ChattingProgram.Core
