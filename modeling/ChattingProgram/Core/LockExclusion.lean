import ChattingProgram.Core.Lock

namespace ChattingProgram.Core

open ChattingProgram.Machine

/-! # Exclusion

One thread possesses the lock, or it is shared by the counted reads.  `Claims` says
what `_lockState` is then; `Fits` says how the owner and the recursion count agree
with one thread at its position.
-/

namespace LockThread

variable (thread : LockThread)

/-- After the write CAS that succeeded and before the end of the final unlock. -/
def possesses : Bool :=
  match thread.pc with
  | .storeOwner | .storeRecursion | .subPending => true
  | _ => .write ∈ thread.holds

/-- The thread finds itself in `_ownerThreadId`. -/
def owns : Bool :=
  match thread.pc with
  | .storeOwner | .exchangeState => false
  | _ => thread.possesses

def writeDepth : Nat := thread.holds.count .write

def countedReads : Nat := thread.holds.count (.read true)

def inWriteLock : Bool :=
  match thread.pc with
  | .writeOwner | .addRecursion | .addPending | .writeCas | .storeOwner | .storeRecursion
  | .subPending => true
  | _ => false

/-- The thread is counted in `_writerPending`. -/
def pends : Bool :=
  match thread.pc with
  | .writeCas | .storeOwner | .storeRecursion | .subPending => true
  | _ => false

/-- What `_writeRecursion` is if the thread is the owner and has stored it. -/
def recursion : Nat :=
  match thread.pc with
  | .subPending => 1
  | .clearOwner => 0
  | _ => thread.writeDepth

def possession : Nat := thread.possesses.toNat

def pendings : Nat := thread.pends.toNat

end LockThread

/-- A read that is not counted lies inside a write. -/
def Stacked : List Hold → Prop
  | [] => True
  | .read false :: rest => .write ∈ rest ∧ Stacked rest
  | _ :: rest => Stacked rest

/-- What a thread knows of its acquisitions at a position. -/
def LockPc.Suits (holds : List Hold) : LockPc → Prop
  | .writeOwner => holds.length + 1 < 2 ^ 16
  | .addRecursion => holds.length + 1 < 2 ^ 16 ∧ .write ∈ holds
  | .addPending | .writeCas | .storeOwner | .storeRecursion | .subPending | .loadPending
  | .loadState =>
      .write ∉ holds
  | .unlockOwner | .subRecursion => holds.head? = some .write
  | .clearOwner | .exchangeState => holds.head? = some .write ∧ holds.count .write = 1
  | .readCas expected => .write ∉ holds ∧ expected ≠ writeState
  | .unreadOwner => holds.head?.any Hold.isRead
  | .subState => holds.head? = some (.read true)
  | .returned | .readOwner => True

/-- The value of `_lockState` while so many threads possess the lock and so many reads are counted. -/
def Claims (state : Int) (possessions reads : Nat) : Prop :=
  (possessions = 0 ∧ state = reads) ∨ (possessions = 1 ∧ state = writeState ∧ reads = 0)

namespace Claims

variable {state : Int} {possessions reads : Nat}

theorem acquire (claims : Claims state possessions reads) (unlocked : state = nottingState) :
    Claims writeState (possessions + 1) reads := by
  have free : possessions = 0 ∧ reads = 0 := by
    simp only [Claims, nottingState, writeState] at claims unlocked
    omega
  exact .inr ⟨by omega, rfl, free.2⟩

theorem release (claims : Claims state (possessions + 1) reads) :
    Claims nottingState possessions reads := by
  simp only [Claims, nottingState, writeState] at *
  omega

theorem share (claims : Claims state possessions reads) (unwritten : state ≠ writeState) :
    Claims (state + 1) possessions (reads + 1) := by
  simp only [Claims, writeState] at *
  omega

theorem unshare (claims : Claims state possessions (reads + 1)) :
    Claims (state - 1) possessions reads := by
  simp only [Claims, writeState] at *
  omega

theorem shared (claims : Claims state possessions reads) (counted : 0 < reads) :
    possessions = 0 ∧ 0 < state := by
  simp only [Claims, writeState] at claims
  omega

end Claims

namespace Lock

structure Fits (lock : Lock) (place : Nat) (thread : LockThread) : Prop where
  owner : lock.ownerThreadId = place ↔ thread.owns
  recursion : thread.owns → thread.pc ≠ .storeRecursion →
    lock.writeRecursion.toNat = thread.recursion
  stacked : Stacked thread.holds
  suits : thread.pc.Suits thread.holds

structure Sound (lock : Lock) : Prop where
  uncrashed : lock.crash = none
  claims : Claims lock.lockState (total LockThread.possession lock.threads)
    (total LockThread.countedReads lock.threads)
  pending : lock.writerPending = .ofNat (total LockThread.pendings lock.threads)
  known : lock.ownerThreadId < lock.threads.length
  fits : ∀ {place thread}, lock.threads[place]? = some thread → lock.Fits place thread

variable {self base : Lock} {place : Nat} {thread other : LockThread}

theorem fresh_sound : fresh.Sound := by
  refine ⟨rfl, .inl ⟨rfl, rfl⟩, rfl, by decide, ?_⟩
  intro place thread found
  simp [fresh] at found

theorem Sound.possession_le_one (sound : self.Sound) :
    total LockThread.possession self.threads ≤ 1 := by
  rcases sound.claims with free | taken
  · omega
  · omega

theorem Sound.alone (sound : self.Sound) (found : self.threads[place]? = some thread)
    (foundOther : self.threads[elsewhere]? = some other) (different : place ≠ elsewhere)
    (possesses : thread.possesses) : other.possesses = false := by
  have both := weight_add_le_total LockThread.possession found foundOther different
  have most := sound.possession_le_one
  simp only [LockThread.possession, possesses, Bool.toNat_true] at both
  cases second : other.possesses with
  | false => rfl
  | true =>
      simp only [second, Bool.toNat_true] at both
      omega

theorem owns_le (thread : LockThread) (owns : thread.owns) : thread.possesses := by
  unfold LockThread.owns at owns
  split at owns
  all_goals first
    | contradiction
    | exact owns

theorem Fits.congr (fits : self.Fits place thread) (owner : base.ownerThreadId = self.ownerThreadId)
    (recursion : base.writeRecursion = self.writeRecursion) : base.Fits place thread := by
  constructor
  · rw [owner]
    exact fits.owner
  · rw [recursion]
    exact fits.recursion
  · exact fits.stacked
  · exact fits.suits

theorem Fits.elsewhere (fits : self.Fits place thread) (without : thread.possesses = false)
    (owner : base.ownerThreadId ≠ place) : base.Fits place thread := by
  have unowned : ¬ thread.owns := by
    intro owns
    rw [owns_le thread owns] at without
    contradiction
  exact ⟨iff_of_false owner unowned, fun owns => absurd owns unowned, fits.stacked, fits.suits⟩

/-- A step of one thread, from what it does to the atomics and to the thread itself. -/
theorem Sound.moved (sound : self.Sound) (found : self.threads[place]? = some thread)
    (next : LockThread) (threads : base.threads = self.threads) (crash : base.crash = self.crash)
    (claims : Claims base.lockState (total LockThread.possession (self.threads.set place next))
      (total LockThread.countedReads (self.threads.set place next)))
    (pending : base.writerPending + .ofNat thread.pendings =
      self.writerPending + .ofNat next.pendings)
    (frame : (base.ownerThreadId = self.ownerThreadId ∧ base.writeRecursion = self.writeRecursion) ∨
      (thread.possesses ∧ (base.ownerThreadId = place ∨ base.ownerThreadId = -1)))
    (fits : base.Fits place next) : (base.goto place next.pc next.holds).Sound := by
  have same : (base.goto place next.pc next.holds).threads = self.threads.set place next := by
    rw [goto, threads]
  refine ⟨crash.trans sound.uncrashed, ?_, ?_, ?_, ?_⟩
  · rw [same]
    exact claims
  · have shift := congrArg UInt16.ofNat (total_set LockThread.pendings next found)
    rw [UInt16.ofNat_add, UInt16.ofNat_add, ← sound.pending, ← pending] at shift
    rw [same]
    exact ((UInt16.add_left_inj _).mp shift).symm
  · have within := (List.getElem?_eq_some_iff.mp found).1
    have known := sound.known
    rw [same, List.length_set]
    change base.ownerThreadId < _
    omega
  · intro elsewhere other foundAfter
    rw [same] at foundAfter
    rcases getElem?_set_cases foundAfter with ⟨rfl, rfl⟩ | ⟨different, foundOther⟩
    · exact fits.congr rfl rfl
    · rcases frame with ⟨owner, recursion⟩ | ⟨possesses, owner⟩
      · exact (sound.fits foundOther).congr owner recursion
      · refine (sound.fits foundOther).elsewhere
          (sound.alone found foundOther different possesses) ?_
        change base.ownerThreadId ≠ elsewhere
        omega

theorem Sound.claims_set (sound : self.Sound) (found : self.threads[place]? = some thread)
    (next : LockThread)
    (shift : ∀ possessions reads,
      Claims self.lockState (possessions + thread.possession) (reads + thread.countedReads) →
        Claims state (possessions + next.possession) (reads + next.countedReads)) :
    Claims state (total LockThread.possession (self.threads.set place next))
      (total LockThread.countedReads (self.threads.set place next)) := by
  have member := List.mem_of_getElem? found
  obtain ⟨possessions, possession⟩ := Nat.exists_eq_add_of_le'
    (weight_le_total LockThread.possession member)
  obtain ⟨reads, read⟩ := Nat.exists_eq_add_of_le' (weight_le_total LockThread.countedReads member)
  have claims := sound.claims
  rw [possession, read] at claims
  have possessionAfter := total_set LockThread.possession next found
  have readsAfter := total_set LockThread.countedReads next found
  rw [show total LockThread.possession (self.threads.set place next) =
    possessions + next.possession by omega,
    show total LockThread.countedReads (self.threads.set place next) =
    reads + next.countedReads by omega]
  exact shift possessions reads claims

theorem Sound.claims_kept (sound : self.Sound) (found : self.threads[place]? = some thread)
    (next : LockThread) (possession : next.possesses = thread.possesses)
    (reads : next.countedReads = thread.countedReads) :
    Claims self.lockState (total LockThread.possession (self.threads.set place next))
      (total LockThread.countedReads (self.threads.set place next)) := by
  refine sound.claims_set found next ?_
  intro _ _ claims
  rwa [LockThread.possession, possession, reads]

theorem Fits.next (fits : self.Fits place thread) (next : LockThread)
    (owns : next.owns = thread.owns) (stored : thread.pc ≠ .storeRecursion)
    (recursion : next.recursion = thread.recursion) (stacked : Stacked next.holds)
    (suits : next.pc.Suits next.holds) : self.Fits place next := by
  refine ⟨by rw [owns]; exact fits.owner, ?_, stacked, suits⟩
  intro owned _
  rw [recursion]
  exact fits.recursion (owns ▸ owned) stored

/-- A thread that keeps its acquisitions, between positions where `_ownerThreadId` and
`_writeRecursion` agree with them. -/
theorem Sound.proceeds (sound : self.Sound) (found : self.threads[place]? = some ⟨pc, holds⟩)
    (possession : (LockThread.mk next holds).possesses = (LockThread.mk pc holds).possesses)
    (owns : (LockThread.mk next holds).owns = (LockThread.mk pc holds).owns)
    (pends : (LockThread.mk next holds).pends = (LockThread.mk pc holds).pends)
    (recursion : (LockThread.mk next holds).recursion = (LockThread.mk pc holds).recursion)
    (stored : pc ≠ .storeRecursion) (suits : next.Suits holds) :
    (self.goto place next holds).Sound := by
  have fits := sound.fits found
  refine sound.moved found ⟨next, holds⟩ rfl rfl (sound.claims_kept found _ possession rfl) ?_
    (.inl ⟨rfl, rfl⟩) ?_
  · rw [LockThread.pendings, LockThread.pendings, pends]
  · exact fits.next ⟨next, holds⟩ owns stored recursion fits.stacked suits

section Advance

variable {holds : List Hold} {after : Lock}

theorem writeOwner_sound (sound : self.Sound)
    (found : self.threads[place]? = some ⟨.writeOwner, holds⟩)
    (stepped : self.advance place holds .writeOwner = some after) : after.Sound := by
  have fits := sound.fits found
  have owner : self.ownerThreadId = place ↔ Hold.write ∈ holds := by
    simpa [LockThread.owns, LockThread.possesses] using fits.owner
  cases stepped
  by_cases mine : self.ownerThreadId = place
  · rw [if_pos mine]
    exact sound.proceeds found rfl rfl rfl rfl (by simp) ⟨fits.suits, owner.mp mine⟩
  · rw [if_neg mine]
    exact sound.proceeds found rfl rfl rfl rfl (by simp) fun held => mine (owner.mpr held)

theorem addRecursion_sound (sound : self.Sound)
    (found : self.threads[place]? = some ⟨.addRecursion, holds⟩)
    (stepped : self.advance place holds .addRecursion = some after) : after.Sound := by
  have fits := sound.fits found
  obtain ⟨depth, held⟩ : holds.length + 1 < 2 ^ 16 ∧ Hold.write ∈ holds := fits.suits
  have possesses : (LockThread.mk .addRecursion holds).possesses := by
    simp [LockThread.possesses, held]
  have mine : self.ownerThreadId = place := fits.owner.mpr possesses
  have recursion : self.writeRecursion.toNat = holds.count .write :=
    fits.recursion possesses (by simp)
  have bound : holds.count .write ≤ holds.length := List.count_le_length
  cases stepped
  refine sound.moved found ⟨.returned, .write :: holds⟩ rfl rfl ?_ rfl
    (.inr ⟨possesses, .inl mine⟩) ?_
  · exact sound.claims_kept found _ (by simp [LockThread.possesses, held])
      (by simp [LockThread.countedReads])
  · refine ⟨?_, ?_, fits.stacked, trivial⟩
    · simp [LockThread.owns, LockThread.possesses, mine]
    · intro _ _
      change (self.writeRecursion + 1).toNat = (Hold.write :: holds).count .write
      rw [UInt16.toNat_add, recursion, List.count_cons_self]
      simp only [UInt16.reduceToNat]
      omega

theorem addPending_sound (sound : self.Sound)
    (found : self.threads[place]? = some ⟨.addPending, holds⟩)
    (stepped : self.advance place holds .addPending = some after) : after.Sound := by
  have fits := sound.fits found
  cases stepped
  refine sound.moved found ⟨.writeCas, holds⟩ rfl rfl (sound.claims_kept found _ rfl rfl) ?_
    (.inl ⟨rfl, rfl⟩) ?_
  · change self.writerPending + 1 + 0 = self.writerPending + 1
    rw [UInt16.add_zero]
  · exact (fits.next ⟨.writeCas, holds⟩ rfl (by simp) rfl fits.stacked fits.suits).congr rfl rfl

theorem writeCas_sound (sound : self.Sound) (found : self.threads[place]? = some ⟨.writeCas, holds⟩)
    (stepped : self.advance place holds .writeCas = some after) : after.Sound := by
  have fits := sound.fits found
  have unheld : Hold.write ∉ holds := fits.suits
  simp only [advance] at stepped
  split at stepped
  · rename_i unlocked
    cases stepped
    refine sound.moved found ⟨.storeOwner, holds⟩ rfl rfl (sound.claims_set found _ ?_) rfl
      (.inl ⟨rfl, rfl⟩) ?_
    · intro possessions reads claims
      have unpossessed : (LockThread.mk .writeCas holds).possession = 0 := by
        simp [LockThread.possession, LockThread.possesses, unheld]
      rw [unpossessed] at claims
      exact claims.acquire unlocked
    · refine (fits.next ⟨.storeOwner, holds⟩ ?_ (by simp) rfl fits.stacked unheld).congr rfl rfl
      simp [LockThread.owns, LockThread.possesses, unheld]
  · cases stepped
    exact sound.proceeds found rfl rfl rfl rfl (by simp) unheld

theorem storeOwner_sound (sound : self.Sound)
    (found : self.threads[place]? = some ⟨.storeOwner, holds⟩)
    (stepped : self.advance place holds .storeOwner = some after) : after.Sound := by
  have fits := sound.fits found
  cases stepped
  refine sound.moved found ⟨.storeRecursion, holds⟩ rfl rfl (sound.claims_kept found _ rfl rfl) rfl
    (.inr ⟨rfl, .inl rfl⟩) ?_
  exact ⟨iff_of_true rfl rfl, fun _ storing => absurd rfl storing, fits.stacked, fits.suits⟩

theorem storeRecursion_sound (sound : self.Sound)
    (found : self.threads[place]? = some ⟨.storeRecursion, holds⟩)
    (stepped : self.advance place holds .storeRecursion = some after) : after.Sound := by
  have fits := sound.fits found
  cases stepped
  refine sound.moved found ⟨.subPending, holds⟩ rfl rfl (sound.claims_kept found _ rfl rfl) rfl
    (.inr ⟨rfl, .inl (fits.owner.mpr rfl)⟩) ?_
  exact ⟨fits.owner, fun _ _ => rfl, fits.stacked, fits.suits⟩

theorem subPending_sound (sound : self.Sound)
    (found : self.threads[place]? = some ⟨.subPending, holds⟩)
    (stepped : self.advance place holds .subPending = some after) : after.Sound := by
  have fits := sound.fits found
  have unheld : Hold.write ∉ holds := fits.suits
  cases stepped
  refine sound.moved found ⟨.returned, .write :: holds⟩ rfl rfl (sound.claims_kept found _ ?_ ?_) ?_
    (.inl ⟨rfl, rfl⟩) ?_
  · simp [LockThread.possesses]
  · simp [LockThread.countedReads]
  · change self.writerPending - 1 + 1 = self.writerPending + 0
    rw [UInt16.sub_add_cancel, UInt16.add_zero]
  · refine (fits.next ⟨.returned, .write :: holds⟩ ?_ (by simp) ?_ fits.stacked trivial).congr rfl
      rfl
    · simp [LockThread.owns, LockThread.possesses]
    · simp [LockThread.recursion, LockThread.writeDepth, List.count_eq_zero_of_not_mem unheld]

theorem unlockOwner_sound (sound : self.Sound)
    (found : self.threads[place]? = some ⟨.unlockOwner, holds⟩)
    (stepped : self.advance place holds .unlockOwner = some after) : after.Sound := by
  have fits := sound.fits found
  have top : holds.head? = some .write := fits.suits
  have mine : self.ownerThreadId = place :=
    fits.owner.mpr (by simp [LockThread.owns, LockThread.possesses, List.mem_of_head? top])
  simp only [advance, mine, if_true] at stepped
  cases stepped
  exact sound.proceeds found rfl rfl rfl rfl (by simp) top

theorem subRecursion_sound (sound : self.Sound)
    (found : self.threads[place]? = some ⟨.subRecursion, holds⟩)
    (stepped : self.advance place holds .subRecursion = some after) : after.Sound := by
  have fits := sound.fits found
  obtain ⟨rest, rfl⟩ : ∃ rest, holds = .write :: rest := List.head?_eq_some_iff.mp fits.suits
  have possesses : (LockThread.mk .subRecursion (.write :: rest)).possesses := by
    simp [LockThread.possesses]
  have mine : self.ownerThreadId = place := fits.owner.mpr possesses
  have depth : self.writeRecursion.toNat = rest.count .write + 1 := by
    rw [fits.recursion possesses (by simp)]
    simp [LockThread.recursion, LockThread.writeDepth]
  have positive : self.writeRecursion ≠ 0 := by
    intro zero
    simp [zero] at depth
  have less : (self.writeRecursion - 1).toNat = rest.count .write := by
    rw [UInt16.toNat_sub_of_le _ _ (by rw [UInt16.le_iff_toNat_le, depth]; simp), depth]
    simp
  simp only [advance, positive, if_false, List.erase_cons_head] at stepped
  split at stepped
  · rename_i last
    have single : rest.count .write = 0 := by simpa [last] using depth
    cases stepped
    refine sound.moved found ⟨.clearOwner, .write :: rest⟩ rfl rfl
      (sound.claims_kept found _ rfl rfl) rfl (.inr ⟨possesses, .inl mine⟩) ?_
    exact ⟨fits.owner, fun _ _ => less.trans single, fits.stacked, rfl, by simp [single]⟩
  · rename_i several
    have remains : Hold.write ∈ rest := by
      refine List.one_le_count_iff.mp (Nat.one_le_iff_ne_zero.mpr fun single => several ?_)
      exact UInt16.toNat_inj.mp (by simp [depth, single])
    cases stepped
    refine sound.moved found ⟨.returned, rest⟩ rfl rfl (sound.claims_kept found _ ?_ ?_) rfl
      (.inr ⟨possesses, .inl mine⟩) ?_
    · simp [LockThread.possesses, remains]
    · simp [LockThread.countedReads]
    · refine ⟨iff_of_true mine ?_, fun _ _ => less, fits.stacked, trivial⟩
      simp [LockThread.owns, LockThread.possesses, remains]

theorem clearOwner_sound (sound : self.Sound)
    (found : self.threads[place]? = some ⟨.clearOwner, holds⟩)
    (stepped : self.advance place holds .clearOwner = some after) : after.Sound := by
  have fits := sound.fits found
  have held : Hold.write ∈ holds := List.mem_of_head? fits.suits.1
  cases stepped
  refine sound.moved found ⟨.exchangeState, holds⟩ rfl rfl (sound.claims_kept found _ rfl rfl) rfl
    (.inr ⟨by simp [LockThread.possesses, held], .inr rfl⟩) ?_
  refine ⟨iff_of_false ?_ (by simp [LockThread.owns]),
    fun owns => by simp [LockThread.owns] at owns, fits.stacked, fits.suits⟩
  change (-1 : Int) ≠ place
  omega

theorem exchangeState_sound (sound : self.Sound)
    (found : self.threads[place]? = some ⟨.exchangeState, holds⟩)
    (stepped : self.advance place holds .exchangeState = some after) : after.Sound := by
  have fits := sound.fits found
  obtain ⟨rest, rfl⟩ : ∃ rest, holds = .write :: rest := List.head?_eq_some_iff.mp fits.suits.1
  have last : Hold.write ∉ rest := List.count_eq_zero.mp (by simpa using fits.suits.2)
  simp only [advance, List.erase_cons_head] at stepped
  cases stepped
  refine sound.moved found ⟨.returned, rest⟩ rfl rfl (sound.claims_set found _ ?_) rfl
    (.inl ⟨rfl, rfl⟩) ?_
  · intro possessions reads claims
    have possessed : (LockThread.mk .exchangeState (.write :: rest)).possession = 1 := by
      simp [LockThread.possession, LockThread.possesses]
    have released : (LockThread.mk .returned rest).possession = 0 := by
      simp [LockThread.possession, LockThread.possesses, last]
    have same : (LockThread.mk .returned rest).countedReads =
        (LockThread.mk .exchangeState (.write :: rest)).countedReads := by
      simp [LockThread.countedReads]
    rw [released, same]
    rw [possessed] at claims
    exact claims.release
  · refine ⟨?_, ?_, fits.stacked, trivial⟩
    · simpa [LockThread.owns, LockThread.possesses, last] using fits.owner
    · simp [LockThread.owns, LockThread.possesses, last]

theorem readOwner_sound (sound : self.Sound)
    (found : self.threads[place]? = some ⟨.readOwner, holds⟩)
    (stepped : self.advance place holds .readOwner = some after) : after.Sound := by
  have fits := sound.fits found
  have owner : self.ownerThreadId = place ↔ Hold.write ∈ holds := by
    simpa [LockThread.owns, LockThread.possesses] using fits.owner
  simp only [advance] at stepped
  split at stepped
  · rename_i mine
    cases stepped
    refine sound.moved found ⟨.returned, .read false :: holds⟩ rfl rfl
      (sound.claims_kept found _ ?_ ?_) rfl (.inl ⟨rfl, rfl⟩) ?_
    · simp [LockThread.possesses]
    · simp [LockThread.countedReads]
    · refine fits.next ⟨.returned, .read false :: holds⟩ ?_ (by simp) ?_
        ⟨owner.mp mine, fits.stacked⟩ trivial
      · simp [LockThread.owns, LockThread.possesses]
      · simp [LockThread.recursion, LockThread.writeDepth]
  · rename_i foreign
    cases stepped
    exact sound.proceeds found rfl rfl rfl rfl (by simp) fun held => foreign (owner.mpr held)

theorem readCas_sound (sound : self.Sound)
    (found : self.threads[place]? = some ⟨.readCas expected, holds⟩)
    (stepped : self.advance place holds (.readCas expected) = some after) : after.Sound := by
  have fits := sound.fits found
  obtain ⟨unheld, unwritten⟩ : Hold.write ∉ holds ∧ expected ≠ writeState := fits.suits
  simp only [advance] at stepped
  split at stepped
  · contradiction
  · split at stepped
    · rename_i expects
      subst expects
      cases stepped
      refine sound.moved found ⟨.returned, .read true :: holds⟩ rfl rfl
        (sound.claims_set found _ ?_) rfl (.inl ⟨rfl, rfl⟩) ?_
      · intro possessions reads claims
        have same : (LockThread.mk .returned (.read true :: holds)).possession =
            (LockThread.mk (.readCas self.lockState) holds).possession := by
          simp [LockThread.possession, LockThread.possesses]
        have more : (LockThread.mk .returned (.read true :: holds)).countedReads =
            (LockThread.mk (.readCas self.lockState) holds).countedReads + 1 := by
          simp [LockThread.countedReads]
        rw [same, more]
        exact claims.share unwritten
      · refine (fits.next ⟨.returned, .read true :: holds⟩ ?_ (by simp) ?_ fits.stacked
          trivial).congr rfl rfl
        · simp [LockThread.owns, LockThread.possesses]
        · simp [LockThread.recursion, LockThread.writeDepth]
    · cases stepped
      exact sound.proceeds found rfl rfl rfl rfl (by simp) unheld

/-- A thread with a counted read does not possess the lock. -/
theorem Sound.reader_unpossessed (sound : self.Sound) (found : self.threads[place]? = some thread)
    (counted : 0 < thread.countedReads) : thread.possesses = false := by
  have reads := weight_le_total LockThread.countedReads (List.mem_of_getElem? found)
  have free := total_eq_zero.mp (sound.claims.shared (by omega)).1 thread
    (List.mem_of_getElem? found)
  simpa [LockThread.possession] using free

/-- The owner gives back a read that was not counted, another thread one that was. -/
theorem Sound.unread_top (sound : self.Sound)
    (found : self.threads[place]? = some ⟨.unreadOwner, holds⟩) :
    ∃ counted rest, holds = .read counted :: rest ∧
      (self.ownerThreadId = place ↔ counted = false) := by
  have fits := sound.fits found
  have owner : self.ownerThreadId = place ↔ Hold.write ∈ holds := by
    simpa [LockThread.owns, LockThread.possesses] using fits.owner
  obtain ⟨counted, rest, rfl⟩ : ∃ counted rest, holds = .read counted :: rest := by
    have top : holds.head?.any Hold.isRead := fits.suits
    match holds, top with
    | .read counted :: rest, _ => exact ⟨counted, rest, rfl⟩
  refine ⟨counted, rest, rfl, owner.trans ?_⟩
  cases counted with
  | false => exact iff_of_true (List.mem_cons_of_mem _ fits.stacked.1) rfl
  | true =>
      have without := sound.reader_unpossessed found (by simp [LockThread.countedReads])
      exact iff_of_false (by simpa [LockThread.possesses] using without) (by simp)

theorem unreadOwner_sound (sound : self.Sound)
    (found : self.threads[place]? = some ⟨.unreadOwner, holds⟩)
    (stepped : self.advance place holds .unreadOwner = some after) : after.Sound := by
  have fits := sound.fits found
  obtain ⟨counted, rest, rfl, owner⟩ := sound.unread_top found
  simp only [advance, owner] at stepped
  cases counted with
  | false =>
      simp only [if_true, List.erase_cons_head] at stepped
      cases stepped
      refine sound.moved found ⟨.returned, rest⟩ rfl rfl (sound.claims_kept found _ ?_ ?_) rfl
        (.inl ⟨rfl, rfl⟩) ?_
      · simp [LockThread.possesses]
      · simp [LockThread.countedReads]
      · refine fits.next ⟨.returned, rest⟩ ?_ (by simp) ?_ fits.stacked.2 trivial
        · simp [LockThread.owns, LockThread.possesses]
        · simp [LockThread.recursion, LockThread.writeDepth]
  | true =>
      cases stepped
      exact sound.proceeds found rfl rfl rfl rfl (by simp) rfl

theorem subState_sound (sound : self.Sound) (found : self.threads[place]? = some ⟨.subState, holds⟩)
    (stepped : self.advance place holds .subState = some after) : after.Sound := by
  have fits := sound.fits found
  obtain ⟨rest, rfl⟩ : ∃ rest, holds = .read true :: rest := List.head?_eq_some_iff.mp fits.suits
  have same : (LockThread.mk .returned rest).possession =
      (LockThread.mk .subState (.read true :: rest)).possession := by
    simp [LockThread.possession, LockThread.possesses]
  have fewer : (LockThread.mk .subState (.read true :: rest)).countedReads =
      (LockThread.mk .returned rest).countedReads + 1 := by
    simp [LockThread.countedReads]
  have shared : 0 < self.lockState := by
    have reads := weight_le_total LockThread.countedReads (List.mem_of_getElem? found)
    exact (sound.claims.shared (by omega)).2
  simp only [advance, List.erase_cons_head, Int.not_le.mpr shared, if_false] at stepped
  cases stepped
  refine sound.moved found ⟨.returned, rest⟩ rfl rfl (sound.claims_set found _ ?_) rfl
    (.inl ⟨rfl, rfl⟩) ?_
  · intro possessions reads claims
    rw [fewer] at claims
    rw [same]
    exact claims.unshare
  · refine (fits.next ⟨.returned, rest⟩ ?_ (by simp) ?_ fits.stacked trivial).congr rfl rfl
    · simp [LockThread.owns, LockThread.possesses]
    · simp [LockThread.recursion, LockThread.writeDepth]

theorem advance_sound (sound : self.Sound) (found : self.threads[place]? = some ⟨pc, holds⟩)
    (stepped : self.advance place holds pc = some after) : after.Sound := by
  cases pc with
  | returned => contradiction
  | writeOwner => exact writeOwner_sound sound found stepped
  | addRecursion => exact addRecursion_sound sound found stepped
  | addPending => exact addPending_sound sound found stepped
  | writeCas => exact writeCas_sound sound found stepped
  | storeOwner => exact storeOwner_sound sound found stepped
  | storeRecursion => exact storeRecursion_sound sound found stepped
  | subPending => exact subPending_sound sound found stepped
  | unlockOwner => exact unlockOwner_sound sound found stepped
  | subRecursion => exact subRecursion_sound sound found stepped
  | clearOwner => exact clearOwner_sound sound found stepped
  | exchangeState => exact exchangeState_sound sound found stepped
  | readOwner => exact readOwner_sound sound found stepped
  | loadPending =>
      have unheld : Hold.write ∉ holds := (sound.fits found).suits
      cases stepped
      split
      · exact sound.proceeds found rfl rfl rfl rfl (by simp) unheld
      · exact sound.proceeds found rfl rfl rfl rfl (by simp) unheld
  | loadState =>
      have unheld : Hold.write ∉ holds := (sound.fits found).suits
      cases stepped
      split
      · exact sound.proceeds found rfl rfl rfl rfl (by simp) unheld
      · rename_i unwritten
        exact sound.proceeds found rfl rfl rfl rfl (by simp) ⟨unheld, unwritten⟩
  | readCas expected => exact readCas_sound sound found stepped
  | unreadOwner => exact unreadOwner_sound sound found stepped
  | subState => exact subState_sound sound found stepped

end Advance

theorem Sound.call (sound : self.Sound) (found : self.threads[place]? = some thread)
    (idle : thread.pc = .returned) {function : LockCall} (nests : function.Nests thread.holds) :
    (self.goto place function.start thread.holds).Sound := by
  obtain ⟨pc, holds⟩ := thread
  cases idle
  cases function with
  | writeLock => exact sound.proceeds found rfl rfl rfl rfl (by simp) nests
  | writeUnLock => exact sound.proceeds found rfl rfl rfl rfl (by simp) nests
  | readLock => exact sound.proceeds found rfl rfl rfl rfl (by simp) trivial
  | readUnLock => exact sound.proceeds found rfl rfl rfl rfl (by simp) nests

theorem Sound.spawn (sound : self.Sound) :
    { self with threads := self.threads ++ [⟨.returned, []⟩] : Lock }.Sound := by
  have known := sound.known
  refine ⟨sound.uncrashed, ?_, ?_, ?_, ?_⟩
  · simpa [LockThread.possession, LockThread.possesses, LockThread.countedReads] using sound.claims
  · simpa [LockThread.pendings, LockThread.pends] using sound.pending
  · simp only [List.length_append, List.length_singleton]
    omega
  · intro place thread found
    rcases getElem?_concat_cases found with before | ⟨rfl, rfl⟩
    · exact (sound.fits before).congr rfl rfl
    · refine ⟨iff_of_false (by change self.ownerThreadId ≠ _; omega) ?_, ?_, trivial, trivial⟩
      · simp [LockThread.owns, LockThread.possesses]
      · simp [LockThread.owns, LockThread.possesses]

theorem step_sound (nested : Nested event self) (stepped : system.step event self = some after)
    (sound : self.Sound) : after.Sound := by
  simp only [system, step] at stepped
  rw [if_neg (by simp [sound.uncrashed])] at stepped
  cases event with
  | spawn =>
      cases stepped
      exact sound.spawn
  | call place function =>
      obtain ⟨thread, found, stepped⟩ := Option.bind_eq_some_iff.mp stepped
      split at stepped
      · rename_i idle
        cases stepped
        exact sound.call found idle (nested thread found)
      · contradiction
  | run place =>
      obtain ⟨thread, found, stepped⟩ := Option.bind_eq_some_iff.mp stepped
      exact advance_sound sound found stepped

theorem run_sound (nested : system.Guarded Nested events fresh)
    (ran : system.run events fresh = some self) : self.Sound :=
  System.run_preserves_guarded step_sound nested ran fresh_sound

theorem Stacked.write_of_uncounted (stacked : Stacked holds) (uncounted : .read false ∈ holds) :
    Hold.write ∈ holds := by
  induction holds with
  | nil => contradiction
  | cons top rest ih =>
      cases top with
      | write => exact List.mem_cons_self
      | read counted =>
          cases counted with
          | false => exact List.mem_cons_of_mem _ stacked.1
          | true =>
              have later : Hold.read false ∈ rest := by simpa using uncounted
              exact List.mem_cons_of_mem _ (ih stacked later)

theorem possesses_of_held (held : .write ∈ thread.holds) : thread.possesses := by
  unfold LockThread.possesses
  split
  all_goals simp [held]

theorem Sound.state_eq (sound : self.Sound) :
    (self.lockState = -1 ↔ ∃ thread ∈ self.threads, thread.possesses) ∧
      ((¬ ∃ thread ∈ self.threads, thread.possesses) →
        self.lockState = total LockThread.countedReads self.threads) := by
  have nobody : (¬ ∃ thread ∈ self.threads, thread.possesses) ↔
      total LockThread.possession self.threads = 0 := by
    rw [total_eq_zero]
    simp [LockThread.possession]
  rcases sound.claims with ⟨free, shared⟩ | ⟨taken, written, _⟩
  · have absent := nobody.mpr free
    exact ⟨iff_of_false (by omega) absent, fun _ => shared⟩
  · have present : ∃ thread ∈ self.threads, thread.possesses := by
      by_contra absent
      have free := nobody.mp absent
      omega
    exact ⟨iff_of_true written present, fun absent => absurd present absent⟩

/-- While a thread holds a write, the others hold nothing. -/
theorem Sound.excludes (sound : self.Sound) (found : self.threads[place]? = some thread)
    (foundOther : self.threads[elsewhere]? = some other) (different : place ≠ elsewhere)
    (held : .write ∈ thread.holds) : other.holds = [] := by
  have possesses := possesses_of_held held
  have without := sound.alone found foundOther different possesses
  have unwritten : Hold.write ∉ other.holds := by
    intro also
    rw [possesses_of_held also] at without
    contradiction
  refine List.eq_nil_iff_forall_not_mem.mpr ?_
  intro hold member
  cases hold with
  | write => exact unwritten member
  | read counted =>
      cases counted with
      | false => exact unwritten (Stacked.write_of_uncounted (sound.fits foundOther).stacked member)
      | true =>
          have counts : 0 < other.countedReads := List.count_pos_iff.mpr member
          have reads := weight_le_total LockThread.countedReads (List.mem_of_getElem? foundOther)
          have free := (sound.claims.shared (by omega)).1
          have none := total_eq_zero.mp free thread (List.mem_of_getElem? found)
          simp [LockThread.possession, possesses] at none

theorem Sound.unpended (sound : self.Sound)
    (outside : ∀ thread ∈ self.threads, ¬ thread.inWriteLock) : self.writerPending = 0 := by
  have none : total LockThread.pendings self.threads = 0 := by
    refine total_eq_zero.mpr fun thread member => ?_
    have away := outside thread member
    unfold LockThread.inWriteLock at away
    unfold LockThread.pendings LockThread.pends
    split at away
    all_goals simp_all
  rw [sound.pending, none]
  rfl

/-- Every state that threads reach which give back their acquisitions in the reverse order.
A thread whose only acquisitions are reads may ask for a write; it waits then. -/
theorem lock_excludes {events : List LockEvent} (nested : system.Guarded Nested events fresh)
    (ran : system.run events fresh = some self) :
    (∀ (first second : Nat) (left right : LockThread), self.threads[first]? = some left →
      self.threads[second]? = some right →
      first ≠ second → .write ∈ left.holds → right.holds = []) ∧
    ((self.lockState = -1 ↔ ∃ thread ∈ self.threads, thread.possesses) ∧
      ((¬ ∃ thread ∈ self.threads, thread.possesses) →
        self.lockState = total LockThread.countedReads self.threads)) ∧
    (∀ (place : Nat) (thread : LockThread), self.threads[place]? = some thread →
      self.ownerThreadId = place → thread.pc = .returned →
      self.writeRecursion.toNat = thread.writeDepth) ∧
    ((∀ thread ∈ self.threads, ¬ thread.inWriteLock) → self.writerPending = 0) ∧
    self.crash = none := by
  have sound := run_sound nested ran
  refine ⟨?_, sound.state_eq, ?_, sound.unpended, sound.uncrashed⟩
  · intro first second left right foundLeft foundRight different held
    exact sound.excludes foundLeft foundRight different held
  · intro place thread found owner idle
    have fits := sound.fits found
    rw [fits.recursion (fits.owner.mp owner) (by simp [idle])]
    simp [LockThread.recursion, idle]

/-- A thread reads inside its write while another one waits for its read. -/
theorem lock_excludes_waiting_reader :
    let events := [LockEvent.spawn, .spawn, .call 0 .writeLock] ++ List.replicate 6 (.run 0) ++
      [.call 0 .readLock, .run 0, .call 1 .readLock, .run 1, .run 1, .run 1]
    ∃ lock, system.run events fresh = some lock ∧
      lock.threads = [⟨.returned, [.read false, .write]⟩, ⟨.loadPending, []⟩] ∧
      lock.lockState = -1 ∧ lock.writeRecursion.toNat = 1 ∧ lock.crash = none := by
  intro events
  obtain ⟨lock, ran, threads, owner⟩ : ∃ lock, system.run events fresh = some lock ∧
      lock.threads = [⟨.returned, [.read false, .write]⟩, ⟨.loadPending, []⟩] ∧
      lock.ownerThreadId = (0 : Nat) := ⟨_, rfl, rfl, rfl⟩
  obtain ⟨_, ⟨written, _⟩, recursion, _, crash⟩ := lock_excludes (by decide) ran
  refine ⟨lock, ran, threads, written.mpr ?_, ?_, crash⟩
  · rw [threads]
    exact ⟨_, List.mem_cons_self, by decide⟩
  · exact recursion 0 ⟨.returned, [.read false, .write]⟩ (by rw [threads]; rfl) owner rfl

end Lock

end ChattingProgram.Core
