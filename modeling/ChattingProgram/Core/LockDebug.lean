import ChattingProgram.Core.LockProgress

namespace ChattingProgram.Core

open ChattingProgram.Machine

/-! # The lock of the debug build

`_DEBUG` adds an array of read depths to `Lock`.  A thread does an operation of its own on
it in `ReadLock`, `ReadUnLock`, and in `WriteLock` if it is the owner; the rest is the
release build.
-/

def threadMaxCount : Nat := 32

/-- The next operation of a thread, where the debug build has one that the release build has
not. -/
inductive DebugPc where
  | checkDepth
  | addDepth
  | subDepth
deriving Repr, DecidableEq

inductive DebugCrash where
  | invalidThreadId
  | readToWrite
  | depthUnderflow
deriving Repr, DecidableEq

structure DebugLock where
  lock : Lock
  readDepthArray : Vector UInt16 threadMaxCount
  /-- For each thread the debug operation it does next. -/
  ahead : List (Option DebugPc)
  crash : Option DebugCrash
deriving Repr, DecidableEq

/-- `ReadUnLock` begins with its debug operation. -/
def LockCall.debugStart : LockCall → Option DebugPc
  | .readUnLock => some .subDepth
  | .writeLock | .writeUnLock | .readLock => none

/-- The debug operation behind one of the release build. -/
def LockPc.debugNext (lock : Lock) (place : Nat) : LockPc → Option DebugPc
  | .writeOwner => if lock.ownerThreadId = place then some .checkDepth else none
  | .readOwner => if lock.ownerThreadId = place then some .addDepth else none
  | .readCas expected => if lock.lockState = expected then some .addDepth else none
  | _ => none

namespace DebugLock

def fresh : DebugLock where
  lock := .fresh
  readDepthArray := .replicate threadMaxCount 0
  ahead := []
  crash := none

def crashed (self : DebugLock) (cause : DebugCrash) : DebugLock := { self with crash := some cause }

/-- `ValidateThreadId` and the operation on `_readDepthArray`. -/
def debugAct (self : DebugLock) (place : Nat) (operation : DebugPc) : DebugLock :=
  if valid : place < threadMaxCount then
    let depth := self.readDepthArray[place]
    let next := { self with ahead := self.ahead.set place none }
    match operation with
    | .checkDepth => if depth ≠ 0 then self.crashed .readToWrite else next
    | .addDepth => { next with readDepthArray := self.readDepthArray.set place (depth + 1) }
    | .subDepth =>
        let taken := { next with readDepthArray := self.readDepthArray.set place (depth - 1) }
        if depth = 0 then taken.crashed .depthUnderflow else taken
  else self.crashed .invalidThreadId

def step : LockEvent → DebugLock → Option DebugLock
  | event, self =>
    if self.crash.isSome || self.lock.crash.isSome then none
    else
      match event with
      | .spawn =>
          (Lock.step .spawn self.lock).map fun lock =>
          { self with lock := lock, ahead := self.ahead ++ [none] }
      | .call place function =>
          (self.ahead[place]?).bind fun
            | some _ => none
            | none => (Lock.step (.call place function) self.lock).map fun lock =>
                { self with lock := lock, ahead := self.ahead.set place function.debugStart }
      | .run place =>
          (self.ahead[place]?).bind fun
            | some operation => some (self.debugAct place operation)
            | none => (self.lock.threads[place]?).bind fun current =>
                (Lock.step (.run place) self.lock).map fun lock =>
                  { self with
                    lock := lock, ahead :=
                      self.ahead.set place (current.pc.debugNext self.lock place) }

def system : System DebugLock LockEvent := ⟨step⟩

end DebugLock

def LockThread.reads (thread : LockThread) : Nat := thread.holds.countP Hold.isRead

namespace Lock

/-- The ids of the threads are below `THREAD_MAX_COUNT`. -/
def Numbered : LockEvent → Lock → Prop
  | .spawn, self => self.threads.length < threadMaxCount
  | _, _ => True

/-- No thread asks for a write inside a read of its own. -/
def WritesOutside : LockEvent → Lock → Prop
  | .call place .writeLock, self => ∀ current ∈ self.threads[place]?, current.reads = 0
  | _, _ => True

instance (event : LockEvent) (self : Lock) : Decidable (Numbered event self) :=
  match event with
  | .spawn => inferInstanceAs (Decidable (_ < _))
  | .call _ _ | .run _ => inferInstanceAs (Decidable True)

instance (event : LockEvent) (self : Lock) : Decidable (WritesOutside event self) :=
  match event with
  | .call _ .writeLock => inferInstanceAs (Decidable (∀ _ ∈ _, _))
  | .call _ .readLock | .call _ .readUnLock | .call _ .writeUnLock | .spawn | .run _ =>
      inferInstanceAs (Decidable True)

end Lock

/-! ## What the depth of a thread is -/

/-- The reads that the depth of a thread does not count yet, or no longer. -/
def LockPc.unshown : LockPc → Option DebugPc → Nat
  | .returned, some .addDepth => 1
  | .unreadOwner, none => 1
  | .subState, none => 1
  | _, _ => 0

def DebugPc.position : DebugPc → LockPc
  | .checkDepth => .addRecursion
  | .addDepth => .returned
  | .subDepth => .unreadOwner

structure Tracks (thread : LockThread) (ahead : Option DebugPc) (depth : UInt16) : Prop where
  room : thread.holds.length + thread.acquires.toNat < 2 ^ 16
  writes : thread.inWriteLock → thread.reads = 0
  position : ∀ operation ∈ ahead, thread.pc = operation.position
  shown : depth.toNat + thread.pc.unshown ahead = thread.reads

namespace Tracks

variable {pc next : LockPc} {holds final : List Hold} {ahead later : Option DebugPc}
  {depth : UInt16}

/-- A thread that keeps its acquisitions, at a position with no debug operation. -/
theorem proceeds (tracks : Tracks ⟨pc, holds⟩ ahead depth)
    (acquires : (LockThread.mk next holds).acquires = (LockThread.mk pc holds).acquires)
    (writes : (LockThread.mk next holds).inWriteLock = (LockThread.mk pc holds).inWriteLock)
    (unshown : next.unshown none = pc.unshown ahead) : Tracks ⟨next, holds⟩ none depth := by
  refine ⟨?_, ?_, by simp, ?_⟩
  · rw [acquires]
    exact tracks.room
  · rw [writes]
    exact tracks.writes
  · rw [unshown]
    exact tracks.shown

theorem returns (tracks : Tracks ⟨pc, holds⟩ none depth)
    (room : final.length ≤ holds.length + (LockThread.mk pc holds).acquires.toNat)
    (position : ∀ operation ∈ later, LockPc.returned = operation.position)
    (shown : final.countP Hold.isRead + pc.unshown none =
      holds.countP Hold.isRead + LockPc.returned.unshown later) :
    Tracks ⟨.returned, final⟩ later depth := by
  have before := tracks.room
  have reads := tracks.shown
  simp only [LockThread.reads] at before reads
  refine ⟨?_, by simp [LockThread.inWriteLock], position, ?_⟩
  · change final.length + 0 < 2 ^ 16
    omega
  · change depth.toNat + LockPc.returned.unshown later = final.countP Hold.isRead
    omega

theorem gains_write (tracks : Tracks ⟨pc, holds⟩ none depth)
    (acquires : (LockThread.mk pc holds).acquires) (unshown : pc.unshown none = 0) :
    Tracks ⟨.returned, .write :: holds⟩ none depth := by
  refine tracks.returns ?_ (by simp) ?_
  · simp [acquires]
  · rw [unshown, List.countP_cons_of_neg (by decide)]
    rfl

theorem gains_read (counted : Bool) (tracks : Tracks ⟨pc, holds⟩ none depth)
    (acquires : (LockThread.mk pc holds).acquires) (unshown : pc.unshown none = 0) :
    Tracks ⟨.returned, .read counted :: holds⟩ (some .addDepth) depth := by
  refine tracks.returns ?_ (by simp [DebugPc.position]) ?_
  · simp [acquires]
  · rw [unshown, List.countP_cons_of_pos rfl]
    rfl

theorem loses_write (tracks : Tracks ⟨pc, .write :: final⟩ none depth)
    (unshown : pc.unshown none = 0) : Tracks ⟨.returned, final⟩ none depth := by
  refine tracks.returns ?_ (by simp) ?_
  · rw [List.length_cons]
    omega
  · rw [unshown, List.countP_cons_of_neg (by decide)]
    rfl

theorem loses_read (tracks : Tracks ⟨pc, .read counted :: final⟩ none depth)
    (unshown : pc.unshown none = 1) : Tracks ⟨.returned, final⟩ none depth := by
  refine tracks.returns ?_ (by simp) ?_
  · rw [List.length_cons]
    omega
  · rw [unshown, List.countP_cons_of_pos rfl]
    rfl

/-- The owner asks for its next write outside its reads. -/
theorem checked (tracks : Tracks ⟨pc, holds⟩ (some .checkDepth) depth) :
    depth = 0 ∧ Tracks ⟨pc, holds⟩ none depth := by
  cases (tracks.position _ rfl : pc = .addRecursion)
  refine ⟨?_, tracks.proceeds rfl rfl rfl⟩
  have shown : depth.toNat + 0 = _ := tracks.shown
  rw [tracks.writes rfl] at shown
  exact UInt16.toNat_inj.mp shown

theorem added (tracks : Tracks ⟨pc, holds⟩ (some .addDepth) depth) :
    Tracks ⟨pc, holds⟩ none (depth + 1) := by
  cases (tracks.position _ rfl : pc = .returned)
  refine ⟨tracks.room, by simp [LockThread.inWriteLock], by simp, ?_⟩
  have shown : depth.toNat + 1 = holds.countP Hold.isRead := tracks.shown
  have room : holds.length + 0 < 2 ^ 16 := tracks.room
  have reads : holds.countP Hold.isRead ≤ holds.length := List.countP_le_length
  change (depth + 1).toNat + 0 = holds.countP Hold.isRead
  rw [UInt16.toNat_add]
  simp only [UInt16.reduceToNat]
  omega

theorem taken (tracks : Tracks ⟨pc, holds⟩ (some .subDepth) depth)
    (reading : 0 < holds.countP Hold.isRead) : depth ≠ 0 ∧ Tracks ⟨pc, holds⟩ none (depth - 1) := by
  cases (tracks.position _ rfl : pc = .unreadOwner)
  have shown : depth.toNat + 0 = holds.countP Hold.isRead := tracks.shown
  have positive : depth ≠ 0 := by
    rintro rfl
    rw [UInt16.toNat_zero] at shown
    omega
  refine ⟨positive, tracks.room, by simp [LockThread.inWriteLock], by simp, ?_⟩
  change (depth - 1).toNat + 1 = holds.countP Hold.isRead
  rw [UInt16.toNat_sub_of_le _ _ (by rw [UInt16.le_iff_toNat_le]; simp only [UInt16.reduceToNat]; omega)]
  simp only [UInt16.reduceToNat]
  omega

end Tracks

namespace Lock

variable {self after : Lock} {place : Nat} {pc : LockPc} {holds : List Hold} {depth : UInt16}

theorem advance_tracks (sound : self.Sound) (found : self.threads[place]? = some ⟨pc, holds⟩)
    (tracks : Tracks ⟨pc, holds⟩ none depth) (stepped : self.advance place holds pc = some after)
    (uncrashed : after.crash = none) :
    ∃ next, after.threads = self.threads.set place next ∧
      Tracks next (pc.debugNext self place) depth := by
  have fits := sound.fits found
  cases pc with
  | returned => contradiction
  | writeOwner =>
      cases stepped
      by_cases mine : self.ownerThreadId = place
      · simp only [LockPc.debugNext, if_pos mine]
        exact ⟨⟨.addRecursion, holds⟩, rfl, tracks.room,
          tracks.writes, by simp [DebugPc.position], tracks.shown⟩
      · simp only [LockPc.debugNext, if_neg mine]
        exact ⟨_, rfl, tracks.proceeds rfl rfl rfl⟩
  | addRecursion | subPending =>
      cases stepped
      exact ⟨_, rfl, tracks.gains_write rfl rfl⟩
  | addPending | storeOwner | storeRecursion | clearOwner =>
      cases stepped
      exact ⟨_, rfl, tracks.proceeds rfl rfl rfl⟩
  | writeCas =>
      simp only [advance] at stepped
      split at stepped
      · cases stepped
        exact ⟨_, rfl, tracks.proceeds rfl rfl rfl⟩
      · cases stepped
        exact ⟨_, rfl, tracks.proceeds rfl rfl rfl⟩
  | unlockOwner =>
      simp only [advance] at stepped
      split at stepped
      · cases stepped
        exact ⟨_, rfl, tracks.proceeds rfl rfl rfl⟩
      · cases stepped
        contradiction
  | subRecursion =>
      obtain ⟨rest, rfl⟩ : ∃ rest, holds = .write :: rest := List.head?_eq_some_iff.mp fits.suits
      simp only [advance] at stepped
      split at stepped
      · cases stepped
        contradiction
      · split at stepped
        · cases stepped
          exact ⟨_, rfl, tracks.proceeds rfl rfl rfl⟩
        · cases stepped
          rw [List.erase_cons_head]
          exact ⟨_, rfl, tracks.loses_write rfl⟩
  | exchangeState =>
      obtain ⟨rest, rfl⟩ : ∃ rest, holds = .write :: rest := List.head?_eq_some_iff.mp fits.suits.1
      cases stepped
      rw [List.erase_cons_head]
      exact ⟨_, rfl, tracks.loses_write rfl⟩
  | readOwner =>
      by_cases mine : self.ownerThreadId = place
      · simp only [advance, if_pos mine] at stepped
        cases stepped
        simp only [LockPc.debugNext, if_pos mine]
        exact ⟨_, rfl, tracks.gains_read _ rfl rfl⟩
      · simp only [advance, if_neg mine] at stepped
        cases stepped
        simp only [LockPc.debugNext, if_neg mine]
        exact ⟨_, rfl, tracks.proceeds rfl rfl rfl⟩
  | loadPending =>
      cases stepped
      split
      · exact ⟨_, rfl, tracks.proceeds rfl rfl rfl⟩
      · exact ⟨_, rfl, tracks.proceeds rfl rfl rfl⟩
  | loadState =>
      cases stepped
      split
      · exact ⟨_, rfl, tracks.proceeds rfl rfl rfl⟩
      · exact ⟨_, rfl, tracks.proceeds rfl rfl rfl⟩
  | readCas expected =>
      simp only [advance] at stepped
      split at stepped
      · contradiction
      · by_cases same : self.lockState = expected
        · rw [if_pos same] at stepped
          cases stepped
          simp only [LockPc.debugNext, if_pos same]
          exact ⟨_, rfl, tracks.gains_read _ rfl rfl⟩
        · rw [if_neg same] at stepped
          cases stepped
          simp only [LockPc.debugNext, if_neg same]
          exact ⟨_, rfl, tracks.proceeds rfl rfl rfl⟩
  | unreadOwner =>
      obtain ⟨counted, rest, rfl, owner⟩ := sound.unread_top found
      simp only [advance, owner] at stepped
      cases counted with
      | false =>
          cases stepped
          exact ⟨_, rfl, tracks.loses_read rfl⟩
      | true =>
          cases stepped
          exact ⟨_, rfl, tracks.proceeds rfl rfl rfl⟩
  | subState =>
      obtain ⟨rest, rfl⟩ : ∃ rest, holds = .read true :: rest :=
        List.head?_eq_some_iff.mp fits.suits
      simp only [advance] at stepped
      split at stepped
      · cases stepped
        contradiction
      · cases stepped
        exact ⟨_, rfl, tracks.loses_read rfl⟩

end Lock

namespace DebugLock

/-- The release build inside, and a depth for each of its threads. -/
structure Agrees (debug : DebugLock) : Prop where
  sound : debug.lock.Sound
  uncrashed : debug.crash = none
  paired : debug.ahead.length = debug.lock.threads.length
  few : debug.lock.threads.length ≤ threadMaxCount
  tracks : ∀ {place thread ahead} (valid : place < threadMaxCount),
    debug.lock.threads[place]? = some thread →
    debug.ahead[place]? = some ahead → Tracks thread ahead debug.readDepthArray[place]
  unused : ∀ {place} (valid : place < threadMaxCount), debug.lock.threads.length ≤ place →
    debug.readDepthArray[place] = 0

variable {self after : DebugLock} {lock : Lock} {place : Nat} {thread next : LockThread}
  {ahead : Option DebugPc}

theorem fresh_agrees : fresh.Agrees := by
  refine ⟨Lock.fresh_sound, rfl, rfl, by decide, ?_, ?_⟩
  · intro place thread ahead valid found
    simp [fresh, Lock.fresh] at found
  · intro place valid _
    exact Vector.getElem_replicate valid

theorem Agrees.valid (agrees : self.Agrees) (found : self.lock.threads[place]? = some thread) :
    place < threadMaxCount :=
  Nat.lt_of_lt_of_le (List.getElem?_eq_some_iff.mp found).1 agrees.few

/-- One thread moves, and the depths of the others are kept. -/
theorem Agrees.put (agrees : self.Agrees) (sound : lock.Sound)
    (found : self.lock.threads[place]? = some thread)
    (threads : lock.threads = self.lock.threads.set place next)
    (others : ∀ {other} (valid : other < threadMaxCount), other ≠ place →
      depths[other] = self.readDepthArray[other])
    (tracks : ∀ valid : place < threadMaxCount, Tracks next ahead depths[place]) :
    Agrees { self with
      lock := lock, readDepthArray := depths, ahead := self.ahead.set place ahead } := by
  have within := (List.getElem?_eq_some_iff.mp found).1
  refine ⟨sound, agrees.uncrashed, ?_, ?_, ?_, ?_⟩
  · simp only [threads, List.length_set, agrees.paired]
  · simp only [threads, List.length_set, agrees.few]
  · intro other current operation valid foundOther pending
    simp only [threads] at foundOther
    rcases getElem?_set_cases foundOther with ⟨rfl, rfl⟩ | ⟨different, before⟩
    · rw [List.getElem?_set_self (by rw [agrees.paired]; exact within)] at pending
      cases pending
      exact tracks valid
    · simp only [others valid (Ne.symm different)]
      rw [List.getElem?_set_ne different] at pending
      exact agrees.tracks valid before pending
  · intro other valid outside
    simp only [threads, List.length_set] at outside
    simp only [others valid (by omega)]
    exact agrees.unused valid outside

theorem Agrees.acted (agrees : self.Agrees) (found : self.lock.threads[place]? = some thread)
    (valid : place < threadMaxCount) (tracks : Tracks thread none depth) :
    Agrees { self with
      readDepthArray := self.readDepthArray.set place depth, ahead := self.ahead.set place none } :=
      by
  obtain ⟨within, rfl⟩ := List.getElem?_eq_some_iff.mp found
  refine agrees.put agrees.sound found (List.set_getElem_self within).symm ?_ ?_
  · intro other valid different
    exact Vector.getElem_set_ne _ _ (Ne.symm different)
  · intro valid
    rwa [Vector.getElem_set_self]

theorem Agrees.debugAct (agrees : self.Agrees)
    (pending : self.ahead[place]? = some (some operation)) :
    (self.debugAct place operation).Agrees ∧ (self.debugAct place operation).lock = self.lock ∧
      (self.debugAct place operation).ahead = self.ahead.set place none := by
  obtain ⟨thread, found⟩ : ∃ thread, self.lock.threads[place]? = some thread := by
    have within := (List.getElem?_eq_some_iff.mp pending).1
    rw [agrees.paired] at within
    exact ⟨_, List.getElem?_eq_getElem within⟩
  have valid := agrees.valid found
  have tracks := agrees.tracks valid found pending
  simp only [DebugLock.debugAct, dif_pos valid]
  cases operation with
  | checkDepth =>
      obtain ⟨zero, tracksAfter⟩ := tracks.checked
      dsimp only
      rw [if_neg (not_not.mpr zero)]
      have acted := agrees.acted found valid tracksAfter
      rw [Vector.set_getElem_self] at acted
      exact ⟨acted, rfl, rfl⟩
  | addDepth => exact ⟨agrees.acted found valid tracks.added, rfl, rfl⟩
  | subDepth =>
      have reading : 0 < thread.holds.countP Hold.isRead := by
        obtain ⟨pc, holds⟩ := thread
        cases (tracks.position _ rfl : pc = .unreadOwner)
        obtain ⟨counted, rest, rfl, _⟩ := agrees.sound.unread_top found
        simp [Hold.isRead]
      obtain ⟨positive, tracksAfter⟩ := tracks.taken reading
      dsimp only
      rw [if_neg positive]
      exact ⟨agrees.acted found valid tracksAfter, rfl, rfl⟩

theorem Agrees.call {function : LockCall} (agrees : self.Agrees)
    (found : self.lock.threads[place]? = some thread) (idle : thread.pc = .returned)
    (pending : self.ahead[place]? = some none) (nests : function.Nests thread.holds)
    (outside : Lock.WritesOutside (.call place function) self.lock) :
    Agrees { self with
      lock := self.lock.goto place function.start thread.holds,
        ahead := self.ahead.set place function.debugStart } := by
  obtain ⟨pc, holds⟩ := thread
  cases idle
  refine agrees.put (agrees.sound.call found rfl nests) found rfl (fun _ _ => rfl) ?_
  intro valid
  have tracks := agrees.tracks valid found pending
  cases function with
  | writeLock =>
      exact ⟨nests, fun _ => outside ⟨.returned, holds⟩
        found, by simp [LockCall.debugStart], tracks.shown⟩
  | readLock =>
      exact ⟨nests, by simp [LockThread.inWriteLock,
        LockCall.start], by simp [LockCall.debugStart], tracks.shown⟩
  | writeUnLock => exact tracks.proceeds rfl rfl rfl
  | readUnLock =>
      refine ⟨tracks.room, by simp [LockThread.inWriteLock, LockCall.start], ?_, tracks.shown⟩
      simp [LockCall.debugStart, LockCall.start, DebugPc.position]

theorem Agrees.spawn (agrees : self.Agrees) (numbered : self.lock.threads.length < threadMaxCount) :
    Agrees { self with
      lock := { self.lock with threads := self.lock.threads ++ [⟨.returned, []⟩] },
        ahead := self.ahead ++ [none] } := by
  refine ⟨agrees.sound.spawn, agrees.uncrashed, ?_, ?_, ?_, ?_⟩
  · simp only [List.length_append, agrees.paired, List.length_singleton]
  · simp only [List.length_append, List.length_singleton]
    omega
  · intro place thread ahead valid found pending
    rcases getElem?_concat_cases found with before | ⟨rfl, rfl⟩
    · have within := (List.getElem?_eq_some_iff.mp before).1
      rw [List.getElem?_append_left (by rw [agrees.paired]; exact within)] at pending
      exact agrees.tracks valid before pending
    · rw [← agrees.paired, List.getElem?_concat_length] at pending
      cases pending
      refine ⟨by decide, by simp [LockThread.inWriteLock], by simp, ?_⟩
      simp only [agrees.unused valid (Nat.le_refl _)]
      rfl
  · intro place valid outside
    simp only [List.length_append, List.length_singleton] at outside
    exact agrees.unused valid (by omega)

/-- What the threads of both builds do. -/
def Usage (event : LockEvent) (lock : Lock) : Prop :=
  Lock.Nested event lock ∧ Lock.Numbered event lock ∧ Lock.WritesOutside event lock

instance (event : LockEvent) (lock : Lock) : Decidable (Usage event lock) :=
  inferInstanceAs (Decidable (_ ∧ _ ∧ _))

/-- A step of the debug build is one of the release build or a debug operation. -/
theorem step_agrees (usage : Usage event self.lock)
    (stepped : system.step event self = some after) (agrees : self.Agrees) :
    after.Agrees ∧ (Lock.system.step event self.lock = some after.lock ∨
      ((∃ place, event = .run place) ∧ after.lock = self.lock)) := by
  obtain ⟨nested, numbered, outside⟩ := usage
  have released : ¬ self.lock.crash.isSome = true := by simp [agrees.sound.uncrashed]
  have running : ¬ (self.crash.isSome || self.lock.crash.isSome) = true := by
    simp [agrees.uncrashed, released]
  simp only [system, step, if_neg running] at stepped
  cases event with
  | spawn =>
      obtain ⟨lock, moved, rfl⟩ := Option.map_eq_some_iff.mp stepped
      refine ⟨?_, .inl moved⟩
      simp only [Lock.step, if_neg released] at moved
      cases moved
      exact agrees.spawn numbered
  | call place function =>
      obtain ⟨ahead, pending, stepped⟩ := Option.bind_eq_some_iff.mp stepped
      cases ahead with
      | some operation => contradiction
      | none =>
          obtain ⟨lock, moved, rfl⟩ := Option.map_eq_some_iff.mp stepped
          refine ⟨?_, .inl moved⟩
          simp only [Lock.step, if_neg released] at moved
          obtain ⟨thread, found, called⟩ := Option.bind_eq_some_iff.mp moved
          split at called
          · rename_i idle
            cases called
            exact agrees.call found idle pending (nested thread found) outside
          · contradiction
  | run place =>
      obtain ⟨ahead, pending, stepped⟩ := Option.bind_eq_some_iff.mp stepped
      cases ahead with
      | some operation =>
          cases stepped
          obtain ⟨acted, same, _⟩ := agrees.debugAct pending
          exact ⟨acted, .inr ⟨⟨place, rfl⟩, same⟩⟩
      | none =>
          obtain ⟨⟨pc, holds⟩, found, stepped⟩ := Option.bind_eq_some_iff.mp stepped
          obtain ⟨lock, moved, rfl⟩ := Option.map_eq_some_iff.mp stepped
          refine ⟨?_, .inl moved⟩
          have sound := Lock.step_sound nested moved agrees.sound
          simp only [Lock.step, if_neg released, found, Option.bind_some] at moved
          have tracks := agrees.tracks (agrees.valid found) found pending
          obtain ⟨next, threads, tracksAfter⟩ :=
            Lock.advance_tracks agrees.sound found tracks moved sound.uncrashed
          exact agrees.put sound found threads (fun _ _ => rfl) fun _ => tracksAfter

/-! ## The two builds -/

/-- No thread has a debug operation to do. -/
def Idle (self : DebugLock) : Prop := ∀ ahead ∈ self.ahead, ahead = none

theorem fresh_idle : fresh.Idle := by
  intro ahead member
  contradiction

theorem Agrees.within (agrees : self.Agrees) (found : self.lock.threads[place]? = some thread) :
    place < self.ahead.length := by
  rw [agrees.paired]
  exact (List.getElem?_eq_some_iff.mp found).1

theorem Idle.pending (idle : self.Idle) (within : place < self.ahead.length) :
    self.ahead[place]? = some none := by
  rw [List.getElem?_eq_getElem within, idle _ (List.getElem_mem within)]

/-- The debug operation of a thread that has one is done by its next step. -/
theorem Agrees.settles {before : DebugLock} (agrees : self.Agrees) (idle : before.Idle)
    (within : place < before.ahead.length) (pending : self.ahead = before.ahead.set place ahead) :
    ∃ events final, system.run events self = some final ∧ (∀ event ∈ events, event = .run place) ∧
      final.lock = self.lock ∧ final.Agrees ∧ final.Idle := by
  have done : ∀ other ∈ before.ahead.set place none, other = none := by
    intro other member
    rcases List.mem_or_eq_of_mem_set member with present | rfl
    · exact idle other present
    · rfl
  cases ahead with
  | none =>
      refine ⟨[], self, rfl, by simp, rfl, agrees, ?_⟩
      rw [Idle, pending]
      exact done
  | some operation =>
      have next : self.ahead[place]? = some (some operation) := by
        rw [pending, List.getElem?_set_self within]
      obtain ⟨acted, same, cleared⟩ := agrees.debugAct next
      refine ⟨[.run place], _, System.run_cons_some.mpr ⟨_, ?_, rfl⟩, by simp, same, acted, ?_⟩
      · simp [system, step, agrees.uncrashed, agrees.sound.uncrashed, next]
      · rw [Idle, cleared, pending, List.set_set]
        exact done

/-- A step of the release build is one of the debug build, after which at most its thread has a
debug operation to do. -/
theorem Agrees.follows (agrees : self.Agrees) (idle : self.Idle)
    (moved : Lock.system.step event self.lock = some lock) :
    ∃ after, system.step event self = some after ∧ after.lock = lock ∧
      (after.Idle ∨ ∃ place ahead, place < self.ahead.length ∧
        after.ahead = self.ahead.set place ahead) := by
  have released : ¬ self.lock.crash.isSome = true := by simp [agrees.sound.uncrashed]
  have running : ¬ (self.crash.isSome || self.lock.crash.isSome) = true := by
    simp [agrees.uncrashed, released]
  have acts := moved
  simp only [Lock.system, Lock.step, if_neg released] at acts
  cases event with
  | spawn =>
      refine ⟨{ self with lock := lock, ahead := self.ahead ++ [none] }, ?_, rfl, .inl ?_⟩
      · simp only [system, step, if_neg running]
        exact Option.map_eq_some_iff.mpr ⟨lock, moved, rfl⟩
      · intro ahead member
        rcases List.mem_append.mp member with present | new
        · exact idle ahead present
        · exact List.mem_singleton.mp new
  | call place function =>
      obtain ⟨thread, found, _⟩ := Option.bind_eq_some_iff.mp acts
      have within := agrees.within found
      refine ⟨{ self with lock := lock, ahead := self.ahead.set place function.debugStart }, ?_,
        rfl, .inr ⟨place, _, within, rfl⟩⟩
      simp only [system, step, if_neg running, idle.pending within, Option.bind_some]
      exact Option.map_eq_some_iff.mpr ⟨lock, moved, rfl⟩
  | run place =>
      obtain ⟨thread, found, _⟩ := Option.bind_eq_some_iff.mp acts
      have within := agrees.within found
      refine ⟨{ self with
        lock := lock, ahead := self.ahead.set place (thread.pc.debugNext self.lock place) }, ?_,
        rfl, .inr ⟨place, _, within, rfl⟩⟩
      simp only [system, step, if_neg running, idle.pending within, found, Option.bind_some]
      exact Option.map_eq_some_iff.mpr ⟨lock, moved, rfl⟩

/-- A call or a new thread. -/
def visible : LockEvent → Bool
  | .run _ => false
  | .spawn | .call _ _ => true

theorem step_followed (usage : Usage event before)
    (moved : Lock.system.step event before = some lock)
    (related : self.lock = before ∧ self.Agrees ∧ self.Idle) :
    ∃ events after, system.run events self = some after ∧
      events.filter visible = [event].filter visible ∧
      after.lock = lock ∧ after.Agrees ∧ after.Idle := by
  obtain ⟨rfl, agrees, idle⟩ := related
  obtain ⟨after, stepped, rfl, settled | ⟨place, ahead, within, pending⟩⟩ :=
    agrees.follows idle moved
  · exact ⟨[event], after, System.run_cons_some.mpr ⟨after, stepped, rfl⟩, rfl, rfl,
      (step_agrees usage stepped agrees).1, settled⟩
  · obtain ⟨events, final, ran, own, same, agreesAfter, idleAfter⟩ :=
      (step_agrees usage stepped agrees).1.settles idle within pending
    refine ⟨event :: events, final, System.run_cons_some.mpr ⟨after, stepped, ran⟩, ?_, same,
      agreesAfter, idleAfter⟩
    have silent : events.filter visible = [] := by
      refine List.filter_eq_nil_iff.mpr fun other member => ?_
      rw [own other member]
      exact Bool.false_ne_true
    rw [List.filter_cons, List.filter_cons, silent]
    rfl

theorem step_released (usage : Usage event self.lock)
    (stepped : system.step event self = some after) (related : self.lock = lock ∧ self.Agrees) :
    ∃ events final, Lock.system.run events lock = some final ∧
      events.filter visible = [event].filter visible ∧
      after.lock = final ∧ after.Agrees := by
  obtain ⟨rfl, agrees⟩ := related
  obtain ⟨agreesAfter, moved | ⟨⟨place, rfl⟩, same⟩⟩ := step_agrees usage stepped agrees
  · exact ⟨[event], after.lock, System.run_cons_some.mpr ⟨_, moved, rfl⟩, rfl, rfl, agreesAfter⟩
  · exact ⟨[], self.lock, rfl, rfl, same, agreesAfter⟩

theorem Agrees.writes_outside (agrees : self.Agrees) :
    ∀ thread ∈ self.lock.threads, thread.inWriteLock → thread.reads = 0 := by
  intro thread member
  obtain ⟨place, found⟩ := List.mem_iff_getElem?.mp member
  exact (agrees.tracks (agrees.valid found) found
    (List.getElem?_eq_getElem (agrees.within found))).writes

/-- If no thread asks for a write inside its reads, the two builds take the same calls to the
same states, and the debug build does not crash. -/
theorem builds_agree (events : List LockEvent) :
    (∀ lock, Lock.system.Guarded Usage events .fresh → Lock.system.run events .fresh = some lock →
      ∃ others final, system.run others fresh = some final ∧
        others.filter visible = events.filter visible ∧
        final.lock = lock ∧ final.Idle ∧ final.crash = none) ∧
    (∀ debug, system.Guarded (fun event state => Usage event state.lock) events fresh →
      system.run events fresh = some debug → debug.crash = none ∧
        (∀ thread ∈ debug.lock.threads, thread.inWriteLock → thread.reads = 0) ∧
        ∃ others, Lock.system.run others .fresh = some debug.lock ∧
          others.filter visible = events.filter visible) := by
  constructor
  · intro lock usage ran
    obtain ⟨others, final, ranOthers, same, locks, agrees, idle⟩ :=
      System.run_simulated step_followed usage ran ⟨rfl, fresh_agrees, fresh_idle⟩
    exact ⟨others, final, ranOthers, same, locks, idle, agrees.uncrashed⟩
  · intro debug usage ran
    obtain ⟨others, final, ranOthers, same, rfl, agrees⟩ :=
      System.run_simulated step_released usage ran ⟨rfl, fresh_agrees⟩
    exact ⟨agrees.uncrashed, agrees.writes_outside, others, ranOthers, same⟩

/-- A thread takes a write, then a read inside it. -/
def readsInWrite : List LockEvent :=
  [LockEvent.spawn, .call 0 .writeLock] ++ List.replicate 6 (LockEvent.run 0) ++
    [LockEvent.call 0 .readLock, .run 0]

/-- The thread takes a second write inside the read. -/
def writesInRead : List LockEvent := [.call 0 .writeLock, .run 0, .run 0]

/-- A thread takes a read, then a write inside it. -/
def upgrades : List LockEvent :=
  [LockEvent.spawn, .call 0 .readLock] ++ List.replicate 5 (LockEvent.run 0) ++ writesInRead

theorem builds_agree_read_in_write :
    ∃ lock, Lock.system.run readsInWrite .fresh = some lock ∧
      lock.threads = [⟨.returned, [.read false, .write]⟩] ∧
      ∃ others final, system.run others fresh = some final ∧
        others.filter visible = readsInWrite.filter visible ∧ final.lock = lock ∧ final.Idle ∧
          final.crash = none := by
  obtain ⟨lock, ran, threads⟩ : ∃ lock, Lock.system.run readsInWrite .fresh = some lock ∧
      lock.threads = [⟨.returned, [.read false, .write]⟩] := ⟨_, rfl, rfl⟩
  exact ⟨lock, ran, threads, (builds_agree readsInWrite).1 lock (by decide) ran⟩

/-- A write inside a read inside a write returns in the release build and crashes in the debug
build; a write inside a read alone waits for ever in both, and nothing is reported. -/
theorem builds_disagree :
    (∃ lock debug, Lock.system.run (readsInWrite ++ writesInRead) .fresh = some lock ∧
      Lock.system.Guarded Lock.Nested (readsInWrite ++ writesInRead) .fresh ∧
      lock.threads = [⟨.returned, [.write, .read false, .write]⟩] ∧
      system.run (readsInWrite ++ LockEvent.run 0 :: writesInRead) fresh = some debug ∧
      debug.crash = some .readToWrite) ∧
    ∃ debug, system.run upgrades fresh = some debug ∧
      debug.lock.threads = [⟨.writeCas, [.read true]⟩] ∧
      ∀ steps, system.run (List.replicate steps (.run 0)) debug = some debug ∧
        Lock.system.run (List.replicate steps (.run 0)) debug.lock = some debug.lock ∧
          debug.crash = none := by
  refine ⟨⟨_, _, rfl, by decide, rfl, rfl, rfl⟩, ?_⟩
  obtain ⟨debug, ran, threads, stuck, stuckLock, silent⟩ : ∃ debug,
      system.run upgrades fresh = some debug ∧
      debug.lock.threads = [⟨.writeCas, [.read true]⟩] ∧ system.step (.run 0) debug = some debug ∧
      Lock.system.step (.run 0) debug.lock = some debug.lock ∧
      debug.crash = none := ⟨_, rfl, rfl, rfl, rfl, rfl⟩
  refine ⟨debug, ran, threads, fun steps => ⟨?_, ?_, silent⟩⟩
  · refine System.run_stuck fun event member => ?_
    rw [List.eq_of_mem_replicate member]
    exact stuck
  · refine System.run_stuck fun event member => ?_
    rw [List.eq_of_mem_replicate member]
    exact stuckLock

end DebugLock

end ChattingProgram.Core
