import ChattingProgram.Core.SendSteps

namespace ChattingProgram.Core

open ChattingProgram.Data ChattingProgram.Machine

/-! # The sizes of `MakeSendBuffer`

The length of a message is cut to 16 bits, and so is its sum with the size of the header.
A chunk is asked for that sum; the header is stored whatever the sum is.
-/

/-- The causes that are assertions; the others are accesses that nothing tests. -/
def SendBufferCrash.isAssertion : SendBufferCrash → Bool
  | .managerOpen | .chunkOpenSize | .chunkOpen | .serialize | .closeSize | .chunkClose => true
  | .nullBuffer | .outOfChunk => false

/-- What the next step of a call stores: into which buffer, from where on, and how many bytes. -/
def MakePc.stores : MakePc → Option (Nat × Nat × Nat)
  | .header packet buffer => some (buffer, 0, packet.header.bytes.length)
  | .serialize packet buffer =>
      if packet.dataSize < packet.payload.length then none
      else some (buffer, headerSize, packet.payload.length)
  | _ => none

namespace Packet

theorem packetSize_of_lt {packet : Packet} (unwrapped : packet.payload.length % 2 ^ 16 < 65532) :
    packet.packetSize = packet.payload.length % 2 ^ 16 + headerSize := by
  simp only [packetSize, dataSize, headerSize]
  omega

theorem packetSize_of_serialized {packet : Packet}
    (unwrapped : packet.payload.length % 2 ^ 16 < 65532)
    (serialized : ¬ packet.dataSize < packet.payload.length) :
    packet.packetSize = packet.payload.length + headerSize := by
  rw [packetSize_of_lt unwrapped]
  simp only [dataSize] at serialized
  have whole : packet.payload.length % 2 ^ 16 ≤ packet.payload.length := Nat.mod_le _ _
  omega

/-- Near the limit of 16 bits the sum wraps around and is smaller than a header. -/
theorem packetSize_of_ge {packet : Packet} (wrapped : ¬ packet.payload.length % 2 ^ 16 < 65532) :
    packet.packetSize < headerSize := by
  simp only [packetSize, dataSize, headerSize]
  omega

theorem header_size (packet : Packet) : packet.header.size.toNat = packet.packetSize := by
  simp only [header, packetSize]
  rw [UInt16.toNat_ofNat']
  omega

end Packet

namespace SendBufferManager

/-- What the next step of a thread stores lies inside of what `Open` has reserved. -/
def StoresInside (self : SendBufferManager) (thread : Nat) : Prop :=
  ∀ slot pc, self.threads[thread]? = some ⟨slot, pc⟩ →
    ∀ buffer start length, pc.stores = some (buffer, start, length) →
      ∃ target, self.buffers[buffer]? = some target ∧ start + length ≤ target.allocSize

/-- Steps of one thread. -/
def alone (self : SendBufferManager) (thread steps : Nat) : Option SendBufferManager :=
  system.run (List.replicate steps (.run thread)) self

/-- An assertion has stopped the program. -/
def Stopped (self : SendBufferManager) : Prop := ∃ cause, self.crash = some cause ∧
  cause.isAssertion

/-- The call has returned the buffer; its `WriteSize` and the size in its header are those of
the message and a header. -/
def Returned (self : SendBufferManager) (thread : Nat) (packet : Packet) (buffer : Nat) : Prop :=
  self.crash = none ∧ ∃ slot sent, self.threads[thread]? = some ⟨slot, .idle⟩ ∧
    self.buffers[buffer]? = some sent ∧ sent.lifetime = .held ∧
    sent.writeSize = packet.payload.length + headerSize ∧
    (PacketHeader.read (self.bytes sent)).size.toNat = packet.payload.length + headerSize

/-- A call of `MakeSendBuffer` stores only inside of what was reserved, and it comes to an
assertion that fails or to its end. -/
def MakesSoundly (self : SendBufferManager) (thread : Nat) (packet : Packet) : Prop :=
  ∃ called, step (.make thread packet) self = some called ∧
    (∀ steps state, called.alone thread steps = some state → state.StoresInside thread) ∧
    ∃ steps final, called.alone thread steps = some final ∧
      (final.Stopped ∨ final.Returned thread packet self.buffers.length)

/-! ## The steps of a call on its own -/

/-- What a thread finds at a position if no other thread takes a step; `buffer` is the number
that the next `SendBuffer` gets. -/
def Finds (self : SendBufferManager) (buffer : Nat) (slot : Option Nat) : MakePc → Prop
  | .idle | .recycleReleased _ => True
  | .openSlot _ => self.buffers.length = buffer ∧
      ∀ chunk ∈ slot, ∃ current, self.chunks[chunk]? = some current ∧ current.isOpen = false
  | .pop _ _ => self.buffers.length = buffer
  | .assign _ _ popped => self.buffers.length = buffer ∧ popped < self.chunks.length
  | .recycle _ _ old => self.buffers.length = buffer ∧ slot.isSome ∧ old < self.chunks.length
  | .reset _ _ => self.buffers.length = buffer ∧ slot.isSome
  | .check _ => self.buffers.length = buffer ∧
      ∃ chunk current, slot = some chunk ∧ self.chunks[chunk]? = some current ∧
      current.isOpen = false
  | .openChunk packet => self.buffers.length = buffer ∧
      ∃ chunk current, slot = some chunk ∧ self.chunks[chunk]? = some current ∧
        current.isOpen = false ∧
        (packet.packetSize ≤ chunkSize → packet.packetSize ≤ current.freeSize)
  | .header packet made => made = buffer ∧ self.Builds slot packet buffer []
  | .serialize packet made => made = buffer ∧ self.Builds slot packet buffer packet.header.bytes
  | .close packet made => made = buffer ∧ ¬ packet.dataSize < packet.payload.length ∧
      self.Builds slot packet buffer (packet.header.bytes ++ packet.payload)

structure Calling (state : SendBufferManager) (thread buffer : Nat) (slot : Option Nat)
    (pc : MakePc) : Prop where
  sound : state.crash = none
  found : state.threads[thread]? = some ⟨slot, pc⟩
  pooled : ∀ chunk ∈ state.pool, chunk < state.chunks.length
  slotted : ∀ chunk ∈ slot, chunk < state.chunks.length
  finds : state.Finds buffer slot pc

variable {self after : SendBufferManager} {thread buffer : Nat} {slot : Option Nat} {pc : MakePc}
  {packet : Packet}

/-- The call has taken a step and goes on. -/
def Proceeds (after : SendBufferManager) (thread buffer : Nat) (packet : Packet)
    (pc : MakePc) : Prop :=
  ∃ slot next, after.Calling thread buffer slot next ∧ making next = some packet ∧
    remaining next < remaining pc

/-- A call has taken a step. -/
def Progress (after : SendBufferManager) (thread buffer : Nat) (packet : Packet)
    (pc : MakePc) : Prop :=
  (after.Stopped ∧ after.StoresInside thread) ∨ after.Returned thread packet buffer ∨
    after.Proceeds thread buffer packet pc

theorem Progress.proceeds {base : SendBufferManager} (present : thread < self.threads.length)
    (threads : base.threads = self.threads) (sound : base.crash = none)
    (pooled : ∀ chunk ∈ base.pool, chunk < base.chunks.length)
    (slotted : ∀ chunk ∈ slot, chunk < base.chunks.length)
    (finds : (base.put thread ⟨slot, next⟩).Finds buffer slot next)
    (busy : making next = some packet) (less : remaining next < remaining pc) :
    (base.put thread ⟨slot, next⟩).Progress thread buffer packet pc := by
  refine .inr (.inr ⟨slot, next, ⟨sound, ?_, pooled, slotted, finds⟩, busy, less⟩)
  rw [put, threads]
  exact List.getElem?_set_self present

theorem Progress.stops {cause : SendBufferCrash} (found : self.threads[thread]? = some ⟨slot, pc⟩)
    (asserts : cause.isAssertion) (unstored : pc.stores = none) :
    (self.crashed cause).Progress thread buffer packet pc := by
  refine .inl ⟨⟨cause, rfl, asserts⟩, ?_⟩
  intro other position placed place start length stores
  cases found.symm.trans placed
  rw [unstored] at stores
  contradiction

section Steps

variable {again : Bool}

theorem openSlot_progress (calling : self.Calling thread buffer slot (.openSlot packet)) :
    ∃ after, self.advance thread slot (.openSlot packet) = some after ∧
      after.Progress thread buffer packet (.openSlot packet) := by
  have present := (List.getElem?_eq_some_iff.mp calling.found).1
  obtain ⟨fresh, closed⟩ := calling.finds
  refine ⟨_, rfl, ?_⟩
  cases slot with
  | none =>
      exact .proceeds present rfl calling.sound calling.pooled calling.slotted fresh rfl
        (by simp [remaining])
  | some chunk =>
      obtain ⟨current, lookup, isClosed⟩ := closed chunk rfl
      exact .proceeds present rfl calling.sound calling.pooled calling.slotted
        ⟨fresh, chunk, current, rfl, lookup, isClosed⟩ rfl (by simp [remaining])

theorem pop_progress (calling : self.Calling thread buffer slot (.pop packet again)) :
    ∃ after, self.advance thread slot (.pop packet again) = some after ∧
      after.Progress thread buffer packet (.pop packet again) := by
  have present := (List.getElem?_eq_some_iff.mp calling.found).1
  have fresh : self.buffers.length = buffer := calling.finds
  have less : ∀ popped, remaining (.assign packet again popped) <
      remaining (.pop packet again) := by
    intro popped
    cases again <;> simp [remaining]
  simp only [advance]
  split
  · rename_i popped rest pool
    have pooled := calling.pooled
    rw [pool, List.forall_mem_cons] at pooled
    exact ⟨_, rfl, .proceeds present rfl calling.sound pooled.2 calling.slotted
      ⟨fresh, pooled.1⟩ rfl (less _)⟩
  · have grown : self.chunks.length ≤ (self.chunks ++ [SendBufferChunk.new]).length := by simp
    refine ⟨_, rfl, .proceeds present rfl calling.sound ?_ ?_ ⟨fresh, ?_⟩ rfl (less _)⟩
    · exact fun chunk member => Nat.lt_of_lt_of_le (calling.pooled chunk member) grown
    · exact fun chunk member => Nat.lt_of_lt_of_le (calling.slotted chunk member) grown
    · simp [put]

theorem assign_progress (calling : self.Calling thread buffer slot (.assign packet again popped)) :
    ∃ after, self.advance thread slot (.assign packet again popped) = some after ∧
      after.Progress thread buffer packet (.assign packet again popped) := by
  have present := (List.getElem?_eq_some_iff.mp calling.found).1
  obtain ⟨fresh, valid⟩ := calling.finds
  have slotted : ∀ chunk ∈ some popped, chunk < self.chunks.length := by
    intro chunk member
    cases member
    exact valid
  have resets : (self.put thread ⟨some popped, .reset packet again⟩).Progress thread buffer packet
      (.assign packet again popped) :=
    .proceeds present rfl calling.sound calling.pooled slotted ⟨fresh, rfl⟩ rfl
    (by cases again <;> simp [remaining])
  simp only [advance]
  cases slot with
  | none => exact ⟨_, rfl, resets⟩
  | some old =>
      dsimp only
      split
      · exact ⟨_, rfl, .proceeds present rfl calling.sound calling.pooled slotted
          ⟨fresh, rfl, calling.slotted old rfl⟩ rfl (by cases again <;> simp [remaining])⟩
      · exact ⟨_, rfl, resets⟩

theorem recycle_progress (calling : self.Calling thread buffer slot (.recycle packet again old)) :
    ∃ after, self.advance thread slot (.recycle packet again old) = some after ∧
      after.Progress thread buffer packet (.recycle packet again old) := by
  have present := (List.getElem?_eq_some_iff.mp calling.found).1
  obtain ⟨fresh, filled, valid⟩ := calling.finds
  refine ⟨_, rfl, .proceeds present rfl calling.sound ?_ calling.slotted ⟨fresh, filled⟩ rfl ?_⟩
  · exact List.forall_mem_cons.mpr ⟨valid, calling.pooled⟩
  · cases again <;> simp [remaining]

theorem reset_progress (calling : self.Calling thread buffer slot (.reset packet again)) :
    ∃ after, self.advance thread slot (.reset packet again) = some after ∧
      after.Progress thread buffer packet (.reset packet again) := by
  have present := (List.getElem?_eq_some_iff.mp calling.found).1
  obtain ⟨fresh, filled⟩ := calling.finds
  obtain ⟨chunk, rfl⟩ := Option.isSome_iff_exists.mp filled
  have valid := calling.slotted chunk rfl
  have same : (self.chunks.set chunk (self.chunks[chunk].reset)).length =
    self.chunks.length := List.length_set
  simp only [advance, withChunk, Option.bind_some, List.getElem?_eq_getElem valid]
  refine ⟨_, rfl, .proceeds present rfl calling.sound ?_ ?_ ?_ ?_ ?_⟩
  · exact fun other member => (calling.pooled other member).trans_eq same.symm
  · exact fun other member => (calling.slotted other member).trans_eq same.symm
  · cases again with
    | false => exact ⟨fresh, chunk, _, rfl, List.getElem?_set_self valid, rfl⟩
    | true => exact ⟨fresh, chunk, _, rfl, List.getElem?_set_self valid, rfl, fun small => small⟩
  · cases again <;> rfl
  · cases again <;> simp [remaining]

theorem check_progress (calling : self.Calling thread buffer slot (.check packet)) :
    ∃ after, self.advance thread slot (.check packet) = some after ∧
      after.Progress thread buffer packet (.check packet) := by
  have present := (List.getElem?_eq_some_iff.mp calling.found).1
  obtain ⟨fresh, chunk, current, rfl, lookup, isClosed⟩ := calling.finds
  simp only [advance, withChunk, Option.bind_some, lookup, isClosed, Bool.false_eq_true, if_false]
  refine ⟨_, rfl, ?_⟩
  split
  · exact .proceeds present rfl calling.sound calling.pooled calling.slotted fresh rfl
      (by simp [remaining])
  · rename_i room
    exact .proceeds present rfl calling.sound calling.pooled calling.slotted
      ⟨fresh, chunk, current, rfl, lookup, isClosed, fun _ => Nat.le_of_not_lt room⟩ rfl
      (by simp [remaining])

/-- A size that a chunk can hold is reserved behind what is used of it. -/
theorem openChunk_progress (calling : self.Calling thread buffer slot (.openChunk packet))
    (positive : 0 < packet.packetSize) :
    ∃ after, self.advance thread slot (.openChunk packet) = some after ∧
      after.Progress thread buffer packet (.openChunk packet) := by
  have present := (List.getElem?_eq_some_iff.mp calling.found).1
  obtain ⟨fresh, chunk, current, rfl, lookup, isClosed, room⟩ := calling.finds
  simp only [advance, withChunk, Option.bind_some, lookup, isClosed, Bool.false_eq_true, if_false]
  by_cases large : chunkSize < packet.packetSize
  · rw [if_pos large]
    exact ⟨_, rfl, .stops calling.found rfl rfl⟩
  · have free := room (Nat.le_of_not_lt large)
    have valid := (List.getElem?_eq_some_iff.mp lookup).1
    have same : (self.chunks.set chunk { current with isOpen := true }).length =
      self.chunks.length := List.length_set
    rw [if_neg large, if_neg (Nat.not_lt.mpr free)]
    refine ⟨_, rfl, .proceeds present rfl calling.sound ?_ ?_ ⟨fresh, ?_⟩ rfl (by simp [remaining])⟩
    · exact fun other member => (calling.pooled other member).trans_eq same.symm
    · exact fun other member => (calling.slotted other member).trans_eq same.symm
    · refine ⟨chunk, _, rfl, List.getElem?_set_self valid, ?_, rfl, ?_, rfl⟩
      · rw [← fresh]
        exact List.getElem?_concat_length
      · simp only [SendBufferChunk.freeSize] at free ⊢
        omega

/-- A store into the reserved bytes, right behind what is written. -/
theorem Builds.write (builds : self.Builds slot packet buffer written) (block : List UInt8)
    (room : written.length + block.length ≤ packet.packetSize) :
    ∃ stored : SendBufferManager,
      (∀ thread next, self.write buffer written.length block (·.put thread next) =
        some (stored.put thread next)) ∧
      stored.threads = self.threads ∧ stored.crash = self.crash ∧ stored.pool = self.pool ∧
      stored.chunks.length = self.chunks.length ∧
        stored.Builds slot packet buffer (written ++ block) := by
  obtain ⟨chunk, current, slotEq, lookup, target, isOpen, fits, contents⟩ := builds
  have small : current.usedSize + written.length + block.length ≤ chunkSize := by omega
  have within := small.trans_eq current.sized.symm
  have valid := (List.getElem?_eq_some_iff.mp lookup).1
  refine ⟨self.setChunk chunk (current.store (current.usedSize + written.length) block small),
    ?_, rfl, rfl, rfl, List.length_set, chunk, _, slotEq, List.getElem?_set_self valid, target,
    isOpen, fits, ?_⟩
  · intro thread next
    simp only [SendBufferManager.write, target, lookup, Option.bind_some,
      Option.map_some, dif_pos small]
  · rw [List.length_append]
    exact (window_overwrite_extend within).trans (by rw [contents])

theorem header_progress (calling : self.Calling thread buffer slot (.header packet buffer))
    (room : headerSize ≤ packet.packetSize) :
    ∃ after, self.advance thread slot (.header packet buffer) = some after ∧
      after.Progress thread buffer packet (.header packet buffer) := by
  have present := (List.getElem?_eq_some_iff.mp calling.found).1
  have builds : self.Builds slot packet buffer [] := calling.finds.2
  obtain ⟨stored, wrote, threads, sound, pool, size, written⟩ := builds.write packet.header.bytes
    (by simpa using room)
  refine ⟨_, wrote _ _, .proceeds present threads (sound.trans calling.sound) ?_ ?_
    ⟨rfl, written⟩ rfl ?_⟩
  · rw [pool, size]
    exact calling.pooled
  · rw [size]
    exact calling.slotted
  · simp [remaining]

theorem serialize_progress (calling : self.Calling thread buffer slot (.serialize packet buffer))
    (unwrapped : packet.payload.length % 2 ^ 16 < 65532) :
    ∃ after, self.advance thread slot (.serialize packet buffer) = some after ∧
      after.Progress thread buffer packet (.serialize packet buffer) := by
  have present := (List.getElem?_eq_some_iff.mp calling.found).1
  have builds : self.Builds slot packet buffer packet.header.bytes := calling.finds.2
  by_cases short : packet.dataSize < packet.payload.length
  · rw [advance, if_pos short]
    exact ⟨_, rfl, .stops calling.found rfl (by rw [MakePc.stores, if_pos short])⟩
  · have room : packet.header.bytes.length + packet.payload.length ≤ packet.packetSize := by
      rw [Packet.packetSize_of_serialized unwrapped short, PacketHeader.length_bytes, Nat.add_comm]
    obtain ⟨stored, wrote, threads, sound, pool, size, written⟩ := builds.write packet.payload room
    rw [advance, if_neg short]
    refine ⟨_, wrote _ _, .proceeds present threads (sound.trans calling.sound) ?_ ?_
      ⟨rfl, short, written⟩ rfl ?_⟩
    · rw [pool, size]
      exact calling.pooled
    · rw [size]
      exact calling.slotted
    · simp [remaining]

theorem close_progress (calling : self.Calling thread buffer slot (.close packet buffer))
    (unwrapped : packet.payload.length % 2 ^ 16 < 65532) :
    ∃ after, self.advance thread slot (.close packet buffer) = some after ∧
      after.Progress thread buffer packet (.close packet buffer) := by
  have present := (List.getElem?_eq_some_iff.mp calling.found).1
  obtain ⟨_, serialized, chunk, current, rfl, lookup, target, isOpen, _, contents⟩ := calling.finds
  have size := Packet.packetSize_of_serialized unwrapped serialized
  have valid := (List.getElem?_eq_some_iff.mp lookup).1
  have placed := (List.getElem?_eq_some_iff.mp target).1
  have whole : (packet.header.bytes ++ packet.payload).length = packet.packetSize := by
    rw [List.length_append, PacketHeader.length_bytes, size, Nat.add_comm]
  simp only [advance, target, lookup, isOpen, Option.bind_some, Option.map_some,
    Nat.lt_irrefl, if_false, Bool.true_eq_false]
  refine ⟨_, rfl, .inr (.inl ⟨calling.sound, some chunk, _, List.getElem?_set_self present,
    List.getElem?_set_self placed, rfl, size, ?_⟩)⟩
  rw [whole] at contents
  simp only [bytes, put, setChunk, setBuffer, List.getElem?_set_self valid, contents,
    PacketHeader.read_bytes]
  rw [Packet.header_size, size]

end Steps

theorem Calling.advance (calling : self.Calling thread buffer slot pc)
    (busy : making pc = some packet) (unwrapped : packet.payload.length % 2 ^ 16 < 65532) :
    ∃ after, self.advance thread slot pc = some after ∧ after.Progress thread buffer packet pc := by
  have room : headerSize ≤ packet.packetSize := by
    rw [Packet.packetSize_of_lt unwrapped]
    exact Nat.le_add_left _ _
  cases pc with
  | idle | recycleReleased _ => contradiction
  | openSlot _ => cases busy; exact openSlot_progress calling
  | pop _ _ => cases busy; exact pop_progress calling
  | assign _ _ _ => cases busy; exact assign_progress calling
  | recycle _ _ _ => cases busy; exact recycle_progress calling
  | reset _ _ => cases busy; exact reset_progress calling
  | check _ => cases busy; exact check_progress calling
  | openChunk _ =>
      cases busy; exact openChunk_progress calling (Nat.lt_of_lt_of_le (by decide) room)
  | header _ _ => cases busy; obtain rfl := calling.finds.1; exact header_progress calling room
  | serialize _ _ =>
      cases busy; obtain rfl := calling.finds.1; exact serialize_progress calling unwrapped
  | close _ _ => cases busy; obtain rfl := calling.finds.1; exact close_progress calling unwrapped

theorem Calling.storesInside (calling : self.Calling thread buffer slot pc)
    (busy : making pc = some packet) (unwrapped : packet.payload.length % 2 ^ 16 < 65532) :
    self.StoresInside thread := by
  intro other position placed place start length stores
  cases calling.found.symm.trans placed
  cases pc with
  | header _ _ =>
      cases busy
      obtain ⟨rfl, chunk, current, _, _, target, _⟩ := calling.finds
      cases stores
      refine ⟨_, target, ?_⟩
      rw [Nat.zero_add, PacketHeader.length_bytes, Packet.packetSize_of_lt unwrapped]
      exact Nat.le_add_left _ _
  | serialize _ _ =>
      cases busy
      obtain ⟨rfl, chunk, current, _, _, target, _⟩ := calling.finds
      simp only [MakePc.stores] at stores
      split at stores
      · contradiction
      · rename_i serialized
        cases stores
        refine ⟨_, target, ?_⟩
        rw [Packet.packetSize_of_serialized unwrapped serialized, Nat.add_comm]
  | _ => contradiction

theorem alone_succ (thread steps : Nat) :
    self.alone thread (steps + 1) = (step (.run thread) self).bind fun next =>
      next.alone thread steps := rfl

/-- A thread that has stopped or returned takes no further step. -/
theorem alone_ended (ended : step (.run thread) self = none)
    (ran : self.alone thread steps = some state) : state = self := by
  cases steps with
  | zero =>
      cases ran
      rfl
  | succ steps =>
      rw [alone_succ, ended] at ran
      contradiction

theorem Returned.storesInside (returned : self.Returned thread packet buffer) :
    self.StoresInside thread := by
  obtain ⟨_, slot, sent, idle, _⟩ := returned
  intro other position placed place start length stores
  cases idle.symm.trans placed
  contradiction

theorem Returned.ended (returned : self.Returned thread packet buffer) :
    step (.run thread) self = none := by
  obtain ⟨sound, slot, sent, idle, _⟩ := returned
  rw [step, if_neg (by simp [sound]), idle]
  rfl

theorem Stopped.ended (stopped : self.Stopped) : step (.run thread) self = none := by
  obtain ⟨cause, crash, _⟩ := stopped
  rw [step, if_pos (by simp [crash])]

/-- A call runs to its end or to an assertion, by the number of steps that remain. -/
theorem Calling.ends (calling : self.Calling thread buffer slot pc)
    (busy : making pc = some packet) (unwrapped : packet.payload.length % 2 ^ 16 < 65532) :
    (∀ steps state, self.alone thread steps = some state → state.StoresInside thread) ∧
      ∃ steps final, self.alone thread steps = some final ∧
        (final.Stopped ∨ final.Returned thread packet buffer) := by
  induction count : remaining pc using Nat.strongRecOn generalizing self slot pc with
  | ind count ih =>
      obtain ⟨after, advanced, progress⟩ := calling.advance busy unwrapped
      have stepped : step (.run thread) self = some after := by
        rw [step, if_neg (by simp [calling.sound]), calling.found]
        exact advanced
      have later : (∀ steps state, after.alone thread steps = some state →
          state.StoresInside thread) ∧ ∃ steps final, after.alone thread steps = some final ∧
            (final.Stopped ∨ final.Returned thread packet buffer) := by
        rcases progress with ⟨stopped, inside⟩ | returned | ⟨slot, next, continues, same, less⟩
        · refine ⟨?_, 0, after, rfl, .inl stopped⟩
          intro steps state ran
          rw [alone_ended stopped.ended ran]
          exact inside
        · refine ⟨?_, 0, after, rfl, .inr returned⟩
          intro steps state ran
          rw [alone_ended returned.ended ran]
          exact returned.storesInside
        · exact ih (remaining next) (by omega) continues same rfl
      constructor
      · intro steps state ran
        cases steps with
        | zero =>
            cases ran
            exact calling.storesInside busy unwrapped
        | succ steps =>
            rw [alone_succ, stepped] at ran
            exact later.1 steps state ran
      · obtain ⟨steps, final, ran, ended⟩ := later.2
        exact ⟨steps + 1, final, by rw [alone_succ, stepped]; exact ran, ended⟩

theorem Owned.makesSoundly (owned : self.Owned) (idle : self.threads[thread]? = some ⟨slot, .idle⟩)
    (unwrapped : packet.payload.length % 2 ^ 16 < 65532) : self.MakesSoundly thread packet := by
  have present := (List.getElem?_eq_some_iff.mp idle).1
  have valid : ∀ chunk, 0 < self.homes chunk → chunk < self.chunks.length := owned.valid
  have calling : (self.put thread ⟨slot, .openSlot packet⟩).Calling thread self.buffers.length slot
      (.openSlot packet) := by
    refine ⟨owned.sound, List.getElem?_set_self present, ?_, ?_, rfl, ?_⟩
    · intro chunk member
      have pooled : 0 < self.pool.count chunk := List.count_pos_iff.mpr member
      exact valid chunk (by simp only [homes]; omega)
    · rintro chunk rfl
      obtain ⟨current, lookup⟩ := owned.chunk_exists idle (home_slot _ chunk rfl)
      exact (List.getElem?_eq_some_iff.mp lookup).1
    · rintro chunk rfl
      obtain ⟨current, lookup⟩ := owned.chunk_exists idle (home_slot _ chunk rfl)
      exact ⟨current, lookup, owned.closed idle rfl rfl lookup⟩
  refine ⟨_, ?_, calling.ends rfl unwrapped⟩
  rw [step, if_neg (by simp [owned.sound]), idle]

/-! ## A size that wraps around -/

/-- The first thread, before its first call. -/
def started : SendBufferManager := { fresh with threads := [⟨none, .idle⟩] }

/-- The first call comes to its header with as many bytes reserved as it has asked for. -/
theorem first_call_reserves (small : ¬ chunkSize < packet.packetSize) :
    ∃ state, (started.put 0 ⟨none, .openSlot packet⟩).alone 0 6 = some state ∧
      state.threads[0]? = some ⟨some 0, .header packet 0⟩ ∧
      state.buffers[0]? = some ⟨0, 0, packet.packetSize, 0, .building⟩ := by
  let checking : SendBufferManager :=
    { fresh with chunks := [SendBufferChunk.new.reset], threads := [⟨some 0, .check packet⟩] }
  have first : (started.put 0 ⟨none, .openSlot packet⟩).alone 0 4 = some checking := rfl
  have checked : system.step (.run 0) checking =
      some (checking.put 0 ⟨some 0, .openChunk packet⟩) :=
    congrArg (fun next => some (checking.put 0 ⟨some 0, next⟩)) (if_neg small)
  have opened : ∃ state, system.step (.run 0) (checking.put 0 ⟨some 0, .openChunk packet⟩) =
      some state ∧ state.threads[0]? = some ⟨some 0, .header packet 0⟩ ∧
      state.buffers[0]? = some ⟨0, 0, packet.packetSize, 0, .building⟩ :=
    ⟨_, (if_neg small).trans ((if_neg Bool.false_ne_true).trans (if_neg small)), rfl, rfl⟩
  obtain ⟨state, last, header, reserved⟩ := opened
  refine ⟨state, ?_, header, reserved⟩
  change system.run (List.replicate 4 (MakeEvent.run 0) ++ [MakeEvent.run 0, .run 0]) _ = _
  refine System.run_append_some.mpr ⟨checking, first, ?_⟩
  exact System.run_cons_some.mpr ⟨_, checked, System.run_cons_some.mpr ⟨state, last, rfl⟩⟩

/-- The header does not fit into what a wrapped size reserves. -/
theorem started_unsound (wrapped : ¬ packet.payload.length % 2 ^ 16 < 65532) :
    ¬ started.MakesSoundly 0 packet := by
  have tiny := Packet.packetSize_of_ge wrapped
  have small : ¬ chunkSize < packet.packetSize := by
    simp only [headerSize, chunkSize] at tiny ⊢
    omega
  obtain ⟨state, ran, storing, reserved⟩ := first_call_reserves small
  rintro ⟨called, make, inside, _⟩
  cases make
  obtain ⟨target, found, room⟩ := inside 6 state ran _ _ storing 0 0 headerSize rfl
  cases reserved.symm.trans found
  dsimp only at room
  omega

/-- In every state that calls for messages of the right size lead to: a call for any message
stores inside of what it has reserved and stops or returns a buffer of the right size, if and
only if the length of the message modulo 2^16 leaves room for the header below 2^16. -/
theorem makeSendBuffer_sound_iff (packet : Packet) :
    (∀ events manager thread slot, (∀ event ∈ events, Fitting event) →
      system.run events fresh = some manager →
      manager.threads[thread]? = some ⟨slot, .idle⟩ → manager.MakesSoundly thread packet) ↔
      packet.payload.length % 2 ^ 16 < 65532 := by
  constructor
  · intro soundly
    by_contra wrapped
    refine started_unsound wrapped (soundly [.spawn] started 0 none ?_ rfl rfl)
    simp [Fitting]
  · intro unwrapped events manager thread slot fitting ran idle
    exact (run_owned fitting ran fresh_owned).owned.makesSoundly idle unwrapped

/-- A message of 65532 bytes: its packet has a size of 0. -/
theorem makeSendBuffer_header_unreserved :
    system.run [.spawn] fresh = some started ∧
      ¬ started.MakesSoundly 0 ⟨1000, List.replicate 65532 0⟩ := by
  refine ⟨rfl, started_unsound ?_⟩
  rw [List.length_replicate]
  decide

end SendBufferManager

end ChattingProgram.Core
