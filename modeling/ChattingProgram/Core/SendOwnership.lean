import ChattingProgram.Core.SendBuffer

namespace ChattingProgram.Core

open ChattingProgram.Data ChattingProgram.Machine

/-! # Ownership of chunks

A chunk is in one place at a time: in the pool, in one thread's slot, or on its
way between the two.  Only the thread whose slot it is in resets it, opens
buffers on it or writes to it, and it leaves the pool or a deleter only when no
`SendBuffer` refers to it.
-/

/-- The packets for which a chunk has room at all. -/
def Packet.Fits (packet : Packet) : Prop := packet.payload.length + headerSize ≤ chunkSize

theorem Packet.Fits.dataSize_eq {packet : Packet} (fits : packet.Fits) :
    packet.dataSize = packet.payload.length := by
  simp only [Packet.Fits, headerSize, chunkSize] at fits
  exact Nat.mod_eq_of_lt (by omega)

theorem Packet.Fits.packetSize_eq {packet : Packet} (fits : packet.Fits) :
    packet.packetSize = packet.payload.length + headerSize := by
  rw [Packet.packetSize, fits.dataSize_eq]
  simp only [Packet.Fits, headerSize, chunkSize] at fits ⊢
  exact Nat.mod_eq_of_lt (by omega)

@[simp] theorem PacketHeader.length_bytes (header : PacketHeader) :
    header.bytes.length = headerSize := rfl

namespace SendBufferManager

/-- The chunk a thread moves between its slot and the pool. -/
def carried : MakePc → Option Nat
  | .assign _ _ popped => some popped
  | .recycle _ _ old => some old
  | .recycleReleased old => some old
  | _ => none

def building : MakePc → Bool
  | .header _ _ | .serialize _ _ | .close _ _ => true
  | _ => false

def home (chunk : Nat) (thread : MakeThread) : Nat :=
  (if thread.slot = some chunk then 1 else 0) + (if carried thread.pc = some chunk then 1 else 0)

def homes (self : SendBufferManager) (chunk : Nat) : Nat :=
  self.pool.count chunk + total (home chunk) self.threads

/-- No `SendBuffer` refers to the chunk. -/
def Unread (buffers : List SendBuffer) (chunk : Nat) : Prop :=
  ∀ buffer ∈ buffers, buffer.referenced = true → buffer.owner ≠ chunk

/-- The open buffer of a thread: it starts where the chunk is used up to, and
the first bytes of it are written. -/
def Builds (self : SendBufferManager) (slot : Option Nat) (packet : Packet) (buffer : Nat)
    (written : List UInt8) : Prop :=
  ∃ chunk current, slot = some chunk ∧ self.chunks[chunk]? = some current ∧
    self.buffers[buffer]? =
      some ⟨chunk, current.usedSize, packet.packetSize, 0, .building⟩ ∧
    current.isOpen = true ∧ current.usedSize + packet.packetSize ≤ chunkSize ∧
    window current.buffer current.usedSize written.length = written

/-- What holds of a thread by where it stands. -/
def Stands (self : SendBufferManager) (slot : Option Nat) : MakePc → Prop
  | .idle | .recycleReleased _ => True
  | .openSlot packet | .pop packet _ | .assign packet _ _ => packet.Fits
  | .recycle packet _ _ | .reset packet _ =>
      packet.Fits ∧ ∃ chunk, slot = some chunk ∧ Unread self.buffers chunk
  | .check packet => packet.Fits ∧ ∃ chunk, slot = some chunk
  | .openChunk packet => packet.Fits ∧ ∃ chunk current, slot = some chunk ∧
      self.chunks[chunk]? = some current ∧ packet.packetSize ≤ current.freeSize
  | .header packet buffer => packet.Fits ∧ self.Builds slot packet buffer []
  | .serialize packet buffer => packet.Fits ∧ self.Builds slot packet buffer packet.header.bytes
  | .close packet buffer =>
      packet.Fits ∧ self.Builds slot packet buffer (packet.header.bytes ++ packet.payload)

def Apart (left right : SendBuffer) : Prop :=
  left.offset + left.writeSize ≤ right.offset ∨ right.offset + right.writeSize ≤ left.offset

structure Memory (chunks : List SendBufferChunk) (buffers : List SendBuffer) : Prop where
  used : ∀ chunk ∈ chunks, chunk.usedSize ≤ chunkSize
  inside : ∀ buffer ∈ buffers, buffer.referenced = true →
    ∃ chunk, chunks[buffer.owner]? = some chunk ∧ buffer.offset + buffer.writeSize ≤ chunk.usedSize
  apart : ∀ {first second : Nat} {left right : SendBuffer}, first ≠ second →
    buffers[first]? = some left → buffers[second]? = some right →
    left.referenced = true → right.referenced = true → left.owner = right.owner → Apart left right

structure Owned (state : SendBufferManager) : Prop where
  sound : state.crash = none
  single : ∀ chunk, state.homes chunk ≤ 1
  valid : ∀ chunk, 0 < state.homes chunk → chunk < state.chunks.length
  pooled : ∀ chunk ∈ state.pool, Unread state.buffers chunk
  stands : ∀ thread ∈ state.threads, state.Stands thread.slot thread.pc ∧
    ∀ chunk, carried thread.pc = some chunk → Unread state.buffers chunk
  opened : ∀ {chunk : Nat} {current : SendBufferChunk}, state.chunks[chunk]? = some current →
    current.isOpen = true →
    ∃ thread ∈ state.threads, thread.slot = some chunk ∧ building thread.pc = true
  memory : Memory state.chunks state.buffers

/-- What a step of the thread with this slot leaves to all others. -/
structure Undisturbed (slot : Option Nat) (before after : SendBufferManager) : Prop where
  chunks : ∀ {chunk : Nat} {current : SendBufferChunk}, slot ≠ some chunk →
    before.chunks[chunk]? = some current → after.chunks[chunk]? = some current
  building : ∀ {index : Nat} {buffer : SendBuffer}, slot ≠ some buffer.owner →
    before.buffers[index]? = some buffer → buffer.lifetime = .building →
    after.buffers[index]? = some buffer
  unread : ∀ {chunk : Nat}, slot ≠ some chunk → Unread before.buffers chunk →
    Unread after.buffers chunk

theorem fresh_owned : fresh.Owned where
  sound := rfl
  single := fun _ => Nat.zero_le 1
  valid := by simp [fresh, homes]
  pooled := by simp [fresh]
  stands := by simp [fresh]
  opened := by simp [fresh]
  memory := ⟨by simp [fresh], by simp [fresh], by simp [fresh]⟩

theorem Builds.undisturbed {before : SendBufferManager}
    (builds : before.Builds slot packet buffer written)
    (undisturbed : Undisturbed mine before after)
    (elsewhere : ∀ chunk, slot = some chunk → mine ≠ some chunk) :
    after.Builds slot packet buffer written := by
  obtain ⟨chunk, current, slotEq, found, opened, isOpen, room, contents⟩ := builds
  have other := elsewhere chunk slotEq
  exact ⟨chunk, current, slotEq, undisturbed.chunks other found,
    undisturbed.building other opened rfl, isOpen, room, contents⟩

/-- The facts of a thread survive the steps of the others. -/
theorem Stands.undisturbed {before : SendBufferManager} (stands : before.Stands slot pc)
    (undisturbed : Undisturbed mine before after)
    (elsewhere : ∀ chunk, slot = some chunk → mine ≠ some chunk) : after.Stands slot pc := by
  cases pc with
  | idle | recycleReleased _ | openSlot _ | pop _ _ | assign _ _ _ | check _ => exact stands
  | recycle packet again old | reset packet again =>
      obtain ⟨fits, chunk, slotEq, unread⟩ := stands
      exact ⟨fits, chunk, slotEq, undisturbed.unread (elsewhere chunk slotEq) unread⟩
  | openChunk packet =>
      obtain ⟨fits, chunk, current, slotEq, found, room⟩ := stands
      exact ⟨fits, chunk, current, slotEq,
        undisturbed.chunks (elsewhere chunk slotEq) found, room⟩
  | header packet buffer | serialize packet buffer | close packet buffer =>
      exact ⟨stands.1, stands.2.undisturbed undisturbed elsewhere⟩

theorem home_slot (thread : MakeThread) (chunk : Nat) (slot : thread.slot = some chunk) :
    0 < home chunk thread := by
  simp [home, slot]

theorem home_carried (thread : MakeThread) (chunk : Nat)
    (carries : carried thread.pc = some chunk) : 0 < home chunk thread := by
  simp [home, carries]

/-- Two threads never have the same chunk. -/
theorem Owned.elsewhere {self : SendBufferManager} (owned : self.Owned) {second : Nat}
    (foundLeft : self.threads[first]? = some left)
    (foundRight : self.threads[second]? = some right) (different : first ≠ second)
    (mine : 0 < home chunk left) : ¬ 0 < home chunk right := by
  intro theirs
  have both := weight_add_le_total (home chunk) foundLeft foundRight different
  have single := owned.single chunk
  simp only [homes] at single
  omega

theorem Owned.not_pooled {self : SendBufferManager} (owned : self.Owned) {index : Nat}
    (found : self.threads[index]? = some thread) (mine : 0 < home chunk thread) :
    chunk ∉ self.pool := by
  intro member
  have counted := weight_le_total (home chunk) (List.mem_of_getElem? found)
  have pooled := List.count_pos_iff.mpr member
  have single := owned.single chunk
  simp only [homes] at single
  omega

theorem Owned.chunk_exists {self : SendBufferManager} (owned : self.Owned) {index : Nat}
    (found : self.threads[index]? = some thread) (mine : 0 < home chunk thread) :
    ∃ current, self.chunks[chunk]? = some current := by
  have counted := weight_le_total (home chunk) (List.mem_of_getElem? found)
  have bound := owned.valid chunk (by simp only [homes]; omega)
  exact ⟨_, List.getElem?_eq_getElem bound⟩

/-- The chunk of a thread that is not building on it is closed. -/
theorem Owned.closed {self : SendBufferManager} (owned : self.Owned) {index chunk : Nat}
    (found : self.threads[index]? = some thread) (slot : thread.slot = some chunk)
    (resting : building thread.pc = false) (lookup : self.chunks[chunk]? = some current) :
    current.isOpen = false := by
  cases isOpen : current.isOpen with
  | false => rfl
  | true =>
      obtain ⟨builder, member, builderSlot, builds⟩ := owned.opened lookup isOpen
      obtain ⟨place, placed⟩ := List.mem_iff_getElem?.mp member
      by_cases same : index = place
      · subst same
        rw [found, Option.some.injEq] at placed
        subst placed
        simp [resting] at builds
      · exact absurd (home_slot builder chunk builderSlot)
          (owned.elsewhere found placed same (home_slot thread chunk slot))

theorem homes_moved {before after : SendBufferManager}
    (found : before.threads[index]? = some thread)
    (threads : after.threads = before.threads.set index next) (chunk : Nat) :
    after.homes chunk + (before.pool.count chunk + home chunk thread) =
      before.homes chunk + (after.pool.count chunk + home chunk next) := by
  have moved := total_set (home chunk) next found
  simp only [homes, threads]
  omega

/-- One step of one thread, put together from what it does to its own chunk. -/
theorem Owned.of_step {before after : SendBufferManager} {thread : MakeThread}
    (owned : before.Owned) (found : before.threads[index]? = some thread)
    (threads : after.threads = before.threads.set index next) (sound : after.crash = none)
    (single : ∀ chunk, after.homes chunk ≤ 1)
    (valid : ∀ chunk, 0 < after.homes chunk → chunk < after.chunks.length)
    (pooled : ∀ chunk ∈ after.pool, Unread after.buffers chunk)
    (undisturbed : Undisturbed thread.slot before after) (stands : after.Stands next.slot next.pc)
    (carries : ∀ chunk, carried next.pc = some chunk → Unread after.buffers chunk)
    (opened : ∀ {chunk : Nat} {current : SendBufferChunk}, after.chunks[chunk]? = some current →
      current.isOpen = true → (next.slot = some chunk ∧ building next.pc = true) ∨
        (∃ earlier, before.chunks[chunk]? = some earlier ∧ earlier.isOpen = true) ∧
          ¬ (thread.slot = some chunk ∧ building thread.pc = true))
    (memory : Memory after.chunks after.buffers) : after.Owned where
  sound := sound
  single := single
  valid := valid
  pooled := pooled
  memory := memory
  stands := by
    intro other member
    rw [threads] at member
    obtain ⟨place, placed⟩ := List.mem_iff_getElem?.mp member
    rw [List.getElem?_set] at placed
    split at placed
    · split at placed
      · cases placed
        exact ⟨stands, carries⟩
      · contradiction
    · rename_i different
      obtain ⟨standing, unread⟩ := owned.stands other (List.mem_of_getElem? placed)
      have apart : ∀ chunk, 0 < home chunk other → thread.slot ≠ some chunk := by
        intro chunk theirs mine
        exact owned.elsewhere found placed different (home_slot thread chunk mine) theirs
      refine ⟨standing.undisturbed undisturbed ?_, ?_⟩
      · intro chunk slot
        exact apart chunk (home_slot other chunk slot)
      · intro chunk carrying
        exact undisturbed.unread (apart chunk (home_carried other chunk carrying))
          (unread chunk carrying)
  opened := by
    intro chunk current lookup isOpen
    have placedNext : next ∈ after.threads := by
      rw [threads]
      exact List.mem_of_getElem? (List.getElem?_set_self (List.getElem?_eq_some_iff.mp found).1)
    rcases opened lookup isOpen with ⟨slot, builds⟩ | ⟨⟨earlier, earlierLookup, earlierOpen⟩, mine⟩
    · exact ⟨next, placedNext, slot, builds⟩
    · obtain ⟨builder, member, slot, builds⟩ := owned.opened earlierLookup earlierOpen
      obtain ⟨place, placed⟩ := List.mem_iff_getElem?.mp member
      by_cases same : index = place
      · subst same
        rw [found, Option.some.injEq] at placed
        subst placed
        exact absurd ⟨slot, builds⟩ mine
      · refine ⟨builder, ?_, slot, builds⟩
        rw [threads]
        exact List.mem_of_getElem? ((List.getElem?_set_ne same).trans placed)

theorem Undisturbed.of_same {before after : SendBufferManager} (slot : Option Nat)
    (chunks : after.chunks = before.chunks) (buffers : after.buffers = before.buffers) :
    Undisturbed slot before after := by
  constructor
  · intro chunk current _ lookup
    rw [chunks, lookup]
  · intro index buffer _ lookup _
    rw [buffers, lookup]
  · intro chunk _ unread
    rw [buffers]
    exact unread

/-- The steps that move references only. -/
theorem Owned.of_move {self : SendBufferManager} (pool : List Nat) (next : MakeThread)
    (owned : self.Owned) (found : self.threads[index]? = some thread)
    (resting : building thread.pc = false)
    (counts : ∀ chunk, pool.count chunk + home chunk next ≤
      self.pool.count chunk + home chunk thread)
    (pooled : ∀ chunk ∈ pool, Unread self.buffers chunk) (stands : self.Stands next.slot next.pc)
    (carries : ∀ chunk, carried next.pc = some chunk → Unread self.buffers chunk) :
    ({ self with pool := pool }.put index next).Owned := by
  have same : Undisturbed none self ({ self with pool := pool }.put index next) :=
    .of_same _ rfl rfl
  have fewer : ∀ chunk, ({ self with pool := pool }.put index next).homes chunk ≤
      self.homes chunk := by
    intro chunk
    have moved := homes_moved found
      (show ({ self with pool := pool }.put index next).threads = _ from rfl) chunk
    have count := counts chunk
    simp only [put] at moved ⊢
    omega
  refine owned.of_step found rfl owned.sound ?_ ?_ pooled (.of_same _ rfl rfl)
    (stands.undisturbed same (by simp)) carries ?_ owned.memory
  · intro chunk
    exact (fewer chunk).trans (owned.single chunk)
  · intro chunk lives
    exact owned.valid chunk (lives.trans_le (fewer chunk))
  · intro chunk current lookup isOpen
    right
    exact ⟨⟨current, lookup, isOpen⟩, by simp [resting]⟩

section Memory

variable {chunks : List SendBufferChunk} {buffers : List SendBuffer}

theorem Memory.within (memory : Memory chunks buffers) (found : chunks[index]? = some chunk) :
    ∀ buffer ∈ buffers, buffer.referenced = true →
      buffer.owner = index → buffer.offset + buffer.writeSize ≤ chunk.usedSize := by
  intro buffer member referenced owner
  obtain ⟨current, lookup, bound⟩ := memory.inside buffer member referenced
  rw [owner, found, Option.some.injEq] at lookup
  subst lookup
  exact bound

theorem Memory.append_chunk (memory : Memory chunks buffers) :
    Memory (chunks ++ [SendBufferChunk.new]) buffers where
  used := by
    intro chunk member
    rcases List.mem_append.mp member with old | new
    · exact memory.used chunk old
    · rw [List.mem_singleton.mp new]
      exact Nat.zero_le _
  inside := by
    intro buffer member referenced
    obtain ⟨chunk, lookup, room⟩ := memory.inside buffer member referenced
    exact ⟨chunk, by rw [List.getElem?_append_left (List.getElem?_eq_some_iff.mp lookup).1,
      lookup], room⟩
  apart := memory.apart

theorem Memory.set_chunk (memory : Memory chunks buffers) {next : SendBufferChunk}
    (small : next.usedSize ≤ chunkSize)
    (covers : ∀ buffer ∈ buffers, buffer.referenced = true → buffer.owner = index →
      buffer.offset + buffer.writeSize ≤ next.usedSize) :
    Memory (chunks.set index next) buffers where
  used := by
    intro chunk member
    rcases List.mem_or_eq_of_mem_set member with old | rfl
    · exact memory.used chunk old
    · exact small
  inside := by
    intro buffer member referenced
    obtain ⟨chunk, lookup, room⟩ := memory.inside buffer member referenced
    by_cases mine : index = buffer.owner
    · subst mine
      exact ⟨next, List.getElem?_set_self (List.getElem?_eq_some_iff.mp lookup).1,
        covers buffer member referenced rfl⟩
    · exact ⟨chunk, by rw [List.getElem?_set_ne mine, lookup], room⟩
  apart := memory.apart

theorem Memory.append_buffer (memory : Memory chunks buffers) {buffer : SendBuffer}
    (found : chunks[buffer.owner]? = some chunk) (start : buffer.offset = chunk.usedSize)
    (blank : buffer.writeSize = 0) : Memory chunks (buffers ++ [buffer]) where
  used := memory.used
  inside := by
    intro other member referenced
    rcases List.mem_append.mp member with old | new
    · exact memory.inside other old referenced
    · rw [List.mem_singleton.mp new]
      exact ⟨chunk, found, by omega⟩
  apart := by
    have before := memory.within found
    rw [← start] at before
    intro first second left right different foundLeft foundRight leftReferenced rightReferenced same
    rw [List.getElem?_append] at foundLeft foundRight
    split at foundLeft <;> split at foundRight
    · exact memory.apart different foundLeft foundRight leftReferenced rightReferenced same
    · have last := List.mem_singleton.mp (List.mem_of_getElem? foundRight)
      subst last
      exact .inl (before left (List.mem_of_getElem? foundLeft) leftReferenced same)
    · have last := List.mem_singleton.mp (List.mem_of_getElem? foundLeft)
      subst last
      exact .inr (before right (List.mem_of_getElem? foundRight) rightReferenced same.symm)
    · have leftBound := (List.getElem?_eq_some_iff.mp foundLeft).1
      have rightBound := (List.getElem?_eq_some_iff.mp foundRight).1
      simp only [List.length_singleton] at leftBound rightBound
      omega

theorem Apart.symm (apart : Apart left right) : Apart right left := Or.symm apart

theorem Memory.set_buffer (memory : Memory chunks buffers) {next : SendBuffer}
    (inside : next.referenced = true → ∃ chunk, chunks[next.owner]? = some chunk ∧
      next.offset + next.writeSize ≤ chunk.usedSize)
    (apart : ∀ {place : Nat} {other : SendBuffer}, index ≠ place → buffers[place]? = some other →
      other.referenced = true → next.referenced = true → other.owner = next.owner →
      Apart other next) : Memory chunks (buffers.set index next) where
  used := memory.used
  inside := by
    intro other member referenced
    rcases List.mem_or_eq_of_mem_set member with old | rfl
    · exact memory.inside other old referenced
    · exact inside referenced
  apart := by
    intro first second left right different foundLeft foundRight leftReferenced rightReferenced same
    rw [List.getElem?_set] at foundLeft foundRight
    split at foundLeft <;> split at foundRight
    · omega
    · rename_i here elsewhere
      split at foundLeft
      · cases foundLeft
        exact (apart elsewhere foundRight rightReferenced leftReferenced same.symm).symm
      · contradiction
    · rename_i elsewhere here
      split at foundRight
      · cases foundRight
        exact apart elsewhere foundLeft leftReferenced rightReferenced same
      · contradiction
    · exact memory.apart different foundLeft foundRight leftReferenced rightReferenced same

end Memory

/-- What a thread does to the chunk of its own slot. -/
def onOwn (self : SendBufferManager) (index chunk : Nat) (current : SendBufferChunk)
    (buffers : List SendBuffer) (next : MakePc) : SendBufferManager :=
  { self with
    chunks := self.chunks.set chunk current
    buffers := buffers
    threads := self.threads.set index ⟨some chunk, next⟩ }

theorem Owned.of_own {self : SendBufferManager} {index : Nat} {buffers : List SendBuffer}
    (owned : self.Owned) (found : self.threads[index]? = some ⟨some chunk, pc⟩)
    (stays : carried pc = none) (stayed : carried next = none)
    (others : ∀ {place : Nat} {buffer : SendBuffer}, buffer.owner ≠ chunk →
      self.buffers[place]? = some buffer → buffer.lifetime = .building →
      buffers[place]? = some buffer)
    (unread : ∀ {other : Nat}, other ≠ chunk → Unread self.buffers other → Unread buffers other)
    (stands : (self.onOwn index chunk current buffers next).Stands (some chunk) next)
    (opened : current.isOpen = true → building next = true)
    (memory : Memory (self.chunks.set chunk current) buffers) :
    (self.onOwn index chunk current buffers next).Owned := by
  have homeSame : ∀ other, home other ⟨some chunk, next⟩ = home other ⟨some chunk, pc⟩ := by
    intro other
    simp [home, stays, stayed]
  have homesSame : ∀ other,
      (self.onOwn index chunk current buffers next).homes other = self.homes other := by
    intro other
    have moved := homes_moved found
      (show (self.onOwn index chunk current buffers next).threads = _ from rfl) other
    rw [homeSame] at moved
    exact Nat.add_right_cancel moved
  refine owned.of_step found rfl owned.sound ?_ ?_ ?_ ⟨?_, ?_, ?_⟩ stands ?_ ?_ memory
  · intro other
    exact (homesSame other).trans_le (owned.single other)
  · intro other lives
    rw [homesSame] at lives
    exact (owned.valid other lives).trans_eq (List.length_set ..).symm
  · intro other member
    refine unread ?_ (owned.pooled other member)
    rintro rfl
    exact owned.not_pooled found (home_slot _ _ rfl) member
  · intro other held different lookup
    exact (List.getElem?_set_ne (by simpa using different)).trans lookup
  · intro place buffer different lookup lifetime
    exact others (by simpa [eq_comm] using different) lookup lifetime
  · intro other different
    exact unread (by simpa [eq_comm] using different)
  · simp [stayed]
  · intro other held lookup isOpen
    by_cases mine : chunk = other
    · subst mine
      obtain ⟨present, rfl⟩ := List.getElem?_eq_some_iff.mp lookup
      simp only [onOwn, List.getElem_set_self] at isOpen
      exact .inl ⟨rfl, opened isOpen⟩
    · right
      simp only [onOwn, List.getElem?_set_ne mine] at lookup
      exact ⟨⟨held, lookup, isOpen⟩, by simp [mine]⟩

/-- Buffers that were closed stay as they are, bytes included, until they are dropped. -/
structure Keeps (before after : SendBufferManager) : Prop where
  grows : before.buffers.length ≤ after.buffers.length
  same : ∀ {index : Nat} {earlier later : SendBuffer}, before.buffers[index]? = some earlier →
    after.buffers[index]? = some later → earlier.lifetime ≠ .building → later.referenced = true →
    earlier = later ∧ after.bytes earlier = before.bytes earlier

/-- A state reached from an earlier one. -/
structure Continues (before after : SendBufferManager) : Prop where
  owned : after.Owned
  keeps : Keeps before after

theorem Keeps.of_same {before after : SendBufferManager} (chunks : after.chunks = before.chunks)
    (buffers : after.buffers = before.buffers) : Keeps before after := by
  refine ⟨by rw [buffers], ?_⟩
  intro index earlier later foundEarlier foundLater _ _
  rw [buffers, foundEarlier, Option.some.injEq] at foundLater
  exact ⟨foundLater, by simp only [bytes, chunks]⟩

theorem Keeps.trans (first : Keeps before middle) (second : Keeps middle after) :
    Keeps before after := by
  refine ⟨first.grows.trans second.grows, ?_⟩
  intro index earlier later foundEarlier foundLater closed referenced
  have bound : index < middle.buffers.length :=
    (List.getElem?_eq_some_iff.mp foundEarlier).1.trans_le first.grows
  have foundMiddle : middle.buffers[index]? = some middle.buffers[index] :=
    List.getElem?_eq_getElem bound
  by_cases dropped : middle.buffers[index].referenced = true
  · obtain ⟨kept, keptBytes⟩ := first.same foundEarlier foundMiddle closed dropped
    rw [← kept] at foundMiddle
    obtain ⟨keptLater, keptLaterBytes⟩ := second.same foundMiddle foundLater closed referenced
    exact ⟨keptLater, keptLaterBytes.trans keptBytes⟩
  · have gone : middle.buffers[index].lifetime = .dropped := by
      simpa [SendBuffer.referenced] using dropped
    obtain ⟨kept, _⟩ := second.same foundMiddle foundLater (by simp [gone]) referenced
    rw [kept] at dropped
    exact absurd referenced dropped

theorem Keeps.of_own {self : SendBufferManager} {current : SendBufferChunk}
    {buffers : List SendBuffer} (found : self.chunks[chunk]? = some earlier)
    (grows : self.buffers.length ≤ buffers.length)
    (closed : ∀ {place : Nat} {buffer later : SendBuffer}, self.buffers[place]? = some buffer →
      buffers[place]? = some later → buffer.lifetime ≠ .building → later.referenced = true →
      buffer = later)
    (contents : ∀ buffer ∈ self.buffers, buffer.referenced = true → buffer.owner = chunk →
      window current.buffer buffer.offset buffer.writeSize =
        window earlier.buffer buffer.offset buffer.writeSize) :
    Keeps self (self.onOwn index chunk current buffers next) := by
  refine ⟨grows, ?_⟩
  intro place buffer later foundBuffer foundLater lifetime referenced
  have kept := closed foundBuffer foundLater lifetime referenced
  subst kept
  refine ⟨rfl, ?_⟩
  by_cases mine : chunk = buffer.owner
  · subst mine
    have present := (List.getElem?_eq_some_iff.mp found).1
    simp only [bytes, onOwn, List.getElem?_set_self present, found]
    exact contents buffer (List.mem_of_getElem? foundBuffer) referenced rfl
  · simp only [bytes, onOwn, List.getElem?_set_ne mine]

end SendBufferManager

end ChattingProgram.Core
