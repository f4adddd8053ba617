import ChattingProgram.Core.PacketSession
import ChattingProgram.Machine.Run
import ChattingProgram.Machine.Pool

namespace ChattingProgram.Core

open ChattingProgram.Data ChattingProgram.Machine

/-! # Send buffers

`MakeSendBuffer` reserves a range of the thread's chunk, writes a packet into it
and closes it.  Chunks and buffers are the objects ever allocated, addressed by
their position; a `shared_ptr` is a reference that the state holds.  A chunk
returns to the pool of `SendBufferManager` through its deleter `PushGlobal`, run
when the last reference to it is dropped.
-/

/-- `SEND_BUFFER_CHUNK_SIZE`. -/
def chunkSize : Nat := 6000

structure SendBufferChunk where
  buffer : List UInt8
  isOpen : Bool
  usedSize : Nat
  sized : buffer.length = chunkSize
deriving DecidableEq

namespace SendBufferChunk

def new : SendBufferChunk where
  buffer := List.replicate chunkSize 0
  isOpen := false
  usedSize := 0
  sized := List.length_replicate

def freeSize (self : SendBufferChunk) : Nat := chunkSize - self.usedSize

def reset (self : SendBufferChunk) : SendBufferChunk := { self with isOpen := false, usedSize := 0 }

def store (self : SendBufferChunk) (offset : Nat) (block : List UInt8)
    (within : offset + block.length ≤ chunkSize) : SendBufferChunk :=
  { self with
    buffer := overwrite self.buffer offset block
    sized := by rw [length_overwrite (within.trans_eq self.sized.symm), self.sized] }

end SendBufferChunk

/-- A `SendBuffer` belongs to `MakeSendBuffer` until it is returned, then to
whoever refers to it, until the last reference is dropped. -/
inductive Lifetime where
  | building
  | held
  | dropped
deriving Repr, DecidableEq

structure SendBuffer where
  owner : Nat
  /-- `Buffer()`, relative to the start of the owner. -/
  offset : Nat
  allocSize : Nat
  writeSize : Nat
  lifetime : Lifetime
deriving Repr, DecidableEq

def SendBuffer.referenced (self : SendBuffer) : Bool := self.lifetime ≠ .dropped

/-- A message as `MakeSendBuffer` sees it: its packet id and the bytes that
`SerializeToArray` writes, as many as `ByteSizeLong` tells. -/
structure Packet where
  pktId : UInt16
  payload : List UInt8
deriving Repr, DecidableEq

namespace Packet

def dataSize (self : Packet) : Nat := self.payload.length % 2 ^ 16

def packetSize (self : Packet) : Nat := (self.dataSize + headerSize) % 2 ^ 16

def header (self : Packet) : PacketHeader := ⟨UInt16.ofNat self.packetSize, self.pktId⟩

end Packet

def wordBytes (word : UInt16) : List UInt8 :=
  [UInt8.ofNat (word.toNat % 256), UInt8.ofNat (word.toNat / 256)]

def PacketHeader.bytes (self : PacketHeader) : List UInt8 :=
  wordBytes self.size ++ wordBytes self.id

theorem PacketHeader.word_wordBytes (word : UInt16) :
    PacketHeader.word (UInt8.ofNat (word.toNat % 256)) (UInt8.ofNat (word.toNat / 256)) = word := by
  have bound := word.toNat_lt
  apply UInt16.toNat_inj.mp
  simp only [PacketHeader.word, UInt16.toNat_ofNat', UInt8.toNat_ofNat']
  omega

theorem PacketHeader.read_bytes (header : PacketHeader) (rest : List UInt8) :
    PacketHeader.read (header.bytes ++ rest) = header := by
  simp only [PacketHeader.bytes, wordBytes, List.cons_append, List.nil_append, PacketHeader.read,
    PacketHeader.word_wordBytes]

/-- Where a thread stands in `MakeSendBuffer`.  `again` tells the second
replacement of the chunk, when the first one is used up, from the one that fills
an empty slot. -/
inductive MakePc where
  | idle
  | openSlot (packet : Packet)
  | pop (packet : Packet) (again : Bool)
  | assign (packet : Packet) (again : Bool) (popped : Nat)
  | recycle (packet : Packet) (again : Bool) (old : Nat)
  | reset (packet : Packet) (again : Bool)
  | check (packet : Packet)
  | openChunk (packet : Packet)
  | header (packet : Packet) (buffer : Nat)
  | serialize (packet : Packet) (buffer : Nat)
  | close (packet : Packet) (buffer : Nat)
  | recycleReleased (old : Nat)
deriving Repr, DecidableEq

structure MakeThread where
  /-- The thread-local `LSendBufferChunk`. -/
  slot : Option Nat
  pc : MakePc
deriving Repr, DecidableEq

/-- What stops the program: the assertions on the way, a null `SendBuffer`, and a
write outside the chunk. -/
inductive SendBufferCrash where
  | managerOpen
  | chunkOpenSize
  | chunkOpen
  | nullBuffer
  | serialize
  | closeSize
  | chunkClose
  | outOfChunk
deriving Repr, DecidableEq

structure SendBufferManager where
  chunks : List SendBufferChunk
  buffers : List SendBuffer
  /-- `_sendBufferChunks`, its back first. -/
  pool : List Nat
  threads : List MakeThread
  crash : Option SendBufferCrash

inductive MakeEvent where
  | spawn
  | make (thread : Nat) (packet : Packet)
  | run (thread : Nat)
  /-- An idle thread drops the last reference to a buffer. -/
  | release (thread buffer : Nat)
deriving Repr, DecidableEq

namespace SendBufferManager

def fresh : SendBufferManager where
  chunks := []
  buffers := []
  pool := []
  threads := []
  crash := none

def put (self : SendBufferManager) (thread : Nat) (next : MakeThread) : SendBufferManager :=
  { self with threads := self.threads.set thread next }

def crashed (self : SendBufferManager) (cause : SendBufferCrash) : SendBufferManager :=
  { self with crash := some cause }

def setChunk (self : SendBufferManager) (chunk : Nat) (next : SendBufferChunk) :
    SendBufferManager :=
  { self with chunks := self.chunks.set chunk next }

def setBuffer (self : SendBufferManager) (buffer : Nat) (next : SendBuffer) : SendBufferManager :=
  { self with buffers := self.buffers.set buffer next }

/-- The references a thread holds to a chunk: its slot, and what `Pop` returned. -/
def threadReferences (chunk : Nat) (thread : MakeThread) : Nat :=
  (if thread.slot = some chunk then 1 else 0) +
    match thread.pc with
    | .assign _ _ popped => if popped = chunk then 1 else 0
    | _ => 0

def bufferReferences (chunk : Nat) (buffer : SendBuffer) : Nat :=
  if buffer.referenced ∧ buffer.owner = chunk then 1 else 0

/-- `use_count()` of a chunk. -/
def useCount (self : SendBufferManager) (chunk : Nat) : Nat :=
  self.pool.count chunk + total (threadReferences chunk) self.threads +
    total (bufferReferences chunk) self.buffers

/-- Reads the thread's chunk; a thread at these positions has one. -/
def withChunk (self : SendBufferManager) (slot : Option Nat)
    (use : Nat → SendBufferChunk → Option SendBufferManager) : Option SendBufferManager :=
  slot.bind fun chunk => (self.chunks[chunk]?).bind (use chunk)

/-- Stores a block into the range of a buffer. -/
def write (self : SendBufferManager) (buffer : Nat) (skip : Nat) (block : List UInt8)
    (next : SendBufferManager → SendBufferManager) : Option SendBufferManager :=
  (self.buffers[buffer]?).bind fun target => (self.chunks[target.owner]?).map fun chunk =>
    if within : target.offset + skip + block.length ≤ chunkSize then
      next (self.setChunk target.owner (chunk.store (target.offset + skip) block within))
    else self.crashed .outOfChunk

def advance (self : SendBufferManager) (thread : Nat) (slot : Option Nat) :
    MakePc → Option SendBufferManager
  | .idle => none
  | .openSlot packet =>
      some (self.put thread ⟨slot, if slot.isNone then .pop packet false else .check packet⟩)
  | .pop packet again =>
      match self.pool with
      | popped :: rest =>
          some ({ self with pool := rest }.put thread ⟨slot, .assign packet again popped⟩)
      | [] =>
          some ({ self with chunks := self.chunks ++ [SendBufferChunk.new] }.put thread
            ⟨slot, .assign packet again self.chunks.length⟩)
  | .assign packet again popped =>
      let next := self.put thread ⟨some popped, .reset packet again⟩
      match slot with
      | none => some next
      | some old =>
          if next.useCount old = 0 then
            some (self.put thread ⟨some popped, .recycle packet again old⟩)
          else some next
  | .recycle packet again old =>
      some ({ self with pool := old :: self.pool }.put thread ⟨slot, .reset packet again⟩)
  | .reset packet again =>
      self.withChunk slot fun chunk current =>
        some ((self.setChunk chunk current.reset).put thread
          ⟨slot, if again then .openChunk packet else .check packet⟩)
  | .check packet =>
      self.withChunk slot fun _ current =>
        if current.isOpen then some (self.crashed .managerOpen)
        else some (self.put thread ⟨slot,
          if current.freeSize < packet.packetSize then .pop packet true else .openChunk packet⟩)
  | .openChunk packet =>
      self.withChunk slot fun chunk current =>
        if chunkSize < packet.packetSize then some (self.crashed .chunkOpenSize)
        else if current.isOpen then some (self.crashed .chunkOpen)
        else if current.freeSize < packet.packetSize then some (self.crashed .nullBuffer)
        else
          let buffer : SendBuffer := ⟨chunk, current.usedSize, packet.packetSize, 0, .building⟩
          let next := { self.setChunk chunk { current with isOpen := true } with
            buffers := self.buffers ++ [buffer] }
          some (next.put thread ⟨slot, .header packet self.buffers.length⟩)
  | .header packet buffer =>
      self.write buffer 0 packet.header.bytes fun next =>
        next.put thread ⟨slot, .serialize packet buffer⟩
  | .serialize packet buffer =>
      if packet.dataSize < packet.payload.length then some (self.crashed .serialize)
      else
        self.write buffer headerSize packet.payload fun next =>
          next.put thread ⟨slot, .close packet buffer⟩
  | .close packet buffer =>
      (self.buffers[buffer]?).bind fun target => (self.chunks[target.owner]?).map fun chunk =>
        if target.allocSize < packet.packetSize then self.crashed .closeSize
        else if chunk.isOpen = false then self.crashed .chunkClose
        else
          ((self.setBuffer buffer { target with
            writeSize := packet.packetSize, lifetime := .held }).setChunk target.owner
              { chunk with isOpen := false, usedSize := chunk.usedSize + packet.packetSize }).put
                thread ⟨slot, .idle⟩
  | .recycleReleased old => some ({ self with pool := old :: self.pool }.put thread ⟨slot, .idle⟩)

def step : MakeEvent → SendBufferManager → Option SendBufferManager
  | event, self =>
    if self.crash.isSome then none
    else
      match event with
      | .spawn => some { self with threads := self.threads ++ [⟨none, .idle⟩] }
      | .make thread packet =>
          match self.threads[thread]? with
          | some ⟨slot, .idle⟩ => some (self.put thread ⟨slot, .openSlot packet⟩)
          | _ => none
      | .run thread =>
          (self.threads[thread]?).bind fun current => self.advance thread current.slot current.pc
      | .release thread buffer =>
          match self.threads[thread]?, self.buffers[buffer]? with
          | some ⟨slot, .idle⟩, some target =>
              if target.lifetime = .held then
                let next := self.setBuffer buffer { target with lifetime := .dropped }
                if next.useCount target.owner = 0 then
                  some (next.put thread ⟨slot, .recycleReleased target.owner⟩)
                else some next
              else none
          | _, _ => none

def system : System SendBufferManager MakeEvent := ⟨step⟩

/-- The bytes `[Buffer(), Buffer() + WriteSize())` of a buffer. -/
def bytes (self : SendBufferManager) (buffer : SendBuffer) : List UInt8 :=
  match self.chunks[buffer.owner]? with
  | some chunk => window chunk.buffer buffer.offset buffer.writeSize
  | none => []

end SendBufferManager

end ChattingProgram.Core
