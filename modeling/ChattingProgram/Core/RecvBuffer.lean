import ChattingProgram.Data.Window

namespace ChattingProgram.Core

open ChattingProgram.Data

/-! # The receive buffer

`RecvBuffer` keeps the unread bytes between two cursors of one flat vector.
The cursors are `int32_t` in the source; they never leave `[0, _capacity]`, and
the structure carries that as its invariant, so natural numbers are exact here.
-/

/-- `RecvBuffer::BUFFER_COUNT`. -/
def bufferCount : Nat := 10

structure RecvBuffer where
  capacity : Nat
  bufferSize : Nat
  readPos : Nat
  writePos : Nat
  buffer : List UInt8
  sized : buffer.length = capacity
  ordered : readPos ≤ writePos
  within : writePos ≤ capacity

namespace RecvBuffer

def new (bufferSize : Nat) : RecvBuffer where
  capacity := bufferSize * bufferCount
  bufferSize := bufferSize
  readPos := 0
  writePos := 0
  buffer := List.replicate (bufferSize * bufferCount) 0
  sized := List.length_replicate
  ordered := Nat.le_refl 0
  within := Nat.zero_le _

def dataSize (self : RecvBuffer) : Nat := self.writePos - self.readPos

def freeSize (self : RecvBuffer) : Nat := self.capacity - self.writePos

/-- The bytes from `ReadPos()` up to `WritePos()`. -/
def data (self : RecvBuffer) : List UInt8 := window self.buffer self.readPos self.dataSize

theorem data_within (self : RecvBuffer) : self.readPos + self.dataSize ≤ self.buffer.length := by
  have ordered := self.ordered
  have within := self.within
  have sized := self.sized
  unfold dataSize
  omega

@[simp] theorem length_data (self : RecvBuffer) : self.data.length = self.dataSize :=
  length_window self.data_within

/-- The unread bytes moved to the front, as `Clean` does with `memcpy`. -/
def compact (self : RecvBuffer) : RecvBuffer where
  capacity := self.capacity
  bufferSize := self.bufferSize
  readPos := 0
  writePos := self.dataSize
  buffer := overwrite self.buffer 0 self.data
  sized := by
    have within := self.data_within
    rw [length_overwrite (by rw [length_data]; omega), self.sized]
  ordered := Nat.zero_le _
  within := by
    have within := self.data_within
    rw [self.sized] at within
    omega

def clean (self : RecvBuffer) : RecvBuffer :=
  if self.dataSize = 0 then
    { self with readPos := 0, writePos := 0, ordered := Nat.le_refl 0, within := Nat.zero_le _ }
  else if self.freeSize < self.bufferSize then self.compact
  else self

/-- `false` is `none`; `true` gives the buffer with its cursor moved. -/
def onRead (self : RecvBuffer) (numOfBytes : Nat) : Option RecvBuffer :=
  if enough : numOfBytes ≤ self.dataSize then
    some { self with
      readPos := self.readPos + numOfBytes
      ordered := by
        have ordered := self.ordered
        unfold dataSize at enough
        omega }
  else none

def onWrite (self : RecvBuffer) (numOfBytes : Nat) : Option RecvBuffer :=
  if room : numOfBytes ≤ self.freeSize then
    some { self with
      writePos := self.writePos + numOfBytes
      ordered := Nat.le_trans self.ordered (Nat.le_add_right _ _)
      within := by
        have within := self.within
        unfold freeSize at room
        omega }
  else none

/-- What the kernel does with the `WSABUF` of `RegisterRecv`: it stores the
received bytes at `WritePos()`, where `FreeSize()` bytes were offered. -/
def fill (self : RecvBuffer) (bytes : List UInt8) (room : bytes.length ≤ self.freeSize) :
    RecvBuffer :=
  { self with
    buffer := overwrite self.buffer self.writePos bytes
    sized := by
      have within := self.within
      have sized := self.sized
      unfold freeSize at room
      rw [length_overwrite (by omega), sized] }

theorem fill_onWrite {self : RecvBuffer} {bytes : List UInt8}
    (room : bytes.length ≤ self.freeSize) :
    ∃ written, (self.fill bytes room).onWrite bytes.length = some written ∧
      written.data = self.data ++ bytes ∧ written.capacity = self.capacity ∧
      written.bufferSize = self.bufferSize := by
  have ordered := self.ordered
  have within := self.within
  have sized := self.sized
  have fits : self.writePos + bytes.length ≤ self.buffer.length := by
    unfold freeSize at room
    omega
  have sameRoom : bytes.length ≤ (self.fill bytes room).freeSize := room
  rw [onWrite, dif_pos sameRoom]
  refine ⟨_, rfl, ?_, rfl, rfl⟩
  have size : self.writePos + bytes.length - self.readPos = self.dataSize + bytes.length := by
    unfold dataSize
    omega
  have boundary : self.readPos + self.dataSize = self.writePos := by
    unfold dataSize
    omega
  change window (overwrite self.buffer self.writePos bytes) self.readPos
    (self.writePos + bytes.length - self.readPos) = self.data ++ bytes
  rw [size, window_add, boundary, window_overwrite_self fits,
    window_overwrite_disjoint fits (Or.inl (Nat.le_of_eq boundary))]
  rfl

theorem onRead_some {self : RecvBuffer} (enough : numOfBytes ≤ self.dataSize) :
    ∃ read, self.onRead numOfBytes = some read ∧ read.data = self.data.drop numOfBytes ∧
      read.capacity = self.capacity ∧ read.bufferSize = self.bufferSize := by
  rw [onRead, dif_pos enough]
  refine ⟨_, rfl, ?_, rfl, rfl⟩
  have size : self.writePos - (self.readPos + numOfBytes) = self.dataSize - numOfBytes := by
    unfold dataSize
    omega
  change window self.buffer (self.readPos + numOfBytes)
    (self.writePos - (self.readPos + numOfBytes)) = self.data.drop numOfBytes
  rw [size, data, drop_window]

theorem compact_data (self : RecvBuffer) : self.compact.data = self.data := by
  have within := self.data_within
  have room : 0 + self.data.length ≤ self.buffer.length := by
    rw [length_data]
    omega
  have stored := window_overwrite_self room
  rwa [length_data] at stored

theorem clean_data (self : RecvBuffer) : self.clean.data = self.data := by
  unfold clean
  split
  · rename_i empty
    have none : self.data = [] := by rw [data, empty, window_zero]
    rw [none]
    exact window_zero _ _
  · split
    · exact self.compact_data
    · rfl

@[simp] theorem clean_capacity (self : RecvBuffer) : self.clean.capacity = self.capacity := by
  unfold clean
  split
  · rfl
  · split <;> rfl

@[simp] theorem clean_bufferSize (self : RecvBuffer) : self.clean.bufferSize = self.bufferSize := by
  unfold clean
  split
  · rfl
  · split <;> rfl

/-- After `Clean` a whole partition is free, as long as the unread bytes and one
partition fit in the buffer together. -/
theorem clean_freeSize (self : RecvBuffer)
    (room : self.dataSize + self.bufferSize ≤ self.capacity) :
    self.bufferSize ≤ self.clean.freeSize := by
  unfold clean
  split
  · simp only [freeSize]
    omega
  · split
    · simp only [freeSize, compact]
      omega
    · omega

end RecvBuffer

end ChattingProgram.Core
