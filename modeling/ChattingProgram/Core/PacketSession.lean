import ChattingProgram.Core.RecvBuffer
import ChattingProgram.Data.Framing

namespace ChattingProgram.Core

open ChattingProgram.Data

/-! # Receiving packets

The receive side of `Session` and `PacketSession`: the framing loop `OnRecv`,
the completion handler `ProcessRecv` and the registration of the next receive.
-/

/-- `PacketHeader`: two little-endian 16-bit words. -/
structure PacketHeader where
  size : UInt16
  id : UInt16
deriving Repr, DecidableEq

/-- `sizeof(PacketHeader)`. -/
def headerSize : Nat := 4

namespace PacketHeader

def word (low high : UInt8) : UInt16 := UInt16.ofNat (low.toNat + 256 * high.toNat)

/-- The header at the front of the bytes; it is only read behind a size test. -/
def read : List UInt8 → PacketHeader
  | sizeLow :: sizeHigh :: idLow :: idHigh :: _ => ⟨word sizeLow sizeHigh, word idLow idHigh⟩
  | _ => ⟨0, 0⟩

theorem read_append {input : List UInt8} (more : List UInt8) (enough : headerSize ≤ input.length) :
    read (input ++ more) = read input := by
  match input with
  | [] | [_] | [_, _] | [_, _, _] => simp [headerSize] at enough
  | _ :: _ :: _ :: _ :: _ => rfl

end PacketHeader

/-- One call `OnRecvPacket(buffer, len)`.  The pointer reaches to the end of the
unread bytes; the packet is the first `len` of them. -/
structure PacketCall where
  buffer : List UInt8
  len : Nat
deriving Repr, DecidableEq

def PacketCall.packet (call : PacketCall) : List UInt8 := call.buffer.take call.len

/-- One turn of the loop in `PacketSession::OnRecv`; `none` is its `break`. -/
def onRecvTurn (buffer : List UInt8) (processLen : Nat) : Option PacketCall :=
  let dataSize := buffer.length - processLen
  if dataSize < headerSize then none
  else
    let header := PacketHeader.read (buffer.drop processLen)
    if dataSize < header.size.toNat then none
    else some ⟨buffer.drop processLen, header.size.toNat⟩

/-- The loop, with a bound on its turns: `none` when the bound runs out. -/
def onRecvLoop : Nat → List UInt8 → Nat → Option (Nat × List PacketCall)
  | 0, _, _ => none
  | fuel + 1, buffer, processLen =>
      match onRecvTurn buffer processLen with
      | none => some (processLen, [])
      | some call =>
          (onRecvLoop fuel buffer (processLen + call.len)).map
            fun later => (later.1, call :: later.2)

/-- `PacketSession::OnRecv`.  A turn that does not advance repeats for ever, so
one turn more than there are bytes decides whether the loop returns. -/
def onRecv (buffer : List UInt8) : Option (Nat × List PacketCall) :=
  onRecvLoop (buffer.length + 1) buffer 0

/-- The reference for the framing: the next packet is the next `header.size`
bytes, available once the header and that many bytes are present. -/
def packetFramer : Framer UInt8 where
  frameSize input :=
    if input.length < headerSize then none
    else if input.length < (PacketHeader.read input).size.toNat then none
    else some (PacketHeader.read input).size.toNat
  fits := by
    intro input size found
    split at found
    · contradiction
    · split at found
      · contradiction
      · cases found
        omega
  stable := by
    intro input size more found
    split at found
    · contradiction
    · rename_i enough
      split at found
      · contradiction
      · rename_i complete
        cases found
        have sameHeader := PacketHeader.read_append more (Nat.le_of_not_lt enough)
        rw [List.length_append, sameHeader, if_neg (by omega), if_neg (by omega)]

/-- What the loop has checked before it makes a call. -/
def PacketCall.Formed (call : PacketCall) : Prop :=
  packetFramer.frameSize call.buffer = some call.len

theorem PacketCall.Formed.header_present {call : PacketCall} (formed : call.Formed) :
    headerSize ≤ call.buffer.length := by
  simp only [Formed, packetFramer] at formed
  split at formed
  · contradiction
  · omega

theorem PacketCall.Formed.size_eq {call : PacketCall} (formed : call.Formed) :
    (PacketHeader.read call.buffer).size.toNat = call.len := by
  simp only [Formed, packetFramer] at formed
  split at formed
  · contradiction
  · split at formed
    · contradiction
    · exact Option.some.inj formed

theorem onRecvTurn_eq (buffer : List UInt8) (processLen : Nat) :
    onRecvTurn buffer processLen =
      (packetFramer.frameSize (buffer.drop processLen)).map
        fun size => ⟨buffer.drop processLen, size⟩ := by
  simp only [onRecvTurn, packetFramer, List.length_drop]
  split
  · rfl
  · split <;> rfl

/-- Behind `processLen`, the loop delivers the frames of the reference split and
stops at its tail. -/
theorem onRecvLoop_splits {buffer : List UInt8}
    (splits : packetFramer.Splits (buffer.drop processLen) frames rest)
    (inside : processLen ≤ buffer.length) (enough : buffer.length - processLen < fuel) :
    ∃ final calls, onRecvLoop fuel buffer processLen = some (final, calls) ∧
      calls.map PacketCall.packet = frames ∧ (∀ call ∈ calls, call.Formed) ∧
      buffer.drop final = rest ∧ final ≤ buffer.length := by
  generalize pending : buffer.drop processLen = input at splits
  induction splits generalizing processLen fuel with
  | stop absent =>
      cases fuel with
      | zero => omega
      | succ fuel =>
          refine ⟨processLen, [], ?_, rfl, by simp, pending, inside⟩
          rw [onRecvLoop, onRecvTurn_eq, pending, absent]
          rfl
  | @frame input size frames rest found positive _ ih =>
      have bound := packetFramer.fits found
      rw [← pending, List.length_drop] at bound
      cases fuel with
      | zero => omega
      | succ fuel =>
          have remaining : buffer.drop (processLen + size) = input.drop size := by
            rw [← pending, List.drop_drop]
          obtain ⟨final, calls, looped, packets, formed, stopped, within⟩ :=
            ih (show processLen + size ≤ buffer.length by omega)
              (show buffer.length - (processLen + size) < fuel by omega) remaining
          refine ⟨final, ⟨input, size⟩ :: calls, ?_, ?_,
            List.forall_mem_cons.mpr ⟨found, formed⟩, stopped, within⟩
          · rw [onRecvLoop, onRecvTurn_eq, pending, found]
            simp only [Option.map_some, looped]
          · rw [List.map_cons, packets]
            rfl

theorem onRecv_splits (splits : packetFramer.Splits buffer frames rest) :
    ∃ processLen calls, onRecv buffer = some (processLen, calls) ∧
      calls.map PacketCall.packet = frames ∧ (∀ call ∈ calls, call.Formed) ∧
      buffer.drop processLen = rest ∧ processLen ≤ buffer.length :=
  onRecvLoop_splits (show packetFramer.Splits (buffer.drop 0) frames rest from splits)
    (Nat.zero_le _) (by omega)

/-- What is left between two frames is shorter than the largest frame. -/
theorem incomplete_length (incomplete : packetFramer.frameSize rest = none) :
    rest.length ≤ 65534 := by
  simp only [packetFramer] at incomplete
  split at incomplete
  · rename_i short
    unfold headerSize at short
    omega
  · split at incomplete
    · rename_i short
      have bound := (PacketHeader.read rest).size.toNat_lt
      omega
    · contradiction

/-- The causes the receive path hands to `Disconnect`. -/
inductive DisconnectCause where
  | recvZero
  | onWriteOverflow
  | onReadOverflow
deriving Repr, DecidableEq

def DisconnectCause.text : DisconnectCause → String
  | .recvZero => "Recv 0"
  | .onWriteOverflow => "OnWrite Overflow"
  | .onReadOverflow => "OnRead Overflow"

/-- The fields of a session that its receive path reads and writes, with the
`OnRecvPacket` calls made so far. -/
structure Session where
  connected : Bool
  recvBuffer : RecvBuffer
  /-- A `WSARecv` is outstanding on `[WritePos(), WritePos() + FreeSize())`. -/
  recvPending : Bool
  cause : Option DisconnectCause
  calls : List PacketCall

namespace Session

/-- `Session::BUFFER_SIZE`. -/
def bufferSize : Nat := 0x10000

def disconnect (self : Session) (cause : DisconnectCause) : Session :=
  if self.connected then { self with connected := false, cause := some cause } else self

def registerRecv (self : Session) : Session :=
  if self.connected then { self with recvPending := true } else self

/-- `Session::ProcessRecv` over any override of `OnRecv`; `none` when that
override does not return. -/
def processRecv (onRecv : List UInt8 → Option (Int × List PacketCall)) (self : Session)
    (numOfBytes : Nat) : Option Session :=
  let self := { self with recvPending := false }
  if numOfBytes = 0 then some (self.disconnect .recvZero)
  else
    match self.recvBuffer.onWrite numOfBytes with
    | none => some (self.disconnect .onWriteOverflow)
    | some written =>
        (onRecv written.data).map fun (processLen, calls) =>
          let self := { self with recvBuffer := written, calls := self.calls ++ calls }
          if processLen < 0 ∨ (written.dataSize : Int) < processLen then
            self.disconnect .onReadOverflow
          else
            match written.onRead processLen.toNat with
            | none => self.disconnect .onReadOverflow
            | some read => { self with recvBuffer := read.clean }.registerRecv

/-- `PacketSession` seals `OnRecv` with the framing loop. -/
def packetOnRecv (buffer : List UInt8) : Option (Int × List PacketCall) :=
  (onRecv buffer).map fun result => ((result.1 : Int), result.2)

/-- A connected session with its first receive registered. -/
def fresh : Session :=
  registerRecv
    { connected := true, recvBuffer := RecvBuffer.new bufferSize, recvPending := false,
      cause := none, calls := [] }

/-- The outstanding receive can complete with these bytes. -/
def Offers (self : Session) (bytes : List UInt8) : Prop :=
  self.recvPending = true ∧ 1 ≤ bytes.length ∧ bytes.length ≤ self.recvBuffer.freeSize

/-- The kernel stores the bytes and the completion is dispatched. -/
def complete (self : Session) (bytes : List UInt8) : Option Session :=
  if room : bytes.length ≤ self.recvBuffer.freeSize then
    processRecv packetOnRecv { self with
      recvBuffer := self.recvBuffer.fill bytes room } bytes.length
  else none

def completeAll : List (List UInt8) → Session → Option Session
  | [], self => some self
  | bytes :: rest, self => (self.complete bytes).bind (completeAll rest)

/-- Every completion of the list is one the session offered at that point. -/
def Admits : List (List UInt8) → Session → Prop
  | [], _ => True
  | bytes :: rest, self =>
      self.Offers bytes ∧ ∀ next, self.complete bytes = some next → Admits rest next

end Session

end ChattingProgram.Core
