import ChattingProgram.Core.Reassembly
import ChattingProgram.Core.SendSteps
import ChattingProgram.Protocol.Message

namespace ChattingProgram.Protocol

open ChattingProgram.Core ChattingProgram.Data ChattingProgram.Machine

/-! # Packet handlers

The generated classes `ClientPacketHandler` (on the server) and
`ServerPacketHandler` (on the client): the table of handlers, the dispatch of a
received packet and the encoding of a message.
-/

/-- What protobuf does for the message classes. -/
structure Protobuf where
  serializeToArray : Message → List UInt8
  parseFromArray : (type : PacketType) → List UInt8 →
    Option { message : Message // message.type = type }

/-- An entry of `GPacketHandler`: `Handle_INVALD`, or the lambda around
`HandlePacket` for one message class and its handler. -/
inductive Handler where
  | invald
  | process (type : PacketType)
deriving Repr, DecidableEq

/-- The entries of `GPacketHandler`; `none` is an empty `std::function`. -/
abbrev PacketTable := Nat → Option Handler

/-- `UINT16_MAX`, the length of `GPacketHandler`. -/
def tableSize : Nat := 65535

/-- What becomes of a packet. -/
inductive Dispatch where
  | outOfBounds
  | noHandler
  | invald
  | negativeSize (type : PacketType) (size : Int)
  | parseFailed (type : PacketType)
  | handled (type : PacketType) (pkt : Message)
deriving Repr, DecidableEq

/-- The generated class: the handlers that `Init` registers and the overloads of
`MakeSendBuffer`, both in the order of the source. -/
structure PacketHandler where
  handlers : List PacketType
  overloads : List PacketType

def clientPacketHandler : PacketHandler where
  handlers := [.cLogin, .cRegister, .cRefreshLobby, .cCreateRoom, .cJoinRoom, .cChatLog, .cRoomOut]
  overloads :=
    [.sLogin, .sRegister, .sRefreshLobby, .sCreateRoom, .sJoinRoom, .sRefreshRoom,
      .sChatLog, .sRoomOut]

def serverPacketHandler : PacketHandler where
  handlers :=
    [.sLogin, .sRegister, .sRefreshLobby, .sCreateRoom, .sJoinRoom, .sRefreshRoom,
      .sChatLog, .sRoomOut]
  overloads := [.cLogin, .cRegister, .cRefreshLobby, .cCreateRoom, .cJoinRoom, .cChatLog, .cRoomOut]

namespace PacketHandler

def assign (table : PacketTable) (index : Nat) (handler : Handler) : PacketTable :=
  Function.update table index (some handler)

def register (table : PacketTable) (type : PacketType) : PacketTable :=
  assign table type.pktId.toNat (.process type)

/-- `Init`; the loop over the table assigns entry 0 in every turn. -/
def init (self : PacketHandler) : PacketTable :=
  self.handlers.foldl register ((assign · 0 .invald)^[tableSize] fun _ => none)

def handlePacket (table : PacketTable) (proto : Protobuf) (call : PacketCall) : Dispatch :=
  let header := PacketHeader.read call.buffer
  if header.id.toNat < tableSize then
    match table header.id.toNat with
    | none => .noHandler
    | some .invald => .invald
    | some (.process type) =>
        if call.len < headerSize then .negativeSize type ((call.len : Int) - headerSize)
        else
          match proto.parseFromArray type
            (window call.buffer headerSize (call.len - headerSize)) with
          | none => .parseFailed type
          | some pkt => .handled type pkt
  else .outOfBounds

/-- The packet that the overload of a message's class asks for. -/
def packet (proto : Protobuf) (message : Message) : Packet :=
  ⟨message.type.pktId, proto.serializeToArray message⟩

/-- `none` for a class without an overload. -/
def makeSendBuffer (self : PacketHandler) (proto : Protobuf) (thread : Nat) (message : Message)
    (manager : SendBufferManager) : Option (SendBufferManager × Nat) :=
  if message.type ∈ self.overloads then manager.makeSendBuffer thread
    (packet proto message) else none

/-- Encodes messages one after another, each into its own buffer. -/
def encode (self : PacketHandler) (proto : Protobuf) (thread : Nat) :
    List Message → SendBufferManager → Option (SendBufferManager × List Nat)
  | [], manager => some (manager, [])
  | message :: rest, manager =>
      (self.makeSendBuffer proto thread message manager).bind fun made =>
        (self.encode proto thread rest made.1).map fun result => (result.1, made.2 :: result.2)

/-- The bytes of buffers in order, as they are when the last one is made. -/
def wire (manager : SendBufferManager) (buffers : List Nat) : List UInt8 :=
  buffers.flatMap fun index => ((manager.buffers[index]?).map manager.bytes).getD []

/-! ## Dispatch -/

theorem foldl_register {handlers : List PacketType}
    (handled : type ∈ handlers ∨ table type.pktId.toNat = some (.process type)) :
    handlers.foldl register table type.pktId.toNat = some (.process type) := by
  induction handlers generalizing table with
  | nil => simpa using handled
  | cons head rest ih =>
      rw [List.foldl_cons]
      apply ih
      by_cases here : head = type
      · subst here
        exact .inr (Function.update_self ..)
      · have apart : type.pktId.toNat ≠ head.pktId.toNat := by
          intro same
          exact here (PacketType.pktId_injective (UInt16.toNat_inj.mp same)).symm
        rcases handled with member | stored
        · exact .inl ((List.mem_cons.mp member).resolve_left (Ne.symm here))
        · exact .inr ((Function.update_of_ne apart ..).trans stored)

theorem init_handles {self : PacketHandler} (member : type ∈ self.handlers) :
    self.init type.pktId.toNat = some (.process type) :=
  foldl_register (.inl member)

theorem pktId_lt_tableSize (type : PacketType) : type.pktId.toNat < tableSize := by
  cases type <;> decide

/-- A packet that was framed correctly reaches the handler of its id, with the
payload that was serialized. -/
theorem handlePacket_frame {call : PacketCall} (formed : call.Formed)
    (framed : call.packet = (packet proto message).header.bytes ++ (packet proto message).payload)
    (known : table message.type.pktId.toNat = some (.process message.type))
    (roundTrip : proto.parseFromArray message.type (proto.serializeToArray message) =
      some ⟨message, rfl⟩) : handlePacket table proto call = .handled message.type message := by
  have within : call.len ≤ call.buffer.length := packetFramer.fits formed
  have size : call.len = headerSize + (packet proto message).payload.length := by
    have taken := congrArg List.length framed
    simp only [PacketCall.packet, List.length_take, List.length_append,
      PacketHeader.length_bytes] at taken
    omega
  have header : PacketHeader.read call.buffer = (packet proto message).header := by
    have whole : call.buffer = call.packet ++ call.buffer.drop call.len :=
      (List.take_append_drop ..).symm
    rw [whole, framed, List.append_assoc, PacketHeader.read_bytes]
  have payload : window call.buffer headerSize (call.len - headerSize) =
      proto.serializeToArray message := by
    rw [window, ← List.drop_take]
    exact (congrArg (List.drop headerSize) framed).trans
      (List.drop_left' (PacketHeader.length_bytes _))
  have id : (packet proto message).header.id = message.type.pktId := rfl
  simp only [handlePacket, header, id, pktId_lt_tableSize, if_true, known, payload, roundTrip,
    show ¬ call.len < headerSize by omega, if_false]

/-! ## Both ends -/

def frame (proto : Protobuf) (message : Message) : List UInt8 :=
  (packet proto message).header.bytes ++ (packet proto message).payload

theorem frame_complete_of_lt (small : (packet proto message).payload.length + headerSize < 2 ^ 16) :
    packetFramer.frameSize (frame proto message) = some (frame proto message).length := by
  simp only [headerSize] at small
  have size : (packet proto message).header.size.toNat =
      (packet proto message).payload.length + 4 := by
    simp only [Packet.header, Packet.packetSize, Packet.dataSize, headerSize]
    rw [UInt16.toNat_ofNat']
    omega
  have length : (frame proto message).length = (packet proto message).payload.length + 4 := by
    simp [frame, headerSize, Nat.add_comm]
  simp only [packetFramer, frame, PacketHeader.read_bytes, size] at length ⊢
  rw [length, if_neg (by simp only [headerSize]; omega), if_neg (lt_irrefl _)]

theorem frame_complete (fits : (packet proto message).Fits) :
    packetFramer.frameSize (frame proto message) = some (frame proto message).length ∧
      0 < (frame proto message).length := by
  simp only [Packet.Fits, chunkSize] at fits
  refine ⟨frame_complete_of_lt (by omega), ?_⟩
  simp [frame, headerSize]

/-- Messages are encoded into buffers that hold their frames when all are made. -/
theorem encode_returns {self : PacketHandler} {manager : SendBufferManager}
    (owned : manager.Owned) (idle : manager.threads[thread]? = some ⟨slot, .idle⟩)
    (sendable : ∀ message ∈ messages, message.type ∈ self.overloads)
    (fits : ∀ message ∈ messages, (packet proto message).Fits) :
    ∃ last buffers, self.encode proto thread messages manager = some (last, buffers) ∧
      SendBufferManager.Continues manager last ∧ SendBufferManager.Retains manager last ∧
      wire last buffers = (messages.map (frame proto)).flatten := by
  induction messages generalizing manager slot with
  | nil => exact ⟨manager, [], rfl, ⟨owned, .of_same rfl rfl⟩, .of_same rfl, rfl⟩
  | cons message rest ih =>
      obtain ⟨next, buffer, sent, final, made, continued, retained, threads, placed,
          held, contents⟩ :=
        SendBufferManager.makeSendBuffer_returns owned idle (fits message (by simp))
      have idleNext : next.threads[thread]? = some ⟨final, .idle⟩ := by
        rw [threads]
        exact List.getElem?_set_self (List.getElem?_eq_some_iff.mp idle).1
      obtain ⟨last, buffers, encoded, continues, retains, written⟩ := ih continued.owned idleNext
        (fun later member => sendable later (by simp [member]))
        (fun later member => fits later (by simp [member]))
      have stays := retains buffer sent placed held
      obtain ⟨_, unchanged⟩ := continues.keeps.same placed stays (by simp [held])
        (by simp [SendBuffer.referenced, held])
      refine ⟨last, buffer :: buffers, ?_,
        ⟨continues.owned, continued.keeps.trans continues.keeps⟩, ?_, ?_⟩
      · simp only [encode, makeSendBuffer, sendable message (by simp), if_true, made,
          Option.bind_some, encoded, Option.map_some]
      · intro place other found heldBefore
        exact retains place other (retained place other found heldBefore) heldBefore
      · simp only [wire, List.flatMap_cons, stays, Option.map_some, Option.getD_some,
          unchanged, contents, List.map_cons, List.flatten_cons] at written ⊢
        rw [written]
        rfl

/-- Calls that deliver the frames of messages reach their handlers. -/
theorem calls_handled {self : PacketHandler} {proto : Protobuf} {messages : List Message}
    {calls : List PacketCall}
    (roundTrip : ∀ message ∈ messages,
      proto.parseFromArray message.type (proto.serializeToArray message) = some ⟨message, rfl⟩)
    (known : ∀ message ∈ messages, message.type ∈ self.handlers)
    (delivered : calls.map PacketCall.packet = messages.map (frame proto))
    (formed : ∀ call ∈ calls, call.Formed) :
    calls.map (handlePacket self.init proto) =
      messages.map (fun message => .handled message.type message) := by
  induction messages generalizing calls with
  | nil => simp_all
  | cons message rest ih =>
      obtain ⟨call, later, rfl, framed, deliveredLater⟩ := List.map_eq_cons_iff.mp delivered
      rw [List.map_cons, List.map_cons]
      rw [List.forall_mem_cons] at roundTrip known formed
      rw [handlePacket_frame formed.1 framed (init_handles known.1) roundTrip.1,
        ih roundTrip.2 known.2 deliveredLater formed.2]

/-- The two directions of a connection. -/
inductive Direction where
  | toClient
  | toServer
deriving Repr, DecidableEq

def Direction.sender : Direction → PacketHandler
  | .toClient => clientPacketHandler
  | .toServer => serverPacketHandler

def Direction.receiver : Direction → PacketHandler
  | .toClient => serverPacketHandler
  | .toServer => clientPacketHandler

theorem Direction.overloads_handled (direction : Direction)
    (sendable : type ∈ direction.sender.overloads) : type ∈ direction.receiver.handlers := by
  cases direction <;> exact sendable

/-- Whatever messages one end sends, and however the stream is cut, the other end
calls the handlers of the messages' own types with the messages, in order. -/
theorem codec_agreement (direction : Direction) (proto : Protobuf) (messages : List Message)
    (roundTrip : ∀ message ∈ messages,
      proto.parseFromArray message.type (proto.serializeToArray message) = some ⟨message, rfl⟩)
    (sendable : ∀ message ∈ messages, message.type ∈ direction.sender.overloads)
    (small : ∀ message ∈ messages, (proto.serializeToArray message).length ≤ 5996)
    {events : List MakeEvent} {manager : SendBufferManager} {thread : Nat} {slot : Option Nat}
    (fitting : ∀ event ∈ events, SendBufferManager.Fitting event)
    (ran : SendBufferManager.system.run events SendBufferManager.fresh = some manager)
    (idle : manager.threads[thread]? = some ⟨slot, .idle⟩) :
    ∃ last buffers, direction.sender.encode proto thread messages manager = some (last, buffers) ∧
      ∀ {completions}, completions.flatten = wire last buffers →
        Session.Admits completions Session.fresh →
        ∃ session, Session.completeAll completions Session.fresh = some session ∧
          session.calls.map (handlePacket direction.receiver.init proto) =
            messages.map (fun message => .handled message.type message) := by
  have fits : ∀ message ∈ messages, (packet proto message).Fits := by
    intro message member
    have bound := small message member
    simp only [Packet.Fits, packet, headerSize, chunkSize]
    omega
  obtain ⟨owned, _⟩ := SendBufferManager.run_owned fitting ran SendBufferManager.fresh_owned
  obtain ⟨last, buffers, encoded, _, _, written⟩ := encode_returns owned idle sendable fits
  refine ⟨last, buffers, encoded, ?_⟩
  intro completions stream admitted
  have splits : packetFramer.Splits completions.flatten (messages.map (frame proto)) [] := by
    rw [stream, written]
    apply Framer.splits_flatten rfl
    intro bytes member
    obtain ⟨message, sent, rfl⟩ := List.mem_map.mp member
    exact frame_complete (fits message sent)
  obtain ⟨session, completed, reassembled⟩ :=
    Session.completeAll_reassembled Session.fresh_reassembled
    admitted (by simpa using splits)
  refine ⟨session, completed, ?_⟩
  have delivered := (reassembled.splits.unique (by simpa using splits)).1
  exact calls_handled roundTrip (fun message member => direction.overloads_handled
    (sendable message member)) delivered reassembled.formed

/-- The encoding of two requests. -/
def sampleProtobuf : Protobuf where
  serializeToArray
    | .cJoinRoom .. => [10, 1, 97, 18, 1, 98]
    | _ => []
  parseFromArray
    | .cJoinRoom, bytes =>
        if bytes = [10, 1, 97, 18, 1, 98] then some ⟨.cJoinRoom "a" "b", rfl⟩ else none
    | .cRefreshLobby, bytes => if bytes = [] then some ⟨.cRefreshLobby, rfl⟩ else none
    | _, _ => none

theorem codec_agreement_two_requests :
    ∃ session, Session.completeAll [[4, 0, 236], [3, 10, 0, 240, 3, 10, 1, 97],
      [18, 1, 98]] Session.fresh =
        some session ∧
      session.calls.map (handlePacket clientPacketHandler.init sampleProtobuf) =
        [.handled .cRefreshLobby .cRefreshLobby, .handled .cJoinRoom (.cJoinRoom "a" "b")] := by
  have splits : packetFramer.Splits [[4, 0, 236, 3], [10, 0, 240, 3, 10, 1, 97, 18, 1, 98]].flatten
      [[4, 0, 236, 3], [10, 0, 240, 3, 10, 1, 97, 18, 1, 98]] [] :=
    Framer.splits_flatten rfl (by decide)
  have fitting : ∀ event ∈ [MakeEvent.spawn], SendBufferManager.Fitting event := by
    simp [SendBufferManager.Fitting]
  have ran : SendBufferManager.system.run [.spawn] SendBufferManager.fresh =
    some { SendBufferManager.fresh with threads := [⟨none, .idle⟩] } := rfl
  have idle : [MakeThread.mk none .idle][0]? = some ⟨none, .idle⟩ := rfl
  obtain ⟨last, buffers, encoded, decoded⟩ := codec_agreement .toServer sampleProtobuf
    [.cRefreshLobby, .cJoinRoom "a" "b"] (by decide) (by decide) (by decide) fitting ran idle
  refine decoded ?_ (Session.admits_of_lengths Session.fresh_reassembled splits (by decide))
  cases encoded
  rfl

end PacketHandler

end ChattingProgram.Protocol
