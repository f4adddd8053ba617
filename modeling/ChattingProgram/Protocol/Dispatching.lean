import ChattingProgram.Core.RecvCalls
import ChattingProgram.Protocol.PacketHandler

namespace ChattingProgram.Protocol

open ChattingProgram.Core ChattingProgram.Data

/-! # Dispatch of arbitrary streams

What `HandlePacket` does with the packets that the framing loop cuts from any
bytes whatever.
-/

/-- The index is inside `GPacketHandler`, the handler there is set, and
`ParseFromArray` is given no negative length. -/
def Dispatch.Safe : Dispatch → Prop
  | .outOfBounds | .noHandler | .negativeSize .. => False
  | .invald | .parseFailed _ | .handled .. => True

instance : DecidablePred Dispatch.Safe
  | .outOfBounds | .noHandler | .negativeSize .. => .isFalse fun safe => safe
  | .invald | .parseFailed _ | .handled .. => .isTrue trivial

namespace PacketHandler

/-- A header that `HandlePacket` can deal with: of id 0, or of a registered id and with a
size that covers the header. -/
def Addressed (self : PacketHandler) (header : PacketHeader) : Prop :=
  header.id = 0 ∨ (headerSize ≤ header.size.toNat ∧ ∃ type ∈ self.handlers, type.pktId = header.id)

instance (self : PacketHandler) (header : PacketHeader) : Decidable (self.Addressed header) :=
  inferInstanceAs (Decidable (_ ∨ _))

theorem iterate_assign (elsewhere : index ≠ 0) :
    ((assign · 0 .invald)^[turns] table) index = table index := by
  induction turns generalizing table with
  | zero => rfl
  | succ turns ih =>
      rw [Function.iterate_succ_apply, ih]
      exact Function.update_of_ne elsewhere ..

theorem iterate_assign_zero (turns : Nat) (table : PacketTable) :
    ((assign · 0 .invald)^[turns + 1] table) 0 = some .invald := by
  rw [Function.iterate_succ_apply']
  exact Function.update_self ..

theorem foldl_register_of_ne {handlers : List PacketType}
    (unknown : ∀ type ∈ handlers, type.pktId.toNat ≠ index) :
    handlers.foldl register table index = table index := by
  induction handlers generalizing table with
  | nil => rfl
  | cons head rest ih =>
      rw [List.foldl_cons, ih fun type member => unknown type (by simp [member])]
      exact Function.update_of_ne (unknown head (by simp)).symm ..

theorem pktId_ne_zero (type : PacketType) : type.pktId.toNat ≠ 0 := by
  cases type <;> decide

theorem init_zero (self : PacketHandler) : self.init 0 = some .invald :=
  (foldl_register_of_ne fun type _ => pktId_ne_zero type).trans (iterate_assign_zero 65534 _)

theorem init_unknown {self : PacketHandler} (other : index ≠ 0)
    (unknown : ∀ type ∈ self.handlers, type.pktId.toNat ≠ index) : self.init index = none :=
  (foldl_register_of_ne unknown).trans (iterate_assign other)

theorem safe_of_registered {call : PacketCall} {type : PacketType}
    (known : table type.pktId.toNat = some (.process type))
    (addressed : type.pktId = (PacketHeader.read call.buffer).id) :
    (handlePacket table proto call).Safe ↔ headerSize ≤ call.len := by
  have bound := pktId_lt_tableSize type
  simp only [handlePacket, ← addressed, bound, if_true, known]
  by_cases short : call.len < headerSize
  · simp only [short, if_true, Dispatch.Safe, false_iff]
    omega
  · simp only [short, if_false]
    refine ⟨fun _ => by omega, fun _ => ?_⟩
    split <;> trivial

theorem handlePacket_zero {self : PacketHandler} {call : PacketCall}
    (zero : (PacketHeader.read call.buffer).id = 0) :
    handlePacket self.init proto call = .invald := by
  have bound : (0 : UInt16).toNat < tableSize := by decide
  have entry : self.init (0 : UInt16).toNat = some .invald := init_zero self
  simp only [handlePacket, zero, bound, if_true, entry]

theorem safe_iff_addressed {self : PacketHandler} {call : PacketCall} (formed : call.Formed) :
    (handlePacket self.init proto call).Safe ↔ self.Addressed (PacketHeader.read call.buffer) := by
  have size := formed.size_eq
  by_cases zero : (PacketHeader.read call.buffer).id = 0
  · rw [handlePacket_zero zero]
    exact ⟨fun _ => .inl zero, fun _ => trivial⟩
  · by_cases registered : ∃ type ∈ self.handlers, type.pktId = (PacketHeader.read call.buffer).id
    · obtain ⟨type, member, addressed⟩ := registered
      rw [safe_of_registered (init_handles member) addressed, ← size]
      simp only [Addressed, zero, false_or]
      exact ⟨fun covered => ⟨covered, type, member, addressed⟩, fun covered => covered.1⟩
    · have unknown : self.init (PacketHeader.read call.buffer).id.toNat = none := by
        refine init_unknown (fun same => zero (UInt16.toNat_inj.mp same)) ?_
        intro type member same
        exact registered ⟨type, member, UInt16.toNat_inj.mp same⟩
      simp only [Addressed, zero, registered, and_false, or_self, iff_false, handlePacket, unknown]
      split <;> exact not_false

/-- For any bytes, cut into completions in any way: every `HandlePacket` call is safe and
sends an id without a handler of its own to `Handle_INVALD` if and only if every header at a
boundary of the stream is addressed. -/
theorem dispatch_safe_iff (direction : Direction) (proto : Protobuf)
    (completions : List (List UInt8)) (admitted : Session.Admits completions Session.fresh) :
    (∀ turns, ∀ call ∈ Session.callsMade turns completions Session.fresh,
      (handlePacket direction.receiver.init proto call).Safe ∧
        ((∀ type ∈ direction.receiver.handlers, type.pktId ≠ (PacketHeader.read call.buffer).id) →
          handlePacket direction.receiver.init proto call = .invald)) ↔
      ∀ found, packetFramer.Meets completions.flatten found →
        direction.receiver.Addressed (PacketHeader.read found) := by
  have start : Session.fresh.recvBuffer.data = [] := window_zero _ _
  constructor
  · intro sound found meets
    have whole : packetFramer.Meets (Session.fresh.recvBuffer.data ++ completions.flatten)
        found := by
      rwa [start]
    obtain ⟨turns, call, more, made, rfl⟩ :=
      Session.call_of_meets Session.fresh_reassembled admitted whole
    obtain ⟨formed, _⟩ := Session.meets_of_call Session.fresh_reassembled admitted made
    rw [PacketHeader.read_append more (formed.header_present)]
    exact (safe_iff_addressed formed).mp (sound turns call made).1
  · intro addressed turns call made
    obtain ⟨formed, more, meets⟩ := Session.meets_of_call Session.fresh_reassembled admitted made
    rw [start] at meets
    have header := addressed _ meets
    rw [PacketHeader.read_append more (formed.header_present)] at header
    refine ⟨(safe_iff_addressed formed).mpr header, fun unknown => ?_⟩
    rcases header with zero | ⟨_, type, member, same⟩
    · exact handlePacket_zero zero
    · exact absurd same (unknown type member)

/-- A request for the list of rooms and a packet of id 0, cut inside the second header. -/
theorem dispatch_safe_two_packets :
    Session.Admits [[4, 0, 236, 3, 4], [0, 0, 0]] Session.fresh ∧
      ∀ turns, ∀ call ∈ Session.callsMade turns [[4, 0, 236, 3, 4], [0, 0, 0]] Session.fresh,
        (handlePacket clientPacketHandler.init sampleProtobuf call).Safe := by
  have splits : packetFramer.Splits [[4, 0, 236, 3], [4, 0, 0, 0]].flatten
      [[4, 0, 236, 3], [4, 0, 0, 0]] [] :=
    Framer.splits_flatten rfl (by decide)
  have admitted : Session.Admits [[4, 0, 236, 3, 4], [0, 0, 0]] Session.fresh :=
    Session.admits_of_lengths Session.fresh_reassembled splits (by decide)
  have addressed : ∀ found, packetFramer.Meets [4, 0, 236, 3, 4, 0, 0, 0] found →
      clientPacketHandler.Addressed (PacketHeader.read found) := by
    intro found meets
    cases meets with
    | here _ => decide
    | later first meets =>
        cases (show packetFramer.frameSize [4, 0, 236, 3, 4, 0, 0, 0] =
          some 4 by decide).symm.trans first
        cases meets with
        | here _ => decide
        | later second meets =>
            cases (show packetFramer.frameSize [4, 0, 0, 0] = some 4 by decide).symm.trans second
            cases meets with
            | here none | later none => contradiction
  refine ⟨admitted, ?_⟩
  intro turns call made
  exact ((dispatch_safe_iff .toServer sampleProtobuf _ admitted).mpr addressed turns call made).1

/-- Three packets that a client can send: an id behind the end of the table, an id for
which `Init` sets no handler, and a size that does not cover the header. -/
theorem dispatch_unsafe :
    (∃ turns, ∃ call ∈ Session.callsMade turns [[4, 0, 255, 255]] Session.fresh,
      handlePacket clientPacketHandler.init sampleProtobuf call = .outOfBounds) ∧
    (∃ turns, ∃ call ∈ Session.callsMade turns [[4, 0, 1, 0]] Session.fresh,
      handlePacket clientPacketHandler.init sampleProtobuf call = .noHandler) ∧
    ∃ turns, ∃ call ∈ Session.callsMade turns [[0, 0, 232, 3]] Session.fresh,
      handlePacket clientPacketHandler.init sampleProtobuf call = .negativeSize .cLogin (-4) := by
  have start : Session.fresh.recvBuffer.data = [] := window_zero _ _
  have received : ∀ {bytes : List UInt8} {size : Nat}, bytes.length = 4 →
      packetFramer.frameSize bytes = some size →
      ∃ turns, ⟨bytes, size⟩ ∈ Session.callsMade turns [bytes] Session.fresh := by
    intro bytes size length complete
    have offered : Session.fresh.Offers bytes :=
      ⟨rfl, by omega, Nat.le_trans (by rw [length]; decide) Session.fresh_reassembled.room⟩
    refine Session.call_of_first [] offered ?_ complete
    rw [start]
    exact .here complete
  have unknown : clientPacketHandler.init 1 = none := init_unknown (by decide) (by decide)
  have known : clientPacketHandler.init PacketType.cLogin.pktId.toNat = some (.process .cLogin) :=
    init_handles (by decide)
  rw [show PacketType.cLogin.pktId.toNat = 1000 from rfl] at known
  refine ⟨?_, ?_, ?_⟩
  · obtain ⟨turns, made⟩ := received rfl (show packetFramer.frameSize [4, 0, 255, 255] =
      some 4 by decide)
    exact ⟨turns, _, made, rfl⟩
  · obtain ⟨turns, made⟩ := received rfl
      (show packetFramer.frameSize [4, 0, 1, 0] = some 4 by decide)
    have header : PacketHeader.read [4, 0, 1, 0] = ⟨4, 1⟩ := by decide
    refine ⟨turns, _, made, ?_⟩
    simp only [handlePacket, header, show (1 : UInt16).toNat = 1 from rfl, unknown,
      show 1 < tableSize by decide, if_true]
  · obtain ⟨turns, made⟩ := received rfl
      (show packetFramer.frameSize [0, 0, 232, 3] = some 0 by decide)
    have header : PacketHeader.read [0, 0, 232, 3] = ⟨0, 1000⟩ := by decide
    refine ⟨turns, _, made, ?_⟩
    simp only [handlePacket, header, show (1000 : UInt16).toNat = 1000 from rfl, known,
      show 1000 < tableSize by decide, show 0 < headerSize by decide, if_true]
    rfl

end PacketHandler

end ChattingProgram.Protocol
