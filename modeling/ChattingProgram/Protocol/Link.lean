import ChattingProgram.Core.SendPipeline
import ChattingProgram.Protocol.Wire

namespace ChattingProgram.Protocol

open ChattingProgram.Core ChattingProgram.Data ChattingProgram.Machine PacketHandler

/-! # One direction of a connection

The send pipeline of one end and the receive path of the other.  TCP carries the
bytes of the batches given to `WSASend`, in order; the receiver has seen a first
part of this stream, in pieces of any size.
-/

/-- A message for which `MakeSendBuffer` returns a buffer and which protobuf reads back. -/
structure Letter (direction : Direction) (proto : Protobuf) where
  message : Message
  sendable : message.type ∈ direction.sender.overloads
  fits : (packet proto message).Fits
  roundTrip : proto.parseFromArray message.type (proto.serializeToArray message) =
    some ⟨message, rfl⟩

structure Link (direction : Direction) (proto : Protobuf) where
  sender : SendState (Letter direction proto)
  receiver : Session
  -- the number of bytes of the stream that have been received
  arrived : Nat

inductive LinkEvent (direction : Direction) (proto : Protobuf) where
  | send (event : SendEvent (Letter direction proto))
  /-- The outstanding `WSARecv` completes with so many bytes. -/
  | arrive (len : Nat)

namespace Link

variable {direction : Direction} {proto : Protobuf}

def frameOf (letter : Letter direction proto) : List UInt8 := frame proto letter.message

def stream (self : Link direction proto) : List UInt8 :=
  (self.sender.handed.flatten.map frameOf).flatten

/-- What `HandlePacket` does with the packets received. -/
def dispatched (self : Link direction proto) : List Dispatch :=
  self.receiver.calls.map (handlePacket direction.receiver.init proto)

def handled (letter : Letter direction proto) : Dispatch :=
  .handled letter.message.type letter.message

def fresh : Link direction proto := ⟨.fresh, .fresh, 0⟩

def step : LinkEvent direction proto → Link direction proto → Option (Link direction proto)
  | .send event, self =>
      (SendState.step event self.sender).map fun sender => { self with sender := sender }
  | .arrive len, self =>
      if 1 ≤ len ∧ self.arrived + len ≤ self.stream.length ∧
          len ≤ self.receiver.recvBuffer.freeSize then
        (self.receiver.complete ((self.stream.drop self.arrived).take len)).map fun receiver =>
          { self with receiver := receiver, arrived := self.arrived + len }
      else none

def system : System (Link direction proto) (LinkEvent direction proto) := ⟨step⟩

/-- No `WSASend` fails at once. -/
def Succeeds : LinkEvent direction proto → Prop
  | .send event => SendState.Succeeds event
  | .arrive _ => True

/-- What has arrived is some of the frames, and a first part of the next. -/
theorem cut_stream (self : Link direction proto) (len : Nat) :
    ∃ first later rest, self.sender.handed.flatten = first ++ later ∧
      packetFramer.Splits (self.stream.take len) (first.map frameOf) rest ∧
      packetFramer.Splits (rest ++ self.stream.drop len) (later.map frameOf) [] := by
  have whole : packetFramer.Splits self.stream (self.sender.handed.flatten.map frameOf) [] := by
    refine Framer.splits_flatten rfl ?_
    intro bytes member
    obtain ⟨letter, _, rfl⟩ := List.mem_map.mp member
    exact frame_complete letter.fits
  rw [← List.take_append_drop len self.stream] at whole
  obtain ⟨early, rest, late, splits, remaining, framed⟩ := whole.cut
  obtain ⟨first, later, letters, rfl, rfl⟩ := List.map_eq_append_iff.mp framed
  exact ⟨first, later, rest, letters, splits, remaining⟩

/-- The receiver has reassembled what has arrived. -/
structure Intact (link : Link direction proto) : Prop where
  pipeline : link.sender.Pipeline
  within : link.arrived ≤ link.stream.length
  reassembled : link.receiver.Reassembled (link.stream.take link.arrived)

variable {self after : Link direction proto}

theorem step_handed {Buffer : Type} {event : SendEvent Buffer} {sender next : SendState Buffer}
    (stepped : SendState.step event sender = some next) : sender.handed <+: next.handed := by
  cases event with
  | run thread =>
      -- only the call of `WSASend` adds a batch
      obtain ⟨pc, _, advanced⟩ := Option.bind_eq_some_iff.mp stepped
      cases pc
      all_goals simp only [SendState.advance] at advanced
      all_goals repeat' split at advanced
      all_goals cases advanced
      all_goals simp [SendState.goto]
  | _ =>
      simp only [SendState.step] at stepped
      repeat' split at stepped
      all_goals cases stepped
      all_goals exact List.prefix_rfl

/-- A completion that the receiver offers is processed to its end. -/
theorem Intact.arrives (intact : self.Intact)
    (offered : 1 ≤ len ∧
      self.arrived + len ≤ self.stream.length ∧ len ≤ self.receiver.recvBuffer.freeSize) :
    ∃ receiver, self.receiver.complete ((self.stream.drop self.arrived).take len) = some receiver ∧
      receiver.Reassembled (self.stream.take (self.arrived + len)) := by
  have length : ((self.stream.drop self.arrived).take len).length = len := by
    rw [List.length_take, List.length_drop]
    omega
  obtain ⟨_, _, _, _, splits, _⟩ := self.cut_stream (self.arrived + len)
  rw [List.take_add] at splits ⊢
  refine Session.complete_reassembled intact.reassembled ⟨intact.reassembled.pending, ?_⟩ splits
  rw [length]
  exact ⟨offered.1, offered.2.2⟩

theorem step_intact (succeeds : Succeeds event) (stepped : system.step event self = some after)
    (intact : self.Intact) : after.Intact := by
  cases event with
  | send event =>
      obtain ⟨sender, moved, rfl⟩ := Option.map_eq_some_iff.mp stepped
      obtain ⟨more, handed⟩ := step_handed moved
      have grows : stream { self with sender := sender } =
          self.stream ++ (more.flatten.map frameOf).flatten := by
        simp [stream, ← handed]
      refine ⟨SendState.step_pipeline succeeds moved intact.pipeline, ?_, ?_⟩
      · rw [grows, List.length_append]
        exact Nat.le_add_right_of_le intact.within
      · rw [grows, List.take_append_of_le_length intact.within]
        exact intact.reassembled
  | arrive len =>
      simp only [system, step] at stepped
      split at stepped
      · rename_i offered
        obtain ⟨receiver, completed, rfl⟩ := Option.map_eq_some_iff.mp stepped
        obtain ⟨_, processed, reassembled⟩ := intact.arrives offered
        cases processed.symm.trans completed
        exact ⟨intact.pipeline, offered.2.1, reassembled⟩
      · contradiction

theorem run_intact (succeed : ∀ event ∈ events, Succeeds event)
    (ran : system.run events fresh = some self) : self.Intact := by
  have guarded : system.Guarded (fun event _ => Succeeds event) events
      (fresh : Link direction proto) :=
    System.guarded_of_forall succeed
  have start : (fresh : Link direction proto).Intact :=
    ⟨SendState.fresh_pipeline, Nat.le_refl 0, Session.fresh_reassembled⟩
  exact System.run_preserves_guarded step_intact guarded ran start

/-- What has been sent can be received in pieces of any size that the buffer has room for. -/
theorem Intact.arrives_all (intact : self.Intact) (pieces : List Nat)
    (sizes : ∀ len ∈ pieces, 1 ≤ len ∧ len ≤ Session.bufferSize)
    (sent : self.arrived + pieces.sum ≤ self.stream.length) :
    ∃ receiver, system.run (pieces.map .arrive) self =
      some { self with receiver := receiver, arrived := self.arrived + pieces.sum } := by
  induction pieces generalizing self with
  | nil => exact ⟨self.receiver, rfl⟩
  | cons len rest ih =>
      rw [List.sum_cons] at sent
      obtain ⟨positive, small⟩ := sizes len (by simp)
      have offered : 1 ≤ len ∧ self.arrived + len ≤ self.stream.length ∧
          len ≤ self.receiver.recvBuffer.freeSize :=
        ⟨positive, by omega, small.trans intact.reassembled.room⟩
      obtain ⟨receiver, completed, _⟩ := intact.arrives offered
      have stepped : system.step (.arrive len) self =
          some { self with receiver := receiver, arrived := self.arrived + len } := by
        simp only [system, step, offered, and_self, if_true, completed, Option.map_some]
      have succeeds : Succeeds (LinkEvent.arrive len : LinkEvent direction proto) := trivial
      obtain ⟨last, ran⟩ := ih (step_intact succeeds stepped intact)
        (fun other member => sizes other (by simp [member]))
        (by simpa [stream, Nat.add_assoc] using sent)
      refine ⟨last, System.run_cons_some.mpr ⟨_, stepped, ?_⟩⟩
      simpa [Nat.add_assoc] using ran

/-- The messages dispatched are the first ones that were handed over. -/
theorem Intact.dispatched_prefix (intact : self.Intact) :
    ∃ first later, self.sender.handed.flatten = first ++ later ∧
      self.dispatched = first.map handled ∧
      (self.arrived = self.stream.length → later = []) := by
  obtain ⟨first, later, rest, letters, splits, remaining⟩ := self.cut_stream self.arrived
  refine ⟨first, later, letters, ?_, ?_⟩
  · have delivered : self.receiver.calls.map PacketCall.packet =
        (first.map Letter.message).map (frame proto) := by
      rw [(intact.reassembled.splits.unique splits).1, List.map_map]
      rfl
    rw [dispatched, calls_handled ?_ ?_ delivered intact.reassembled.formed, List.map_map]
    · rfl
    all_goals
      intro message member
      obtain ⟨letter, _, rfl⟩ := List.mem_map.mp member
    · exact letter.roundTrip
    · exact direction.overloads_handled letter.sendable
  · intro all
    rw [all, List.drop_length, List.append_nil] at remaining
    exact List.map_eq_nil_iff.mp (remaining.unique (.stop splits.rest_incomplete)).1

/-- A connection is a queue of messages: those dispatched at one end are the first of those that
`Send` has accepted at the other, whatever has been sent can be received, and in the end all are. -/
theorem link_fifo {events : List (LinkEvent direction proto)}
    (succeed : ∀ event ∈ events, Succeeds event) (ran : system.run events fresh = some self) :
    self.dispatched <+: self.sender.pushed.map handled ∧
      (∀ len, 1 ≤ len → self.arrived + len ≤ self.stream.length →
        len ≤ self.receiver.recvBuffer.freeSize →
        ∃ after, system.step (.arrive len) self = some after) ∧
      (self.sender.connected = true → (∀ pc ∈ self.sender.threads, pc = .returned) →
        self.sender.outstanding = [] →
        self.arrived = self.stream.length → self.dispatched = self.sender.pushed.map handled) := by
  have intact := run_intact succeed ran
  obtain ⟨first, later, letters, dispatched, complete⟩ := intact.dispatched_prefix
  have ledger := intact.pipeline.ledger
  rw [letters] at ledger
  refine ⟨?_, ?_, ?_⟩
  · rw [dispatched, ← ledger]
    simp [List.append_assoc]
  · intro len positive sent room
    obtain ⟨receiver, completed, _⟩ := intact.arrives ⟨positive, sent, room⟩
    refine ⟨{ self with receiver := receiver, arrived := self.arrived + len }, ?_⟩
    simp only [system, step, positive, sent, room, and_self, if_true, completed, Option.map_some]
  · intro connected returned idle all
    have queue : self.sender.sendQueue = [] := by
      by_contra queued
      exact intact.pipeline.no_lost_wakeup connected queued returned idle
    have transit : self.sender.inTransit = [] := intact.pipeline.inTransit_nil fun inLock member =>
      absurd (returned _ member) (by simp)
    rw [dispatched, ← ledger, queue, transit, complete all]
    simp

theorem run_send {sender : SendState (Letter direction proto)}
    (ran : SendState.system.run events sender = some next) (receiver : Session) (arrived : Nat) :
    system.run (events.map .send) ⟨sender, receiver, arrived⟩ = some ⟨next, receiver, arrived⟩ := by
  induction events generalizing sender with
  | nil =>
      cases ran
      rfl
  | cons event rest ih =>
      obtain ⟨middle, stepped, remaining⟩ := System.run_cons_some.mp ran
      have moved : step (.send event) ⟨sender, receiver, arrived⟩ =
          some ⟨middle, receiver, arrived⟩ :=
        Option.map_eq_some_iff.mpr ⟨middle, stepped, rfl⟩
      exact System.run_cons_some.mpr ⟨_, moved, ih remaining⟩

/-- Two calls of `Send`: the second pushes while the first batch is being sent. -/
def sendTwo {Buffer : Type} (first second : Buffer) : List (SendEvent Buffer) :=
  [.call first, .call second] ++ List.replicate 6 (.run 0) ++ [.run 1, .run 1, .complete 0 1] ++
    List.replicate 9 (.run 2) ++ .complete 0 1 :: List.replicate 4 (.run 3)

theorem run_sendTwo {Buffer : Type} (first second : Buffer) :
    SendState.system.run (sendTwo first second) .fresh = some ⟨true, [], false, none, false, [], [],
      [.returned, .returned, .returned, .returned], [first, second], [[first], [second]]⟩ := by
  refine System.run_append_some.mpr ⟨⟨true, [], true, none, true, [second], [[second]],
    [.returned, .returned, .returned], [first, second], [[first], [second]]⟩, ?_, rfl⟩
  refine System.run_append_some.mpr ⟨⟨true, [second], true, none, true, [first], [],
    [.returned, .returned, .process 1], [first, second], [[first]]⟩, ?_, rfl⟩
  exact System.run_append_some.mpr ⟨⟨true, [], true, none, true, [first], [[first]],
    [.returned, .send second], [first], [[first]]⟩, rfl, rfl⟩

/-- Two requests that arrive in three pieces. -/
theorem link_fifo_two_requests :
    let proto := generated (parseKnown [.cLogin "a" "p", .cChatLog "a" "r" "hi"])
    ∃ (first second : Letter .toServer proto) (self : Link .toServer proto),
      system.run ((sendTwo first second).map .send ++ [3, 9, 12].map .arrive) fresh = some self ∧
      self.sender.handed = [[first], [second]] ∧
      self.dispatched = [.handled .cLogin (.cLogin "a" "p"),
          .handled .cChatLog (.cChatLog "a" "r" "hi")] := by
  intro proto
  let login : Letter .toServer proto := ⟨.cLogin "a"
    "p", by decide, by unfold Packet.Fits; decide, by decide⟩
  let chat : Letter .toServer proto := ⟨.cChatLog "a" "r"
    "hi", by decide, by unfold Packet.Fits; decide, by decide⟩
  have sent := run_send (run_sendTwo login chat) .fresh 0
  have sends : ∀ event ∈ (sendTwo login chat).map (LinkEvent.send : _ → LinkEvent .toServer proto),
      Succeeds event := by
    simp [sendTwo, Succeeds, SendState.Succeeds]
  obtain ⟨receiver, received⟩ := (run_intact sends sent).arrives_all [3, 9, 12]
    (by decide) (by decide)
  have whole := System.run_append_some.mpr ⟨_, sent, received⟩
  obtain ⟨_, _, delivers⟩ := link_fifo (by simp [sendTwo, Succeeds, SendState.Succeeds]) whole
  exact ⟨login, chat, _, whole, rfl, delivers rfl (by simp) rfl rfl⟩

end Link

end ChattingProgram.Protocol
