import Mathlib.Order.CompletePartialOrder
import Mathlib.Order.Interval.Set.Disjoint
import ChattingProgram.Core.Reassembly

namespace ChattingProgram.Core

open ChattingProgram.Data

/-! # The margins of the receive buffer

Between two completions less than one partition is unread, so at least a partition is free
when the next receive is registered; and `Clean` copies only when the read cursor is far
behind the bytes that it copies.
-/

namespace RecvBuffer

/-- Whenever `Clean` copies, the source of its `memcpy` and the destination do not overlap. -/
def CopiesApart (self : RecvBuffer) : Prop :=
  self.dataSize ≠ 0 → self.freeSize < self.bufferSize →
    Disjoint (Set.Ico self.readPos (self.readPos + self.dataSize)) (Set.Ico 0 self.dataSize)

/-- Two partitions of unread bytes and free space leave the rest of the buffer in front. -/
theorem copiesApart_of_room {self : RecvBuffer}
    (room : 2 * self.dataSize + self.bufferSize ≤ self.capacity) : self.CopiesApart := by
  intro _ full
  have ordered := self.ordered
  have within := self.within
  rw [Set.Ico_disjoint_Ico]
  simp only [dataSize, freeSize] at *
  omega

end RecvBuffer

namespace Session

/-- The outstanding receive can complete with these bytes, with none if the peer has closed. -/
def Takes (self : Session) (bytes : List UInt8) : Prop :=
  self.recvPending = true ∧ bytes.length ≤ self.recvBuffer.freeSize

/-- Every completion of the list is one that the session takes at that point. -/
def TakesAll : List (List UInt8) → Session → Prop
  | [], _ => True
  | bytes :: rest, self =>
      self.Takes bytes ∧ ∀ next, self.complete bytes = some next → TakesAll rest next

/-- The buffer that `ProcessRecv` hands to `Clean`, if it comes so far. -/
def cleaned (self : Session) (bytes : List UInt8) : Option RecvBuffer :=
  if room : bytes.length ≤ self.recvBuffer.freeSize then
    ((self.recvBuffer.fill bytes room).onWrite bytes.length).bind fun written =>
      (packetOnRecv written.data).bind fun result => written.onRead result.1.toNat
  else none

structure Margins (session : Session) : Prop where
  ordered : session.recvBuffer.readPos ≤ session.recvBuffer.writePos
  within : session.recvBuffer.writePos ≤ session.recvBuffer.capacity
  written : session.cause ≠ some .onWriteOverflow
  read : session.cause ≠ some .onReadOverflow
  remaining : session.recvBuffer.dataSize ≤ 65534
  room : bufferSize ≤ session.recvBuffer.freeSize

theorem Reassembled.margins {self : Session} (reassembled : self.Reassembled received)
    (undisturbed : self.cause = none) : self.Margins where
  ordered := self.recvBuffer.ordered
  within := self.recvBuffer.within
  written := by simp [undisturbed]
  read := by simp [undisturbed]
  remaining := by
    rw [← RecvBuffer.length_data]
    exact incomplete_length reassembled.splits.rest_incomplete
  room := reassembled.room

/-- A completion after which the session is still connected has come to `Clean`. -/
theorem complete_cleaned {self : Session} (completed : self.complete bytes = some next)
    (connected : self.connected = true) (remains : next.connected = true) :
    next.cause = self.cause ∧ ∃ read, self.cleaned bytes = some read ∧
      next.recvBuffer = read.clean := by
  unfold complete at completed
  split at completed
  · rename_i room
    simp only [processRecv] at completed
    split at completed
    · cases completed
      simp [disconnect, connected] at remains
    · split at completed
      · cases completed
        simp [disconnect, connected] at remains
      · rename_i written wrote
        obtain ⟨⟨processLen, calls⟩, looped, rfl⟩ := Option.map_eq_some_iff.mp completed
        dsimp only at remains ⊢
        split
        · rename_i outside
          simp [disconnect, connected, outside] at remains
        · split
          · rename_i inside _ overflow
            simp [disconnect, connected, inside, overflow] at remains
          · rename_i read advanced
            refine ⟨by simp [registerRecv, connected], read, ?_, by simp [registerRecv, connected]⟩
            simp only [cleaned, room, ↓reduceDIte, wrote, Option.bind_some, looped, advanced]
  · contradiction

/-- What `Clean` is given after a completion of a stream without empty frames. -/
theorem Reassembled.cleans {self : Session} (before : self.Reassembled received)
    (offered : self.Offers bytes) (splits : packetFramer.Splits (received ++ bytes) frames rest) :
    ∃ next read, self.complete bytes = some next ∧ next.Reassembled (received ++ bytes) ∧
      next.cause = self.cause ∧ self.cleaned bytes = some read ∧ next.recvBuffer = read.clean ∧
        read.CopiesApart := by
  obtain ⟨next, completed, after⟩ := complete_reassembled before offered splits
  obtain ⟨cause, read, handed, became⟩ :=
    complete_cleaned completed before.connected after.connected
  refine ⟨next, read, completed, after, cause, handed, became, RecvBuffer.copiesApart_of_room ?_⟩
  have capacity := after.capacity
  have partition := after.partition
  have remaining := incomplete_length after.splits.rest_incomplete
  rw [became, RecvBuffer.clean_capacity] at capacity
  rw [became, RecvBuffer.clean_bufferSize] at partition
  rw [became, RecvBuffer.clean_data, RecvBuffer.length_data] at remaining
  rw [capacity, partition]
  simp only [bufferSize, bufferCount]
  omega

/-- A session between two completions, or after the peer has closed. -/
def Receiving (session : Session) (received : List UInt8) : Prop :=
  session.Margins ∧ (session.recvPending = true → session.Reassembled received ∧
    session.cause = none)

theorem Reassembled.receiving {self : Session} (reassembled : self.Reassembled received)
    (undisturbed : self.cause = none) : self.Receiving received :=
  ⟨reassembled.margins undisturbed, fun _ => ⟨reassembled, undisturbed⟩⟩

/-- The completion that tells that the peer has closed. -/
theorem Reassembled.closes {self : Session} (before : self.Reassembled received)
    (undisturbed : self.cause = none) :
    ∃ next, self.complete [] = some next ∧ next.recvPending = false ∧ next.Margins := by
  have margins := before.margins undisturbed
  refine ⟨{ self with recvPending := false, connected := false, cause := some .recvZero }, ?_, rfl,
    ?_⟩
  · have same : self.recvBuffer.fill [] (Nat.zero_le _) = self.recvBuffer := by
      simp [RecvBuffer.fill, overwrite]
    simp [complete, processRecv, disconnect, before.connected, same]
  · exact ⟨margins.ordered, margins.within, by simp, by simp, margins.remaining, margins.room⟩

theorem completeAll_receiving {self : Session} (before : self.Reassembled received)
    (undisturbed : self.cause = none) (taken : TakesAll completions self)
    (splits : packetFramer.Splits (received ++ completions.flatten) frames rest) :
    ∃ final, completeAll completions self = some final ∧
      final.Receiving (received ++ completions.flatten) := by
  induction completions generalizing self received with
  | nil => exact ⟨self, rfl, by simpa using before.receiving undisturbed⟩
  | cons bytes remaining ih =>
      cases bytes with
      | nil =>
          obtain ⟨next, completed, stopped, margins⟩ := before.closes undisturbed
          -- nothing is received any more
          have last : remaining = [] := by
            cases remaining with
            | nil => rfl
            | cons later _ =>
                have pending := (taken.2 next completed).1.1
                rw [stopped] at pending
                contradiction
          subst last
          refine ⟨next, by rw [completeAll, completed]; rfl, margins, ?_⟩
          rw [stopped]
          intro pending
          contradiction
      | cons byte bytes =>
          rw [List.flatten_cons, ← List.append_assoc] at splits ⊢
          obtain ⟨_, _, _, earlySplits, _, _⟩ := splits.cut
          have offered : self.Offers (byte :: bytes) := ⟨taken.1.1, by simp, taken.1.2⟩
          obtain ⟨next, _, completed, after, cause, _⟩ := before.cleans offered earlySplits
          obtain ⟨final, finished, receiving⟩ :=
            ih after (cause.trans undisturbed) (taken.2 next completed) splits
          exact ⟨final, by rw [completeAll, completed]; exact finished, receiving⟩

/-- Every state that completions of a stream without empty frames lead to keeps the margins,
and the next completion leads `Clean` to copy only between ranges that do not overlap. -/
theorem receive_never_jams (completions : List (List UInt8))
    (nonzero : packetFramer.Advances completions.flatten) (taken : TakesAll completions fresh) :
    ∃ session, completeAll completions fresh = some session ∧ session.Margins ∧
      ∀ bytes, session.Takes bytes → bytes ≠ [] →
        packetFramer.Advances (completions.flatten ++ bytes) →
        ∃ next read, session.complete bytes = some next ∧ session.cleaned bytes = some read ∧
          next.recvBuffer = read.clean ∧ read.CopiesApart := by
  obtain ⟨session, completed, margins, continues⟩ :=
    completeAll_receiving fresh_reassembled rfl taken
    (by simpa using Framer.splits_split nonzero)
  refine ⟨session, completed, margins, ?_⟩
  intro bytes takes nonempty nonzeroNext
  obtain ⟨reassembled, _⟩ := continues takes.1
  rw [List.nil_append] at reassembled
  have offered : session.Offers bytes := ⟨takes.1, List.length_pos_of_ne_nil nonempty, takes.2⟩
  obtain ⟨next, read, finished, _, _, handed, became, apart⟩ :=
    reassembled.cleans offered (Framer.splits_split nonzeroNext)
  exact ⟨next, read, finished, handed, became, apart⟩

theorem takesAll_of_admits (admitted : Admits completions self) : TakesAll completions self := by
  induction completions generalizing self with
  | nil => trivial
  | cons bytes rest ih =>
      refine ⟨⟨admitted.1.1, admitted.1.2.2⟩, ?_⟩
      intro next completed
      exact ih (admitted.2 next completed)

/-- A packet cut inside its header. -/
theorem receive_never_jams_cut_header :
    TakesAll [[4, 0, 236], [3, 9]] fresh ∧
      ∃ session, completeAll [[4, 0, 236], [3, 9]] fresh = some session ∧ session.Margins := by
  have nonzero : packetFramer.Advances [4, 0, 236, 3, 9] :=
    .frame (show _ = some 4 by decide) (by decide) (.stop (by decide))
  have taken : TakesAll [[4, 0, 236], [3, 9]] fresh :=
    takesAll_of_admits (admits_of_lengths fresh_reassembled
      (Framer.splits_split nonzero) (by decide))
  obtain ⟨session, completed, margins, _⟩ := receive_never_jams [[4, 0, 236], [3, 9]] nonzero taken
  exact ⟨taken, session, completed, margins⟩

end Session

end ChattingProgram.Core
