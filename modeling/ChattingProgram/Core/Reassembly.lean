import ChattingProgram.Core.PacketSession

namespace ChattingProgram.Core

open ChattingProgram.Data

namespace Session

/-! # Stream reassembly

After the bytes `received` have arrived, in whatever completions, the packets
delivered so far and the unread bytes are the reference split of `received`.
One completion keeps this (`complete_reassembled`), so every list of completions
does.
-/

structure Reassembled (session : Session) (received : List UInt8) : Prop where
  connected : session.connected = true
  pending : session.recvPending = true
  capacity : session.recvBuffer.capacity = bufferSize * bufferCount
  partition : session.recvBuffer.bufferSize = bufferSize
  splits : packetFramer.Splits received (session.calls.map PacketCall.packet)
    session.recvBuffer.data
  formed : ∀ call ∈ session.calls, call.Formed
  room : bufferSize ≤ session.recvBuffer.freeSize

theorem fresh_reassembled : fresh.Reassembled [] where
  connected := rfl
  pending := rfl
  capacity := rfl
  partition := rfl
  splits := by
    have empty : fresh.recvBuffer.data = [] := window_zero _ _
    rw [empty]
    exact .stop rfl
  formed := by simp [fresh, registerRecv]
  room := by decide

/-- A completion that the session offered is processed to its end, as long as
the bytes received up to it contain no empty frame. -/
theorem complete_reassembled {self : Session} (before : self.Reassembled received)
    (offered : self.Offers bytes) (splits : packetFramer.Splits (received ++ bytes) frames rest) :
    ∃ next, self.complete bytes = some next ∧ next.Reassembled (received ++ bytes) := by
  obtain ⟨_, nonempty, room⟩ := offered
  obtain ⟨early, tail, later, earlySplits, laterSplits, _⟩ := splits.cut
  obtain ⟨_, sameTail⟩ := before.splits.unique earlySplits
  rw [← sameTail] at laterSplits
  obtain ⟨written, wrote, contents, capacity, partition⟩ := RecvBuffer.fill_onWrite room
  rw [← contents] at laterSplits
  obtain ⟨processLen, calls, looped, packets, formed, stopped, inside⟩ := onRecv_splits laterSplits
  rw [RecvBuffer.length_data] at inside
  obtain ⟨read, advanced, unread, readCapacity, readPartition⟩ := RecvBuffer.onRead_some inside
  have leftover : read.data = rest := unread.trans stopped
  have positive : bytes.length ≠ 0 := by omega
  have valid : ¬ ((processLen : Int) < 0 ∨ (written.dataSize : Int) < processLen) := by omega
  refine ⟨{ self with
      recvBuffer := read.clean, calls := self.calls ++ calls, recvPending := true }, ?_, ?_⟩
  · simp only [complete, room, ↓reduceDIte, processRecv, positive, if_false, wrote, packetOnRecv,
      looped, Option.map_some, valid, Int.toNat_natCast, advanced, registerRecv, before.connected,
      if_true]
  · have unreadSize : read.dataSize ≤ 65534 := by
      rw [← RecvBuffer.length_data, leftover]
      exact incomplete_length laterSplits.rest_incomplete
    exact {
      connected := before.connected
      pending := rfl
      capacity := by
        rw [RecvBuffer.clean_capacity, readCapacity, capacity, before.capacity]
      partition := by
        rw [RecvBuffer.clean_bufferSize, readPartition, partition, before.partition]
      splits := by
        rw [List.map_append, packets, RecvBuffer.clean_data, leftover]
        rw [contents] at laterSplits
        exact before.splits.append laterSplits
      formed := by
        intro call member
        rcases List.mem_append.mp member with old | new
        · exact before.formed call old
        · exact formed call new
      room := by
        have size := readPartition.trans (partition.trans before.partition)
        have space := readCapacity.trans (capacity.trans before.capacity)
        have free := RecvBuffer.clean_freeSize read (by
          rw [size, space]
          simp only [bufferSize, bufferCount]
          omega)
        rwa [size] at free }

theorem completeAll_reassembled {self : Session} (before : self.Reassembled received)
    (admitted : Admits completions self)
    (splits : packetFramer.Splits (received ++ completions.flatten) frames rest) :
    ∃ final, completeAll completions self = some final ∧
      final.Reassembled (received ++ completions.flatten) := by
  induction completions generalizing self received with
  | nil => exact ⟨self, rfl, by simpa using before⟩
  | cons bytes remaining ih =>
      rw [List.flatten_cons, ← List.append_assoc] at splits ⊢
      obtain ⟨early, tail, later, earlySplits, _, _⟩ := splits.cut
      obtain ⟨next, completed, after⟩ := complete_reassembled before admitted.1 earlySplits
      obtain ⟨final, finished, reassembled⟩ := ih after (admitted.2 next completed) splits
      exact ⟨final, by rw [completeAll, completed]; exact finished, reassembled⟩

/-- Completions of at most one partition are always on offer. -/
theorem admits_of_lengths {self : Session} {completions : List (List UInt8)}
    (before : self.Reassembled received)
    (splits : packetFramer.Splits (received ++ completions.flatten) frames rest)
    (lengths : ∀ bytes ∈ completions, 1 ≤ bytes.length ∧ bytes.length ≤ bufferSize) :
    Admits completions self := by
  induction completions generalizing self received with
  | nil => trivial
  | cons bytes remaining ih =>
      obtain ⟨nonempty, small⟩ := lengths bytes (by simp)
      have offered : self.Offers bytes :=
        ⟨before.pending, nonempty, Nat.le_trans small before.room⟩
      rw [List.flatten_cons, ← List.append_assoc] at splits
      obtain ⟨early, tail, later, earlySplits, _, _⟩ := splits.cut
      obtain ⟨next, completed, after⟩ := complete_reassembled before offered earlySplits
      refine ⟨offered, ?_⟩
      intro other otherCompleted
      cases completed.symm.trans otherCompleted
      exact ih after splits (fun bytes member => lengths bytes (by simp [member]))

/-- The frames delivered and the bytes kept do not depend on how the stream was
cut into completions, and every completion is processed to its end. -/
theorem reassembly_exact (completions : List (List UInt8))
    (nonzero : packetFramer.Advances completions.flatten)
    (admitted : Admits completions fresh) :
    ∃ final, completeAll completions fresh = some final ∧
      final.calls.map PacketCall.packet = (packetFramer.split completions.flatten).1 ∧
      final.recvBuffer.data = (packetFramer.split completions.flatten).2 := by
  have splits := Framer.splits_split nonzero
  obtain ⟨final, finished, reassembled⟩ := completeAll_reassembled fresh_reassembled admitted
    (by simpa using splits)
  have finalSplits := reassembled.splits
  rw [List.nil_append] at finalSplits
  obtain ⟨packets, rest⟩ := finalSplits.unique splits
  exact ⟨final, finished, packets, rest⟩

/-- Two packets and one stray byte, cut across both boundaries. -/
theorem reassembly_exact_across_boundaries :
    ∃ final, completeAll [[5, 0, 232], [3, 7, 4, 0], [245, 3, 9]] fresh = some final ∧
      final.calls.map PacketCall.packet = [[5, 0, 232, 3, 7], [4, 0, 245, 3]] ∧
      final.recvBuffer.data = [9] := by
  have nonzero : packetFramer.Advances [5, 0, 232, 3, 7, 4, 0, 245, 3, 9] :=
    .frame (show _ = some 5 by decide) (by decide)
      (.frame (show _ = some 4 by decide) (by decide) (.stop (by decide)))
  exact reassembly_exact [[5, 0, 232], [3, 7, 4, 0], [245, 3, 9]] nonzero
    (admits_of_lengths fresh_reassembled (Framer.splits_split nonzero) (by decide))

end Session

end ChattingProgram.Core
