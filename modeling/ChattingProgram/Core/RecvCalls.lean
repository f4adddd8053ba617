import ChattingProgram.Core.Reassembly

namespace ChattingProgram.Core

open ChattingProgram.Data

/-! # The calls of the framing loop

`OnRecv` calls `OnRecvPacket` once for every boundary its walk over the stream
meets, also where the walk stands still for ever.  A call is made with the bytes
that have arrived by then.
-/

/-- The calls that the loop makes in its first turns, whether or not it returns. -/
def onRecvCalls : Nat → List UInt8 → Nat → List PacketCall
  | 0, _, _ => []
  | turns + 1, buffer, processLen =>
      match onRecvTurn buffer processLen with
      | none => []
      | some call => call :: onRecvCalls turns buffer (processLen + call.len)

/-- Once the loop has returned, more turns make no more calls. -/
theorem onRecvLoop_calls (looped : onRecvLoop fuel buffer processLen = some (final, calls))
    (enough : fuel ≤ turns) : onRecvCalls turns buffer processLen = calls := by
  induction fuel generalizing turns processLen final calls with
  | zero => simp [onRecvLoop] at looped
  | succ fuel ih =>
      obtain ⟨turns, rfl⟩ : ∃ fewer, turns = fewer + 1 := ⟨turns - 1, by omega⟩
      simp only [onRecvLoop, onRecvCalls] at looped ⊢
      cases turned : onRecvTurn buffer processLen with
      | none =>
          simp only [turned, Option.some.injEq, Prod.mk.injEq] at looped ⊢
          exact looped.2
      | some call =>
          simp only [turned] at looped ⊢
          obtain ⟨⟨last, later⟩, continued, same⟩ := Option.map_eq_some_iff.mp looped
          simp only [Prod.mk.injEq] at same
          rw [← same.2, ih continued (by omega)]

theorem onRecvLoop_splits_of_some (looped : onRecvLoop fuel buffer processLen = some result) :
    ∃ frames rest, packetFramer.Splits (buffer.drop processLen) frames rest := by
  induction fuel generalizing processLen result with
  | zero => simp [onRecvLoop] at looped
  | succ fuel ih =>
      simp only [onRecvLoop, onRecvTurn_eq] at looped
      cases complete : packetFramer.frameSize (buffer.drop processLen) with
      | none => exact ⟨[], _, .stop complete⟩
      | some size =>
          simp only [complete, Option.map_some] at looped
          obtain ⟨later, continued, _⟩ := Option.map_eq_some_iff.mp looped
          obtain ⟨frames, rest, splits⟩ := ih continued
          -- a frame of size 0 leaves the loop where it was
          rcases Nat.eq_zero_or_pos size with empty | positive
          · subst empty
            exact ⟨frames, rest, splits⟩
          · rw [← List.drop_drop] at splits
            exact ⟨_, rest, .frame complete positive splits⟩

theorem mem_onRecvCalls :
    (∃ turns, call ∈ onRecvCalls turns buffer processLen) ↔
      packetFramer.Meets (buffer.drop processLen) call.buffer ∧ call.Formed := by
  constructor
  · rintro ⟨turns, member⟩
    induction turns generalizing processLen with
    | zero => simp [onRecvCalls] at member
    | succ turns ih =>
        simp only [onRecvCalls, onRecvTurn_eq] at member
        cases complete : packetFramer.frameSize (buffer.drop processLen) with
        | none => simp [complete] at member
        | some size =>
            simp only [complete, Option.map_some, List.mem_cons] at member
            rcases member with rfl | later
            · exact ⟨.here complete, complete⟩
            · obtain ⟨meets, formed⟩ := ih later
              rw [← List.drop_drop] at meets
              exact ⟨.later complete meets, formed⟩
  · rintro ⟨meets, formed⟩
    generalize pending : buffer.drop processLen = input at meets
    generalize reached : call.buffer = found at meets
    induction meets generalizing processLen with
    | here complete =>
        subst reached
        have size := Option.some.inj (formed.symm.trans complete)
        refine ⟨1, ?_⟩
        simp only [onRecvCalls, onRecvTurn_eq, pending, complete, Option.map_some, List.mem_cons]
        exact .inl (by rw [← size])
    | later complete _ ih =>
        obtain ⟨turns, member⟩ := ih (by rw [← List.drop_drop, pending]) reached
        refine ⟨turns + 1, ?_⟩
        simp only [onRecvCalls, onRecvTurn_eq, pending, complete, Option.map_some, List.mem_cons]
        exact .inr member

theorem frameSize_of_meets (meets : packetFramer.Meets input found) :
    packetFramer.frameSize found = some (PacketHeader.read found).size.toNat := by
  obtain ⟨size, complete⟩ := meets.complete
  have formed : PacketCall.Formed ⟨found, size⟩ := complete
  rw [complete, formed.size_eq]

/-- The loop returns, and then inside of the buffer, exactly if no header that it comes to
announces a size of 0. -/
theorem onRecv_ends_iff (buffer : List UInt8) :
    (∃ turns processLen calls, onRecvLoop turns buffer 0 = some (processLen, calls) ∧
      processLen ≤ buffer.length) ↔
      ∀ found, packetFramer.Meets buffer found → (PacketHeader.read found).size ≠ 0 := by
  have empty : ∀ found, packetFramer.Meets buffer found →
      (packetFramer.frameSize found ≠ some 0 ↔ (PacketHeader.read found).size ≠ 0) := by
    intro found meets
    rw [frameSize_of_meets meets, ne_eq, Option.some.injEq, ne_eq, ← UInt16.toNat_inj]
    rfl
  constructor
  · rintro ⟨turns, processLen, calls, looped, _⟩ found meets
    obtain ⟨frames, rest, splits⟩ := onRecvLoop_splits_of_some looped
    exact (empty found meets).mp (splits.not_empty meets)
  · intro nonzero
    obtain ⟨frames, rest, splits⟩ := Framer.splits_iff.mpr fun found meets =>
      (empty found meets).mpr (nonzero found meets)
    obtain ⟨processLen, calls, looped, _, _, _, inside⟩ := onRecv_splits splits
    exact ⟨buffer.length + 1, processLen, calls, looped, inside⟩

/-- A header of the id 1000 and the size 0. -/
theorem onRecv_endless : ¬ ∃ turns result, onRecvLoop turns [0, 0, 232, 3] 0 = some result := by
  rintro ⟨turns, result, looped⟩
  obtain ⟨frames, rest, splits⟩ := onRecvLoop_splits_of_some looped
  exact splits.not_empty (.here (show packetFramer.frameSize [0, 0, 232, 3] = some 0 by decide))
    (by decide)

namespace Session

/-- The calls that `ProcessRecv` makes for one completion, in its first turns. -/
def receives (self : Session) (turns : Nat) (bytes : List UInt8) : List PacketCall :=
  if bytes = [] then []
  else if room : bytes.length ≤ self.recvBuffer.freeSize then
    match (self.recvBuffer.fill bytes room).onWrite bytes.length with
    | none => []
    | some written => onRecvCalls turns written.data 0
  else []

/-- The calls that completions lead to; a completion whose loop does not return is the
last one. -/
def callsMade (turns : Nat) : List (List UInt8) → Session → List PacketCall
  | [], _ => []
  | bytes :: rest, self =>
      self.receives turns bytes ++
        match self.complete bytes with
        | none => []
        | some next => callsMade turns rest next

@[simp] theorem disconnect_calls (self : Session) (cause : DisconnectCause) :
    (self.disconnect cause).calls = self.calls := by
  unfold disconnect
  split <;> rfl

@[simp] theorem registerRecv_calls (self : Session) : self.registerRecv.calls = self.calls := by
  unfold registerRecv
  split <;> rfl

theorem complete_calls {self : Session} (completed : self.complete bytes = some next) :
    ∃ bound, ∀ turns, bound ≤ turns → next.calls = self.calls ++ self.receives turns bytes := by
  unfold complete at completed
  split at completed
  · rename_i room
    by_cases empty : bytes = []
    · subst empty
      cases completed
      exact ⟨0, by simp [receives]⟩
    · have positive : bytes.length ≠ 0 := by simpa using empty
      simp only [processRecv, positive, if_false] at completed
      split at completed
      · cases completed
        rename_i overflow
        exact ⟨0, by simp [receives, empty, room, overflow]⟩
      · rename_i written wrote
        obtain ⟨⟨processLen, calls⟩, received, rfl⟩ := Option.map_eq_some_iff.mp completed
        obtain ⟨⟨final, made⟩, looped, same⟩ := Option.map_eq_some_iff.mp received
        simp only [Prod.mk.injEq] at same
        refine ⟨written.data.length + 1, fun turns enough => ?_⟩
        rw [receives, if_neg empty, dif_pos room]
        simp only [wrote, onRecvLoop_calls looped enough, same.2]
        split
        · simp
        · split <;> simp
  · contradiction

/-- The calls that a session has recorded are the calls made. -/
theorem completeAll_calls (completed : completeAll completions self = some final) :
    ∃ bound, ∀ turns, bound ≤ turns → final.calls =
      self.calls ++ callsMade turns completions self := by
  induction completions generalizing self with
  | nil =>
      cases completed
      exact ⟨0, by simp [callsMade]⟩
  | cons bytes rest ih =>
      obtain ⟨next, first, remaining⟩ := Option.bind_eq_some_iff.mp completed
      obtain ⟨early, made⟩ := complete_calls first
      obtain ⟨late, later⟩ := ih remaining
      refine ⟨max early late, fun turns enough => ?_⟩
      rw [later turns (by omega), made turns (by omega), List.append_assoc, callsMade, first]

theorem mem_receives {self : Session} (offered : self.Offers bytes) :
    (∃ turns, call ∈ self.receives turns bytes) ↔
      packetFramer.Meets (self.recvBuffer.data ++ bytes) call.buffer ∧ call.Formed := by
  obtain ⟨_, nonempty, room⟩ := offered
  obtain ⟨written, wrote, contents, _, _⟩ := RecvBuffer.fill_onWrite room
  have present : bytes ≠ [] := List.ne_nil_of_length_pos nonempty
  simp only [receives, present, if_false, room, ↓reduceDIte, wrote, mem_onRecvCalls,
    List.drop_zero, contents]

theorem Reassembled.not_meets {self : Session} (before : self.Reassembled received) :
    ¬ packetFramer.Meets self.recvBuffer.data found := by
  have incomplete := before.splits.rest_incomplete
  intro meets
  cases meets with
  | here complete => simp [incomplete] at complete
  | later complete => simp [incomplete] at complete

/-- A completion that is processed to its end leaves a session that carries on behind it. -/
theorem complete_continues {self : Session} (before : self.Reassembled received)
    (offered : self.Offers bytes) (completed : self.complete bytes = some next) :
    next.Reassembled (received ++ bytes) ∧
      ∃ frames, packetFramer.Splits (self.recvBuffer.data ++ bytes) frames next.recvBuffer.data :=
        by
  have room := offered.2.2
  have positive : bytes.length ≠ 0 := by have := offered.2.1; omega
  obtain ⟨written, wrote, contents, _, _⟩ := RecvBuffer.fill_onWrite room
  have ended : ∃ frames rest, packetFramer.Splits (self.recvBuffer.data ++ bytes) frames rest := by
    simp only [complete, room, ↓reduceDIte, processRecv, positive, if_false, wrote] at completed
    obtain ⟨result, loops, _⟩ := Option.map_eq_some_iff.mp completed
    obtain ⟨returned, looped, _⟩ := Option.map_eq_some_iff.mp loops
    have splits := onRecvLoop_splits_of_some looped
    rwa [contents] at splits
  obtain ⟨frames, rest, splits⟩ := ended
  obtain ⟨other, processed, reassembled⟩ :=
    complete_reassembled before offered (before.splits.append splits)
  cases processed.symm.trans completed
  have same := reassembled.splits.unique (before.splits.append splits)
  rw [same.2]
  exact ⟨reassembled, frames, splits⟩

theorem complete_returns {self : Session} (before : self.Reassembled received)
    (offered : self.Offers bytes)
    (splits : packetFramer.Splits (self.recvBuffer.data ++ bytes) frames rest) :
    ∃ next, self.complete bytes = some next ∧ next.recvBuffer.data = rest := by
  obtain ⟨next, completed, reassembled⟩ :=
    complete_reassembled before offered (before.splits.append splits)
  exact ⟨next, completed, (reassembled.splits.unique (before.splits.append splits)).2⟩

/-- `OnRecvPacket` is called at boundaries of the stream, however it is cut. -/
theorem meets_of_call {self : Session} (before : self.Reassembled received)
    (admitted : Admits completions self) (made : call ∈ callsMade turns completions self) :
    call.Formed ∧ ∃ more, packetFramer.Meets (self.recvBuffer.data ++ completions.flatten)
      (call.buffer ++ more) := by
  induction completions generalizing self received with
  | nil => simp [callsMade] at made
  | cons bytes rest ih =>
      rw [List.flatten_cons, ← List.append_assoc]
      rcases List.mem_append.mp made with now | later
      · obtain ⟨meets, formed⟩ := (mem_receives admitted.1).mp ⟨turns, now⟩
        exact ⟨formed, rest.flatten, meets.append rest.flatten⟩
      · cases completed : self.complete bytes with
        | none => simp [completed] at later
        | some next =>
            rw [completed] at later
            obtain ⟨after, frames, splits⟩ := complete_continues before admitted.1 completed
            obtain ⟨formed, more, meets⟩ := ih after (admitted.2 next completed) later
            exact ⟨formed, more, splits.meets meets⟩

theorem call_of_first {self : Session} (rest : List (List UInt8)) {call : PacketCall}
    (offered : self.Offers bytes)
    (meets : packetFramer.Meets (self.recvBuffer.data ++ bytes) call.buffer)
    (formed : call.Formed) : ∃ turns, call ∈ callsMade turns (bytes :: rest) self := by
  obtain ⟨turns, now⟩ := (mem_receives offered).mpr ⟨meets, formed⟩
  exact ⟨turns, List.mem_append.mpr (.inl now)⟩

/-- Every boundary of the stream leads to a call. -/
theorem call_of_meets {self : Session} (before : self.Reassembled received)
    (admitted : Admits completions self)
    (meets : packetFramer.Meets (self.recvBuffer.data ++ completions.flatten) found) :
    ∃ turns call more, call ∈ callsMade turns completions self ∧ found = call.buffer ++ more := by
  induction completions generalizing self received with
  | nil =>
      rw [List.flatten_nil, List.append_nil] at meets
      exact absurd meets before.not_meets
  | cons bytes rest ih =>
      rw [List.flatten_cons, ← List.append_assoc] at meets
      rcases meets.cut with ⟨early, inside, rfl⟩ | ⟨frames, tail, splits, behind⟩
      · obtain ⟨size, formed⟩ := inside.complete
        have announced : ∃ turns, ⟨early, size⟩ ∈ callsMade turns (bytes :: rest) self :=
          call_of_first rest admitted.1 inside formed
        obtain ⟨turns, now⟩ := announced
        exact ⟨turns, ⟨early, size⟩, rest.flatten, now, rfl⟩
      · obtain ⟨next, completed, unread⟩ := complete_returns before admitted.1 splits
        obtain ⟨after, _⟩ := complete_continues before admitted.1 completed
        rw [← unread] at behind
        obtain ⟨turns, call, more, later, same⟩ := ih after (admitted.2 next completed) behind
        refine ⟨turns, call, more, List.mem_append.mpr (.inr ?_), same⟩
        rw [completed]
        exact later

end Session

end ChattingProgram.Core
