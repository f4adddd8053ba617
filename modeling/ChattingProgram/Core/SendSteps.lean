import ChattingProgram.Core.SendOwnership

namespace ChattingProgram.Core

open ChattingProgram.Data ChattingProgram.Machine

/-! # The steps of `MakeSendBuffer`

Every step of every thread keeps the ownership of the chunks and the bytes of
the closed buffers, and a thread inside `MakeSendBuffer` can always go on.
-/

namespace SendBufferManager

section Steps

variable {self after : SendBufferManager} {index : Nat} {slot : Option Nat} {packet : Packet}
  {again : Bool}

theorem openSlot_owned (owned : self.Owned)
    (found : self.threads[index]? = some ⟨slot, .openSlot packet⟩)
    (stepped : self.advance index slot (.openSlot packet) = some after) : Continues self after := by
  obtain ⟨fits, _⟩ := owned.stands _ (List.mem_of_getElem? found)
  cases stepped
  refine ⟨owned.of_move self.pool _ found rfl ?_ owned.pooled ?_ ?_, .of_same rfl rfl⟩
  · intro chunk
    cases slot <;> simp [home, carried]
  · cases slot with
    | none => exact fits
    | some chunk => exact ⟨fits, chunk, rfl⟩
  · cases slot <;> simp [carried]

/-- A chunk that was never allocated before has no home and no reader. -/
theorem Owned.beyond (owned : self.Owned) :
    self.homes self.chunks.length = 0 ∧ Unread self.buffers self.chunks.length := by
  constructor
  · by_contra lives
    exact absurd (owned.valid _ (Nat.pos_of_ne_zero lives)) (lt_irrefl _)
  · intro buffer member referenced owner
    obtain ⟨chunk, lookup, _⟩ := owned.memory.inside buffer member referenced
    exact absurd (List.getElem?_eq_some_iff.mp lookup).1 (by omega)

theorem pop_new_owned (owned : self.Owned)
    (found : self.threads[index]? = some ⟨slot, .pop packet again⟩) (fits : packet.Fits)
    (popped : after = { self with chunks := self.chunks ++ [SendBufferChunk.new] }.put index
      ⟨slot, .assign packet again self.chunks.length⟩) :
    Continues self after := by
  obtain ⟨absent, unread⟩ := owned.beyond
  have threads : after.threads =
      self.threads.set index ⟨slot, .assign packet again self.chunks.length⟩ := by rw [popped]; rfl
  have kept : ∀ {chunk : Nat} {current : SendBufferChunk}, self.chunks[chunk]? = some current →
      after.chunks[chunk]? = some current := by
    intro chunk current lookup
    rw [popped]
    exact (List.getElem?_append_left (List.getElem?_eq_some_iff.mp lookup).1).trans lookup
  have counted : ∀ chunk, after.homes chunk =
      self.homes chunk + if self.chunks.length = chunk then 1 else 0 := by
    intro chunk
    have moved := homes_moved found threads chunk
    simp only [popped, put, home, carried, Option.some.injEq, reduceCtorEq, if_false] at moved ⊢
    omega
  have buffers : after.buffers = self.buffers := by rw [popped]; rfl
  constructor
  · refine owned.of_step found threads (by rw [popped]; exact owned.sound) ?_ ?_ ?_
      ⟨fun _ lookup => kept lookup, ?_, ?_⟩ fits ?_ ?_ ?_
    · intro chunk
      have single := owned.single chunk
      rw [counted]
      split
      · subst chunk
        omega
      · omega
    · intro chunk lives
      rw [counted] at lives
      have valid := owned.valid chunk
      simp only [popped, put, List.length_append, List.length_singleton]
      split at lives <;> omega
    · rw [buffers, popped]
      exact owned.pooled
    · rw [buffers]
      exact fun _ lookup _ => lookup
    · rw [buffers]
      exact fun _ quiet => quiet
    · intro chunk carries
      cases carries
      rw [buffers]
      exact unread
    · intro chunk current lookup isOpen
      right
      refine ⟨⟨current, ?_, isOpen⟩, by simp [building]⟩
      simp only [popped, put, List.getElem?_append] at lookup
      split at lookup
      · exact lookup
      · rw [List.mem_singleton.mp (List.mem_of_getElem? lookup)] at isOpen
        contradiction
    · rw [buffers, popped]
      exact owned.memory.append_chunk
  · refine ⟨by rw [buffers], ?_⟩
    intro place earlier later foundEarlier foundLater _ referenced
    rw [buffers, foundEarlier, Option.some.injEq] at foundLater
    subst foundLater
    obtain ⟨chunk, lookup, _⟩ := owned.memory.inside _
      (List.mem_of_getElem? foundEarlier) referenced
    exact ⟨rfl, by simp only [bytes, lookup, kept lookup]⟩

theorem pop_owned (owned : self.Owned)
    (found : self.threads[index]? = some ⟨slot, .pop packet again⟩)
    (stepped : self.advance index slot (.pop packet again) = some after) :
    Continues self after := by
  obtain ⟨fits, _⟩ := owned.stands _ (List.mem_of_getElem? found)
  simp only [advance] at stepped
  split at stepped
  · rename_i popped rest pool
    cases stepped
    have pooled := owned.pooled
    rw [pool] at pooled
    refine ⟨owned.of_move rest _ found rfl ?_ ?_ fits ?_, .of_same rfl rfl⟩
    · intro chunk
      simp only [pool, home, carried, List.count_cons, beq_iff_eq, Option.some.injEq,
        reduceCtorEq, if_false]
      omega
    · intro chunk member
      exact pooled chunk (List.mem_cons_of_mem popped member)
    · intro chunk carries
      cases carries
      exact pooled popped List.mem_cons_self
  · cases stepped
    exact pop_new_owned owned found fits rfl

/-- `use_count` 0 means that no `SendBuffer` refers to the chunk and no slot or
pool entry does. -/
theorem unread_of_useCount (unused : self.useCount chunk = 0) : Unread self.buffers chunk := by
  intro buffer member referenced owner
  have counted := weight_le_total (bufferReferences chunk) member
  simp only [bufferReferences, referenced, owner, and_self, if_true] at counted
  simp only [useCount] at unused
  omega

theorem assign_owned (owned : self.Owned)
    (found : self.threads[index]? = some ⟨slot, .assign packet again popped⟩)
    (stepped : self.advance index slot (.assign packet again popped) = some after) :
    Continues self after := by
  obtain ⟨fits, carries⟩ := owned.stands _ (List.mem_of_getElem? found)
  have unread : Unread self.buffers popped := carries popped rfl
  have moved : (self.put index ⟨some popped, .reset packet again⟩).Owned := by
    refine owned.of_move self.pool _ found rfl ?_ owned.pooled ⟨fits, popped, rfl, unread⟩
      (by simp [carried])
    intro chunk
    simp only [home, carried, Option.some.injEq, reduceCtorEq, if_false]
    omega
  simp only [advance] at stepped
  cases slot with
  | none =>
      cases stepped
      exact ⟨moved, .of_same rfl rfl⟩
  | some old =>
      simp only at stepped
      split at stepped
      · rename_i unused
        cases stepped
        have quiet := unread_of_useCount unused
        refine ⟨owned.of_move self.pool _ found rfl ?_ owned.pooled ⟨fits, popped, rfl, unread⟩ ?_,
          .of_same rfl rfl⟩
        · intro chunk
          simp only [home, carried, Option.some.injEq]
          omega
        · intro chunk carrying
          cases carrying
          exact quiet
      · cases stepped
        exact ⟨moved, .of_same rfl rfl⟩

/-- `PushGlobal` puts the chunk a thread carries into the pool. -/
theorem Owned.push (owned : self.Owned) (found : self.threads[index]? = some ⟨slot, pc⟩)
    (carrying : carried pc = some old) (resting : building pc = false)
    (arrived : carried next = none) (stands : self.Stands slot next) :
    ({ self with pool := old :: self.pool }.put index ⟨slot, next⟩).Owned := by
  obtain ⟨_, carries⟩ := owned.stands _ (List.mem_of_getElem? found)
  refine owned.of_move (old :: self.pool) _ found resting ?_ ?_ stands (by simp [arrived])
  · intro chunk
    simp only [home, carrying, arrived, List.count_cons, beq_iff_eq,
      Option.some.injEq, reduceCtorEq, if_false]
    omega
  · intro chunk member
    rcases List.mem_cons.mp member with rfl | pooled
    · exact carries chunk carrying
    · exact owned.pooled chunk pooled

theorem reset_owned (owned : self.Owned)
    (found : self.threads[index]? = some ⟨slot, .reset packet again⟩)
    (stepped : self.advance index slot (.reset packet again) = some after) :
    Continues self after := by
  obtain ⟨⟨fits, chunk, slotEq, unread⟩, _⟩ := owned.stands _ (List.mem_of_getElem? found)
  dsimp only at slotEq
  subst slotEq
  obtain ⟨current, lookup⟩ := owned.chunk_exists found (home_slot _ chunk rfl)
  simp only [advance, withChunk, Option.bind_some, lookup, Option.some.injEq] at stepped
  subst stepped
  have present := (List.getElem?_eq_some_iff.mp lookup).1
  constructor
  · refine owned.of_own found rfl (by cases again <;> rfl) (fun _ place _ => place)
      (fun _ quiet => quiet) ?_ (by simp [SendBufferChunk.reset]) ?_
    · cases again with
      | false => exact ⟨fits, chunk, rfl⟩
      | true =>
          refine ⟨fits, chunk, current.reset, rfl, List.getElem?_set_self present, ?_⟩
          have size := fits.packetSize_eq
          simp only [Packet.Fits] at fits
          simp only [SendBufferChunk.freeSize, SendBufferChunk.reset]
          omega
    · refine owned.memory.set_chunk (Nat.zero_le _) ?_
      intro buffer member referenced owner
      exact absurd owner (unread buffer member referenced)
  · refine Keeps.of_own lookup le_rfl ?_ (fun _ _ _ _ => rfl)
    intro place buffer later before after _ _
    exact Option.some.inj (before.symm.trans after)

theorem check_owned (owned : self.Owned) (found : self.threads[index]? = some ⟨slot, .check packet⟩)
    (stepped : self.advance index slot (.check packet) = some after) :
    Continues self after := by
  obtain ⟨⟨fits, chunk, slotEq⟩, _⟩ := owned.stands _ (List.mem_of_getElem? found)
  dsimp only at slotEq
  subst slotEq
  obtain ⟨current, lookup⟩ := owned.chunk_exists found (home_slot _ chunk rfl)
  have closed := owned.closed found rfl rfl lookup
  simp only [advance, withChunk, Option.bind_some, lookup, closed, Bool.false_eq_true, if_false,
    Option.some.injEq] at stepped
  subst stepped
  refine ⟨owned.of_move self.pool _ found rfl ?_ owned.pooled ?_ ?_, .of_same rfl rfl⟩
  · intro other
    split <;> simp [home, carried]
  · split
    · exact fits
    · rename_i room
      exact ⟨fits, chunk, current, rfl, lookup, Nat.le_of_not_lt room⟩
  · split <;> simp [carried]

theorem openChunk_owned (owned : self.Owned)
    (found : self.threads[index]? = some ⟨slot, .openChunk packet⟩)
    (stepped : self.advance index slot (.openChunk packet) = some after) :
    Continues self after := by
  obtain ⟨⟨fits, chunk, current, slotEq, lookup, room⟩, _⟩ :=
    owned.stands _ (List.mem_of_getElem? found)
  dsimp only at slotEq
  subst slotEq
  have closed := owned.closed found rfl rfl lookup
  have small : ¬ chunkSize < packet.packetSize := by
    have size := fits.packetSize_eq
    simp only [Packet.Fits] at fits
    omega
  simp only [advance, withChunk, Option.bind_some, lookup, closed, small,
    Bool.false_eq_true, if_false, Nat.not_lt.mpr room, Option.some.injEq] at stepped
  subst stepped
  have present := (List.getElem?_eq_some_iff.mp lookup).1
  have used := owned.memory.used current (List.mem_of_getElem? lookup)
  simp only [SendBufferChunk.freeSize] at room
  constructor
  · refine owned.of_own found rfl rfl ?_ ?_ ?_ (fun _ => rfl) ?_
    · intro place buffer _ lookup _
      exact (List.getElem?_append_left (List.getElem?_eq_some_iff.mp lookup).1).trans lookup
    · intro other different quiet buffer member referenced
      rcases List.mem_append.mp member with old | new
      · exact quiet buffer old referenced
      · rw [List.mem_singleton.mp new]
        exact different.symm
    · refine ⟨fits, chunk, _, rfl, List.getElem?_set_self present, ?_, rfl, ?_, rfl⟩
      · exact List.getElem?_concat_length
      · dsimp only
        omega
    · have covers := owned.memory.within lookup
      have opened : Memory (self.chunks.set chunk { current with isOpen := true }) self.buffers :=
        owned.memory.set_chunk used covers
      refine opened.append_buffer (List.getElem?_set_self present) ?_ ?_ <;> rfl
  · refine Keeps.of_own lookup (by simp) ?_ (fun _ _ _ _ => rfl)
    intro place buffer later before after _ _
    rw [List.getElem?_append_left (List.getElem?_eq_some_iff.mp before).1] at after
    exact Option.some.inj (before.symm.trans after)

/-- A store into the open buffer of a thread, right behind what is written. -/
theorem write_owned (owned : self.Owned) {block : List UInt8}
    (found : self.threads[index]? = some ⟨slot, pc⟩) (stays : carried pc = none)
    (stayed : carried next = none) (builder : building next = true)
    (builds : self.Builds slot packet buffer written)
    (room : written.length + block.length ≤ packet.packetSize)
    (stands : ∀ {later : SendBufferManager}, later.Builds slot packet buffer (written ++ block) →
      later.Stands slot next)
    (stepped : self.write buffer written.length block (·.put index ⟨slot, next⟩) = some after) :
    Continues self after := by
  obtain ⟨chunk, current, slotEq, lookup, target, isOpen, fits, contents⟩ := builds
  subst slotEq
  have small : current.usedSize + written.length + block.length ≤ chunkSize := by omega
  have within := small.trans_eq current.sized.symm
  simp only [write, target, lookup, Option.bind_some, Option.map_some, dif_pos small,
    Option.some.injEq] at stepped
  subst stepped
  have present := (List.getElem?_eq_some_iff.mp lookup).1
  constructor
  · refine owned.of_own found stays stayed (fun _ place _ => place)
      (fun _ quiet => quiet) (stands ?_) (fun _ => builder) ?_
    · refine ⟨chunk, _, rfl, List.getElem?_set_self present, target, isOpen, fits, ?_⟩
      rw [List.length_append]
      exact (window_overwrite_extend within).trans (by rw [contents])
    · have covers := owned.memory.within lookup
      exact owned.memory.set_chunk (owned.memory.used current (List.mem_of_getElem? lookup)) covers
  · refine Keeps.of_own lookup le_rfl ?_ ?_
    · intro place earlier later before after _ _
      exact Option.some.inj (before.symm.trans after)
    · intro other member referenced owner
      have bound := owned.memory.within lookup other member referenced owner
      exact window_overwrite_disjoint within (.inl (by omega))

theorem close_owned (owned : self.Owned)
    (found : self.threads[index]? = some ⟨slot, .close packet buffer⟩)
    (stepped : self.advance index slot (.close packet buffer) = some after) :
    Continues self after := by
  obtain ⟨⟨fits, chunk, current, slotEq, lookup, target, isOpen, room, _⟩, _⟩ :=
    owned.stands _ (List.mem_of_getElem? found)
  dsimp only at slotEq
  subst slotEq
  simp only [advance, target, lookup, isOpen, Option.bind_some, Option.map_some,
    lt_irrefl, if_false, Bool.true_eq_false, Option.some.injEq] at stepped
  subst stepped
  have present := (List.getElem?_eq_some_iff.mp lookup).1
  constructor
  · refine owned.of_own found rfl rfl ?_ ?_ trivial (by simp) ?_
    · intro place other different foundOther _
      refine (List.getElem?_set_ne ?_).trans foundOther
      rintro rfl
      rw [target, Option.some.injEq] at foundOther
      subst foundOther
      exact different rfl
    · intro other different quiet closed member referenced
      rcases List.mem_or_eq_of_mem_set member with old | rfl
      · exact quiet closed old referenced
      · exact different.symm
    · have grown : Memory (self.chunks.set chunk
          { current with isOpen := false, usedSize := current.usedSize + packet.packetSize })
          self.buffers := by
        refine owned.memory.set_chunk room ?_
        intro other member referenced owner
        have bound := owned.memory.within lookup other member referenced owner
        dsimp only
        omega
      refine grown.set_buffer ?_ ?_
      · intro _
        exact ⟨_, List.getElem?_set_self present, le_rfl⟩
      · intro place other different foundOther referenced _ owner
        exact .inl (owned.memory.within lookup other (List.mem_of_getElem? foundOther)
          referenced owner)
  · refine Keeps.of_own lookup (List.length_set ..).ge ?_ (fun _ _ _ _ => rfl)
    intro place earlier later before after closed _
    simp only [setChunk, setBuffer, List.getElem?_set] at after
    split at after
    · rename_i here
      rw [← here, target, Option.some.injEq] at before
      subst before
      contradiction
    · exact Option.some.inj (before.symm.trans after)

theorem advance_owned (owned : self.Owned) (found : self.threads[index]? = some thread)
    (stepped : self.advance index thread.slot thread.pc = some after) : Continues self after := by
  obtain ⟨slot, pc⟩ := thread
  obtain ⟨stands, _⟩ := owned.stands _ (List.mem_of_getElem? found)
  cases pc with
  | idle => cases stepped
  | openSlot packet => exact openSlot_owned owned found stepped
  | pop packet again => exact pop_owned owned found stepped
  | assign packet again popped => exact assign_owned owned found stepped
  | recycle packet again old =>
      cases stepped
      exact ⟨owned.push found rfl rfl rfl stands, .of_same rfl rfl⟩
  | reset packet again => exact reset_owned owned found stepped
  | check packet => exact check_owned owned found stepped
  | openChunk packet => exact openChunk_owned owned found stepped
  | header packet buffer =>
      obtain ⟨fits, builds⟩ := stands
      refine write_owned owned found rfl rfl rfl builds ?_ ?_ stepped
      · simp [fits.packetSize_eq]
      · intro later extended
        exact ⟨fits, extended⟩
  | serialize packet buffer =>
      obtain ⟨fits, builds⟩ := stands
      simp only [advance, fits.dataSize_eq, lt_irrefl, if_false] at stepped
      refine write_owned owned found rfl rfl rfl builds ?_ ?_ stepped
      · simp [fits.packetSize_eq, Nat.add_comm]
      · intro later extended
        exact ⟨fits, extended⟩
  | close packet buffer => exact close_owned owned found stepped
  | recycleReleased old =>
      cases stepped
      exact ⟨owned.push found rfl rfl rfl trivial, .of_same rfl rfl⟩

end Steps

/-! ## Releases -/

section Releases

variable {self : SendBufferManager} {index buffer chunk : Nat} {slot : Option Nat}
  {target : SendBuffer}

theorem drop_owned (owned : self.Owned) (foundBuffer : self.buffers[buffer]? = some target)
    (held : target.lifetime = .held) :
    Continues self (self.setBuffer buffer { target with lifetime := .dropped }) := by
  have unread : ∀ {chunk : Nat}, Unread self.buffers chunk →
      Unread (self.buffers.set buffer { target with lifetime := .dropped }) chunk := by
    intro chunk quiet other member referenced
    rcases List.mem_or_eq_of_mem_set member with old | rfl
    · exact quiet other old referenced
    · simp [SendBuffer.referenced] at referenced
  have undisturbed : Undisturbed none self
      (self.setBuffer buffer { target with lifetime := .dropped }) := by
    refine ⟨fun _ lookup => lookup, ?_, fun _ quiet => unread quiet⟩
    intro place other _ lookup building
    refine (List.getElem?_set_ne ?_).trans lookup
    rintro rfl
    rw [foundBuffer, Option.some.injEq] at lookup
    subst lookup
    simp [held] at building
  constructor
  · refine ⟨owned.sound, owned.single, owned.valid, ?_, ?_, owned.opened, ?_⟩
    · intro chunk member
      exact unread (owned.pooled chunk member)
    · intro thread member
      obtain ⟨stands, carries⟩ := owned.stands thread member
      exact ⟨stands.undisturbed undisturbed (by simp),
        fun chunk carrying => unread (carries chunk carrying)⟩
    · exact owned.memory.set_buffer (by simp [SendBuffer.referenced])
        (by simp [SendBuffer.referenced])
  · refine ⟨(List.length_set ..).ge, ?_⟩
    intro place earlier later foundEarlier foundLater _ referenced
    simp only [setBuffer, List.getElem?_set] at foundLater
    split at foundLater
    · split at foundLater
      · cases foundLater
        simp [SendBuffer.referenced] at referenced
      · contradiction
    · exact ⟨Option.some.inj (foundEarlier.symm.trans foundLater), rfl⟩

/-- A chunk that lost its last reference goes to the thread that runs its deleter. -/
theorem orphan_owned (owned : self.Owned) (found : self.threads[index]? = some ⟨slot, .idle⟩)
    (unused : self.useCount chunk = 0) (present : chunk < self.chunks.length)
    (uncarried : ∀ thread ∈ self.threads, carried thread.pc ≠ some chunk) :
    (self.put index ⟨slot, .recycleReleased chunk⟩).Owned := by
  have quiet := unread_of_useCount unused
  simp only [useCount, Nat.add_eq_zero_iff] at unused
  obtain ⟨⟨unpooled, unreferenced⟩, _⟩ := unused
  have homeless : total (home chunk) self.threads = 0 := by
    rw [total_eq_zero] at unreferenced ⊢
    intro thread member
    have slotless := unreferenced thread member
    simp only [threadReferences, Nat.add_eq_zero_iff] at slotless
    rw [home, slotless.1, if_neg (uncarried thread member)]
  have counted : ∀ other, (self.put index ⟨slot, .recycleReleased chunk⟩).homes other =
      self.homes other + if chunk = other then 1 else 0 := by
    intro other
    have moved := homes_moved found
      (show (self.put index ⟨slot, .recycleReleased chunk⟩).threads = _ from rfl) other
    simp only [put, home, carried, Option.some.injEq, reduceCtorEq, if_false] at moved ⊢
    omega
  refine owned.of_step found rfl owned.sound ?_ ?_ owned.pooled (.of_same _ rfl rfl) trivial
    ?_ ?_ owned.memory
  · intro other
    rw [counted]
    split
    · subst other
      simp [homes, unpooled, homeless]
    · exact owned.single other
  · intro other lives
    rw [counted] at lives
    split at lives
    · subst other
      exact present
    · exact owned.valid other lives
  · intro other carries
    cases carries
    exact quiet
  · intro other current lookup isOpen
    exact .inr ⟨⟨current, lookup, isOpen⟩, by simp [building]⟩

end Releases

/-! ## Runs -/

/-- Only packets that a chunk has room for are made. -/
def Fitting : MakeEvent → Prop
  | .make _ packet => packet.Fits
  | _ => True

section Runs

variable {self after : SendBufferManager}

theorem spawn_owned (owned : self.Owned) :
    { self with threads := self.threads ++ [MakeThread.mk none .idle] }.Owned := by
  have same : Undisturbed none self { self with
      threads := self.threads ++ [MakeThread.mk none .idle] } :=
    .of_same _ rfl rfl
  have homesSame : ∀ chunk,
      { self with threads := self.threads ++ [MakeThread.mk none .idle] }.homes chunk =
          self.homes chunk := by
    intro chunk
    simp [homes, home, carried]
  refine ⟨owned.sound, ?_, ?_, owned.pooled, ?_, ?_, owned.memory⟩
  · intro chunk
    exact (homesSame chunk).trans_le (owned.single chunk)
  · intro chunk lives
    exact owned.valid chunk (lives.trans_eq (homesSame chunk))
  · intro thread member
    rcases List.mem_append.mp member with old | new
    · obtain ⟨stands, carries⟩ := owned.stands thread old
      exact ⟨stands.undisturbed same (by simp), carries⟩
    · rw [List.mem_singleton.mp new]
      exact ⟨trivial, by simp [carried]⟩
  · intro chunk current lookup isOpen
    obtain ⟨thread, member, builds⟩ := owned.opened lookup isOpen
    exact ⟨thread, List.mem_append_left _ member, builds⟩

theorem release_owned (owned : self.Owned)
    (stepped : step (.release index buffer) self = some after) : Continues self after := by
  simp only [step, owned.sound, Option.isSome_none, Bool.false_eq_true, if_false] at stepped
  split at stepped
  · rename_i slot target found foundBuffer
    split at stepped
    · rename_i held
      obtain ⟨dropped, keeps⟩ := drop_owned owned foundBuffer held
      split at stepped
      · rename_i unused
        cases stepped
        have member := List.mem_of_getElem? foundBuffer
        have referenced : target.referenced = true := by simp [SendBuffer.referenced, held]
        obtain ⟨chunk, lookup, _⟩ := owned.memory.inside target member referenced
        have orphaned := orphan_owned dropped found unused (List.getElem?_eq_some_iff.mp lookup).1
          (fun thread place carrying =>
            (owned.stands thread place).2 target.owner carrying target member referenced rfl)
        exact ⟨orphaned, keeps.trans (.of_same rfl rfl)⟩
      · cases stepped
        exact ⟨dropped, keeps⟩
    · cases stepped
  · cases stepped

theorem step_owned (fitting : Fitting event) (stepped : step event self = some after)
    (owned : self.Owned) : Continues self after := by
  cases event with
  | spawn =>
      rw [step, if_neg (by simp [owned.sound])] at stepped
      cases stepped
      exact ⟨spawn_owned owned, .of_same rfl rfl⟩
  | make index packet =>
      rw [step, if_neg (by simp [owned.sound])] at stepped
      split at stepped
      · rename_i slot found
        cases stepped
        exact ⟨owned.of_move self.pool _ found rfl (by simp [home, carried]) owned.pooled fitting
          (by simp [carried]), .of_same rfl rfl⟩
      · cases stepped
  | run index =>
      simp only [step, owned.sound, Option.isSome_none, Bool.false_eq_true, if_false,
        Option.bind_eq_some_iff] at stepped
      obtain ⟨thread, found, advanced⟩ := stepped
      exact advance_owned owned found advanced
  | release index buffer => exact release_owned owned stepped

theorem run_owned (fitting : ∀ event ∈ events, Fitting event)
    (ran : system.run events self = some after) (owned : self.Owned) : Continues self after := by
  have guarded : system.Guarded (fun event _ => Fitting event) events self :=
    System.guarded_of_forall fitting
  refine System.run_preserves_guarded ?_ guarded ran ⟨owned, .of_same rfl rfl⟩
  intro event before next fits stepped earlier
  obtain ⟨ownedNext, keepsNext⟩ := step_owned fits stepped earlier.owned
  exact ⟨ownedNext, earlier.keeps.trans keepsNext⟩

end Runs

/-! ## One call

`MakeSendBuffer` of one thread, run to its end. -/

def making : MakePc → Option Packet
  | .idle | .recycleReleased _ => none
  | .openSlot packet | .pop packet _ | .assign packet _ _ | .recycle packet _ _ | .reset packet _
  | .check packet | .openChunk packet | .header packet _ | .serialize packet _ | .close packet _ =>
      some packet

/-- The steps a call takes at most before it returns. -/
def remaining : MakePc → Nat
  | .idle => 0
  | .close _ _ | .recycleReleased _ => 1
  | .serialize _ _ => 2
  | .header _ _ => 3
  | .openChunk _ => 4
  | .reset _ again => if again then 5 else 10
  | .recycle _ again _ => if again then 6 else 11
  | .assign _ again _ => if again then 7 else 12
  | .pop _ again => if again then 8 else 13
  | .check _ => 9
  | .openSlot _ => 14

/-- Runs a call until `Close` has returned its buffer. -/
def finish (thread : Nat) : Nat → SendBufferManager → Option (SendBufferManager × Nat)
  | 0, _ => none
  | fuel + 1, self =>
      match self.threads[thread]? with
      | some ⟨_, .close _ buffer⟩ => (step (.run thread) self).map fun next => (next, buffer)
      | _ => (step (.run thread) self).bind (finish thread fuel)

def makeSendBuffer (self : SendBufferManager) (thread : Nat) (packet : Packet) :
    Option (SendBufferManager × Nat) :=
  (step (.make thread packet) self).bind (finish thread (remaining (.openSlot packet)))

section Call

variable {self : SendBufferManager} {index : Nat} {slot : Option Nat} {packet : Packet}

theorem remaining_pos (busy : making pc = some packet) : 0 < remaining pc := by
  cases pc with
  | idle => simp [making] at busy
  | reset _ again | recycle _ again _ | assign _ again _ | pop _ again =>
      cases again <;> simp [remaining]
  | _ => simp [remaining]

/-- The thread moved on within its call. -/
def Moves (self after : SendBufferManager) (index : Nat) (pc : MakePc) : Prop :=
  ∃ slot next, after.threads = self.threads.set index ⟨slot, next⟩ ∧ making next = making pc ∧
    remaining next < remaining pc

theorem write_moves (skip : Nat) (block : List UInt8)
    (builds : self.Builds slot packet buffer written) (same : making next = making pc)
    (less : remaining next < remaining pc) :
    ∃ after, self.write buffer skip block (·.put index ⟨slot, next⟩) = some after ∧
      (after.crash = none → Moves self after index pc) := by
  obtain ⟨chunk, current, _, lookup, target, _⟩ := builds
  simp only [write, target, lookup, Option.bind_some, Option.map_some]
  refine ⟨_, rfl, ?_⟩
  split
  · intro _
    exact ⟨slot, next, rfl, same, less⟩
  · simp [crashed]

/-- A call that has not come to `Close` goes on, unless it crashes. -/
theorem advance_moves (owned : self.Owned) (found : self.threads[index]? = some ⟨slot, pc⟩)
    (busy : making pc = some packet) (unfinished : ∀ buffer, pc ≠ .close packet buffer) :
    ∃ after, self.advance index slot pc = some after ∧
      (after.crash = none → Moves self after index pc) := by
  obtain ⟨stands, _⟩ := owned.stands _ (List.mem_of_getElem? found)
  cases pc with
  | idle | recycleReleased _ => simp [making] at busy
  | openSlot packet =>
      refine ⟨_, rfl, fun _ => ?_⟩
      cases slot <;> exact ⟨_, _, rfl, rfl, by simp [remaining]⟩
  | pop packet again =>
      simp only [advance]
      split <;> exact ⟨_, rfl, fun _ => ⟨_, _, rfl, rfl, by cases again <;> simp [remaining]⟩⟩
  | assign packet again popped =>
      have moved : ∀ {next : MakePc}, making next = some packet →
          remaining next < remaining (.assign packet again popped) →
          Moves self (self.put index ⟨some popped, next⟩) index (.assign packet again popped) := by
        intro next same less
        exact ⟨_, _, rfl, same, less⟩
      simp only [advance]
      cases slot with
      | none => exact ⟨_, rfl, fun _ => moved rfl (by cases again <;> simp [remaining])⟩
      | some old =>
          dsimp only
          split <;> exact ⟨_, rfl, fun _ => moved rfl (by cases again <;> simp [remaining])⟩
  | recycle packet again old =>
      exact ⟨_, rfl, fun _ => ⟨_, _, rfl, rfl, by cases again <;> simp [remaining]⟩⟩
  | reset packet again =>
      obtain ⟨_, chunk, slotEq, _⟩ := stands
      dsimp only at slotEq
      subst slotEq
      obtain ⟨current, lookup⟩ := owned.chunk_exists found (home_slot _ chunk rfl)
      simp only [advance, withChunk, Option.bind_some, lookup]
      refine ⟨_, rfl, fun _ => ⟨_, _, rfl, ?_⟩⟩
      cases again <;> simp [making, remaining]
  | check packet =>
      obtain ⟨_, chunk, slotEq⟩ := stands
      dsimp only at slotEq
      subst slotEq
      obtain ⟨current, lookup⟩ := owned.chunk_exists found (home_slot _ chunk rfl)
      simp only [advance, withChunk, Option.bind_some, lookup]
      split
      · exact ⟨_, rfl, by simp [crashed]⟩
      · refine ⟨_, rfl, fun _ => ⟨_, _, rfl, ?_⟩⟩
        split <;> simp [making, remaining]
  | openChunk packet =>
      obtain ⟨_, chunk, current, slotEq, lookup, _⟩ := stands
      dsimp only at slotEq
      subst slotEq
      simp only [advance, withChunk, Option.bind_some, lookup]
      split
      · exact ⟨_, rfl, by simp [crashed]⟩
      · split
        · exact ⟨_, rfl, by simp [crashed]⟩
        · split
          · exact ⟨_, rfl, by simp [crashed]⟩
          · exact ⟨_, rfl, fun _ => ⟨_, _, rfl, rfl, by simp [remaining]⟩⟩
  | header packet buffer => exact write_moves _ _ stands.2 rfl (by simp [remaining])
  | serialize packet buffer =>
      simp only [advance, stands.1.dataSize_eq, lt_irrefl, if_false]
      exact write_moves _ _ stands.2 rfl (by simp [remaining])
  | close packet' buffer =>
      cases busy
      exact absurd rfl (unfinished buffer)

/-- `Close` hands out a buffer that holds the packet. -/
theorem close_returns (owned : self.Owned)
    (found : self.threads[index]? = some ⟨slot, .close packet buffer⟩) :
    ∃ after sent, self.advance index slot (.close packet buffer) = some after ∧
      after.threads = self.threads.set index ⟨slot, .idle⟩ ∧
      after.buffers[buffer]? = some sent ∧ sent.lifetime = .held ∧
      after.bytes sent = packet.header.bytes ++ packet.payload := by
  obtain ⟨⟨fits, chunk, current, slotEq, lookup, target, isOpen, room, contents⟩, _⟩ :=
    owned.stands _ (List.mem_of_getElem? found)
  dsimp only at slotEq
  subst slotEq
  have present := (List.getElem?_eq_some_iff.mp lookup).1
  have placed := (List.getElem?_eq_some_iff.mp target).1
  have size : packet.packetSize = (packet.header.bytes ++ packet.payload).length := by
    simp [fits.packetSize_eq, Nat.add_comm]
  simp only [advance, target, lookup, isOpen, Option.bind_some, Option.map_some,
    lt_irrefl, if_false, Bool.true_eq_false, Option.some.injEq]
  refine ⟨_, _, rfl, rfl, List.getElem?_set_self placed, rfl, ?_⟩
  simp only [bytes, put, setChunk, setBuffer, List.getElem?_set_self present, size, contents]

/-- Held buffers stay held. -/
def Retains (before after : SendBufferManager) : Prop :=
  ∀ (index : Nat) (buffer : SendBuffer), before.buffers[index]? = some buffer →
    buffer.lifetime = .held → after.buffers[index]? = some buffer

theorem Retains.of_same {before after : SendBufferManager}
    (buffers : after.buffers = before.buffers) : Retains before after := by
  intro index buffer found _
  rw [buffers, found]

theorem write_retains (stepped : self.write buffer skip block (·.put index next) = some after) :
    Retains self after := by
  simp only [write, Option.bind_eq_some_iff, Option.map_eq_some_iff] at stepped
  obtain ⟨target, _, chunk, _, rfl⟩ := stepped
  split
  · exact .of_same rfl
  · exact .of_same rfl

/-- No step of a call drops a buffer. -/
theorem advance_retains (owned : self.Owned) (found : self.threads[index]? = some ⟨slot, pc⟩)
    (stepped : self.advance index slot pc = some after) : Retains self after := by
  obtain ⟨stands, _⟩ := owned.stands _ (List.mem_of_getElem? found)
  cases pc with
  | idle => cases stepped
  | openSlot _ | recycle _ _ _ | recycleReleased _ =>
      cases stepped
      exact .of_same rfl
  | pop packet again =>
      simp only [advance] at stepped
      split at stepped <;> cases stepped <;> exact .of_same rfl
  | assign packet again popped =>
      simp only [advance] at stepped
      cases slot with
      | none =>
          cases stepped
          exact .of_same rfl
      | some old =>
          dsimp only at stepped
          split at stepped <;> cases stepped <;> exact .of_same rfl
  | reset packet again =>
      simp only [advance, withChunk, Option.bind_eq_some_iff] at stepped
      obtain ⟨chunk, _, current, _, cleared⟩ := stepped
      cases cleared
      exact .of_same rfl
  | check packet =>
      simp only [advance, withChunk, Option.bind_eq_some_iff] at stepped
      obtain ⟨chunk, _, current, _, checked⟩ := stepped
      split at checked <;> cases checked <;> exact .of_same rfl
  | openChunk packet =>
      simp only [advance, withChunk, Option.bind_eq_some_iff] at stepped
      obtain ⟨chunk, _, current, _, opened⟩ := stepped
      split at opened
      · cases opened
        exact .of_same rfl
      · split at opened
        · cases opened
          exact .of_same rfl
        · split at opened
          · cases opened
            exact .of_same rfl
          · cases opened
            intro place buffer placed _
            exact (List.getElem?_append_left (List.getElem?_eq_some_iff.mp placed).1).trans placed
  | header packet buffer => exact write_retains stepped
  | serialize packet buffer =>
      simp only [advance] at stepped
      split at stepped
      · cases stepped
        exact .of_same rfl
      · exact write_retains stepped
  | close packet buffer =>
      obtain ⟨_, chunk, current, _, lookup, target, isOpen, _⟩ := stands
      simp only [advance, target, lookup, isOpen, Option.bind_some, Option.map_some,
        lt_irrefl, if_false, Bool.true_eq_false, Option.some.injEq] at stepped
      subst stepped
      intro place other placed held
      refine (List.getElem?_set_ne ?_).trans placed
      rintro rfl
      rw [target, Option.some.injEq] at placed
      subst placed
      simp at held

/-- From every state of a run a thread can run its call to the end, and gets a
buffer that holds its packet. -/
theorem finish_returns (owned : self.Owned) (found : self.threads[index]? = some ⟨slot, pc⟩)
    (busy : making pc = some packet) (enough : remaining pc ≤ fuel) :
    ∃ after buffer sent final, finish index fuel self = some (after, buffer) ∧
      Continues self after ∧
      Retains self after ∧ after.threads = self.threads.set index ⟨final, .idle⟩ ∧
        after.buffers[buffer]? = some sent ∧
      sent.lifetime = .held ∧ after.bytes sent = packet.header.bytes ++ packet.payload := by
  induction fuel generalizing self slot pc with
  | zero => exact absurd (remaining_pos busy) (by omega)
  | succ fuel ih =>
      have ran : ∀ {after}, self.advance index slot pc = some after →
          step (.run index) self = some after := by
        intro after advanced
        rw [step, if_neg (by simp [owned.sound]), found]
        exact advanced
      by_cases closing : ∃ buffer, pc = .close packet buffer
      · obtain ⟨buffer, rfl⟩ := closing
        obtain ⟨after, sent, advanced, threads, placed, held, contents⟩ := close_returns owned found
        refine ⟨after, buffer, sent, slot, ?_, advance_owned owned found advanced,
          advance_retains owned found advanced, threads, placed, held, contents⟩
        rw [finish, found, ran advanced]
        rfl
      · obtain ⟨after, advanced, moves⟩ := advance_moves owned found busy
          (fun buffer same => closing ⟨buffer, same⟩)
        have continued := advance_owned owned found advanced
        obtain ⟨slot', next, threads, same, less⟩ := moves continued.owned.sound
        have foundNext : after.threads[index]? = some ⟨slot', next⟩ := by
          rw [threads]
          exact List.getElem?_set_self (List.getElem?_eq_some_iff.mp found).1
        have retained := advance_retains owned found advanced
        obtain ⟨last, buffer, sent, final, finished, continues, retains, lastThreads, rest⟩ :=
          ih continued.owned foundNext (same.trans busy) (by omega)
        refine ⟨last, buffer, sent, final, ?_,
          ⟨continues.owned, continued.keeps.trans continues.keeps⟩,
          fun place other placed held =>
            retains place other (retained place other placed held) held, ?_, rest⟩
        · rw [finish, ran advanced, found]
          cases pc <;> first | exact finished | skip
          cases busy
          exact absurd ⟨_, rfl⟩ closing
        · rw [lastThreads, threads, List.set_set]

theorem makeSendBuffer_returns (owned : self.Owned)
    (found : self.threads[index]? = some ⟨slot, .idle⟩) (fits : packet.Fits) :
    ∃ after buffer sent final, self.makeSendBuffer index packet = some (after, buffer) ∧
      Continues self after ∧ Retains self after ∧
        after.threads = self.threads.set index ⟨final, .idle⟩ ∧
      after.buffers[buffer]? = some sent ∧ sent.lifetime = .held ∧
      after.bytes sent = packet.header.bytes ++ packet.payload := by
  have called : step (.make index packet) self =
      some (self.put index ⟨slot, .openSlot packet⟩) := by
    rw [step, if_neg (by simp [owned.sound]), found]
  have fitting : Fitting (.make index packet) := fits
  have continued := step_owned fitting called owned
  have foundNext : (self.put index ⟨slot, .openSlot packet⟩).threads[index]? =
      some ⟨slot, .openSlot packet⟩ := List.getElem?_set_self (List.getElem?_eq_some_iff.mp found).1
  obtain ⟨last, buffer, sent, final, finished, continues, retains, threads, rest⟩ :=
    finish_returns continued.owned foundNext rfl le_rfl
  refine ⟨last, buffer, sent, final, ?_,
    ⟨continues.owned, continued.keeps.trans continues.keeps⟩, retains, ?_, rest⟩
  · rw [makeSendBuffer, called]
    exact finished
  · rw [threads]
    exact List.set_set ..

end Call

/-! ## A packet that does not fit -/

section Refuse

variable {self after : SendBufferManager} {index : Nat} {slot : Option Nat} {packet : Packet}

/-- The call has not come to `Close`, where it would return. -/
def Unreturned (self : SendBufferManager) (index : Nat) (packet : Packet) : Prop :=
  ∃ slot pc, self.threads[index]? = some ⟨slot, pc⟩ ∧ making pc = some packet ∧
    ∀ buffer, pc ≠ .close packet buffer

theorem Unreturned.put (present : index < self.threads.length) (busy : making next = some packet)
    (unfinished : ∀ buffer, next ≠ .close packet buffer) :
    (self.put index ⟨slot, next⟩).Unreturned index packet :=
  ⟨slot, next, List.getElem?_set_self present, busy, unfinished⟩

end Refuse

/-- A thread inside a call, or with a chunk to recycle, is never stuck. -/
theorem step_enabled {self : SendBufferManager} (owned : self.Owned)
    (found : self.threads[index]? = some ⟨slot, pc⟩) (busy : pc ≠ .idle) :
    ∃ after, step (.run index) self = some after := by
  simp only [step, owned.sound, Option.isSome_none, Bool.false_eq_true, if_false, found,
    Option.bind_some]
  cases making_pc : making pc with
  | none =>
      cases pc <;> simp [making] at making_pc busy
      exact ⟨_, rfl⟩
  | some packet =>
      by_cases closing : ∃ buffer, pc = .close packet buffer
      · obtain ⟨buffer, rfl⟩ := closing
        obtain ⟨after, _, advanced, _⟩ := close_returns owned found
        exact ⟨after, advanced⟩
      · obtain ⟨after, advanced, _⟩ := advance_moves owned found making_pc
          (fun buffer same => closing ⟨buffer, same⟩)
        exact ⟨after, advanced⟩

/-- In every interleaving of calls and releases the referenced buffers lie in
their chunks without overlap, a chunk is reset only when nothing refers to it, no
call crashes or gets stuck, and from every state on the bytes of a closed buffer
stay what they are for as long as it is referenced. -/
theorem unsent_bytes_intact {events : List MakeEvent} {state : SendBufferManager}
    (fitting : ∀ event ∈ events, Fitting event) (ran : system.run events fresh = some state) :
    state.crash = none ∧
    (∀ {index : Nat} {slot pc}, state.threads[index]? = some ⟨slot, pc⟩ → pc ≠ .idle →
      ∃ after, step (.run index) state = some after) ∧
    (∀ buffer ∈ state.buffers, buffer.referenced = true → ∃ chunk,
      state.chunks[buffer.owner]? = some chunk ∧ buffer.offset + buffer.writeSize ≤ chunkSize) ∧
    (∀ {first second : Nat} {left right}, first ≠ second → state.buffers[first]? = some left →
      state.buffers[second]? = some right → left.referenced = true → right.referenced = true →
      left.owner = right.owner → Apart left right) ∧
    (∀ thread ∈ state.threads, ∀ {packet again}, thread.pc = .reset packet again →
      ∃ chunk, thread.slot = some chunk ∧ Unread state.buffers chunk) ∧
    (∀ {later final}, (∀ event ∈ later, Fitting event) → system.run later state = some final →
      ∀ {index : Nat} {earlier now}, state.buffers[index]? = some earlier →
        final.buffers[index]? = some now →
      earlier.lifetime = .held → now.referenced = true →
      now = earlier ∧ final.bytes now = state.bytes earlier) := by
  obtain ⟨owned, _⟩ := run_owned fitting ran fresh_owned
  refine ⟨owned.sound, step_enabled owned, ?_, owned.memory.apart, ?_, ?_⟩
  · intro buffer member referenced
    obtain ⟨chunk, lookup, bound⟩ := owned.memory.inside buffer member referenced
    have used := owned.memory.used chunk (List.mem_of_getElem? lookup)
    exact ⟨chunk, lookup, bound.trans used⟩
  · intro thread member packet again resetting
    obtain ⟨stands, _⟩ := owned.stands thread member
    rw [resetting] at stands
    exact stands.2
  · intro later final fits reran index earlier now foundEarlier foundNow held referenced
    obtain ⟨_, keeps⟩ := run_owned fits reran owned
    obtain ⟨rfl, same⟩ := keeps.same foundEarlier foundNow (by simp [held]) referenced
    exact ⟨rfl, same⟩

/-- One thread makes two packets on one chunk, the first is released, another
thread starts a call. -/
theorem unsent_bytes_intact_after_release :
    let events : List MakeEvent := [.spawn, .spawn, .make 0 ⟨1001, [1, 2, 3]⟩,
      .run 0, .run 0, .run 0, .run 0, .run 0, .run 0, .run 0, .run 0, .run 0, .make 0 ⟨1014, []⟩,
      .run 0,
        .run 0, .run 0, .run 0,
      .run 0, .run 0, .release 1 0, .make 1 ⟨1014, []⟩, .run 1]
    ∃ state, system.run events fresh = some state ∧
      state.buffers = [⟨0, 0, 7, 7, .dropped⟩, ⟨0, 7, 4, 4, .held⟩] ∧ state.crash = none := by
  intro events
  have fitting : ∀ event ∈ events, Fitting event := by
    simp [events, Fitting, Packet.Fits, headerSize, chunkSize]
  exact ⟨_, rfl, rfl, (unsent_bytes_intact fitting rfl).1⟩

end SendBufferManager

end ChattingProgram.Core
