import Mathlib.Data.List.Nodup
import Mathlib.Logic.Function.Basic
import ChattingProgram.Protocol.PacketHandler

namespace ChattingProgram.Tools

/-! # The packet generator

`ProtoParser` reads the message names of a proto file and numbers them; the
template `PacketHandler.h` turns the result into the class that sends and
dispatches packets.  The generator runs once for each end, with the prefixes
exchanged.
-/

/-- The methods of `str` that the parser calls, apart from `startswith`. -/
structure Python where
  isspace : Char → Bool
  upper : List Char → List Char

/-- `str.split()`: the words between white space. -/
def Python.split (python : Python) (line : List Char) : List (List Char) :=
  (line.splitOnP python.isspace).filter fun word => !word.isEmpty

structure Packet where
  name : List Char
  id : Int
deriving Repr, DecidableEq

structure ProtoParser where
  recvPkt : List Packet
  sendPkt : List Packet
  totalPkt : List Packet
  startId : Int
  id : Int
  recvPrefix : List Char
  sendPrefix : List Char
deriving Repr, DecidableEq

namespace ProtoParser

def new (startId : Int) (recvPrefix sendPrefix : List Char) : ProtoParser :=
  ⟨[], [], [], startId, startId, recvPrefix, sendPrefix⟩

/-- The end of a turn of the loop: the packet is counted. -/
def count (self : ProtoParser) (pktName : List Char) : ProtoParser :=
  { self with totalPkt := self.totalPkt ++ [⟨pktName, self.id⟩], id := self.id + 1 }

def addPkt (self : ProtoParser) (pktName : List Char) : ProtoParser :=
  let pkt : Packet := ⟨pktName, self.id⟩
  if self.recvPrefix.isPrefixOf pktName then { self with
    recvPkt := self.recvPkt ++ [pkt] }.count pktName
  else if self.sendPrefix.isPrefixOf pktName then { self with
    sendPkt := self.sendPkt ++ [pkt] }.count pktName
  else self

/-- One line; `none` is the `IndexError` of a line with a single word. -/
def parseLine (python : Python) (self : ProtoParser) (line : List Char) : Option ProtoParser :=
  if "message".toList.isPrefixOf line = false then some self
  else ((python.split line)[1]?).map fun word => self.addPkt (python.upper word)

def parseProto (python : Python) (self : ProtoParser) (lines : List (List Char)) :
    Option ProtoParser :=
  lines.foldlM (parseLine python) self

/-! ## One run -/

structure Numbered (startId : Int) (parser : ProtoParser) : Prop where
  ids : parser.totalPkt.map Packet.id = (List.range parser.totalPkt.length).map fun index : Nat =>
    startId + index
  next : parser.id = startId + (parser.totalPkt.length : Int)
  split : (parser.recvPkt ++ parser.sendPkt).Perm parser.totalPkt

variable {python : Python} {self after : ProtoParser} {pktName : List Char} {startId : Int}

theorem numbered_new (startId : Int) (recvPrefix sendPrefix : List Char) :
    (new startId recvPrefix sendPrefix).Numbered startId where
  ids := rfl
  next := by simp [new]
  split := .refl _

/-- A packet is counted that one of the two lists has taken up. -/
theorem Numbered.count (numbered : self.Numbered startId) {recvPkt sendPkt : List Packet}
    (taken : (recvPkt ++ sendPkt).Perm (self.recvPkt ++ self.sendPkt ++ [⟨pktName, self.id⟩])) :
    ({ self with recvPkt := recvPkt, sendPkt := sendPkt }.count pktName).Numbered startId where
  ids := by
    simp only [ProtoParser.count, List.map_append, numbered.ids, List.map_cons, List.map_nil,
      List.length_append, List.length_singleton, List.range_succ, numbered.next]
  next := by
    simp only [ProtoParser.count, List.length_append, List.length_singleton, numbered.next]
    omega
  split := taken.trans (numbered.split.append_right _)

theorem Numbered.addPkt (numbered : self.Numbered startId) (pktName : List Char) :
    (self.addPkt pktName).Numbered startId := by
  simp only [ProtoParser.addPkt]
  split
  · refine numbered.count ?_
    rw [List.append_assoc, List.append_assoc]
    exact List.perm_append_comm.append_left _
  · split
    · refine numbered.count ?_
      rw [List.append_assoc]
    · exact numbered

theorem Numbered.parseLine (numbered : self.Numbered startId)
    (parsed : self.parseLine python line = some after) : after.Numbered startId := by
  simp only [ProtoParser.parseLine] at parsed
  split at parsed
  · cases parsed
    exact numbered
  · obtain ⟨word, _, rfl⟩ := Option.map_eq_some_iff.mp parsed
    exact numbered.addPkt _

theorem Numbered.parseProto (numbered : self.Numbered startId)
    (parsed : self.parseProto python lines = some after) : after.Numbered startId := by
  induction lines generalizing self with
  | nil =>
      cases parsed
      exact numbered
  | cons line rest ih =>
      obtain ⟨next, first, remaining⟩ := Option.bind_eq_some_iff.mp parsed
      exact ih (numbered.parseLine first) remaining

theorem Numbered.ids_nodup (numbered : self.Numbered startId) :
    (self.totalPkt.map Packet.id).Nodup := by
  rw [numbered.ids]
  refine List.nodup_range.map ?_
  intro first second same
  simp only at same
  omega

/-! ## Two runs with the prefixes exchanged -/

structure Mirrors (first second : ProtoParser) : Prop where
  recvPkt : second.recvPkt = first.sendPkt
  sendPkt : second.sendPkt = first.recvPkt
  totalPkt : second.totalPkt = first.totalPkt
  id : second.id = first.id
  recvPrefix : second.recvPrefix = first.sendPrefix
  sendPrefix : second.sendPrefix = first.recvPrefix

variable {first second : ProtoParser}

theorem addPkt_recvPrefix (self : ProtoParser) (pktName : List Char) :
    (self.addPkt pktName).recvPrefix = self.recvPrefix := by
  simp only [addPkt]
  split
  · rfl
  · split <;> rfl

theorem addPkt_sendPrefix (self : ProtoParser) (pktName : List Char) :
    (self.addPkt pktName).sendPrefix = self.sendPrefix := by
  simp only [addPkt]
  split
  · rfl
  · split <;> rfl

/-- No name starts with both prefixes, so the order of the two tests does not matter. -/
theorem Mirrors.addPkt (mirrors : first.Mirrors second)
    (forward : ¬ first.recvPrefix <+: first.sendPrefix)
    (backward : ¬ first.sendPrefix <+: first.recvPrefix) (pktName : List Char) :
    (first.addPkt pktName).Mirrors (second.addPkt pktName) := by
  have single : ¬ (first.recvPrefix.isPrefixOf pktName = true ∧
      first.sendPrefix.isPrefixOf pktName = true) := by
    rintro ⟨recv, send⟩
    rw [List.isPrefixOf_iff_prefix] at recv send
    rcases List.prefix_or_prefix_of_prefix recv send with within | within
    · exact forward within
    · exact backward within
  refine ⟨?_, ?_, ?_, ?_, ?_, ?_⟩
  case refine_5 => rw [addPkt_recvPrefix, addPkt_sendPrefix, mirrors.recvPrefix]
  case refine_6 => rw [addPkt_sendPrefix, addPkt_recvPrefix, mirrors.sendPrefix]
  all_goals
    simp only [ProtoParser.addPkt, mirrors.recvPrefix, mirrors.sendPrefix]
    by_cases recv : first.recvPrefix.isPrefixOf pktName = true
    · have send : ¬ first.sendPrefix.isPrefixOf pktName = true := fun send => single ⟨recv, send⟩
      simp [recv, send, count, mirrors.recvPkt, mirrors.sendPkt, mirrors.totalPkt, mirrors.id]
    · by_cases send : first.sendPrefix.isPrefixOf pktName = true
      · simp [recv, send, count, mirrors.recvPkt, mirrors.sendPkt, mirrors.totalPkt, mirrors.id]
      · simp [recv, send, mirrors.recvPkt, mirrors.sendPkt, mirrors.totalPkt, mirrors.id]

theorem Mirrors.parseLine (mirrors : first.Mirrors second)
    (forward : ¬ first.recvPrefix <+: first.sendPrefix)
    (backward : ¬ first.sendPrefix <+: first.recvPrefix)
    (parsed : first.parseLine python line = some after) :
    ∃ other, second.parseLine python line = some other ∧ after.Mirrors other ∧
      after.recvPrefix = first.recvPrefix ∧ after.sendPrefix = first.sendPrefix := by
  simp only [ProtoParser.parseLine] at parsed ⊢
  split at parsed
  · rename_i isOther
    cases parsed
    exact ⟨second, by rw [if_pos isOther], mirrors, rfl, rfl⟩
  · rename_i isMessage
    obtain ⟨word, found, rfl⟩ := Option.map_eq_some_iff.mp parsed
    refine ⟨second.addPkt (python.upper word), ?_, mirrors.addPkt forward backward _,
      addPkt_recvPrefix .., addPkt_sendPrefix ..⟩
    rw [if_neg isMessage, found, Option.map_some]

theorem Mirrors.parseProto (mirrors : first.Mirrors second)
    (forward : ¬ first.recvPrefix <+: first.sendPrefix)
    (backward : ¬ first.sendPrefix <+: first.recvPrefix)
    (parsed : first.parseProto python lines = some after) :
    ∃ other, second.parseProto python lines = some other ∧ after.Mirrors other := by
  induction lines generalizing first second with
  | nil =>
      cases parsed
      exact ⟨second, rfl, mirrors⟩
  | cons line rest ih =>
      obtain ⟨next, here, remaining⟩ := Option.bind_eq_some_iff.mp parsed
      obtain ⟨otherNext, otherHere, nextMirrors, recv, send⟩ :=
        mirrors.parseLine forward backward here
      obtain ⟨other, otherRest, finish⟩ :=
        ih nextMirrors (by rwa [recv, send]) (by rwa [recv, send]) remaining
      exact ⟨other, Option.bind_eq_some_iff.mpr ⟨otherNext, otherHere, otherRest⟩, finish⟩

end ProtoParser

/-! ## The generated class -/

/-- An entry of `GPacketHandler`. -/
inductive Entry where
  | invald
  | handle (name : List Char)
deriving Repr, DecidableEq

/-- What the template takes from the parser: the enumerators `PKT_*`, the handlers that
`Init` assigns, and the overloads of `MakeSendBuffer`. -/
structure Generated where
  enumerators : List Packet
  handlers : List Packet
  overloads : List Packet
deriving Repr, DecidableEq

def ProtoParser.render (self : ProtoParser) : Generated :=
  ⟨self.totalPkt, self.recvPkt, self.sendPkt⟩

namespace Generated

/-- The value of the enumerator of a name. -/
def pkt (self : Generated) (name : List Char) : Option Int :=
  (self.enumerators.find? fun enumerator => enumerator.name = name).map Packet.id

def assign (self : Generated) (table : Int → Option Entry) (handler : Packet) : Int →
    Option Entry :=
  match self.pkt handler.name with
  | none => table
  | some index => Function.update table index (some (.handle handler.name))

def init (self : Generated) : Int → Option Entry :=
  self.handlers.foldl self.assign (Function.update (fun _ => none) 0 (some .invald))

/-- The entries that `Init` assigns. -/
def indices (self : Generated) : List Int := 0 :: self.handlers.filterMap fun handler =>
  self.pkt handler.name

/-- `Init` does not write beyond `GPacketHandler`. -/
def InBounds (self : Generated) : Prop := ∀ index ∈ self.indices, 0 ≤ index ∧
  index < Protocol.tableSize

variable {self : Generated} {name other : List Char} {index : Int}

theorem exists_of_pkt (found : self.pkt name = some index) :
    ∃ enumerator ∈ self.enumerators, enumerator.name = name ∧ enumerator.id = index := by
  obtain ⟨enumerator, here, same⟩ := Option.map_eq_some_iff.mp found
  have named := List.find?_some here
  exact ⟨enumerator, List.mem_of_find?_eq_some here, of_decide_eq_true named, same⟩

theorem pkt_of_mem (member : enumerator ∈ self.enumerators) :
    ∃ index, self.pkt enumerator.name = some index := by
  have present : (self.enumerators.find? fun other => other.name = enumerator.name).isSome =
      true := by
    rw [List.find?_isSome]
    exact ⟨enumerator, member, decide_eq_true rfl⟩
  obtain ⟨found, here⟩ := Option.isSome_iff_exists.mp present
  exact ⟨found.id, by rw [pkt, here, Option.map_some]⟩

/-- With the names distinct, as the compiler demands, an enumerator has the id of its packet. -/
theorem pkt_of_nodup (distinct : (self.enumerators.map Packet.name).Nodup)
    (member : enumerator ∈ self.enumerators) : self.pkt enumerator.name = some enumerator.id := by
  obtain ⟨index, found⟩ := pkt_of_mem member
  obtain ⟨other, otherMember, named, rfl⟩ := exists_of_pkt found
  cases List.inj_on_of_nodup_map distinct otherMember member named
  exact found

theorem pkt_injective (distinct : (self.enumerators.map Packet.id).Nodup)
    (left : self.pkt name = some index) (right : self.pkt other = some index) : name = other := by
  obtain ⟨first, firstMember, rfl, same⟩ := exists_of_pkt left
  obtain ⟨second, secondMember, rfl, rfl⟩ := exists_of_pkt right
  rw [List.inj_on_of_nodup_map distinct firstMember secondMember same]

theorem foldl_assign (distinct : (self.enumerators.map Packet.id).Nodup)
    (found : self.pkt name = some index) {handlers : List Packet} {table : Int → Option Entry}
    (handled : name ∈ handlers.map Packet.name ∨ table index = some (.handle name)) :
    handlers.foldl self.assign table index = some (.handle name) := by
  induction handlers generalizing table with
  | nil => simpa using handled
  | cons head rest ih =>
      rw [List.foldl_cons]
      apply ih
      cases value : self.pkt head.name with
      | none =>
          have apart : name ≠ head.name := by
            rintro rfl
            rw [found] at value
            contradiction
          simp only [assign, value]
          rcases handled with member | stored
          · exact .inl ((List.mem_cons.mp member).resolve_left apart)
          · exact .inr stored
      | some place =>
          simp only [assign, value]
          by_cases here : place = index
          · subst here
            right
            rw [Function.update_self, pkt_injective distinct found value]
          · rcases handled with member | stored
            · refine .inl ((List.mem_cons.mp member).resolve_left ?_)
              rintro rfl
              rw [found] at value
              exact here (Option.some.inj value).symm
            · exact .inr ((Function.update_of_ne (Ne.symm here) ..).trans stored)

theorem inBounds_of_ids
    (ids : ∀ enumerator ∈ self.enumerators, 0 ≤ enumerator.id ∧
      enumerator.id < Protocol.tableSize) :
    self.InBounds := by
  intro index member
  rcases List.mem_cons.mp member with rfl | member
  · decide
  · obtain ⟨handler, _, found⟩ := List.mem_filterMap.mp member
    obtain ⟨enumerator, enumerated, _, rfl⟩ := exists_of_pkt found
    exact ids enumerator enumerated

/-- What one class sends, a class with the same enumerators dispatches. -/
theorem init_dispatches {sender receiver : Generated}
    (same : receiver.enumerators = sender.enumerators)
    (distinct : (sender.enumerators.map Packet.id).Nodup) (enumerated : sent ∈ sender.enumerators)
    (handled : sent ∈ receiver.handlers) :
    ∃ id, sender.pkt sent.name = some id ∧ receiver.init id = some (.handle sent.name) ∧
      ((sender.enumerators.map Packet.name).Nodup → id = sent.id) := by
  obtain ⟨index, found⟩ := pkt_of_mem enumerated
  refine ⟨index, found, foldl_assign (same ▸ distinct) ?_ (.inl (List.mem_map_of_mem handled)), ?_⟩
  · simpa only [pkt, same] using found
  · intro names
    exact Option.some.inj (found.symm.trans (pkt_of_nodup names enumerated))

end Generated

namespace ProtoParser

/-- The two runs of the generator number the packets alike, and what the one class sends
the other dispatches. -/
theorem generated_ids_agree (python : Python) (startId : Int) {p q : List Char}
    (forward : ¬ p <+: q) (backward : ¬ q <+: p) {lines : List (List Char)} {first : ProtoParser}
    (parsed : (new startId p q).parseProto python lines = some first) :
    ∃ second, (new startId q p).parseProto python lines = some second ∧
      second.totalPkt = first.totalPkt ∧ second.recvPkt = first.sendPkt ∧
        second.sendPkt = first.recvPkt ∧
      first.totalPkt.map Packet.id = ((List.range first.totalPkt.length).map fun index : Nat =>
        startId + index) ∧
      (first.recvPkt ++ first.sendPkt).Perm first.totalPkt ∧
        (∀ pkt ∈ first.recvPkt, pkt ∉ first.sendPkt) ∧
      (∀ sent ∈ first.render.overloads, ∃ id, first.render.pkt sent.name = some id ∧
        second.render.init id = some (.handle sent.name) ∧
          ((first.totalPkt.map Packet.name).Nodup → id = sent.id)) ∧
      (∀ sent ∈ second.render.overloads, ∃ id, second.render.pkt sent.name = some id ∧
        first.render.init id = some (.handle sent.name) ∧
          ((second.totalPkt.map Packet.name).Nodup → id = sent.id)) ∧
      (0 ≤ startId → startId + first.totalPkt.length ≤ Protocol.tableSize →
        first.render.InBounds ∧ second.render.InBounds) := by
  have start : (new startId p q).Mirrors (new startId q p) := ⟨rfl, rfl, rfl, rfl, rfl, rfl⟩
  obtain ⟨second, otherParsed, mirrors⟩ := start.parseProto forward backward parsed
  have numbered := (numbered_new startId p q).parseProto parsed
  have ids := numbered.ids_nodup
  have listed : (first.recvPkt ++ first.sendPkt).Nodup :=
    numbered.split.nodup_iff.mpr (List.Nodup.of_map _ ids)
  refine ⟨second, otherParsed, mirrors.totalPkt, mirrors.recvPkt, mirrors.sendPkt,
    numbered.ids, numbered.split, ?_, ?_, ?_, ?_⟩
  · intro pkt recv send
    exact List.disjoint_of_nodup_append listed recv send
  · intro sent member
    refine Generated.init_dispatches mirrors.totalPkt ids ?_ ?_
    · exact numbered.split.subset (List.mem_append_right _ member)
    · change sent ∈ second.recvPkt
      rw [mirrors.recvPkt]
      exact member
  · intro sent member
    change sent ∈ second.sendPkt at member
    rw [mirrors.sendPkt] at member
    have otherIds : (second.totalPkt.map Packet.id).Nodup := mirrors.totalPkt.symm ▸ ids
    refine Generated.init_dispatches mirrors.totalPkt.symm otherIds ?_ member
    change sent ∈ second.totalPkt
    rw [mirrors.totalPkt]
    exact numbered.split.subset (List.mem_append_left _ member)
  · intro positive small
    have within : ∀ pkt ∈ first.totalPkt, 0 ≤ pkt.id ∧ pkt.id < Protocol.tableSize := by
      intro pkt member
      have listed : pkt.id ∈ first.totalPkt.map Packet.id := List.mem_map_of_mem member
      rw [numbered.ids] at listed
      obtain ⟨place, below, same⟩ := List.mem_map.mp listed
      have inside := List.mem_range.mp below
      omega
    have otherWithin : ∀ pkt ∈ second.totalPkt, 0 ≤ pkt.id ∧ pkt.id < Protocol.tableSize := by
      rw [mirrors.totalPkt]
      exact within
    exact ⟨Generated.inBounds_of_ids within, Generated.inBounds_of_ids otherWithin⟩

/-- A file with four messages, one of them for neither end. -/
theorem generated_ids_agree_four_messages :
    let python : Python := ⟨fun char => char = ' ', List.map Char.toUpper⟩
    let lines := ["package Protocol;".toList, "message C_Login".toList,
      "message Shared \x7b".toList, "message S_Login \x7b".toList, " string id = 1;".toList,
      "message S_RoomOut".toList]
    ∃ first second, (new 1000 "C_".toList "S_".toList).parseProto python lines = some first ∧
      (new 1000 "S_".toList "C_".toList).parseProto python lines = some second ∧
      first.totalPkt = [⟨"C_LOGIN".toList, 1000⟩, ⟨"S_LOGIN".toList, 1001⟩,
      ⟨"S_ROOMOUT".toList, 1002⟩] ∧
      second.totalPkt = first.totalPkt ∧ second.recvPkt = first.sendPkt ∧
          second.render.InBounds := by
  intro python lines
  obtain ⟨first, parsed, total⟩ : ∃ first,
      (new 1000 "C_".toList "S_".toList).parseProto python lines = some first ∧
      first.totalPkt = [⟨"C_LOGIN".toList, 1000⟩, ⟨"S_LOGIN".toList, 1001⟩,
          ⟨"S_ROOMOUT".toList, 1002⟩] :=
    ⟨_, rfl, by decide⟩
  obtain ⟨second, otherParsed, same, recv, _, _, _, _, _, _, bounds⟩ :=
    generated_ids_agree python 1000 (by decide) (by decide) parsed
  exact ⟨first, second, parsed, otherParsed, total, same, recv,
    (bounds (by decide) (by rw [total]; decide)).2⟩

end ProtoParser

end ChattingProgram.Tools
